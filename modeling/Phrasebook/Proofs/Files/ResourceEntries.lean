import Mathlib.Data.List.Nodup
import Phrasebook.Proofs.Files.Views

/-!
# The entries of a resource file

A resource file whose texts are taken as they stand. Of its root only children that are `data` elements with a name
matter, and of these only some, by their type: those without a type and those whose type is that of strings
(`strings`), but also those whose type is the beginning of the name of that type (`HasCutType`). Every such element
becomes one entry, in order, unless two of them have the same name (`Format.resx_catalog_of_root`). So the file is read
as its strings exactly if it has no named element with such a cut type, or two of its strings have the same name.
-/

namespace Phrasebook.Files

namespace Resources

open Xml

/-! ## Which elements are read -/

/-- An element without a type, or of the type of strings. -/
def IsString (d : Element) : Prop := ∀ t ∈ d.attribute? "type", t = stringType

/-- An element whose type is a proper beginning of the name of the type of strings. -/
def HasCutType (d : Element) : Prop := ∃ t ∈ d.attribute? "type", t <+: stringType ∧ t ≠ stringType

/-- An element with a name that is not blank. -/
def IsNamed (d : Element) : Prop := nameOf d ≠ []

instance : DecidablePred IsString := fun d => inferInstanceAs (Decidable (∀ t ∈ d.attribute? "type", t = stringType))

instance : DecidablePred HasCutType := fun d =>
  inferInstanceAs (Decidable (∃ t ∈ d.attribute? "type", t <+: stringType ∧ t ≠ stringType))

instance : DecidablePred IsNamed := fun d => inferInstanceAs (Decidable (nameOf d ≠ []))

/-- The string resources of a document. -/
def strings (e : Element) : List Element := (e.childrenNamed "data").filter fun d => IsNamed d ∧ IsString d

/-- The elements of a document that are read. -/
def accepted (e : Element) : List Element :=
  (e.childrenNamed "data").filter fun d => IsNamed d ∧ (IsString d ∨ HasCutType d)

variable {e d : Element}

theorem startsWith_stringType {t : Text} : Text.startsWith stringType t = true ↔ t <+: stringType := by
  rw [Text.startsWith_iff]
  constructor
  · rintro ⟨rest, heq⟩
    exact ⟨rest, heq.symm⟩
  · rintro ⟨rest, heq⟩
    exact ⟨rest, heq.symm⟩

/-- A shorter form of the name of the type will do. -/
theorem isString_or_hasCutType_iff : IsString d ∨ HasCutType d ↔ ∀ t ∈ d.attribute? "type", t <+: stringType := by
  unfold IsString HasCutType
  cases d.attribute? "type" with
  | none => simp
  | some t =>
      constructor
      · rintro (hstring | ⟨t', ht', hcut, -⟩)
        · intro t' ht'
          obtain rfl := hstring t' ht'
          exact List.prefix_refl stringType
        · obtain rfl := Option.some.inj ht'
          intro t'' ht''
          obtain rfl := Option.some.inj ht''
          exact hcut
      · intro hbegins
        by_cases heq : t = stringType
        · left
          intro t' ht'
          rw [← Option.some.inj ht', heq]
        · exact .inr ⟨t, rfl, hbegins t rfl, heq⟩

theorem isResource_iff : isResource d = true ↔ IsNamed d ∧ (IsString d ∨ HasCutType d) := by
  have hname : (!(nameOf d).isEmpty) = true ↔ IsNamed d := by
    rw [Bool.not_eq_true', Bool.eq_false_iff, ne_eq, List.isEmpty_iff]
    rfl
  have htype : ((d.attribute? "type").all fun t => Text.startsWith stringType t) = true
      ↔ ∀ t ∈ d.attribute? "type", t <+: stringType := by
    cases d.attribute? "type" with
    | none => simp
    | some t =>
        rw [Option.all_some, startsWith_stringType]
        exact ⟨fun h t' ht' => Option.some.inj ht' ▸ h, fun h => h t rfl⟩
  rw [isResource, Bool.and_eq_true, hname, htype, isString_or_hasCutType_iff, and_comm]

theorem resources_eq (e : Element) : resources e = (accepted e).map Resource.ofElement := by
  have hfilter : (e.childrenNamed "data").filter isResource = accepted e :=
    List.filter_congr fun d _ => by rw [Bool.eq_iff_iff, isResource_iff, decide_eq_true_eq]
  rw [resources, hfilter]

theorem strings_sublist (e : Element) : (strings e).Sublist (accepted e) :=
  List.monotone_filter_right _ fun d hd => by
    rw [decide_eq_true_eq] at hd ⊢
    exact ⟨hd.1, .inl hd.2⟩

/-- **Nothing but elements with a cut type is read beside the strings.** -/
theorem accepted_eq_strings_iff :
    accepted e = strings e ↔ ∀ d ∈ e.childrenNamed "data", IsNamed d → ¬HasCutType d := by
  constructor
  · intro heq d hd hnamed hcut
    have hmem : d ∈ accepted e := List.mem_filter.mpr ⟨hd, decide_eq_true ⟨hnamed, .inr hcut⟩⟩
    rw [heq] at hmem
    obtain ⟨-, hstring⟩ := of_decide_eq_true (List.mem_filter.mp hmem).2
    obtain ⟨t, ht, -, hne⟩ := hcut
    exact hne (hstring t ht)
  · intro hnone
    refine List.filter_congr fun d hd => decide_eq_decide.mpr ?_
    exact and_congr_right fun hnamed => or_iff_left (hnone d hd hnamed)

/-! ## What becomes of them -/

/-- The text of an element: that of its value, if it has one. Outer blanks count only if the element preserves them. -/
def valueOf (d : Element) : Option Text :=
  match d.child? "value" with
  | none => none
  | some v =>
    some (if d.attribute? spaceAttribute = some (Text.ofString "preserve") then v.text else v.text.strip)

/-- The comment in an element, unless it is blank. -/
def commentOf (d : Element) : Option Text :=
  match d.child? "comment" with
  | none => none
  | some c => if c.text.strip = [] then none else some c.text.strip

/-- The entry of an element. -/
def entryOf (d : Element) : Entry :=
  { Entry.ofKey (nameOf d) with
    text := valueOf d
    comments := commentOf d }

/-- The catalog of some elements. -/
def catalogOf (l : List Element) : Catalog :=
  { Catalog.ofLocale none with entries := l.map fun d => ((nameOf d).fold, entryOf d) }

/-- No two elements have the same name, letter case aside. -/
def AreApart (l : List Element) : Prop := (l.map fun d => (nameOf d).fold).Nodup

instance (l : List Element) : Decidable (AreApart l) := inferInstanceAs (Decidable (List.Nodup _))

/-- **`Reads l outcome`**: `outcome` is the catalog of the elements `l`, or a refusal if two of them have the same
name. -/
def Reads (l : List Element) (outcome : Outcome (Option Catalog)) : Prop :=
  if AreApart l then outcome = .ok (some (catalogOf l)) else ∃ message, outcome = .error (.content message)

section Plain

variable {o : Options} (ho : o.recognizeReferences = false)
include ho

theorem addEntry_plain (c : Catalog) (d : Element) :
    addEntry o .none c (.ofElement d) = .ok (c.add (nameOf d) (entryOf d)) := by
  have hplain : Plain o .none := ⟨ho, rfl⟩
  have hvalue : (Resource.ofElement d).value = valueOf d := by
    unfold Resource.ofElement valueOf
    cases d.child? "value" <;> rfl
  have hcomment : ((Resource.ofElement d).comment.filter fun c => !c.isEmpty) = commentOf d := by
    unfold Resource.ofElement commentOf childText
    dsimp only
    cases d.child? "comment" with
    | none => rfl
    | some c =>
        rw [Option.map_some, filter_some_text]
  unfold addEntry
  rw [hplain.makeEntry_text, hvalue, hcomment]
  rfl

/-- **Elements with different names become entries**, each in its place. -/
theorem foldResources_apart {l : List Element} {seen : List Text} {c : Catalog} (hapart : AreApart l)
    (hnew : ∀ d ∈ l, (nameOf d).fold ∉ seen) (hseen : ∀ k ∈ c.keys, k ∈ seen) :
    foldResources (addEntry o .none) seen (l.map .ofElement) c
      = .ok { c with entries := c.entries ++ l.map fun d => ((nameOf d).fold, entryOf d) } := by
  induction l generalizing seen c with
  | nil =>
      rw [List.map_nil, List.map_nil, List.append_nil]
      rfl
  | cons d rest ih =>
      obtain ⟨hname, hrest⟩ := List.nodup_cons.mp hapart
      have hd := hnew d List.mem_cons_self
      have hkeys := Catalog.keys_add_seen hseen (nameOf d) (entryOf d)
      -- The names after this one are new still, since no two of the elements share one.
      have hfresh : ∀ d' ∈ rest, (nameOf d').fold ∉ (nameOf d).fold :: seen := by
        intro d' hd' hmem
        rcases List.mem_cons.mp hmem with heq | hmem
        · exact hname (List.mem_map.mpr ⟨d', hd', heq⟩)
        · exact hnew d' (List.mem_cons_of_mem d hd') hmem
      rw [List.map_cons, foldResources]
      show (if (nameOf d).fold ∈ seen then _ else _) = _
      rw [if_neg hd, addEntry_plain ho]
      show foldResources (addEntry o .none) ((nameOf d).fold :: seen) (rest.map .ofElement)
        (c.add (nameOf d) (entryOf d)) = _
      rw [ih hrest hfresh hkeys, Catalog.add_new (fun hmem => hd (hseen _ hmem)), List.append_assoc]
      rfl

/-- **Elements with the same name are refused.** -/
theorem foldResources_same {l : List Element} {seen : List Text} {c : Catalog}
    (hsame : ¬(AreApart l ∧ ∀ d ∈ l, (nameOf d).fold ∉ seen)) :
    ∃ d ∈ l, foldResources (addEntry o .none) seen (l.map .ofElement) c
      = .error (.content ("Duplicate key '" ++ nameOf d ++ "' specified in the translation file")) := by
  induction l generalizing seen c with
  | nil => exact absurd ⟨List.nodup_nil, by simp⟩ hsame
  | cons d rest ih =>
      rw [List.map_cons, foldResources]
      show ∃ d' ∈ d :: rest, (if (nameOf d).fold ∈ seen then _ else _) = _
      by_cases hd : (nameOf d).fold ∈ seen
      · exact ⟨d, List.mem_cons_self, if_pos hd⟩
      · have hrest : ¬(AreApart rest ∧ ∀ d' ∈ rest, (nameOf d').fold ∉ (nameOf d).fold :: seen) := by
          rintro ⟨hapart, hfresh⟩
          refine hsame ⟨List.nodup_cons.mpr ⟨fun hmem => ?_, hapart⟩, List.forall_mem_cons.mpr ⟨hd, fun d' hd' => ?_⟩⟩
          · obtain ⟨d', hd', heq⟩ := List.mem_map.mp hmem
            exact hfresh d' hd' (heq ▸ List.mem_cons_self)
          · exact fun hmem => hfresh d' hd' (List.mem_cons_of_mem _ hmem)
        obtain ⟨d', hd', hfold⟩ := ih (c := c.add (nameOf d) (entryOf d)) hrest
        refine ⟨d', List.mem_cons_of_mem d hd', ?_⟩
        rw [if_neg hd, addEntry_plain ho]
        exact hfold

end Plain

/-- **A document is read as the elements that are accepted**, whatever its root is. -/
theorem reads_accepted {o : Options} (ho : o.recognizeReferences = false) (e : Element) :
    Reads (accepted e) ((rootCatalog o .none e).map some) := by
  have hnew : ∀ d ∈ accepted e, (nameOf d).fold ∉ ([] : List Text) := fun _ _ => List.not_mem_nil
  unfold Reads rootCatalog
  rw [resources_eq]
  split
  · next hapart =>
    have hnone : ∀ k ∈ (Catalog.ofLocale none).keys, k ∈ ([] : List Text) := fun _ hk => hk
    rw [foldResources_apart ho hapart hnew hnone]
    rfl
  · next hsame =>
    have hsame : ¬(AreApart (accepted e) ∧ ∀ d ∈ accepted e, (nameOf d).fold ∉ ([] : List Text)) := fun h => hsame h.1
    obtain ⟨d, -, hfold⟩ := foldResources_same ho (c := .ofLocale none) hsame
    rw [hfold]
    exact ⟨_, rfl⟩

/-- An outcome is that of the accepted elements and of the strings at once only if these are the same, or two strings
have the same name. -/
theorem reads_strings_iff {outcome : Outcome (Option Catalog)} (h : Reads (accepted e) outcome) :
    Reads (strings e) outcome
      ↔ (∀ d ∈ e.childrenNamed "data", IsNamed d → ¬HasCutType d) ∨ ¬AreApart (strings e) := by
  rw [← accepted_eq_strings_iff]
  unfold Reads at h ⊢
  by_cases hstrings : AreApart (strings e)
  · rw [if_pos hstrings, or_iff_left (not_not_intro hstrings)]
    by_cases haccepted : AreApart (accepted e)
    · rw [if_pos haccepted] at h
      rw [h]
      constructor
      · intro hsame
        -- As many entries on both sides, and one of the lists is a part of the other.
        have hlength := congrArg (fun c : Catalog => c.entries.length)
          (Option.some.inj (Except.ok.inj hsame))
        simp only [catalogOf, List.length_map] at hlength
        exact ((strings_sublist e).eq_of_length hlength.symm).symm
      · intro heq
        rw [heq]
    · rw [if_neg haccepted] at h
      obtain ⟨message, h⟩ := h
      rw [h]
      constructor
      · intro hok
        cases hok
      · intro heq
        rw [heq] at haccepted
        exact absurd hstrings haccepted
  · rw [if_neg hstrings]
    refine iff_of_true ?_ (.inr hstrings)
    have haccepted : ¬AreApart (accepted e) := fun hapart =>
      hstrings (((strings_sublist e).map fun d => (nameOf d).fold).nodup hapart)
    rwa [if_neg haccepted] at h

end Resources

/-- **The entries of a resource file** whose texts are taken as they stand, by the root of its document. The named
elements that are strings, or have a cut type, become one entry each, in order, unless two of them have the same name, which
is refused; nothing else in the document counts. So the file is read as its strings exactly if no named element has a cut
type, or two of the strings have the same name. -/
theorem Format.resx_catalog_of_root {o : Options} (ho : o.recognizeReferences = false) (e : Xml.Element) :
    Resources.Reads (Resources.accepted e) ((Resources.rootCatalog o .none e).map some)
      ∧ (Resources.Reads (Resources.strings e) ((Resources.rootCatalog o .none e).map some)
        ↔ (∀ d ∈ e.childrenNamed "data", Resources.IsNamed d → ¬Resources.HasCutType d)
          ∨ ¬Resources.AreApart (Resources.strings e))
      ∧ ∀ {content : Option Content} {locale t : Text} {given : Option Mode},
        given.getD Format.resx.defaultMode = .none → decodeNonempty content = .ok (some t) → Resources.root t = .ok e →
          Format.resx.catalog o content locale given = (Resources.rootCatalog o .none e).map some := by
  have hreads := Resources.reads_accepted ho e
  refine ⟨hreads, Resources.reads_strings_iff hreads, fun hmode ht hroot => ?_⟩
  rw [Format.catalog_of_text ht, hmode]
  show (Resources.root _ >>= Resources.rootCatalog o .none).map some = _
  rw [hroot]
  rfl

/-- A document with two strings and an element of another type. -/
def stringsText : Text :=
  "<root><data name=\"a\" xml:space=\"preserve\"><value> x</value><comment>c</comment></data>"
    ++ "<data name=\"b\" type=\"Int\"/><data name=\"d\"/></root>"

theorem resx_catalog_of_stringsText :
    ∃ e c, Resources.root stringsText = .ok e
      ∧ Format.resx.catalog .standard (some (.text stringsText)) [] (some .none) = .ok (some c)
      ∧ c.entries.map (fun e => (e.1, e.2.text, e.2.comments))
        = [(Text.ofString "A", some (Text.ofString " x"), some (Text.ofString "c")), (Text.ofString "D", none, none)] := by
  have hroot : (Resources.root stringsText).toOption.map (fun e => decide (Resources.AreApart (Resources.accepted e)
      ∧ (Resources.catalogOf (Resources.accepted e)).entries.map (fun e => (e.1, e.2.text, e.2.comments))
        = [(Text.ofString "A", some (Text.ofString " x"), some (Text.ofString "c")), (Text.ofString "D", none, none)])) = some true := by
    decide +kernel
  obtain ⟨e, he, hsays⟩ := Option.map_eq_some_iff.mp hroot
  obtain ⟨hapart, hentries⟩ := of_decide_eq_true hsays
  have he : Resources.root stringsText = .ok e := ok_of_toOption he
  have htext : decodeNonempty (some (.text stringsText)) = .ok (some stringsText) :=
    decodeNonempty_text (by decide +kernel) (by decide +kernel)
  obtain ⟨hreads, -, hcatalog⟩ := Format.resx_catalog_of_root (o := .standard) rfl e
  rw [Resources.Reads, if_pos hapart] at hreads
  exact ⟨e, _, he, (hcatalog rfl htext he).trans hreads, hentries⟩

/-- An element whose type is cut short. -/
def cutTypeText : Text := "<root><data name=\"a\" type=\"System\"><value>x</value></data></root>"

/-- It is no string, and is read as one. -/
theorem resx_catalog_of_cutTypeText :
    ∃ e c, Resources.root cutTypeText = .ok e
      ∧ Format.resx.catalog .standard (some (.text cutTypeText)) [] (some .none) = .ok (some c)
      ∧ c.keys = [Text.ofString "A"] ∧ ¬Resources.Reads (Resources.strings e) (.ok (some c)) := by
  have hroot : (Resources.root cutTypeText).toOption.map (fun e => (Resources.strings e).length) = some 0 := by
    decide +kernel
  have hcatalog : (Format.resx.catalog .standard (some (.text cutTypeText)) [] (some .none)).toOption.join.any
      (fun c => decide (c.keys = [Text.ofString "A"])) = true := by decide +kernel
  obtain ⟨e, he, hlength⟩ := Option.map_eq_some_iff.mp hroot
  obtain ⟨c, hc, hkeys⟩ := exists_of_any hcatalog
  have hkeys : c.keys = [Text.ofString "A"] := of_decide_eq_true hkeys
  refine ⟨e, c, ok_of_toOption he, hc, hkeys, fun hreads => ?_⟩
  have hnone : Resources.strings e = [] := List.length_eq_zero_iff.mp hlength
  have hempty : Resources.AreApart [] := List.nodup_nil
  rw [hnone, Resources.Reads, if_pos hempty] at hreads
  rw [Option.some.inj (Except.ok.inj hreads)] at hkeys
  cases hkeys

end Phrasebook.Files
