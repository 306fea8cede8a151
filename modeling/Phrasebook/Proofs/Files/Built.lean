import Phrasebook.Files.Format
import Phrasebook.Proofs.Outcome

/-!
# How readers build catalogs

Every reader starts from a catalog without entries and adds entries to it one after the other (`Built`). What all
of these entries have is known of the catalog that is read, whatever the format (`all_catalog`), if the entries
that are made of values have it and whatever is said about an entry beside its text keeps it (`EntriesHave`).

So entries are plain: nothing keeps them from being changed, and each has a text or refers to another file, but not
both.

Only ARB files say which locale their texts belong to. Every other reader starts from a catalog that declares nothing, and
so ends with such a catalog (`Undeclared`).
-/

namespace Phrasebook

/-- An entry that can be changed, and does not have both a text and a file that it refers to. -/
structure Entry.IsPlain (e : Entry) : Prop where
  unlocked : e.isLocked = false
  apart : e.text = none ∨ e.reference = none

/-- **`e.Amended f`**: `f` is `e` with other things said about its text. -/
structure Entry.Amended (e f : Entry) : Prop where
  text : f.text = e.text
  escapedText : f.escapedText = e.escapedText
  reference : f.reference = e.reference
  hasPlaceholders : f.hasPlaceholders = e.hasPlaceholders
  isLocked : f.isLocked = e.isLocked

theorem Entry.Amended.refl (e : Entry) : e.Amended e := ⟨rfl, rfl, rfl, rfl, rfl⟩

theorem Entry.Amended.trans {e f g : Entry} (h : e.Amended f) (h' : f.Amended g) : e.Amended g :=
  ⟨h'.text.trans h.text, h'.escapedText.trans h.escapedText, h'.reference.trans h.reference,
    h'.hasPlaceholders.trans h.hasPlaceholders, h'.isLocked.trans h.isLocked⟩

variable {P : Entry → Prop}

/-- **`Built P start t`**: `t` comes of `start` by adding entries with the property `P`. -/
inductive Built (P : Entry → Prop) (start : Catalog) : Catalog → Prop
  | start : Built P start start
  | add {t : Catalog} {key : Text} {e : Entry} : Built P start t → P e → Built P start (t.add key e)

/-- A catalog whose entries all have a property. -/
def Catalog.All (P : Entry → Prop) (t : Catalog) : Prop := ∀ k e, Pairs.get? k t.entries = some e → P e

/-- A catalog whose entries are plain. -/
abbrev Catalog.IsPlain (t : Catalog) : Prop := t.All Entry.IsPlain

theorem all_ofLocale (P : Entry → Prop) (locale : Option Text) : (Catalog.ofLocale locale).All P := by
  intro k e h
  cases h

theorem Catalog.All.add {t : Catalog} (h : t.All P) {key : Text} {e : Entry} (he : P e) :
    (t.add key e).All P := by
  intro k f hf
  by_cases hk : k = key.fold
  · rw [hk] at hf
    obtain rfl : e = f := Option.some.inj ((Pairs.get?_put_self key.fold e t.entries).symm.trans hf)
    exact he
  · exact h k f ((Pairs.get?_put_of_ne hk e t.entries).symm.trans hf)

theorem Built.all {start t : Catalog} (h : Built P start t) (hstart : start.All P) : t.All P := by
  induction h with
  | start => exact hstart
  | add _ he ih => exact ih.add he

theorem Built.isBasic {start t : Catalog} (h : Built P start t) : t.isBasic = start.isBasic := by
  induction h with
  | start => rfl
  | add _ _ ih => exact ih

/-- A step that fails or adds such an entry goes on building. -/
theorem Built.of_add {start t t' : Catalog} (h : Built P start t) {o : Outcome Entry} {key : Text}
    (ho : ∀ e, o = .ok e → P e) (hadd : (o >>= fun e => pure (t.add key e)) = .ok t') :
    Built P start t' := by
  obtain ⟨e, he, hok⟩ := exists_of_bind hadd
  obtain rfl := Except.ok.inj hok
  exact h.add (ho e he)

namespace Files

/-- **`EntriesHave P o mode`**: the entries that are made of values have a property, and so do entries that say
nothing, and whatever is said about an entry keeps it. -/
structure EntriesHave (P : Entry → Prop) (o : Options) (mode : Mode) : Prop where
  made : ∀ {key text escapedText e}, makeEntry o mode key text escapedText = .ok e → P e
  blank : ∀ key, P (Entry.ofKey key)
  amended : ∀ {e f}, P e → e.Amended f → P f

variable {o : Options} {mode : Mode} {start t t' : Catalog} {e : Entry}

/-- **What is made of a value**: an entry that refers to a file, or one with the text, whose flag says whether
there are placeholders in what is stored. -/
theorem makeEntry_cases {key : Text} {text escapedText : Option Text}
    (h : makeEntry o mode key text escapedText = .ok e) :
    (∃ file, e = { Entry.ofKey key with reference := some file })
      ∨ ∃ stored flag, (∀ t, stored.or text = some t → Template.containsPlaceholders mode t = .ok flag)
        ∧ e = { Entry.ofKey key with text := text, escapedText := stored, hasPlaceholders := flag } := by
  unfold makeEntry at h
  split at h
  · obtain rfl := Except.ok.inj h
    exact .inl ⟨_, rfl⟩
  · dsimp only at h
    right
    split at h
    · next hnone =>
      obtain rfl := Except.ok.inj h
      refine ⟨_, false, fun t ht => ?_, rfl⟩
      rw [hnone] at ht
      cases ht
    · next hsome =>
      obtain ⟨flag, hflag, hok⟩ := exists_of_bind h
      obtain rfl := Except.ok.inj hok
      refine ⟨_, flag, fun t ht => ?_, rfl⟩
      obtain rfl := Option.some.inj (hsome.symm.trans ht)
      exact hflag

/-- **What readers make is plain.** -/
theorem entriesHave_isPlain (o : Options) (mode : Mode) : EntriesHave Entry.IsPlain o mode where
  made h := by
    rcases makeEntry_cases h with ⟨file, rfl⟩ | ⟨stored, flag, -, rfl⟩
    · exact ⟨rfl, .inl rfl⟩
    · exact ⟨rfl, .inr rfl⟩
  blank key := ⟨rfl, .inl rfl⟩
  amended {e f} he hf := by
    refine ⟨hf.isLocked.trans he.unlocked, ?_⟩
    rw [hf.text, hf.reference]
    exact he.apart

section Readers

variable (hP : EntriesHave P o mode)
include hP

namespace Dialect

theorem built_addItem (h : Built P start t) {i : Item} (hadd : addItem o mode t i = .ok t') :
    Built P start t' :=
  h.of_add (fun _ he => hP.made he) hadd

/-- What one item keeps, all items keep. -/
theorem built_foldItems {items : List Item} (h : Built P start t)
    (hfold : items.foldlM (addItem o mode) t = .ok t') : Built P start t' := by
  induction items generalizing t with
  | nil =>
      obtain rfl := Except.ok.inj hfold
      exact h
  | cons i rest ih =>
      rw [List.foldlM_cons] at hfold
      obtain ⟨t₁, hadd, hrest⟩ := exists_of_bind hfold
      exact ih (built_addItem hP h hadd) hrest

theorem built_catalog {d : Dialect} {text : Text} (h : d.catalog o mode text = .ok t) :
    Built P (.ofLocale none) t := by
  obtain ⟨doc, -, hfold⟩ := exists_of_bind h
  exact built_foldItems hP .start hfold

end Dialect

namespace Nested

set_option linter.unusedSectionVars false in
mutual

/-- What is in an object is added entry by entry, at any depth. -/
theorem built_addMember {start t t' : Catalog} (key : Text) (h : Built P start t) (v : Json)
    (hadd : addMember o mode key t v = .ok t') : Built P start t' := by
  cases v with
  | text value =>
      rw [addMember] at hadd
      exact h.of_add (fun _ he => hP.made he) hadd
  | object members =>
      rw [addMember] at hadd
      exact built_addMembers key h members hadd
  | null | bool | int | double | array =>
      -- Values of other kinds are refused.
      simp [addMember] at hadd

theorem built_addMembers {start t t' : Catalog} (group : Text) (h : Built P start t)
    (members : List (Text × Json)) (hadd : addMembers o mode group t members = .ok t') :
    Built P start t' := by
  cases members with
  | nil =>
      rw [addMembers] at hadd
      obtain rfl := Except.ok.inj hadd
      exact h
  | cons member rest =>
      obtain ⟨name, v⟩ := member
      rw [addMembers] at hadd
      obtain ⟨t₁, hmember, hrest⟩ := exists_of_bind hadd
      exact built_addMembers group (built_addMember _ h v hmember) rest hrest

end

theorem built_catalog {text : Text} (h : catalog o mode text = .ok t) : Built P (.ofLocale none) t := by
  obtain ⟨members, -, hadd⟩ := exists_of_bind h
  exact built_addMembers hP [] .start members hadd

end Nested

namespace Resources

theorem built_addEntry (h : Built P start t) {r : Resource} (hadd : addEntry o mode t r = .ok t') :
    Built P start t' := by
  obtain ⟨e, he, hok⟩ := exists_of_bind hadd
  obtain rfl := Except.ok.inj hok
  exact h.add (hP.amended (hP.made he) ⟨rfl, rfl, rfl, rfl, rfl⟩)

theorem built_foldResources {resources : List Resource} {seen : List Text} (h : Built P start t)
    (hfold : foldResources (addEntry o mode) seen resources t = .ok t') : Built P start t' := by
  induction resources generalizing t seen with
  | nil =>
      obtain rfl := Except.ok.inj hfold
      exact h
  | cons r rest ih =>
      rw [foldResources] at hfold
      split at hfold
      · cases hfold
      · obtain ⟨t₁, hadd, hrest⟩ := exists_of_bind hfold
        exact ih (built_addEntry hP h hadd) hrest

theorem built_catalog {text : Text} (h : catalog o mode text = .ok t) : Built P (.ofLocale none) t := by
  obtain ⟨root, -, hfold⟩ := exists_of_bind h
  exact built_foldResources hP .start hfold

end Resources

namespace Table

theorem built_addEntry {h : Header} {column : Nat} (hu : Built P start t) {key : Text}
    {cells : List Text} (hadd : addEntry o mode h column t key cells = .ok t') : Built P start t' := by
  unfold addEntry at hadd
  dsimp only at hadd
  split at hadd
  · obtain rfl := Except.ok.inj hadd
    exact hu
  · obtain ⟨e, he, hok⟩ := exists_of_bind hadd
    obtain rfl := Except.ok.inj hok
    exact hu.add (hP.amended (hP.made he) ⟨rfl, rfl, rfl, rfl, rfl⟩)

theorem built_foldRows {h : Header} {column : Nat} {rows : List Row} {seen : List Text}
    (hu : Built P start t) (hfold : foldRows h (addEntry o mode h column) seen rows t = .ok t') :
    Built P start t' := by
  induction rows generalizing t seen with
  | nil =>
      obtain rfl := Except.ok.inj hfold
      exact hu
  | cons r rest ih =>
      rw [foldRows] at hfold
      obtain ⟨⟨key, cells⟩, -, hrow⟩ := exists_of_bind hfold
      obtain ⟨t₁, hadd, hrest⟩ := exists_of_bind hrow
      exact ih (built_addEntry hP hu hadd) hrest

theorem built_catalog {separator : CodePoint} {locale text : Text}
    (h : catalog o mode separator locale text = .ok (some t)) : Built P (.ofLocale none) t := by
  obtain ⟨table, -, hfound⟩ := exists_of_bind h
  cases table with
  | none => cases hfound
  | some table =>
      obtain ⟨header, rows⟩ := table
      dsimp only at hfound
      split at hfound
      · cases hfound
      · obtain ⟨t₁, hfold, hok⟩ := exists_of_bind hfound
        obtain rfl := Option.some.inj (Except.ok.inj hok)
        exact built_foldRows hP .start hfold

end Table

namespace Arb

omit hP

/-- What a field of a description is set to leaves what the entry has for a text alone. -/
theorem amended_describe? {field : Text} {set : Text → Entry → Entry} (h : describe? field = some set)
    (value : Text) (e : Entry) : e.Amended (set value e) := by
  unfold describe? at h
  repeat' split at h
  all_goals cases h
  all_goals exact ⟨rfl, rfl, rfl, rfl, rfl⟩

theorem amended_addProperty (name : Text) (v : Json) (e : Entry) : e.Amended (addProperty name v e) := by
  unfold addProperty
  dsimp only
  split
  · exact ⟨rfl, rfl, rfl, rfl, rfl⟩
  · exact .refl e

/-- Nothing that is said about an entry gives it a text, a reference or a lock. -/
theorem amended_applyMember (e : Entry) (name : Text) (v : Json) : e.Amended (applyMember e name v) := by
  unfold applyMember
  dsimp only
  split
  · next hfield => exact amended_describe? hfield _ e
  · split
    · exact ⟨rfl, rfl, rfl, rfl, rfl⟩
    · exact amended_addProperty name _ e
  · exact amended_addProperty name _ e

theorem amended_description (e : Entry) (description : List (Text × Json)) :
    e.Amended (description.foldl (fun e (name, v) => applyMember e name v) e) := by
  induction description generalizing e with
  | nil => exact .refl e
  | cons member rest ih => exact (amended_applyMember e member.1 member.2).trans (ih _)

include hP

theorem has_get? (h : t.All P) (key : Text) : P ((t.get? key).getD (Entry.ofKey key)) := by
  cases hget : t.get? key with
  | none => exact hP.blank key
  | some e => exact h _ e hget

theorem built_applyDescription (hstart : start.All P) (h : Built P start t) (key : Text)
    (description : List (Text × Json)) : Built P start (applyDescription key description t) :=
  h.add (hP.amended (has_get? hP (h.all hstart) key) (amended_description _ description))

theorem built_addText {group name value : Text} (h : Built P start t)
    (hadd : addText o mode group name value t = .ok t') : Built P start t' := by
  unfold addText at hadd
  dsimp only at hadd
  split at hadd
  · cases hadd
  · obtain ⟨e, he, hok⟩ := exists_of_bind hadd
    have hmade := hP.made he
    split at hok
    · obtain rfl := Except.ok.inj hok
      exact h.add (hP.amended hmade ⟨rfl, rfl, rfl, rfl, rfl⟩)
    · obtain rfl := Except.ok.inj hok
      exact h.add (hP.amended hmade ⟨rfl, rfl, rfl, rfl, rfl⟩)

theorem built_addTexts {group : Text} {members : List (Text × Json)} (h : Built P start t)
    (hadd : addTexts o mode group t members = .ok t') : Built P start t' := by
  induction members generalizing t with
  | nil =>
      rw [addTexts] at hadd
      obtain rfl := Except.ok.inj hadd
      exact h
  | cons member rest ih =>
      obtain ⟨name, v⟩ := member
      cases v with
      | text value =>
          rw [addTexts] at hadd
          dsimp only at hadd
          split at hadd
          · exact ih h hadd
          · obtain ⟨t₁, htext, hrest⟩ := exists_of_bind hadd
            exact ih (built_addText hP h htext) hrest
      | null | bool | int | double | array | object =>
          simp only [addTexts] at hadd
          exact ih h hadd

mutual

theorem built_addGroup {start t t' : Catalog} (hstart : start.All P) (group : Text) (h : Built P start t)
    (v : Json) (hadd : addGroup o mode group t v = .ok t') : Built P start t' := by
  cases v with
  | object members =>
      rw [addGroup] at hadd
      obtain ⟨t₁, htexts, hothers⟩ := exists_of_bind hadd
      exact built_addOthers hstart group (built_addTexts hP h htexts) members hothers
  | null | bool | int | double | array | text =>
      simp only [addGroup] at hadd
      obtain rfl := Except.ok.inj hadd
      exact h

theorem built_addOthers {start t t' : Catalog} (hstart : start.All P) (group : Text) (h : Built P start t)
    (members : List (Text × Json)) (hadd : addOthers o mode group t members = .ok t') :
    Built P start t' := by
  cases members with
  | nil =>
      rw [addOthers] at hadd
      obtain rfl := Except.ok.inj hadd
      exact h
  | cons member rest =>
      obtain ⟨name, v⟩ := member
      cases v with
      | text value =>
          simp only [addOthers] at hadd
          exact built_addOthers hstart group h rest hadd
      | object description =>
          simp only [addOthers] at hadd
          split at hadd
          · exact built_addOthers hstart group h rest hadd
          · split at hadd
            · split at hadd
              · have hdescribed := built_applyDescription hP hstart h
                  (Tree.join group (name.strip.drop 1)) description
                exact built_addOthers hstart group hdescribed rest hadd
              · exact built_addOthers hstart group h rest hadd
            · obtain ⟨t₁, hgroup, hrest⟩ := exists_of_bind hadd
              exact built_addOthers hstart group (built_addGroup hstart _ h _ hgroup) rest hrest
      | null | bool | int | double | array =>
          -- Members of other kinds are passed over or refused.
          simp only [addOthers] at hadd
          split at hadd
          · exact built_addOthers hstart group h rest hadd
          · cases hadd

end

omit hP in
/-- The properties of the file come without entries, and without a mark. -/
theorem header_spec {members : List (Text × Json)} (h : header members = .ok t) :
    t.entries = [] ∧ t.isBasic = false := by
  obtain ⟨locale, -, h⟩ := exists_of_bind h
  obtain ⟨context, -, h⟩ := exists_of_bind h
  obtain ⟨author, -, h⟩ := exists_of_bind h
  obtain ⟨modified, -, h⟩ := exists_of_bind h
  obtain rfl := Except.ok.inj h
  exact ⟨rfl, rfl⟩

theorem built_catalog {text : Text} (h : catalog o mode text = .ok t) :
    ∃ start : Catalog, start.entries = [] ∧ start.isBasic = false ∧ Built P start t := by
  obtain ⟨members, -, h⟩ := exists_of_bind h
  obtain ⟨start, hheader, hgroup⟩ := exists_of_bind h
  obtain ⟨hentries, hbasic⟩ := header_spec hheader
  have hstart : start.All P := by
    intro k e he
    rw [hentries] at he
    cases he
  exact ⟨start, hentries, hbasic, built_addGroup hP hstart [] .start _ hgroup⟩

end Arb

end Readers

namespace Format

/-- A catalog that a reader always gives. -/
theorem eq_of_map_some {x : Outcome Catalog} (h : x.map some = .ok (some t)) : x = .ok t := by
  cases x with
  | error e => cases h
  | ok t₁ =>
      obtain rfl := Option.some.inj (Except.ok.inj h)
      rfl

variable {f : Format} {content : Option Content} {locale : Text} {given : Option Mode}

/-- A catalog comes of a text that is not empty. -/
theorem exists_of_catalog (h : f.catalog o content locale given = .ok (some t)) :
    ∃ text, decodeNonempty content = .ok (some text)
      ∧ f.catalogOfText o locale (given.getD f.defaultMode) text = .ok (some t) := by
  obtain ⟨text, hdecode, hread⟩ := exists_of_bind h
  cases text with
  | none => cases hread
  | some text => exact ⟨text, hdecode, hread⟩

/-- **Every format but ARB starts from a catalog that says nothing.** -/
theorem built_catalog (hP : EntriesHave P o (given.getD f.defaultMode)) (hf : f ≠ arb)
    (h : f.catalog o content locale given = .ok (some t)) : Built P (.ofLocale none) t := by
  obtain ⟨text, -, hread⟩ := exists_of_catalog h
  cases f with
  | arb => exact absurd rfl hf
  | ini => exact Dialect.built_catalog hP (eq_of_map_some hread)
  | toml => exact Dialect.built_catalog hP (eq_of_map_some hread)
  | json => exact Nested.built_catalog hP (eq_of_map_some hread)
  | csv => exact Table.built_catalog hP hread
  | tsv => exact Table.built_catalog hP hread
  | resx => exact Resources.built_catalog hP (eq_of_map_some hread)

/-- **Every format starts from a catalog without entries and without a mark.** -/
theorem exists_built_catalog (hP : EntriesHave P o (given.getD f.defaultMode))
    (h : f.catalog o content locale given = .ok (some t)) :
    ∃ start : Catalog, start.entries = [] ∧ start.isBasic = false ∧ Built P start t := by
  by_cases hf : f = arb
  · subst hf
    obtain ⟨text, -, hread⟩ := exists_of_catalog h
    exact Arb.built_catalog hP (eq_of_map_some hread)
  · exact ⟨_, rfl, rfl, built_catalog hP hf h⟩

/-- **What the entries that are made of values have, every entry of a catalog that is read has**, whatever the
format. -/
theorem all_catalog (hP : EntriesHave P o (given.getD f.defaultMode))
    (h : f.catalog o content locale given = .ok (some t)) : t.All P := by
  obtain ⟨start, hentries, -, hbuilt⟩ := exists_built_catalog hP h
  refine hbuilt.all fun k e he => ?_
  rw [hentries] at he
  cases he

/-- **Every catalog that is read is plain**, whatever the format. -/
theorem isPlain_catalog (h : f.catalog o content locale given = .ok (some t)) : t.IsPlain :=
  all_catalog (entriesHave_isPlain o _) h

/-- **No file marks its catalog.** -/
theorem isBasic_catalog (h : f.catalog o content locale given = .ok (some t)) : t.isBasic = false := by
  obtain ⟨start, -, hbasic, hbuilt⟩ := exists_built_catalog (entriesHave_isPlain o _) h
  exact hbuilt.isBasic.trans hbasic

end Format

end Files

/-! ## Files that declare no locale -/

/-- A catalog that declares no locale and has not stood in for another one. -/
structure Undeclared (t : Catalog) : Prop where
  locale : t.locale = none
  isBasic : t.isBasic = false

theorem undeclared_ofLocale_none : Undeclared (.ofLocale none) := ⟨rfl, rfl⟩

/-- What starts undeclared stays undeclared. -/
theorem Built.undeclared {P : Entry → Prop} {start t : Catalog} (h : Built P start t) (hstart : Undeclared start) :
    Undeclared t := by
  induction h with
  | start => exact hstart
  | add _ _ ih => exact ⟨ih.locale, ih.isBasic⟩

/-- **No format but ARB declares a locale.** -/
theorem Files.Format.undeclared_catalog {o : Options} {f : Format} (hf : f ≠ arb) {t : Catalog}
    {content : Option Content} {locale : Text} {given : Option Mode}
    (h : f.catalog o content locale given = .ok (some t)) : Undeclared t :=
  (built_catalog (entriesHave_isPlain o _) hf h).undeclared undeclared_ofLocale_none

end Phrasebook
