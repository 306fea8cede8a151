import Phrasebook.Proofs.Files.ArbStatements

/-!
# The order of members in ARB files

Whoever reorders the members of an ARB document or of a group in it changes the order of what the document states and
nothing else (`Reordered.statementsOf`). What the statements come to does not depend on their order (`said_perm`), if no
key is described twice, and neither does the header (`header_reordered`). So the document is read to the same in any
order (`ofMembers_reordered`).
-/

namespace Phrasebook

/-- **`t.SaysSame t'`**: two catalogs say the same about their file, and have the same entries. -/
structure Catalog.SaysSame (t t' : Catalog) : Prop where
  locale : t.locale = t'.locale
  origin : t.origin = t'.origin
  isBasic : t.isBasic = t'.isBasic
  context : t.context = t'.context
  author : t.author = t'.author
  lastModified : t.lastModified = t'.lastModified
  customProperties : ∀ name, Pairs.get? name t.customProperties = Pairs.get? name t'.customProperties
  entries : ∀ key, Pairs.get? key t.entries = Pairs.get? key t'.entries

namespace Files.Arb

variable {o : Options} {mode : Mode} {t : Catalog} {l : List Statement} {start : Catalog}

/-! ## Other orders -/

/-- **`Reordered members members'`**: the members of a group, and those of the groups in it, in another order. What
starts with an at sign stays as it is. -/
inductive Reordered : List (Text × Json) → List (Text × Json) → Prop
  | nil : Reordered [] []
  | cons (member : Text × Json) {rest rest' : List (Text × Json)} : Reordered rest rest' →
      Reordered (member :: rest) (member :: rest')
  /-- A group in another order. -/
  | group {name : Text} {inner inner' rest rest' : List (Text × Json)} : name.strip.head? ≠ some atSign →
      Reordered inner inner' → Reordered rest rest' →
      Reordered ((name, .object inner) :: rest) ((name, .object inner') :: rest')
  | swap (member member' : Text × Json) (rest : List (Text × Json)) :
      Reordered (member :: member' :: rest) (member' :: member :: rest)
  | trans {members members' members'' : List (Text × Json)} : Reordered members members' →
      Reordered members' members'' → Reordered members members''

variable {members members' : List (Text × Json)}

theorem textsOf_cons (group : Text) (member : Text × Json) (rest : List (Text × Json)) :
    textsOf group (member :: rest) = textsOf group [member] ++ textsOf group rest :=
  List.filterMap_append (l := [member]) ..

theorem othersOf_cons (group : Text) (member : Text × Json) (rest : List (Text × Json)) :
    othersOf group (member :: rest) = othersOf group [member] ++ othersOf group rest := by
  obtain ⟨name, v⟩ := member
  cases v <;> simp [othersOf]

/-- What an inner group states. -/
theorem othersOf_group (group : Text) {name : Text} (h : name.strip.head? ≠ some atSign)
    (inner : List (Text × Json)) :
    othersOf group [(name, .object inner)] = statementsOf (Tree.join group name.strip) (.object inner) := by
  have hstarts : ¬Text.startsWith name.strip [atSign, atSign] = true := by
    rw [Text.startsWith_iff]
    rintro ⟨rest, hrest⟩
    rw [hrest] at h
    exact h rfl
  simp only [othersOf, List.append_nil]
  rw [if_neg hstarts, if_neg h]

/-- **Another order of the members is another order of what they state.** -/
theorem Reordered.perm (h : Reordered members members') (group : Text) :
    (textsOf group members).Perm (textsOf group members')
      ∧ (othersOf group members).Perm (othersOf group members') := by
  -- An inner group gives its own name to its members, hence for any group.
  induction h generalizing group with
  | nil => exact ⟨.refl _, .refl _⟩
  | @cons member rest rest' _ ih =>
      rw [textsOf_cons group member rest, textsOf_cons group member rest', othersOf_cons group member rest,
        othersOf_cons group member rest']
      exact ⟨(ih group).1.append_left _, (ih group).2.append_left _⟩
  | @group name inner inner' rest rest' hname _ _ ihinner ih =>
      rw [textsOf_cons group _ rest, textsOf_cons group _ rest', othersOf_cons group _ rest,
        othersOf_cons group _ rest', othersOf_group group hname, othersOf_group group hname]
      refine ⟨(ih group).1, List.Perm.append ?_ (ih group).2⟩
      rw [Arb.statementsOf, Arb.statementsOf]
      exact (ihinner _).1.append (ihinner _).2
  | swap member member' rest =>
      have hswap : ∀ a b c : List Statement, (a ++ (b ++ c)).Perm (b ++ (a ++ c)) := by
        intro a b c
        rw [← List.append_assoc, ← List.append_assoc]
        exact List.perm_append_comm.append_right c
      constructor
      · rw [textsOf_cons group member (member' :: rest), textsOf_cons group member' rest,
          textsOf_cons group member' (member :: rest), textsOf_cons group member rest]
        exact hswap _ _ _
      · rw [othersOf_cons group member (member' :: rest), othersOf_cons group member' rest,
          othersOf_cons group member' (member :: rest), othersOf_cons group member rest]
        exact hswap _ _ _
  | trans _ _ ih ih' => exact ⟨(ih group).1.trans (ih' group).1, (ih group).2.trans (ih' group).2⟩

theorem Reordered.statementsOf (h : Reordered members members') (group : Text) :
    (Arb.statementsOf group (.object members)).Perm (Arb.statementsOf group (.object members')) := by
  rw [Arb.statementsOf, Arb.statementsOf]
  exact (h.perm group).1.append (h.perm group).2

/-- Statements are as sound in any order. -/
theorem AreSound.perm {l l' : List Statement} (h : AreSound o mode l) (hperm : l.Perm l') : AreSound o mode l' where
  supported v key hmem := h.supported v key (hperm.mem_iff.mpr hmem)
  readable w hw := h.readable w ((hperm.filterMap _).mem_iff.mpr hw)
  nodup := ((hperm.filterMap _).map _).nodup_iff.mp h.nodup

/-- The one element with a key is found in any order. -/
theorem find?_perm {α : Type} {f : α → Text} {l l' : List α} (h : l.Perm l') (hl : (l.map f).Nodup) (key : Text) :
    l.find? (fun a => f a = key) = l'.find? (fun a => f a = key) := by
  induction h with
  | nil => rfl
  | cons a _ ih =>
      rw [List.find?_cons, List.find?_cons, ih (List.nodup_cons.mp hl).2]
  | swap a b rest =>
      -- At most one of both has the key.
      have hne : f b ≠ f a := fun h => (List.nodup_cons.mp hl).1 (by simp [h])
      rw [List.find?_cons, List.find?_cons, List.find?_cons, List.find?_cons]
      by_cases ha : f a = key
      · have hb : f b ≠ key := fun h => hne (h.trans ha.symm)
        simp [ha, hb]
      · simp [ha]
  | trans h _ ih ih' => exact (ih hl).trans (ih' ((h.map f).nodup_iff.mp hl))

/-- **What statements say does not depend on their order.** -/
theorem said_perm {l l' : List Statement} (h : l.Perm l') (htexts : ((texts l).map fun w => w.key.fold).Nodup)
    (hdescriptions : ((descriptions l).map fun d => d.1.fold).Nodup) (key : Text) :
    said o mode l key = said o mode l' key := by
  have htext : textAt? l key = textAt? l' key := find?_perm (h.filterMap _) htexts key
  have hdescription : descriptionAt? l key = descriptionAt? l' key := find?_perm (h.filterMap _) hdescriptions key
  rw [said, htext, hdescription, said]

/-! ## The header -/

/-- A member that starts with an at sign. -/
def isMarked (member : Text × Json) : Bool := decide (member.1.strip.head? = some atSign)

theorem Reordered.marked (h : Reordered members members') :
    (members.filter isMarked).Perm (members'.filter isMarked) := by
  induction h with
  | nil => exact .refl _
  | cons member _ ih =>
      rw [List.filter_cons, List.filter_cons]
      split
      · exact ih.cons member
      · exact ih
  | @group name inner inner' _ _ hname _ _ _ ih =>
      have hmark : ∀ members, isMarked (name, .object members) = false := fun _ => decide_eq_false hname
      rw [List.filter_cons_of_neg (by simp [hmark]), List.filter_cons_of_neg (by simp [hmark])]
      exact ih
  | swap member member' rest => exact (List.Perm.swap member' member rest).filter _
  | trans _ _ ih ih' => exact ih.trans ih'

theorem get?_filter_marked {name : Text} (h : name.strip.head? = some atSign) (members : List (Text × Json)) :
    Pairs.get? name (members.filter isMarked) = Pairs.get? name members := by
  induction members with
  | nil => rfl
  | cons member rest ih =>
      obtain ⟨other, v⟩ := member
      by_cases hmark : isMarked (other, v) = true
      · rw [List.filter_cons_of_pos hmark, Pairs.get?, Pairs.get?, ih]
      · have hne : other ≠ name := by
          rintro rfl
          exact hmark (decide_eq_true h)
        rw [List.filter_cons_of_neg hmark, Pairs.get?, if_neg hne, ih]

/-- A name that starts with what is not white space starts with it when it is stripped. -/
theorem head?_strip {c : CodePoint} (hc : c.isBlank = false) (t : Text) : (Text.strip (c :: t)).head? = some c := by
  have hstart : Text.stripStart (c :: t) = c :: t := Text.stripStart_of_stops (Text.stops_cons.mpr hc)
  have hend : (c :: t).reverse.dropWhile CodePoint.isBlank = t.reverse.dropWhile CodePoint.isBlank ++ [c] := by
    rw [List.reverse_cons]
    exact Text.dropWhile_append_of_stops _ (Text.stops_cons.mpr hc)
  rw [Text.strip, hstart, Text.stripEnd, Text.stripStart, hend, List.reverse_append]
  rfl

theorem isBlank_atSign : atSign.isBlank = false := by decide +kernel

/-- The name of a custom property, and its value. -/
def customProperty? (member : Text × Json) : Option (Text × Json) :=
  ((Text.dropLead? customLead member.1).filter fun rest => !rest.isEmpty).map fun rest => (rest, member.2)

theorem customProperty?_eq {member property : Text × Json} (h : customProperty? member = some property) :
    member = (customLead ++ property.1, property.2) ∧ isMarked member = true := by
  obtain ⟨rest, hrest, rfl⟩ := Option.map_eq_some_iff.mp h
  obtain ⟨hlead, -⟩ := Option.filter_eq_some_iff.mp hrest
  have hname : member.1 = customLead ++ rest := Text.eq_of_dropLead? hlead
  refine ⟨Prod.ext hname rfl, decide_eq_true ?_⟩
  rw [hname]
  exact head?_strip isBlank_atSign _

theorem headerText_reordered (h : Reordered members members') (hnames : (members.map Prod.fst).Nodup) (key : Text)
    (hkey : key.strip.head? = some atSign) : headerText members key = headerText members' key := by
  have hget : Pairs.get? key members = Pairs.get? key members' := by
    rw [← get?_filter_marked hkey members, ← get?_filter_marked hkey members']
    exact Pairs.get?_perm h.marked (hnames.sublist (List.filter_sublist.map _)) key
  rw [headerText, hget, headerText]

theorem headerText_error {key : Text} {f : Failure} (h : headerText members key = .error f) :
    f.isAboutFile = true := by
  unfold headerText at h
  split at h
  · cases h
  · cases h
  · cases h
  · obtain rfl := Except.error.inj h
    rfl

/-- Only members that start with an at sign are custom properties. -/
theorem filterMap_customProperty_marked (members : List (Text × Json)) :
    members.filterMap customProperty? = (members.filter isMarked).filterMap customProperty? := by
  rw [List.filterMap_filter]
  refine List.filterMap_congr fun member _ => ?_
  split
  · rfl
  · next hmark => exact Option.eq_none_iff_forall_ne_some.mpr fun p hp => hmark (customProperty?_eq hp).2

/-- The names of the custom properties, with what they start with in the document, are among the names of members. -/
theorem customProperty_sublist (members : List (Text × Json)) :
    ((Pairs.keys (members.filterMap customProperty?)).map fun name => customLead ++ name).Sublist
      (members.map Prod.fst) := by
  induction members with
  | nil => exact .slnil
  | cons member rest ih =>
      rw [List.filterMap_cons, List.map_cons]
      cases hp : customProperty? member with
      | none => exact ih.cons _
      | some p =>
          have hname : member.1 = customLead ++ p.1 := congrArg Prod.fst (customProperty?_eq hp).1
          rw [hname]
          exact ih.cons_cons _

theorem customProperties_reordered (h : Reordered members members') (hnames : (members.map Prod.fst).Nodup)
    (name : Text) :
    Pairs.get? name (customProperties members) = Pairs.get? name (customProperties members') := by
  have hperm : (members.filterMap customProperty?).Perm (members'.filterMap customProperty?) := by
    rw [filterMap_customProperty_marked members, filterMap_customProperty_marked members']
    exact h.marked.filterMap _
  -- The names differ, so they still do without what they all start with.
  have hkeys : (Pairs.keys (members.filterMap customProperty?)).Nodup :=
    (hnames.sublist (customProperty_sublist members)).of_map
  have hkeys' : (Pairs.keys (members'.filterMap customProperty?)).Nodup := (hperm.map _).nodup_iff.mp hkeys
  show Pairs.get? name (Pairs.ofList (members.filterMap customProperty?))
    = Pairs.get? name (Pairs.ofList (members'.filterMap customProperty?))
  rw [Pairs.get?_ofList hkeys, Pairs.get?_ofList hkeys', Pairs.get?_perm hperm hkeys]

/-- **The header says the same in any order**, but for the order of the properties. -/
theorem header_reordered (h : Reordered members members') (hnames : (members.map Prod.fst).Nodup) :
    header members'
      = (header members).map fun t => { t with customProperties := customProperties members' } := by
  have hlocale := headerText_reordered h hnames "@@locale" (by decide +kernel)
  have hcontext := headerText_reordered h hnames "@@context" (by decide +kernel)
  have hauthor := headerText_reordered h hnames "@@author" (by decide +kernel)
  have hmodified := headerText_reordered h hnames "@@last_modified" (by decide +kernel)
  unfold header
  rw [← hlocale, ← hcontext, ← hauthor, ← hmodified]
  -- The first of the four that cannot be read is what the header fails with.
  cases headerText members "@@locale" with
  | error f => rfl
  | ok locale =>
      cases headerText members "@@context" with
      | error f => rfl
      | ok context =>
          cases headerText members "@@author" with
          | error f => rfl
          | ok author => cases headerText members "@@last_modified" <;> rfl

theorem customProperties_header (h : header members = .ok t) : t.customProperties = customProperties members := by
  obtain ⟨locale, -, h⟩ := exists_of_bind h
  obtain ⟨context, -, h⟩ := exists_of_bind h
  obtain ⟨author, -, h⟩ := exists_of_bind h
  obtain ⟨modified, -, h⟩ := exists_of_bind h
  obtain rfl := Except.ok.inj h
  rfl

theorem header_error {f : Failure} (h : header members = .error f) : f.isAboutFile = true := by
  rcases failed_of_bind h with hlocale | ⟨locale, -, h⟩
  · exact headerText_error hlocale
  rcases failed_of_bind h with hcontext | ⟨context, -, h⟩
  · exact headerText_error hcontext
  rcases failed_of_bind h with hauthor | ⟨author, -, h⟩
  · exact headerText_error hauthor
  rcases failed_of_bind h with hmodified | ⟨modified, -, h⟩
  · exact headerText_error hmodified
  · cases h

/-! ## Documents -/

variable (o mode) in
/-- What a document comes to is what its statements come to. -/
theorem ofMembers_eq (members : List (Text × Json)) : ofMembers o mode members
    = header members >>= (Arb.statementsOf [] (.object members)).foldlM (perform o mode) :=
  bind_congr fun start => addGroup_eq [] start (.object members)

/-- The texts of a document, at any depth. -/
def textsIn (members : List (Text × Json)) : List Member := texts (Arb.statementsOf [] (.object members))

/-- The dotted keys that a document describes, at any depth. -/
def describedKeys (members : List (Text × Json)) : List Text :=
  (descriptions (Arb.statementsOf [] (.object members))).map Prod.fst

variable (o mode) in
/-- **What a document comes to.** -/
theorem ofMembers_cases (hdescribed : ((describedKeys members).map Text.fold).Nodup) :
    let l := Arb.statementsOf [] (.object members)
    (∃ f, ofMembers o mode members = .error f ∧ f.isAboutFile = true
        ∧ (AreSound o mode l → header members = .error f))
      ∨ ∃ start t, header members = .ok start ∧ ofMembers o mode members = .ok t ∧ AreSound o mode l
        ∧ Tells o mode start l t := by
  intro l
  rw [ofMembers_eq]
  cases hheader : header members with
  | error f => exact .inl ⟨f, rfl, header_error hheader, fun _ => rfl⟩
  | ok start =>
      have hkeys : ((descriptions l).map fun d => d.1.fold).Nodup := by
        rw [describedKeys, List.map_map] at hdescribed
        exact hdescribed
      rcases perform_all (header_spec hheader).1 l hkeys with ⟨f, hf, habout, hnot⟩ | ⟨t, ht, hsound, htells⟩
      · exact .inl ⟨f, hf, habout, fun hsound => absurd hsound hnot⟩
      · exact .inr ⟨start, t, rfl, ht, hsound, htells⟩

/-- Whether an entry has a text or refers to one. -/
def hasText (e : Entry) : Bool := e.text.isSome || e.reference.isSome

/-- The entries of a catalog with a text, under their keys and without what is said about them. -/
def stored (t : Catalog) : List (Text × Outcome Entry) :=
  (t.entries.filter fun p => hasText p.2).map fun p => (p.1, .ok (withDescription (Entry.ofKey []) p.2))

variable (o mode) in
/-- The entries that the texts of a document make, under the folded keys of the texts. -/
def written (members : List (Text × Json)) : List (Text × Outcome Entry) :=
  (textsIn members).map fun w => (w.key.fold, w.entry o mode)

theorem hasText_describe (members : List (Text × Json)) (e : Entry) :
    hasText (describe members e) = hasText e := by
  have h : e.Amended (describe members e) := amended_description e members
  rw [hasText, hasText, h.text, h.reference]

theorem Member.hasText_entry {w : Member} {e : Entry} (h : w.entry o mode = .ok e) : hasText e = true := by
  obtain ⟨e₁, hmade, hok⟩ := exists_of_bind h
  obtain rfl := Except.ok.inj hok
  rcases makeEntry_cases hmade with ⟨file, rfl⟩ | ⟨stored, flag, -, rfl⟩
  · exact Bool.or_true _
  · exact Bool.true_or _

/-- A text is what is found under its key. -/
theorem textAt?_self (hsound : AreSound o mode l) {w : Member} (hw : w ∈ texts l) :
    textAt? l w.key.fold = some w := by
  cases hfind : textAt? l w.key.fold with
  | none => exact absurd (decide_eq_true rfl) (List.find?_eq_none.mp hfind w hw)
  | some w' =>
      obtain ⟨hw', hkey⟩ := mem_of_textAt? hfind
      exact congrArg some (List.inj_on_of_nodup_map hsound.nodup hw' hw hkey)

theorem mem_stored (hnodup : (Pairs.keys t.entries).Nodup) {key : Text} {x : Outcome Entry} :
    (key, x) ∈ stored t ↔ ∃ e, Pairs.get? key t.entries = some e ∧ hasText e = true
      ∧ x = .ok (withDescription (Entry.ofKey []) e) := by
  rw [stored, List.mem_map]
  constructor
  · rintro ⟨⟨k, e⟩, he, hpair⟩
    obtain ⟨rfl, rfl⟩ := Prod.mk.inj hpair
    obtain ⟨hentry, htext⟩ := List.mem_filter.mp he
    exact ⟨e, (Pairs.get?_eq_some_iff hnodup).mpr hentry, htext, rfl⟩
  · rintro ⟨e, hget, htext, rfl⟩
    exact ⟨(key, e), List.mem_filter.mpr ⟨(Pairs.get?_eq_some_iff hnodup).mp hget, htext⟩, rfl⟩

/-- **The entries with a text are those of the texts**, one for each. -/
theorem stored_perm (hsound : AreSound o mode l) (htells : Tells o mode start l t) :
    (stored t).Perm ((texts l).map fun w => (w.key.fold, w.entry o mode)) := by
  have hstored : (stored t).Nodup := by
    have hkeys : ((stored t).map Prod.fst).Nodup := by
      rw [stored, List.map_map]
      exact htells.nodup.sublist (List.filter_sublist.map _)
    exact hkeys.of_map
  have hwritten : ((texts l).map fun w => (w.key.fold, w.entry o mode)).Nodup := by
    have hkeys := hsound.nodup
    rw [show (fun w : Member => w.key.fold) = Prod.fst ∘ fun w => (w.key.fold, w.entry o mode) from rfl,
      ← List.map_map] at hkeys
    exact hkeys.of_map
  -- Neither has anything twice, so it is enough that they have the same elements.
  rw [List.perm_ext_iff_of_nodup hstored hwritten]
  rintro ⟨key, entry⟩
  rw [mem_stored htells.nodup]
  constructor
  · rintro ⟨e, hget, htext, rfl⟩
    have hsaid : said o mode l key = some e := (htells.entries key).symm.trans hget
    cases hat : textAt? l key with
    | none =>
        -- Without a text there is at most what was said about one.
        rw [said, hat] at hsaid
        obtain ⟨d, -, rfl⟩ := Option.map_eq_some_iff.mp hsaid
        rw [hasText_describe] at htext
        cases htext
    | some w =>
        obtain ⟨hw, hkey⟩ := mem_of_textAt? hat
        obtain ⟨e₁, he₁⟩ := hsound.readable w hw
        obtain rfl := Option.some.inj (hsaid.symm.trans (said_eq hat he₁))
        refine List.mem_map.mpr ⟨w, hw, ?_⟩
        rw [hkey, he₁, Member.undescribed he₁]
  · intro hmem
    obtain ⟨w, hw, hpair⟩ := List.mem_map.mp hmem
    obtain ⟨rfl, rfl⟩ := Prod.mk.inj hpair
    obtain ⟨e, he⟩ := hsound.readable w hw
    refine ⟨_, (htells.entries _).trans (said_eq (textAt?_self hsound hw) he), ?_, ?_⟩
    · rw [hasText_describe]
      exact Member.hasText_entry he
    · rw [he, Member.undescribed he]

/-- **`SameOutcome x x'`**: two readings are both refused because of what they read, or give catalogs that say the
same. -/
inductive SameOutcome : Outcome Catalog → Outcome Catalog → Prop
  | refused {f f' : Failure} : f.isAboutFile = true → f'.isAboutFile = true → SameOutcome (.error f) (.error f')
  | read {t t' : Catalog} : t.SaysSame t' → SameOutcome (.ok t) (.ok t')

section Reordering

variable (hdescribed : ((describedKeys members).map Text.fold).Nodup)
include hdescribed

/-- Documents in another order are both refused, or both read to the same. -/
theorem sameOutcome_of_reordered (hnames : (members.map Prod.fst).Nodup) (h : Reordered members members') :
    SameOutcome (ofMembers o mode members) (ofMembers o mode members') := by
  have hperm := h.statementsOf []
  have hdescribed' : ((describedKeys members').map Text.fold).Nodup :=
    (((hperm.filterMap _).map _).map _).nodup_iff.mp hdescribed
  have hheader := header_reordered h hnames
  rcases ofMembers_cases o mode hdescribed with
    ⟨f, hf, habout, hwhy⟩ | ⟨start, t, hstart, ht, hsound, htells⟩
  · rcases ofMembers_cases o mode hdescribed' with
      ⟨f', hf', habout', -⟩ | ⟨start', t', hstart', -, hsound', -⟩
    · rw [hf, hf']
      exact .refused habout habout'
    · -- What is sound in one order is sound in the other, and so only the header is left to blame.
      rw [hheader, hwhy (hsound'.perm hperm.symm)] at hstart'
      cases hstart'
  · rcases ofMembers_cases o mode hdescribed' with
      ⟨f', hf', -, hwhy'⟩ | ⟨start', t', hstart', ht', -, htells'⟩
    · have hbad := hwhy' (hsound.perm hperm)
      rw [hheader, hstart] at hbad
      cases hbad
    · rw [ht, ht']
      rw [hheader, hstart] at hstart'
      obtain rfl := Except.ok.inj hstart'
      rw [htells.header, htells'.header]
      refine .read ⟨rfl, rfl, rfl, rfl, rfl, rfl, fun name => ?_, fun key => ?_⟩
      · rw [customProperties_header hstart]
        exact customProperties_reordered h hnames name
      · refine (htells.entries key).trans (Eq.trans ?_ (htells'.entries key).symm)
        refine said_perm hperm hsound.nodup ?_ key
        rw [describedKeys, List.map_map] at hdescribed
        exact hdescribed

/-- What is read of a document has an entry for each text. -/
theorem stored_ofMembers (ht : ofMembers o mode members = .ok t) : (stored t).Perm (written o mode members) := by
  rcases ofMembers_cases o mode hdescribed with
    ⟨f, hf, -, -⟩ | ⟨start, t', -, ht', hsound, htells⟩
  · rw [hf] at ht
    cases ht
  · rw [ht'] at ht
    obtain rfl := Except.ok.inj ht
    exact stored_perm hsound htells

/-- A document with two texts of one key is refused. -/
theorem refused_of_clash (hclash : ¬((textsIn members).map fun w => w.key.fold).Nodup) :
    ∃ f, ofMembers o mode members = .error f ∧ f.isAboutFile = true := by
  rcases ofMembers_cases o mode hdescribed with
    ⟨f, hf, habout, -⟩ | ⟨start, t, -, -, hsound, -⟩
  · exact ⟨f, hf, habout⟩
  · exact absurd hsound.nodup hclash

end Reordering

/-- **The order of the members of an ARB document does not matter**, nor does that of the members of its groups, if no
key is described twice: the document is refused in every order, or its catalogs say the same. If it is read, its
entries with a text are those of its texts, one for each, and if two texts have one key, it is refused. -/
theorem ofMembers_reordered (o : Options) (mode : Mode) {members members' : List (Text × Json)}
    (hnames : (members.map Prod.fst).Nodup) (hdescribed : ((describedKeys members).map Text.fold).Nodup)
    (h : Reordered members members') :
    SameOutcome (ofMembers o mode members) (ofMembers o mode members')
      ∧ (∀ t, ofMembers o mode members = .ok t → (stored t).Perm (written o mode members))
      ∧ (¬((textsIn members).map fun w => w.key.fold).Nodup →
        ∃ f, ofMembers o mode members = .error f ∧ f.isAboutFile = true) :=
  ⟨sameOutcome_of_reordered hdescribed hnames h, fun _ ht => stored_ofMembers hdescribed ht,
    fun hclash => refused_of_clash hdescribed hclash⟩

/-- A description before its entry and outside its group, and an alias. -/
def menu : List (Text × Json) :=
  [("@Menu.open", .object [("description", .text "Opens a file")]),
    ("menu", .object [("open", .text "Open"), ("shut@close", .text "Shut")])]

/-- The same with the members of the document and those of the group the other way round. -/
def menuReordered : List (Text × Json) :=
  [("menu", .object [("shut@close", .text "Shut"), ("open", .text "Open")]),
    ("@Menu.open", .object [("description", .text "Opens a file")])]

theorem ofMembers_reordered_menu :
    SameOutcome (ofMembers .standard .arb menu) (ofMembers .standard .arb menuReordered)
      ∧ (∀ t, ofMembers .standard .arb menu = .ok t → (stored t).Perm (written .standard .arb menu))
      ∧ (textsIn menu).map Member.key = [Text.ofString "menu.open", Text.ofString "menu.shut"]
      ∧ (ofMembers .standard .arb menu).isOk = true := by
  have h : Reordered menu menuReordered :=
    .trans (.cons _ (.group (by decide +kernel) (.swap _ _ _) .nil)) (.swap _ _ _)
  obtain ⟨hsame, hstored, -⟩ := ofMembers_reordered .standard .arb (by decide +kernel) (by decide +kernel) h
  exact ⟨hsame, hstored, by decide +kernel, by decide +kernel⟩

end Files.Arb

end Phrasebook
