import Mathlib.Data.List.Induction
import Phrasebook.Project
import Phrasebook.Proofs.Files.Built
import Phrasebook.Proofs.Pairs
import Phrasebook.Proofs.Text.Runs

/-!
# What ARB documents state

What an ARB document says, it says by statements: texts under dotted keys, descriptions of keys, and values of the
wrong kind (`statementsOf`). The reader performs them one after the other (`addGroup_eq`), and what comes of that is
known in closed form: it is refused unless all texts can be read and their keys differ (`AreSound`), and otherwise the
entry under a key is what the text and the description of this key say, whichever comes first (`said`). The induction
is over the statements that were performed so far (`perform_all`); it needs that no key is described twice, since of
two descriptions the later one prevails.
-/

namespace Phrasebook.Files.Arb

/-! ## Statements -/

/-- A text in a group of a document. -/
structure Member where
  group : Text
  /-- The name within the group, with the key that it is an alias of. -/
  name : Text
  value : Text

/-- The dotted key of a text. -/
def Member.key (w : Member) : Text := Tree.join w.group (splitAlias w.name).1

/-- The entry of a text that nothing is said about. -/
def Member.entry (o : Options) (mode : Mode) (w : Member) : Outcome Entry := do
  let (text, escapedText) := splitEscapes mode w.value
  let e ← makeEntry o mode w.key (some text) escapedText
  return { e with target := (splitAlias w.name).2 }

/-- What a member of a document states. -/
inductive Statement where
  | text (w : Member)
  | description (key : Text) (members : List (Text × Json))
  /-- A value of the wrong kind. -/
  | unsupported (v : Json) (key : Text)

/-- The catalog after a statement. -/
def perform (o : Options) (mode : Mode) (t : Catalog) : Statement → Outcome Catalog
  | .text w => addText o mode w.group w.name w.value t
  | .description key members => .ok (applyDescription key members t)
  | .unsupported v key => .error (Objects.unsupported v key)

/-- The texts among the members of a group. -/
def textsOf (group : Text) (members : List (Text × Json)) : List Statement :=
  members.filterMap fun (name, v) =>
    match v with
    | .text value =>
      if name.strip.head? = some atSign then none else some (.text ⟨group, name.strip, value⟩)
    | _ => none

mutual

/-- What a group states: its texts, and then its descriptions and inner groups. -/
def statementsOf (group : Text) : Json → List Statement
  | .object members => textsOf group members ++ othersOf group members
  | _ => []

/-- What the descriptions and inner groups among the members of a group state. -/
def othersOf (group : Text) : List (Text × Json) → List Statement
  | [] => []
  | (name, v) :: rest =>
    (match v with
      | .text _ => []
      | .object description =>
        if Text.startsWith name.strip [atSign, atSign] then []
        else if name.strip.head? = some atSign then
          if name.strip.length > 1 then
            [.description (Tree.join group (name.strip.drop 1)) description]
          else []
        else statementsOf (Tree.join group name.strip) v
      | _ =>
        if Text.startsWith name.strip [atSign, atSign] then []
        else [.unsupported v (Tree.join group name.strip)])
    ++ othersOf group rest

end

variable {o : Options} {mode : Mode}

theorem addTexts_eq (group : Text) (t : Catalog) (members : List (Text × Json)) :
    addTexts o mode group t members = (textsOf group members).foldlM (perform o mode) t := by
  induction members generalizing t with
  | nil => rfl
  | cons member rest ih =>
      obtain ⟨name, v⟩ := member
      cases v with
      | text value =>
          rw [addTexts, textsOf, List.filterMap_cons]
          by_cases hat : name.strip.head? = some atSign
          · simp only [hat, if_true]
            exact ih t
          · simp only [hat, if_false, List.foldlM_cons]
            exact bind_congr fun t₁ => ih t₁
      | null | bool | int | double | array | object =>
          simp only [addTexts]
          exact ih t

mutual

/-- **Reading a group is performing its statements.** -/
theorem addGroup_eq (group : Text) (t : Catalog) (v : Json) :
    addGroup o mode group t v = (statementsOf group v).foldlM (perform o mode) t := by
  cases v with
  | object members =>
      rw [addGroup, statementsOf, List.foldlM_append, addTexts_eq]
      exact bind_congr fun t₁ => addOthers_eq group t₁ members
  | null | bool | int | double | array | text => simp [addGroup, statementsOf]; rfl

theorem addOthers_eq (group : Text) (t : Catalog) (members : List (Text × Json)) :
    addOthers o mode group t members = (othersOf group members).foldlM (perform o mode) t := by
  cases members with
  | nil =>
      rw [addOthers, othersOf]
      rfl
  | cons member rest =>
      obtain ⟨name, v⟩ := member
      cases v with
      | text value =>
          simp only [addOthers, othersOf]
          exact addOthers_eq group t rest
      | object description =>
          simp only [addOthers, othersOf, List.foldlM_append]
          split
          · exact addOthers_eq group t rest
          · split
            · split
              · exact addOthers_eq group _ rest
              · exact addOthers_eq group t rest
            · rw [addGroup_eq (Tree.join group name.strip) t (.object description)]
              exact bind_congr fun t₁ => addOthers_eq group t₁ rest
      -- Any other value is refused, unless two at signs set its name apart.
      | null | bool | int | double | array =>
          simp only [addOthers, othersOf, List.foldlM_append]
          split
          · exact addOthers_eq group t rest
          · rfl

end

/-! ## What is said about an entry -/

/-- An entry with a description applied to it. -/
def describe (members : List (Text × Json)) (e : Entry) : Entry :=
  members.foldl (fun e (name, v) => applyMember e name v) e

theorem isEmpty_describe (members : List (Text × Json)) (e : Entry) :
    (describe members e).isEmpty = e.isEmpty := by
  have h : e.Amended (describe members e) := amended_description e members
  rw [Entry.isEmpty, Entry.isEmpty, h.text, h.escapedText, h.reference]

/-- What a description sets, it sets of any entry that was described in the same way. -/
theorem withDescription_describe? {field : Text} {set : Text → Entry → Entry} (h : describe? field = some set)
    (value : Text) (d e : Entry) : withDescription (set value d) e = set value (withDescription d e) := by
  unfold describe? at h
  repeat' split at h
  all_goals cases h
  all_goals rfl

theorem withDescription_addProperty (name : Text) (v : Json) (d e : Entry) :
    withDescription (addProperty name v d) e = addProperty name v (withDescription d e) := by
  unfold addProperty
  dsimp only
  split <;> rfl

theorem withDescription_applyMember (d e : Entry) (name : Text) (v : Json) :
    withDescription (applyMember d name v) e = applyMember (withDescription d e) name v := by
  unfold applyMember
  dsimp only
  split
  · next hfield => exact withDescription_describe? hfield _ d e
  · split
    · rfl
    · exact withDescription_addProperty name _ d e
  · exact withDescription_addProperty name _ d e

/-- **An entry may be described before it has its text or after.** -/
theorem withDescription_describe (members : List (Text × Json)) (d e : Entry) :
    withDescription (describe members d) e = describe members (withDescription d e) := by
  unfold describe
  induction members generalizing d with
  | nil => rfl
  | cons member rest ih =>
      rw [List.foldl_cons, List.foldl_cons, ih, withDescription_applyMember]

/-- The entry of a text says nothing else, and is not empty. -/
theorem Member.entry_spec {w : Member} {e : Entry} (h : w.entry o mode = .ok e) :
    (∀ key, withDescription (Entry.ofKey key) e = e) ∧ e.isEmpty = false := by
  obtain ⟨e₁, hmade, hok⟩ := exists_of_bind h
  obtain rfl := Except.ok.inj hok
  rcases makeEntry_cases hmade with ⟨file, rfl⟩ | ⟨stored, flag, -, rfl⟩
  · exact ⟨fun _ => rfl, rfl⟩
  · exact ⟨fun _ => rfl, rfl⟩

/-- What was said about it can be taken away again. -/
theorem Member.undescribed {w : Member} {e : Entry} (h : w.entry o mode = .ok e) (key : Text)
    (members : List (Text × Json)) : withDescription (Entry.ofKey key) (describe members e) = e := by
  have hblank := (Member.entry_spec h).1
  calc withDescription (Entry.ofKey key) (describe members e)
      = withDescription (Entry.ofKey key) (describe members (withDescription (Entry.ofKey key) e)) := by rw [hblank]
    _ = withDescription (Entry.ofKey key) (withDescription (describe members (Entry.ofKey key)) e) := by
        rw [withDescription_describe]
    _ = e := hblank key

/-! ## Failures -/

theorem scanFrom_error {skip : Nat} {s : Template.ScanState} {t : Text} {x : Template.Fault}
    (h : Template.scanFrom mode skip s t = .error x) : ∃ problem left, x = .malformed problem left := by
  induction t generalizing skip s with
  | nil =>
      rw [Template.scanFrom] at h
      split at h
      · obtain rfl := Except.error.inj h
        exact ⟨_, _, rfl⟩
      · cases h
  | cons c t ih =>
      cases skip with
      | succ skip => exact ih h
      | zero =>
          rw [Template.scanFrom] at h
          repeat' split at h
          all_goals first
            | exact ih h
            | (obtain rfl := Except.error.inj h; exact ⟨_, _, rfl⟩)

/-- A text that cannot be looked through is a fault of the file. -/
theorem containsPlaceholders_error {t : Text} {f : Failure}
    (h : Template.containsPlaceholders mode t = .error f) : f.isAboutFile = true := by
  unfold Template.containsPlaceholders Template.hasPlaceholders at h
  split at h
  · cases hscan : Template.scanFrom mode 0 .start t with
    | ok flag =>
        rw [hscan] at h
        cases h
    | error x =>
        obtain ⟨problem, left, rfl⟩ := scanFrom_error hscan
        rw [hscan] at h
        obtain rfl := Except.error.inj h
        rfl
  · cases h

theorem makeEntry_error {key : Text} {text escapedText : Option Text} {f : Failure}
    (h : makeEntry o mode key text escapedText = .error f) : f.isAboutFile = true := by
  unfold makeEntry at h
  split at h
  · cases h
  · dsimp only at h
    split at h
    · cases h
    · rcases failed_of_bind h with hflag | ⟨flag, -, hok⟩
      · exact containsPlaceholders_error hflag
      · cases hok

theorem Member.entry_error {w : Member} {f : Failure} (h : w.entry o mode = .error f) : f.isAboutFile = true := by
  rcases failed_of_bind h with hmade | ⟨e, -, hok⟩
  · exact makeEntry_error hmade
  · cases hok

/-! ## One statement -/

variable {t t' : Catalog}

variable (o mode) in
/-- **A text whose key is taken is refused.** -/
theorem addText_taken {w : Member} {e : Entry} (hget : t.get? w.key = some e) (he : e.isEmpty = false) :
    ∃ f, addText o mode w.group w.name w.value t = .error f ∧ f.isAboutFile = true := by
  unfold addText
  change t.get? (Tree.join w.group (splitAlias w.name).1) = some e at hget
  dsimp only
  rw [hget, Option.filter_some, he]
  exact ⟨_, rfl, rfl⟩

/-- **A text whose key is free gets what was said about it before.** -/
theorem addText_free {w : Member} (h : ∀ e, t.get? w.key = some e → e.isEmpty = true) :
    addText o mode w.group w.name w.value t = (w.entry o mode).map fun e =>
      t.add w.key (withDescription ((t.get? w.key).getD (Entry.ofKey w.key)) e) := by
  have hfree : (t.get? w.key).filter (fun e => !e.isEmpty) = none := by
    rw [Option.filter_eq_none_iff]
    intro e he
    rw [h e he]
    exact Bool.false_ne_true
  have hread : addText o mode w.group w.name w.value t = (w.entry o mode).map fun e =>
      (t.get? w.key).elim (t.add w.key e) fun d => t.add w.key (withDescription d e) := by
    unfold addText Member.entry
    dsimp only
    change ((t.get? (Tree.join w.group (splitAlias w.name).1)).filter fun e => !e.isEmpty) = none at hfree
    have hkey : w.key = Tree.join w.group (splitAlias w.name).1 := rfl
    rw [hfree, hkey]
    cases makeEntry o mode (Tree.join w.group (splitAlias w.name).1) (some (splitEscapes mode w.value).1)
        (splitEscapes mode w.value).2 with
    | error f => rfl
    | ok e => cases t.get? (Tree.join w.group (splitAlias w.name).1) <;> rfl
  rw [hread]
  cases hentry : w.entry o mode with
  | error f => rfl
  | ok e =>
      cases t.get? w.key with
      | some d => rfl
      | none => exact congrArg (fun e => Except.ok (t.add w.key e)) ((Member.entry_spec hentry).1 w.key).symm

/-! ## What statements come to -/

/-- The text that a statement is. -/
def Statement.text? : Statement → Option Member
  | .text w => some w
  | _ => none

/-- The description that a statement is, with its key. -/
def Statement.description? : Statement → Option (Text × List (Text × Json))
  | .description key members => some (key, members)
  | _ => none

/-- The texts among some statements. -/
def texts (l : List Statement) : List Member := l.filterMap Statement.text?

/-- The descriptions among some statements. -/
def descriptions (l : List Statement) : List (Text × List (Text × Json)) :=
  l.filterMap Statement.description?

/-- The text that is stored under a key. -/
def textAt? (l : List Statement) (key : Text) : Option Member :=
  (texts l).find? fun w => w.key.fold = key

/-- The description of the entry that is stored under a key. -/
def descriptionAt? (l : List Statement) (key : Text) : Option (Text × List (Text × Json)) :=
  (descriptions l).find? fun d => d.1.fold = key

variable (o mode) in
/-- **`said o mode l key`**: the entry that some statements make under a key. -/
def said (l : List Statement) (key : Text) : Option Entry :=
  match textAt? l key with
  | some w => (w.entry o mode).toOption.map (describe (((descriptionAt? l key).map Prod.snd).getD []))
  | none => (descriptionAt? l key).map fun d => describe d.2 (Entry.ofKey d.1)

variable (o mode) in
/-- **`AreSound o mode l`**: the statements are about values of the right kind, all texts can be read, and no two of
them have one key. -/
structure AreSound (l : List Statement) : Prop where
  supported : ∀ v key, Statement.unsupported v key ∉ l
  readable : ∀ w ∈ texts l, ∃ e, w.entry o mode = .ok e
  nodup : ((texts l).map fun w => w.key.fold).Nodup

variable (o mode) in
/-- **`Tells o mode start l t`**: the catalog has the header of another one and the entries that the statements
make. -/
structure Tells (start : Catalog) (l : List Statement) (t : Catalog) : Prop where
  header : t = { start with entries := t.entries }
  nodup : (Pairs.keys t.entries).Nodup
  entries : ∀ key, Pairs.get? key t.entries = said o mode l key

variable {l : List Statement} {s : Statement} {start : Catalog}

theorem AreSound.left {l' : List Statement} (h : AreSound o mode (l ++ l')) : AreSound o mode l where
  supported v key hmem := h.supported v key (List.mem_append_left l' hmem)
  readable w hw := h.readable w (by
    rw [texts, List.filterMap_append]
    exact List.mem_append_left _ hw)
  nodup := by
    have hall := h.nodup
    rw [texts, List.filterMap_append, List.map_append] at hall
    exact hall.of_append_left

theorem texts_concat (l : List Statement) (w : Member) : texts (l ++ [.text w]) = texts l ++ [w] := by
  rw [texts, List.filterMap_append]
  rfl

theorem texts_description (l : List Statement) (key : Text) (members : List (Text × Json)) :
    texts (l ++ [.description key members]) = texts l := by
  rw [texts, List.filterMap_append]
  exact List.append_nil _

theorem descriptions_text (l : List Statement) (w : Member) : descriptions (l ++ [.text w]) = descriptions l := by
  rw [descriptions, List.filterMap_append]
  exact List.append_nil _

theorem descriptions_concat (l : List Statement) (key : Text) (members : List (Text × Json)) :
    descriptions (l ++ [.description key members]) = descriptions l ++ [(key, members)] := by
  rw [descriptions, List.filterMap_append]
  rfl

theorem mem_of_textAt? {key : Text} {w : Member} (h : textAt? l key = some w) : w ∈ texts l ∧ w.key.fold = key := by
  have hfound := List.find?_some h
  exact ⟨List.mem_of_find?_eq_some h, of_decide_eq_true hfound⟩

/-- What is found by its key, with one more element that has a key of its own. -/
theorem find?_concat {α : Type} {f : α → Text} {l : List α} {a : α} (hnone : l.find? (fun b => f b = f a) = none)
    (key : Text) : (l ++ [a]).find? (fun b => f b = key) = if key = f a then some a else l.find? fun b => f b = key := by
  rw [List.find?_append]
  by_cases hkey : key = f a
  · rw [hkey, hnone]
    simp
  · have hother : ¬f a = key := fun h => hkey h.symm
    simp [hkey, hother]

/-- Where there is no text, there is at most what was said about one. -/
theorem isEmpty_said {key : Text} {e : Entry} (hnone : textAt? l key = none) (h : said o mode l key = some e) :
    e.isEmpty = true := by
  rw [said, hnone] at h
  obtain ⟨d, -, rfl⟩ := Option.map_eq_some_iff.mp h
  exact isEmpty_describe d.2 _

/-- What is said of a text that can be read. -/
theorem said_eq {key : Text} {w : Member} {e : Entry} (hat : textAt? l key = some w)
    (he : w.entry o mode = .ok e) :
    said o mode l key = some (describe (((descriptionAt? l key).map Prod.snd).getD []) e) := by
  rw [said, hat]
  dsimp only
  rw [he]
  rfl

/-- **A text after some statements.** If its key is free, it has the description that came before. -/
theorem said_text {w : Member} {e : Entry} (he : w.entry o mode = .ok e) (hnone : textAt? l w.key.fold = none)
    (key : Text) : said o mode (l ++ [.text w]) key = if key = w.key.fold
      then some (withDescription ((said o mode l w.key.fold).getD (Entry.ofKey w.key)) e) else said o mode l key := by
  have hblank := (Member.entry_spec he).1
  have htext : textAt? (l ++ [.text w]) key = if key = w.key.fold then some w else textAt? l key := by
    rw [textAt?, texts_concat]
    exact find?_concat hnone key
  rw [said, htext, descriptionAt?, descriptions_text, ← descriptionAt?]
  by_cases hkey : key = w.key.fold
  · rw [if_pos hkey, if_pos hkey, hkey, said, hnone]
    dsimp only
    rw [he]
    cases descriptionAt? l w.key.fold with
    | none => exact congrArg some (hblank w.key).symm
    | some d =>
        refine congrArg some ?_
        show describe d.2 e = withDescription (describe d.2 (Entry.ofKey d.1)) e
        rw [withDescription_describe, hblank]
  · rw [if_neg hkey, if_neg hkey, said]

/-- **A description after some statements.** It is the first one of its key. -/
theorem said_description (hl : AreSound o mode l) {key : Text} {members : List (Text × Json)}
    (hnone : descriptionAt? l key.fold = none) (other : Text) :
    said o mode (l ++ [.description key members]) other = if other = key.fold
      then some (describe members ((said o mode l key.fold).getD (Entry.ofKey key))) else said o mode l other := by
  have hdescription : descriptionAt? (l ++ [.description key members]) other
      = if other = key.fold then some (key, members) else descriptionAt? l other := by
    rw [descriptionAt?, descriptions_concat]
    exact find?_concat (f := fun d : Text × List (Text × Json) => d.1.fold) (a := (key, members)) hnone other
  rw [said, hdescription, textAt?, texts_description, ← textAt?]
  by_cases hkey : other = key.fold
  · rw [if_pos hkey, if_pos hkey, hkey, said, hnone]
    cases htext : textAt? l key.fold with
    | none => rfl
    | some w =>
        obtain ⟨e, he⟩ := hl.readable w (mem_of_textAt? htext).1
        dsimp only
        rw [he]
        rfl
  · rw [if_neg hkey, if_neg hkey, said]

/-- A text that can be read and whose key is free leaves the statements sound. -/
theorem AreSound.text (hl : AreSound o mode l) {w : Member} {e : Entry} (he : w.entry o mode = .ok e)
    (hnone : textAt? l w.key.fold = none) : AreSound o mode (l ++ [.text w]) where
  supported v key hmem := by
    rcases List.mem_append.mp hmem with hmem | hmem
    · exact hl.supported v key hmem
    · cases List.mem_singleton.mp hmem
  readable w' hw' := by
    rw [texts_concat] at hw'
    rcases List.mem_append.mp hw' with hw' | hw'
    · exact hl.readable w' hw'
    · rw [List.mem_singleton.mp hw']
      exact ⟨e, he⟩
  nodup := by
    rw [texts_concat, List.map_append, List.nodup_append]
    refine ⟨hl.nodup, List.nodup_singleton _, fun k hk k' hk' heq => ?_⟩
    obtain ⟨w', hw', rfl⟩ := List.mem_map.mp hk
    rw [List.mem_singleton.mp hk'] at heq
    have hnot := List.find?_eq_none.mp hnone w' hw'
    exact hnot (decide_eq_true heq)

/-- A description leaves them sound in any case. -/
theorem AreSound.description (hl : AreSound o mode l) (key : Text) (members : List (Text × Json)) :
    AreSound o mode (l ++ [.description key members]) where
  supported v key' hmem := by
    rcases List.mem_append.mp hmem with hmem | hmem
    · exact hl.supported v key' hmem
    · cases List.mem_singleton.mp hmem
  readable w hw := by
    rw [texts_description] at hw
    exact hl.readable w hw
  nodup := by
    rw [texts_description]
    exact hl.nodup

/-- A statement that makes one entry is told by the catalog with this entry added. -/
theorem Tells.add (ht : Tells o mode start l t) {key : Text} {e : Entry}
    (hsaid : ∀ other, said o mode (l ++ [s]) other = if other = key.fold then some e else said o mode l other) :
    Tells o mode start (l ++ [s]) (t.add key e) where
  header := by
    rw [ht.header]
    rfl
  nodup := Pairs.nodup_put ht.nodup _ _
  entries other := by
    rw [hsaid other, ← ht.entries]
    by_cases hkey : other = key.fold
    · rw [if_pos hkey, hkey]
      exact Pairs.get?_put_self _ _ _
    · rw [if_neg hkey]
      exact Pairs.get?_put_of_ne hkey _ _

/-- **What a text does**: it is refused if its key is taken or it cannot be read, and otherwise told. -/
theorem perform_text (hl : AreSound o mode l) (ht : Tells o mode start l t) (w : Member) :
    (∃ f, perform o mode t (.text w) = .error f ∧ f.isAboutFile = true ∧ ¬ AreSound o mode (l ++ [.text w]))
      ∨ ∃ t', perform o mode t (.text w) = .ok t' ∧ AreSound o mode (l ++ [.text w])
        ∧ Tells o mode start (l ++ [.text w]) t' := by
  cases htext : textAt? l w.key.fold with
  | some w' =>
      -- An earlier text has the key, and its entry is not empty, whatever was said about it.
      obtain ⟨hw', hkey⟩ := mem_of_textAt? htext
      obtain ⟨e, he⟩ := hl.readable w' hw'
      have hget : t.get? w.key = _ := (ht.entries _).trans (said_eq htext he)
      have hempty := (isEmpty_describe (((descriptionAt? l w.key.fold).map Prod.snd).getD []) e).trans
        (Member.entry_spec he).2
      obtain ⟨f, hf, habout⟩ := addText_taken o mode hget hempty
      refine .inl ⟨f, hf, habout, fun h => ?_⟩
      have hnodup := h.nodup
      rw [texts_concat, List.map_append, List.nodup_append] at hnodup
      exact hnodup.2.2 _ (List.mem_map_of_mem hw') _ (List.mem_singleton_self _) hkey
  | none =>
      -- What there is under the key was only described so far.
      have hfree : ∀ e, t.get? w.key = some e → e.isEmpty = true :=
        fun e he => isEmpty_said htext ((ht.entries _).symm.trans he)
      rw [perform, addText_free hfree]
      cases hentry : w.entry o mode with
      | error f =>
          refine .inl ⟨f, rfl, Member.entry_error hentry, fun h => ?_⟩
          obtain ⟨e, he⟩ := h.readable w (by
            rw [texts_concat]
            exact List.mem_append_right _ (List.mem_singleton_self w))
          rw [hentry] at he
          cases he
      | ok e =>
          refine .inr ⟨_, rfl, hl.text hentry htext, ht.add fun key => ?_⟩
          rw [said_text hentry htext key, ← ht.entries]
          rfl

/-- **What a description does**: it is told. -/
theorem perform_description (hl : AreSound o mode l) (ht : Tells o mode start l t) {key : Text}
    (members : List (Text × Json)) (hnone : descriptionAt? l key.fold = none) :
    ∃ t', perform o mode t (.description key members) = .ok t' ∧ AreSound o mode (l ++ [.description key members])
      ∧ Tells o mode start (l ++ [.description key members]) t' := by
  refine ⟨_, rfl, hl.description key members, ht.add fun other => ?_⟩
  rw [said_description hl hnone other, ← ht.entries]
  rfl

/-- **What one statement does**: it is refused, and then the statements are not sound, or the catalog tells what all of
them say. -/
theorem perform_one (hl : AreSound o mode l) (ht : Tells o mode start l t)
    (hdescriptions : ((descriptions (l ++ [s])).map fun d => d.1.fold).Nodup) :
    (∃ f, perform o mode t s = .error f ∧ f.isAboutFile = true ∧ ¬ AreSound o mode (l ++ [s]))
      ∨ ∃ t', perform o mode t s = .ok t' ∧ AreSound o mode (l ++ [s]) ∧ Tells o mode start (l ++ [s]) t' := by
  cases s with
  | unsupported v key =>
      refine .inl ⟨_, rfl, rfl, fun h => h.supported v key ?_⟩
      exact List.mem_append_right l (List.mem_singleton_self _)
  | text w => exact perform_text hl ht w
  | description key members =>
      refine .inr (perform_description hl ht members ?_)
      -- No key is described twice, so nothing has been said about this one.
      rw [descriptionAt?, List.find?_eq_none]
      intro d hd hkey
      rw [descriptions_concat, List.map_append, List.nodup_append] at hdescriptions
      exact hdescriptions.2.2 _ (List.mem_map_of_mem hd) _ (List.mem_singleton_self _) (of_decide_eq_true hkey)

/-- **What all statements do**, by induction over those that were performed. -/
theorem perform_all (hstart : start.entries = []) (l : List Statement)
    (hdescriptions : ((descriptions l).map fun d => d.1.fold).Nodup) :
    (∃ f, l.foldlM (perform o mode) start = .error f ∧ f.isAboutFile = true ∧ ¬ AreSound o mode l)
      ∨ ∃ t, l.foldlM (perform o mode) start = .ok t ∧ AreSound o mode l ∧ Tells o mode start l t := by
  -- Statement by statement from the left: what the catalog tells is about those before.
  induction l using List.reverseRecOn with
  | nil =>
      refine .inr ⟨start, rfl, ⟨fun v key h => ?_, fun w h => ?_, List.nodup_nil⟩, ⟨rfl, ?_, fun key => ?_⟩⟩
      · cases h
      · cases h
      · rw [hstart]
        exact List.nodup_nil
      · rw [hstart]
        rfl
  | append_singleton l s ih =>
      have hfirst : ((descriptions l).map fun d => d.1.fold).Nodup := by
        rw [descriptions, List.filterMap_append, List.map_append] at hdescriptions
        exact hdescriptions.of_append_left
      rw [List.foldlM_append]
      rcases ih hfirst with ⟨f, hf, habout, hnot⟩ | ⟨t, ht, hsound, htells⟩
      · rw [hf]
        exact .inl ⟨f, rfl, habout, fun h => hnot h.left⟩
      · rw [ht]
        have hone : [s].foldlM (perform o mode) t = perform o mode t s := by
          rw [List.foldlM_cons]
          cases perform o mode t s <;> rfl
        rcases perform_one (s := s) hsound htells hdescriptions with ⟨f, hf, hrest⟩ | ⟨t', ht', hrest⟩
        · exact .inl ⟨f, hone.trans hf, hrest⟩
        · exact .inr ⟨t', hone.trans ht', hrest⟩

end Phrasebook.Files.Arb
