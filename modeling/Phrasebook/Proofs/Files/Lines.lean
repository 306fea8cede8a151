import Phrasebook.Files.Lines
import Phrasebook.Proofs.Text.Classes
import Phrasebook.Proofs.Text.Lines
import Phrasebook.Proofs.Text.Parts

/-!
# Reading within a line

What the readers of all dialects do in a line: they pass over blanks, take names, and look for its end. A
cursor that stands in a line (`Stands`) moves through the text of the line as if nothing came after it, since
no class of code points that a reader takes goes on beyond a line break.
-/

namespace Phrasebook.Files

open Cursor (isInlineBlank isBreak)
open Text (EndsLine Stops)

/-! ## What lines say -/

/-- What a line says. -/
inductive Line where
  /-- Nothing: the line is empty or a comment. -/
  | idle
  /-- A section begins. -/
  | header (name : Text)
  /-- A key has a value. -/
  | item (key : Text) (value : Written)
deriving DecidableEq

/-- The section and the document after a line. No section may come twice, and no key twice in a
section. -/
def follow? (sectionName : Text) (doc : Document) : Line → Option (Text × Document)
  | .idle => some (sectionName, doc)
  | .header name =>
    if name.fold ∈ doc.sections.map Text.fold then none
    else some (name, { doc with sections := doc.sections ++ [name] })
  | .item key value =>
    if (sectionName.fold, key.fold) ∈ doc.items.map Item.identity then none
    else some (sectionName, { doc with items := doc.items ++ [⟨sectionName, key, value⟩] })

/-! ## Code points apart -/

/-- Spaces, tabs, form feeds and vertical tabs only. -/
def AreBlanks (t : Text) : Prop := ∀ c ∈ t, isInlineBlank c = true

instance : DecidablePred AreBlanks := fun t => inferInstanceAs (Decidable (∀ c ∈ t, isInlineBlank c = true))

theorem isBlank_of_isInlineBlank {c : CodePoint} (h : isInlineBlank c = true) : c.isBlank = true := by
  simp only [isInlineBlank, Bool.or_eq_true, decide_eq_true_eq] at h
  rcases h with ((rfl | rfl) | hff) | hvt
  · decide +kernel
  · decide +kernel
  · rw [CodePoint.isBlank, hff]
    decide +kernel
  · rw [CodePoint.isBlank, hvt]
    decide +kernel

/-- White space is no part of a key. -/
theorem isBlank_of_continues {c : CodePoint} (h : continuesKey c = true) : c.isBlank = false := by
  rw [Bool.eq_false_iff]
  intro hblank
  obtain ⟨halnum, hunderscore⟩ := CodePoint.blank_not_name hblank
  have hunder : c ≠ CodePoint.ofChar '_' := hunderscore
  have hhyphen : c ≠ CodePoint.ofChar '-' := by
    rintro rfl
    exact absurd hblank (by decide +kernel)
  simp [continuesKey, halnum, hunder, hhyphen] at h

/-- A key ends where blanks begin. -/
theorem not_continues_of_blank {c : CodePoint} (h : isInlineBlank c = true) : continuesKey c = false := by
  rw [Bool.eq_false_iff]
  intro hcontinues
  have hblank := isBlank_of_isInlineBlank h
  rw [isBlank_of_continues hcontinues] at hblank
  cases hblank

theorem continues_of_starts {c : CodePoint} (h : startsKey c = true) : continuesKey c = true := by
  simp only [startsKey, Bool.or_eq_true, decide_eq_true_eq] at h
  rcases h with hletter | hunderscore
  · simp [continuesKey, CodePoint.isAlphanumeric, hletter]
  · simp [continuesKey, hunderscore]

theorem areBlanks_nil : AreBlanks [] := by
  intro c hc
  cases hc

theorem areBlanks_takeWhile (w : Text) : AreBlanks (w.takeWhile isInlineBlank) :=
  fun _ hc => List.mem_takeWhile_imp hc

/-- A break belongs to no class of code points of a line. -/
theorem not_break_of {p : CodePoint → Bool} (hcr : p CodePoint.carriageReturn = false)
    (hlf : p CodePoint.lineFeed = false) : ∀ x, p x = true → isBreak x = false := by
  intro x hx
  rw [Bool.eq_false_iff]
  intro hbreak
  have hcases : x = CodePoint.carriageReturn ∨ x = CodePoint.lineFeed := by simpa [isBreak] using hbreak
  rcases hcases with rfl | rfl
  · rw [hcr] at hx
    cases hx
  · rw [hlf] at hx
    cases hx

theorem blank_not_break : ∀ x, isInlineBlank x = true → isBreak x = false :=
  not_break_of (by decide) (by decide)

theorem continues_not_break : ∀ x, continuesKey x = true → isBreak x = false :=
  not_break_of (by decide +kernel) (by decide +kernel)

theorem name_not_break : ∀ x, Dialect.inSectionName x = true → isBreak x = false :=
  not_break_of (by decide +kernel) (by decide +kernel)

/-! ## A cursor in a line -/

variable {n : Nat} {u : Text} {c : Cursor}

/-- **`Stands n t u c`**: the cursor stands in line `n` before `t`, and the line ends where `u` begins. -/
structure Stands (n : Nat) (t u : Text) (c : Cursor) : Prop where
  rest : c.rest = t ++ u
  line : c.line = n
  inLine : ∀ x ∈ t, isBreak x = false
  ends : EndsLine u

/-- A run without breaks is passed over within the line. -/
theorem Stands.skipWhile {t : Text} (h : Stands n t u c) {p : CodePoint → Bool}
    (hp : ∀ x, p x = true → isBreak x = false) : Stands n (t.dropWhile p) u (c.skipWhile p) where
  rest := by rw [Cursor.skipWhile_rest, h.rest, Text.dropWhile_append_of_stops t (h.ends.stops hp)]
  line := (Cursor.skipWhile_line hp c).trans h.line
  inLine := fun x hx => h.inLine x ((List.dropWhile_suffix p).mem hx)
  ends := h.ends

theorem Stands.textTo {t : Text} (h : Stands n t u c) {p : CodePoint → Bool}
    (hp : ∀ x, p x = true → isBreak x = false) : c.textTo (c.skipWhile p) = t.takeWhile p := by
  rw [Cursor.textTo_skipWhile, h.rest, Text.takeWhile_append_of_stops t (h.ends.stops hp)]

theorem Stands.next {x : CodePoint} {t : Text} (h : Stands n (x :: t) u c) : Stands n t u c.next where
  rest := by
    rw [Cursor.next_rest, h.rest]
    rfl
  line := by
    refine (Cursor.next_line fun y hy => ?_).trans h.line
    rw [h.rest] at hy
    obtain rfl := Option.some.inj hy
    exact h.inLine x List.mem_cons_self
  inLine := fun y hy => h.inLine y (List.mem_cons_of_mem x hy)
  ends := h.ends

theorem Stands.advance {v t : Text} (h : Stands n (v ++ t) u c) : Stands n t u (Cursor.advance v.length c) := by
  induction v generalizing c with
  | nil => exact h
  | cons x v ih => exact ih h.next

/-- The line ends before the next break, and there only. -/
theorem Stands.atLineEnd {t : Text} (h : Stands n t u c) : c.atLineEnd = t.isEmpty := by
  unfold Cursor.atLineEnd
  rw [h.rest]
  cases t with
  | nil =>
      cases u with
      | nil => rfl
      | cons x u => simpa using Text.stops_cons.mp h.ends
  | cons x t => exact h.inLine x List.mem_cons_self

/-- What stands next in the line. -/
theorem Stands.isAt_cons {y : CodePoint} {t : Text} (h : Stands n (y :: t) u c) (x : CodePoint) :
    c.isAt x = decide (y = x) := by
  rw [Cursor.isAt, h.rest]
  simp

theorem Stands.isAt_nil (h : Stands n [] u c) {x : CodePoint} (hx : isBreak x = false) :
    c.isAt x = false := by
  rw [Cursor.isAt, h.rest, decide_eq_false_iff_not]
  intro hhead
  have hbreak : (!isBreak x) = false := h.ends x hhead
  rw [hx] at hbreak
  cases hbreak

theorem Stands.head_cons {x : CodePoint} {t : Text} (h : Stands n (x :: t) u c) :
    c.rest.head? = some x := by
  rw [h.rest]
  rfl

theorem isEmpty_dropWhile (p : CodePoint → Bool) (t : Text) : (t.dropWhile p).isEmpty = t.all p := by
  rw [Bool.eq_iff_iff, List.isEmpty_iff, List.dropWhile_eq_nil_iff, List.all_eq_true]

/-- **The end of a line is accepted where only blanks are left of it**, whatever starts a comment. -/
theorem Stands.finishLine (d : Dialect) (hcomment : isBreak d.comment = false) {t : Text}
    (h : Stands n t u c) (hall : t.all isInlineBlank = true) :
    ∃ c', d.finishLine c = .ok c' ∧ c'.rest = u ∧ c'.line = n := by
  have hskipped : Stands n (t.dropWhile isInlineBlank) u c.skipInlineBlanks := h.skipWhile blank_not_break
  have hnil : t.dropWhile isInlineBlank = [] := by rw [← List.isEmpty_iff, isEmpty_dropWhile, hall]
  rw [hnil] at hskipped
  have hend : c.skipInlineBlanks.atLineEnd = true := hskipped.atLineEnd
  refine ⟨c.skipInlineBlanks, ?_, hskipped.rest, hskipped.line⟩
  rw [Dialect.finishLine]
  rw [hskipped.isAt_nil hcomment, Bool.and_false, if_neg Bool.false_ne_true, if_pos hend]

/-! ## Sections -/

/-- The parts of the name of a section, between its full stops and without the blanks around them. -/
def sectionParts (name : Text) : List Text := (Text.splitAll Group.dot name).map Text.strip

/-- The parts that the reader finds in the name of a section are its parts. -/
theorem segments_eq (name : Text) :
    (Text.splitAll Group.dot name.strip).map Text.strip = sectionParts name :=
  Text.map_strip_splitAll_strip (by decide +kernel) name

/-- **A header is read in its line**: the name is that of the line, or the line is no header. -/
theorem readSection_gives {t : Text} (h : Stands n (CodePoint.ofChar '[' :: t) u c) :
    let parts := sectionParts (t.takeWhile Dialect.inSectionName)
    match t.dropWhile Dialect.inSectionName with
    | [] => ∃ e, Dialect.readSection c = .error e ∧ e.line = n
    | d :: tail =>
      if d = CodePoint.ofChar ']' ∧ [] ∉ parts then
        ∃ c', Dialect.readSection c = .ok (Text.join [Group.dot] parts, c') ∧ Stands n tail u c'
      else ∃ e, Dialect.readSection c = .error e ∧ e.line = n := by
  have hname := h.next.skipWhile name_not_break
  have htext := h.next.textTo name_not_break
  have hparts := segments_eq (c.next.textTo (c.next.skipWhile Dialect.inSectionName))
  rw [htext] at hparts
  unfold Dialect.readSection
  dsimp only
  cases hrest : t.dropWhile Dialect.inSectionName with
  | nil =>
      rw [hrest] at hname
      have hend : (c.next.skipWhile Dialect.inSectionName).atLineEnd = true := hname.atLineEnd
      dsimp only
      -- The line is over, and the header is not.
      rw [hname.isAt_nil (by decide), if_neg Bool.false_ne_true, if_pos hend]
      exact ⟨_, rfl, h.line⟩
  | cons d tail =>
      rw [hrest] at hname
      dsimp only
      rw [hname.isAt_cons]
      by_cases hd : d = CodePoint.ofChar ']'
      · by_cases hempty : [] ∈ sectionParts (t.takeWhile Dialect.inSectionName)
        · have hany : (sectionParts (t.takeWhile Dialect.inSectionName)).any (fun s => s.isEmpty) = true :=
            List.any_eq_true.mpr ⟨[], hempty, rfl⟩
          rw [if_neg fun hboth => hboth.2 hempty, if_pos (decide_eq_true hd), htext, hparts, if_pos hany]
          exact ⟨_, rfl, h.line⟩
        · have hany : ¬(sectionParts (t.takeWhile Dialect.inSectionName)).any (fun s => s.isEmpty) = true := by
            intro hany
            obtain ⟨part, hpart, hnil⟩ := List.any_eq_true.mp hany
            rw [List.isEmpty_iff.mp hnil] at hpart
            exact hempty hpart
          rw [if_pos ⟨hd, hempty⟩, if_pos (decide_eq_true hd), htext, hparts, if_neg hany]
          exact ⟨_, rfl, hname.next⟩
      -- Another code point stands where the bracket belongs, and no name has it.
      · rw [if_neg fun hboth => hd hboth.1, if_neg (by simpa using hd)]
        split
        · exact ⟨_, rfl, h.line⟩
        · exact ⟨_, rfl, hname.line⟩

/-- **A header is read**, if its section was not there before. -/
theorem Stands.readHeader (d : Dialect) (hcomment : isBreak d.comment = false) (doc : Document) {name tail : Text}
    (h : Stands n (CodePoint.ofChar '[' :: (name ++ CodePoint.ofChar ']' :: tail)) u c)
    (hname : ∀ x ∈ name, Dialect.inSectionName x = true) (hparts : [] ∉ sectionParts name)
    (htail : AreBlanks tail)
    (hnew : (Text.join [Group.dot] (sectionParts name)).fold ∉ doc.sections.map Text.fold) :
    ∃ c', d.readHeader doc c
        = .ok ((Text.join [Group.dot] (sectionParts name),
            { doc with sections := doc.sections ++ [Text.join [Group.dot] (sectionParts name)] }), c')
      ∧ c'.rest = u := by
  have hends : Stops Dialect.inSectionName (CodePoint.ofChar ']' :: tail) :=
    Text.stops_cons.mpr (by decide +kernel)
  have hsection := readSection_gives h
  rw [Text.takeWhile_run hname hends, Text.dropWhile_run hname hends] at hsection
  dsimp only at hsection
  rw [if_pos ⟨rfl, hparts⟩] at hsection
  obtain ⟨after, hread, hafter⟩ := hsection
  obtain ⟨c', hfinish, hrest, -⟩ := hafter.finishLine d hcomment (List.all_eq_true.mpr htail)
  refine ⟨c', ?_, hrest⟩
  rw [Dialect.readHeader, hread]
  show (if (Text.join [Group.dot] (sectionParts name)).fold ∈ doc.sections.map Text.fold then _ else _) = _
  rw [if_neg hnew, hfinish]
  rfl

/-- A key that is not dotted is in the group of its section. -/
theorem groupOf_single (sectionName key : Text) : Dialect.groupOf sectionName [key] = sectionName := by
  cases sectionName with
  | nil => rfl
  | cons x t => rfl

/-! ## Lines and items -/

namespace Dialect

variable {d : Dialect} {x : CodePoint} {t : Text} (sectionName : Text) (doc : Document)

/-- A line that starts with neither a blank nor a comment begins a section or has an item. -/
theorem readLines_cons (h : c.skipInlineBlanks.rest = x :: t) (hx : isBreak x = false) (hcomment : x ≠ d.comment)
    (fuel : Nat) :
    d.readLines (fuel + 1) sectionName doc c
      = if x = CodePoint.ofChar '[' then
          d.readHeader doc c.skipInlineBlanks >>= fun r => d.readLines fuel r.1.1 r.1.2 r.2
        else d.readItem sectionName doc c.skipInlineBlanks >>= fun r => d.readLines fuel sectionName r.1 r.2 := by
  rw [readLines, if_neg (Cursor.not_atEnd_of_skipInlineBlanks h)]
  dsimp only
  rw [if_neg (Cursor.not_atLineEnd h hx), Cursor.isAt_cons h, if_neg (by simpa using hcomment), Cursor.isAt_cons h]
  simp only [decide_eq_true_eq]

/-- After its key and the separator an item is read as its value, unless the key has one in the section. -/
theorem readItem_of_key {c' : Cursor} {key : Text} (hkey : d.readKey c = .ok ([key], c'))
    (h : c'.skipInlineBlanks.rest = x :: t) (hx : isBreak x = false) (hseparator : d.isSeparator x = true) :
    d.readItem sectionName doc c
      = if (sectionName.fold, key.fold) ∈ doc.items.map Item.identity then
          .error (c'.skipInlineBlanks.next.skipInlineBlanks.errorFrom c ("Duplicate key '" ++ key ++ "'"))
        else d.readValue c'.skipInlineBlanks.next.skipInlineBlanks >>= fun r =>
          (d.finishLine r.2).map fun c => ({ doc with items := doc.items ++ [⟨sectionName, key, r.1⟩] }, c) := by
  rw [readItem, hkey]
  show (if c'.skipInlineBlanks.atLineEnd = true then _ else _) = _
  rw [if_neg (Cursor.not_atLineEnd h hx)]
  show (if (!c'.skipInlineBlanks.rest.head?.any d.isSeparator) = true then _ else _) = _
  rw [h, List.head?_cons, Option.any_some, hseparator, if_neg (by decide), groupOf_single]
  rfl

end Dialect

end Phrasebook.Files
