import Phrasebook.Proofs.Text.Cursor
import Phrasebook.Text.Position

/-!
# Where a cursor stands

The line and the column that a cursor counts along the way are those of its offset. They are said here of the
text alone: a line ends where a line feed stands, or a carriage return that no line feed follows
(`endsLineAt`); the line of an offset is told by the ends before it (`lineAt`), and its column by the code
points of its line before it, carriage returns apart (`columnAt`).

`IsIn.next` is the one step that the counting has to be right for, between the two halves of a line break
too. All other moves of a reader are made of that step, so a cursor stands where it should after any moves
(`position_after`).
-/

namespace Phrasebook

namespace Text

open CodePoint (lineFeed carriageReturn)

/-! ## Lines and columns of offsets -/

/-- Whether a line ends with the code point at `i`. -/
def endsLineAt (t : Text) (i : Nat) : Bool :=
  t[i]? = some lineFeed || (t[i]? = some carriageReturn && t[i + 1]? ≠ some lineFeed)

/-- The line of an offset. -/
def lineAt (t : Text) (offset : Nat) : Nat := (List.range offset).countP t.endsLineAt + 1

/-- Where the line of an offset starts: after the last end of a line before it. -/
def lineStart (t : Text) : (offset : Nat) → Nat
  | 0 => 0
  | n + 1 => if t.endsLineAt n then n + 1 else lineStart t n

/-- The column of an offset. -/
def columnAt (t : Text) (offset : Nat) : Nat :=
  ((t.take offset).drop (t.lineStart offset)).countP (· ≠ carriageReturn) + 1

/-- What stands between two offsets. -/
def slice (t : Text) (first last : Nat) : Text := (t.take last).drop first

variable {t : Text} {n : Nat}

theorem lineAt_succ (t : Text) (n : Nat) :
    t.lineAt (n + 1) = t.lineAt n + if t.endsLineAt n then 1 else 0 := by
  simp only [lineAt, List.range_succ, List.countP_append, List.countP_singleton]
  omega

theorem lineStart_le (t : Text) (n : Nat) : t.lineStart n ≤ n := by
  induction n with
  | zero => exact Nat.le_refl 0
  | succ n ih =>
      rw [lineStart]
      split <;> omega

/-- No line ends between the start of a line and an offset in it. -/
theorem not_endsLineAt {i : Nat} (hstart : t.lineStart n ≤ i) (hi : i < n) : t.endsLineAt i = false := by
  induction n with
  | zero => omega
  | succ n ih =>
      rw [lineStart] at hstart
      split at hstart
      · omega
      · next hend =>
          rcases Nat.lt_succ_iff_lt_or_eq.mp hi with hlt | rfl
          · exact ih hstart hlt
          · exact Bool.eq_false_iff.mpr hend

/-- A line starts with its first column. -/
theorem columnAt_after_end (h : t.endsLineAt n = true) : t.columnAt (n + 1) = 1 := by
  have hnil : (t.take (n + 1)).drop (n + 1) = [] := List.drop_eq_nil_of_le (List.length_take_le _ _)
  rw [columnAt, lineStart, if_pos h, hnil]
  rfl

/-- Within a line every code point but a carriage return takes a column. -/
theorem columnAt_succ {x : CodePoint} (hx : t[n]? = some x) (h : t.endsLineAt n = false) :
    t.columnAt (n + 1) = t.columnAt n + if x = carriageReturn then 0 else 1 := by
  have htake : t.take (n + 1) = t.take n ++ [x] := by rw [List.take_add_one, hx]; rfl
  have hlength : (t.take n).length = n := by
    have hlt : n < t.length := (List.getElem?_eq_some_iff.mp hx).1
    rw [List.length_take]
    omega
  have hle : t.lineStart n ≤ (t.take n).length := by
    rw [hlength]
    exact lineStart_le t n
  rw [columnAt, columnAt, lineStart, if_neg (by simp [h]), htake, List.drop_append_of_le_length hle,
    List.countP_append, List.countP_singleton]
  by_cases hcr : x = carriageReturn
  · simp [hcr]
  · simp [hcr]

/-! ## Absolute positions -/

/-- Every carriage return is the first half of a line break. -/
def AreReturnsPaired (t : Text) : Prop :=
  ∀ i < t.length, t[i]? = some carriageReturn → t[i + 1]? = some lineFeed

instance : DecidablePred AreReturnsPaired := fun t =>
  inferInstanceAs (Decidable (∀ i < t.length, t[i]? = some carriageReturn → t[i + 1]? = some lineFeed))

/-- The offset is between the two halves of a line break. -/
def splitsBreak (t : Text) (offset : Nat) : Bool :=
  offset ≠ 0 && t[offset - 1]? = some carriageReturn && t[offset]? = some lineFeed

/-- The place after a line feed is found by counting the line feeds. -/
theorem afterLineFeeds_append (u v : Text) :
    afterLineFeeds (u ++ lineFeed :: v) (u.count lineFeed + 1) = u.length + 1 := by
  induction u with
  | nil => simp [afterLineFeeds]
  | cons c u ih =>
      rw [List.cons_append, afterLineFeeds, List.length_cons]
      by_cases hc : c = lineFeed
      · rw [if_pos hc, hc, List.count_cons_self, ih]
        omega
      · rw [if_neg hc, List.count_cons_of_ne hc, ih]
        omega

/-- Where all carriage returns are paired, lines end with line feeds. -/
theorem AreReturnsPaired.endsLineAt_iff (h : AreReturnsPaired t) (i : Nat) :
    t.endsLineAt i = true ↔ t[i]? = some lineFeed := by
  simp only [endsLineAt, Bool.or_eq_true, Bool.and_eq_true, decide_eq_true_eq, or_iff_left_iff_imp]
  rintro ⟨hcr, hnot⟩
  exact absurd (h i (List.getElem?_eq_some_iff.mp hcr).1 hcr) hnot

theorem AreReturnsPaired.lineAt_eq (h : AreReturnsPaired t) (n : Nat) :
    t.lineAt n = (t.take n).count lineFeed + 1 := by
  induction n with
  | zero => rfl
  | succ n ih =>
      rw [lineAt_succ, ih, List.take_add_one, List.count_append]
      by_cases hend : t[n]? = some lineFeed
      · rw [if_pos ((h.endsLineAt_iff n).mpr hend), hend]
        simp
      · rw [if_neg fun hno => hend ((h.endsLineAt_iff n).mp hno)]
        have hnone : t[n]?.toList.count lineFeed = 0 := by
          rw [List.count_eq_zero]
          intro hmem
          exact hend (Option.mem_toList.mp hmem)
        omega

/-- The start of a line is found by its number. -/
theorem AreReturnsPaired.afterLineFeeds_lineAt (h : AreReturnsPaired t) (n : Nat) :
    afterLineFeeds t (t.lineAt n - 1) = t.lineStart n := by
  induction n with
  | zero => cases t <;> rfl
  | succ n ih =>
      rw [lineStart]
      split
      · next hend =>
          have hfeed : t[n]? = some lineFeed := (h.endsLineAt_iff n).mp hend
          obtain ⟨hlt, hget⟩ := List.getElem?_eq_some_iff.mp hfeed
          have hsplit : t = t.take n ++ lineFeed :: t.drop (n + 1) := by
            rw [← hget, List.getElem_cons_drop, List.take_append_drop]
          have hfound := afterLineFeeds_append (t.take n) (t.drop (n + 1))
          rw [← hsplit, List.length_take, Nat.min_eq_left (Nat.le_of_lt hlt)] at hfound
          rw [lineAt_succ, if_pos hend, h.lineAt_eq n]
          exact hfound
      · next hend =>
          rw [lineAt_succ, if_neg hend]
          exact ih

/-- **Line and column lead back to the offset**, if it is not inside a line break. -/
theorem AreReturnsPaired.absolutePosition_eq (h : AreReturnsPaired t) (hle : n ≤ t.length)
    (hn : t.splitsBreak n = false) : absolutePosition t (t.lineAt n) (t.columnAt n) = n := by
  have hstart := lineStart_le t n
  have hno : ∀ x ∈ (t.take n).drop (t.lineStart n), x ≠ carriageReturn := by
    rintro x hx rfl
    obtain ⟨k, hk⟩ := List.mem_iff_getElem?.mp hx
    rw [List.getElem?_drop] at hk
    have hlt : t.lineStart n + k < n := by
      have hbound := (List.getElem?_eq_some_iff.mp hk).1
      rw [List.length_take] at hbound
      omega
    rw [List.getElem?_take_of_lt hlt] at hk
    have hfeed := h _ (List.getElem?_eq_some_iff.mp hk).1 hk
    -- The line feed after the carriage return ends the line, or the offset is just before it.
    rcases Nat.lt_or_ge (t.lineStart n + k + 1) n with hin | hout
    · have hend := (h.endsLineAt_iff _).mpr hfeed
      rw [not_endsLineAt (by omega) hin] at hend
      cases hend
    · have hlast : t.lineStart n + k = n - 1 := by omega
      have hnext : t.lineStart n + k + 1 = n := by omega
      rw [hlast] at hk
      rw [hnext] at hfeed
      simp [splitsBreak, hk, hfeed] at hn
      omega
  have hcount : ((t.take n).drop (t.lineStart n)).countP (· ≠ carriageReturn) = n - t.lineStart n := by
    rw [List.countP_eq_length.mpr fun x hx => decide_eq_true (hno x hx), List.length_drop,
      List.length_take, Nat.min_eq_left hle]
  rw [absolutePosition, h.afterLineFeeds_lineAt n, columnAt, hcount]
  omega

end Text

namespace Cursor

open CodePoint (lineFeed carriageReturn)

/-! ## One step -/

/-- **`IsIn t c`**: the cursor stands in the text `t`, on the line and the column of its offset. -/
structure IsIn (t : Text) (c : Cursor) : Prop where
  offset_le : c.offset ≤ t.length
  rest : c.rest = t.drop c.offset
  line : c.line = t.lineAt c.offset
  column : c.column = t.columnAt c.offset

variable {t : Text} {c : Cursor}

theorem isIn_start (t : Text) : IsIn t (start t) where
  offset_le := Nat.zero_le _
  rest := rfl
  line := rfl
  column := rfl

/-- On the same text a cursor is told by its offset. -/
theorem IsIn.ext {d : Cursor} (hc : IsIn t c) (hd : IsIn t d) (h : c.offset = d.offset) : c = d := by
  obtain ⟨rest, offset, line, column⟩ := c
  obtain ⟨rest', offset', line', column'⟩ := d
  obtain rfl : offset = offset' := h
  obtain rfl : rest = rest' := hc.rest.trans hd.rest.symm
  obtain rfl : line = line' := hc.line.trans hd.line.symm
  obtain rfl : column = column' := hc.column.trans hd.column.symm
  rfl

/-- **The next code point is counted rightly.** -/
theorem IsIn.next (h : IsIn t c) : IsIn t c.next := by
  cases hrest : c.rest with
  | nil =>
      rw [next_of_nil hrest]
      exact h
  | cons x u =>
      have hdrop : t.drop c.offset = x :: u := h.rest.symm.trans hrest
      have hx : t[c.offset]? = some x := by rw [← List.head?_drop, hdrop]; rfl
      have hu : t.drop (c.offset + 1) = u := by rw [← List.drop_drop, hdrop]; rfl
      have hhead : t[c.offset + 1]? = u.head? := by rw [← List.head?_drop, hu]
      have hlt : c.offset < t.length := (List.getElem?_eq_some_iff.mp hx).1
      -- The cursor asks of this code point and the next one, in turn, what tells whether a line ends here.
      have hend : t.endsLineAt c.offset = (x = lineFeed || (x = carriageReturn && u.head? ≠ some lineFeed)) := by
        simp only [Text.endsLineAt, hx, hhead, Option.some.injEq]
      unfold Cursor.next
      rw [hrest]
      dsimp only
      split
      · next hlf =>
          have hends : t.endsLineAt c.offset = true := by simp [hend, hlf]
          refine ⟨hlt, hu.symm, ?_, (Text.columnAt_after_end hends).symm⟩
          rw [Text.lineAt_succ, if_pos hends, ← h.line]
      · next hlf =>
          split
          · next hcr =>
              split
              · next hpair =>
                  -- The line ends at the line feed of the pair, and only there.
                  have hends : t.endsLineAt c.offset = false := by simp [hend, hlf, hpair]
                  refine ⟨hlt, hu.symm, ?_, ?_⟩
                  · rw [Text.lineAt_succ, hends, ← h.line]
                    rfl
                  · rw [Text.columnAt_succ hx hends, if_pos hcr, ← h.column]
                    rfl
              · next hsingle =>
                  have hends : t.endsLineAt c.offset = true := by simp [hend, hcr, hsingle]
                  refine ⟨hlt, hu.symm, ?_, (Text.columnAt_after_end hends).symm⟩
                  rw [Text.lineAt_succ, if_pos hends, ← h.line]
          · next hcr =>
              have hends : t.endsLineAt c.offset = false := by simp [hend, hlf, hcr]
              refine ⟨hlt, hu.symm, ?_, ?_⟩
              · rw [Text.lineAt_succ, hends, ← h.line]
                rfl
              · rw [Text.columnAt_succ hx hends, if_neg hcr, ← h.column]

theorem IsIn.advance (h : IsIn t c) (n : Nat) : IsIn t (advance n c) := by
  induction n generalizing c with
  | zero => exact h
  | succ n ih => exact ih h.next

/-! ## Moves -/

/-- What a reader can do with a cursor. -/
inductive Move where
  /-- So many code points on, or to the end; not back. -/
  | advance (count : Int)
  | skipInlineBlanks
  | skipBlanks
  | skipLineBreak
  | toLineEnd

/-- The cursor after a move, and what it has passed over if the move tells that. -/
def Move.perform (c : Cursor) : Move → Option Text × Cursor
  | advance count =>
    let later := Cursor.advance count.toNat c
    (some (c.textTo later), later)
  | skipInlineBlanks => (none, c.skipInlineBlanks)
  | skipBlanks => (none, c.skipBlanks)
  | skipLineBreak => (none, c.skipLineBreak)
  | toLineEnd => (some (c.textTo c.toLineEnd), c.toLineEnd)

/-- The cursor after some moves. -/
def after (c : Cursor) (moves : List Move) : Cursor := moves.foldl (fun c m => (m.perform c).2) c

/-- A line break is one step, or two, or none if there is no line break. -/
theorem exists_skipLineBreak (c : Cursor) : ∃ n, c.skipLineBreak = advance n c := by
  unfold skipLineBreak
  split
  · exact ⟨2, rfl⟩
  · split
    · exact ⟨0, rfl⟩
    · split
      · exact ⟨1, rfl⟩
      · exact ⟨0, rfl⟩

/-- **Every move goes on from code point to code point.** -/
theorem Move.exists_advance (c : Cursor) (m : Move) : ∃ n, (m.perform c).2 = Cursor.advance n c := by
  cases m with
  | advance count => exact ⟨_, rfl⟩
  | skipInlineBlanks => exact ⟨_, rfl⟩
  | skipBlanks => exact ⟨_, rfl⟩
  | skipLineBreak => exact exists_skipLineBreak c
  | toLineEnd => exact ⟨_, rfl⟩

theorem IsIn.perform (h : IsIn t c) (m : Move) : IsIn t (m.perform c).2 := by
  obtain ⟨n, hn⟩ := m.exists_advance c
  rw [hn]
  exact h.advance n

theorem IsIn.after (h : IsIn t c) (moves : List Move) : IsIn t (c.after moves) := by
  induction moves generalizing c with
  | nil => exact h
  | cons m moves ih => exact ih (h.perform m)

/-- No move goes back. -/
theorem Move.offset_le (c : Cursor) (m : Move) : c.offset ≤ (m.perform c).2.offset := by
  obtain ⟨n, hn⟩ := m.exists_advance c
  rw [hn, advance_offset]
  exact Nat.le_add_right _ _

/-- What lies between two cursors is a slice of the text. -/
theorem IsIn.textTo_eq (h : IsIn t c) (d : Cursor) : c.textTo d = t.slice c.offset d.offset := by
  rw [textTo, h.rest, Text.slice, List.drop_take]

/-- What a move tells is what it has passed over. -/
theorem IsIn.told (h : IsIn t c) (m : Move) :
    ∀ told ∈ (m.perform c).1, told = t.slice c.offset (m.perform c).2.offset := by
  intro told htold
  cases m with
  | advance count =>
      obtain rfl := Option.some.inj htold
      exact h.textTo_eq _
  | skipInlineBlanks => cases htold
  | skipBlanks => cases htold
  | skipLineBreak => cases htold
  | toLineEnd =>
      obtain rfl := Option.some.inj htold
      exact h.textTo_eq _

/-- **A cursor knows where it stands.** After any moves the offset is within the text, and it alone tells the
line and the column, so that other moves to the same offset lead to the same cursor; a further move never goes
back, does not leave the text and tells just what it passes over; and line and column lead back to the offset,
if all carriage returns of the text are paired and the cursor is not inside a line break. -/
theorem position_after (t : Text) (moves : List Move) :
    let c := (start t).after moves
    c.offset ≤ t.length ∧ c.line = t.lineAt c.offset ∧ c.column = t.columnAt c.offset
      ∧ (∀ others : List Move, ((start t).after others).offset = c.offset → (start t).after others = c)
      ∧ (∀ m : Move, c.offset ≤ (m.perform c).2.offset ∧ (m.perform c).2.offset ≤ t.length
        ∧ ∀ told ∈ (m.perform c).1, told = t.slice c.offset (m.perform c).2.offset)
      ∧ (t.AreReturnsPaired → t.splitsBreak c.offset = false →
        Text.absolutePosition t c.line c.column = c.offset) := by
  intro c
  have h : IsIn t c := (isIn_start t).after moves
  refine ⟨h.offset_le, h.line, h.column, fun others => ?_, fun m => ?_, fun hpaired hsplit => ?_⟩
  · exact ((isIn_start t).after others).ext h
  · exact ⟨m.offset_le c, (h.perform m).offset_le, h.told m⟩
  · rw [h.line, h.column]
    exact hpaired.absolutePosition_eq h.offset_le hsplit

/-- In a text of three lines, past the first break and a word. -/
theorem position_after_lines :
    let t : Text := "one\r\ntwo three\nfour"
    let c := (start t).after [.toLineEnd, .skipLineBreak, .advance 3, .skipInlineBlanks]
    t.AreReturnsPaired ∧ t.splitsBreak c.offset = false ∧ (c.offset, c.line, c.column) = (9, 2, 5)
      ∧ Text.absolutePosition t c.line c.column = c.offset := by
  intro t c
  have hpaired : t.AreReturnsPaired := by decide
  have hsplit : t.splitsBreak c.offset = false := by decide
  exact ⟨hpaired, hsplit, by decide, (position_after t _).2.2.2.2.2 hpaired hsplit⟩

end Cursor

end Phrasebook
