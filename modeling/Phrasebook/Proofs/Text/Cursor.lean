import Mathlib.Data.List.Basic
import Phrasebook.Proofs.Text.Runs
import Phrasebook.Text.Cursor

/-!
# Where a cursor goes

Readers move a cursor over a run of code points and take what lies between. What is left, what lies
between and on which line the cursor stands are said here in terms of the text, so that a reader can be
compared with a rule that knows no cursors. Only line breaks lead to another line.
-/

namespace Phrasebook.Cursor

variable {c : Cursor} {p : CodePoint → Bool}

/-! ## What is left, and what lies between -/

theorem next_offset (h : c.rest ≠ []) : c.next.offset = c.offset + 1 := by
  unfold next
  split
  · next hnil => exact absurd hnil h
  · split
    · rfl
    · split
      · split <;> rfl
      · rfl

theorem next_of_nil (h : c.rest = []) : c.next = c := by
  unfold next
  rw [h]

/-- A cursor moves on until nothing is left. -/
theorem advance_offset (n : Nat) (c : Cursor) :
    (advance n c).offset = c.offset + min n c.rest.length := by
  induction n generalizing c with
  | zero => simp [advance]
  | succ n ih =>
      rw [advance, ih]
      by_cases h : c.rest = []
      · rw [next_of_nil h, h]
        simp
      · have hpos : 0 < c.rest.length := List.length_pos_iff.mpr h
        rw [next_offset h, next_rest, List.length_tail]
        omega

/-- **Between a cursor and where it gets lies what it passed over.** -/
theorem textTo_advance (n : Nat) (c : Cursor) : c.textTo (advance n c) = c.rest.take n := by
  rw [textTo, advance_offset, Nat.add_sub_cancel_left]
  exact List.take_eq_take_min.symm

/-- Two moves are one. -/
theorem advance_advance (m n : Nat) (c : Cursor) : advance n (advance m c) = advance (m + n) c := by
  induction m generalizing c with
  | zero => rw [advance, Nat.zero_add]
  | succ m ih => rw [advance, ih, Nat.succ_add, advance]

/-- A cursor that moves over a run stands where the run ends. -/
theorem skipWhile_rest (p : CodePoint → Bool) (c : Cursor) :
    (c.skipWhile p).rest = c.rest.dropWhile p := by
  have hsplit := List.takeWhile_append_dropWhile (p := p) (l := c.rest)
  calc (c.skipWhile p).rest = c.rest.drop (c.rest.takeWhile p).length := advance_rest _ c
    _ = (c.rest.takeWhile p ++ c.rest.dropWhile p).drop (c.rest.takeWhile p).length := by rw [hsplit]
    _ = c.rest.dropWhile p := List.drop_left

theorem textTo_skipWhile (p : CodePoint → Bool) (c : Cursor) :
    c.textTo (c.skipWhile p) = c.rest.takeWhile p := by
  have hsplit := List.takeWhile_append_dropWhile (p := p) (l := c.rest)
  calc c.textTo (c.skipWhile p) = c.rest.take (c.rest.takeWhile p).length := textTo_advance _ c
    _ = (c.rest.takeWhile p ++ c.rest.dropWhile p).take (c.rest.takeWhile p).length := by rw [hsplit]
    _ = c.rest.takeWhile p := List.take_left

/-! ## What stands next -/

/-- What stands next, if something is left. -/
theorem isAt_cons {x : CodePoint} {t : Text} (h : c.rest = x :: t) (y : CodePoint) : c.isAt y = decide (x = y) := by
  rw [isAt, h]
  simp

theorem not_atLineEnd {x : CodePoint} {t : Text} (h : c.rest = x :: t) (hx : isBreak x = false) :
    ¬c.atLineEnd = true := by
  rw [atLineEnd, h]
  simpa using hx

/-- What is left after the blanks was left before them. -/
theorem not_atEnd_of_skipInlineBlanks {x : CodePoint} {t : Text} (h : c.skipInlineBlanks.rest = x :: t) :
    ¬c.atEnd = true := by
  intro hend
  have hnil : c.rest = [] := List.isEmpty_iff.mp hend
  rw [skipInlineBlanks, skipWhile_rest, hnil] at h
  cases h

/-! ## Lines -/

theorem isBreak_lineFeed : isBreak CodePoint.lineFeed = true := by decide

theorem isBreak_carriageReturn : isBreak CodePoint.carriageReturn = true := by decide

/-- A code point that is no line break does not lead to another line. -/
theorem next_line (h : ∀ x ∈ c.rest.head?, isBreak x = false) : c.next.line = c.line := by
  cases hrest : c.rest with
  | nil => rw [next_of_nil hrest]
  | cons x t =>
      have hx : isBreak x = false := h x (by rw [hrest]; rfl)
      have hlf : x ≠ CodePoint.lineFeed := fun heq => by rw [heq, isBreak_lineFeed] at hx; cases hx
      have hcr : x ≠ CodePoint.carriageReturn := fun heq => by
        rw [heq, isBreak_carriageReturn] at hx
        cases hx
      unfold next
      rw [hrest]
      dsimp only
      rw [if_neg hlf, if_neg hcr]

theorem advance_line {n : Nat} (h : ∀ x ∈ c.rest.take n, isBreak x = false) :
    (advance n c).line = c.line := by
  induction n generalizing c with
  | zero => rfl
  | succ n ih =>
      rw [advance]
      cases hrest : c.rest with
      | nil =>
          rw [next_of_nil hrest]
          exact ih (by simp [hrest])
      | cons x t =>
          rw [hrest, List.take_succ_cons] at h
          rw [ih, next_line]
          · intro y hy
            rw [hrest] at hy
            obtain rfl := Option.some.inj hy
            exact h x List.mem_cons_self
          · intro y hy
            rw [next_rest, hrest] at hy
            exact h y (List.mem_cons_of_mem x hy)

/-- **A run without line breaks stays on its line.** -/
theorem skipWhile_line (h : ∀ x, p x = true → isBreak x = false) (c : Cursor) :
    (c.skipWhile p).line = c.line := by
  apply advance_line
  intro x hx
  have htake : c.rest.take (c.rest.takeWhile p).length = c.rest.takeWhile p := by
    rw [← textTo_advance]
    exact textTo_skipWhile p c
  rw [htake] at hx
  exact h x (List.mem_takeWhile_imp hx)

end Phrasebook.Cursor
