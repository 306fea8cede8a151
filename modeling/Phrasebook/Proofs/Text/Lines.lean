import Phrasebook.Proofs.Text.Cursor

/-!
# Lines

The lines of a text are what stands between its line breaks, and there are three of those: a line feed, a
carriage return, and a carriage return with the line feed after it (`lines`). A cursor counts the same
lines: it leaves one of them by `skipLineBreak`, which takes the first line off (`lines_skipLineBreak`) and
adds one to the number of the line.
-/

namespace Phrasebook

namespace Text

/-- The lines of a text. A carriage return before a line feed is part of the break that the line feed
is. -/
def lines : Text → List Text
  | [] => [[]]
  | c :: t =>
    if c = CodePoint.carriageReturn ∧ t.head? = some CodePoint.lineFeed then lines t
    else if Cursor.isBreak c then [] :: lines t
    else (lines t).modifyHead (c :: ·)

example : lines "one\r\ntwo\rthree\n\n"
    = [ofString "one", ofString "two", ofString "three", [], []] := by decide

/-- **`EndsLine t`**: a line ends where `t` begins. -/
abbrev EndsLine (t : Text) : Prop := Stops (fun c => !Cursor.isBreak c) t

/-- A run of code points that are no line breaks does not go on beyond the line. -/
theorem EndsLine.stops {t : Text} (h : EndsLine t) {p : CodePoint → Bool}
    (hp : ∀ c, p c = true → Cursor.isBreak c = false) : Stops p t := by
  intro c hc
  have hbreak : (!Cursor.isBreak c) = false := h c hc
  rw [Bool.eq_false_iff]
  intro hpc
  rw [hp c hpc] at hbreak
  cases hbreak

/-- A code point that is no line break belongs to the line that goes on after it. -/
theorem lines_cons {c : CodePoint} (h : Cursor.isBreak c = false) (t : Text) :
    lines (c :: t) = (lines t).modifyHead (c :: ·) := by
  have hcr : c ≠ CodePoint.carriageReturn := fun heq => by
    rw [heq, Cursor.isBreak_carriageReturn] at h
    cases h
  rw [lines, if_neg fun hpair => hcr hpair.1, if_neg (by simp [h])]

/-- Where a line ends, the first line left is empty. -/
theorem lines_of_endsLine {t : Text} (h : EndsLine t) : lines t = [] :: (lines t).tail := by
  induction t with
  | nil => rfl
  | cons c t ih =>
      have hc : Cursor.isBreak c = true := by simpa using stops_cons.mp h
      rw [lines, if_pos hc]
      split
      · next hpair =>
          -- The line feed is still to come.
          apply ih
          intro x hx
          obtain rfl : CodePoint.lineFeed = x := Option.some.inj (hpair.2.symm.trans hx)
          decide
      · rfl

/-- **What is before the first line break is the first line.** -/
theorem lines_append {w t : Text} (hw : ∀ c ∈ w, Cursor.isBreak c = false) (h : EndsLine t) :
    lines (w ++ t) = w :: (lines t).tail := by
  induction w with
  | nil => exact lines_of_endsLine h
  | cons c w ih =>
      rw [List.cons_append, lines_cons (hw c List.mem_cons_self),
        ih fun x hx => hw x (List.mem_cons_of_mem c hx)]
      rfl

/-- A text is its first line and what follows it. -/
theorem exists_line (t : Text) :
    ∃ w u, t = w ++ u ∧ (∀ c ∈ w, Cursor.isBreak c = false) ∧ EndsLine u := by
  refine ⟨t.takeWhile fun c => !Cursor.isBreak c, t.dropWhile fun c => !Cursor.isBreak c,
    List.takeWhile_append_dropWhile.symm, fun c hc => ?_, fun c hc => ?_⟩
  · simpa using List.mem_takeWhile_imp hc
  · have hnot := List.head?_dropWhile_not (fun c => !Cursor.isBreak c) t
    rw [Option.mem_def.mp hc] at hnot
    exact hnot

end Text

namespace Cursor

variable {c : Cursor}

theorem startsWith_pair : c.startsWith "\r\n" = true ↔
    ∃ t, c.rest = CodePoint.carriageReturn :: CodePoint.lineFeed :: t :=
  Text.startsWith_iff

/-- At the end of the text there is no line break to be passed over. -/
theorem skipLineBreak_of_nil (h : c.rest = []) : c.skipLineBreak = c := by
  have hpair : ¬c.startsWith "\r\n" = true := by
    rw [startsWith_pair, h]
    rintro ⟨t, ht⟩
    cases ht
  rw [skipLineBreak, if_neg hpair, h]

/-- **Passing over a line break takes the line off that ends there**, and leads to the next one. -/
theorem lines_skipLineBreak {x : CodePoint} {t : Text} (h : c.rest = x :: t) (hx : isBreak x = true) :
    c.skipLineBreak.rest.length < c.rest.length
      ∧ Text.lines c.rest = [] :: Text.lines c.skipLineBreak.rest
      ∧ c.skipLineBreak.line = c.line + 1 := by
  unfold skipLineBreak
  by_cases hpair : c.startsWith "\r\n" = true
  · obtain ⟨u, hu⟩ := startsWith_pair.mp hpair
    rw [if_pos hpair, advance_rest, hu]
    refine ⟨?_, ?_, ?_⟩
    · show u.length < u.length + 2
      omega
    · rw [Text.lines, if_pos ⟨rfl, rfl⟩, Text.lines, if_neg fun h => absurd h.1 (by decide),
        if_pos isBreak_lineFeed]
      rfl
    · simp only [advance, next, hu]
      rfl
  · rw [if_neg hpair, h]
    dsimp only
    rw [if_pos hx, next_rest, h]
    -- A single break. It is no carriage return before a line feed, so both readers take one code point.
    have hnot : ¬(x = CodePoint.carriageReturn ∧ t.head? = some CodePoint.lineFeed) := by
      rintro ⟨rfl, hhead⟩
      apply hpair
      rw [startsWith_pair, h]
      cases t with
      | nil => cases hhead
      | cons y u =>
          obtain rfl := Option.some.inj hhead
          exact ⟨u, rfl⟩
    refine ⟨by simp, ?_, ?_⟩
    · rw [Text.lines, if_neg hnot, if_pos hx]
      rfl
    · unfold next
      rw [h]
      dsimp only
      split
      · rfl
      · next hlf =>
          have hcr : x = CodePoint.carriageReturn := by simpa [isBreak, hlf] using hx
          rw [if_pos hcr, if_neg fun hhead => hnot ⟨hcr, hhead⟩]

/-- Where a line ends, less is left after its break, or nothing at all. -/
theorem length_skipLineBreak_lt (h : c.atLineEnd = true) {bound : Nat} (hle : c.rest.length ≤ bound)
    (hpos : 0 < bound) : c.skipLineBreak.rest.length < bound := by
  cases hrest : c.rest with
  | nil =>
      rw [skipLineBreak_of_nil hrest, hrest]
      exact hpos
  | cons x t =>
      rw [atLineEnd, hrest] at h
      have hshort := (lines_skipLineBreak hrest h).1
      omega

end Cursor

end Phrasebook
