import Mathlib.Data.List.Basic
import Phrasebook.Unicode.Properties

/-!
# Classes of code points that do not meet

White space holds no letter and no numeral. The readers of names and numbers rest on it: where a name
ends and blanks begin is never in doubt. The few code points of white space are gone through one by one.
-/

namespace Phrasebook.CodePoint

open Unicode

/-- The numbers of the code points of white space. -/
def blankNumbers : List Nat := blankRanges.flatMap fun r => List.range' r.1 (r.2 + 1 - r.1)

theorem mem_blankNumbers {c : CodePoint} (h : c.isBlank = true) : c.val ∈ blankNumbers := by
  obtain ⟨r, hr, hlow, hhigh⟩ := exists_range_of_inRanges h
  refine List.mem_flatMap.mpr ⟨r, hr, ?_⟩
  rw [List.mem_range'_1]
  omega

/-- A property of numbers that holds at all white space, checked point by point. -/
theorem of_isBlank {p : Nat → Bool} (hp : blankNumbers.all p = true) {c : CodePoint}
    (h : c.isBlank = true) : p c.val = true :=
  List.all_eq_true.mp hp c.val (mem_blankNumbers h)

/-- White space holds no letter, no numeral and no underscore. -/
theorem blank_not_name {c : CodePoint} (h : c.isBlank = true) :
    c.isAlphanumeric = false ∧ c ≠ underscore := by
  have hp := of_isBlank (p := fun n => !inRanges letterRanges n && !inRanges numeralRanges n && n != 0x5F)
    (by decide +kernel) h
  simp only [Bool.and_eq_true, Bool.not_eq_true', bne_iff_ne] at hp
  obtain ⟨⟨hletter, hnumeral⟩, hunderscore⟩ := hp
  constructor
  · simp [isAlphanumeric, isLetter, hletter, hnumeral]
  · rintro rfl
    exact hunderscore rfl

/-- White space holds no digit. -/
theorem blank_not_digit {c : CodePoint} (h : c.isBlank = true) : c.isDigit = false := by
  have hp := of_isBlank (p := fun n => !inRanges digitRanges n) (by decide +kernel) h
  rw [Bool.not_eq_true'] at hp
  exact hp

end Phrasebook.CodePoint
