/-!
# Sets of code points as ranges

A class of code points is an ascending list of closed ranges. Membership walks the list and stops at
the first range that starts too high.
-/

namespace Phrasebook.Unicode

/-- Whether `n` lies in one of the ranges, which are given in ascending order. -/
def inRanges : List (Nat × Nat) → Nat → Bool
  | [], _ => false
  | (low, high) :: rest, n => if n < low then false else if n ≤ high then true else inRanges rest n

/-- Membership found in an ascending list is membership in one of its ranges. -/
theorem exists_range_of_inRanges {ranges : List (Nat × Nat)} {n : Nat} (h : inRanges ranges n) :
    ∃ r ∈ ranges, r.1 ≤ n ∧ n ≤ r.2 := by
  induction ranges with
  | nil => simp [inRanges] at h
  | cons r rest ih =>
    obtain ⟨low, high⟩ := r
    unfold inRanges at h
    split at h
    · simp at h
    · split at h
      · exact ⟨(low, high), by simp, by omega, by omega⟩
      · obtain ⟨r, hr, hn⟩ := ih h
        exact ⟨r, by simp [hr], hn⟩

end Phrasebook.Unicode
