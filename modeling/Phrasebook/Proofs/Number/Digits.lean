import Mathlib.Algebra.Order.Group.Nat
import Mathlib.Tactic.Ring
import Phrasebook.Number.Digits
import Phrasebook.Proofs.Text.Numerals

/-!
# The number of digits

A number has `k` digits exactly if it lies between two powers of ten, and a division that rounds stays between
whatever multiples of the divisor the number lies between. The bounds on what decimal and binary arithmetic come to
rest on these two facts.
-/

namespace Phrasebook

theorem digitCount_le_iff {n k : Nat} (hk : 0 < k) : digitCount n ≤ k ↔ n < 10 ^ k := Text.length_ofNat_le_iff n k hk

theorem digitCount_pos (n : Nat) : 0 < digitCount n := List.length_pos_iff.mpr (Text.ofNat_ne_nil n)

theorem digitCount_zero : digitCount 0 = 1 := by decide +kernel

theorem digitCount_eq_one {n : Nat} (h : n ≤ 1) : digitCount n = 1 := by
  have hle := (digitCount_le_iff (n := n) (k := 1) (by decide)).mpr (by omega)
  have := digitCount_pos n
  omega

theorem lt_pow_digitCount (n : Nat) : n < 10 ^ digitCount n := (digitCount_le_iff (digitCount_pos n)).mp le_rfl

theorem pow_le_of_lt_digitCount {n k : Nat} (hn : n ≠ 0) (h : k < digitCount n) : 10 ^ k ≤ n := by
  rcases Nat.eq_zero_or_pos k with rfl | hk
  · rw [pow_zero]
    omega
  · by_contra hlt
    have := (digitCount_le_iff hk).mpr (by omega : n < 10 ^ k)
    omega

theorem lt_digitCount_of_pow_le {n k : Nat} (h : 10 ^ k ≤ n) : k < digitCount n := by
  by_contra hle
  have hlt := lt_pow_digitCount n
  have hmono : 10 ^ digitCount n ≤ 10 ^ k := Nat.pow_le_pow_right (by decide) (by omega)
  omega

/-- The last digit is cut off. -/
theorem digitCount_div_ten_le {n : Nat} (h : 1 < digitCount n) : digitCount (n / 10) ≤ digitCount n - 1 := by
  have hlt := lt_pow_digitCount n
  have hsplit : 10 ^ digitCount n = 10 ^ (digitCount n - 1) * 10 := by
    rw [← pow_succ, Nat.sub_add_cancel (by omega)]
  rw [digitCount_le_iff (by omega)]
  omega

/-- **As many digits as zeros are appended.** -/
theorem digitCount_mul_pow {n : Nat} (hn : n ≠ 0) (k : Nat) : digitCount (n * 10 ^ k) = digitCount n + k := by
  have hpos : 0 < 10 ^ k := Nat.pow_pos (by decide)
  apply le_antisymm
  · rw [digitCount_le_iff (by have := digitCount_pos n; omega), pow_add]
    exact Nat.mul_lt_mul_of_pos_right (lt_pow_digitCount n) hpos
  · have hlow : 10 ^ (digitCount n - 1) ≤ n := pow_le_of_lt_digitCount hn (by have := digitCount_pos n; omega)
    have hmul : 10 ^ (digitCount n - 1 + k) ≤ n * 10 ^ k := by
      rw [pow_add]
      exact Nat.mul_le_mul_right _ hlow
    have := lt_digitCount_of_pow_le hmul
    omega

theorem powerOfTen_pos (k : Nat) : 0 < powerOfTen k := Nat.pow_pos (by decide)

/-! ## Rounding to the even neighbour -/

/-- **A rounded quotient is no larger than an integer that the quotient does not exceed.** -/
theorem divideToEven_le {n d k : Nat} (hd : 0 < d) (h : n ≤ k * d) : divideToEven n d ≤ k := by
  have hdiv : n / d ≤ k := Nat.div_le_of_le_mul (by rwa [Nat.mul_comm] at h)
  -- The quotient is the bound itself only if nothing is left over.
  have hrest : n / d = k → n % d = 0 := by
    rintro rfl
    have := Nat.div_add_mod' n d
    omega
  simp only [divideToEven]
  split
  · exact hdiv
  · split
    · rcases Nat.lt_or_ge (n / d) k with hlt | hge
      · omega
      · have := hrest (by omega)
        omega
    · split
      · exact hdiv
      · rcases Nat.lt_or_ge (n / d) k with hlt | hge
        · omega
        · have := hrest (by omega)
          omega

/-- **A rounded quotient is no smaller than an integer that the quotient reaches.** -/
theorem le_divideToEven {n d k : Nat} (hd : 0 < d) (h : k * d ≤ n) : k ≤ divideToEven n d := by
  have hdiv : k ≤ n / d := (Nat.le_div_iff_mul_le hd).mpr h
  simp only [divideToEven]
  split
  · exact hdiv
  · split
    · omega
    · split <;> omega

/-- **Cutting digits off leaves the others**, and one more if it rounds up to a power of ten. -/
theorem digitCount_divideToEven_le {n k : Nat} (h : k ≤ digitCount n) :
    digitCount (divideToEven n (powerOfTen k)) ≤ digitCount n - k + 1 := by
  have hle : n ≤ 10 ^ (digitCount n - k) * powerOfTen k := by
    have hsplit : 10 ^ (digitCount n - k) * powerOfTen k = 10 ^ digitCount n := by
      show 10 ^ (digitCount n - k) * 10 ^ k = 10 ^ digitCount n
      rw [← pow_add, Nat.sub_add_cancel h]
    rw [hsplit]
    exact le_of_lt (lt_pow_digitCount n)
  have hbound := divideToEven_le (powerOfTen_pos k) hle
  have hpos : 0 < 10 ^ (digitCount n - k) := Nat.pow_pos (by decide)
  rw [digitCount_le_iff (by omega), pow_succ]
  omega

/-- **Nothing but one is left** of a number with less digits than are cut off. -/
theorem divideToEven_le_one {n k : Nat} (h : digitCount n ≤ k) : divideToEven n (powerOfTen k) ≤ 1 := by
  have hpow : 10 ^ digitCount n ≤ 10 ^ k := Nat.pow_le_pow_right (by decide) h
  refine divideToEven_le (powerOfTen_pos k) ?_
  rw [Nat.one_mul]
  exact le_trans (le_of_lt (lt_pow_digitCount n)) hpow

theorem divideToEven_mul {d : Nat} (hd : 0 < d) (k : Nat) : divideToEven (k * d) d = k :=
  le_antisymm (divideToEven_le hd le_rfl) (le_divideToEven hd le_rfl)

/-! ## Trailing zeros -/

/-- What is dropped are zeros at the end. -/
theorem dropZeros_mul (limit n : Nat) : (dropZeros limit n).1 * 10 ^ (dropZeros limit n).2 = n := by
  induction limit generalizing n with
  | zero => rw [dropZeros, pow_zero, Nat.mul_one]
  | succ limit ih =>
      rw [dropZeros]
      split
      · next hzero =>
        have hrest := ih (n / 10)
        show (dropZeros limit (n / 10)).1 * 10 ^ ((dropZeros limit (n / 10)).2 + 1) = n
        rw [pow_succ, ← Nat.mul_assoc, hrest]
        omega
      · rw [pow_zero, Nat.mul_one]

theorem dropZeros_ne_zero (limit : Nat) {n : Nat} (hn : n ≠ 0) : (dropZeros limit n).1 ≠ 0 := by
  intro hzero
  have := dropZeros_mul limit n
  rw [hzero, Nat.zero_mul] at this
  exact hn this.symm

/-- Each zero that is dropped is a digit less. -/
theorem digitCount_dropZeros (limit : Nat) {n : Nat} (hn : n ≠ 0) :
    digitCount (dropZeros limit n).1 + (dropZeros limit n).2 = digitCount n := by
  rw [← digitCount_mul_pow (dropZeros_ne_zero limit hn), dropZeros_mul]

end Phrasebook
