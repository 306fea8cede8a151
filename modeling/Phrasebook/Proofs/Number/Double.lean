import Mathlib.Algebra.Order.Field.Power
import Mathlib.Data.Rat.Cast.Order
import Mathlib.Tactic.FieldSimp
import Mathlib.Tactic.Linarith
import Mathlib.Tactic.Ring
import Phrasebook.Number.Double
import Phrasebook.Proofs.Number.Digits

/-!
# Rounding to double precision

The nearest double-precision number lies on the same side of a double-precision number as what is rounded
(`ofRatio_spec`). So a fraction that is such a number is kept as it is, and integers bound what rounds to them.
-/

namespace Phrasebook.Double

/-- The value of a mantissa and an exponent. -/
def magnitude (m : Nat) (e : Int) : ℚ := m * 2 ^ e

/-- A number as 64 bits hold it. -/
def IsProper : Double → Prop
  | finite _ m e => m < 2 ^ 53 ∧ leastExponent ≤ e ∧ e ≤ greatestExponent
  | _ => True

theorem magnitude_nonneg (m : Nat) (e : Int) : 0 ≤ magnitude m e :=
  mul_nonneg (Nat.cast_nonneg m) (zpow_nonneg (by norm_num) e)

theorem magnitude_lt {m : Nat} (hm : m < 2 ^ 53) (e : Int) : magnitude m e < 2 ^ (e + 53) := by
  rw [magnitude, add_comm, zpow_add₀ (by norm_num)]
  exact mul_lt_mul_of_pos_right (by exact_mod_cast hm) (zpow_pos (by norm_num) e)

theorem magnitude_mul (m n : Nat) (e f : Int) : magnitude (m * n) (e + f) = magnitude m e * magnitude n f := by
  rw [magnitude, magnitude, magnitude, zpow_add₀ (by norm_num)]
  push_cast
  ring

@[simp] theorem magnitude_integer (n : Nat) : magnitude n 0 = n := by
  rw [magnitude, zpow_zero, mul_one]

theorem powerOfTwo_pos (e : Int) : 0 < (powerOfTwo e).1 ∧ 0 < (powerOfTwo e).2 :=
  ⟨Nat.two_pow_pos _, Nat.two_pow_pos _⟩

theorem powerOfTwo_cast (e : Int) : ((powerOfTwo e).1 : ℚ) / (powerOfTwo e).2 = 2 ^ e := by
  obtain ⟨n, rfl | rfl⟩ := e.eq_nat_or_neg
  · simp [powerOfTwo]
  · simp [powerOfTwo]

theorem ratio_cast (m : Nat) (e : Int) : ((ratio m e).1 : ℚ) / (ratio m e).2 = magnitude m e := by
  rw [magnitude, ← powerOfTwo_cast e]
  simp only [ratio, Nat.cast_mul]
  ring

theorem ratio_pos (m : Nat) (e : Int) : 0 < (ratio m e).2 := (powerOfTwo_pos e).2

/-- **The exponent of the leading binary digit.** -/
theorem binaryExponent_spec {num den : Nat} (hn : 0 < num) (hd : 0 < den) :
    (2 : ℚ) ^ binaryExponent num den ≤ num / den ∧ (num : ℚ) / den < 2 ^ (binaryExponent num den + 1) := by
  have hden : (0 : ℚ) < den := by exact_mod_cast hd
  have hnum : (2 : ℚ) ^ (num.log2 : Int) ≤ num ∧ (num : ℚ) < 2 ^ ((num.log2 : Int) + 1) := by
    exact_mod_cast And.intro (Nat.log2_self_le hn.ne') (Nat.lt_log2_self (n := num))
  have hden' : (2 : ℚ) ^ (den.log2 : Int) ≤ den ∧ (den : ℚ) < 2 ^ ((den.log2 : Int) + 1) := by
    exact_mod_cast And.intro (Nat.log2_self_le hd.ne') (Nat.lt_log2_self (n := den))
  obtain ⟨g, hg⟩ : ∃ g : Int, g = num.log2 - den.log2 := ⟨_, rfl⟩
  obtain ⟨hp, hq⟩ := powerOfTwo_pos g
  have htwo : (2 : ℚ) ≠ 0 := by norm_num
  -- The difference of the lengths is the exponent or one more. The test tells which.
  have hlow : (2 : ℚ) ^ (g - 1) ≤ num / den := by
    rw [le_div_iff₀ hden]
    calc (2 : ℚ) ^ (g - 1) * den ≤ 2 ^ (g - 1) * 2 ^ ((den.log2 : Int) + 1) :=
          mul_le_mul_of_nonneg_left hden'.2.le (zpow_nonneg (by norm_num) _)
      _ = 2 ^ (num.log2 : Int) := by rw [← zpow_add₀ htwo, hg]; congr 1; omega
      _ ≤ num := hnum.1
  have hhigh : (num : ℚ) / den < 2 ^ (g + 1) := by
    rw [div_lt_iff₀ hden]
    calc (num : ℚ) < 2 ^ ((num.log2 : Int) + 1) := hnum.2
      _ = 2 ^ (g + 1) * 2 ^ (den.log2 : Int) := by rw [← zpow_add₀ htwo, hg]; congr 1; omega
      _ ≤ 2 ^ (g + 1) * den := mul_le_mul_of_nonneg_left hden'.1 (zpow_nonneg (by norm_num) _)
  have htest : num * (powerOfTwo g).2 < den * (powerOfTwo g).1 ↔ (num : ℚ) / den < 2 ^ g := by
    rw [← powerOfTwo_cast, div_lt_div_iff₀ hden (by exact_mod_cast hq), mul_comm ((powerOfTwo g).1 : ℚ)]
    exact_mod_cast Iff.rfl
  simp only [binaryExponent]
  rw [← hg]
  split
  · next h => exact ⟨hlow, by rw [sub_add_cancel]; exact htest.mp h⟩
  · next h => exact ⟨not_lt.mp fun hlt => h (htest.mpr hlt), hhigh⟩

/-! ## The nearest number -/

/-- The exponent with which a fraction is rounded. -/
def lastExponent (num den : Nat) : Int := max (binaryExponent num den - 52) leastExponent

/-- The rounded digits of a fraction. -/
def digits (num den : Nat) : Nat :=
  divideToEven (num * (powerOfTwo (lastExponent num den)).2) (den * (powerOfTwo (lastExponent num den)).1)

section

variable {num den : Nat}

theorem ofRatio_eq (negative : Bool) (hn : 0 < num) (hd : 0 < den) :
    ofRatio negative num den =
      if digits num den = 2 ^ 53 then
        if lastExponent num den + 1 > greatestExponent then .infinite negative
        else .finite negative (2 ^ 52) (lastExponent num den + 1)
      else if lastExponent num den > greatestExponent then .infinite negative
      else .finite negative (digits num den) (lastExponent num den) := by
  unfold ofRatio
  rw [if_neg (show ¬(num = 0 ∨ den = 0) by omega)]
  simp only [digits, lastExponent]
  split <;> simp_all

/-- The fraction in units of its last digit. -/
theorem ratio_eq_scaled (num : Nat) (hd : 0 < den) :
    (num : ℚ) / den = ((num * (powerOfTwo (lastExponent num den)).2 : Nat) : ℚ) /
      (den * (powerOfTwo (lastExponent num den)).1 : Nat) * 2 ^ lastExponent num den := by
  obtain ⟨hp, hq⟩ := powerOfTwo_pos (lastExponent num den)
  have hp' : ((powerOfTwo (lastExponent num den)).1 : ℚ) ≠ 0 := by exact_mod_cast hp.ne'
  have hq' : ((powerOfTwo (lastExponent num den)).2 : ℚ) ≠ 0 := by exact_mod_cast hq.ne'
  have hden : (den : ℚ) ≠ 0 := by exact_mod_cast hd.ne'
  rw [← powerOfTwo_cast]
  push_cast
  field_simp

/-- A number of units that the fraction reaches is reached by its digits. -/
theorem le_digits (hd : 0 < den) {n : Nat} (h : n * (2 : ℚ) ^ lastExponent num den ≤ num / den) : n ≤ digits num den := by
  have hpow : (0 : ℚ) < 2 ^ lastExponent num den := zpow_pos (by norm_num) _
  have hunit : 0 < den * (powerOfTwo (lastExponent num den)).1 := Nat.mul_pos hd (powerOfTwo_pos _).1
  rw [ratio_eq_scaled num hd, mul_le_mul_iff_left₀ hpow, le_div_iff₀ (by exact_mod_cast hunit)] at h
  exact le_divideToEven hunit (by exact_mod_cast h)

/-- A number of units that the fraction does not exceed is not exceeded by its digits. -/
theorem digits_le (hd : 0 < den) {n : Nat} (h : (num : ℚ) / den ≤ n * 2 ^ lastExponent num den) : digits num den ≤ n := by
  have hpow : (0 : ℚ) < 2 ^ lastExponent num den := zpow_pos (by norm_num) _
  have hunit : 0 < den * (powerOfTwo (lastExponent num den)).1 := Nat.mul_pos hd (powerOfTwo_pos _).1
  rw [ratio_eq_scaled num hd, mul_le_mul_iff_left₀ hpow, div_le_iff₀ (by exact_mod_cast hunit)] at h
  exact divideToEven_le hunit (by exact_mod_cast h)

theorem digits_le_full (hn : 0 < num) (hd : 0 < den) : digits num den ≤ 2 ^ 53 := by
  refine digits_le hd ((binaryExponent_spec hn hd).2.le.trans ?_)
  rw [Nat.cast_pow, Nat.cast_ofNat, ← zpow_natCast, ← zpow_add₀ (by norm_num)]
  refine zpow_le_zpow_right₀ (by norm_num) ?_
  unfold lastExponent
  omega

/-- A number with a last digit no lower than that of the fraction, in units of the latter. -/
theorem magnitude_eq_units (M : Nat) {E : Int} (h : lastExponent num den ≤ E) :
    magnitude M E = ((M * 2 ^ (E - lastExponent num den).toNat : Nat) : ℚ) * 2 ^ lastExponent num den := by
  have hsplit : (2 : ℚ) ^ E = 2 ^ ((E - lastExponent num den).toNat : Int) * 2 ^ lastExponent num den := by
    rw [← zpow_add₀ (by norm_num)]
    congr 1
    omega
  rw [magnitude, hsplit, zpow_natCast]
  push_cast
  ring

theorem lastExponent_le (hn : 0 < num) (hd : 0 < den) {E : Int} (hE : leastExponent ≤ E)
    (hlt : (num : ℚ) / den < 2 ^ (E + 53)) : lastExponent num den ≤ E := by
  have : binaryExponent num den < E + 53 :=
    (zpow_lt_zpow_iff_right₀ (by norm_num)).mp ((binaryExponent_spec hn hd).1.trans_lt hlt)
  unfold lastExponent
  omega

/-- **Rounding keeps the order.** The number nearest to a fraction is on the same side as the fraction of every
number that has no digits beyond those of the nearest, and it has no larger an exponent than a number above. -/
theorem ofRatio_spec (negative : Bool) (hn : 0 < num) (hd : 0 < den) :
    ∃ m e, m < 2 ^ 53 ∧ leastExponent ≤ e ∧
      ofRatio negative num den = (if e > greatestExponent then .infinite negative else .finite negative m e) ∧
      (∀ M E, leastExponent ≤ E → (num : ℚ) / den < 2 ^ (E + 53) → magnitude M E ≤ num / den →
        magnitude M E ≤ magnitude m e) ∧
      ∀ M E, M < 2 ^ 53 → leastExponent ≤ E → num / den ≤ magnitude M E → e ≤ E ∧ magnitude m e ≤ magnitude M E := by
  have hleast : leastExponent ≤ lastExponent num den := le_max_right _ _
  have hpow : (0 : ℚ) ≤ 2 ^ lastExponent num den := zpow_nonneg (by norm_num) _
  -- In units of the last digit the numbers on either side are integers.
  have hbelow : ∀ M E, leastExponent ≤ E → (num : ℚ) / den < 2 ^ (E + 53) → magnitude M E ≤ num / den →
      magnitude M E ≤ magnitude (digits num den) (lastExponent num den) := by
    intro M E hE hlt h
    rw [magnitude_eq_units M (lastExponent_le hn hd hE hlt)] at h ⊢
    exact mul_le_mul_of_nonneg_right (by exact_mod_cast le_digits hd h) hpow
  have habove : ∀ M E, M < 2 ^ 53 → leastExponent ≤ E → num / den ≤ magnitude M E →
      lastExponent num den ≤ E ∧ magnitude (digits num den) (lastExponent num den) ≤ magnitude M E := by
    intro M E hM hE h
    have hle := lastExponent_le hn hd hE (h.trans_lt (magnitude_lt hM E))
    rw [magnitude_eq_units M hle] at h ⊢
    exact ⟨hle, mul_le_mul_of_nonneg_right (by exact_mod_cast digits_le hd h) hpow⟩
  rw [ofRatio_eq negative hn hd]
  by_cases hcarry : digits num den = 2 ^ 53
  · -- Rounding has made one digit more, and the last one is given up without loss.
    have hsame : magnitude (digits num den) (lastExponent num den) = magnitude (2 ^ 52) (lastExponent num den + 1) := by
      rw [hcarry, magnitude, magnitude, zpow_add_one₀ (by norm_num)]
      push_cast
      ring
    refine ⟨2 ^ 52, lastExponent num den + 1, by norm_num, by omega, by rw [if_pos hcarry], ?_, ?_⟩
    · exact fun M E hE hlt h => hsame ▸ hbelow M E hE hlt h
    · intro M E hM hE h
      obtain ⟨-, hle⟩ := habove M E hM hE h
      refine ⟨?_, hsame ▸ hle⟩
      -- The digits are a power of two, which the number above can only reach with the same exponent.
      have hfull : (2 : ℚ) ^ (lastExponent num den + 53) < 2 ^ (E + 53) := by
        refine lt_of_le_of_lt (le_of_eq ?_) (hle.trans_lt (magnitude_lt hM E))
        rw [hcarry, magnitude, zpow_add₀ (by norm_num), mul_comm]
        norm_num
      have := (zpow_lt_zpow_iff_right₀ (by norm_num)).mp hfull
      omega
  · refine ⟨digits num den, lastExponent num den, lt_of_le_of_ne (digits_le_full hn hd) hcarry, hleast,
      by rw [if_neg hcarry], hbelow, habove⟩

end

theorem ofRatio_zero (negative : Bool) (den : Nat) : ofRatio negative 0 den = .finite negative 0 leastExponent := by
  rw [ofRatio, if_pos (.inl rfl), zero]

theorem magnitude_zero (e : Int) : magnitude 0 e = 0 := by
  rw [magnitude, Nat.cast_zero, zero_mul]

/-- **A number that can be held, or infinity, is what any fraction is rounded to.** -/
theorem ofRatio_isProper (negative : Bool) (num den : Nat) : (ofRatio negative num den).IsProper := by
  by_cases hzero : num = 0 ∨ den = 0
  · rw [ofRatio, if_pos hzero]
    exact ⟨by norm_num, le_rfl, by decide⟩
  · obtain ⟨m, e, hm, he, heq, -⟩ := ofRatio_spec negative (show 0 < num by omega) (show 0 < den by omega)
    rw [heq]
    split
    · trivial
    · next hle => exact ⟨hm, he, not_lt.mp hle⟩

/-- **A fraction that does not exceed a number is rounded to one that does not either.** -/
theorem ofRatio_le (negative : Bool) {num den M : Nat} {E : Int} (hd : 0 < den) (hM : M < 2 ^ 53) (hE : leastExponent ≤ E)
    (hlarge : E ≤ greatestExponent) (h : (num : ℚ) / den ≤ magnitude M E) :
    ∃ m e, ofRatio negative num den = .finite negative m e ∧ magnitude m e ≤ magnitude M E ∧
      ∀ M' E', leastExponent ≤ E' → (num : ℚ) / den < 2 ^ (E' + 53) → magnitude M' E' ≤ num / den →
        magnitude M' E' ≤ magnitude m e := by
  rcases Nat.eq_zero_or_pos num with rfl | hn
  · refine ⟨0, leastExponent, ofRatio_zero negative den, ?_, fun M' E' hE' hlt h' => ?_⟩
    · rw [magnitude_zero]
      exact magnitude_nonneg M E
    · rwa [Nat.cast_zero, zero_div, ← magnitude_zero leastExponent] at h'
  · obtain ⟨m, e, hm, he, heq, hbelow, habove⟩ := ofRatio_spec negative hn hd
    obtain ⟨hexponent, hle⟩ := habove M E hM hE h
    exact ⟨m, e, by rw [heq, if_neg (by omega)], hle, hbelow⟩

/-- **A fraction that is a number is kept.** -/
theorem ofRatio_exact (negative : Bool) {num den M : Nat} {E : Int} (hd : 0 < den) (hM : M < 2 ^ 53)
    (hE : leastExponent ≤ E) (hlarge : E ≤ greatestExponent) (h : (num : ℚ) / den = magnitude M E) :
    ∃ m e, ofRatio negative num den = .finite negative m e ∧ magnitude m e = magnitude M E := by
  obtain ⟨m, e, heq, hle, hbelow⟩ := ofRatio_le negative hd hM hE hlarge h.le
  exact ⟨m, e, heq, le_antisymm hle (hbelow M E hE (h ▸ magnitude_lt hM E) h.ge)⟩

/-- **Integers stay on their side** of a fraction that is not too large, when it is rounded. -/
theorem ofRatio_integers (negative : Bool) {num den bound : Nat} (hd : 0 < den) (hbound : bound < 2 ^ 53)
    (h : (num : ℚ) / den ≤ bound) :
    ∃ m e, ofRatio negative num den = .finite negative m e ∧ ∀ j : Nat,
      ((j : ℚ) ≤ num / den → (j : ℚ) ≤ magnitude m e) ∧ (j < 2 ^ 53 → (num : ℚ) / den ≤ j → magnitude m e ≤ j) := by
  have hle : ∀ j : Nat, j < 2 ^ 53 → (num : ℚ) / den ≤ j → _ := fun j hj hx =>
    ofRatio_le negative hd hj (show leastExponent ≤ 0 by decide) (by decide) ((magnitude_integer j).symm ▸ hx)
  obtain ⟨m, e, heq, -, hbelow⟩ := hle bound hbound h
  refine ⟨m, e, heq, fun j => ⟨fun hj => ?_, fun hj hx => ?_⟩⟩
  · have hlt : (num : ℚ) / den < 2 ^ ((0 : Int) + 53) := by
      rw [zero_add]
      exact h.trans_lt (by exact_mod_cast hbound)
    simpa only [magnitude_integer] using hbelow j 0 (by decide) hlt (by rwa [magnitude_integer])
  · obtain ⟨m', e', heq', hle', -⟩ := hle j hj hx
    obtain ⟨-, rfl, rfl⟩ := Double.finite.inj (heq.symm.trans heq')
    rwa [magnitude_integer] at hle'

end Phrasebook.Double
