import Mathlib.Data.List.Induction
import Mathlib.Tactic.IntervalCases
import Phrasebook.Number.Count

/-!
# Decimal notation, written and read

A number has at most `k` digits in a base exactly if it is below the `k`-th power of the base
(`length_digitsOnto_le_iff`). The digits that `Text.ofNat` writes are read back as the number that they
came from (`decimalNumber?_ofNat`). Together they say which numbers `Count.ofDigits` reads back: those with
no more digits than it allows.
-/

namespace Phrasebook

namespace Text

/-! ## Digits in any base -/

section Base

variable {base : Nat} (h : 1 < base)

theorem digitsOnto_append (n : Nat) (written : Text) :
    digitsOnto base h n written = digitsOnto base h n [] ++ written := by
  induction n using Nat.strong_induction_on generalizing written with
  | _ n ih =>
      unfold digitsOnto
      split
      · rfl
      · have hlt : n / base < n := Nat.div_lt_self (by omega) h
        rw [ih (n / base) hlt, ih (n / base) hlt [digit (n % base)], List.append_assoc]
        rfl

theorem digitsOnto_of_lt {n : Nat} (hn : n < base) : digitsOnto base h n [] = [digit n] := by
  rw [digitsOnto, if_pos hn]

/-- The last digit is the remainder. -/
theorem digitsOnto_of_ge {n : Nat} (hn : base ≤ n) :
    digitsOnto base h n [] = digitsOnto base h (n / base) [] ++ [digit (n % base)] := by
  rw [digitsOnto, if_neg (by omega), digitsOnto_append]

include h in
/-- Induction on the digits of a number. -/
theorem digits_induction {motive : Nat → Prop} (small : ∀ n, n < base → motive n)
    (more : ∀ n, base ≤ n → motive (n / base) → motive n) (n : Nat) : motive n := by
  induction n using Nat.strong_induction_on with
  | _ n ih =>
      rcases Nat.lt_or_ge n base with hn | hn
      · exact small n hn
      · exact more n hn (ih (n / base) (Nat.div_lt_self (by omega) h))

theorem digitsOnto_ne_nil (n : Nat) : digitsOnto base h n [] ≠ [] := by
  rcases Nat.lt_or_ge n base with hn | hn
  · rw [digitsOnto_of_lt h hn]
    exact List.cons_ne_nil _ _
  · rw [digitsOnto_of_ge h hn]
    exact List.append_ne_nil_of_right_ne_nil _ (List.cons_ne_nil _ _)

/-- **A number has at most `k` digits exactly if it is below `base ^ k`.** -/
theorem length_digitsOnto_le_iff (n k : Nat) (hk : 0 < k) :
    (digitsOnto base h n []).length ≤ k ↔ n < base ^ k := by
  induction n using digits_induction h generalizing k with
  | small n hn =>
      rw [digitsOnto_of_lt h hn, List.length_singleton]
      have hpow : base ^ 1 ≤ base ^ k := Nat.pow_le_pow_right (by omega) hk
      rw [Nat.pow_one] at hpow
      omega
  | more n hn ih =>
      obtain ⟨j, rfl⟩ : ∃ j, k = j + 1 := ⟨k - 1, by omega⟩
      rw [digitsOnto_of_ge h hn, List.length_append, List.length_singleton, Nat.pow_succ]
      rcases Nat.eq_zero_or_pos j with rfl | hj
      · have hlength := List.length_pos_iff.mpr (digitsOnto_ne_nil h (n / base))
        rw [Nat.pow_zero, Nat.one_mul]
        omega
      · rw [← Nat.div_lt_iff_lt_mul (by omega), ← ih j hj]
        omega

end Base

/-! ## Decimal notation -/

theorem ofNat_of_lt {n : Nat} (h : n < 10) : ofNat n = [digit n] := digitsOnto_of_lt _ h

theorem ofNat_of_ge {n : Nat} (h : 10 ≤ n) : ofNat n = ofNat (n / 10) ++ [digit (n % 10)] :=
  digitsOnto_of_ge _ h

/-- Induction on the decimal notation of a number. -/
theorem ofNat_induction {motive : Nat → Prop} (small : ∀ n, n < 10 → motive n)
    (more : ∀ n, 10 ≤ n → motive (n / 10) → motive n) (n : Nat) : motive n :=
  digits_induction (by decide) small more n

theorem digit_isDigit {d : Nat} (h : d < 10) : (digit d).isDigit = true := by
  interval_cases d <;> decide

theorem digitValue?_digit {d : Nat} (h : d < 10) : (digit d).digitValue? = some d := by
  interval_cases d <;> decide

theorem isDigit_of_mem_ofNat (n : Nat) : ∀ c ∈ ofNat n, c.isDigit = true := by
  induction n using ofNat_induction with
  | small n h =>
      rw [ofNat_of_lt h]
      intro c hc
      rw [List.mem_singleton.mp hc]
      exact digit_isDigit h
  | more n h ih =>
      rw [ofNat_of_ge h]
      intro c hc
      rcases List.mem_append.mp hc with hc | hc
      · exact ih c hc
      · rw [List.mem_singleton.mp hc]
        exact digit_isDigit (Nat.mod_lt n (by decide))

theorem ofNat_ne_nil (n : Nat) : ofNat n ≠ [] := digitsOnto_ne_nil _ n

/-- **A number has at most `k` decimal digits exactly if it is below `10 ^ k`.** -/
theorem length_ofNat_le_iff (n k : Nat) (hk : 0 < k) : (ofNat n).length ≤ k ↔ n < 10 ^ k :=
  length_digitsOnto_le_iff _ n k hk

end Text

theorem decimalNumber?_append (t : Text) (c : CodePoint) :
    decimalNumber? (t ++ [c]) = (do return (← decimalNumber? t) * 10 + (← c.digitValue?)) := by
  simp only [decimalNumber?, List.foldl_append, List.foldl_cons, List.foldl_nil]

/-- **Decimal notation is read back.** -/
theorem decimalNumber?_ofNat (n : Nat) : decimalNumber? (Text.ofNat n) = some n := by
  induction n using Text.ofNat_induction with
  | small n h =>
      rw [Text.ofNat_of_lt h]
      simp [decimalNumber?, Text.digitValue?_digit h]
  | more n h ih =>
      rw [Text.ofNat_of_ge h, decimalNumber?_append, ih,
        Text.digitValue?_digit (Nat.mod_lt n (by decide))]
      show some (n / 10 * 10 + n % 10) = some n
      rw [Nat.div_add_mod']

/-- ASCII digits are digits. -/
theorem isDigit_of_ascii {c : CodePoint} (h : c.isAsciiDigit = true) : c.isDigit = true := by
  have hrange : 0x30 ≤ c.val ∧ c.val ≤ 0x39 := by
    simpa [CodePoint.isAsciiDigit] using h
  have hall : ∀ n ∈ List.range' 0x30 10, Unicode.inRanges Unicode.digitRanges n = true := by decide
  apply hall
  rw [List.mem_range'_1]
  omega

/-- ASCII digits are decimal digits. -/
theorem digitValue?_of_ascii {c : CodePoint} (h : c.isAsciiDigit = true) :
    c.digitValue? = some c.asciiDigitValue := by
  have hrange : 0x30 ≤ c.val ∧ c.val ≤ 0x39 := by
    simpa [CodePoint.isAsciiDigit] using h
  have hfirst : (decide (0x30 ≤ c.val) && decide (c.val ≤ 0x30 + 9)) = true := by
    simp only [Bool.and_eq_true, decide_eq_true_eq]
    omega
  rw [CodePoint.asciiDigitValue, if_pos h, CodePoint.digitValue?, Unicode.decimalZeros,
    List.find?_cons_of_pos (by exact hfirst)]
  rfl

/-- ASCII digits write a number. -/
theorem decimalNumber?_of_ascii {t : Text} (h : ∀ c ∈ t, c.isAsciiDigit = true) :
    decimalNumber? t = some (asciiNumber t) := by
  induction t using List.reverseRecOn with
  | nil => rfl
  | append_singleton t c ih =>
      have ht := ih fun d hd => h d (List.mem_append_left [c] hd)
      have hc := digitValue?_of_ascii (h c (List.mem_append_right t List.mem_cons_self))
      rw [decimalNumber?_append, ht, hc, asciiNumber, asciiNumber, List.foldl_append]
      rfl

namespace Count

/-- A run of decimal digits is read if it is not too long. -/
theorem ofDigits_of_short {t : Text} {n : Nat} (hne : t ≠ []) (hlen : t.length ≤ digitLimit)
    (hn : decimalNumber? t = some n) : ofDigits t = .ok n := by
  have hguard : (t.isEmpty || decide (t.length > digitLimit)) = false := by
    simp only [Bool.or_eq_false_iff, List.isEmpty_eq_false_iff, decide_eq_false_iff_not]
    exact ⟨hne, Nat.not_lt.mpr hlen⟩
  rw [ofDigits, hguard, hn]
  rfl

/-- A number is read back if it has few enough digits. -/
theorem ofDigits_ofNat {n : Nat} (h : n < 10 ^ digitLimit) : ofDigits (Text.ofNat n) = .ok n :=
  ofDigits_of_short (Text.ofNat_ne_nil n) ((Text.length_ofNat_le_iff n digitLimit (by decide)).mpr h)
    (decimalNumber?_ofNat n)

/-- A run that is too long is refused, whatever its digits are. -/
theorem ofDigits_of_long {t : Text} (hlen : digitLimit < t.length) : ofDigits t = .error .value := by
  have hguard : (t.isEmpty || decide (t.length > digitLimit)) = true := by
    rw [Bool.or_eq_true, decide_eq_true_eq]
    exact .inr hlen
  rw [ofDigits, hguard]
  rfl

/-- A number with more digits than that is refused. -/
theorem ofDigits_ofNat_error {n : Nat} (h : 10 ^ digitLimit ≤ n) :
    ofDigits (Text.ofNat n) = .error .value := by
  apply ofDigits_of_long
  by_contra hlen
  exact absurd ((Text.length_ofNat_le_iff n digitLimit (by decide)).mp (Nat.le_of_not_lt hlen)) (Nat.not_lt.mpr h)

/-- A run of ASCII digits is read if it is not too long. -/
theorem ofDigits_of_ascii {t : Text} (hne : t ≠ []) (hlen : t.length ≤ digitLimit)
    (h : ∀ c ∈ t, c.isAsciiDigit = true) : ofDigits t = .ok (asciiNumber t) :=
  ofDigits_of_short hne hlen (decimalNumber?_of_ascii h)

end Count

end Phrasebook
