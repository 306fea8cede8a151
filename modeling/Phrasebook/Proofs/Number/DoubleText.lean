import Mathlib.Data.List.TakeDrop
import Phrasebook.Proofs.Number.Digits
import Phrasebook.Proofs.Number.Double
import Phrasebook.Proofs.Text.Ascii
import Phrasebook.Proofs.Text.Numerals
import Phrasebook.Proofs.Text.Parts
import Phrasebook.Proofs.Text.Runs

/-!
# The text of a double-precision number

Every number that 64 bits hold writes a text that reads as a decimal number (`Double.exists_toDecimal`). The text is made of
digits, a point and an exponent, and the only limit that a decimal has to keep is on the size of its exponent; the
digits that are written are those of a number that reads back, which bounds how many there are
(`digitCount_le_of_candidate?`).
-/

namespace Phrasebook

/-! ## Digits and signs -/

/-- A code point that stands in the text of a number. -/
def IsNumeral (c : CodePoint) : Prop := c.isAsciiDigit = true ∨ c ∈ [CodePoint.ofChar '.', '-', '+', 'e']

namespace IsNumeral

theorem exists_digit {c : CodePoint} (h : c.isAsciiDigit = true) : ∃ d < 10, c = Text.digit d := by
  simp only [CodePoint.isAsciiDigit, Bool.and_eq_true, decide_eq_true_eq] at h
  refine ⟨c.val - 0x30, by omega, ?_⟩
  rw [Text.digit, if_pos (by omega), show 0x30 + (c.val - 0x30) = c.val by omega]
  exact (CodePoint.ofNat_val c).symm

/-- What holds of the ten digits and the four signs. -/
theorem induction {P : CodePoint → Prop} (hdigit : ∀ d < 10, P (Text.digit d))
    (hsign : ∀ c ∈ [CodePoint.ofChar '.', '-', '+', 'e'], P c) {c : CodePoint} (h : IsNumeral c) : P c := by
  rcases h with h | h
  · obtain ⟨d, hd, rfl⟩ := exists_digit h
    exact hdigit d hd
  · exact hsign c h

theorem not_blank {c : CodePoint} (h : IsNumeral c) : c.isBlank = false :=
  h.induction (P := fun c => c.isBlank = false) (by decide) (by decide)

theorem ne_underscore {c : CodePoint} (h : IsNumeral c) : c ≠ CodePoint.underscore :=
  h.induction (P := fun c => c ≠ CodePoint.underscore) (by decide) (by decide)

theorem asciiDigit_eq {c : CodePoint} (h : IsNumeral c) : Decimal.asciiDigit c = c :=
  h.induction (P := fun c => Decimal.asciiDigit c = c) (by decide) (by decide)

theorem not_capital {c : CodePoint} (h : IsNumeral c) : ¬(0x41 ≤ c.val ∧ c.val ≤ 0x5A) :=
  h.induction (P := fun c => ¬(0x41 ≤ c.val ∧ c.val ≤ 0x5A)) (by decide) (by decide)

end IsNumeral

namespace Decimal

theorem isNumeral_of_mem_signText (negative : Bool) : ∀ c ∈ signText negative, IsNumeral c := by
  intro c hc
  cases negative with
  | false => cases hc
  | true =>
      obtain rfl := List.mem_singleton.mp (show c ∈ [CodePoint.ofChar '-'] from hc)
      exact .inr (by decide)

theorem cutSign_signText (negative : Bool) {c : CodePoint} (rest : Text) (hc : c.isAsciiDigit = true) :
    cutSign (signText negative ++ c :: rest) = (negative, c :: rest) := by
  cases negative with
  | true => rfl
  | false =>
      have hminus : c ≠ '-' := by
        rintro rfl
        exact absurd hc (by decide)
      have hplus : c ≠ '+' := by
        rintro rfl
        exact absurd hc (by decide)
      show cutSign (c :: rest) = _
      rw [cutSign, if_neg hminus, if_neg hplus]

theorem dropLead?_of_ne {c d : CodePoint} (h : c ≠ d) (lead rest : Text) :
    Text.dropLead? (c :: lead) (d :: rest) = none := by
  rw [Text.dropLead?, if_neg h]

/-- A text of digits and signs is read as it stands, if it begins with a digit. -/
theorem ofText?_numeral (negative : Bool) {c : CodePoint} {rest : Text} (hc : c.isAsciiDigit = true)
    (hrest : ∀ d ∈ rest, IsNumeral d) :
    ofText? (signText negative ++ c :: rest) = readFinite? negative (c :: rest) := by
  have hnumeral : ∀ d ∈ c :: rest, IsNumeral d := by
    intro d hd
    rcases List.mem_cons.mp hd with rfl | hd
    · exact .inl hc
    · exact hrest d hd
  have hall : ∀ d ∈ signText negative ++ c :: rest, IsNumeral d := by
    intro d hd
    rcases List.mem_append.mp hd with hd | hd
    · exact isNumeral_of_mem_signText negative d hd
    · exact hnumeral d hd
  have hstrip : (signText negative ++ c :: rest).strip = signText negative ++ c :: rest :=
    Text.strip_eq_self fun d hd => (hall d hd).not_blank
  have hfilter : (signText negative ++ c :: rest).filter (fun d => decide (d ≠ CodePoint.underscore)) =
      signText negative ++ c :: rest := List.filter_eq_self.mpr fun d hd => decide_eq_true (hall d hd).ne_underscore
  have hmap : (signText negative ++ c :: rest).map asciiDigit = signText negative ++ c :: rest :=
    (List.map_congr_left fun d hd => (hall d hd).asciiDigit_eq).trans (List.map_id' _)
  have hlower : ((c :: rest).map fun d => if 0x41 ≤ d.val ∧ d.val ≤ 0x5A then CodePoint.ofNat (d.val + 32) else d) =
      c :: rest := (List.map_congr_left fun d hd => if_neg (hnumeral d hd).not_capital).trans (List.map_id' _)
  -- No word begins with a digit.
  have hword : ∀ d ∈ [CodePoint.ofChar 'i', 'n', 's'], d ≠ c := by
    have hletter : ∀ d ∈ [CodePoint.ofChar 'i', 'n', 's'], d.isAsciiDigit = false := by decide
    intro d hd hdc
    rw [← hdc, hletter d hd] at hc
    cases hc
  have hinf : ¬(c :: rest = Text.ofString "inf" ∨ c :: rest = Text.ofString "infinity") := by
    rintro (h | h) <;> exact hword 'i' (by decide) (List.cons.inj h).1.symm
  have hnan : Text.dropLead? "nan" (c :: rest) = none := dropLead?_of_ne (hword 'n' (by decide)) _ _
  have hsnan : Text.dropLead? "snan" (c :: rest) = none := dropLead?_of_ne (hword 's' (by decide)) _ _
  simp only [ofText?, hstrip, hfilter, hmap, cutSign_signText negative rest hc, hlower, if_neg hinf, hnan, hsnan]

/-! ## Reading -/

/-- An exponent after a number, or none. -/
inductive IsTail : Text → Prop
  | none : IsTail []
  | exponent {sign : CodePoint} {digits : Text} (hsign : sign = '+' ∨ sign = '-')
      (hdigits : ∀ c ∈ digits, c.isAsciiDigit = true) (hne : digits ≠ []) (hlen : digits.length ≤ 6) :
      IsTail (CodePoint.ofChar 'e' :: sign :: digits)

/-- Digits write a number that has no more digits. -/
theorem asciiNumber_lt {t : Text} (h : ∀ c ∈ t, c.isAsciiDigit = true) : asciiNumber t < 10 ^ t.length := by
  induction t using List.reverseRecOn with
  | nil => exact Nat.one_pos
  | append_singleton t c ih =>
      have hc : c.asciiDigitValue < 10 := by
        obtain ⟨d, hd, rfl⟩ := IsNumeral.exists_digit (h c (by simp))
        interval_cases d <;> decide
      have ht := ih fun d hd => h d (List.mem_append_left _ hd)
      have hlast : asciiNumber (t ++ [c]) = asciiNumber t * 10 + c.asciiDigitValue := by
        rw [asciiNumber, List.foldl_append]
        rfl
      rw [hlast, List.length_append, List.length_singleton, pow_succ]
      omega

theorem digitCount_asciiNumber {t : Text} (h : ∀ c ∈ t, c.isAsciiDigit = true) : digitCount (asciiNumber t) ≤ t.length + 1 := by
  rw [digitCount_le_iff (by omega)]
  exact (asciiNumber_lt h).trans_le (Nat.pow_le_pow_right (by decide) (by omega))

theorem IsTail.stops {tail : Text} (h : IsTail tail) : Text.Stops CodePoint.isAsciiDigit tail := by
  cases h with
  | none => exact Text.stops_nil
  | exponent => exact Text.stops_cons.mpr (by decide)

theorem IsTail.isNumeral {tail : Text} (h : IsTail tail) : ∀ c ∈ tail, IsNumeral c := by
  cases h with
  | none => exact fun c hc => nomatch hc
  | exponent hsign hdigits _ _ =>
      intro c hc
      rcases List.mem_cons.mp hc with rfl | hc
      · exact .inr (by decide)
      rcases List.mem_cons.mp hc with rfl | hc
      · rcases hsign with rfl | rfl <;> exact .inr (by decide)
      · exact .inl (hdigits c hc)

/-- The exponent that a tail writes. -/
def exponentOf? : Text → Option Int
  | [] => some 0
  | c :: rest => if c = 'e' ∨ c = 'E' then readExponent? rest else none

theorem IsTail.exists_exponent {tail : Text} (h : IsTail tail) : ∃ e : Int, e.natAbs < 10 ^ 6 ∧ exponentOf? tail = some e := by
  cases h with
  | none => exact ⟨0, by decide, rfl⟩
  | @exponent sign digits hsign hdigits hne hlen =>
      have hnumber : asciiNumber digits < 10 ^ 6 :=
        (asciiNumber_lt hdigits).trans_le (Nat.pow_le_pow_right (by decide) hlen)
      have hall : digits.all CodePoint.isAsciiDigit = true := List.all_eq_true.mpr hdigits
      have hempty : digits.isEmpty = false := List.isEmpty_eq_false_iff.mpr hne
      rcases hsign with rfl | rfl
      · refine ⟨asciiNumber digits, by omega, ?_⟩
        rw [exponentOf?, if_pos (.inl rfl), readExponent?, show cutSign (CodePoint.ofChar '+' :: digits) = (false, digits) from rfl]
        simp only [hempty, hall]
        rfl
      · refine ⟨-asciiNumber digits, by omega, ?_⟩
        rw [exponentOf?, if_pos (.inl rfl), readExponent?, show cutSign (CodePoint.ofChar '-' :: digits) = (true, digits) from rfl]
        simp only [hempty, hall]
        rfl

/-- A number with few digits is within the limits of a decimal. -/
theorem within_limit {t : Text} (ht : ∀ c ∈ t, c.isAsciiDigit = true) (hlen : t.length ≤ 10 ^ 6) {e : Int} {n : Nat}
    (he : e.natAbs < 10 ^ 6) (hn : n ≤ t.length) :
    ¬(e - n + digitCount (asciiNumber t) - 1 > writtenLimit ∨ e - n < -2 * writtenLimit) := by
  have hdigits := digitCount_asciiNumber ht
  unfold writtenLimit
  omega

/-- **Digits are read**, perhaps with a point among them and an exponent after them. -/
theorem exists_readFinite? (negative : Bool) {whole point fraction tail : Text} (hne : whole ≠ [])
    (hpoint : point = [] ∧ fraction = [] ∨ point = CodePoint.ofChar '.' :: fraction)
    (hwhole : ∀ c ∈ whole, c.isAsciiDigit = true) (hfraction : ∀ c ∈ fraction, c.isAsciiDigit = true) (htail : IsTail tail)
    (hlen : (whole ++ fraction).length ≤ 10 ^ 6) : ∃ d, readFinite? negative (whole ++ (point ++ tail)) = some d := by
  obtain ⟨e, he, hexponent⟩ := htail.exists_exponent
  have hdigits : ∀ c ∈ whole ++ fraction, c.isAsciiDigit = true := fun c hc =>
    (List.mem_append.mp hc).elim (hwhole c) (hfraction c)
  have hlimit := within_limit hdigits hlen he (show fraction.length ≤ (whole ++ fraction).length by simp)
  have hstops : Text.Stops CodePoint.isAsciiDigit (point ++ tail) := by
    rcases hpoint with ⟨rfl, -⟩ | rfl
    · exact htail.stops
    · exact Text.stops_cons.mpr (by decide)
  have hrun : (whole ++ (point ++ tail)).takeWhile CodePoint.isAsciiDigit = whole := Text.takeWhile_run hwhole hstops
  have hafter : (fraction ++ tail).takeWhile CodePoint.isAsciiDigit = fraction := Text.takeWhile_run hfraction htail.stops
  have hempty : ∀ b, (whole.isEmpty && b) = false := fun b => by
    rw [List.isEmpty_eq_false_iff.mpr hne, Bool.false_and]
  refine ⟨.finite negative (asciiNumber (whole ++ fraction)) (e - fraction.length), ?_⟩
  unfold readFinite?
  simp only [hrun, List.drop_left]
  -- The reader takes the digits as far as they go, so each of its four cases comes down to the bound on their number.
  cases htail with
  | none =>
      obtain rfl := Option.some.inj hexponent
      rcases hpoint with ⟨rfl, rfl⟩ | rfl
      · simp only [List.append_nil] at hlimit
        simp only [List.append_nil, hempty, Bool.false_eq_true, if_false]
        exact if_neg hlimit
      · simp only [List.append_nil] at hafter
        simp only [List.append_nil, hafter, hempty, Bool.false_eq_true, if_false, if_true, List.drop_length]
        exact if_neg hlimit
  | exponent hsign _ _ _ =>
      rw [exponentOf?, if_pos (.inl rfl)] at hexponent
      rcases hpoint with ⟨rfl, rfl⟩ | rfl
      · have hletter : ¬(CodePoint.ofChar 'e' = CodePoint.ofChar '.') := by decide
        simp only [List.nil_append, if_neg hletter, hempty, Bool.false_eq_true, if_false, true_or, if_true, hexponent]
        exact if_neg hlimit
      · simp only [List.cons_append, hafter, hempty, Bool.false_eq_true, if_false, if_true, List.drop_left, true_or, hexponent]
        exact if_neg hlimit

/-- Digits, perhaps with a point among them. -/
inductive IsPositional : Text → Prop
  | whole {digits : Text} (hne : digits ≠ []) (hdigits : ∀ c ∈ digits, c.isAsciiDigit = true)
      (hlen : digits.length ≤ 10 ^ 6) : IsPositional digits
  | point {whole fraction : Text} (hne : whole ≠ []) (hwhole : ∀ c ∈ whole, c.isAsciiDigit = true)
      (hfraction : ∀ c ∈ fraction, c.isAsciiDigit = true) (hlen : (whole ++ fraction).length ≤ 10 ^ 6) :
      IsPositional (whole ++ "." ++ fraction)

theorem IsPositional.exists_readFinite? {t tail : Text} (ht : IsPositional t) (htail : IsTail tail) (negative : Bool) :
    ∃ d, readFinite? negative (t ++ tail) = some d := by
  cases ht with
  | whole hne hdigits hlen =>
      exact Decimal.exists_readFinite? negative hne (.inl ⟨rfl, rfl⟩) hdigits (fun c hc => nomatch hc) htail
        (by rwa [List.append_nil])
  | @point whole fraction hne hwhole hfraction hlen =>
      have hpoint : Text.ofString "." ++ fraction = CodePoint.ofChar '.' :: fraction := rfl
      rw [List.append_assoc, List.append_assoc, ← List.append_assoc (Text.ofString ".")]
      exact Decimal.exists_readFinite? negative hne (.inr hpoint) hwhole hfraction htail hlen

theorem IsPositional.exists_cons {t : Text} (ht : IsPositional t) :
    ∃ c rest, t = c :: rest ∧ c.isAsciiDigit = true ∧ ∀ d ∈ rest, IsNumeral d := by
  cases ht with
  | whole hne hdigits _ =>
      obtain ⟨c, rest, rfl⟩ := List.exists_cons_of_ne_nil hne
      exact ⟨c, rest, rfl, hdigits c List.mem_cons_self, fun d hd => .inl (hdigits d (List.mem_cons_of_mem c hd))⟩
  | @point whole fraction hne hwhole hfraction _ =>
      obtain ⟨c, rest, rfl⟩ := List.exists_cons_of_ne_nil hne
      refine ⟨c, rest ++ "." ++ fraction, rfl, hwhole c List.mem_cons_self, fun d hd => ?_⟩
      rcases List.mem_append.mp hd with hd | hd
      · rcases List.mem_append.mp hd with hd | hd
        · exact .inl (hwhole d (List.mem_cons_of_mem c hd))
        · obtain rfl := List.mem_singleton.mp (show d ∈ [CodePoint.ofChar '.'] from hd)
          exact .inr (by decide)
      · exact .inl (hfraction d hd)

/-- **What is written by digits, a point and an exponent is read**, with a sign before it or none. -/
theorem IsPositional.exists_ofText? {t tail : Text} (ht : IsPositional t) (htail : IsTail tail) (negative : Bool) :
    ∃ d, ofText? (signText negative ++ (t ++ tail)) = some d := by
  obtain ⟨d, hd⟩ := ht.exists_readFinite? htail negative
  obtain ⟨c, rest, rfl, hc, hrest⟩ := ht.exists_cons
  refine ⟨d, ?_⟩
  rw [← hd, List.cons_append]
  refine ofText?_numeral negative hc fun x hx => ?_
  exact (List.mem_append.mp hx).elim (hrest x) (htail.isNumeral x)

end Decimal

namespace Double

/-! ## The digits that are written -/

/-- **The digits that are written read back**, so there are not many of them. -/
theorem digitCount_le_of_candidate? {m : Nat} {e : Int} {num den : Nat} {point : Int} {places d : Nat}
    (h : candidate? m e num den point places = some d) : (digitCount d : Int) ≤ 400 + ((places : Int) - point).natAbs := by
  have hreads : ofDecimal false d (-((places : Int) - point)) = .finite false m e := by
    unfold candidate? at h
    dsimp only at h
    split at h
    · next hbelow habove =>
      obtain rfl := Option.some.inj h
      split
      · exact of_decide_eq_true hbelow
      · exact of_decide_eq_true habove
    · next hbelow _ =>
      obtain rfl := Option.some.inj h
      exact of_decide_eq_true hbelow
    · next _ habove =>
      obtain rfl := Option.some.inj h
      exact of_decide_eq_true habove
    · cases h
  -- Numbers with more digits before the point are read as infinity, so they do not read back.
  unfold ofDecimal at hreads
  dsimp only at hreads
  by_cases hzero : d = 0
  · rw [hzero, digitCount_zero]
    omega
  split at hreads
  · omega
  split at hreads
  · cases hreads
  · omega

theorem shortestFrom_bounds (m : Nat) (e : Int) (num den : Nat) (point : Int) (fuel places : Nat) :
    digitCount (shortestFrom m e num den point fuel places).1 ≤ 400 + fuel + places + point.natAbs ∧
      (shortestFrom m e num den point fuel places).2.natAbs ≤ fuel + places + point.natAbs := by
  induction fuel generalizing places with
  | zero =>
      rw [shortestFrom, digitCount_zero]
      omega
  | succ fuel ih =>
      rw [shortestFrom]
      split
      · next d hd =>
        have := digitCount_le_of_candidate? hd
        dsimp only
        omega
      · have := ih (places + 1)
        omega

theorem decimalExponentFrom_bounds (num den : Nat) (fuel : Nat) (e : Int) :
    e ≤ decimalExponentFrom num den fuel e ∧ decimalExponentFrom num den fuel e ≤ e + fuel := by
  induction fuel generalizing e with
  | zero => exact ⟨le_rfl, by rw [decimalExponentFrom]; omega⟩
  | succ fuel ih =>
      rw [decimalExponentFrom]
      split
      · omega
      · have := ih (e + 1)
        omega

section

variable {m : Nat} {e : Int}

theorem binaryExponent_bounds (hm : m < 2 ^ 53) (hzero : m ≠ 0) :
    e ≤ binaryExponent (ratio m e).1 (ratio m e).2 ∧ binaryExponent (ratio m e).1 (ratio m e).2 < e + 53 := by
  have hpos : 0 < (ratio m e).1 := Nat.mul_pos (by omega) (powerOfTwo_pos e).1
  obtain ⟨hlow, hhigh⟩ := binaryExponent_spec hpos (ratio_pos m e)
  rw [ratio_cast] at hlow hhigh
  have hleast : (2 : ℚ) ^ e ≤ magnitude m e := by
    rw [magnitude]
    refine le_mul_of_one_le_left (zpow_nonneg (by norm_num) e) ?_
    exact_mod_cast Nat.one_le_iff_ne_zero.mpr hzero
  have hlower := (zpow_lt_zpow_iff_right₀ (by norm_num)).mp (hleast.trans_lt hhigh)
  have hupper := (zpow_lt_zpow_iff_right₀ (by norm_num)).mp (hlow.trans_lt (magnitude_lt hm e))
  omega

theorem decimalExponent_bounds (hm : m < 2 ^ 53) (hzero : m ≠ 0) (he : leastExponent ≤ e) (hlarge : e ≤ greatestExponent) :
    (decimalExponent (ratio m e).1 (ratio m e).2).natAbs ≤ 400 := by
  have hbinary := binaryExponent_bounds (e := e) hm hzero
  unfold decimalExponent
  dsimp only
  have hstart := decimalExponentFrom_bounds (ratio m e).1 (ratio m e).2 4
    (Int.fdiv (binaryExponent (ratio m e).1 (ratio m e).2 * 30103) 100000 - 1)
  rw [Int.fdiv_eq_ediv_of_nonneg _ (by decide)] at hstart ⊢
  unfold leastExponent at he
  unfold greatestExponent at hlarge
  omega

/-- **A number is written with few digits**, and its point is not far away. -/
theorem shortest_bounds (hm : m < 2 ^ 53) (hzero : m ≠ 0) (he : leastExponent ≤ e) (hlarge : e ≤ greatestExponent) :
    ∃ n p, shortest m e = (Text.ofNat n, p) ∧ (Text.ofNat n).length ≤ 1000 ∧ p.natAbs ≤ 2000 := by
  have hpoint := decimalExponent_bounds hm hzero he hlarge
  have hbounds := shortestFrom_bounds m e (ratio m e).1 (ratio m e).2 (decimalExponent (ratio m e).1 (ratio m e).2) 17 1
  obtain ⟨d, places, hshortest⟩ : ∃ d places, shortestFrom m e (ratio m e).1 (ratio m e).2
      (decimalExponent (ratio m e).1 (ratio m e).2) 17 1 = (d, places) := ⟨_, _, rfl⟩
  rw [hshortest] at hbounds
  obtain ⟨hcount, hplaces⟩ : digitCount d ≤ _ ∧ places.natAbs ≤ _ := hbounds
  have hdigits : (Text.ofNat d).length ≤ 818 := by
    show digitCount d ≤ 818
    omega
  have hreduced : digitCount (dropZeros (Text.ofNat d).length d).1 ≤ digitCount d := by
    by_cases hd : d = 0
    · subst hd
      decide +kernel
    · have := digitCount_dropZeros (Text.ofNat d).length hd
      omega
  refine ⟨(dropZeros (Text.ofNat d).length d).1, (Text.ofNat d).length - places, ?_, ?_, by omega⟩
  · unfold shortest
    simp only [hshortest]
  · show digitCount _ ≤ 1000
    exact hreduced.trans (by show (Text.ofNat d).length ≤ 1000; omega)

end

/-! ## The text -/

theorem isAsciiDigit_of_mem_ofNat (n : Nat) : ∀ c ∈ Text.ofNat n, c.isAsciiDigit = true := by
  induction n using Text.ofNat_induction with
  | small n h =>
      rw [Text.ofNat_of_lt h]
      intro c hc
      rw [List.mem_singleton.mp hc]
      interval_cases n <;> decide
  | more n h ih =>
      rw [Text.ofNat_of_ge h]
      intro c hc
      rcases List.mem_append.mp hc with hc | hc
      · exact ih c hc
      · rw [List.mem_singleton.mp hc]
        have := Nat.mod_lt n (show 0 < 10 by decide)
        interval_cases n % 10 <;> decide

theorem exponentText_isTail {e : Int} (h : e.natAbs ≤ 3000) : Decimal.IsTail (CodePoint.ofChar 'e' :: exponentText e) := by
  have hlen : (Text.ofNat e.natAbs).length ≤ 4 := (Text.length_ofNat_le_iff _ 4 (by decide)).mpr (by omega)
  have hdigits : ∀ c ∈ Text.padLeft 2 '0' (Text.ofNat e.natAbs), c.isAsciiDigit = true := by
    intro c hc
    rcases List.mem_append.mp hc with hc | hc
    · rw [List.eq_of_mem_replicate hc]
      decide
    · exact isAsciiDigit_of_mem_ofNat _ c hc
  have hne : Text.padLeft 2 '0' (Text.ofNat e.natAbs) ≠ [] := List.append_ne_nil_of_right_ne_nil _ (Text.ofNat_ne_nil _)
  have hshort : (Text.padLeft 2 '0' (Text.ofNat e.natAbs)).length ≤ 6 := by
    rw [Text.padLeft, List.length_append, List.length_replicate]
    omega
  unfold exponentText
  split
  · exact .exponent (.inr rfl) hdigits hne hshort
  · exact .exponent (.inl rfl) hdigits hne hshort

theorem isAsciiDigit_of_mem_replicate (k : Nat) :
    ∀ c ∈ List.replicate k (CodePoint.ofChar '0'), c.isAsciiDigit = true := by
  intro c hc
  rw [List.eq_of_mem_replicate hc]
  decide

section

variable {digits : Text} (hne : digits ≠ []) (hdigits : ∀ c ∈ digits, c.isAsciiDigit = true) (hlen : digits.length ≤ 1000)

include hne hdigits hlen

theorem isPositional_take (k : Nat) : Decimal.IsPositional (digits.take (k + 1) ++ "." ++ digits.drop (k + 1)) := by
  refine .point ?_ (fun c hc => hdigits c (List.mem_of_mem_take hc)) (fun c hc => hdigits c (List.mem_of_mem_drop hc)) ?_
  · rw [ne_eq, List.take_eq_nil_iff]
    simp [hne]
  · rw [List.take_append_drop]
    omega

/-- **Digits with a point put among them**, or behind them with a zero. -/
theorem isPositional_placePoint {place : Int} (hplace : place.natAbs ≤ 2000) :
    Decimal.IsPositional (if place ≥ digits.length then Decimal.placePoint digits place ++ ".0"
      else Decimal.placePoint digits place) := by
  have hpos := List.length_pos_of_ne_nil hne
  have hpadded : ∀ {k}, ∀ c ∈ digits ++ List.replicate k (CodePoint.ofChar '0'), c.isAsciiDigit = true := fun c hc =>
    (List.mem_append.mp hc).elim (hdigits c) (isAsciiDigit_of_mem_replicate _ c)
  have hfilled : ∀ {k}, ∀ c ∈ Text.zeros k ++ digits, c.isAsciiDigit = true := fun c hc =>
    (List.mem_append.mp hc).elim (isAsciiDigit_of_mem_replicate _ c) (hdigits c)
  have hzero : ∀ c ∈ Text.ofString "0", c.isAsciiDigit = true := by decide
  have hone : (Text.ofString "0").length = 1 := rfl
  unfold Decimal.placePoint
  dsimp only
  -- The point stands after the digits, before them, or among them.
  split
  · rw [if_neg (by omega), if_pos (by omega), Text.padRight]
    show Decimal.IsPositional (_ ++ (Text.ofString "." ++ Text.ofString "0"))
    rw [← List.append_assoc]
    refine .point (List.append_ne_nil_of_left_ne_nil hne _) hpadded hzero ?_
    rw [List.length_append, List.length_append, List.length_replicate, hone]
    omega
  split
  · show Decimal.IsPositional (Text.ofString "0" ++ Text.ofString "." ++ Text.zeros (-place).toNat ++ digits)
    rw [List.append_assoc]
    refine .point (by decide) hzero hfilled ?_
    rw [List.length_append, List.length_append, Text.zeros, List.length_replicate, hone]
    omega
  · obtain ⟨k, hk⟩ : ∃ k, place.toNat = k + 1 := ⟨place.toNat - 1, by omega⟩
    rw [if_neg (by omega), hk]
    exact isPositional_take hne hdigits hlen k

end

/-- **The text of a finite number reads as a decimal.** -/
theorem exists_ofText?_magnitudeText (negative : Bool) {m : Nat} {e : Int} (hm : m < 2 ^ 53) (he : leastExponent ≤ e)
    (hlarge : e ≤ greatestExponent) : ∃ d, Decimal.ofText? (Decimal.signText negative ++ magnitudeText m e) = some d := by
  have hplain : ∀ {t}, Decimal.IsPositional t → ∃ d, Decimal.ofText? (Decimal.signText negative ++ t) = some d := by
    intro t ht
    simpa only [List.append_nil] using ht.exists_ofText? .none negative
  unfold magnitudeText
  split
  · have hzero : Decimal.IsPositional (Text.ofString "0" ++ "." ++ Text.ofString "0") :=
      .point (by decide) (by decide) (by decide) (by decide)
    exact hplain hzero
  next hzero =>
  obtain ⟨n, p, hshortest, hlen, hp⟩ := shortest_bounds hm hzero he hlarge
  have hdigits := isAsciiDigit_of_mem_ofNat n
  have hne := Text.ofNat_ne_nil n
  rw [hshortest]
  dsimp only
  split
  · exact hplain (isPositional_placePoint hne hdigits hlen hp)
  · have htail := exponentText_isTail (e := p - 1) (by omega)
    rw [List.append_assoc]
    split
    · exact Decimal.IsPositional.exists_ofText? (.whole hne hdigits (by omega)) htail negative
    · exact Decimal.IsPositional.exists_ofText? (isPositional_take hne hdigits hlen 0) htail negative

/-- **Every number that 64 bits hold is a decimal number.** -/
theorem exists_toDecimal {x : Double} (hx : x.IsProper) : ∃ d, x.toDecimal = some d := by
  cases x with
  | nan => exact ⟨.nan false false 0, by decide⟩
  | infinite negative => exact ⟨.infinite negative, by cases negative <;> decide⟩
  | finite negative m e =>
      obtain ⟨hm, he, hlarge⟩ := hx
      exact exists_ofText?_magnitudeText negative hm he hlarge

end Double

end Phrasebook
