import Phrasebook.Proofs.Outcome
import Phrasebook.Proofs.Text.Hexadecimal
import Phrasebook.Render.Composite

/-!
# Integers in hexadecimal composite formats

The letter X writes an integer in hexadecimal notation and fills the text up with zeros to the width that stands
after the letter. The zeros go before the whole text, its sign included, so what comes of it is a numeral of that
width where no sign is in the way: for the integers that are not negative, and for those that need no zeros
(`composite_isHexNumeral_iff`).
-/

namespace Phrasebook.Render

open Text

/-- The letter of hexadecimal notation, in either case. -/
def IsHexLetter (x : CodePoint) : Prop := x = 'X' ∨ x = 'x'

instance : DecidablePred IsHexLetter := fun _ => inferInstanceAs (Decidable (_ ∨ _))

variable {x : CodePoint} {p : Text}

/-! ## What is written -/

/-- The digits of a natural number, in capitals or not. -/
def hexDigits (isUpper : Bool) (n : Nat) : Text := if isUpper then (ofNatHex n).upper else ofNatHex n

theorem hexText_eq (isUpper : Bool) (n : Int) :
    hexText isUpper n = (if n < 0 then Text.ofString "-" else []) ++ hexDigits isUpper n.natAbs := rfl

theorem upper_ofNatHex (n : Nat) : (ofNatHex n).upper = (ofNatHex n).map CodePoint.raised :=
  upper_ascii (isAscii_ofNatHex n)

theorem length_hexDigits (isUpper : Bool) (n : Nat) : (hexDigits isUpper n).length = (ofNatHex n).length := by
  cases isUpper with
  | false => rfl
  | true => rw [hexDigits, if_pos rfl, upper_ofNatHex, List.length_map]

theorem hexDigits_ne_nil (isUpper : Bool) (n : Nat) : hexDigits isUpper n ≠ [] := by
  rw [← List.length_pos_iff, length_hexDigits, List.length_pos_iff]
  exact ofNatHex_ne_nil n

/-- Capitals are read as the same number. -/
theorem hexNumber?_hexDigits (isUpper : Bool) (n : Nat) : hexNumber? (hexDigits isUpper n) = some n := by
  cases isUpper with
  | false => exact hexNumber?_ofNatHex n
  | true => rw [hexDigits, if_pos rfl, upper_ofNatHex, hexNumber?_raised, hexNumber?_ofNatHex]

theorem le_length_hexDigits_iff (isUpper : Bool) {n width : Nat} (hn : 0 < n) :
    width ≤ (hexDigits isUpper n).length ↔ 16 ^ (width - 1) ≤ n := by
  rw [length_hexDigits]
  have hpos : 0 < (ofNatHex n).length := List.length_pos_iff.mpr (ofNatHex_ne_nil n)
  rcases Nat.lt_or_ge 1 width with hwide | hnarrow
  · have hlength := length_ofNatHex_le_iff n (width - 1) (by omega)
    omega
  · have hzero : width - 1 = 0 := by omega
    rw [hzero, Nat.pow_zero]
    omega

/-- Filled up with zeros, the notation of an integer that is not negative stays a numeral. -/
theorem isHexNumeral_padLeft_natural (isUpper : Bool) (width n : Nat) :
    IsHexNumeral width n (padLeft width '0' (hexText isUpper n)) := by
  rw [hexText_eq, if_neg (by omega), List.nil_append, padLeft]
  apply isHexNumeral_plain
  · exact List.append_ne_nil_of_right_ne_nil _ (hexDigits_ne_nil isUpper _)
  · rw [List.length_append, List.length_replicate]
    omega
  · exact (hexNumber?_zeros _ _).trans (hexNumber?_hexDigits isUpper _)

/-- Filled up with zeros, the notation of a negative integer is a numeral only if there is nothing to fill up. -/
theorem isHexNumeral_padLeft_negative_iff (isUpper : Bool) (width : Nat) {n : Int} (hn : n < 0) :
    IsHexNumeral width n (padLeft width '0' (hexText isUpper n)) ↔ 16 ^ (width - 1) ≤ n.natAbs := by
  have hsize : 0 < n.natAbs := by omega
  have hlength : (CodePoint.ofChar '-' :: hexDigits isUpper n.natAbs).length
      = (hexDigits isUpper n.natAbs).length + 1 := List.length_cons
  have htext : hexText isUpper n = CodePoint.ofChar '-' :: hexDigits isUpper n.natAbs := by
    rw [hexText_eq, if_pos hn]
    rfl
  rw [← le_length_hexDigits_iff isUpper hsize, htext, padLeft, hlength]
  constructor
  · intro h
    exact h.minus_first.2
  · intro hwidth
    have hnone : width - ((hexDigits isUpper n.natAbs).length + 1) = 0 := by omega
    have hsigned : -(n.natAbs : Int) = n := by rw [Int.ofNat_natAbs_of_nonpos (Int.le_of_lt hn), Int.neg_neg]
    have hnumeral := isHexNumeral_minus (hexDigits_ne_nil isUpper _) hwidth (hexNumber?_hexDigits isUpper _)
    rw [hsigned] at hnumeral
    rw [hnone, List.replicate_zero, List.nil_append]
    exact hnumeral

/-! ## Reading the format -/

/-- The width that some digits ask for, if they are not too many and a text can be so wide. -/
def widthOf (p : Text) : Except Obstacle Nat :=
  if Count.digitLimit < p.length then .error .value else countable (asciiNumber p)

theorem widthOf_ok_iff {width : Nat} :
    widthOf p = .ok width ↔ p.length ≤ Count.digitLimit ∧ asciiNumber p ≤ longestText ∧ width = asciiNumber p := by
  unfold widthOf countable
  constructor
  · intro h
    split at h
    · cases h
    split at h
    · cases h
    exact ⟨by omega, by omega, (Except.ok.inj h).symm⟩
  · rintro ⟨hshort, hcountable, rfl⟩
    rw [if_neg (by omega), if_neg (by omega)]

/-- An integer is a whole number. -/
theorem truncate_ofInt (n : Int) : (Decimal.ofInt n).truncate = .ok n := by
  have hone : n.natAbs * powerOfTen 0 = n.natAbs := Nat.mul_one _
  have hsigned : Decimal.signed (n < 0) (n.natAbs * powerOfTen 0) = n := by
    rw [hone, Decimal.signed]
    rcases Int.lt_or_le n 0 with hn | hn
    · rw [if_pos (decide_eq_true hn), Int.ofNat_natAbs_of_nonpos (Int.le_of_lt hn), Int.neg_neg]
    · rw [if_neg (by simpa using hn), Int.natAbs_of_nonneg hn]
  exact congrArg Except.ok hsigned

theorem numberByLetter_hex (c : Culture) (isUpper : Bool) (precision : Option Nat) (n : Int) :
    numberByLetter c "X" isUpper precision (.ofInt n)
      = (countable (precision.getD 0)).map fun width => padLeft width '0' (hexText isUpper n) := by
  unfold numberByLetter
  dsimp only
  rw [if_neg (by decide), if_neg (by decide), if_neg (by decide), if_neg (by decide), if_neg (by decide),
    if_pos rfl, truncate_ofInt]
  cases countable (precision.getD 0) <;> rfl

/-- A format that is a letter for numbers with some digits. -/
theorem compositeNumber_of_letter (c : Culture) {letter : Text} (hletter : Text.upper [x] = letter)
    (hknown : numberLetters.contains letter = true) (hp : ∀ d ∈ p, d.isAsciiDigit = true) (d : Decimal) :
    compositeNumber c (x :: p) d = (do
      let places ← if p.isEmpty then pure none else (Count.ofDigits p).map some
      numberByLetter c letter ([x] ≠ Text.ofString "x") places d) := by
  have hprecision : (p.isEmpty || Text.isNumber p) = true := by
    rw [Bool.or_eq_true]
    cases p with
    | nil => exact .inl rfl
    | cons d p =>
        right
        rw [Text.isNumber, Bool.and_eq_true]
        exact ⟨rfl, List.all_eq_true.mpr fun e he => isDigit_of_ascii (hp e he)⟩
  subst hletter
  unfold compositeNumber
  show (if (numberLetters.contains (Text.upper [x]) && (p.isEmpty || Text.isNumber p)) = true then _ else _) = _
  rw [hknown, hprecision]
  rfl

/-- **The letter X with some digits** writes an integer as wide as they say, or nothing. -/
theorem compositeNumber_hex (c : Culture) (n : Int) (hx : IsHexLetter x) (hp : ∀ d ∈ p, d.isAsciiDigit = true) :
    compositeNumber c (x :: p) (.ofInt n)
      = (widthOf p).map fun width => padLeft width '0' (hexText (x ≠ 'x') n) := by
  have hletter : Text.upper [x] = Text.ofString "X" := by
    rcases hx with rfl | rfl
    · decide +kernel
    · decide +kernel
  have hupper : decide (([x] : Text) ≠ Text.ofString "x") = decide (x ≠ CodePoint.ofChar 'x') := by
    rcases hx with rfl | rfl <;> rfl
  rw [compositeNumber_of_letter c hletter (by decide) hp, hupper]
  unfold widthOf
  cases p with
  | nil => exact numberByLetter_hex c _ none n
  | cons d p =>
      rw [List.isEmpty_cons, if_neg Bool.false_ne_true]
      split
      · next hlong =>
          rw [Count.ofDigits_of_long hlong]
          rfl
      · next hshort =>
          rw [Count.ofDigits_of_ascii (List.cons_ne_nil d p) (by omega) hp]
          exact numberByLetter_hex c _ (some _) n

/-- What comes of an integer by a format is what comes of it as a number. -/
theorem composite_int_ok_iff (c : Culture) {format t : Text} (hne : format ≠ []) (n : Int) :
    composite c (some format) (.int n) = .ok t ↔ compositeNumber c format (.ofInt n) = .ok t := by
  have hempty : format.isEmpty = false := List.isEmpty_eq_false_iff.mpr hne
  unfold composite
  simp only [Option.getD_some, hempty, Bool.false_eq_true, if_false, Value.isNumber, if_true]
  show Except.mapError _ (compositeNumber c format (.ofInt n)) = .ok t ↔ _
  constructor
  · exact ok_of_mapError
  · intro h
    rw [h]
    rfl

/-- **Which integers are written as hexadecimal numerals of a width**, with a sign if they are negative: all that
are not negative, and the negative ones with enough digits of their own, if the width has not too many digits
itself and a text can be so wide. -/
theorem composite_isHexNumeral_iff (c : Culture) (n : Int) (hx : IsHexLetter x)
    (hp : ∀ d ∈ p, d.isAsciiDigit = true) :
    (∃ t, composite c (some (x :: p)) (.int n) = .ok t ∧ IsHexNumeral (asciiNumber p) n t)
      ↔ p.length ≤ Count.digitLimit ∧ asciiNumber p ≤ longestText
        ∧ (0 ≤ n ∨ 16 ^ (asciiNumber p - 1) ≤ n.natAbs) := by
  have hwritten : ∀ t, composite c (some (x :: p)) (.int n) = .ok t
      ↔ ∃ width, widthOf p = .ok width ∧ padLeft width '0' (hexText (x ≠ 'x') n) = t := by
    intro t
    rw [composite_int_ok_iff c (List.cons_ne_nil x p), compositeNumber_hex c n hx hp]
    constructor
    · exact exists_of_map
    · rintro ⟨width, hwidth, rfl⟩
      rw [hwidth]
      rfl
  -- Zeros are put before the sign, so a negative number is read back only if there is no room for any.
  have hnumeral : IsHexNumeral (asciiNumber p) n (padLeft (asciiNumber p) '0' (hexText (x ≠ 'x') n))
      ↔ 0 ≤ n ∨ 16 ^ (asciiNumber p - 1) ≤ n.natAbs := by
    rcases Int.lt_or_le n 0 with hn | hn
    · rw [isHexNumeral_padLeft_negative_iff _ _ hn]
      exact ⟨.inr, fun h => h.resolve_left (by omega)⟩
    · obtain ⟨k, rfl⟩ := Int.eq_ofNat_of_zero_le hn
      exact ⟨fun _ => .inl hn, fun _ => isHexNumeral_padLeft_natural _ _ k⟩
  constructor
  · rintro ⟨t, ht, hreads⟩
    obtain ⟨width, hwidth, rfl⟩ := (hwritten t).mp ht
    obtain ⟨hshort, hcountable, rfl⟩ := widthOf_ok_iff.mp hwidth
    exact ⟨hshort, hcountable, hnumeral.mp hreads⟩
  · rintro ⟨hshort, hcountable, hdigits⟩
    exact ⟨_, (hwritten _).mpr ⟨_, widthOf_ok_iff.mpr ⟨hshort, hcountable, rfl⟩, rfl⟩, hnumeral.mpr hdigits⟩

/-- Two digits of a negative integer with two digits. -/
theorem composite_isHexNumeral_two : IsHexLetter 'x' ∧ (∀ d ∈ Text.ofString "2", d.isAsciiDigit = true)
    ∧ ∃ t, composite (Culture.ofName "en-US") (some (CodePoint.ofChar 'x' :: Text.ofString "2")) (.int (-255)) = .ok t
      ∧ IsHexNumeral (asciiNumber "2") (-255) t := by
  have hx : IsHexLetter 'x' := by decide
  have hp : ∀ d ∈ Text.ofString "2", d.isAsciiDigit = true := by decide
  exact ⟨hx, hp, (composite_isHexNumeral_iff _ (-255) hx hp).mpr ⟨by decide, by decide, .inr (by decide)⟩⟩

/-- Four digits of the same integer are no numeral: the sign stands among them. -/
theorem composite_sign_among_digits :
    composite (Culture.ofName "en-US") (some (CodePoint.ofChar 'X' :: Text.ofString "4")) (.int (-255)) = .ok "0-FF"
      ∧ ¬IsHexNumeral (asciiNumber "4") (-255) "0-FF" := by
  refine ⟨by decide +kernel, fun h => ?_⟩
  exact absurd (IsHexNumeral.minus_first (k := 1) (t := "FF") h).1 (by decide)

end Phrasebook.Render
