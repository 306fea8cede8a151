import Phrasebook.Unicode.Properties

/-!
# Runs of digits

Reading runs of digits as numbers, and counting and shifting the digits of a number.
-/

namespace Phrasebook

/-- The number written by ASCII digits, most significant first. -/
def asciiNumber (t : Text) : Nat := t.foldl (fun n c => n * 10 + c.asciiDigitValue) 0

/-- The number written by decimal digits of any script; none if something else stands among them. -/
def decimalNumber? (t : Text) : Option Nat :=
  t.foldl (fun n c => do return (← n) * 10 + (← c.digitValue?)) (some 0)

/-- A power of ten. -/
def powerOfTen (n : Nat) : Nat := Nat.pow 10 n

/-- How many digits the decimal notation of a number has. -/
def digitCount (n : Nat) : Nat := (Text.ofNat n).length

/-- `n` divided by `d` and rounded to the nearest number, a half going to the even one. -/
def divideToEven (n d : Nat) : Nat :=
  let q := n / d
  let r := n % d
  if 2 * r < d then q else if d < 2 * r then q + 1 else if q % 2 = 0 then q else q + 1

/-- `n` without its trailing zeros, and how many there were, at most `limit`. -/
def dropZeros : (limit n : Nat) → Nat × Nat
  | 0, n => (n, 0)
  | limit + 1, n =>
    if n % 10 = 0 then
      let (m, dropped) := dropZeros limit (n / 10)
      (m, dropped + 1)
    else (n, 0)

end Phrasebook
