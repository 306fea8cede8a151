import Phrasebook.Number.Decimal

/-!
# Double-precision numbers

Binary floating-point numbers of 64 bits, held exactly: a sign, a mantissa below `2 ^ 53` and a power of
two. Every operation computes the exact rational result and rounds it once, to the nearest number and
in a tie to the one with the even mantissa (`ofRatio`).

The text of a number has the fewest digits that read back as the number and, of those, the nearest.
It is positional from `0.0001` up to below `1e16` and scientific outside; an integer shows `.0`.
-/

namespace Phrasebook

/-- A double-precision number. -/
inductive Double where
  /-- `± mantissa · 2 ^ exponent`. -/
  | finite (negative : Bool) (mantissa : Nat) (exponent : Int)
  | infinite (negative : Bool)
  | nan
deriving DecidableEq

namespace Double

/-- The exponent of the smallest positive number. -/
def leastExponent : Int := -1074

/-- The exponent of the largest number. -/
def greatestExponent : Int := 971

/-- Zero with a sign. -/
def zero (negative : Bool) : Double := .finite negative 0 leastExponent

/-- A power of two as a fraction. -/
def powerOfTwo (e : Int) : Nat × Nat := (Nat.pow 2 e.toNat, Nat.pow 2 (-e).toNat)

/-- The exponent of the leading binary digit of `num / den`, both positive. -/
def binaryExponent (num den : Nat) : Int :=
  let guess : Int := (Nat.log2 num : Int) - Nat.log2 den
  let (p, q) := powerOfTwo guess
  if num * q < den * p then guess - 1 else guess

/-- The number nearest to `± num / den`. -/
def ofRatio (negative : Bool) (num den : Nat) : Double :=
  if num = 0 ∨ den = 0 then zero negative
  else
    let e := max (binaryExponent num den - 52) leastExponent
    let (p, q) := powerOfTwo e
    let m := divideToEven (num * q) (den * p)
    let (m, e) := if m = Nat.pow 2 53 then (Nat.pow 2 52, e + 1) else (m, e)
    if e > greatestExponent then .infinite negative else .finite negative m e

/-- The number nearest to `± coefficient · 10 ^ exponent`. Exponents far beyond the range are not
raised. -/
def ofDecimal (negative : Bool) (coefficient : Nat) (exponent : Int) : Double :=
  let leading := exponent + digitCount coefficient
  if coefficient = 0 ∨ leading < -400 then zero negative
  else if leading > 400 then .infinite negative
  else ofRatio negative (coefficient * powerOfTen exponent.toNat) (powerOfTen (-exponent).toNat)

/-- The number nearest to an integer; too large an integer has none. -/
def ofInt? (n : Int) : Except Obstacle Double :=
  match ofRatio (n < 0) n.natAbs 1 with
  | .infinite _ => .error .overflow
  | x => .ok x

/-- The value of the mantissa and the exponent as a fraction. -/
def ratio (mantissa : Nat) (exponent : Int) : Nat × Nat :=
  let (p, q) := powerOfTwo exponent
  (mantissa * p, q)

/-- The product of two numbers. -/
def times : Double → Double → Double
  | finite a m e, finite b n f =>
    let (p, q) := ratio (m * n) (e + f)
    ofRatio (a != b) p q
  | nan, _ => nan
  | _, nan => nan
  | infinite a, infinite b => infinite (a != b)
  | infinite a, finite b m _ => if m = 0 then nan else infinite (a != b)
  | finite a m _, infinite b => if m = 0 then nan else infinite (a != b)

/-- The number rounded to `places` decimal places, a half going to the even digit. -/
def roundTo (places : Nat) : Double → Double
  | finite negative m e =>
    if places > 323 then finite negative m e
    else
      let (p, q) := ratio m e
      ofRatio negative (divideToEven (p * powerOfTen places) q) (powerOfTen places)
  | x => x

/-- The integer part of a number. -/
def truncate : Double → Except Obstacle Int
  | finite negative m e =>
    let (p, q) := ratio m e
    .ok (Decimal.signed negative (p / q))
  | infinite _ => .error .overflow
  | nan => .error .value

/-- Neither sign of zero. -/
def isNonzero : Double → Bool
  | finite _ m _ => m ≠ 0
  | _ => true

/-! ## Writing -/

/-- The exponent `e` with `10 ^ (e - 1) ≤ num / den < 10 ^ e`, searched from below in `fuel` steps. -/
def decimalExponentFrom (num den : Nat) : (fuel : Nat) → Int → Int
  | 0, e => e
  | fuel + 1, e =>
    if num * powerOfTen (-e).toNat < den * powerOfTen e.toNat then e else decimalExponentFrom num den fuel (e + 1)

/-- The exponent `e` with `10 ^ (e - 1) ≤ num / den < 10 ^ e`. -/
def decimalExponent (num den : Nat) : Int :=
  let binary := binaryExponent num den
  decimalExponentFrom num den 4 (Int.fdiv (binary * 30103) 100000 - 1)

/-- The digits of the candidate with `places` digits nearest to the number, if one reads back; of two
that are as near, the even one. -/
def candidate? (m : Nat) (e : Int) (num den : Nat) (point : Int) (places : Nat) : Option Nat :=
  let shift := (places : Int) - point
  let scaled := num * powerOfTen shift.toNat
  let unit := den * powerOfTen (-shift).toNat
  let below := scaled / unit
  let reads (d : Nat) : Bool := ofDecimal false d (-shift) = .finite false m e
  let rest := 2 * (scaled % unit)
  let belowNearer := rest < unit || (decide (rest = unit) && decide (below % 2 = 0))
  match reads below, reads (below + 1) with
  | true, true => some (if belowNearer then below else below + 1)
  | true, false => some below
  | false, true => some (below + 1)
  | false, false => none

/-- The first candidate with at least `places` digits that reads back, trying `fuel` lengths. -/
def shortestFrom (m : Nat) (e : Int) (num den : Nat) (point : Int) :
    (fuel places : Nat) → Nat × Int
  | 0, _ => (0, point)
  | fuel + 1, places =>
    match candidate? m e num den point places with
    | some d => (d, (places : Int) - point)
    | none => shortestFrom m e num den point fuel (places + 1)

/-- The fewest digits that read back, without trailing zeros, and how many of them (counted from the
left) stand before the point. -/
def shortest (m : Nat) (e : Int) : Text × Int :=
  let (num, den) := ratio m e
  let point := decimalExponent num den
  let (d, places) := shortestFrom m e num den point 17 1
  let digits := Text.ofNat d
  let reduced := Text.ofNat (dropZeros digits.length d).1
  (reduced, digits.length - places)

/-- An exponent of at least two digits with its sign. -/
def exponentText (e : Int) : Text :=
  (if e < 0 then "-" else "+") ++ Text.padLeft 2 '0' (Text.ofNat e.natAbs)

/-- The text of a finite number without its sign. -/
def magnitudeText (m : Nat) (e : Int) : Text :=
  if m = 0 then "0.0"
  else
    let (digits, point) := shortest m e
    if -4 < point ∧ point ≤ 16 then
      if point ≥ digits.length then Decimal.placePoint digits point ++ ".0"
      else Decimal.placePoint digits point
    else
      let fraction := digits.drop 1
      let body := if fraction.isEmpty then digits else digits.take 1 ++ "." ++ fraction
      body ++ "e" ++ exponentText (point - 1)

/-- The text of a number. -/
def toText : Double → Text
  | nan => "nan"
  | infinite negative => Decimal.signText negative ++ "inf"
  | finite negative m e => Decimal.signText negative ++ magnitudeText m e

/-! ## Reading -/

/-- The number that a decimal number stands for; a signaling not-a-number stands for none. -/
def ofDecimal? : Decimal → Except Obstacle Double
  | .finite negative coefficient exponent => .ok (ofDecimal negative coefficient exponent)
  | .infinite negative => .ok (.infinite negative)
  | .nan _ signaling _ => if signaling then .error .value else .ok nan

/-- The number that its own text stands for. -/
def ofText? (t : Text) : Option Double :=
  match Decimal.ofText? t with
  | some d => (ofDecimal? d).toOption
  | none => none

/-- The exact decimal value that the text of the number writes. -/
def toDecimal (x : Double) : Option Decimal := Decimal.ofText? x.toText

end Double

end Phrasebook
