import Phrasebook.Error
import Phrasebook.Number.Digits
import Phrasebook.Text.Case

/-!
# Decimal numbers

Numbers as a sign, a coefficient and a power of ten, with infinities and two kinds of not-a-number.
A number keeps the zeros that it was written with. Reading and writing are exact. Arithmetic is
carried out in one fixed context: results have at most `precision` digits, a half is rounded to the
even digit, and an operation without a result (or with one beyond the largest exponent) is reported as
an `Obstacle`. A quiet not-a-number passes through arithmetic; a signaling one stops it.
-/

namespace Phrasebook

/-- A decimal number. -/
inductive Decimal where
  | finite (negative : Bool) (coefficient : Nat) (exponent : Int)
  | infinite (negative : Bool)
  | nan (negative signaling : Bool) (payload : Nat)
deriving DecidableEq

namespace Decimal

/-- How many digits a result may have. -/
def precision : Nat := 28

/-- The largest exponent of a leading digit. -/
def largestExponent : Int := 999999

/-- The smallest exponent of a last digit. -/
def smallestExponent : Int := -1000026

/-- How far the point of a number can be moved at once. -/
def largestShift : Nat := 2000054

/-- The largest exponent that can be written. -/
def writtenLimit : Int := 999999999999999999

/-- An integer as a decimal. -/
def ofInt (n : Int) : Decimal := .finite (n < 0) n.natAbs 0

/-! ## Reading and writing -/

/-- A sign and what follows it. -/
def cutSign : Text → Bool × Text
  | [] => (false, [])
  | c :: t => if c = '-' then (true, t) else if c = '+' then (false, t) else (false, c :: t)

/-- The code point as an ASCII digit, if it is a decimal digit, and otherwise itself. -/
def asciiDigit (c : CodePoint) : CodePoint :=
  match c.digitValue? with
  | some d => CodePoint.ofNat (0x30 + d)
  | none => c

/-- The exponent after its letter: an optional sign and at least one digit. -/
def readExponent? (t : Text) : Option Int :=
  let (negative, digits) := cutSign t
  if digits.isEmpty || !digits.all CodePoint.isAsciiDigit then none
  else some (if negative then -(asciiNumber digits : Int) else asciiNumber digits)

/-- A finite number without its sign: digits with at most one point, and perhaps an exponent. -/
def readFinite? (negative : Bool) (t : Text) : Option Decimal := do
  let whole := t.takeWhile CodePoint.isAsciiDigit
  let afterWhole := t.drop whole.length
  let (fraction, afterFraction) :=
    match afterWhole with
    | [] => ([], [])
    | c :: rest =>
      if c = '.' then
        let fraction := rest.takeWhile CodePoint.isAsciiDigit
        (fraction, rest.drop fraction.length)
      else ([], afterWhole)
  if whole.isEmpty && fraction.isEmpty then none
  let exponent ← match afterFraction with
    | [] => some 0
    | c :: rest => if c = 'e' ∨ c = 'E' then readExponent? rest else none
  let coefficient := asciiNumber (whole ++ fraction)
  let exponent := exponent - fraction.length
  if exponent + digitCount coefficient - 1 > writtenLimit ∨ exponent < -2 * writtenLimit then none
  return .finite negative coefficient exponent

/-- The digits after a word for not-a-number. -/
def readPayload? (t : Text) : Option Nat :=
  if t.all CodePoint.isAsciiDigit then some (asciiNumber t) else none

/-- The number that a text writes. White space around it and underscores anywhere are ignored, digits
may be of any script, and letters of any case. -/
def ofText? (t : Text) : Option Decimal :=
  let t := (t.strip.filter (· ≠ CodePoint.underscore)).map asciiDigit
  let (negative, t) := cutSign t
  let lowered := t.map fun c => if 0x41 ≤ c.val ∧ c.val ≤ 0x5A then CodePoint.ofNat (c.val + 32) else c
  if lowered = "inf" ∨ lowered = "infinity" then some (.infinite negative)
  else
    match Text.dropLead? "nan" lowered with
    | some payload => (readPayload? payload).map (.nan negative false)
    | none =>
      match Text.dropLead? "snan" lowered with
      | some payload => (readPayload? payload).map (.nan negative true)
      | none => readFinite? negative t

/-- The sign of a written number. -/
def signText (negative : Bool) : Text := if negative then "-" else []

/-- An integer with its sign, also when it is positive. -/
def signedText (n : Int) : Text := if n < 0 then Text.ofInt n else '+' :: Text.ofInt n

/-- The digits of a coefficient with a point after the first `place` of them, zeros filled in. -/
def placePoint (digits : Text) (place : Int) : Text :=
  if place ≤ 0 then "0." ++ Text.zeros (-place).toNat ++ digits
  else
    let place := place.toNat
    if digits.length ≤ place then Text.padRight place '0' digits
    else digits.take place ++ "." ++ digits.drop place

/-- The words for a number that is not finite, without its sign. -/
def specialText (signaling : Bool) (payload : Nat) : Text :=
  let digits : Text := if payload = 0 then [] else Text.ofNat payload
  if signaling then "sNaN" ++ digits else "NaN" ++ digits

/-- The canonical text of a number. Positional notation is used while the exponent is not positive
and at most six zeros would follow the point; the text reads back as the same number. -/
def toText : Decimal → Text
  | infinite negative => signText negative ++ "Infinity"
  | nan negative signaling payload => signText negative ++ specialText signaling payload
  | finite negative coefficient exponent =>
    let digits := Text.ofNat coefficient
    let left : Int := exponent + digits.length
    if exponent ≤ 0 ∧ left > -6 then signText negative ++ placePoint digits left
    else signText negative ++ placePoint digits 1 ++ "E" ++ signedText (left - 1)

/-- The positional text of a number, whatever its exponent. -/
def toPositional : Decimal → Text
  | infinite negative => signText negative ++ "Infinity"
  | nan negative signaling payload => signText negative ++ specialText signaling payload
  | finite negative coefficient exponent =>
    let digits := Text.ofNat coefficient
    if exponent ≥ 0 then
      signText negative ++ if coefficient = 0 then digits else digits ++ Text.zeros exponent.toNat
    else signText negative ++ placePoint digits (exponent + digits.length)

/-! ## Inspection -/

/-- Carries a minus sign. -/
def isNegative : Decimal → Bool
  | finite negative _ _ => negative
  | infinite negative => negative
  | nan negative _ _ => negative

/-- One of the infinities. -/
def isInfinite : Decimal → Bool
  | infinite _ => true
  | _ => false

/-- Neither an infinity nor a not-a-number. -/
def isFinite : Decimal → Bool
  | finite _ _ _ => true
  | _ => false

/-- The exponent of the leading digit; zero for what is not finite. -/
def adjusted : Decimal → Int
  | finite _ coefficient exponent => exponent + digitCount coefficient - 1
  | _ => 0

/-! ## The context -/

/-- `coefficient · 10 ^ exponent` in units of `10 ^ target`, rounded to the even neighbour. A unit
that dwarfs the number gives zero without the division. -/
def rescale (coefficient : Nat) (exponent target : Int) : Nat :=
  if coefficient = 0 then 0
  else if target ≤ exponent then coefficient * powerOfTen (exponent - target).toNat
  else
    let drop := (target - exponent).toNat
    if digitCount coefficient + 1 < drop then 0 else divideToEven coefficient (powerOfTen drop)

/-- The number as a result of the context: rounded to the precision, moved between the smallest and
the largest exponent, or refused. -/
def fix (negative : Bool) (coefficient : Nat) (exponent : Int) : Except Obstacle Decimal :=
  if coefficient = 0 then
    .ok (.finite negative 0 (max smallestExponent (min exponent largestExponent)))
  else
    let leading := exponent + digitCount coefficient - 1
    if leading > largestExponent then .error .decimalOverflow
    else
      let target := max smallestExponent (leading - precision + 1)
      if exponent ≥ target then .ok (.finite negative coefficient exponent)
      else
        let rounded := rescale coefficient exponent target
        if digitCount rounded > precision then
          if leading + 1 > largestExponent then .error .decimalOverflow
          else .ok (.finite negative (rounded / 10) (target + 1))
        else .ok (.finite negative rounded target)

/-- The number itself as a result of the context. -/
def plus : Decimal → Except Obstacle Decimal
  | finite negative coefficient exponent => fix negative coefficient exponent
  | infinite negative => .ok (.infinite negative)
  | nan negative signaling payload =>
    if signaling then .error .invalidOperation else .ok (.nan negative false payload)

/-- The absolute value; a not-a-number keeps its sign. -/
def magnitude : Decimal → Except Obstacle Decimal
  | finite _ coefficient exponent => fix false coefficient exponent
  | infinite _ => .ok (.infinite false)
  | d => plus d

/-- The number with its point moved. -/
def scale (power : Int) : Decimal → Except Obstacle Decimal
  | nan negative signaling payload => plus (.nan negative signaling payload)
  | infinite negative =>
    if power.natAbs > largestShift then .error .invalidOperation else .ok (.infinite negative)
  | finite negative coefficient exponent =>
    if power.natAbs > largestShift then .error .invalidOperation
    else fix negative coefficient (exponent + power)

/-- The number without trailing zeros. -/
def normalize (d : Decimal) : Except Obstacle Decimal := do
  match ← plus d with
  | finite negative coefficient exponent =>
    if coefficient = 0 then return .finite negative 0 0
    let (reduced, dropped) := dropZeros (digitCount coefficient) coefficient
    return .finite negative reduced (exponent + dropped)
  | d => return d

/-- How many digits stand after the point once trailing zeros are dropped. -/
def fractionDigits (d : Decimal) : Except Obstacle Nat := do
  match ← normalize d with
  | finite _ _ exponent => return (-exponent).toNat
  | _ => return 0

/-- The number rounded to a multiple of `10 ^ target`; refused if that takes too many digits. -/
def quantize (target : Int) : Decimal → Except Obstacle Decimal
  | infinite _ => .error .invalidOperation
  | nan negative signaling payload => plus (.nan negative signaling payload)
  | finite negative coefficient exponent =>
    if target < smallestExponent ∨ target > largestExponent then .error .invalidOperation
    else if coefficient = 0 then fix negative 0 target
    else
      let leading := exponent + digitCount coefficient - 1
      if leading > largestExponent ∨ leading - target + 1 > precision then .error .invalidOperation
      else
        let rounded := rescale coefficient exponent target
        if digitCount rounded > precision ∨ target + digitCount rounded - 1 > largestExponent then
          .error .invalidOperation
        else .ok (.finite negative rounded target)

/-- The quotient of a number and a positive integer; exact quotients keep the exponent as close as
they can to that of the number. -/
def divideBy (divisor : Nat) : Decimal → Except Obstacle Decimal
  | infinite negative => .ok (.infinite negative)
  | nan negative signaling payload => plus (.nan negative signaling payload)
  | finite negative coefficient exponent =>
    if divisor = 0 then .error .invalidOperation
    else if coefficient = 0 then fix negative 0 exponent
    else
      let shift : Int := digitCount divisor - digitCount coefficient + precision + 1
      let numerator := coefficient * powerOfTen shift.toNat
      let denominator := divisor * powerOfTen (-shift).toNat
      let quotient := numerator / denominator
      let exact := numerator % denominator = 0
      if exact then
        let (reduced, dropped) := dropZeros shift.toNat quotient
        fix negative reduced (exponent - shift + dropped)
      else fix negative (if quotient % 5 = 0 then quotient + 1 else quotient) (exponent - shift)

/-- The signed integer that a coefficient stands for. -/
def signed (negative : Bool) (coefficient : Nat) : Int :=
  if negative then -(coefficient : Int) else coefficient

/-- The difference of a number and an integer. A number so large that the integer only tells on which
side of it the result lies is treated as if the integer were one unit far below its last digit. -/
def minus (d : Decimal) (n : Nat) : Except Obstacle Decimal :=
  match d with
  | infinite negative => .ok (.infinite negative)
  | nan negative signaling payload => plus (.nan negative signaling payload)
  | finite negative coefficient exponent =>
    let least := min exponent 0
    if n = 0 then
      let target := if coefficient = 0 then least else max least (exponent - precision - 1)
      fix negative (rescale coefficient exponent target) target
    else if coefficient = 0 then
      let target := max least (-(precision : Int) - 1)
      fix true (rescale n 0 target) target
    else
      let far := exponent + min (-1) ((digitCount coefficient : Int) - precision - 2)
      let near := min (-1) ((digitCount n : Int) - precision - 2)
      let (a, b, common) :=
        if exponent ≥ 0 ∧ (digitCount n : Int) - 1 < far then
          (signed negative (rescale coefficient exponent far), (1 : Int), far)
        else if exponent < 0 ∧ (digitCount coefficient : Int) + exponent - 1 < near then
          (signed negative 1, (rescale n 0 near : Int), near)
        else
          (signed negative (rescale coefficient exponent least), (rescale n 0 least : Int), least)
      let difference := a - b
      if difference = 0 then fix false 0 least
      else fix (difference < 0) difference.natAbs common

/-- The product with a power of ten, which has to be a number of the context itself. -/
def timesPowerOfTen (power : Int) (d : Decimal) : Except Obstacle Decimal :=
  if power > largestExponent then .error .decimalOverflow
  else
    match d with
    | finite negative coefficient exponent => fix negative coefficient (exponent + power)
    | d => plus d

/-! ## Comparison and conversion -/

/-- Whether two numbers have one value; a signaling not-a-number cannot be compared. -/
def equals : Decimal → Decimal → Except Obstacle Bool
  | nan _ true _, _ => .error .invalidOperation
  | _, nan _ true _ => .error .invalidOperation
  | nan _ _ _, _ => .ok false
  | _, nan _ _ _ => .ok false
  | infinite a, infinite b => .ok (a = b)
  | finite n c e, finite m d f =>
    if c = 0 ∨ d = 0 then .ok (decide (c = 0) && decide (d = 0))
    else
      let (c', dc) := dropZeros (digitCount c) c
      let (d', dd) := dropZeros (digitCount d) d
      .ok (n = m && c' = d' && decide (e + dc = f + dd))
  | _, _ => .ok false

/-- Whether the absolute value of a number reaches a positive integer. A not-a-number is in no order. -/
def reaches (n : Nat) : Decimal → Except Obstacle Bool
  | infinite _ => .ok true
  | nan _ _ _ => .error .invalidOperation
  | finite _ coefficient exponent =>
    if coefficient = 0 then .ok (n = 0)
    else
      let leading := exponent + digitCount coefficient
      if leading > digitCount n then .ok true
      else if leading < digitCount n then .ok false
      else if exponent ≥ 0 then .ok (coefficient * powerOfTen exponent.toNat ≥ n)
      else .ok (coefficient ≥ n * powerOfTen (-exponent).toNat)

/-- The integer part of a number. -/
def truncate : Decimal → Except Obstacle Int
  | infinite _ => .error .overflow
  | nan _ _ _ => .error .value
  | finite negative coefficient exponent =>
    let whole :=
      if exponent ≥ 0 then coefficient * powerOfTen exponent.toNat
      else if digitCount coefficient < (-exponent).toNat then 0
      else coefficient / powerOfTen (-exponent).toNat
    .ok (signed negative whole)

end Decimal

end Phrasebook
