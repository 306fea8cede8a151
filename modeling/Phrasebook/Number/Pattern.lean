import Phrasebook.Conventions.Culture
import Phrasebook.Number.Count
import Phrasebook.Number.Decimal

/-!
# Number patterns

A number pattern says with how many digits a number is written, where digits are grouped, whether an
exponent is used, and what stands before and after the number. `NumberPattern.ofText` reads a pattern;
`NumberPattern.apply` writes a number by it.

A pattern that is not empty always has a meaning, except that significant digits go with no point and
no zeros. Digits are rounded to the even neighbour.
-/

namespace Phrasebook

/-- How many digits are needed and how many are allowed. -/
structure DigitRange where
  least : Nat
  most : Nat
deriving DecidableEq, Inhabited

/-- What stands before and after a number. -/
structure Affixes where
  before : Text
  after : Text
deriving DecidableEq, Inhabited

/-- How the exponent of a number is written. -/
structure ExponentStyle where
  /-- Has its sign also where it is positive. -/
  plus : Bool
  digits : DigitRange
deriving DecidableEq, Inhabited

/-- How a number is written. -/
structure NumberPattern where
  positive : Affixes
  negative : Affixes
  /-- The size of the last group of digits, and of all others. No size means no groups. -/
  grouping : Option (Nat × Nat)
  integer : DigitRange
  fraction : DigitRange
  exponent : Option ExponentStyle
  /-- Digits are counted from the first one that is not zero. -/
  isSignificant : Bool
  /-- Has a place for the number. -/
  showsNumber : Bool
deriving DecidableEq, Inhabited

namespace NumberPattern

/-! ## Reading -/

/-- A code point that the part for the number starts with. -/
def startsNumber (c : CodePoint) : Bool :=
  c.isAsciiDigit || c = '@' || c = '#' || c = '.' || c = ','

/-- A code point of the part for the number. -/
def inNumber (c : CodePoint) : Bool := startsNumber c || c = 'E' || c = '+'

/-- The quotation mark around text that is taken as it stands. -/
def quote : CodePoint := '\''

/-- How many code points stand before the number; `skip` of them belong to quoted text. -/
def lengthBefore : (skip : Nat) → Text → Nat
  | _, [] => 0
  | skip + 1, _ :: t => lengthBefore skip t + 1
  | 0, c :: t =>
    if c = quote then
      match Text.indexOf? quote t with
      | some i => lengthBefore (i + 1) t + 1
      | none => lengthBefore 0 t + 1
    else if startsNumber c then 0
    else lengthBefore 0 t + 1

/-- What a pattern has before the number, for the number, and after it up to the end of the line. -/
def parts (t : Text) : Text × Text × Text :=
  let before := t.take (lengthBefore 0 t)
  let rest := t.drop before.length
  let number := rest.takeWhile inNumber
  (before, number, (rest.drop number.length).takeWhile (· ≠ CodePoint.lineFeed))

/-- The digits that a part of a pattern asks for. -/
def digitRange : Text → DigitRange
  | [] => ⟨0, 0⟩
  | c :: t =>
    let more := digitRange t
    if c = '@' ∨ c = '0' then ⟨more.least + 1, more.most + 1⟩
    else if c = '#' then ⟨more.least, more.most + 1⟩
    else if c = ',' then more
    else ⟨0, 0⟩

/-- The groups that the integer part of a pattern shows. -/
def groupingOf (t : Text) : Option (Nat × Nat) :=
  let comma : CodePoint := ','
  if comma ∈ t then
    let last := (t.reverse.takeWhile (· ≠ comma)).length
    let front := t.take (t.length - last - 1)
    if comma ∈ front then some (last, (front.reverse.takeWhile (· ≠ comma)).length)
    else some (last, last)
  else none

/-- The pattern that a text writes. -/
def ofText (t : Text) : Except Obstacle NumberPattern :=
  let (main, other) := Text.cut ';' t
  let (before, number, after) := parts main
  let negative : Affixes :=
    match other with
    | none => ⟨'-' :: before, after⟩
    | some t =>
      let (before, _, after) := parts t
      ⟨before, after⟩
  let (number, exponent) := Text.cut 'E' number
  let point : CodePoint := '.'
  let has (c : CodePoint) : Bool := c ∈ number
  if has '@' && has point && has '0' then .error .value
  else
    let (integer, fraction) := if has point then Text.cutLast point number else (number, [])
    .ok
      { positive := ⟨before, after⟩
        negative := negative
        grouping := groupingOf integer
        integer := digitRange integer
        fraction := digitRange fraction
        exponent := (exponent.filter fun e => !e.isEmpty).map fun e =>
          ⟨e.head? = some (CodePoint.ofChar '+'),
            digitRange (e.dropWhile fun c => c = CodePoint.ofChar '+')⟩
        isSignificant := CodePoint.ofChar '@' ∈ t
        showsNumber := !number.isEmpty }

/-! ## Writing -/

/-- Whether a sign stands before or after a number. -/
def affixesHave (p : NumberPattern) (c : CodePoint) : Bool :=
  [p.positive.before, p.positive.after, p.negative.before, p.negative.after].any fun t => t.contains c

/-- By which power of ten a number is multiplied: two for percentages, three for per mille. -/
def scale (p : NumberPattern) : Nat :=
  if p.affixesHave '%' then 2 else if p.affixesHave '‰' then 3 else 0

/-- Digits with a sign between their groups, before the groups already written. A group of no size
takes all that is left. -/
def group (sign : Text) (others : Nat) : (fuel : Nat) → (size : Nat) → (digits written : Text) → Text
  | 0, _, digits, written => digits ++ written
  | fuel + 1, size, digits, written =>
    if digits.length > size then
      let rest := if size = 0 then 0 else digits.length - size
      group sign others fuel others (digits.take rest) (sign ++ digits.drop rest ++ written)
    else digits ++ written

/-- The digits of an integer, filled up with zeros and grouped. -/
def integerText (p : NumberPattern) (s : NumberSymbols) (least : Nat) (digits : Text) : Text :=
  let digits := Text.padLeft least '0' digits
  match p.grouping with
  | none => group s.group 1000 (digits.length + 1) 1000 digits []
  | some (last, others) => group s.group others (digits.length + 1) last digits []

/-- The digits after the point with the point, as many as are needed. -/
def fractionText (s : NumberSymbols) (range : DigitRange) (digits : Text) : Text :=
  let digits := Text.padRight range.least '0' digits
  let isZero := digits.all (· = CodePoint.ofChar '0')
  if range.most = 0 || (range.least = 0 && isZero) then []
  else
    let extra := (digits.drop range.least).reverse.dropWhile (· = CodePoint.ofChar '0')
    s.decimal ++ digits.take range.least ++ extra.reverse

/-- The digits after the point with the point. Where none are needed they are read as a number, which may
not have too many digits. -/
def checkedFraction (s : NumberSymbols) (range : DigitRange) (digits : Text) : Except Obstacle Text :=
  if range.least = 0 ∧ range.most ≠ 0 ∧ Count.digitLimit < digits.length then .error .value
  else .ok (fractionText s range digits)

/-- A number rounded to as many digits after the point as are allowed. -/
def rounded (p : NumberPattern) (s : NumberSymbols) (range : DigitRange) (d : Decimal) :
    Except Obstacle Text := do
  if d.isInfinite then return s.infinity
  else
    let target := max Decimal.smallestExponent (-(range.most : Int))
    let (whole, fraction) := Text.cut '.' (← d.quantize target).toPositional
    let fraction ← checkedFraction s range ((fraction.filter fun t => !t.isEmpty).getD "0")
    return integerText p s p.integer.least whole ++ fraction

/-- A number with an exponent: the number between one and ten times a power of ten that leaves the
least number of digits before the point. -/
def scientific (p : NumberPattern) (s : NumberSymbols) (e : ExponentStyle) (range : DigitRange)
    (natural : Bool) (d : Decimal) : Except Obstacle Text := do
  let shift : Int := (max 1 p.integer.least : Nat) - 1
  let exponent := d.adjusted - shift
  let d ← (← d.timesPowerOfTen (-d.adjusted)).timesPowerOfTen shift
  let range ← if natural || range = ⟨0, 0⟩ then
      pure { range with most := max range.most (← d.fractionDigits) }
    else pure range
  let sign : Text := if exponent < 0 then s.minus else if e.plus then s.plus else []
  let mantissa ← rounded p s range d
  return mantissa ++ s.exponential ++ sign
    ++ integerText p s e.digits.least (Text.ofNat exponent.natAbs)

/-- A number with as many digits from the first one that is not zero as are allowed. -/
def significantDigits (range : DigitRange) (d : Decimal) : Except Obstacle Text := do
  let places : Int := (range.most : Int) - 1 - d.adjusted
  let digits := (← (← d.scale places).quantize 0).toText
  if places ≤ 0 then return digits ++ Text.zeros (-places).toNat
  else
    let cut := digits.length - places.toNat
    let whole := digits.take cut
    let needed := cut + (range.least - cut)
    let zeros := Text.zeros (-(min (d.adjusted + 1) 0)).toNat
    let extra := ((digits.drop needed).reverse.dropWhile (· = CodePoint.ofChar '0')).reverse
    let shown : Text := if whole.isEmpty then "0" else whole
    let t := shown ++ "." ++ zeros
      ++ (digits.drop cut).take (needed - cut) ++ extra
    return (t.reverse.dropWhile (· = CodePoint.ofChar '.')).reverse

/-- A number with significant digits, grouped. -/
def significant (p : NumberPattern) (s : NumberSymbols) (d : Decimal) : Except Obstacle Text := do
  let (whole, fraction) := Text.cut '.' (← significantDigits p.integer d)
  let fraction : Text := match fraction with
    | none => []
    | some f => s.decimal ++ f
  return integerText p s 0 whole ++ fraction

/-- Quoted text without its quotation marks; two marks in a row are one. `skip` code points are
already read. -/
def unquoteFrom : (skip : Nat) → Text → Text
  | _, [] => []
  | skip + 1, _ :: t => unquoteFrom skip t
  | 0, c :: t =>
    if c = quote then
      match Text.indexOf? quote t with
      | some i => (if i = 0 then [quote] else t.take i) ++ unquoteFrom (i + 1) t
      | none => c :: unquoteFrom 0 t
    else c :: unquoteFrom 0 t

/-- The text without quotation marks. -/
def unquote (t : Text) : Text := unquoteFrom 0 t

/-- How an amount of money is told: the code of its currency and the sign for it. -/
structure Money where
  code : Text
  sign : Text
deriving DecidableEq

/-- What a pattern holds in the place of a currency. -/
def currencyMark : Text := "¤"

/-- The text with a currency in its places: one mark stands for the sign, two for the code in capitals,
three for the code as it is given. -/
def putMoney (m : Money) (t : Text) : Text :=
  ((t.replace (currencyMark ++ currencyMark ++ currencyMark) m.code).replace
    (currencyMark ++ currencyMark) m.code.upper).replace currencyMark m.sign

/-- What is asked of a number beside its pattern. -/
structure Request where
  money : Option Money
  /-- How many digits the currency has after the point; it takes the place of what the pattern says. -/
  places : Option Nat
  /-- All digits after the point are written, however few the pattern allows. -/
  natural : Bool

namespace Request

/-- Nothing but the pattern counts. -/
def plain : Request := ⟨none, none, false⟩

end Request

/-- The text of a number. -/
def apply (p : NumberPattern) (s : NumberSymbols) (r : Request) (d : Decimal) :
    Except Obstacle Text := do
  let d ← d.scale p.scale
  let affixes := if d.isNegative then p.negative else p.positive
  let d ← (← d.magnitude).normalize
  let range : DigitRange := match r.places with
    | some n => ⟨n, n⟩
    | none => p.fraction
  let number ← match p.exponent with
    | some e => scientific p s e range r.natural d
    | none =>
      if p.isSignificant then significant p s d
      else
        let range ← if r.natural then
            pure { range with most := max range.most (← d.fractionDigits) }
          else pure range
        rounded p s range d
  let t := affixes.before ++ (if p.showsNumber then number else []) ++ affixes.after
  return unquote (match r.money with
    | some m => putMoney m t
    | none => t)

end NumberPattern

end Phrasebook
