import Phrasebook.Number.Pattern
import Phrasebook.Number.Plural

/-!
# Numbers in a culture

Numbers, percentages, amounts of money, numbers with an exponent and numbers in few words, as a culture
writes them.

Where a number is written in few words it is divided by the largest power of ten that the culture has a
word for and that the number reaches, and then rounded to one digit after the point. A number below all
of them is written out, with all its digits. So is what is not finite, unless it is compared first: that
has no result for a not-a-number, and an infinity reaches all of them but cannot be rounded.
-/

namespace Phrasebook.Culture

/-- A number by a pattern. -/
def byPattern (c : Culture) (pattern : Text) (r : NumberPattern.Request) (d : Decimal) :
    Except Obstacle Text := do
  (← NumberPattern.ofText pattern).apply c.conventions.symbols r d

/-- A number by a pattern that is not about money. -/
def numberAs (c : Culture) (pattern : Text) (d : Decimal) : Except Obstacle Text :=
  c.byPattern pattern .plain d

/-- A number. -/
def number (c : Culture) (d : Decimal) : Except Obstacle Text := c.numberAs c.conventions.numbers.decimal d

/-- A number as a percentage. -/
def percent (c : Culture) (d : Decimal) : Except Obstacle Text := c.numberAs c.conventions.numbers.percent d

/-- A number with an exponent. -/
def scientific (c : Culture) (d : Decimal) : Except Obstacle Text :=
  c.numberAs c.conventions.numbers.scientific d

/-- The sign of a currency. -/
def currencySign (c : Culture) (code : Text) : Text := c.conventions.currencySign code

/-- How a currency is told. -/
def money (c : Culture) (code : Text) : NumberPattern.Money := ⟨code, c.currencySign code⟩

/-- An amount of money. Without a code no currency lays down how many digits there are. -/
def amount (c : Culture) (code : Text) (d : Decimal) : Except Obstacle Text :=
  let places := if code.isEmpty then none else some (Territory.digitsOf code)
  c.byPattern c.conventions.numbers.currency ⟨some (c.money code), places, false⟩ d

/-! ## Few words -/

/-- The patterns of a plural category, with the powers of ten that they are for. -/
structure CompactForm where
  category : Text
  patterns : List (Nat × Text)

/-- The forms that a text lists. -/
def compactForms (t : Text) : List CompactForm :=
  if t.isEmpty then []
  else (Text.splitAll '\n' t).map fun line =>
    match Text.splitAll '|' line with
    | [] => ⟨[], []⟩
    | category :: patterns => ⟨category, (patterns.zipIdx 3).map fun (t, n) => (n, t)⟩

/-- The pattern of a category for a power of ten, or else that of the category `other`. -/
def compactPattern? (forms : List CompactForm) (category : Text) (power : Nat) : Option Text :=
  let inForm (category : Text) : Option Text := do
    let form ← forms.find? fun f => f.category = category
    (Pairs.get? power form.patterns).filter fun t => !t.isEmpty
  (inForm category).or (inForm "other")

/-- The first power of ten that a number reaches, with its pattern. -/
def firstReached (magnitude : Decimal) : List (Nat × Text) → Except Obstacle (Option (Nat × Text))
  | [] => .ok none
  | (power, pattern) :: rest => do
    if ← magnitude.reaches (powerOfTen power) then return some (power, pattern)
    else firstReached magnitude rest

/-- A number made ready to be written in few words: what is left to be written, and the pattern, if
there is one for numbers of this size. -/
def shorten (c : Culture) (forms : List CompactForm) (d : Decimal) :
    Except Obstacle (Decimal × Option Text) := do
  if !d.isFinite && !c.ordersSpecials then return (d, none)
  let magnitude ← d.magnitude
  let others := (forms.find? fun f => f.category = Text.ofString "other").map CompactForm.patterns
  match ← firstReached magnitude (others.getD []).reverse with
  | none => return (d, none)
  | some (power, pattern) =>
    if pattern = "0" then return (d, some pattern)
    else
      let zeros := pattern.count (CodePoint.ofChar '0')
      let d ← d.divideBy (powerOfTen (power + 1 - zeros))
      let shown ← d.quantize (-1)
      let isOne ← Decimal.equals d (.ofInt 1)
      let hasOne := forms.any fun f => f.category = Text.ofString "1"
      let rules := Conventions.keyedItems c.conventions.plurals
      let size ← d.magnitude
      let category : Text := if isOne ∧ hasOne then "1" else Plural.category rules size
      return (shown, compactPattern? forms category power)

/-- A number in few words by some forms. A language without such forms cannot write it. -/
def compactBy (c : Culture) (words : Text) (d : Decimal) : Except Obstacle Text := do
  let forms := compactForms words
  if forms.isEmpty then .error .key
  else
    let (d, pattern) ← c.shorten forms d
    c.byPattern (pattern.getD c.conventions.numbers.decimal) ⟨none, none, true⟩ d

/-- A number in few words, shortened. -/
def compact (c : Culture) (d : Decimal) : Except Obstacle Text := c.compactBy c.conventions.compact.short d

/-- A number in few words, written out. -/
def compactLong (c : Culture) (d : Decimal) : Except Obstacle Text :=
  c.compactBy c.conventions.compact.long d

/-- White space in a row, the first of it kept. -/
def squeezeFrom (afterBlank : Bool) : Text → Text
  | [] => []
  | x :: t =>
    if x.isBlank && afterBlank then squeezeFrom true t else x :: squeezeFrom x.isBlank t

/-- A pattern of an amount in few words with nothing left of it but the place of the number, that of
the currency and one blank at most between them. -/
def bareAmountPattern (t : Text) : Text :=
  let kept := t.filter fun x => x = CodePoint.ofChar '0' || x.isBlank || x = CodePoint.ofChar '¤'
  Text.strip (squeezeFrom false kept)

/-- An amount of money in few words. -/
def compactAmount (c : Culture) (code : Text) (d : Decimal) : Except Obstacle Text := do
  let forms := compactForms c.conventions.compact.currency
  let (d, pattern) ← c.shorten forms d
  let hasMark (t : Text) : Bool := t.contains (CodePoint.ofChar '¤')
  let others := (forms.find? fun f => f.category = Text.ofString "other").map CompactForm.patterns
  let first := (others.getD []).find? fun (_, t) => hasMark t
  match (pattern.filter hasMark).or (first.map fun (_, t) => bareAmountPattern t) with
  | none => .error .value
  | some pattern => c.byPattern pattern ⟨some (c.money code), none, true⟩ d

end Phrasebook.Culture
