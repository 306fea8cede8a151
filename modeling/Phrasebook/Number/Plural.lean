import Phrasebook.Number.Decimal
import Phrasebook.Pairs
import Phrasebook.Unicode.Properties

/-!
# Plural categories

The rule of a plural category is a condition on a number: alternatives joined by `or`, each of relations
joined by `and`. A relation compares an operand of the number, perhaps a remainder of it, with values and
ranges of values. The first category whose rule holds is that of the number, or else `other`.
-/

namespace Phrasebook.Plural

/-- What a rule looks at in a number. -/
inductive Operand where
  /-- The number itself. -/
  | whole
  | integerPart
  /-- How many digits stand after the point. -/
  | places
  /-- How many of them are left without trailing zeros. -/
  | visiblePlaces
  /-- The digits after the point as a number. -/
  | fraction
  /-- The same without trailing zeros. -/
  | visibleFraction
  /-- Nothing that numbers have. -/
  | absent
deriving DecidableEq

/-- A comparison. -/
structure Relation where
  operand : Operand
  modulus : Option Nat
  negated : Bool
  ranges : List (Nat × Nat)
deriving DecidableEq

/-- A condition: alternatives, each of relations that must all hold. -/
abbrev Rule := List (List Relation)

/-! ## Reading -/

/-- The operand that a letter names. -/
def operandOf (t : Text) : Operand :=
  if t = "n" then .whole
  else if t = "i" then .integerPart
  else if t = "v" then .places
  else if t = "w" then .visiblePlaces
  else if t = "f" then .fraction
  else if t = "t" then .visibleFraction
  else .absent

/-- The range that is written as one number, or as two with two full stops between them. -/
def range (t : Text) : Nat × Nat :=
  let (low, rest) := Text.cut '.' t
  let low := asciiNumber low
  match rest with
  | none => (low, low)
  | some rest => (low, asciiNumber (rest.drop 1))

/-- The relation that some words write. -/
def relation : List Text → Relation
  | [operand, sign, values] =>
    ⟨operandOf operand, none, sign = "!=", (Text.splitAll ',' values).map range⟩
  | [operand, _, modulus, sign, values] =>
    ⟨operandOf operand, some (asciiNumber modulus), sign = "!=", (Text.splitAll ',' values).map range⟩
  | _ => ⟨.absent, none, false, []⟩

/-- Words cut at each occurrence of one. -/
def splitWords (separator : Text) : List Text → List (List Text)
  | [] => [[]]
  | w :: rest =>
    if w = separator then [] :: splitWords separator rest
    else
      match splitWords separator rest with
      | [] => [[w]]
      | part :: parts => (w :: part) :: parts

/-- The rule that a text writes. -/
def Rule.ofText (t : Text) : Rule :=
  (splitWords "or" t.words).map fun part => (splitWords "and" part).map relation

/-! ## Evaluation -/

/-- The digits after the point that a number is written with. -/
def fractionOf (d : Decimal) : Text :=
  match d with
  | .finite _ coefficient exponent =>
    if exponent < 0 then
      let digits := Text.ofNat coefficient
      digits.drop (digits.length - (-exponent).toNat)
    else []
  | _ => []

/-- A text without the zeros at its end. -/
def dropEndZeros (t : Text) : Text := (t.reverse.dropWhile (· = CodePoint.ofChar '0')).reverse

/-- The value of an operand, if it is a natural number. -/
def operandValue? (d : Decimal) : Operand → Option Nat
  | .whole =>
    match d with
    | .finite _ coefficient exponent =>
      let scale := powerOfTen (-exponent).toNat
      if exponent ≥ 0 then some (coefficient * powerOfTen exponent.toNat)
      else if coefficient % scale = 0 then some (coefficient / scale)
      else none
    | _ => none
  | .integerPart => (d.truncate.toOption).map Int.natAbs
  | .places => some (fractionOf d).length
  | .visiblePlaces => some (dropEndZeros (fractionOf d)).length
  | .fraction => some (asciiNumber (fractionOf d))
  | .visibleFraction => some (asciiNumber (dropEndZeros (fractionOf d)))
  | .absent => some 0

/-- Whether a relation holds of a number. A number with a fraction is in no range. -/
def Relation.holds (d : Decimal) (r : Relation) : Bool :=
  let isIn : Bool := (operandValue? d r.operand).any fun n =>
    let n := match r.modulus with
      | none => n
      | some m => n % m
    r.ranges.any fun (low, high) => low ≤ n && n ≤ high
  isIn != r.negated

/-- Whether a rule holds of a number. -/
def Rule.holds (d : Decimal) (r : Rule) : Bool := r.any fun part => part.all (Relation.holds d)

/-- The category of a number by rules in order. -/
def category (rules : List (Text × Text)) (d : Decimal) : Text :=
  ((rules.find? fun (_, rule) => (Rule.ofText rule).holds d).map Prod.fst).getD "other"

end Phrasebook.Plural
