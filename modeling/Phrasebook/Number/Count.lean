import Phrasebook.Error
import Phrasebook.Number.Digits
import Phrasebook.Unicode.Properties

/-!
# Numbers in texts

Digits of any script that write a natural number, or with a sign and between blanks an integer. Digits
that have no decimal value (superscripts, for instance) and numbers of more than `digitLimit` digits are
refused.
-/

namespace Phrasebook.Count

/-- How many digits a number may have. -/
def digitLimit : Nat := 4300

/-- The number that a run of digits writes. -/
def ofDigits (t : Text) : Except Obstacle Nat :=
  if t.isEmpty || decide (t.length > digitLimit) then .error .value
  else
    match decimalNumber? t with
    | some n => .ok n
    | none => .error .value

/-- The digits of a number in which single underscores may stand between digits. -/
def joinDigits? (t : Text) : Option Text :=
  let parts := Text.splitAll CodePoint.underscore t
  if parts.any fun p => p.isEmpty then none else some parts.flatten

/-- The integer that a text writes. -/
def integerOf (t : Text) : Except Obstacle Int :=
  let t := t.strip
  let (negative, t) : Bool × Text :=
    match t with
    | [] => (false, [])
    | c :: rest => if c = '-' then (true, rest) else if c = '+' then (false, rest) else (false, t)
  match joinDigits? t with
  | none => .error .value
  | some digits => (ofDigits digits).map fun n => if negative then -(n : Int) else n

end Phrasebook.Count
