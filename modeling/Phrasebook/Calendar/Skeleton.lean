import Phrasebook.Calendar.Pattern
import Phrasebook.Pairs

/-!
# Skeletons

A skeleton names the fields that a date shows and leaves it to the culture how they are put together. A
culture has patterns for some skeletons; another skeleton gets the pattern of the nearest of these that
has the same fields. Two lengths of a field are as far apart as their difference, but a month in letters
is far from a month in digits. Of equally near ones the first in the order of code points is taken.
-/

namespace Phrasebook.Skeleton

/-- The length of a field in a skeleton; zero if it has none. Of two runs of a letter the last counts. -/
def width (letter : CodePoint) (pattern : DatePattern) : Nat :=
  pattern.foldl (fun n piece => match piece with
    | .field c count => if c = letter then count else n
    | .literal _ => n) 0

/-- How far apart two lengths of a field are; nothing if only one of the skeletons has it. -/
def fieldDistance? (letter : CodePoint) (n m : Nat) : Option Nat :=
  if n = m then some 0
  else if n = 0 ∨ m = 0 then none
  else if letter = 'M' ∧ (n > 2) ≠ (m > 2) then some 0x100
  else some (max n m - min n m)

/-- How far apart two skeletons are; nothing if their fields differ. -/
def distance? (a b : DatePattern) : Option Nat :=
  DatePattern.fieldLengths.foldl (fun total (c, _) => do
    return (← total) + (← fieldDistance? c (width c a) (width c b))) (some 0)

/-- Whether a text comes before another in the order of code points. -/
def isBefore (a b : Text) : Bool := (a.map CodePoint.val) < (b.map CodePoint.val)

/-- The nearer of two skeletons with their distances. -/
def nearer (best : Option (Nat × Text)) (d : Nat) (option : Text) : Option (Nat × Text) :=
  match best with
  | none => some (d, option)
  | some (e, other) => if d < e || (d = e && isBefore option other) then some (d, option) else best

/-- A letter that no skeleton of the culture has, replaced. -/
def replaceUnused (options : List Text) (letter : CodePoint) (new skeleton : Text) : Text :=
  if skeleton.contains letter && !(options.any fun o => o.contains letter) then
    skeleton.replace [letter] new
  else skeleton

/-- The skeleton with fields that the culture does not have replaced by those that it has. -/
def adapt (options : List Text) (skeleton : Text) : Text :=
  [(('z' : Char), "v"), ('k', "H"), ('K', "h"), ('a', ""), ('b', "")].foldl
    (fun s (letter, new) => replaceUnused options letter (new : String) s) skeleton

/-- The nearest skeleton. -/
def nearest? (options : List Text) (skeleton : Text) : Option Text :=
  let wanted := DatePattern.pieces (adapt options skeleton)
  let options := options.filter fun o => !o.isEmpty
  (options.foldl (fun best o =>
    match distance? wanted (DatePattern.pieces o) with
    | some d => nearer best d o
    | none => best) none).map Prod.snd

/-- The pattern for a skeleton. -/
def pattern? (patterns : List (Text × Text)) (skeleton : Text) : Option Text :=
  match Pairs.get? skeleton patterns with
  | some p => some p
  | none => do Pairs.get? (← nearest? (Pairs.keys patterns) skeleton) patterns

end Phrasebook.Skeleton
