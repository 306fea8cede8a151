import Phrasebook.Error

/-!
# Date patterns

A date pattern is a sequence of fields and of text that stands for itself. A run of one letter is a
field; its length says how the field is written. Text between apostrophes stands for itself, and so do
two apostrophes for one; text that is never closed is left out.
-/

namespace Phrasebook

/-- A piece of a date pattern. -/
inductive DatePiece where
  | literal (c : CodePoint)
  | field (letter : CodePoint) (count : Nat)
deriving DecidableEq, Inhabited

/-- A date pattern. -/
abbrev DatePattern := List DatePiece

namespace DatePattern

/-- The letters of fields with the lengths that they may have; none where any length will do. -/
def fieldLengths : List (Char × List Nat) :=
  [ ('G', [1, 2, 3, 4, 5]), ('y', []), ('Y', []), ('u', []),
    ('Q', [1, 2, 3, 4, 5]), ('q', [1, 2, 3, 4, 5]),
    ('M', [1, 2, 3, 4, 5]), ('L', [1, 2, 3, 4, 5]),
    ('w', [1, 2]), ('W', [1]),
    ('d', [1, 2]), ('D', [1, 2, 3]), ('F', [1]), ('g', []),
    ('E', [1, 2, 3, 4, 5, 6]), ('e', [1, 2, 3, 4, 5, 6]), ('c', [1, 3, 4, 5, 6]),
    ('a', [1, 2, 3, 4, 5]), ('b', [1, 2, 3, 4, 5]), ('B', [1, 2, 3, 4, 5]),
    ('h', [1, 2]), ('H', [1, 2]), ('K', [1, 2]), ('k', [1, 2]),
    ('m', [1, 2]), ('s', [1, 2]), ('S', []), ('A', []),
    ('z', [1, 2, 3, 4]), ('Z', [1, 2, 3, 4, 5]), ('O', [1, 4]), ('v', [1, 4]),
    ('V', [1, 2, 3, 4]), ('x', [1, 2, 3, 4, 5]), ('X', [1, 2, 3, 4, 5]) ]

/-- The lengths listed for a letter. -/
def lengthsOf? (letter : CodePoint) : Option (List Nat) :=
  (fieldLengths.find? fun (c, _) => CodePoint.ofChar c = letter).map Prod.snd

/-- The apostrophe. -/
def apostrophe : CodePoint := '\''

/-- The text up to a closing apostrophe, and how many code points that takes. -/
def quoted? : Text → Option (Text × Nat)
  | [] => none
  | [c] => if c = apostrophe then some ([], 1) else none
  | c :: d :: t =>
    if c = apostrophe then
      if d = apostrophe then (quoted? t).map fun (x, n) => (apostrophe :: x, n + 2) else some ([], 1)
    else (quoted? (d :: t)).map fun (x, n) => (c :: x, n + 1)

/-- A letter of a field before the pieces that follow it. -/
def addLetter (letter : CodePoint) : DatePattern → DatePattern
  | .field c n :: rest => if c = letter then .field c (n + 1) :: rest else .field letter 1 :: .field c n :: rest
  | rest => .field letter 1 :: rest

/-- The pieces of a text, of which `skip` code points are already read. -/
def piecesFrom : (skip : Nat) → Text → DatePattern
  | _, [] => []
  | skip + 1, _ :: t => piecesFrom skip t
  | 0, c :: t =>
    if c = apostrophe then
      if t.head? = some apostrophe then .literal apostrophe :: piecesFrom 1 t
      else
        match quoted? t with
        | some (x, n) => x.map DatePiece.literal ++ piecesFrom n t
        | none => []
    else if (lengthsOf? c).isSome then addLetter c (piecesFrom 0 t)
    else .literal (if c.val = 0 then apostrophe else c) :: piecesFrom 0 t

/-- The pieces of a text. -/
def pieces (t : Text) : DatePattern := piecesFrom 0 t

/-- Whether a piece has a length that its field may have. -/
def isWellFormed : DatePiece → Bool
  | .literal _ => true
  | .field letter count => (lengthsOf? letter).any fun l => l.isEmpty || l.contains count

/-- The pattern that a text writes. -/
def ofText (t : Text) : Except Obstacle DatePattern :=
  let p := pieces t
  if p.all isWellFormed then .ok p else .error .value

end DatePattern

end Phrasebook
