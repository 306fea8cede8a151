import Phrasebook.Error
import Phrasebook.Unicode.Properties

/-!
# Cursor

A cursor stands before the rest of a text and knows how it got there: the offset, and the line and
column, both counted from one. A line ends with a line feed, or with a carriage return that no line
feed follows; a carriage return never counts as a column.
-/

namespace Phrasebook

/-- A place in a text that is read from left to right. -/
structure Cursor where
  rest : Text
  offset : Nat
  line : Nat
  column : Nat
deriving DecidableEq

namespace Cursor

/-- The cursor before the first code point. -/
def start (t : Text) : Cursor := ⟨t, 0, 1, 1⟩

/-- Nothing is left. -/
def atEnd (c : Cursor) : Bool := c.rest.isEmpty

/-- The code point `ahead` places on, if the text reaches that far. -/
def peek? (c : Cursor) (ahead : Nat) : Option CodePoint := c.rest[ahead]?

/-- The next code point as a text; empty at the end. -/
def peekText (c : Cursor) : Text := c.rest.take 1

/-- Whether the next code point is `x`. -/
def isAt (c : Cursor) (x : CodePoint) : Bool := c.rest.head? = some x

/-- Whether the rest starts with `lead`. -/
def startsWith (c : Cursor) (lead : Text) : Bool := Text.startsWith c.rest lead

/-- The cursor after the next code point. -/
def next (c : Cursor) : Cursor :=
  match c.rest with
  | [] => c
  | x :: rest =>
    if x = CodePoint.lineFeed then ⟨rest, c.offset + 1, c.line + 1, 1⟩
    else if x = CodePoint.carriageReturn then
      if rest.head? = some CodePoint.lineFeed then ⟨rest, c.offset + 1, c.line, c.column⟩
      else ⟨rest, c.offset + 1, c.line + 1, 1⟩
    else ⟨rest, c.offset + 1, c.line, c.column + 1⟩

/-- The cursor after the next `count` code points, or at the end. -/
def advance : Nat → Cursor → Cursor
  | 0, c => c
  | count + 1, c => advance count c.next

theorem next_rest (c : Cursor) : c.next.rest = c.rest.tail := by
  unfold next
  split
  · simp [*]
  · next h => rw [h]; dsimp only [List.tail]; repeat (split <;> try rfl)

theorem advance_rest (n : Nat) (c : Cursor) : (advance n c).rest = c.rest.drop n := by
  induction n generalizing c with
  | zero => simp [advance]
  | succ n ih => rw [advance, ih, next_rest, List.drop_tail]

/-- The cursor after all code points with the property `p` that stand next. -/
def skipWhile (p : CodePoint → Bool) (c : Cursor) : Cursor :=
  advance (c.rest.takeWhile p).length c

/-- What lies between a cursor and a later one on the same text. -/
def textTo (c later : Cursor) : Text := c.rest.take (later.offset - c.offset)

/-- Spaces, tabs, form feeds and vertical tabs. -/
def isInlineBlank (x : CodePoint) : Bool := x = ' ' || x = '\t' || x.val = 0x0C || x.val = 0x0B

/-- A line feed or a carriage return. -/
def isBreak (x : CodePoint) : Bool := x = CodePoint.carriageReturn || x = CodePoint.lineFeed

/-- Past the blanks of the line. -/
def skipInlineBlanks (c : Cursor) : Cursor := c.skipWhile isInlineBlank

/-- Past all white space, line breaks included. -/
def skipBlanks (c : Cursor) : Cursor := c.skipWhile CodePoint.isBlank

/-- Before a line break or at the end. -/
def atLineEnd (c : Cursor) : Bool :=
  match c.rest with
  | [] => true
  | x :: _ => isBreak x

/-- Past one line break, if one stands next. -/
def skipLineBreak (c : Cursor) : Cursor :=
  if c.startsWith "\r\n" then advance 2 c
  else
    match c.rest with
    | [] => c
    | x :: _ => if isBreak x then c.next else c

/-- To the end of the line. -/
def toLineEnd (c : Cursor) : Cursor := c.skipWhile fun x => !isBreak x

/-- The error that starts at `place` and reaches as far as `c` has read. -/
def errorFrom (c place : Cursor) (message : Text) : TextError where
  message := message ++ " at " ++ TextError.place place.line place.column
  start := place.offset
  stop := max c.offset place.offset
  line := place.line
  column := place.column

/-- The error at the cursor. -/
def error (c : Cursor) (message : Text) : TextError := c.errorFrom c message

end Cursor

end Phrasebook
