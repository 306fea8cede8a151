import Phrasebook.Error
import Phrasebook.Unicode.Properties

/-!
# Rows of cells

A table is a text whose rows are lines and whose cells are separated by one code point. A cell may start
with a quoted part, in which separators and line breaks have no meaning and a quote is written twice.
Empty lines between rows do not count.
-/

namespace Phrasebook.Files

/-- A row of a table, with the offset and the line at which it starts. -/
structure Row where
  cells : List Text
  offset : Nat
  line : Nat
deriving DecidableEq

namespace Row

/-- The double quote around cells. -/
def quote : CodePoint := '"'

/-- The line feeds in a text. -/
def lineFeeds (t : Text) : Nat := t.count CodePoint.lineFeed

/-- A line feed or a carriage return. -/
def isBreak (c : CodePoint) : Bool := c = CodePoint.carriageReturn || c = CodePoint.lineFeed

/-- The quoted part of a cell after its opening quote, and what follows the closing quote, if there is
one. `skip` code points belong to a doubled quote. -/
def quotedFrom : (skip : Nat) → Text → Option (Text × Text)
  | _, [] => none
  | skip + 1, _ :: t => quotedFrom skip t
  | 0, c :: t =>
    if c = quote then
      if t.head? = some quote then (quotedFrom 1 t).map fun (text, rest) => (c :: text, rest)
      else some ([], t)
    else (quotedFrom 0 t).map fun (text, rest) => (c :: text, rest)

/-- A code point of the part of a cell that is not quoted. -/
def isPlain (separator c : CodePoint) : Bool := !isBreak c && decide (c ≠ separator)

/-- A cell without a quoted part, and what follows it. -/
def plainCell (separator : CodePoint) (t : Text) : Text × Text :=
  (t.takeWhile (isPlain separator), t.dropWhile (isPlain separator))

/-- A cell and what follows it. If its quoted part is not closed, the text from the opening quote
on. -/
def readCell (separator : CodePoint) (t : Text) : Except Text (Text × Text) :=
  if t.head? = some quote then
    match quotedFrom 0 (t.drop 1) with
    | none => .error t
    | some (quoted, rest) =>
      let (plain, rest) := plainCell separator rest
      .ok (quoted ++ plain, rest)
  else .ok (plainCell separator t)

/-- The cells of a row and what follows them. Every cell but the last takes a separator. -/
def readCells (separator : CodePoint) : (fuel : Nat) → Text → Except Text (List Text × Text)
  | 0, t => .ok ([], t)
  | fuel + 1, t => do
    let (first, rest) ← readCell separator t
    match rest with
    | [] => return ([first], [])
    | c :: after =>
      if c = separator then
        let (more, rest) ← readCells separator fuel after
        return (first :: more, rest)
      else return ([first], rest)

/-- What follows the line break that ends a row. -/
def afterBreak : Text → Text
  | [] => []
  | c :: t => if c = CodePoint.carriageReturn ∧ t.head? = some CodePoint.lineFeed then t.drop 1 else t

/-- The fault of a quoted cell that is not closed. `rowStart` is the text from the start of its row on,
`opening` the text from its quote on, both of a text of `total` code points. -/
def unclosed (total line : Nat) (rowStart opening : Text) : TextError :=
  let before := rowStart.take (rowStart.length - opening.length)
  let line := line + lineFeeds before
  let column := (before.reverse.takeWhile (· ≠ CodePoint.lineFeed)).length + 1
  { message := "Unclosed quoted cell at " ++ TextError.place line column
    start := total - opening.length
    stop := total
    line := line
    column := column }

/-- The rows of a text from a line on; the whole text has `total` code points. Every step takes a code
point. -/
def readFrom (separator : CodePoint) (total : Nat) : (fuel line : Nat) → Text →
    Except TextError (List Row)
  | 0, _, _ => .ok []
  | _ + 1, _, [] => .ok []
  | fuel + 1, line, c :: t =>
    if isBreak c then
      let halfOfPair := decide (c = CodePoint.carriageReturn)
        && decide (t.head? = some CodePoint.lineFeed)
      readFrom separator total fuel (if halfOfPair then line else line + 1) t
    else
      match readCells separator (t.length + 2) (c :: t) with
      | .error opening => .error (unclosed total line (c :: t) opening)
      | .ok (found, rest) => do
        let written := (c :: t).take (t.length + 1 - rest.length)
        let next := line + lineFeeds written + 1
        let more ← readFrom separator total fuel next (afterBreak rest)
        return ⟨found, total - (t.length + 1), line⟩ :: more

/-- The rows of a text. -/
def read (separator : CodePoint) (t : Text) : Except TextError (List Row) :=
  readFrom separator t.length (t.length + 1) 1 t

end Row

end Phrasebook.Files
