import Phrasebook.Text.Basic

/-!
# Positions

A place in a text is an offset from its start, or a line and a column, both counted from one.
`lineColumn` turns an offset into a line and a column and `absolutePosition` goes the other way; for
both a line ends with a line feed.
-/

namespace Phrasebook.Text

/-- The offset just after the given number of line feeds; the length if there are fewer. -/
def afterLineFeeds : Text → Nat → Nat
  | _, 0 => 0
  | [], _ + 1 => 0
  | c :: t, n + 1 => 1 + if c = CodePoint.lineFeed then afterLineFeeds t n else afterLineFeeds t (n + 1)

/-- The offset of a line and a column. -/
def absolutePosition (t : Text) (line column : Nat) : Nat :=
  afterLineFeeds t (line - 1) + (column - 1)

/-- The line and the column of an offset. -/
def lineColumn (t : Text) (offset : Nat) : Nat × Nat :=
  let before := t.take offset
  (before.count CodePoint.lineFeed + 1,
    (before.reverse.takeWhile (· ≠ CodePoint.lineFeed)).length + 1)

end Phrasebook.Text
