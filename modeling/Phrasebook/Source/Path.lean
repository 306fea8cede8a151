import Phrasebook.Text.Basic

/-!
# File paths

Paths with slashes between their names. Nothing here looks at a file system.
-/

namespace Phrasebook.Path

/-- The slash between the names of a path. -/
def slash : CodePoint := '/'

/-- The full stop before an extension. -/
def dot : CodePoint := '.'

/-- A path that starts at the root. -/
def isAbsolute (p : Text) : Bool := p.head? = some slash

/-- The last name of a path. -/
def baseName (p : Text) : Text := (p.reverse.takeWhile (· ≠ slash)).reverse

/-- The path without its last name. -/
def directory (p : Text) : Text :=
  let head := p.take (p.length - (baseName p).length)
  if head.all (· = slash) then head else (head.reverse.dropWhile (· = slash)).reverse

/-- A path within a directory; an absolute path stays what it is. -/
def join (directory p : Text) : Text :=
  if isAbsolute p || directory.isEmpty then p
  else if directory.getLast? = some slash then directory ++ p
  else directory ++ [slash] ++ p

/-- The path up to its extension, and the extension with its full stop. A name that has no full stop
but at its start has no extension. -/
def splitExtension (p : Text) : Text × Text :=
  let name := baseName p
  let tail := name.reverse.takeWhile (· ≠ dot)
  if tail.length = name.length then (p, [])
  else
    let cut := name.length - tail.length - 1
    if (name.take cut).all (· = dot) then (p, [])
    else (p.take (p.length - (tail.length + 1)), dot :: tail.reverse)

/-- The extension of a path with its full stop. -/
def extension (p : Text) : Text := (splitExtension p).2

end Phrasebook.Path
