import Phrasebook.Error
import Phrasebook.Pairs
import Phrasebook.Source.Path
import Phrasebook.Text.Utf8

/-!
# Sources

A source gives the content of a file by its name, or nothing; a file that is not there is no failure.
Whoever asks may add the name of the file that refers to the one asked for, its origin.
-/

namespace Phrasebook

namespace Content

/-- The bytes of the content, unless it is a text with a lone surrogate. -/
def encode? : Content → Except Obstacle Bytes
  | bytes b => .ok b
  | text t => if t.any CodePoint.isSurrogate then .error .encoding else .ok (Utf8.encode t)

end Content

/-- Where the content of files comes from. -/
structure Source where
  /-- The content of a file by its name and its origin. -/
  load? : Text → Option Text → Option Bytes

namespace Source

/-- The source without files. -/
def empty : Source := ⟨fun _ _ => none⟩

/-- The source of some files by name. A file that is not listed by its whole path is looked for by its
last name. -/
def ofFiles (files : List (Text × Bytes)) : Source where
  load? name _ := (Pairs.get? name files).or (Pairs.get? (Path.baseName name) files)

/-- The source that asks one source and, if it has nothing, another. -/
def orElse (s t : Source) : Source where
  load? name origin := (s.load? name origin).or (t.load? name origin)

/-- The source that asks several sources in turn. -/
def chain (sources : List Source) : Source := sources.foldr orElse empty

end Source

/-- The bytes of several contents by name; the first that cannot be encoded stops it. -/
def encodeFiles : List (Text × Content) → Except Obstacle (List (Text × Bytes))
  | [] => .ok []
  | (name, content) :: rest => do
    let b ← content.encode?
    return (name, b) :: (← encodeFiles rest)

end Phrasebook
