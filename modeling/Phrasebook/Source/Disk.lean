import Phrasebook.Source.Basic

/-!
# Disks

A disk at one moment: directories, files with their content, and the directory that relative paths
start from. Paths are followed name by name, so that every name but the last has to lead to a
directory; a full stop stays where it is and two lead to the directory above.

A disk is a source too. It looks for a file in some directories, then beside the origin, and then in the
directory that relative paths start from; an absolute path is looked for nowhere else.
-/

namespace Phrasebook

/-- What lies at a place of a disk. -/
inductive Item where
  | file (content : Bytes)
  | directory
deriving DecidableEq

/-- Directories and files. -/
structure Disk where
  /-- Items by the names that lead to them from the root. -/
  items : List (List Text × Item)
  /-- Where relative paths start. -/
  here : List Text

namespace Disk

/-- A disk with nothing on it but the directory that relative paths start from. -/
def ofDirectory (here : List Text) : Disk := ⟨[(here, .directory)], here⟩

/-! ## Following paths -/

/-- The name that stays where it is. -/
def same : Text := "."

/-- The name of the directory above. -/
def above : Text := ".."

/-- The item at a place; the root is a directory. -/
def itemAt? (d : Disk) (place : List Text) : Option Item :=
  if place.isEmpty then some .directory else Pairs.get? place d.items

/-- Where a name leads from a place. -/
def step (place : List Text) (name : Text) : List Text :=
  if name.isEmpty ∨ name = same then place
  else if name = above then place.dropLast
  else place ++ [name]

/-- Where names lead from a place, if everything before the end is a directory. -/
def walk? (d : Disk) (place : List Text) : List Text → Option (List Text)
  | [] => some place
  | name :: rest =>
    match d.itemAt? place with
    | some .directory => d.walk? (step place name) rest
    | _ => none

/-- Where a path starts. -/
def start (d : Disk) (path : Text) : List Text := if Path.isAbsolute path then [] else d.here

/-- The content of the file that a path leads to. -/
def fileAt? (d : Disk) (path : Text) : Option Bytes := do
  let place ← d.walk? (d.start path) (Text.splitAll Path.slash path)
  match ← d.itemAt? place with
  | .file content => some content
  | .directory => none

/-- Whether a path leads to a file. -/
def isFile (d : Disk) (path : Text) : Bool := (d.fileAt? path).isSome

/-! ## Changes -/

/-- The place that a path names, whatever lies there. -/
def placeOf (d : Disk) (path : Text) : List Text :=
  (Text.splitAll Path.slash path).foldl step (d.start path)

/-- The disk with directories along some names from a place. -/
def makeAlong (d : Disk) (place : List Text) : List Text → Disk
  | [] => d
  | name :: rest =>
    let next := place ++ [name]
    let items := if Pairs.has next d.items then d.items else d.items ++ [(next, .directory)]
    makeAlong { d with items := items } next rest

/-- The disk with a directory, and those above it. -/
def makeDirectory (d : Disk) (path : Text) : Disk := d.makeAlong [] (d.placeOf path)

/-- The disk with a file, and the directories above it. -/
def write (d : Disk) (path : Text) (content : Bytes) : Disk :=
  let place := d.placeOf path
  let d := d.makeAlong [] place.dropLast
  { d with items := Pairs.put place (.file content) d.items }

/-- The disk without an item. -/
def remove (d : Disk) (path : Text) : Disk :=
  { d with items := Pairs.remove (d.placeOf path) d.items }

/-! ## As a source -/

/-- The directory that relative paths start from as a path. -/
def herePath (d : Disk) : Text := [Path.slash] ++ Text.join [Path.slash] d.here

/-- Where a file is looked for, in order. -/
def candidates (d : Disk) (directories : List Text) (name : Text) (origin : Option Text) : List Text :=
  if Path.isAbsolute name then [name]
  else
    let beside := ((origin.map Path.directory).filter fun t => !t.isEmpty).toList
    let all := directories.filter (fun t => !t.isEmpty) ++ beside ++ [d.herePath]
    all.map fun directory => Path.join directory name

/-- The disk as a source that searches some directories first. -/
def source (d : Disk) (directories : List Text) : Source where
  load? name origin :=
    if name.isEmpty then none else (d.candidates directories name origin).findSome? d.fileAt?

/-! ## Reading a file by its path -/

/-- A path without the names that stay where they are. -/
def tidy (path : Text) : Text :=
  let names := (Text.splitAll Path.slash path).filter fun t => !(t.isEmpty || t = same)
  let root : Text := if Path.isAbsolute path then [Path.slash] else []
  root ++ Text.join [Path.slash] names

/-- A surrogate that stands for a byte that is no text. -/
def isRawByte (c : CodePoint) : Bool := 0xDC80 ≤ c.val && c.val ≤ 0xDCFF

/-- Why a path cannot be asked for at all, if it cannot. -/
def pathObstacle? (path : Text) : Option Obstacle :=
  if path.any fun c => c.isSurrogate && !isRawByte c then some .encoding
  else if path.any fun c => c.val = 0 then some .value
  else none

/-- The content of a file, or else the failure for a file that cannot be read. -/
def read (d : Disk) (path : Text) (unreadable : Failure) : Outcome Bytes :=
  match pathObstacle? path with
  | some o => .error (.obstacle o)
  | none =>
    match d.fileAt? (tidy path) with
    | some content => .ok content
    | none => .error unreadable

end Disk

end Phrasebook
