import Phrasebook.Configuration
import Phrasebook.Files.Options
import Phrasebook.Json.Reader
import Phrasebook.Text.Position
import Phrasebook.Catalog
import Phrasebook.Tree

/-!
# Files that are objects

What the formats built on JSON share. A file is one object: members that are texts are values, members
that are objects are groups, and the keys of what is in a group start with its name. Members that only
describe others can be left out of the tree.
-/

namespace Phrasebook.Files.Objects

/-- The failure that a fault of a document is reported as. -/
def failure (t : Text) : Json.Fault → Failure
  | .malformed c left =>
    let offset := t.length - left
    let (line, column) := Text.lineColumn t offset
    .malformed
      { message := c.message ++ " at " ++ TextError.place line column
        start := offset
        stop := offset
        line := line
        column := column }
  | .repeatedKey key => .content ("Duplicate key '" ++ key ++ "'")
  | .numberTooLong => .obstacle .value

/-- The members of the object that a document is. -/
def members (t : Text) : Outcome (List (Text × Json)) := do
  match ← (Json.read t).mapError (failure t) with
  | .object members => return members
  | _ => .error (.content "The root element of the document must be an object")

/-- The refusal of a value of the wrong kind. -/
def unsupported (v : Json) (key : Text) : Failure :=
  .content ("Unsupported value of type '" ++ v.kind ++ "' for key '" ++ key ++ "'")

/-! ## Configurations -/

/-- What a configuration document says, read so far: settings by lower-case name, and pairs of a locale
and a file. -/
structure Settings where
  values : List (Text × Option Text)
  files : List (Text × Text)

/-- The pairs of a locale and a file. -/
def filePairs : List (Text × Json) → Outcome (List (Text × Text))
  | [] => .ok []
  | (locale, .text file) :: rest => do return (locale, file) :: (← filePairs rest)
  | (locale, _) :: _ =>
    .error (.content ("The translation reference for '" ++ locale ++ "' must be a string"))

/-- The settings with a member of the document added. -/
def addSetting (s : Settings) (name : Text) (v : Json) : Outcome Settings :=
  let key := name.strip.lower
  if key = Configuration.filesSection then
    match v with
    | .object members => do return { s with files := s.files ++ (← filePairs members) }
    | _ =>
      .error (.content ("The '" ++ Configuration.filesSection
        ++ "' setting must be an object"))
  else if key = Configuration.defaultFileSetting ∨ key = Configuration.defaultLocaleSetting
      ∨ key = Configuration.modeSetting then
    match v with
    | .text t => .ok { s with values := Pairs.put key (some t) s.values }
    | .null => .ok { s with values := Pairs.put key none s.values }
    | _ => .error (.content ("The '" ++ key ++ "' setting must be a string"))
  else .ok s

/-- The configuration that a text writes; a blank text sets nothing. -/
def configuration (t : Text) (source : Option Text) : Outcome Configuration := do
  let members ← if t.isBlank then pure [] else members t
  let s ← members.foldlM (fun s (name, v) => addSetting s name v) ⟨[], []⟩
  let files ← Configuration.fileMap s.files
  Configuration.ofSettings (fun name => (Pairs.get? name s.values).join) files source

/-! ## Trees -/

/-- How a format names what is in an object. -/
structure Naming where
  /-- Members that only describe others. -/
  isDescription : Text → Bool
  /-- The key of a leaf. -/
  leafKey : Text → Text

mutual

/-- A group with a member of an object added. -/
def addMember (naming : Naming) (o : Options) (mode : Mode) (name : Text) (g : Group) :
    Json → Outcome Group
  | .text t => do
    let flag ← leafFlag o mode (some t)
    g.addLeaf ⟨naming.leafKey name, some t, none, flag⟩
  | .object members =>
    g.update (fun inner => addMembers naming o mode inner members) (Group.segments name.strip)
  | v => .error (unsupported v name)

/-- A group with the members of an object added. -/
def addMembers (naming : Naming) (o : Options) (mode : Mode) (g : Group) :
    List (Text × Json) → Outcome Group
  | [] => .ok g
  | (name, v) :: rest => do
    if naming.isDescription name then addMembers naming o mode g rest
    else
      let g ← addMember naming o mode name g v
      addMembers naming o mode g rest

end

/-- The tree that a text writes. -/
def tree (naming : Naming) (o : Options) (mode : Mode) (t : Text) : Outcome Tree := do
  return ⟨← addMembers naming o mode Tree.empty.root (← members t)⟩

end Phrasebook.Files.Objects
