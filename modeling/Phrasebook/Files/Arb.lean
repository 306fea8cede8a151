import Phrasebook.Calendar.Iso
import Phrasebook.Files.Objects

/-!
# Arb files

Objects in which members that start with an at sign describe others: two at signs start a property of
the file, one starts the description of the entry whose key follows. The name of an entry may be
followed by an at sign and the key that it is an alias of. A description may come before its entry, and
outside the group of the entry under its dotted key.
-/

namespace Phrasebook.Files.Arb

/-- The at sign. -/
def atSign : CodePoint := '@'

/-! ## Properties of the file -/

/-- A property of the file that is a text; blank ones are absent. -/
def headerText (members : List (Text × Json)) (key : Text) : Outcome (Option Text) :=
  match Pairs.get? key members with
  | none => .ok none
  | some .null => .ok none
  | some (.text t) => .ok (if t.isBlank then none else some t.strip)
  | some _ => .error (.content ("The '" ++ key ++ "' property must be a string"))

/-- A text in which a final `Z` is written as the offset that it stands for. -/
def expandZulu (t : Text) : Text :=
  match t.getLast? with
  | none => t
  | some c => if c = 'Z' ∨ c = 'z' then t.dropLast ++ "+00:00" else t

/-- The moment of a timestamp; what cannot be read is absent. -/
def timestamp? (t : Option Text) : Option Moment := do
  let t ← t
  Iso.moment? (expandZulu t.strip)

/-- What the names of the file's own properties start with. -/
def customLead : Text := "@@x-"

/-- The file's own properties. -/
def customProperties (members : List (Text × Json)) : List (Text × Json) :=
  Pairs.ofList (members.filterMap fun (name, v) =>
    ((Text.dropLead? customLead name).filter fun rest => !rest.isEmpty).map fun rest => (rest, v))

/-- A catalog with the properties of the file and no entries. -/
def header (members : List (Text × Json)) : Outcome Catalog := do
  let locale ← headerText members "@@locale"
  let context ← headerText members "@@context"
  let author ← headerText members "@@author"
  let modified ← headerText members "@@last_modified"
  return { Catalog.ofLocale locale with
    context := context
    author := author
    lastModified := timestamp? modified
    customProperties := customProperties members }

/-! ## Descriptions -/

/-- A scalar of a description as text. -/
def scalarText? : Json → Option Text
  | .text t => some t
  | .int n => some (Text.ofInt n)
  | .double x => some x.toText
  | .bool b => some (if b then "True" else "False")
  | _ => none

/-- A placeholder with a member of its definition added. -/
def addDefinition (p : Placeholder) (name : Text) (v : Json) : Placeholder :=
  let key := name.strip
  let other : Placeholder := { p with properties := Pairs.put key v p.properties }
  let lowered := key.lower
  if lowered = "optionalparameters" then
    match v with
    | .object members =>
      { p with parameters := members.foldl (fun done (k, v) => Pairs.put k v done) p.parameters }
    | _ => other
  else if lowered = "type" then
    match v with
    | .text t => { p with type := some t }
    | _ => other
  else if lowered = "format" then
    match v with
    | .text t => { p with format := some t }
    | _ => other
  else if lowered = "example" then
    match scalarText? v with
    | some t => { p with example_ := some t }
    | none => other
  else other

/-- The placeholder with a definition. -/
def placeholder (name : Text) (definition : List (Text × Json)) : Placeholder :=
  definition.foldl (fun p (key, v) => addDefinition p key v) (.named name.strip)

/-- The placeholders that are defined by objects. -/
def placeholders (definitions : List (Text × Json)) : List Placeholder :=
  definitions.filterMap fun (name, v) =>
    match v with
    | .object definition => some (placeholder name definition)
    | _ => none

/-- The fields of an entry that a description sets to a text. -/
def describe? (field : Text) : Option (Text → Entry → Entry) :=
  if field = "description" then some fun t e => { e with description := some t }
  else if field = "type" then some fun t e => { e with type := some t }
  else if field = "context" then some fun t e => { e with context := some t }
  else if field = "source_text" then some fun t e => { e with sourceText := some t }
  else if field = "screen" then some fun t e => { e with screen := some t }
  else if field = "video" then some fun t e => { e with video := some t }
  else none

/-- The entry with a property of its own, if the name starts like that of one. -/
def addProperty (name : Text) (v : Json) (e : Entry) : Entry :=
  let key := name.strip
  let lowered := key.lower
  if Text.startsWith lowered "x-" ∧ lowered.length > 2 then
    { e with properties := Pairs.put (key.drop 2) v e.properties }
  else e

/-- The entry with a member of its description applied. -/
def applyMember (e : Entry) (name : Text) (v : Json) : Entry :=
  let lowered := name.strip.lower
  match describe? lowered, v with
  | some set, .text t => set t e
  | _, .object definitions =>
    if lowered = "placeholders" then
      { e with placeholders := e.placeholders ++ placeholders definitions }
    else addProperty name v e
  | _, _ => addProperty name v e

/-- The catalog with a description applied to the entry of a key, which is made if it is
missing. -/
def applyDescription (key : Text) (description : List (Text × Json)) (t : Catalog) :
    Catalog :=
  let e := (t.get? key).getD (Entry.ofKey key)
  t.add key (description.foldl (fun e (name, v) => applyMember e name v) e)

/-- An entry with what an earlier description said about it. -/
def withDescription (description e : Entry) : Entry :=
  { e with
    description := description.description
    type := description.type
    context := description.context
    sourceText := description.sourceText
    screen := description.screen
    video := description.video
    placeholders := description.placeholders
    properties := description.properties }

/-! ## Entries -/

/-- The name of an entry and the key that it is an alias of. -/
def splitAlias (name : Text) : Text × Option Text :=
  match Text.cut atSign name with
  | (base, some (c :: target)) => (base, some (c :: target))
  | _ => (name, none)

/-- The catalog with the entry of a text member added. -/
def addText (o : Options) (mode : Mode) (group name value : Text) (t : Catalog) :
    Outcome Catalog := do
  let (name, target) := splitAlias name
  let key := Tree.join group name
  let (text, escapedText) := splitEscapes mode value
  match (t.get? key).filter fun e => !e.isEmpty with
  | some _ =>
    .error (.content ("Duplicate key '" ++ key ++ "' specified in the translation file"))
  | none =>
    let e ← makeEntry o mode key (some text) escapedText
    let e := { e with target := target }
    match t.get? key with
    | some description => return t.add key (withDescription description e)
    | none => return t.add key e

/-- The catalog with the entries of all text members of a group added. -/
def addTexts (o : Options) (mode : Mode) (group : Text) (t : Catalog) :
    List (Text × Json) → Outcome Catalog
  | [] => .ok t
  | (name, .text value) :: rest => do
    let name := name.strip
    let t ← if name.head? = some atSign then .ok t else addText o mode group name value t
    addTexts o mode group t rest
  | _ :: rest => addTexts o mode group t rest

mutual

/-- The catalog with the texts of a group added, and then its descriptions and inner groups. -/
def addGroup (o : Options) (mode : Mode) (group : Text) (t : Catalog) :
    Json → Outcome Catalog
  | .object members => do
    let t ← addTexts o mode group t members
    addOthers o mode group t members
  | _ => .ok t

/-- The catalog with the descriptions and inner groups among the members of a group. -/
def addOthers (o : Options) (mode : Mode) (group : Text) (t : Catalog) :
    List (Text × Json) → Outcome Catalog
  | [] => .ok t
  | (name, v) :: rest => do
    let name := name.strip
    let t ← match v with
      | .text _ => .ok t
      | .object description =>
        if Text.startsWith name [atSign, atSign] then .ok t
        else if name.head? = some atSign then
          if name.length > 1 then
            .ok (applyDescription (Tree.join group (name.drop 1)) description t)
          else .ok t
        else addGroup o mode (Tree.join group name) t v
      | _ =>
        if Text.startsWith name [atSign, atSign] then .ok t
        else .error (Objects.unsupported v (Tree.join group name))
    addOthers o mode group t rest

end

/-- The catalog that the members of a document make. -/
def ofMembers (o : Options) (mode : Mode) (members : List (Text × Json)) : Outcome Catalog := do
  addGroup o mode [] (← header members) (.object members)

/-- The catalog that a text writes. -/
def catalog (o : Options) (mode : Mode) (t : Text) : Outcome Catalog := do
  ofMembers o mode (← Objects.members t)

/-- Descriptions do not count, and an entry is known by its name without the alias. -/
def naming : Objects.Naming where
  isDescription name := decide (name.strip.head? = some atSign)
  leafKey name := (splitAlias name.strip).1

end Phrasebook.Files.Arb
