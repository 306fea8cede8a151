import Phrasebook.Files.Objects

/-!
# Nested objects

Plain JSON files: every text at any depth is a value, under the names on the way to it joined by full
stops.
-/

namespace Phrasebook.Files.Nested

mutual

/-- A catalog with a member of an object added under its dotted key. -/
def addMember (o : Options) (mode : Mode) (key : Text) (t : Catalog) : Json → Outcome Catalog
  | .text value => do
    let (text, escapedText) := splitEscapes mode value
    return t.add key (← makeEntry o mode key (some text) escapedText)
  | .object members => addMembers o mode key t members
  | v => .error (Objects.unsupported v key)

/-- A catalog with the members of a group added. -/
def addMembers (o : Options) (mode : Mode) (group : Text) (t : Catalog) :
    List (Text × Json) → Outcome Catalog
  | [] => .ok t
  | (name, v) :: rest => do
    let t ← addMember o mode (Tree.join group name.strip) t v
    addMembers o mode group t rest

end

/-- The catalog that a text writes. -/
def catalog (o : Options) (mode : Mode) (t : Text) : Outcome Catalog := do
  addMembers o mode [] (.ofLocale none) (← Objects.members t)

/-- Every member counts, under its name without outer blanks. -/
def naming : Objects.Naming where
  isDescription _ := false
  leafKey := Text.strip

end Phrasebook.Files.Nested
