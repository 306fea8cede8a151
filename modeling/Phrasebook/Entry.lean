import Phrasebook.Error
import Phrasebook.Json.Value
import Phrasebook.Pairs
import Phrasebook.Text.Case

/-!
# Entries

An entry is one text of a catalog with what is known about it. Its text may be absent while a
`reference` names another file that holds it; once that file is read, its content becomes the text and
the reference is spent (`resolveReference`).

A locked entry refuses every change. `Entry.empty` is the locked entry that stands for a text that is
found nowhere.
-/

namespace Phrasebook

/-- What is declared about a placeholder of a text. -/
structure Placeholder where
  name : Text
  type : Option Text
  format : Option Text
  example_ : Option Text
  /-- Parameters of the formatter. -/
  parameters : List (Text × Json)
  /-- Everything else that is declared. -/
  properties : List (Text × Json)
deriving Inhabited

namespace Placeholder

/-- Whether the same is declared about two placeholders. -/
def same (p q : Placeholder) : Bool :=
  p.name = q.name && p.type = q.type && p.format = q.format && p.example_ = q.example_
    && (Json.object p.parameters).same (.object q.parameters)
    && (Json.object p.properties).same (.object q.properties)

/-- A placeholder about which only the name is declared. -/
def named (name : Text) : Placeholder := ⟨name, none, none, none, [], []⟩

end Placeholder

/-- One text of a catalog. -/
structure Entry where
  /-- The key as it is written in the file. -/
  key : Text
  text : Option Text
  /-- The text as it is stored, where files store it with escapes. -/
  escapedText : Option Text
  /-- The file that holds the text. -/
  reference : Option Text
  hasPlaceholders : Bool
  description : Option Text
  comments : Option Text
  type : Option Text
  context : Option Text
  sourceText : Option Text
  screen : Option Text
  video : Option Text
  /-- The key that an alias leads to. -/
  target : Option Text
  placeholders : List Placeholder
  properties : List (Text × Json)
  isLocked : Bool
deriving Inhabited

namespace Entry

/-- An entry with nothing but a key. -/
def ofKey (key : Text) : Entry where
  key := key
  text := none
  escapedText := none
  reference := none
  hasPlaceholders := false
  description := none
  comments := none
  type := none
  context := none
  sourceText := none
  screen := none
  video := none
  target := none
  placeholders := []
  properties := []
  isLocked := false

/-- Neither text nor the name of a file that holds it. -/
def isEmpty (e : Entry) : Bool := e.text.isNone && e.escapedText.isNone && e.reference.isNone

/-- The entry of a text that is found nowhere. -/
def empty : Entry := { ofKey [] with isLocked := true }

/-- The entry with a field changed. -/
def change (field : Text) (f : Entry → Entry) (e : Entry) : Outcome Entry :=
  if e.isLocked then .error (.locked ("cannot assign to field '" ++ field ++ "' of a locked entry"))
  else .ok (f e)

/-- The entry with a placeholder declared. -/
def addPlaceholder (p : Placeholder) (e : Entry) : Outcome Entry :=
  if e.isLocked then .error (.locked "cannot add a placeholder to a locked entry")
  else .ok { e with placeholders := e.placeholders ++ [p] }

/-- The entry with a property set. -/
def setProperty (name : Text) (v : Json) (e : Entry) : Outcome Entry :=
  if e.isLocked then .error (.obstacle .type)
  else .ok { e with properties := Pairs.put name v e.properties }

/-- The entry after the file that it refers to was read. -/
def resolveReference (t : Text) : Entry → Outcome Entry :=
  change "text" fun e => { e with text := some t, reference := none }

/-- The entry closed against changes. -/
def lock (e : Entry) : Outcome Entry := e.change "placeholders" fun e => { e with isLocked := true }

/-- The texts of an entry that are compared as they are. -/
def plainFields (e : Entry) : List (Option Text) :=
  [some e.key, e.text, e.escapedText, e.reference, e.description, e.comments, e.type, e.context,
    e.sourceText, e.screen, e.video, e.target]

/-- Whether two entries say the same; an open entry never equals a locked one. -/
def same (e f : Entry) : Bool :=
  e.isLocked = f.isLocked && e.plainFields = f.plainFields && e.hasPlaceholders = f.hasPlaceholders
    && e.placeholders.length = f.placeholders.length
    && ((e.placeholders.zip f.placeholders).all fun (p, q) => p.same q)
    && (Json.object e.properties).same (.object f.properties)

/-- The declared placeholder with a name, without regard to case. -/
def findPlaceholder? (name : Text) (e : Entry) : Option Placeholder :=
  e.placeholders.find? fun p => p.name.lower = name.lower

end Entry

end Phrasebook
