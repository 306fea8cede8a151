import Phrasebook.Configuration
import Phrasebook.Files.Options
import Phrasebook.Text.Cursor
import Phrasebook.Catalog
import Phrasebook.Tree

/-!
# Files of key lines

A document is a sequence of lines: blank lines, comments, headers of sections between brackets, and
keys with their values. A dialect says what starts a comment, what separates a key from its value, how
keys and values are read and what may follow them on the line.

No section may come twice, and no key twice within a section; letter case does not tell them apart.
-/

namespace Phrasebook.Files

/-- A code point that a key may start with. -/
def startsKey (c : CodePoint) : Bool := c.isLetter || c = '_'

/-- A code point that may stand in a key. -/
def continuesKey (c : CodePoint) : Bool := c.isAlphanumeric || c = '_' || c = '-'

/-- A value as it is written, and decoded if the dialect decodes it itself. -/
structure Written where
  raw : Text
  decoded : Option Text
deriving DecidableEq

/-- A key with its value. -/
structure Item where
  /-- The dotted name of the group that the key is in. -/
  group : Text
  key : Text
  value : Written
deriving DecidableEq

namespace Item

/-- The dotted name of the key within its group. -/
def fullKey (i : Item) : Text := Tree.join i.group i.key

/-- The value as text, nothing decoded that the dialect did not decode. -/
def plainValue (i : Item) : Text := i.value.decoded.getD i.value.raw

/-- What tells keys apart. -/
def identity (i : Item) : Text × Text := (i.group.fold, i.key.fold)

end Item

/-- What a file of key lines says. -/
structure Document where
  items : List Item
  sections : List Text
deriving DecidableEq

/-- The rules in which files of key lines differ. -/
structure Dialect where
  /-- What a comment starts with. -/
  comment : CodePoint
  /-- What stands between a key and its value. -/
  isSeparator : CodePoint → Bool
  /-- The segments of a dotted key. -/
  readKey : Cursor → Except TextError (List Text × Cursor)
  /-- A value from its first code point on. -/
  readValue : Cursor → Except TextError (Written × Cursor)
  /-- Whether a comment may follow on the line. -/
  allowsTrailingComment : Bool

namespace Dialect

/-- The fault of a code point that has no place where it stands. -/
def unexpected (c : Cursor) : TextError :=
  c.error ("Unexpected character '" ++ c.peekText ++ "'")

/-- To the end of the line, on which nothing may follow but blanks and perhaps a comment. -/
def finishLine (d : Dialect) (c : Cursor) : Except TextError Cursor :=
  let c := c.skipInlineBlanks
  let c := if d.allowsTrailingComment && c.isAt d.comment then c.toLineEnd else c
  if c.atLineEnd then .ok c else .error (unexpected c)

/-- A code point that may stand in the name of a section. -/
def inSectionName (c : CodePoint) : Bool := continuesKey c || c = '.' || c = ' ' || c = '\t'

/-- The name of a section from the opening bracket on. -/
def readSection (c : Cursor) : Except TextError (Text × Cursor) :=
  let opening := c
  let start := c.next
  let c := start.skipWhile inSectionName
  if c.isAt ']' then
    let segments := (Text.splitAll Group.dot (start.textTo c).strip).map Text.strip
    if segments.any fun s => s.isEmpty then .error (c.next.errorFrom opening "Empty section name")
    else .ok (Text.join [Group.dot] segments, c.next)
  else if c.atLineEnd then .error (c.errorFrom opening "Unclosed section name")
  else .error (c.error ("Character '" ++ c.peekText ++ "' is not valid for a section name"))

/-- The document with a section header read from the place of its opening bracket. -/
def readHeader (d : Dialect) (doc : Document) (c : Cursor) :
    Except TextError ((Text × Document) × Cursor) := do
  let (name, after) ← readSection c
  if name.fold ∈ doc.sections.map Text.fold then
    .error (after.errorFrom c ("Duplicate section '" ++ name ++ "'"))
  else
    let after ← d.finishLine after
    return ((name, { doc with sections := doc.sections ++ [name] }), after)

/-- The group of a key in a section: the section and all segments but the last that are not empty. -/
def groupOf (sectionName : Text) (segments : List Text) : Text :=
  Text.join [Group.dot] ((sectionName :: segments.dropLast).filter fun s => !s.isEmpty)

/-- The document with a key and its value read from the first code point of the key. -/
def readItem (d : Dialect) (sectionName : Text) (doc : Document) (c : Cursor) :
    Except TextError (Document × Cursor) := do
  let start := c
  let (segments, c) ← d.readKey c
  let key := segments.getLastD []
  let group := groupOf sectionName segments
  let c := c.skipInlineBlanks
  if c.atLineEnd then
    .error (c.error ("Line " ++ Text.ofNat c.line ++ " does not contain a key/value pair"))
  else if !c.rest.head?.any d.isSeparator then
    .error (c.error ("Key-value separator expected, character '" ++ c.peekText
      ++ "' found instead"))
  else
    let c := c.next.skipInlineBlanks
    if (group.fold, key.fold) ∈ doc.items.map Item.identity then
      .error (c.errorFrom start ("Duplicate key '" ++ key ++ "'"))
    else
      let (value, c) ← d.readValue c
      let c ← d.finishLine c
      return ({ doc with items := doc.items ++ [⟨group, key, value⟩] }, c)

/-- The document with the rest of the lines. Every step but the last takes a code point. -/
def readLines (d : Dialect) : (fuel : Nat) → (sectionName : Text) → Document → Cursor →
    Except TextError Document
  | 0, _, doc, _ => .ok doc
  | fuel + 1, sectionName, doc, c =>
    if c.atEnd then .ok doc
    else
      let c := c.skipInlineBlanks
      if c.atLineEnd then readLines d fuel sectionName doc c.skipLineBreak
      else if c.isAt d.comment then readLines d fuel sectionName doc c.toLineEnd
      else if c.isAt '[' then do
        let ((name, doc), c) ← d.readHeader doc c
        readLines d fuel name doc c
      else do
        let (doc, c) ← d.readItem sectionName doc c
        readLines d fuel sectionName doc c

/-- The document that a text writes. -/
def readDocument (d : Dialect) (t : Text) : Except TextError Document :=
  d.readLines (t.length + 1) [] ⟨[], []⟩ (.start t)

/-- The document that a text writes, faults reported. -/
def document (d : Dialect) (t : Text) : Outcome Document := (d.readDocument t).mapError .malformed

end Dialect

namespace Document

/-- The value of a key outside all sections, by its lower case. -/
def setting? (doc : Document) (name : Text) : Option Text :=
  (doc.items.reverse.find? fun i => i.group.isEmpty && i.key.lower = name).map Item.plainValue

/-- The keys and values of a section. -/
def sectionPairs (doc : Document) (sectionName : Text) : List (Text × Text) :=
  (doc.items.filter fun i => i.group.fold = sectionName.fold).map fun i => (i.key, i.plainValue)

end Document

/-- The text of a value, and its stored form. -/
def Written.texts (mode : Mode) (w : Written) : Text × Option Text :=
  match w.decoded with
  | some t => (t, some w.raw)
  | none => splitEscapes mode w.raw

namespace Dialect

/-- The configuration that a text writes. -/
def configuration (d : Dialect) (t : Text) (source : Option Text) : Outcome Configuration := do
  let doc ← d.document t
  let files ← Configuration.fileMap (doc.sectionPairs Configuration.filesSection)
  Configuration.ofSettings doc.setting? files source

/-- The catalog with an item added. -/
def addItem (o : Options) (mode : Mode) (t : Catalog) (i : Item) : Outcome Catalog := do
  let (text, escapedText) := i.value.texts mode
  return t.add i.fullKey (← makeEntry o mode i.fullKey (some text) escapedText)

/-- The catalog that a text writes. -/
def catalog (d : Dialect) (o : Options) (mode : Mode) (t : Text) : Outcome Catalog := do
  (← d.document t).items.foldlM (addItem o mode) (.ofLocale none)

/-- The tree with an item added. -/
def addLeaf (o : Options) (mode : Mode) (tree : Tree) (i : Item) : Outcome Tree := do
  let (text, escapedText) := i.value.texts mode
  let shown := (escapedText.filter fun t => !t.isEmpty).getD text
  tree.addLeaf i.group ⟨i.key, some text, escapedText, ← leafFlag o mode (some shown)⟩

/-- The tree that a text writes. -/
def tree (d : Dialect) (o : Options) (mode : Mode) (t : Text) : Outcome Tree := do
  let doc ← d.document t
  let tree ← doc.sections.foldlM Tree.makeGroup .empty
  doc.items.foldlM (addLeaf o mode) tree

end Dialect

end Phrasebook.Files
