import Phrasebook.Entry
import Phrasebook.Template.Scan
import Phrasebook.Text.Escape
import Phrasebook.Text.Utf8

/-!
# Reading values

What the readers of all file formats share: the options of a reading, and how a stored value becomes
an entry. A value that starts with an at sign is a reference to another file, where references are
recognised. Otherwise its text is looked through for placeholders, in the form in which it is stored.
-/

namespace Phrasebook.Files

/-- The options of a reading. -/
structure Options where
  /-- Values that start with an at sign name other files. -/
  recognizeReferences : Bool
  /-- Empty cells of tables are skipped. -/
  emptyIsAbsent : Bool
  /-- The caption of the column with descriptions. -/
  descriptionCaption : Text
  /-- The caption of the column with comments. -/
  commentsCaption : Text
  /-- Whether the column with a caption holds the texts of a locale; asked where no caption names the
  locale or its language. -/
  columnMatcher : Option (Text → Text → Bool)

namespace Options

/-- The options where nothing else is said. -/
def standard : Options := ⟨false, false, "Description", "Comments", none⟩

end Options

/-- Whether a value is a reference to another file. -/
def isReference (enabled : Bool) (value : Text) : Bool :=
  enabled && decide (value.head? = some (CodePoint.ofChar '@'))

/-- The text of a stored value and, where it is kept, the stored form. -/
def splitEscapes (mode : Mode) (value : Text) : Text × Option Text :=
  if mode.keepsEscapedText then (Text.unescape value, some value) else (value, none)

/-- The entry of a value. -/
def makeEntry (o : Options) (mode : Mode) (key : Text) (text escapedText : Option Text) :
    Outcome Entry :=
  match text.filter (isReference o.recognizeReferences) with
  | some t => .ok { Entry.ofKey key with reference := some (Text.strip (t.drop 1)) }
  | none => do
    let escapedText := if mode.keepsEscapedText then escapedText else none
    let flag ← match escapedText.or text with
      | none => .ok false
      | some t => Template.containsPlaceholders mode t
    return { Entry.ofKey key with text := text, escapedText := escapedText, hasPlaceholders := flag }

/-- Whether the value of a leaf holds placeholders. -/
def leafFlag (o : Options) (mode : Mode) (value : Option Text) : Outcome Bool :=
  match value with
  | none => .ok false
  | some t =>
    if isReference o.recognizeReferences t then .ok false else Template.containsPlaceholders mode t

/-- The text of some content, if there is any; bytes that are no UTF-8 are refused. -/
def decode (content : Option Content) : Outcome (Option Text) :=
  match content with
  | none => .ok none
  | some c =>
    match c.decode? with
    | some t => .ok (some t)
    | none => .error (.obstacle .decoding)

/-- The text of some content, unless it is empty. -/
def decodeNonempty (content : Option Content) : Outcome (Option Text) := do
  return (← decode content).filter fun t => !t.isEmpty

end Phrasebook.Files
