import Phrasebook.Error
import Phrasebook.Text.Case

/-!
# Text modes

A mode says what braces, quotes and backslashes mean in a text. In the modes that parse placeholders a
text is a template; in `backslash` and `composite` mode a file stores its texts with backslash escapes.
-/

namespace Phrasebook

/-- What braces, quotes and backslashes mean in a text. -/
inductive Mode where
  /-- Every character stands for itself. -/
  | none
  /-- Backslash escapes and nothing else. -/
  | backslash
  /-- Message format: a single quote starts or ends literal text, two are an apostrophe. -/
  | arb
  /-- Message format in which the quotes around literal text stay. -/
  | arbNoEscaping
  /-- Composite format: doubled braces are literal. -/
  | composite
deriving DecidableEq

namespace Mode

/-- The name of a mode in settings. -/
def name : Mode → Text
  | none => "none"
  | backslash => "backslash_escaping"
  | arb => "arb"
  | arbNoEscaping => "arb_no_escaping"
  | composite => "dotnet"

/-- Texts are templates. -/
def parsesPlaceholders : Mode → Bool
  | arb | arbNoEscaping | composite => true
  | none | backslash => false

/-- Texts are in message format. -/
def isArb : Mode → Bool
  | arb | arbNoEscaping => true
  | none | backslash | composite => false

/-- Texts are stored with backslash escapes, and the stored form is kept beside the text. -/
def keepsEscapedText : Mode → Bool
  | backslash | composite => true
  | none | arb | arbNoEscaping => false

/-- The names that a setting may use for the modes, in lower case and without separators. -/
def settingNames : List (Text × Mode) :=
  [("none", none), ("backslash", backslash), ("backslashescaping", backslash), ("arb", arb),
    ("arbnoescaping", arbNoEscaping), ("dotnet", composite)]

/-- The name in a setting as it is looked up: case, underscores, hyphens and outer blanks do not
count. -/
def settingKey (t : Text) : Text := (t.strip.lower.replace "_" "").replace "-" ""

/-- The mode that a setting names; a blank setting names none. -/
def ofSetting (setting : Option Text) : Outcome (Option Mode) :=
  match setting with
  | .none => .ok .none
  | some t =>
    if t.isBlank then .ok .none
    else
      match settingNames.find? fun (name, _) => name = settingKey t with
      | some (_, mode) => .ok (some mode)
      | .none => .error (.content ("Unknown text processing mode: " ++ t))

end Mode

end Phrasebook
