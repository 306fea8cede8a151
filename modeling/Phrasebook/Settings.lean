import Phrasebook.Json.Value
import Phrasebook.Error
import Phrasebook.Files.Options
import Phrasebook.Pairs

/-!
# Settings

What an application sets for all of its catalogs, as variables with names of their own. A variable
that is not set has its usual value; one with a value of the wrong kind makes the settings invalid.
-/

namespace Phrasebook

/-- What an application sets for its catalogs. -/
structure Settings where
  /-- The directory that files are looked for in; empty for the current one. -/
  filesLocation : Text
  /-- Values that start with an at sign name other files. -/
  recognizeReferences : Bool
  /-- The name of the mode for configurations that name none. -/
  defaultMode : Option Text
  /-- Empty cells of tables are skipped. -/
  emptyIsAbsent : Bool
  descriptionCaption : Text
  commentsCaption : Text
deriving DecidableEq

namespace Settings

/-- The words for truth values, in lower case. -/
def truthWords : List (Text × Bool) :=
  [("1", true), ("0", false), ("true", true), ("false", false), ("t", true), ("f", false),
    ("yes", true), ("no", false), ("y", true), ("n", false), ("on", true), ("off", false)]

/-- The truth value of a whole number. -/
def truthOfInt (n : Int) : Outcome Bool :=
  if n = 0 then .ok false else if n = 1 then .ok true else .error .invalidSetting

/-- A truth value. -/
def truth : Json → Outcome Bool
  | .bool b => .ok b
  | .int n => truthOfInt n
  | .double x =>
    if !x.isNonzero then .ok false
    else if x = .ofRatio false 1 1 then .ok true
    else .error .invalidSetting
  | .text t =>
    match Pairs.get? t.lower truthWords with
    | some b => .ok b
    | none => .error .invalidSetting
  | _ => .error .invalidSetting

/-- A text. -/
def text : Json → Outcome Text
  | .text t => .ok t
  | _ => .error .invalidSetting

/-- A text, or nothing. -/
def optionalText : Json → Outcome (Option Text)
  | .null => .ok none
  | v => (text v).map some

/-- A caption: a text that is not blank, without outer blanks. -/
def caption (v : Json) : Outcome Text := do
  let t := (← text v).strip
  if t.isEmpty then .error .invalidSetting else return t

/-- The value of a variable, or the usual one. -/
def setting {α : Type} (read : Json → Outcome α) (usual : α) (name : Text)
    (given : List (Text × Json)) : Outcome α :=
  match Pairs.get? name given with
  | some v => read v
  | none => .ok usual

/-- The settings that some variables make. -/
def ofVariables (given : List (Text × Json)) : Outcome Settings := do
  let usual := Files.Options.standard
  return {
    filesLocation := ← setting text [] "LOCALIZATION_FILES_LOCATION" given
    recognizeReferences := ← setting truth false "LOCALIZATION_RECOGNIZE_FILE_REFS" given
    defaultMode := ← setting optionalText none "LOCALIZATION_DEFAULT_MODE" given
    emptyIsAbsent := ← setting truth false "LOCALIZATION_TREAT_EMPTY_VALUES_AS_ABSENT" given
    descriptionCaption :=
      ← setting caption usual.descriptionCaption "LOCALIZATION_DESCRIPTION_CAPTION" given
    commentsCaption :=
      ← setting caption usual.commentsCaption "LOCALIZATION_COMMENTS_CAPTION" given }

/-- The options that files are read with. -/
def options (s : Settings) (columnMatcher : Option (Text → Text → Bool)) : Files.Options where
  recognizeReferences := s.recognizeReferences
  emptyIsAbsent := s.emptyIsAbsent
  descriptionCaption := s.descriptionCaption
  commentsCaption := s.commentsCaption
  columnMatcher := columnMatcher

end Settings

/-- What is set for an application as a whole. -/
structure ApplicationSettings where
  /-- The name of a deployment that is not the productive one. -/
  deployment : Text
  logLevel : Text
  catalogs : Settings
deriving DecidableEq

namespace ApplicationSettings

/-- The settings that some variables make. -/
def ofVariables (given : List (Text × Json)) : Outcome ApplicationSettings := do
  let catalogs ← Settings.ofVariables given
  return {
    deployment := ← Settings.setting Settings.text [] "PREFIX" given
    logLevel := ← Settings.setting Settings.text "INFO" "LOG_LEVEL" given
    catalogs := catalogs }

/-- Whether the application is the productive one. -/
def isProductive (s : ApplicationSettings) : Bool := s.deployment.isEmpty

end ApplicationSettings

end Phrasebook
