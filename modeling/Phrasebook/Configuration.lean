import Phrasebook.Locale.Identifier
import Phrasebook.Pairs
import Phrasebook.Source.Path
import Phrasebook.Template.Mode

/-!
# Configurations

A configuration describes a set of catalog files: the default file and the locale that it is
written in, files for particular locales, and the mode of the texts. The files of locales are listed
under the upper case of a locale name or a language; `wildcard` is the key of the file for all others.
-/

namespace Phrasebook

/-- The description of a set of catalog files. -/
structure Configuration where
  defaultFile : Text
  defaultLocale : Option Text
  /-- Files by locale. -/
  files : List (Text × Text)
  /-- The file that the configuration was read from. -/
  source : Option Text
  /-- Where to look for the files. -/
  directory : Option Text
  mode : Option Mode
deriving DecidableEq, Inhabited

namespace Configuration

/-- The key of the file for locales that are not listed. -/
def wildcard : Text := "DEFAULT"

/-- The names that stand for the wildcard. -/
def wildcardNames : List Text := ["*", "default", "other"]

/-- The key under which the file of a locale is listed. -/
def keyOf (name : Text) : Text :=
  let name := name.strip
  if name.lower ∈ wildcardNames then wildcard else (name.replace "_" "-").upper

/-- Files by locale from pairs of a locale and a file, after those already listed. -/
def listFiles (done : List (Text × Text)) : List (Text × Text) → Outcome (List (Text × Text))
  | [] => .ok done
  | (name, file) :: rest =>
    if Pairs.has (keyOf name) done then
      .error (.content ("Duplicate translation reference '" ++ name
        ++ "' specified in the list of translations"))
    else listFiles (done ++ [(keyOf name, file.strip)]) rest

/-- Files by locale from pairs of a locale and a file. -/
def fileMap (pairs : List (Text × Text)) : Outcome (List (Text × Text)) := listFiles [] pairs

/-- The extension of the default file in lower case. -/
def defaultExtension (c : Configuration) : Text := (Path.extension c.defaultFile).lower

/-- The file under a key, unless the key or the file is empty. -/
def fileUnder? (c : Configuration) (key : Text) : Option Text :=
  if key.isEmpty then none else (Pairs.get? key c.files).filter fun file => !file.isEmpty

/-- The file listed for a locale, for its language or for all others. -/
def fileFor? (c : Configuration) (locale : Text) : Option Text :=
  ((c.fileUnder? (Locale.normalize locale).upper).or
    (c.fileUnder? (Locale.language locale).upper)).or (c.fileUnder? wildcard)

/-- The configuration with its files in a directory; the empty name is no directory. -/
def inDirectory (c : Configuration) (directory : Option Text) : Configuration :=
  { c with directory := directory.filter fun d => !d.isEmpty }

/-- The configuration, if it names a default file and its default locale is known. -/
def validate (c : Configuration) : Outcome Configuration :=
  if c.defaultFile.isEmpty then
    .error (.content ("No reference to a default translation file is present in the configuration. "
      ++ "The reference must be specified as a 'default_file' setting."))
  else
    match c.defaultLocale with
    | none => .ok c
    | some name =>
      if name.isEmpty || Locale.isKnown name then .ok c
      else .error (.content ("Unknown locale identifier '" ++ name
        ++ "' specified as a default locale"))

/-- The refusal to change a field. -/
def assign (field : Text) : Outcome Configuration :=
  .error (.locked ("cannot assign to field '" ++ field ++ "'"))

/-- The name of the setting for the default file. -/
def defaultFileSetting : Text := "default_file"

/-- The name of the setting for the default locale. -/
def defaultLocaleSetting : Text := "default_locale"

/-- The name of the setting for the mode. -/
def modeSetting : Text := "text_processing_mode"

/-- The name of the section that lists files by locale. -/
def filesSection : Text := "translations"

/-- The configuration with the given settings, looked up by name. -/
def ofSettings (setting? : Text → Option Text) (files : List (Text × Text))
    (source : Option Text) : Outcome Configuration := do
  let file := ((setting? defaultFileSetting).getD []).strip
  let locale := ((setting? defaultLocaleSetting).getD []).strip
  let mode ← Mode.ofSetting (setting? modeSetting)
  validate
    { defaultFile := file
      defaultLocale := if locale.isEmpty then none else some locale
      files := files
      source := source
      directory := none
      mode := mode }

end Configuration

end Phrasebook
