import Phrasebook.Conventions.Culture
import Phrasebook.Registry
import Phrasebook.Resolver.Hooks
import Phrasebook.Resolver.Memory
import Phrasebook.Source.Basic

/-!
# Resolvers

What a resolver works with, and what follows from it without asking anyone: the format of the default
file, the mode of the texts, and the files where the texts of a locale may be.
-/

namespace Phrasebook

/-- What a resolver works with. -/
structure Resolver where
  configuration : Configuration
  registry : Registry
  source : Source
  hooks : Hooks
  /-- Takes the place of the column matcher of the registry. -/
  columnMatcher : Option (Text → Text → Bool)
  /-- The mode of the texts where the configuration names none. -/
  defaultMode : Option Mode
  /-- What is given where texts are written. -/
  surroundings : Surroundings := {}

namespace Resolver

/-- The locale of the default file; empty if it is not known. -/
def defaultLocale (r : Resolver) : Text := Locale.normalize (r.configuration.defaultLocale.getD [])

/-- Whether a locale is that of the default file. -/
def isDefault (r : Resolver) (locale : Text) : Bool := locale.upper = r.defaultLocale.upper

/-- The locale that is meant by a request. -/
def localeOf (r : Resolver) (locale : Option Text) : Text :=
  match locale with
  | some name => Locale.normalize name
  | none => r.defaultLocale

/-- The format of the default file of a configuration. -/
def format (r : Resolver) (c : Configuration) : Outcome Files.Format :=
  match r.registry.formatFor? c.defaultExtension with
  | some f => .ok f
  | none =>
    .error (.content ("No parser found for the '" ++ c.defaultExtension
      ++ "' file extension of the default translation file '" ++ c.defaultFile ++ "'"))

/-- The options that files of a format are read with. -/
def options (r : Resolver) (f : Files.Format) : Files.Options :=
  let o := r.registry.options
  if f.holdsManyLocales then { o with columnMatcher := r.columnMatcher.or o.columnMatcher } else o

/-- The resolver, if there is a format for its default file. -/
def checked (r : Resolver) : Outcome Resolver := do
  let _ ← r.format r.configuration
  return r

/-- The mode that files are read in, unless their format decides. -/
def givenMode (r : Resolver) (c : Configuration) : Option Mode := c.mode.or r.defaultMode

/-- The mode of the texts of a configuration. -/
def mode (r : Resolver) (c : Configuration) : Outcome Mode :=
  match r.givenMode c with
  | some m => .ok m
  | none => (r.format c).map Files.Format.defaultMode

/-! ## Files -/

/-- The files that a configuration lists for a locale, its language or everything else. -/
def listedFiles (c : Configuration) (locale : Text) : List Text :=
  let keys : List Text := [locale.upper, (Locale.language locale).upper, Configuration.wildcard]
  (keys.filterMap c.fileUnder?).eraseDups

/-- The files beside the default file that are named after a locale or its language. -/
def namedFiles (c : Configuration) (f : Files.Format) (locale : Text) : List Text :=
  let (base, extension) := Path.splitExtension c.defaultFile
  let names : List Text := [locale, Locale.language locale]
  (names.filter fun t => !t.isEmpty).map fun name => base ++ f.localeSeparator ++ name ++ extension

/-- The default file, if it may hold the texts of a locale. -/
def sharedFiles (c : Configuration) (f : Files.Format) (includesDefault : Bool) : List Text :=
  if includesDefault || f.holdsManyLocales then [c.defaultFile] else []

/-- The files that are tried after those that the configuration lists. -/
def furtherFiles (c : Configuration) (f : Files.Format) (locale : Text) (includesDefault : Bool) :
    List Text :=
  let listed := listedFiles c locale
  ((namedFiles c f locale ++ sharedFiles c f includesDefault).filter fun t => t ∉ listed).eraseDups

/-- All files where the texts of a locale may be, in the order in which they are tried. -/
def candidates (r : Resolver) (c : Configuration) (locale : Text) (includesDefault : Bool) :
    Outcome (List Text) := do
  let f ← r.format c
  return listedFiles c locale ++ furtherFiles c f locale includesDefault

/-- The file that the files of a configuration are looked for beside. -/
def origin (c : Configuration) : Option Text :=
  match c.directory.filter fun t => !t.isEmpty with
  | some directory => some (Path.join directory (Path.baseName c.defaultFile))
  | none => c.source

end Resolver

end Phrasebook
