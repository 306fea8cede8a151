import Phrasebook.Resolver.Resolve
import Phrasebook.Settings
import Phrasebook.Source.Disk

/-!
# Catalogs on a disk

How configurations, trees of keys and resolvers are made from the files on a disk. A failure to read a
file is told about the file that was asked for; malformed content of a configuration is told as a
failure of the configuration.
-/

namespace Phrasebook

namespace Failure

/-- Whether it is the content or the name of a file that is at fault. -/
def isAboutFile : Failure → Bool
  | content _ | malformed _ | malformedFile _ _ | malformedTemplate _ | unreadable _ _
  | configuration _ _ => true
  | processing _ | locked _ | invalidSetting | obstacle _ => false

end Failure

namespace Disk

/-- The failure of a configuration that is at fault; other failures stay what they are. -/
def blameConfiguration (file : Text) (f : Failure) : Failure :=
  if f.isAboutFile then
    .configuration file ("Parsing of the configuration file '" ++ file ++ "' has failed with an error: "
      ++ f.message?.getD [])
  else f

/-- The configuration in a file, which is looked for in the directory of the file. -/
def readConfiguration (d : Disk) (f : Files.Format) (path : Text) : Outcome Configuration := do
  let file := path.strip
  let content ← d.read file
    (.unreadable file ("Loading of the configuration file '" ++ file ++ "' has failed"))
  let c ← (f.configuration (some (.bytes content)) (some file)).mapError (blameConfiguration file)
  return c.inDirectory (some (Path.directory file))

/-- The default file of a configuration as seen from where the configuration is. -/
def defaultPath (c : Configuration) : Text :=
  match c.directory with
  | some directory => if Path.isAbsolute c.defaultFile then c.defaultFile else Path.join directory c.defaultFile
  | none => c.defaultFile

/-- The format of a default file: that of the configuration if it has such an extension, or else that
of the registry. -/
def structureFormat (f : Files.Format) (o : Files.Options) (registry : Option Registry)
    (extension : Text) : Option (Files.Format × Files.Options) :=
  if f.handles extension then some (f, o)
  else registry.bind fun r => (r.formatFor? extension).map fun g => (g, r.options)

/-- The tree of keys in the default file of the configuration in a file. -/
def readStructure (d : Disk) (f : Files.Format) (o : Files.Options) (registry : Option Registry)
    (path : Text) : Outcome (Option Tree × Configuration) := do
  let c ← d.readConfiguration f path
  let file := defaultPath c
  let extension := (Path.extension file).lower
  match structureFormat f o registry extension with
  | none =>
    .error (.unreadable path ("No parser found for the '" ++ extension
      ++ "' file extension that the default translation file '" ++ file ++ "' has"))
  | some (f, o) =>
    let content ← d.read file
      (.unreadable path ("Loading of the default translation file '" ++ file ++ "' has failed"))
    match ← Files.decodeNonempty (some (.bytes content)) with
    | none => .error (.unreadable path ("Default translation file '" ++ file ++ "' is empty"))
    | some _ =>
      let tree ← (f.tree o (some (.bytes content))).mapError (Failure.inFile file)
      return (tree, c)

/-! ## By the settings of an application -/

/-- Where a configuration is: in the directory that the settings name, if it is there. -/
def locate (d : Disk) (s : Settings) (path : Text) : Text :=
  let located := Path.join s.filesLocation path
  if !Path.isAbsolute path && !s.filesLocation.isEmpty && d.isFile located then located else path

/-- The configuration in a file, in the format of its extension. -/
def findConfiguration (d : Disk) (s : Settings) (registry : Registry) (path : Text) :
    Outcome Configuration :=
  let path := d.locate s path
  let extension := Path.extension path
  match registry.configurationFormatFor? extension with
  | some f => d.readConfiguration f path
  | none =>
    .error (.unreadable path ("No parser found for the '" ++ extension
      ++ "' configuration file extension"))

/-- The directories where the files of a configuration are looked for. -/
def directories (s : Settings) (c : Configuration) : List Text := [s.filesLocation, c.directory.getD []]

/-- The resolver for a configuration. -/
def resolver (d : Disk) (s : Settings) (hooks : Hooks) (columnMatcher : Option (Text → Text → Bool))
    (c : Configuration) : Outcome Resolver := do
  let mode ← Mode.ofSetting s.defaultMode
  Resolver.checked
    { configuration := c
      registry := .standard (s.options columnMatcher)
      source := d.source (directories s c)
      hooks := hooks
      columnMatcher := columnMatcher
      defaultMode := mode }

/-- The resolver for a configuration where nothing is set. -/
def plainResolver (d : Disk) (c : Configuration) : Outcome Resolver :=
  Resolver.checked
    { configuration := c
      registry := .standard .standard
      source := d.source c.directory.toList
      hooks := .none
      columnMatcher := none
      defaultMode := none }

end Disk

end Phrasebook
