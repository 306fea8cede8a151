import Phrasebook.Files.Arb
import Phrasebook.Files.Ini
import Phrasebook.Files.Nested
import Phrasebook.Files.Resources
import Phrasebook.Files.Table
import Phrasebook.Files.Toml

/-!
# File formats

The formats that catalogs are kept in. For each it is laid down which extensions its files have,
how locales are marked in file names, in which mode its texts are written unless something else is
said, and how content is read: as a configuration, as a catalog or as a tree of keys. Empty content
is no catalog and no tree.
-/

namespace Phrasebook.Files

/-- A file format. -/
inductive Format where
  | ini
  | toml
  | json
  | arb
  | csv
  | tsv
  | resx
deriving DecidableEq, Inhabited

namespace Format

/-- All formats. -/
def all : List Format := [ini, toml, json, arb, csv, tsv, resx]

/-- The name of a format. -/
def name : Format → Text
  | ini => "ini"
  | toml => "toml"
  | json => "json"
  | arb => "arb"
  | csv => "csv"
  | tsv => "tsv"
  | resx => "resx"

/-- The extension of files with texts. -/
def extension (f : Format) : Text := "." ++ f.name

/-- The extension of configurations; tables have no such form. -/
def configurationExtension? : Format → Option Text
  | ini => some ".cfg"
  | toml => some ".tomlcfg"
  | json => some ".jsoncfg"
  | arb => some ".arbcfg"
  | resx => some ".resxcfg"
  | csv => none
  | tsv => none

/-- What stands between the name of a file and its locale. -/
def localeSeparator : Format → Text
  | resx => "."
  | _ => "_"

/-- Whether one file holds the texts of several locales. -/
def holdsManyLocales : Format → Bool
  | csv => true
  | tsv => true
  | _ => false

/-- The mode of the texts unless something else is said. -/
def defaultMode : Format → Mode
  | ini => .none
  | toml => .backslash
  | json => .composite
  | arb => .arb
  | csv => .none
  | tsv => .backslash
  | resx => .composite

/-- Whether files with an extension are read as texts. -/
def handles (f : Format) (extension : Text) : Bool := extension.lower = f.extension

/-- Whether files with an extension are read as configurations. -/
def handlesConfiguration (f : Format) (extension : Text) : Bool :=
  f.configurationExtension? = some extension.lower

/-- What separates the cells of a comma-separated table. -/
def comma : CodePoint := ','

/-- What separates the cells of a tab-separated table. -/
def tab : CodePoint := '\t'

/-- The configuration that some content writes; absent content is an empty text. -/
def configuration (f : Format) (content : Option Content) (source : Option Text) :
    Outcome Configuration :=
  let read (g : Text → Option Text → Outcome Configuration) : Outcome Configuration := do
    g ((← decode content).getD []) source
  let refused : Outcome Configuration :=
    .error (.content ("The " ++ f.name
      ++ " format has no configuration form; use an ini, toml, json or arb configuration"))
  match f with
  | ini => read Ini.dialect.configuration
  | toml => read Toml.dialect.configuration
  | json => read Objects.configuration
  | arb => read Objects.configuration
  | resx => read Resources.configuration
  | csv => refused
  | tsv => refused

/-- The catalog of a text. -/
def catalogOfText (f : Format) (o : Options) (locale : Text) (mode : Mode) (t : Text) :
    Outcome (Option Catalog) :=
  match f with
  | ini => (Ini.dialect.catalog o mode t).map some
  | toml => (Toml.dialect.catalog o mode t).map some
  | json => (Nested.catalog o mode t).map some
  | arb => (Arb.catalog o mode t).map some
  | csv => Table.catalog o mode comma locale t
  | tsv => Table.catalog o mode tab locale t
  | resx => (Resources.catalog o mode t).map some

/-- The catalog that some content writes. Where a file holds several locales it is that of
`locale`; an empty name stands for the first one. -/
def catalog (f : Format) (o : Options) (content : Option Content) (locale : Text)
    (mode : Option Mode) : Outcome (Option Catalog) := do
  match ← decodeNonempty content with
  | none => return none
  | some t => f.catalogOfText o locale (mode.getD f.defaultMode) t

/-- The tree of a text. -/
def treeOfText (f : Format) (o : Options) (t : Text) : Outcome (Option Tree) :=
  let mode := f.defaultMode
  match f with
  | ini => (Ini.dialect.tree o mode t).map some
  | toml => (Toml.dialect.tree o mode t).map some
  | json => (Objects.tree Nested.naming o mode t).map some
  | arb => (Objects.tree Arb.naming o mode t).map some
  | csv => Table.tree o mode comma t
  | tsv => Table.tree o mode tab t
  | resx => (Resources.tree o mode t).map some

/-- The tree of keys that some content writes. -/
def tree (f : Format) (o : Options) (content : Option Content) : Outcome (Option Tree) := do
  match ← decodeNonempty content with
  | none => return none
  | some t => f.treeOfText o t

end Format

end Phrasebook.Files
