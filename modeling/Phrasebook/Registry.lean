import Phrasebook.Files.Format

/-!
# Registries

A registry says which format the files with an extension are in, for texts and for configurations
apart. A format registered later takes over the extensions that it shares with an earlier one, in their
place.
-/

namespace Phrasebook

open Files

/-- Formats by extension, and the options that their files are read with. -/
structure Registry where
  options : Options
  formats : List (Text × Format)
  configurationFormats : List (Text × Format)

namespace Registry

/-- A registry without formats. -/
def empty (options : Options) : Registry := ⟨options, [], []⟩

/-- The registry with a format registered. -/
def register (r : Registry) (f : Format) : Registry where
  options := r.options
  formats := Pairs.put f.extension f r.formats
  configurationFormats :=
    match f.configurationExtension? with
    | some e => Pairs.put e f r.configurationFormats
    | none => r.configurationFormats

/-- The registry with some formats. -/
def ofFormats (options : Options) (formats : List Format) : Registry :=
  formats.foldl register (empty options)

/-- The registry with all formats. -/
def standard (options : Options) : Registry := ofFormats options Format.all

/-- The format of texts in files with an extension. -/
def formatFor? (r : Registry) (extension : Text) : Option Format :=
  Pairs.get? extension.lower r.formats

/-- The format of configurations in files with an extension. -/
def configurationFormatFor? (r : Registry) (extension : Text) : Option Format :=
  Pairs.get? extension.lower r.configurationFormats

/-- The extensions of texts in order. -/
def extensions (r : Registry) : List Text := Pairs.keys r.formats

/-- The extensions of configurations in order. -/
def configurationExtensions (r : Registry) : List Text := Pairs.keys r.configurationFormats

end Registry

end Phrasebook
