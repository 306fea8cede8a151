import Phrasebook.Files.Options
import Phrasebook.Files.Rows
import Phrasebook.Locale.Name
import Phrasebook.Catalog
import Phrasebook.Tree

/-!
# Tables

The first row of a table holds captions: the first column has the keys, two columns may be captioned as
descriptions and comments, and every other column has the texts of the locale that its caption names.
Every further row must have a key of its own and a cell for each caption.
-/

namespace Phrasebook.Files.Table

/-- What the captions say about the columns. -/
structure Header where
  captions : List Text
  /-- The columns that hold texts. -/
  localeColumns : List Nat
  descriptionColumn : Option Nat
  commentsColumn : Option Nat
deriving DecidableEq

/-- The fault of a row. -/
def fault (r : Row) (message : Text) : TextError where
  message := message
  start := r.offset
  stop := r.offset
  line := r.line
  column := 1

/-! ## Columns -/

/-- The header with the caption of a column added. -/
def addColumn (o : Options) (h : Header) (index : Nat) (caption : Text) : Header :=
  let lowered := caption.lower
  if lowered = o.descriptionCaption.lower ∧ h.descriptionColumn = none then
    { h with descriptionColumn := some index }
  else if lowered = o.commentsCaption.lower ∧ h.commentsColumn = none then
    { h with commentsColumn := some index }
  else { h with localeColumns := h.localeColumns ++ [index] }

/-- The header with the captions from a column on. -/
def addColumns (o : Options) : (index : Nat) → List Text → Header → Header
  | _, [], h => h
  | index, caption :: rest, h => addColumns o (index + 1) rest (addColumn o h index caption)

/-- The header that a row writes. Where there are more than two columns, each needs a caption. -/
def readHeader (o : Options) (r : Row) : Except TextError Header :=
  let captions := r.cells.map Text.strip
  if captions.length > 2 && (captions.drop 1).any fun c => c.isEmpty then
    .error (fault r ("Multiple columns are provided, but the locale name is empty for at least one "
      ++ "column. Locale names must be listed as column captions on the first non-empty line ("
      ++ TextError.place r.line 1 ++ ")"))
  else .ok (addColumns o 1 (captions.drop 1) ⟨captions, [], none, none⟩)

/-- The caption of a column. -/
def Header.caption (h : Header) (index : Nat) : Text := h.captions.getD index []

/-- The column with the texts of a locale: the one captioned with its name, or else its language, or
else the one that the matcher takes. Without a locale it is the first one. -/
def Header.column? (o : Options) (h : Header) (locale : Text) : Option Nat :=
  if locale.isEmpty then h.localeColumns.head?
  else
    let wanted := (Locale.normalize locale).lower
    let byName := h.localeColumns.find? fun i => (Locale.normalize (h.caption i)).lower = wanted
    let language := Locale.language locale
    let byLanguage := h.localeColumns.find? fun i => (h.caption i).lower = language
    let byMatcher := o.columnMatcher.bind fun isOf =>
      h.localeColumns.find? fun i => isOf (h.caption i) locale
    (byName.or byLanguage).or byMatcher

/-! ## Rows -/

/-- The key and the trimmed cells of a row, after rows with the folded keys `seen`. -/
def readRow (h : Header) (seen : List Text) (r : Row) : Except TextError (Text × List Text) :=
  let key := (r.cells.headD []).strip
  let line := Text.ofNat r.line
  if key.isEmpty then .error (fault r ("Empty key detected on line " ++ line))
  else if key.fold ∈ seen then
    .error (fault r ("A duplicate key " ++ key ++ " detected on line " ++ line))
  else if r.cells.length < h.captions.length then
    .error (fault r ("Insufficient number of columns detected on line " ++ line ++ " ("
      ++ Text.ofNat h.captions.length ++ " columns expected, " ++ Text.ofNat r.cells.length
      ++ " columns found)"))
  else .ok (key, r.cells.map Text.strip)

/-- The rows folded into a value, each once it has been checked. -/
def foldRows {α : Type} (h : Header) (f : α → Text → List Text → Outcome α) (seen : List Text) :
    List Row → α → Outcome α
  | [], a => .ok a
  | r :: rest, a => do
    let (key, cells) ← (readRow h seen r).mapError .malformed
    let a ← f a key cells
    foldRows h f (key.fold :: seen) rest a

/-- The rows and the header of a text, unless it has no rows. -/
def readTable (o : Options) (separator : CodePoint) (t : Text) :
    Except TextError (Option (Header × List Row)) := do
  match ← Row.read separator t with
  | [] => return none
  | first :: rest => return some (← readHeader o first, rest)

/-- The content of a cell in one of the columns that describe, unless it is empty. -/
def note (column : Option Nat) (cells : List Text) : Option Text :=
  (column.bind fun i => cells[i]?).filter fun t => !t.isEmpty

/-- The catalog with the entry of a row added. -/
def addEntry (o : Options) (mode : Mode) (h : Header) (column : Nat) (t : Catalog) (key : Text)
    (cells : List Text) : Outcome Catalog :=
  let value := cells.getD column []
  if value.isEmpty ∧ o.emptyIsAbsent then .ok t
  else do
    let (text, escapedText) := splitEscapes mode value
    let e ← makeEntry o mode key (some text) escapedText
    return t.add key { e with
      description := note h.descriptionColumn cells
      comments := note h.commentsColumn cells }

/-- The catalog of a locale that a text writes, if the text has a column for it. -/
def catalog (o : Options) (mode : Mode) (separator : CodePoint) (locale : Text) (t : Text) :
    Outcome (Option Catalog) := do
  match ← (readTable o separator t).mapError .malformed with
  | none => return none
  | some (h, rows) =>
    match h.column? o locale with
    | none => return none
    | some column =>
      let result ← foldRows h (addEntry o mode h column) [] rows (.ofLocale none)
      return some result

/-- The tree with the leaf of a row added. -/
def addLeaf (o : Options) (mode : Mode) (column : Option Nat) (tree : Tree) (key : Text)
    (cells : List Text) : Outcome Tree := do
  let value := column.map fun i => cells.getD i []
  tree.addLeaf [] ⟨key, value, none, ← leafFlag o mode value⟩

/-- The tree that a text writes, unless it has no rows. -/
def tree (o : Options) (mode : Mode) (separator : CodePoint) (t : Text) : Outcome (Option Tree) := do
  match ← (readTable o separator t).mapError .malformed with
  | none => return none
  | some (h, rows) =>
    let result ← foldRows h (addLeaf o mode (h.column? o [])) [] rows .empty
    return some result

end Phrasebook.Files.Table
