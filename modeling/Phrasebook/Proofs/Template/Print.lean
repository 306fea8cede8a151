import Phrasebook.Proofs.Text.Runs
import Phrasebook.Template.Reader

/-!
# Templates as they are written

A printer for template trees, one for each of the two formats that can write every literal text, and
the trees that it is for. The printer knows nothing of the reader: it goes by the grammar alone.

`NodesFit` leaves out what a format cannot express: an empty literal, two literals in a row, a sign for
the plural outside of plurals, a style that would end too early. `bareNodes` forgets how a node was
written, which no printer can know.
-/

namespace Phrasebook.Template

/-- Where the bodies of a choice stand. A select within a plural is still within it. -/
def Context.inside (x : Context) (kind : ChoiceKind) : Context :=
  ⟨x.mode, true, x.inPlural || decide (kind ≠ .select)⟩

/-! ## The printer -/

/-- The brace that opens placeholders and cases. -/
abbrev leftBrace : CodePoint := '{'

/-- The brace that closes them. -/
abbrev rightBrace : CodePoint := '}'

/-- The comma between the parts of a placeholder. -/
abbrev comma : CodePoint := ','

/-- The number sign, which stands for the number within plurals. -/
abbrev numberSign : CodePoint := '#'

/-- The apostrophe, which is also the quote. -/
abbrev apostrophe : CodePoint := '\''

/-- A text between braces. -/
def braced (t : Text) : Text := leftBrace :: (t ++ [rightBrace])

/-- A text between quotes. -/
def quoted (t : Text) : Text := apostrophe :: (t ++ [apostrophe])

/-- The text with its apostrophes doubled. -/
def escaped (t : Text) : Text := t.doubled fun c => c = apostrophe

/-- **`printLiteral x t`**: literal text. Composite format doubles its braces; message format doubles
its apostrophes, and puts quotes around all of it if something in it has a meaning. -/
def printLiteral (x : Context) (t : Text) : Text :=
  if x.mode = .composite then t.doubled fun c => c = leftBrace || c = rightBrace
  else if t.any x.stops then quoted (escaped t) else escaped t

/-- The format of a simple placeholder. -/
def printFormat : Option Text → Text
  | none => []
  | some t => ':' :: t

/-- The alignment and the format of a simple placeholder. -/
def printTail (format : Option Text) : Option Int → Text
  | none => printFormat format
  | some n => comma :: (Text.ofInt n ++ printFormat format)

/-- The style of a formatted placeholder. -/
def printStyle : Style → Text
  | .default => []
  | .named t => comma :: ' ' :: t
  | .pattern t => comma :: ' ' :: quoted t

/-- The word before an offset. -/
def offsetWord : Text := "offset:"

/-- The offset of a choice; only plurals write one. -/
def printOffset (kind : ChoiceKind) (offset : Nat) : Text :=
  if kind = .select then [] else ' ' :: (offsetWord ++ Text.ofNat offset)

/-- An argument with something after a comma. -/
def listed (argument t : Text) : Text := argument ++ comma :: ' ' :: t

mutual

/-- A node. -/
def printNode (x : Context) : Node → Text
  | .literal t => printLiteral x t
  | .simple argument format alignment _ => braced (argument ++ printTail format alignment)
  | .pluralValue => [numberSign]
  | .formatted kind argument style _ => braced (listed argument (kind.word ++ printStyle style))
  | .choice kind argument offset cases _ =>
    braced (listed argument (kind.word ++ comma ::
      (printOffset kind offset ++ printCases (x.inside kind) cases)))

/-- Nodes one after the other. -/
def printNodes (x : Context) : List Node → Text
  | [] => []
  | n :: rest => printNode x n ++ printNodes x rest

/-- Cases, each after a space. -/
def printCases (x : Context) : List (Text × List Node) → Text
  | [] => []
  | (label, body) :: rest => ' ' :: (label ++ (braced (printNodes x body) ++ printCases x rest))

end

/-- **`print mode ns`**: the template as it is written in a format. -/
def print (mode : Mode) (ns : List Node) : Text := printNodes ⟨mode, false, false⟩ ns

/-! ## Trees that can be written -/

/-- An argument name: code points of names, and in message format a first one that it allows. -/
def IsArgument (mode : Mode) (t : Text) : Prop :=
  t ≠ [] ∧ (∀ c ∈ t, isNamePoint c = true) ∧ (mode.isArb = true → isMessageName t = true)

instance (mode : Mode) (t : Text) : Decidable (IsArgument mode t) :=
  inferInstanceAs (Decidable (_ ∧ _ ∧ _))

/-- A case label. -/
def IsLabel (t : Text) : Prop := t ≠ [] ∧ ∀ c ∈ t, isLabelPoint c = true

instance (t : Text) : Decidable (IsLabel t) := inferInstanceAs (Decidable (_ ∧ _))

/-- A style that ends where it should. A style without quotes is trimmed by its reader and ends at the
first closing brace; in a pattern between quotes, apostrophes come in pairs. -/
def StyleFits : Style → Prop
  | .default => True
  | .named t =>
    t ≠ [] ∧ rightBrace ∉ t ∧ t.head? ≠ some apostrophe ∧ Text.Stops CodePoint.isBlank t ∧
      Text.Stops CodePoint.isBlank t.reverse
  | .pattern t => ∃ u, t = escaped u

/-- A literal that can stand in its place: composite format has no way to write a closing brace in a
case, nor the number sign in a plural. -/
def LiteralFits (x : Context) (t : Text) : Prop :=
  t ≠ [] ∧ (x.mode = .composite → (x.inCase = true → rightBrace ∉ t) ∧
    (x.inPlural = true → numberSign ∉ t))

instance (x : Context) (t : Text) : Decidable (LiteralFits x t) := inferInstanceAs (Decidable (_ ∧ _))

/-- What may follow the name of a simple placeholder; nothing in message format. -/
def TailFits (mode : Mode) (format : Option Text) (alignment : Option Int) : Prop :=
  (∀ f ∈ format, rightBrace ∉ f) ∧ (mode ≠ .composite → format = none ∧ alignment = none)

instance (mode : Mode) (format : Option Text) (alignment : Option Int) :
    Decidable (TailFits mode format alignment) :=
  inferInstanceAs (Decidable (_ ∧ _))

mutual

/-- **`NodeFits x n`**: the node can be written in its place. -/
def NodeFits (x : Context) : Node → Prop
  | .literal t => LiteralFits x t
  | .simple argument format alignment _ => IsArgument x.mode argument ∧ TailFits x.mode format alignment
  | .pluralValue => x.inPlural = true
  | .formatted _ argument style _ => IsArgument x.mode argument ∧ StyleFits style
  | .choice kind argument offset cases _ =>
    IsArgument x.mode argument ∧ cases ≠ [] ∧ (kind = .select → offset = 0) ∧
      CasesFit (x.inside kind) cases

/-- **`NodesFit x ns`**: the nodes can be written one after the other. -/
def NodesFit (x : Context) : List Node → Prop
  | [] => True
  | n :: rest =>
    NodeFits x n ∧ (n.isLiteral = true → ∀ m ∈ rest.head?, m.isLiteral = false) ∧ NodesFit x rest

/-- **`CasesFit x cases`**: the cases can be written. -/
def CasesFit (x : Context) : List (Text × List Node) → Prop
  | [] => True
  | (label, body) :: rest => IsLabel label ∧ NodesFit x body ∧ CasesFit x rest

end

mutual

/-- The numbers that a node writes: offsets, and alignments without their sign. -/
def nodeNumbers : Node → List Nat
  | .simple _ _ alignment _ => alignment.toList.map Int.natAbs
  | .choice _ _ offset cases _ => offset :: casesNumbers cases
  | _ => []

/-- The numbers that some nodes write. -/
def nodesNumbers : List Node → List Nat
  | [] => []
  | n :: rest => nodeNumbers n ++ nodesNumbers rest

/-- The numbers that some cases write. -/
def casesNumbers : List (Text × List Node) → List Nat
  | [] => []
  | (_, body) :: rest => nodesNumbers body ++ casesNumbers rest

end

mutual

/-- The node without how it was written. -/
def bareNode : Node → Node
  | .literal t => .literal t
  | .simple argument format alignment _ => .simple argument format alignment []
  | .pluralValue => .pluralValue
  | .formatted kind argument style _ => .formatted kind argument style []
  | .choice kind argument offset cases _ => .choice kind argument offset (bareCases cases) []

/-- Nodes without how they were written. -/
def bareNodes : List Node → List Node
  | [] => []
  | n :: rest => bareNode n :: bareNodes rest

/-- Cases without how their nodes were written. -/
def bareCases : List (Text × List Node) → List (Text × List Node)
  | [] => []
  | (label, body) :: rest => (label, bareNodes body) :: bareCases rest

end

theorem bareNodes_append (ns ms : List Node) : bareNodes (ns ++ ms) = bareNodes ns ++ bareNodes ms := by
  induction ns with
  | nil => rfl
  | cons n ns ih => simp [bareNodes, ih]

end Phrasebook.Template
