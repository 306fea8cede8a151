import Phrasebook.Error
import Phrasebook.Template.Node
import Phrasebook.Text.Position

/-!
# Faults of templates

What the template readers can refuse. A fault in the syntax is located by how many code points of the
text are `left` from its place on.
-/

namespace Phrasebook.Template

/-- What is wrong at a place of a template. -/
inductive Problem where
  | unmatchedClosing
  | unclosedOpening
  | emptyPlaceholder
  /-- A code point (or the end of the text) that has no place in a placeholder. -/
  | unexpected (found : Text)
  | unknownKind (name : Text)
  | noCases (kind : ChoiceKind) (argument : Text)
  | offsetWithoutNumber
  | missingLabel (kind : ChoiceKind) (argument : Text)
  | expectedBody (label : Text)
deriving DecidableEq

/-- An opening brace as text. -/
def openingBrace : Text := ['{']

/-- The words of a problem. -/
def Problem.message : Problem → Text
  | unmatchedClosing => "Unmatched closing curly bracket"
  | unclosedOpening => "Unclosed opening curly bracket"
  | emptyPlaceholder => "Empty placeholder"
  | unexpected found => "Unexpected character '" ++ found ++ "' in placeholder"
  | unknownKind name => "Unknown placeholder kind '" ++ name ++ "'"
  | noCases kind argument =>
    "The '" ++ kind.word ++ "' placeholder '" ++ argument ++ "' has no cases"
  | offsetWithoutNumber => "Plural offset must be a non-negative integer"
  | missingLabel kind argument =>
    "Missing case label in '" ++ kind.word ++ "' placeholder '" ++ argument ++ "'"
  | expectedBody label => "Expected '" ++ openingBrace ++ "' after case label '" ++ label ++ "'"

/-- Why a text is no template. -/
inductive Fault where
  | malformed (problem : Problem) (left : Nat)
  /-- A name that message format does not allow. -/
  | invalidName (name : Text)
  /-- Digits that write no number. -/
  | unreadableNumber
deriving DecidableEq

/-- The failure that a problem in a text is reported as. -/
def Problem.inText (p : Problem) (t : Text) (left : Nat) : TextError :=
  let offset := t.length - left
  let (line, column) := Text.lineColumn t offset
  { message := p.message ++ " at " ++ TextError.place line column ++ " in the text '" ++ t ++ "'"
    start := offset
    stop := offset
    line := line
    column := column }

/-- The failure that a fault in a text is reported as. -/
def Fault.inText (t : Text) : Fault → Failure
  | malformed p left => .malformedTemplate (p.inText t left)
  | invalidName name =>
    .processing ⟨"Invalid placeholder name in placeholder '" ++ name ++ "'", some name, none⟩
  | unreadableNumber => .obstacle .value

end Phrasebook.Template
