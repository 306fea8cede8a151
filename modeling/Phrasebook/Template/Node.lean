import Phrasebook.Text.Basic

/-!
# Template trees

A template is a list of nodes: literal text, simple placeholders, the sign for the number of the
enclosing plural, formatted placeholders and choices. The cases of a choice are templates again. A node
made from a placeholder remembers how it was written (`raw`).
-/

namespace Phrasebook.Template

/-- What a formatted placeholder formats its argument as. -/
inductive FormatKind where
  | number
  | date
  | time
  | moment
deriving DecidableEq

/-- How a choice picks its case. -/
inductive ChoiceKind where
  | plural
  | ordinal
  | select
deriving DecidableEq

/-- The style of a formatted placeholder. -/
inductive Style where
  | default
  /-- A word, a skeleton or a pattern without quotes around it. -/
  | named (t : Text)
  /-- A pattern between quotes, its doubled apostrophes still doubled. -/
  | pattern (t : Text)
deriving DecidableEq

/-- A node of a template. -/
inductive Node where
  | literal (text : Text)
  | simple (argument : Text) (format : Option Text) (alignment : Option Int) (raw : Text)
  | pluralValue
  | formatted (kind : FormatKind) (argument : Text) (style : Style) (raw : Text)
  | choice (kind : ChoiceKind) (argument : Text) (offset : Nat) (cases : List (Text × List Node))
      (raw : Text)

/-- The word for a kind of formatted placeholders. -/
def FormatKind.word : FormatKind → Text
  | number => "number"
  | date => "date"
  | time => "time"
  | moment => "datetime"

/-- The word for a kind of choices. -/
def ChoiceKind.word : ChoiceKind → Text
  | plural => "plural"
  | ordinal => "selectordinal"
  | select => "select"

/-- The kinds of formatted placeholders. -/
def FormatKind.all : List FormatKind := [.number, .date, .time, .moment]

/-- The kinds of choices. -/
def ChoiceKind.all : List ChoiceKind := [.plural, .ordinal, .select]

/-- Literal text. -/
def Node.isLiteral : Node → Bool
  | .literal _ => true
  | _ => false

/-- Literal text only. -/
def isLiteral (nodes : List Node) : Bool := nodes.all Node.isLiteral

/-- A name added at the end of the names seen so far, unless it is among them. -/
def noteName (seen : List Text) (name : Text) : List Text := if name ∈ seen then seen else seen ++ [name]

mutual

/-- The names that a node adds to those seen before it. -/
def noteNode (seen : List Text) : Node → List Text
  | .literal _ => seen
  | .pluralValue => seen
  | .simple argument _ _ _ => noteName seen argument
  | .formatted _ argument _ _ => noteName seen argument
  | .choice _ argument _ cases _ => noteCases (noteName seen argument) cases

/-- The names that the nodes add to those seen before them. -/
def noteNodes (seen : List Text) : List Node → List Text
  | [] => seen
  | n :: rest => noteNodes (noteNode seen n) rest

/-- The names that cases add to those seen before them. -/
def noteCases (seen : List Text) : List (Text × List Node) → List Text
  | [] => seen
  | (_, body) :: rest => noteCases (noteNodes seen body) rest

end

/-- The argument names of a template in the order of their first occurrence. -/
def argumentNames (nodes : List Node) : List Text := noteNodes [] nodes

end Phrasebook.Template
