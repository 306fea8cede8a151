import Phrasebook.Render.Composite
import Phrasebook.Render.Declared
import Phrasebook.Render.Style
import Phrasebook.Template.Arguments
import Phrasebook.Template.Reader
import Phrasebook.Text.Escape

/-!
# Rendering messages

`expand` renders a text or an entry with arguments. A placeholder without an argument is shown as it
was written, except in composite texts, where it is left out. A plural takes the first case that names
its number; else the case `one` for one, less the offset, or else the case `other`.
-/

namespace Phrasebook.Render

/-- What a template is rendered with. -/
structure Setting where
  culture : Culture
  arguments : Arguments
  mode : Mode
  /-- The placeholders that the entry declares. -/
  declarations : List Placeholder
  /-- The argument names of the template in order. -/
  names : List Text

namespace Setting

/-- The value for an argument name: a number asks for a position, a word for its place among the
names. -/
def value? (s : Setting) (name : Text) : Except Obstacle (Option Value) := do
  let position : Int ←
    if name.isNumber then do pure ((← Count.ofDigits name : Nat) : Int)
    else pure (((s.names.findIdx? (· = name)).map Int.ofNat).getD (-1))
  s.arguments.lookup? name position

/-- What stands in the place of a placeholder without a value. -/
def missing (s : Setting) (raw : Text) : Text := if s.mode = .composite then [] else raw

end Setting

/-- A text with blanks to a width, on the left for positive widths and on the right for negative
ones. -/
def align (alignment : Option Int) (t : Text) : Text :=
  match alignment with
  | none => t
  | some n => if n > 0 then Text.padLeft n.natAbs ' ' t else Text.padRight n.natAbs ' ' t

/-- A simple placeholder. If the entry declares placeholders, one that is not declared is shown as it
was written. -/
def simple (s : Setting) (argument : Text) (format : Option Text) (alignment : Option Int) (raw : Text) :
    Outcome Text := do
  if s.mode = .composite then
    match ← Failure.ofObstacle (s.value? argument) with
    | some v => return align alignment (← composite s.culture format v)
    | none => return align alignment []
  else
    let isDeclared := !s.declarations.isEmpty && !argument.isNumber
    let found := s.declarations.find? fun p => p.name.lower = argument.lower
    if isDeclared && found.isNone then return raw
    else
      match ← Failure.ofObstacle (s.value? argument) with
      | none => return raw
      | some v =>
        match found with
        | some p => if isDeclared then declared s.culture p v else v.written s.culture
        | none => v.written s.culture

/-- A formatted placeholder. -/
def formatted (s : Setting) (kind : Template.FormatKind) (argument : Text) (style : Template.Style)
    (raw : Text) : Outcome Text := do
  match ← Failure.ofObstacle (s.value? argument) with
  | none => return s.missing raw
  | some v =>
    match kind with
    | .number => number s.culture style v
    | kind => temporal s.culture kind style v

/-! ## Choices -/

/-- The label of the case for everything else. -/
def otherLabel : Text := "other"

/-- The error of a choice. -/
def choiceError (kind : Template.ChoiceKind) (argument words : Text) : ProcessingError where
  message := "The '" ++ kind.word ++ "' placeholder '" ++ argument ++ "' " ++ words
  placeholder := some argument
  cause := none

/-- The first of some labels that one of the cases has. -/
def firstLabel? (labels wanted : List Text) : Option Text := wanted.find? fun l => labels.contains l

/-- What a case is picked by: the label, and the number that stands for the sign of the plural in it. -/
structure Choice where
  label : Text
  number : Option Decimal

/-- The label that names a number exactly. -/
def exactLabel? (d : Decimal) : List Text → Except Obstacle (Option Text)
  | [] => .ok none
  | label :: rest =>
    match Text.dropLead? "=" label with
    | none => exactLabel? d rest
    | some t =>
      match Decimal.ofText? t with
      | none => exactLabel? d rest
      | some exact => do if ← exact.equals d then return some label else exactLabel? d rest

/-- The case of a plural for a number. -/
def pluralChoice (kind : Template.ChoiceKind) (argument : Text) (offset : Nat) (labels : List Text)
    (v : Value) : Outcome Choice := do
  match v.toDecimal with
  | .error (.processing _) => .error (.processing (choiceError kind argument "needs a numeric value"))
  | .error f => .error f
  | .ok d =>
    let exact ← Failure.ofObstacle (exactLabel? d labels)
    let adjusted ← Failure.ofObstacle (d.minus offset)
    let isOne ← Failure.ofObstacle (adjusted.equals (.ofInt 1))
    let category : List Text := if isOne then ["one", otherLabel] else [otherLabel]
    match exact.or (firstLabel? labels category) with
    | some label => return ⟨label, some adjusted⟩
    | none => .error (.processing (choiceError kind argument "has no 'other' case"))

/-- The case of a selection for a value. -/
def selectChoice (argument : Text) (labels : List Text) (number : Option Decimal) (v : Value) :
    Outcome Choice :=
  let word : Text := if v matches .null then "null" else v.toText
  if !v.isWritable then .error (.obstacle .value)
  else
    match firstLabel? labels [word, otherLabel] with
    | some label => .ok ⟨label, number⟩
    | none => .error (.processing (choiceError .select argument "has no 'other' case"))

/-- The case of a choice, unless its argument has no value. -/
def choose (s : Setting) (kind : Template.ChoiceKind) (argument : Text) (offset : Nat)
    (labels : List Text) (number : Option Decimal) : Outcome (Option Choice) := do
  match ← Failure.ofObstacle (s.value? argument) with
  | none => return none
  | some v =>
    match kind with
    | .select => return some (← selectChoice argument labels number v)
    | kind => return some (← pluralChoice kind argument offset labels v)

/-! ## Templates -/

mutual

/-- A node; `number` is that of the enclosing plural. -/
def node (s : Setting) (number : Option Decimal) : Template.Node → Outcome Text
  | .literal t => .ok t
  | .pluralValue =>
    match number with
    | none => .ok "#"
    | some d => Render.number s.culture .default (.decimal d)
  | .simple argument format alignment raw => simple s argument format alignment raw
  | .formatted kind argument style raw => formatted s kind argument style raw
  | .choice kind argument offset cases raw => do
    match ← choose s kind argument offset (cases.map Prod.fst) number with
    | none => return s.missing raw
    | some c => caseBody s c cases

/-- The first case with the chosen label. -/
def caseBody (s : Setting) (c : Choice) : List (Text × List Template.Node) → Outcome Text
  | [] => .ok []
  | (label, body) :: rest => if label = c.label then nodes s c.number body else caseBody s c rest

/-- Nodes in order. -/
def nodes (s : Setting) (number : Option Decimal) : List Template.Node → Outcome Text
  | [] => .ok []
  | n :: rest => do
    let t ← node s number n
    return t ++ (← nodes s number rest)

end

/-- A text in a mode with placeholders. -/
def template (c : Culture) (a : Arguments) (mode : Mode) (declarations : List Placeholder) (t : Text) :
    Outcome Text := do
  let parsed ← Template.parse mode t
  nodes ⟨c, a, mode, declarations, Template.argumentNames parsed⟩ none parsed

/-- A plain text rendered. -/
def text (c : Culture) (a : Arguments) (mode : Mode) (t : Text) : Outcome Text :=
  if t.isEmpty then .ok []
  else
    match mode with
    | .none => .ok t
    | .backslash => .ok (Text.unescape t)
    | mode => template c a mode [] t

/-- The text that an entry is rendered from. -/
def sourceText (e : Entry) : Text := (e.text.or (e.escapedText.map Text.unescape)).getD []

/-- An entry rendered. In the mode without escapes the stored form counts. -/
def entry (c : Culture) (a : Arguments) (mode : Mode) (e : Entry) : Outcome Text :=
  match mode with
  | .none => .ok (((e.escapedText.filter fun t => !t.isEmpty).or e.text).getD [])
  | .backslash => .ok (sourceText e)
  | mode => if (sourceText e).isEmpty then .ok [] else template c a mode e.placeholders (sourceText e)

end Phrasebook.Render
