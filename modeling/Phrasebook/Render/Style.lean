import Phrasebook.Render.Value
import Phrasebook.Template.Node

/-!
# Styles

How a placeholder writes its value by a style: a word, a skeleton after two colons, or a pattern. A
pattern between quotes is never taken for a word.

If the style cannot be used the error names the value and the style and ends with the cause. Numbers
that have no result are not the fault of the style and are reported as they are.
-/

namespace Phrasebook.Render

/-- The style as it was written, if there is one. -/
def writtenStyle? : Template.Style → Option Text
  | .default => none
  | .named t => some t
  | .pattern t => some t

/-- Whether a style is at fault for an obstacle. -/
def blames (obstacles : List Obstacle) (o : Obstacle) : Bool := obstacles.contains o

/-- The outcome of formatting with a style that is blamed for some obstacles. -/
def blaming (obstacles : List Obstacle) (v : Value) (e : Obstacle → ProcessingError) (r : Except Obstacle Text) :
    Outcome Text :=
  r.mapError fun o => if blames obstacles o then v.showing (e o) else .obstacle o

/-- The error of a value that a style does not fit. -/
def styleError (v : Value) (words : Text) (style : Template.Style) (o : Obstacle) : ProcessingError where
  message := "Cannot format " ++ v.described ++ " with " ++ words ++ " style '"
    ++ (writtenStyle? style).getD "None" ++ "': "
  placeholder := none
  cause := some o

/-! ## Numbers -/

/-- The pattern of whole numbers. -/
def integerPattern : Text := "#,##0"

/-- A number by a skeleton. -/
def numberBySkeleton (c : Culture) (skeleton : Text) (d : Decimal) : Except Obstacle Text :=
  let head := (skeleton.words.headD []).lower
  if head = "compact-short" ∨ head = "k" then c.compact d
  else if head = "compact-long" ∨ head = "kk" then c.compactLong d
  else if head = "percent" ∨ head = "%" then do c.percent (← d.divideBy 100)
  else
    match Text.dropLead? "currency/" head with
    | some code => c.amount code.upper d
    | none =>
      if head = "integer" ∨ head = "precision-integer" then c.numberAs integerPattern d else c.number d

/-- A number by a word, a skeleton or a pattern. -/
def numberByName (c : Culture) (style : Text) (d : Decimal) : Except Obstacle Text :=
  let trimmed := style.strip
  let word := trimmed.lower
  let isAny (words : List Text) : Bool := words.contains word
  if style.isEmpty then c.number d
  else if Text.startsWith word "::" then numberBySkeleton c (trimmed.drop 2) d
  else if word = "integer" then c.numberAs integerPattern d
  else if word = "percent" then c.percent d
  else if word = "currency" ∨ Text.startsWith word "currency:" ∨ Text.startsWith word "currency/" then
    let code := (Text.strip (trimmed.drop 9)).upper
    c.amount (if code.isEmpty then c.currency else code) d
  else if isAny ["compact", "compact-short", "short"] then c.compact d
  else if isAny ["compact-long", "long"] then c.compactLong d
  else c.numberAs style d

/-- A number by a style. -/
def number (c : Culture) (style : Template.Style) (v : Value) : Outcome Text := do
  let d ← v.toDecimal
  blaming [.value, .key] v (styleError v "number" style) (match style with
    | .default => c.number d
    | .named t => numberByName c t d
    | .pattern t => c.numberAs t d)

/-! ## Dates and times -/

/-- The words for the lengths of dates and times. -/
def lengthWords : List Text := ["short", "medium", "long", "full"]

/-- A date, a time or a moment by a style that is known not to be a skeleton. -/
def temporalAs (c : Culture) (kind : Template.FormatKind) (style : Text) (t : Temporal) :
    Except Obstacle Text :=
  match kind, t with
  | .date, .date d => c.date style d
  | .date, .moment m => c.date style m.date
  | .time, .time t on => c.time style t on
  | .time, t => c.time style (t.toMoment c.today).time (some (t.toMoment c.today).date)
  | _, t => c.moment style (t.toMoment c.today)

/-- A value by a style as a date, a time or a moment. -/
def temporal (c : Culture) (kind : Template.FormatKind) (style : Template.Style) (v : Value) :
    Outcome Text := do
  let t ← v.toTemporal
  let blame := blaming [.value, .key, .attribute] v (styleError v kind.word style)
  let written := ((writtenStyle? style).filter fun t => !t.isEmpty).getD "medium"
  let trimmed := written.strip
  let isPattern := match style with
    | .pattern _ => true
    | _ => false
  if !isPattern && Text.startsWith trimmed "::" then
    blame (c.momentBySkeleton (trimmed.drop 2) (t.toMoment c.today))
  else
    let isWord := !isPattern && lengthWords.contains trimmed.lower
    let used := if isWord then trimmed.lower else trimmed
    match kind, t with
    | .date, .time _ _ =>
      Value.refuse ("Time value " ++ v.described ++ " cannot be formatted as a date")
    | _, t => blame (temporalAs c kind used t)

end Phrasebook.Render
