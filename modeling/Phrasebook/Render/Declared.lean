import Phrasebook.Entry
import Phrasebook.Number.Count
import Phrasebook.Render.Value

/-!
# Declared formats

How a placeholder writes its value by what an entry declares about it: a type, the name of a format and
parameters of that format.
-/

namespace Phrasebook.Render

/-- Whether a parameter counts as given. -/
def isGiven : Json → Bool
  | .null => false
  | .bool b => b
  | .int n => n ≠ 0
  | .double x => x.isNonzero
  | .text t => !t.isEmpty
  | .array l => !l.isEmpty
  | .object l => !l.isEmpty

/-- A parameter, if it is given. -/
def given? (p : Placeholder) (name : Text) : Option Json := (Pairs.get? name p.parameters).filter isGiven

/-- A parameter that has to be text. -/
def asText : Json → Except Obstacle Text
  | .text t => .ok t
  | _ => .error .type

/-- A parameter as a whole number. -/
def asInteger : Json → Except Obstacle Int
  | .bool b => .ok (if b then 1 else 0)
  | .int n => .ok n
  | .double x => x.truncate
  | .text t => Count.integerOf t
  | _ => .error .type

/-- The pattern of whole numbers with some digits after the point. -/
def patternWithPlaces (places : Int) : Text :=
  let fraction : Text := if places > 0 then "." ++ Text.zeros places.toNat else []
  "#,##0" ++ fraction

/-- The currency that a placeholder asks for, else that of the culture. -/
def currencyCode (c : Culture) (p : Placeholder) : Except Obstacle Text :=
  match given? p "name" with
  | some code => asText code
  | none => .ok c.currency

/-- An amount of money. Where a sign of its own is given, it replaces that of the currency. -/
def amountByFormat (c : Culture) (sign : Option Json) (code : Text) (d : Decimal) :
    Except Obstacle Text := do
  let t ← c.amount code d
  match sign with
  | some sign => return t.replace (c.currencySign code) (← asText sign)
  | none => return t

/-- A number with a percent sign and some digits after the point. -/
def percentWithPlaces (c : Culture) (places : Option Json) (d : Decimal) : Except Obstacle Text := do
  match places with
  | some n => c.numberAs ("#,##0." ++ Text.zeros (← asInteger n).toNat ++ "%") d
  | none => c.numberAs "#,##0%" d

/-- A number by a format for numbers. An unknown format is that of plain numbers. -/
def numberByFormat (c : Culture) (p : Placeholder) (format : Text) (d : Decimal) :
    Except Obstacle Text := do
  let digits := (Pairs.get? (Text.ofString "decimalDigits") p.parameters).filter fun v => !(v matches .null)
  match given? p "customPattern" with
  | some pattern => c.numberAs (← asText pattern) d
  | none =>
    if format = "compact" then c.compact d
    else if format = "compactLong" then c.compactLong d
    else if format = "compactCurrency" ∨ format = "compactSimpleCurrency" then
      c.compactAmount (← currencyCode c p) d
    else if format = "currency" then amountByFormat c (given? p "symbol") (← currencyCode c p) d
    else if format = "simpleCurrency" then amountByFormat c none (← currencyCode c p) d
    else if format = "decimalPercentPattern" then percentWithPlaces c (digits.filter isGiven) d
    else if format = "percentPattern" then c.percent d
    else if format = "scientificPattern" then c.scientific d
    else
      match digits with
      | some n =>
        if format = "decimalPattern" then c.numberAs (patternWithPlaces (← asInteger n)) d
        else c.number d
      | none => c.number d

/-- The trimmed name of the declared format. -/
def formatName (p : Placeholder) : Text := (p.format.getD []).strip

/-- The error of a value that a declared format does not fit. -/
def formatError (v : Value) (p : Placeholder) (words : Text) : ProcessingError where
  message := "Cannot format " ++ v.described ++ " with " ++ words ++ " format '" ++ formatName p ++ "'"
  placeholder := some p.name
  cause := none

/-- Whether the format is at fault for an obstacle. -/
def isFormatFault (o : Obstacle) : Bool := o = .value || o = .key

/-- A number by a declared format. -/
def declaredNumber (c : Culture) (p : Placeholder) (v : Value) : Outcome Text := do
  let d ← v.toDecimal
  (numberByFormat c p (formatName p) d).mapError fun o =>
    if isFormatFault o then v.showing (formatError v p "number") else .obstacle o

/-- Whether the declared format of a date is a pattern and no skeleton. -/
def isCustomDate (p : Placeholder) : Bool :=
  match Pairs.get? (Text.ofString "isCustomDateFormat") p.properties with
  | some (.bool b) => b
  | some (.text t) => t.lower = "true"
  | _ => false

/-- A moment by several skeletons with plus signs between them. -/
def bySkeletons (c : Culture) (m : Moment) : List Text → Except Obstacle (List Text)
  | [] => .ok []
  | s :: rest => do
    let t ← c.momentBySkeleton s m
    return t :: (← bySkeletons c m rest)

/-- A date or a time by a declared format. -/
def declaredMoment (c : Culture) (p : Placeholder) (v : Value) : Outcome Text := do
  let m := (← v.toTemporal).toMoment c.today
  let format := formatName p
  let r : Except Obstacle Text :=
    if isCustomDate p then c.moment format m
    else (bySkeletons c m (Text.splitAll '+' format)).map (Text.join " ")
  r.mapError fun o =>
    if isFormatFault o then v.showing (formatError v p "date") else .obstacle o

/-- A value by what is declared about its placeholder. -/
def declared (c : Culture) (p : Placeholder) (v : Value) : Outcome Text :=
  let type := (p.type.getD "String").lower
  let isNumeric : Bool := type = "num" || type = "int" || type = "double"
  if (p.format.getD []).isEmpty || v matches .null then v.written c
  else if isNumeric && v.isNumber then
    if type = "int" && !(v matches .int _) then v.written c else declaredNumber c p v
  else if type = "datetime" then declaredMoment c p v
  else v.written c

end Phrasebook.Render
