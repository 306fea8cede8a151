import Phrasebook.Number.Count
import Phrasebook.Render.Value

/-!
# Composite formats

How a placeholder such as `0:N2` between braces writes its value by the part after the colon. For
numbers that is a letter with a precision, for dates and times a letter; anything else is a pattern.
-/

namespace Phrasebook.Render

/-- A pattern of digits with a fixed number of digits after the point. -/
def fixedPattern (whole : Text) (places : Nat) : Text :=
  let fraction : Text := if places = 0 then [] else "." ++ Text.zeros places
  whole ++ fraction

/-- An integer in hexadecimal notation. -/
def hexText (isUpper : Bool) (n : Int) : Text :=
  let digits : Text := Text.ofNatHex n.natAbs
  let sign : Text := if n < 0 then "-" else []
  sign ++ (if isUpper then digits.upper else digits)

/-- The letters of formats for numbers. -/
def numberLetters : List Text := ["N", "F", "D", "P", "C", "X", "E", "G"]

/-- How long a text can be. -/
def longestText : Nat := 9223372036854775807

/-- A number of digits that a text can have. -/
def countable (n : Nat) : Except Obstacle Nat := if n > longestText then .error .overflow else .ok n

/-- A number by a letter and a precision. -/
def numberByLetter (c : Culture) (letter : Text) (isUpper : Bool) (precision : Option Nat) (d : Decimal) :
    Except Obstacle Text :=
  let places := countable (precision.getD 2)
  if letter = "N" then do c.numberAs (fixedPattern "#,##0" (← places)) d
  else if letter = "F" then do c.numberAs (fixedPattern "0" (← places)) d
  else if letter = "D" then do c.numberAs (Text.zeros (← countable (max 1 (precision.getD 1)))) d
  else if letter = "P" then do c.numberAs (fixedPattern "#,##0" (← places) ++ "%") d
  else if letter = "C" then c.amount c.currency d
  else if letter = "X" then do
    let digits := hexText isUpper (← d.truncate)
    return Text.padLeft (← countable (precision.getD 0)) '0' digits
  else if letter = "E" then c.scientific d
  else .ok ((Value.decimal d).plain c)

/-- A number by the part after the colon, which is not empty. -/
def compositeNumber (c : Culture) (format : Text) (d : Decimal) : Except Obstacle Text := do
  let first := format.take 1
  let letter := Text.upper first
  let precision := format.drop 1
  if numberLetters.contains letter && (precision.isEmpty || Text.isNumber precision) then
    let places ← if precision.isEmpty then pure none else (Count.ofDigits precision).map some
    numberByLetter c letter (first ≠ Text.ofString "x") places d
  else c.numberAs format d

/-- A date and a time with a space between them. -/
def dateAndTime (c : Culture) (dateStyle timeStyle : Text) (t : Temporal) : Except Obstacle Text := do
  let m := t.toMoment c.today
  let time ← c.time timeStyle m.time (some m.date)
  return (← c.date dateStyle m.date) ++ " " ++ time

/-- Only the date. -/
def dateOnly (c : Culture) (style : Text) (t : Temporal) : Except Obstacle Text :=
  let t := match t with
    | .moment m => .date m.date
    | t => t
  c.temporalAs (c.datePattern style) t

/-- Only the time. -/
def timeOnly (c : Culture) (style : Text) : Temporal → Except Obstacle Text
  | .date _ => .error .attribute
  | .time t on => c.time style t on
  | .moment m => c.time style m.time (some m.date)

/-- A date or a time by the part after the colon. -/
def compositeTemporal (c : Culture) (format : Text) (t : Temporal) : Except Obstacle Text :=
  if format = "d" then dateOnly c "short" t
  else if format = "D" then dateOnly c "full" t
  else if format = "t" then timeOnly c "short" t
  else if format = "T" then timeOnly c "medium" t
  else if format = "f" then dateAndTime c "full" "short" t
  else if format = "F" then dateAndTime c "full" "medium" t
  else if format = "g" then dateAndTime c "short" "short" t
  else if format = "G" then dateAndTime c "short" "medium" t
  else c.moment format (t.toMoment c.today)

/-- The error of a value that a composite format does not fit. -/
def compositeError (v : Value) (format : Text) : ProcessingError :=
  .ofWords ("Cannot format " ++ v.described ++ " with format '" ++ format ++ "'")

/-- A value by the part after the colon; no value is written as nothing. -/
def composite (c : Culture) (format : Option Text) (v : Value) : Outcome Text :=
  let format := format.getD []
  let blame (r : Except Obstacle Text) : Outcome Text :=
    r.mapError fun o =>
      if o = .value ∨ o = .key then v.showing (compositeError v format) else .obstacle o
  if format.isEmpty then if v matches .null then .ok [] else v.written c
  else
    match v with
    | .null => .ok []
    | .date d => blame (compositeTemporal c format (.date d))
    | .time t => blame (compositeTemporal c format (.time t none))
    | .moment m => blame (compositeTemporal c format (.moment m))
    | v => if v.isNumber then do blame (compositeNumber c format (← v.toDecimal)) else v.written c

end Phrasebook.Render
