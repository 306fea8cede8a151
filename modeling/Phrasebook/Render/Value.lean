import Phrasebook.Calendar.Format
import Phrasebook.Calendar.Iso
import Phrasebook.Calendar.Timestamp
import Phrasebook.Number.Format
import Phrasebook.Value

/-!
# Values in messages

How a value is taken as a number or as a date or a time, and how it is written where nothing is said
about it.

Texts count as numbers and as dates if they write some; a truth value is neither. A time alone, where a
date is needed too, is put on the day on which it is written.
-/

namespace Phrasebook

namespace ProcessingError

/-- An error that is about no placeholder. -/
def ofWords (message : Text) : ProcessingError := ⟨message, none, none⟩

end ProcessingError

namespace Value

/-- The failure with some words. -/
def refuse {α : Type} (message : Text) : Outcome α := .error (.processing (.ofWords message))

/-- The failure with an error that shows a value, if the value can be shown. -/
def showing (v : Value) (e : ProcessingError) : Failure :=
  if v.isWritable then .processing e else .obstacle .value

/-- A value as a number. -/
def toDecimal (v : Value) : Outcome Decimal :=
  match v with
  | .decimal d => .ok d
  | .bool b => refuse ("Boolean value '" ++ boolText b ++ "' cannot be used as a number")
  | .int n => .ok (.ofInt n)
  | .double x =>
    match x.toDecimal with
    | some d => .ok d
    | none => .error (.obstacle .invalidOperation)
  | .text t =>
    match Decimal.ofText? t.strip with
    | some d => .ok d
    | none => refuse ("Value '" ++ t ++ "' is not a number")
  | v => refuse ("Value of type " ++ v.kind ++ " is not a number")

/-- The text of a date or a time with the letter for universal time written out. -/
def expandUniversal (t : Text) : Text :=
  if Text.endsWith t "Z" ∨ Text.endsWith t "z" then t.dropLast ++ "+00:00" else t

/-- A value as a date, a time or a moment; a number counts seconds. -/
def toTemporal (v : Value) : Outcome Temporal :=
  let ofSeconds (x : Except Obstacle Double) : Outcome Temporal :=
    Failure.ofObstacle (do return .moment (← Moment.ofTimestamp (← x)))
  let refused : Outcome Temporal :=
    .error (v.showing (.ofWords ("Value " ++ v.described ++ " cannot be used as a date or time")))
  match v with
  | .date d => .ok (.date d)
  | .time t => .ok (.time t none)
  | .moment m => .ok (.moment m)
  | .int n => ofSeconds (Double.ofInt? n)
  | .double x => ofSeconds (.ok x)
  | .decimal d => ofSeconds (Double.ofDecimal? d)
  | .text t =>
    let t := expandUniversal t.strip
    match Iso.moment? t, Iso.timeOfDay? t with
    | some m, _ => .ok (.moment m)
    | none, some c => .ok (.time c none)
    | none, none => refused
  | _ => refused

/-- A value without a style. -/
def plain (c : Culture) (v : Value) : Text :=
  match v with
  | .null => "null"
  | .double _ | .decimal _ => v.toText.replace "." c.conventions.symbols.decimal
  | v => v.toText

/-- A value without a style, if it can be written. -/
def written (c : Culture) (v : Value) : Outcome Text :=
  if v.isWritable then .ok (v.plain c) else .error (.obstacle .value)

end Value

namespace Temporal

/-- The moment: a date at its start, a time on the given day. -/
def toMoment (today : Date) : Temporal → Moment
  | date d => ⟨d, .midnight⟩
  | time t _ => ⟨today, t⟩
  | moment m => m

end Temporal

end Phrasebook
