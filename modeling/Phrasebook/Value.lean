import Phrasebook.Calendar.Basic
import Phrasebook.Number.Count
import Phrasebook.Number.Double
import Phrasebook.Text.Quoted

/-!
# Values

What a caller passes for a placeholder. A value has two forms as text: `toText` is what stands in a
rendered message, `described` is how an error message shows it, where a text is quoted and numbers and
dates name their kind.
-/

namespace Phrasebook

/-- A value passed for a placeholder. -/
inductive Value where
  | null
  | bool (b : Bool)
  | int (n : Int)
  | double (x : Double)
  | decimal (d : Decimal)
  | text (t : Text)
  | date (d : Date)
  | time (t : TimeOfDay)
  | moment (m : Moment)
  | list (items : List Value)
deriving Inhabited

namespace Value

/-- The word for the kind of a value. -/
def kind : Value → Text
  | null => "NoneType"
  | bool _ => "bool"
  | int _ => "int"
  | double _ => "float"
  | decimal _ => "Decimal"
  | text _ => "str"
  | date _ => "date"
  | time _ => "time"
  | moment _ => "datetime"
  | list _ => "list"

/-- A truth value as text. -/
def boolText (b : Bool) : Text := if b then "True" else "False"

/-! ## Descriptions -/

/-- Words between parentheses, separated by commas. -/
def application (head : Text) (arguments : List Text) : Text :=
  head ++ "(" ++ Text.join ", " arguments ++ ")"

/-- A distance from universal time. -/
def describedOffset (offset : Int) : Text :=
  if offset = 0 then "datetime.timezone.utc"
  else
    let days := Int.fdiv offset 86400000000
    let rest := (Int.fmod offset 86400000000).toNat
    let part (name : Text) (n : Int) : List Text := if n = 0 then [] else [name ++ "=" ++ Text.ofInt n]
    application "datetime.timezone"
      [application "datetime.timedelta"
        (part "days" days ++ part "seconds" (rest / 1000000 : Nat)
          ++ part "microseconds" (rest % 1000000 : Nat))]

/-- The parts of a time of day that are told: seconds and microseconds only where there are some. -/
def describedClock (t : TimeOfDay) : List Text :=
  let second := if t.second = 0 ∧ t.microsecond = 0 then [] else [Text.ofNat t.second]
  let microsecond := if t.microsecond = 0 then [] else [Text.ofNat t.microsecond]
  let offset : List Text := match t.offset with
    | none => []
    | some o => ["tzinfo=" ++ describedOffset o]
  [Text.ofNat t.hour, Text.ofNat t.minute] ++ second ++ microsecond ++ offset

/-- The parts of a date. -/
def describedDay (d : Date) : List Text := [Text.ofNat d.year, Text.ofNat d.month, Text.ofNat d.day]

mutual

/-- How an error message shows a value. -/
def described : Value → Text
  | null => "None"
  | bool b => boolText b
  | int n => Text.ofInt n
  | double x => x.toText
  | decimal d => "Decimal('" ++ d.toText ++ "')"
  | text t => t.quoted
  | date d => application "datetime.date" (describedDay d)
  | time t => application "datetime.time" (describedClock t)
  | moment m => application "datetime.datetime" (describedDay m.date ++ describedClock m.time)
  | list items => "[" ++ Text.join ", " (describedAll items) ++ "]"

/-- How an error message shows each of some values. -/
def describedAll : List Value → List Text
  | [] => []
  | v :: rest => described v :: describedAll rest

end

mutual

/-- Whether the value can be written at all: an integer of too many digits cannot. -/
def isWritable : Value → Bool
  | int n => digitCount n.natAbs ≤ Count.digitLimit
  | list items => areWritable items
  | _ => true

/-- Whether all of some values can be written. -/
def areWritable : List Value → Bool
  | [] => true
  | v :: rest => isWritable v && areWritable rest

end

/-- The text of a value in a message. -/
def toText : Value → Text
  | text t => t
  | decimal d => d.toText
  | date d => d.toText
  | time t => t.toText
  | moment m => m.toTextWith " "
  | v => v.described

/-- A number; a truth value is none. -/
def isNumber : Value → Bool
  | int _ => true
  | double _ => true
  | decimal _ => true
  | _ => false

end Value

end Phrasebook
