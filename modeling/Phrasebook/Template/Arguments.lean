import Phrasebook.Number.Count
import Phrasebook.Pairs
import Phrasebook.Text.Case
import Phrasebook.Value

/-!
# Arguments

Where the placeholders of a template get their values. A placeholder asks by name and by the position
of that name among the names of the template. Tables answer by name, without regard to case, and take
a number as a name too; ordered tables and sequences also answer by position; a record answers by
exact name.
-/

namespace Phrasebook

/-- The key of a value in a table. -/
inductive ArgumentKey where
  | name (t : Text)
  | number (n : Int)
deriving DecidableEq

/-- The key as text. -/
def ArgumentKey.toText : ArgumentKey → Text
  | name t => t
  | number n => Text.ofInt n

/-- Where placeholders get their values. -/
inductive Arguments where
  | none
  /-- Values by key, in the order in which they were given. -/
  | ordered (pairs : List (ArgumentKey × Value))
  /-- Values by key. -/
  | table (pairs : List (ArgumentKey × Value))
  /-- Values by position. -/
  | sequence (values : List Value)
  /-- Values by field. -/
  | record (fields : List (Text × Value))

namespace Arguments

/-- The value whose key, as text and without regard to case, is `name`; the last one if several are. -/
def byName? (name : Text) (pairs : List (ArgumentKey × Value)) : Option Value :=
  (pairs.reverse.find? fun (k, _) => k.toText.fold = name.fold).map (·.2)

/-- The value under a number. -/
def byNumber? (n : Nat) (pairs : List (ArgumentKey × Value)) : Option Value :=
  Pairs.get? (.number n) pairs

/-- The value in a table under a name, or under the number that the name writes. -/
def inTable? (name : Text) (pairs : List (ArgumentKey × Value)) : Except Obstacle (Option Value) :=
  match byName? name pairs with
  | some v => .ok (some v)
  | .none => if name.isNumber then (Count.ofDigits name).map (byNumber? · pairs) else .ok .none

/-- The value at a position, if there is one. -/
def atPosition? (position : Int) (values : List Value) : Option Value :=
  if position < 0 then .none else values[position.toNat]?

/-- The value for a name that stands at a position among the names of the template. -/
def lookup? (a : Arguments) (name : Text) (position : Int) : Except Obstacle (Option Value) :=
  match a with
  | none => .ok .none
  | table pairs => inTable? name pairs
  | ordered pairs => do
    match ← inTable? name pairs with
    | some v => return some v
    | .none => return atPosition? position (pairs.map (·.2))
  | sequence values => .ok (atPosition? position values)
  | record fields =>
    if name.head? = some CodePoint.underscore then .ok .none
    else .ok (Pairs.get? name fields)

/-! ## Single values -/

/-- The fields of a date. -/
def dateFields (d : Date) : List (Text × Value) :=
  [("year", .int d.year), ("month", .int d.month), ("day", .int d.day)]

/-- The fields of a time of day. -/
def timeFields (t : TimeOfDay) : List (Text × Value) :=
  [("hour", .int t.hour), ("minute", .int t.minute), ("second", .int t.second),
    ("microsecond", .int t.microsecond), ("fold", .int 0)]

/-- The fields that tell the first and the last value of a kind. -/
def rangeFields (first last : Value) : List (Text × Value) := [("min", first), ("max", last)]

/-- The first day of the calendar. -/
def firstDay : Date := ⟨1, 1, 1⟩

/-- The last day of the calendar. -/
def lastDay : Date := ⟨9999, 12, 31⟩

/-- The last microsecond of a day. -/
def lastInstant : TimeOfDay := ⟨23, 59, 59, 999999, .none⟩

/-- A single value as arguments: nothing, a sequence of its own, the first of a sequence, or a date or
time whose parts are asked for. -/
def ofValue : Value → Arguments
  | .null => none
  | .list items => sequence items
  | .date d => record (dateFields d ++ rangeFields (.date firstDay) (.date lastDay))
  | .time t => record (timeFields t ++ rangeFields (.time .midnight) (.time lastInstant))
  | .moment m =>
    record (dateFields m.date ++ timeFields m.time
      ++ rangeFields (.moment ⟨firstDay, .midnight⟩) (.moment ⟨lastDay, lastInstant⟩))
  | v => sequence [v]

end Arguments

end Phrasebook
