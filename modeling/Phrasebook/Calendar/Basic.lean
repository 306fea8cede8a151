import Phrasebook.Text.Basic

/-!
# Dates and times of day

The proleptic Gregorian calendar from the year 1 to the year 9999, times of day to the microsecond, and
fixed distances from universal time. A moment is a date with a time of day; without an offset it is
local to wherever it is read.
-/

namespace Phrasebook

/-- A day of the calendar. -/
structure Date where
  year : Nat
  month : Nat
  day : Nat
deriving DecidableEq

/-- A time of day; `offset` is its distance from universal time in microseconds, positive to the
east. -/
structure TimeOfDay where
  hour : Nat
  minute : Nat
  second : Nat
  microsecond : Nat
  offset : Option Int
deriving DecidableEq

/-- A time of day on a date. -/
structure Moment where
  date : Date
  time : TimeOfDay
deriving DecidableEq

namespace Date

/-- Leap years. -/
def isLeapYear (year : Nat) : Bool := year % 4 = 0 && (year % 100 ≠ 0 || year % 400 = 0)

/-- The lengths of the months of a year. -/
def monthLengths (year : Nat) : List Nat :=
  [31, if isLeapYear year then 29 else 28, 31, 30, 31, 30, 31, 31, 30, 31, 30, 31]

/-- The number of days of a month. -/
def daysInMonth (year month : Nat) : Nat := (monthLengths year).getD (month - 1) 0

/-- A date that exists. -/
def ofParts? (year month day : Nat) : Option Date :=
  if 1 ≤ year ∧ year ≤ 9999 ∧ 1 ≤ month ∧ month ≤ 12 ∧ 1 ≤ day ∧ day ≤ daysInMonth year month then
    some ⟨year, month, day⟩
  else none

/-- The number of days before a year. -/
def daysBeforeYear (year : Nat) : Nat :=
  let y := year - 1
  y * 365 + y / 4 - y / 100 + y / 400

/-- The number of the day within its year, from one. -/
def dayOfYear (d : Date) : Nat := ((monthLengths d.year).take (d.month - 1)).foldl (· + ·) d.day

/-- The number of the day, counted from the first day of the year 1, which is day one. -/
def dayNumber (d : Date) : Nat := daysBeforeYear d.year + d.dayOfYear

/-- The day of the week, from Monday, which is zero. -/
def weekday (d : Date) : Nat := (d.dayNumber + 6) % 7

/-- The month and the day of the month of the `n`-th day after the start of the given months. -/
def ofMonthLengths : List Nat → (month n : Nat) → Nat × Nat
  | [], month, n => (month, n + 1)
  | length :: rest, month, n =>
    if n < length then (month, n + 1) else ofMonthLengths rest (month + 1) (n - length)

/-- The date with a day number. -/
def ofDayNumber (number : Nat) : Date :=
  let n := number - 1
  let guess := n * 400 / 146097 + 1
  let year :=
    if daysBeforeYear guess > n then guess - 1
    else if daysBeforeYear (guess + 1) ≤ n then guess + 1
    else guess
  let (month, day) := ofMonthLengths (monthLengths year) 1 (n - daysBeforeYear year)
  ⟨year, month, day⟩

/-- The number of the Monday with which the weeks of a year begin: the week that holds the first
Thursday. -/
def firstMonday (year : Nat) : Int :=
  let first := daysBeforeYear year + 1
  let weekday := (first + 6) % 7
  (first : Int) - weekday + if weekday > 3 then 7 else 0

/-- The date of a week and a weekday, both from one. -/
def ofWeek? (year week weekday : Nat) : Option Date :=
  if year < 1 ∨ 9999 < year ∨ week < 1 ∨ weekday < 1 ∨ 7 < weekday then none
  else
    let first := (daysBeforeYear year + 1) % 7
    let weeks := if first = 4 ∨ (first = 3 ∧ isLeapYear year) then 53 else 52
    if weeks < week then none
    else
      let number := firstMonday year + ((week - 1) * 7 + (weekday - 1) : Nat)
      if number < 1 ∨ number > daysBeforeYear 10000 then none
      else some (ofDayNumber number.toNat)

end Date

namespace TimeOfDay

/-- A time of day that exists. -/
def ofParts? (hour minute second microsecond : Nat) (offset : Option Int) : Option TimeOfDay :=
  if hour < 24 ∧ minute < 60 ∧ second < 60 ∧ microsecond < 1000000 then
    some ⟨hour, minute, second, microsecond, offset⟩
  else none

/-- The start of a day. -/
def midnight : TimeOfDay := ⟨0, 0, 0, 0, none⟩

/-- The number of whole seconds since midnight. -/
def secondOfDay (t : TimeOfDay) : Nat := t.hour * 3600 + t.minute * 60 + t.second

end TimeOfDay

/-! ## Texts -/

namespace Calendar

/-- A number of at least `width` digits. -/
def field (width n : Nat) : Text := Text.padLeft width '0' (Text.ofNat n)

/-- An offset as `±hh:mm`, with seconds and microseconds where there are any. -/
def offsetText (offset : Int) : Text :=
  let n := offset.natAbs
  let seconds := n / 1000000
  let tail : Text :=
    if n % 1000000 ≠ 0 then ":" ++ field 2 (seconds % 60) ++ "." ++ field 6 (n % 1000000)
    else if seconds % 60 ≠ 0 then ":" ++ field 2 (seconds % 60)
    else []
  (if offset < 0 then "-" else "+") ++ field 2 (seconds / 3600) ++ ":" ++ field 2 (seconds / 60 % 60)
    ++ tail

end Calendar

open Calendar

/-- A date as `yyyy-mm-dd`. -/
def Date.toText (d : Date) : Text := field 4 d.year ++ "-" ++ field 2 d.month ++ "-" ++ field 2 d.day

/-- A time of day as `hh:mm:ss`, with microseconds and an offset where it has them. -/
def TimeOfDay.toText (t : TimeOfDay) : Text :=
  let fraction : Text := if t.microsecond = 0 then [] else "." ++ field 6 t.microsecond
  let offset : Text := match t.offset with
    | none => []
    | some o => offsetText o
  field 2 t.hour ++ ":" ++ field 2 t.minute ++ ":" ++ field 2 t.second ++ fraction ++ offset

/-- The date and the time of day of a moment with `separator` between them. -/
def Moment.toTextWith (separator : Text) (m : Moment) : Text :=
  m.date.toText ++ separator ++ m.time.toText

end Phrasebook
