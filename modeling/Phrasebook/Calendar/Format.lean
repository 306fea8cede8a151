import Phrasebook.Calendar.Skeleton
import Phrasebook.Calendar.Zone
import Phrasebook.Number.Double

/-!
# Dates and times in a culture

How the fields of a date pattern are written. A date has no time of day and a time no date, so a
pattern may ask for what its value does not have. Moments and times without a zone are in universal
time.

Weeks are counted by the culture: a day of the week begins them, and the first week of a year or a month
has at least a certain number of its days.
-/

namespace Phrasebook

/-- What a date pattern is applied to. -/
inductive Temporal where
  | date (d : Date)
  /-- A time of day, perhaps on a known date. -/
  | time (t : TimeOfDay) (on : Option Date)
  | moment (m : Moment)
deriving DecidableEq

namespace Temporal

/-- The date, unless there is none. -/
def day : Temporal → Except Obstacle Date
  | date d => .ok d
  | time _ _ => .error .attribute
  | moment m => .ok m.date

/-- The time of day, unless there is none. -/
def clock : Temporal → Except Obstacle TimeOfDay
  | date _ => .error .attribute
  | time t _ => .ok t
  | moment m => .ok m.time

/-- The date for what cannot be counted without one. -/
def countedDay (t : Temporal) : Except Obstacle Date := t.day.mapError fun _ => .type

/-- The zone, unless there is no time of day. -/
def zone (t : Temporal) : Except Obstacle Zone := do return ⟨(← t.clock).offset.getD 0⟩

/-- The zone that distances are told of; that of a date is universal time. -/
def zoneOfAny (t : Temporal) : Zone := (t.zone.toOption).getD ⟨0⟩

end Temporal

namespace Culture

/-! ## Names -/

/-- Names by the length of a field: three letters, all, one letter. -/
def widthOf (w : Widths) (count : Nat) : String :=
  if count = 4 then w.wide else if count = 5 then w.narrow else if count = 6 then w.short else w.abbreviated

/-- The name at a place of a list. -/
def nameAt (names : String) (i : Nat) : Text := (Conventions.items names).getD i []

/-! ## Weeks -/

/-- The number of the week that holds the day `day` of a period, where that day is a `weekday`. -/
def weekNumber (c : Culture) (day weekday : Nat) : Nat :=
  let lead := (Int.emod ((weekday : Int) - c.firstWeekday - day + 1) 7).toNat
  let weeks := (day + lead - 1) / 7
  if 7 - lead ≥ c.leastWeekDays then weeks + 1 else weeks

/-- The number of the week of the year. -/
def weekOfYear (c : Culture) (d : Date) : Except Obstacle Nat :=
  let week := c.weekNumber d.dayOfYear d.weekday
  if week = 0 then
    if d.year ≤ 1 then .error .value
    else
      let last : Date := ⟨d.year - 1, 12, 31⟩
      .ok (c.weekNumber last.dayOfYear last.weekday)
  else if week > 52 then
    if d.year ≥ 9999 then .error .value
    else
      let weekday := Date.weekday ⟨d.year + 1, 1, 1⟩
      let lead := (Int.emod ((weekday : Int) - c.firstWeekday) 7).toNat
      .ok (if c.weekNumber 1 weekday = 1 ∧ 32 - lead ≤ d.day then 1 else week)
  else .ok week

/-- The year that the week of a date belongs to. -/
def weekYear (c : Culture) (d : Date) : Except Obstacle Nat := do
  if d.month = 1 ∧ d.day < 7 then
    return if (← c.weekOfYear d) ≥ 52 then d.year - 1 else d.year
  else if d.month = 12 ∧ d.day > 25 then
    return if (← c.weekOfYear d) ≤ 2 then d.year + 1 else d.year
  else return d.year

/-! ## Parts of the day -/

/-- A part of the day: from one second of the day to before another, or at one alone. -/
structure DayPeriod where
  name : Text
  start : Nat
  stop : Option Nat
deriving DecidableEq

/-- The parts of the day. -/
def dayPeriods (c : Culture) : List DayPeriod :=
  (Conventions.keyedItems c.conventions.dayPeriodRules).map fun (name, rest) =>
    match Text.words rest with
    | [start, stop] => ⟨name, asciiNumber start, some (asciiNumber stop)⟩
    | _ => ⟨name, asciiNumber rest, none⟩

/-- Whether a second of the day lies in a part of the day that lasts. -/
def DayPeriod.holds (second : Nat) (p : DayPeriod) : Bool :=
  match p.stop with
  | none => false
  | some stop =>
    if p.start < stop then p.start ≤ second && second < stop else p.start ≤ second || second < stop

/-- The part of the day that a second lies in; one that lasts no time comes first. -/
def dayPeriod (c : Culture) (second : Nat) : Text :=
  let at_ := c.dayPeriods.find? fun p => p.stop.isNone && p.start = second
  let around := c.dayPeriods.find? (DayPeriod.holds second)
  match at_.or around with
  | some p => p.name
  | none => if second < 43200 then "am" else "pm"

/-- The name of a part of the day in the length asked for, or else in another one. -/
def dayPeriodName (w : Widths) (count : Nat) (period : Text) : Except Obstacle Text :=
  match [widthOf w count, w.wide, w.narrow, w.abbreviated].findSome? fun s =>
      Pairs.get? period (Conventions.keyedItems s) with
  | some t => .ok t
  | none => .error .value

/-! ## Fields -/

/-- A year, written with its last two digits if the field has two. -/
def yearText (count year : Nat) : Text :=
  let t := Calendar.field count year
  if count = 2 then t.drop (t.length - 2) else t

/-- The digits of the fraction of a second. -/
def fractionOfSecond (count microsecond : Nat) : Except Obstacle Text := do
  let power ← Double.ofInt? (powerOfTen count)
  let n ← (((Double.ofRatio false microsecond 1000000).roundTo count).times power).truncate
  return Calendar.field count n.toNat

/-- A day of the week by its number or its name. -/
def weekdayText (c : Culture) (letter : CodePoint) (count weekday : Nat) : Text :=
  if count < 3 ∧ letter ≠ 'E' then
    Calendar.field count ((7 - c.firstWeekday + weekday) % 7 + 1)
  else
    let names := c.conventions.weekdays
    nameAt (widthOf (if letter = 'c' then names.standAlone else names.format) (max 3 count)) weekday

/-- A number, or a name if the field is long enough. -/
def numberOrName (names : Widths) (count i : Nat) : Text :=
  if count ≤ 2 then Calendar.field count i else nameAt (widthOf names count) (i - 1)

/-- A field of the zone. A length that tells nothing is written as no value. -/
def zoneField (c : Culture) (letter : CodePoint) (count : Nat) (t : Temporal) : Except Obstacle Text :=
  let any := t.zoneOfAny
  if letter = 'z' then do return (← t.zone).name c (count = 4)
  else if letter = 'Z' then
    if count = 5 then .ok (any.offsetText c .extended true)
    else .ok (any.offsetText c (if count = 4 then .localized else .basic) false)
  else if letter = 'O' then .ok (if count = 4 then any.offsetText c .localized false else "None")
  else if letter = 'V' ∧ count = 2 then do return (← t.zone).identifier
  else if letter = 'V' ∧ count = 3 then do return (← t.zone).city
  else if letter = 'v' ∨ letter = 'V' then do return (← t.zone).location c
  else
    let style : Zone.OffsetStyle :=
      if count = 1 then .shortest else if count = 2 ∨ count = 4 then .basic else .extended
    .ok (any.offsetText c style (letter = 'X'))

/-- A field of the date. -/
def dateField? (c : Culture) (letter : CodePoint) (count : Nat) (t : Temporal) :
    Option (Except Obstacle Text) :=
  let names := c.conventions
  if letter = 'G' then some do
    let _ ← t.day
    return nameAt (widthOf names.eras count) 1
  else if letter = 'y' ∨ letter = 'u' then some do return yearText count (← t.day).year
  else if letter = 'Y' then some do return yearText count (← c.weekYear (← t.day))
  else if letter = 'Q' then some do
    return numberOrName names.quarters.format count (((← t.day).month - 1) / 3 + 1)
  else if letter = 'q' then some do
    return numberOrName names.quarters.standAlone count (((← t.day).month - 1) / 3 + 1)
  else if letter = 'M' then some do return numberOrName names.months.format count (← t.day).month
  else if letter = 'L' then some do return numberOrName names.months.standAlone count (← t.day).month
  else if letter = 'w' then some do return Calendar.field count (← c.weekOfYear (← t.countedDay))
  else if letter = 'W' then some do
    let d ← t.day
    return Text.ofNat (c.weekNumber d.day d.weekday)
  else if letter = 'd' then some do return Calendar.field count (← t.day).day
  else if letter = 'D' then some do return Calendar.field count (← t.countedDay).dayOfYear
  else if letter = 'F' then some do return Text.ofNat (((← t.day).day - 1) / 7 + 1)
  else if letter = 'E' ∨ letter = 'e' ∨ letter = 'c' then some do
    return c.weekdayText letter count (← t.day).weekday
  else none

/-- A field of the time of day. -/
def clockField? (c : Culture) (letter : CodePoint) (count : Nat) (t : Temporal) :
    Option (Except Obstacle Text) :=
  let names := c.conventions.dayPeriods
  let show_ (f : TimeOfDay → Nat) : Option (Except Obstacle Text) := some do
    return Calendar.field count (f (← t.clock))
  if letter = 'a' then some do
    dayPeriodName names.format count (if (← t.clock).hour ≥ 12 then "pm" else "am")
  else if letter = 'b' then some do
    dayPeriodName names.standAlone count (c.dayPeriod (← t.clock).secondOfDay)
  else if letter = 'B' then some do
    dayPeriodName names.format count (c.dayPeriod (← t.clock).secondOfDay)
  else if letter = 'h' then show_ fun t => (t.hour + 11) % 12 + 1
  else if letter = 'H' then show_ TimeOfDay.hour
  else if letter = 'K' then show_ fun t => t.hour % 12
  else if letter = 'k' then show_ fun t => (t.hour + 23) % 24 + 1
  else if letter = 'm' then show_ TimeOfDay.minute
  else if letter = 's' then show_ TimeOfDay.second
  else if letter = 'S' then some do fractionOfSecond count (← t.clock).microsecond
  else if letter = 'A' then show_ fun t => t.secondOfDay * 1000 + t.microsecond / 1000
  else none

/-- A field. -/
def field (c : Culture) (letter : CodePoint) (count : Nat) (t : Temporal) : Except Obstacle Text :=
  match (c.dateField? letter count t).or (c.clockField? letter count t) with
  | some r => r
  | none => if letter = 'g' then .error .key else c.zoneField letter count t

/-! ## Patterns -/

/-- A date, a time or a moment by a parsed pattern. -/
def byDatePattern (c : Culture) (t : Temporal) : DatePattern → Except Obstacle Text
  | [] => .ok []
  | .literal x :: rest => do return x :: (← c.byDatePattern t rest)
  | .field letter count :: rest => do
    let shown ← c.field letter count t
    return shown ++ (← c.byDatePattern t rest)

/-- A date, a time or a moment by a pattern. -/
def temporalAs (c : Culture) (pattern : Text) (t : Temporal) : Except Obstacle Text := do
  c.byDatePattern t (← DatePattern.ofText pattern)

/-- Which of four patterns a style names, if it names one. -/
def styled? {α : Type} (style : Text) (full long medium short : α) : Option α :=
  if style = "full" then some full
  else if style = "long" then some long
  else if style = "medium" then some medium
  else if style = "short" then some short
  else none

/-- The pattern of dates that a style names; anything else is a pattern itself. -/
def datePattern (c : Culture) (style : Text) : Text :=
  let p := c.conventions.dates
  ((styled? style p.full p.long p.medium p.short).map Text.ofString).getD style

/-- The pattern of times that a style names; anything else is a pattern itself. -/
def timePattern (c : Culture) (style : Text) : Text :=
  let p := c.conventions.times
  ((styled? style p.full p.long p.medium p.short).map Text.ofString).getD style

/-- A date. -/
def date (c : Culture) (style : Text) (d : Date) : Except Obstacle Text :=
  c.temporalAs (c.datePattern style) (.date d)

/-- A time of day. -/
def time (c : Culture) (style : Text) (t : TimeOfDay) (on : Option Date) : Except Obstacle Text :=
  c.temporalAs (c.timePattern style) (.time t on)

/-- A moment: a date and a time put together, if a style is named. -/
def moment (c : Culture) (style : Text) (m : Moment) : Except Obstacle Text :=
  let p := c.conventions.moments
  match styled? style p.full p.long p.medium p.short with
  | none => c.temporalAs style (.moment m)
  | some glue => do
    let glue := Text.replace glue "'" ""
    let time ← c.time style m.time (some m.date)
    let t := glue.replace "\x7b0\x7d" time
    return t.replace "\x7b1\x7d" (← c.date style m.date)

/-- A moment by the fields that a skeleton asks for. -/
def momentBySkeleton (c : Culture) (skeleton : Text) (m : Moment) : Except Obstacle Text :=
  match Skeleton.pattern? c.conventions.skeletonPatterns skeleton with
  | some pattern => c.temporalAs pattern (.moment m)
  | none => .error .key

end Culture

end Phrasebook
