import Phrasebook.Calendar.Basic
import Phrasebook.Number.Digits

/-!
# ISO 8601 texts

Reading dates, times of day and moments. A date is written by year, month and day or by year, week and
weekday (Monday where it is missing), with or without hyphens. Any one code point separates it from
the time of day: hours, perhaps minutes and seconds, with or without colons, perhaps a fraction after
a point or a comma, of which six digits count, and perhaps an offset or a `Z`.

The places where a shape of the date is recognised are fixed, so a reader of a part always knows what
text it works on; past its end it sees the code point zero.
-/

namespace Phrasebook.Iso

/-- The code point at a place, zero past the end. -/
def pointAt (t : Text) (i : Nat) : CodePoint := t.getD i default

/-- The number that the first `n` code points write, and what follows them. -/
def digits? (n : Nat) (t : Text) : Option (Nat × Text) :=
  let run := t.take n
  if run.length = n ∧ run.all CodePoint.isAsciiDigit then some (asciiNumber run, t.drop n) else none

/-- Hours, minutes, seconds and microseconds. -/
structure Clock where
  hour : Nat
  minute : Nat
  second : Nat
  microsecond : Nat

/-- The digits of a fraction of a second, of which at most six count; what follows all digits. -/
def fraction? (t : Text) (stop : Nat) : Option (Nat × Text) := do
  let count := min 6 (t.length - stop)
  let (n, rest) ← digits? count t
  return (n * powerOfTen (6 - count), rest.dropWhile CodePoint.isAsciiDigit)

/-- The clock at the start of `t`, up to where `stop` code points are left, and whether something
unread stands at the place that was reached. One unread code point is let pass there, if it is a single
byte. -/
def clock? (t : Text) (stop : Nat) : Option (Clock × Bool) := do
  let unread (c : CodePoint) : Bool := c.val ≠ 0
  let ended (t : Text) : Bool := (pointAt t 0).val < 0x80 && (t.drop 1).length ≤ stop
  let fraction (hour minute second : Nat) (t : Text) : Option (Clock × Bool) := do
    let (n, rest) ← fraction? t stop
    return (⟨hour, minute, second, n⟩, unread (pointAt rest 0))
  let isMark (c : CodePoint) : Bool := c = '.' || c = ','
  let (hour, t) ← digits? 2 t
  let c := pointAt t 0
  let colons := decide (c = ':')
  if ended t then return (⟨hour, 0, 0, 0⟩, unread c)
  if !colons && isMark c then fraction hour 0 0 (t.drop 1)
  else
    let (minute, t) ← digits? 2 (if colons then t.drop 1 else t)
    let c := pointAt t 0
    if ended t then return (⟨hour, minute, 0, 0⟩, unread c)
    if isMark c then fraction hour minute 0 (t.drop 1)
    else if colons && decide (c ≠ ':') then none
    else
      let (second, t) ← digits? 2 (if colons then t.drop 1 else t)
      let c := pointAt t 0
      if ended t then return (⟨hour, minute, second, 0⟩, unread c)
      if isMark c || (colons && decide (c = ':')) then fraction hour minute second (t.drop 1)
      else if colons then none
      else fraction hour minute second t

/-- An offset in microseconds from its sign and its clock. Without whole seconds it is none at all, and
it has to stay below a day. -/
def offset? (negative : Bool) (c : Clock) : Option Int :=
  let seconds := c.hour * 3600 + c.minute * 60 + c.second
  if seconds = 0 then some 0
  else
    let n := seconds * 1000000 + c.microsecond
    if n ≥ 86400000000 then none else some (if negative then -(n : Int) else n)

/-- A time of day, perhaps with an offset. -/
def time? (t : Text) : Option TimeOfDay := do
  let isZone (c : CodePoint) : Bool := c = '+' || c = '-' || c = 'Z'
  let body := t.takeWhile fun c => !isZone c
  let zone := t.drop body.length
  if t.isEmpty then none
  let (c, unread) ← clock? t zone.length
  let make (offset : Option Int) : Option TimeOfDay :=
    TimeOfDay.ofParts? c.hour c.minute c.second c.microsecond offset
  match zone with
  | [] => if unread then none else make none
  | sign :: rest =>
    if sign = 'Z' then if rest.isEmpty then make (some 0) else none
    else
      let (z, unread) ← clock? rest 0
      if unread then none
      let offset ← offset? (sign = '-') z
      make (some offset)

/-- A time of day, perhaps after the letter `T`. -/
def timeOfDay? (t : Text) : Option TimeOfDay :=
  match t with
  | [] => none
  | c :: rest => if c = 'T' then time? rest else time? t

/-- A date in one of its four shapes. -/
def date? (t : Text) : Option Date := do
  let (year, rest) ← digits? 4 t
  let hyphens := decide (pointAt rest 0 = '-')
  let rest := if hyphens then rest.drop 1 else rest
  if pointAt rest 0 = 'W' then
    let (week, rest) ← digits? 2 (rest.drop 1)
    match rest with
    | [] => Date.ofWeek? year week 1
    | c :: after =>
      if hyphens && decide (c ≠ '-') then none
      else
        let (weekday, _) ← digits? 1 (if hyphens then after else rest)
        Date.ofWeek? year week weekday
  else
    let (month, rest) ← digits? 2 rest
    if hyphens && decide (pointAt rest 0 ≠ '-') then none
    let (day, _) ← digits? 2 (if hyphens then rest.drop 1 else rest)
    Date.ofParts? year month day

/-- How many code points the date at the start of a text has, judged by its fourth and fifth. -/
def dateLength (t : Text) : Nat :=
  if t.length = 7 then 7
  else if pointAt t 4 = '-' then
    if pointAt t 5 = 'W' then
      if pointAt t 8 = '-' then if (pointAt t 10).isAsciiDigit then 8 else 10 else 8
    else 10
  else if pointAt t 4 = 'W' then
    let stop := 7 + ((t.drop 7).takeWhile CodePoint.isAsciiDigit).length
    if stop < 9 then stop else if stop % 2 = 0 then 7 else 8
  else 8

/-- A moment: a date, perhaps followed by a separator and a time of day. -/
def moment? (t : Text) : Option Moment := do
  if t.length < 7 then none
  let n := dateLength t
  let date ← date? (t.take n)
  match t.drop n with
  | [] => return ⟨date, .midnight⟩
  | _ :: rest =>
    let time ← time? rest
    return ⟨date, time⟩

end Phrasebook.Iso
