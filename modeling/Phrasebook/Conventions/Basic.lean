/-!
# Conventions

How numbers, dates and times are written in a locale. The values are those of the Common Locale Data
Repository; what a field has as its default is what holds where a language lays down nothing else.

Lists of names and of symbols are kept as one string with bars between the items. An item with a key
has the key first and a space after it. Blocks of such items are kept in a list where later blocks only
count for keys that no earlier block has.
-/

namespace Phrasebook

/-- The signs that numbers are written with. -/
structure NumberSymbols where
  decimal : String := "."
  group : String := ","
  plus : String := "+"
  minus : String := "-"
  exponential : String := "E"
  infinity : String := "∞"

/-- The patterns of numbers. -/
structure NumberPatterns where
  decimal : String := "#,##0.###"
  percent : String := "#,##0%"
  currency : String := "¤\u00a0#,##0.00"
  scientific : String := "#E0"

/-- The patterns of numbers in few words. Each line has a plural category and then the patterns for
thousands, ten thousands and so on. -/
structure CompactPatterns where
  short : String := "other|0K|00K|000K|0M|00M|000M|0G|00G|000G|0T|00T|000T"
  /-- Empty where a language has no long forms. -/
  long : String := ""
  currency : String := "other|¤\u00a00K|¤\u00a000K|¤\u00a0000K|¤\u00a00M|¤\u00a000M|¤\u00a0000M|¤\u00a00G|¤\u00a000G|¤\u00a0000G|¤\u00a00T|¤\u00a000T|¤\u00a0000T"

/-- Names in four lengths. -/
structure Widths where
  wide : String
  abbreviated : String := wide
  short : String := abbreviated
  narrow : String := abbreviated

/-- Names as they stand in a date, and as they stand alone. -/
structure Names where
  format : Widths
  standAlone : Widths := format

/-- The patterns of dates. -/
structure DatePatterns where
  full : String := "y MMMM d, EEEE"
  long : String := "y MMMM d"
  medium : String := "y MMM d"
  short : String := "y-MM-dd"

/-- The patterns of times. -/
structure TimePatterns where
  full : String := "HH:mm:ss zzzz"
  long : String := "HH:mm:ss z"
  medium : String := "HH:mm:ss"
  short : String := "HH:mm"

/-- How a date and a time are put together: `1` between braces stands for the date, `0` for the
time. -/
structure MomentPatterns where
  full : String := "\x7b1\x7d \x7b0\x7d"
  long : String := "\x7b1\x7d \x7b0\x7d"
  medium : String := "\x7b1\x7d \x7b0\x7d"
  short : String := "\x7b1\x7d \x7b0\x7d"

/-- How zones are told. -/
structure ZonePatterns where
  /-- A distance from universal time. -/
  offset : String := "GMT\x7b0\x7d"
  /-- The time of a place. -/
  place : String := "\x7b0\x7d"
  /-- A place, `0`, within a region, `1`. -/
  placeInRegion : String := "\x7b1\x7d (\x7b0\x7d)"
  unknownRegion : String := "ZZ"
  /-- The long name of universal time; empty if it has none. -/
  utcLong : String := ""
  /-- The short name of universal time. -/
  utcShort : String := "UTC"

namespace Conventions

/-- The signs of currencies where a language has no other. -/
def rootCurrencies : List String :=
  ["AUD A$|BRL R$|CAD CA$|CNY CN¥|EUR €|GBP £|HKD HK$|ILS ₪|INR ₹|JPY JP¥|KRW ₩|MXN MX$|NZD NZ$|PHP ₱|TWD NT$|USD US$|VND ₫|XAF FCFA|XCD EC$|XCG Cg.|XOF F\u202fCFA|XPF CFPF|XXX ¤"]

/-- The names of the months where a language has none. -/
def rootMonths : Names where
  format := { wide := "M01|M02|M03|M04|M05|M06|M07|M08|M09|M10|M11|M12", narrow := "1|2|3|4|5|6|7|8|9|10|11|12" }

/-- The names of the days where a language has none. -/
def rootWeekdays : Names where
  format := { wide := "Mon|Tue|Wed|Thu|Fri|Sat|Sun", narrow := "M|T|W|T|F|S|S" }

/-- The names of the quarters where a language has none. -/
def rootQuarters : Names where
  format := { wide := "Q1|Q2|Q3|Q4", narrow := "1|2|3|4" }

/-- Patterns by the fields that they show, where a language has no other. -/
def rootSkeletons : List String :=
  ["Bh h B
Bhm h:mm B
Bhms h:mm:ss B
E ccc
EBh E h B
EBhm E h:mm B
EBhms E h:mm:ss B
EHm E HH:mm
EHms E HH:mm:ss
Ed d, E
Eh E h\u202fa
Ehm E h:mm a
Ehms E h:mm:ss a
Gy G y
GyM G y-MM
GyMEd G y-MM-dd, E
GyMMM G y MMM
GyMMMEd G y MMM d, E
GyMMMd G y MMM d
GyMd G y-MM-dd
H HH
Hm HH:mm
Hms HH:mm:ss
Hmsv HH:mm:ss v
Hmv HH:mm v
Hv HH'h' v
M L
MEd MM-dd, E
MMM LLL
MMMEd MMM d, E
MMMMW 'week' W 'of' MMMM
MMMMd MMMM d
MMMd MMM d
Md MM-dd
d d
h h\u202fa
hm h:mm a
hms h:mm:ss a
hmsv h:mm:ss a v
hmv h:mm a v
hv h\u202fa v
ms mm:ss
y y
yM y-MM
yMEd y-MM-dd, E
yMMM y MMM
yMMMEd y MMM d, E
yMMMM y MMMM
yMMMd y MMM d
yMd y-MM-dd
yQQQ y QQQ
yQQQQ y QQQQ
yw 'week' w 'of' Y"]

end Conventions

/-- The conventions of a locale. -/
structure Conventions where
  symbols : NumberSymbols := {}
  numbers : NumberPatterns := {}
  compact : CompactPatterns := {}
  /-- The signs of currencies by code. -/
  currencies : List String := Conventions.rootCurrencies
  /-- The rules of the plural categories but the last, `other`. -/
  plurals : String := ""
  months : Names := Conventions.rootMonths
  /-- The days from Monday to Sunday. -/
  weekdays : Names := Conventions.rootWeekdays
  quarters : Names := Conventions.rootQuarters
  /-- The era before year one and the era from then on. -/
  eras : Widths := { wide := "BCE|CE" }
  dayPeriods : Names := { format := { wide := "am AM|pm PM" } }
  /-- The parts of the day: at one second of the day, or from one to before another. -/
  dayPeriodRules : String := "am 0 43200|pm 43200 86400"
  dates : DatePatterns := {}
  times : TimePatterns := {}
  moments : MomentPatterns := {}
  /-- Patterns by the fields that they show, one a line. -/
  skeletons : List String := Conventions.rootSkeletons
  zones : ZonePatterns := {}

end Phrasebook
