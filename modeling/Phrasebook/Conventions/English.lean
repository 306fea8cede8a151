import Phrasebook.Conventions.Basic

/-!
# Conventions of English
-/

namespace Phrasebook.ConventionsOf

/-- English. -/
def en : Conventions where
  numbers :=
    { currency := "¤#,##0.00" }
  compact :=
    { short := "other|0K|00K|000K|0M|00M|000M|0B|00B|000B|0T|00T|000T"
      long := "other|0 thousand|00 thousand|000 thousand|0 million|00 million|000 million|0 billion|00 billion|000 billion|0 trillion|00 trillion|000 trillion"
      currency := "other|¤0K|¤00K|¤000K|¤0M|¤00M|¤000M|¤0B|¤00B|¤000B|¤0T|¤00T|¤000T" }
  currencies := "JPY ¥|USD $" :: Conventions.rootCurrencies
  plurals := "one i = 1 and v = 0"
  months :=
    { format :=
        { wide := "January|February|March|April|May|June|July|August|September|October|November|December"
          abbreviated := "Jan|Feb|Mar|Apr|May|Jun|Jul|Aug|Sep|Oct|Nov|Dec"
          narrow := "J|F|M|A|M|J|J|A|S|O|N|D" } }
  weekdays :=
    { format :=
        { wide := "Monday|Tuesday|Wednesday|Thursday|Friday|Saturday|Sunday"
          abbreviated := "Mon|Tue|Wed|Thu|Fri|Sat|Sun"
          short := "Mo|Tu|We|Th|Fr|Sa|Su"
          narrow := "M|T|W|T|F|S|S" } }
  quarters :=
    { format :=
        { wide := "1st quarter|2nd quarter|3rd quarter|4th quarter"
          abbreviated := "Q1|Q2|Q3|Q4"
          narrow := "1|2|3|4" } }
  eras :=
    { wide := "Before Christ|Anno Domini"
      abbreviated := "BC|AD"
      narrow := "B|A" }
  dayPeriods :=
    { format :=
        { wide := "am AM|pm PM|afternoon1 in the afternoon|evening1 in the evening|midnight midnight|morning1 in the morning|night1 at night|noon noon"
          narrow := "am a|pm p|afternoon1 in the afternoon|evening1 in the evening|midnight mi|morning1 in the morning|night1 at night|noon n" }
      standAlone :=
        { wide := "am AM|pm PM|afternoon1 afternoon|evening1 evening|midnight midnight|morning1 morning|night1 night|noon noon" } }
  dayPeriodRules := "midnight 0|noon 43200|morning1 21600 43200|afternoon1 43200 64800|evening1 64800 75600|night1 75600 21600"
  dates :=
    { full := "EEEE, MMMM d, y"
      long := "MMMM d, y"
      medium := "MMM d, y"
      short := "M/d/yy" }
  times :=
    { full := "h:mm:ss\u202fa zzzz"
      long := "h:mm:ss\u202fa z"
      medium := "h:mm:ss\u202fa"
      short := "h:mm\u202fa" }
  moments :=
    { full := "\x7b1\x7d, \x7b0\x7d"
      long := "\x7b1\x7d, \x7b0\x7d"
      medium := "\x7b1\x7d, \x7b0\x7d"
      short := "\x7b1\x7d, \x7b0\x7d" }
  skeletons := "Ed d E
Eh E h a
Gy y G
GyM M/y G
GyMEd E, M/d/y G
GyMMM MMM y G
GyMMMEd E, MMM d, y G
GyMMMd MMM d, y G
GyMd M/d/y G
MEd E, M/d
MMMEd E, MMM d
Md M/d
h h a
hv h a v
yM M/y
yMEd E, M/d/y
yMMM MMM y
yMMMEd E, MMM d, y
yMMMM MMMM y
yMMMd MMM d, y
yMd M/d/y
yQQQ QQQ y
yQQQQ QQQQ y" :: Conventions.rootSkeletons
  zones :=
    { place := "\x7b0\x7d Time"
      unknownRegion := "Unknown Region"
      utcLong := "Coordinated Universal Time" }

/-- English (Deseret script). -/
def enDsrt : Conventions where
  plurals := "one i = 1 and v = 0"
  dayPeriodRules := "midnight 0|noon 43200|morning1 21600 43200|afternoon1 43200 64800|evening1 64800 75600|night1 75600 21600"
  skeletons := "Eh E h a
h h a
hv h a v" :: Conventions.rootSkeletons

/-- English (Shavian script). -/
def enShaw : Conventions where
  plurals := "one i = 1 and v = 0"
  dayPeriodRules := "midnight 0|noon 43200|morning1 21600 43200|afternoon1 43200 64800|evening1 64800 75600|night1 75600 21600"
  skeletons := "Eh E h a
h h a
hv h a v" :: Conventions.rootSkeletons

/-- English (world). -/
def en001 : Conventions :=
  { en with
    currencies := "JPY JP¥|USD US$" :: en.currencies
    months :=
      { en.months with
        format :=
          { en.months.format with
            abbreviated := "Jan|Feb|Mar|Apr|May|Jun|Jul|Aug|Sept|Oct|Nov|Dec" }
        standAlone :=
          { en.months.standAlone with
            abbreviated := "Jan|Feb|Mar|Apr|May|Jun|Jul|Aug|Sept|Oct|Nov|Dec" } }
    dayPeriods :=
      { format :=
          { wide := "am am|pm pm|afternoon1 in the afternoon|evening1 in the evening|midnight midnight|morning1 in the morning|night1 at night|noon noon"
            narrow := "am a|pm p|afternoon1 in the afternoon|evening1 in the evening|midnight mi|morning1 in the morning|night1 at night|noon n" }
        standAlone :=
          { wide := "am am|pm pm|afternoon1 afternoon|evening1 evening|midnight midnight|morning1 morning|night1 night|noon noon" } }
    dates :=
      { en.dates with
        full := "EEEE, d MMMM y"
        long := "d MMMM y"
        medium := "d MMM y"
        short := "dd/MM/y" }
    skeletons := "Ed E d
GyMEd E, dd/MM/y G
GyMMMEd E, d MMM y G
GyMMMd d MMM y G
GyMd dd/MM/y G
MEd E, dd/MM
MMMEd E, d MMM
MMMMd d MMMM
MMMd d MMM
MMdd dd/MM
Md dd/MM
yM MM/y
yMEd E, dd/MM/y
yMMMEd E, d MMM y
yMMMd d MMM y
yMd dd/MM/y" :: en.skeletons }

/-- English (United Arab Emirates). -/
def enAE : Conventions :=
  { en with
    dates :=
      { en.dates with
        full := "EEEE, d MMMM y"
        long := "d MMMM y"
        medium := "d MMM y"
        short := "dd/MM/y" }
    skeletons := "EBhm E, h:mm B
EBhms E, h:mm:ss B
Ed E d
GyMMMEd E, d MMM y G
GyMMMd d MMM y G
MEd E, dd/MM
MMMEd E, d MMM
MMMMd d MMMM
MMMd d MMM
MMdd dd/MM
Md dd/MM
yM MM/y
yMEd E, dd/MM/y
yMMMEd E, d MMM y
yMMMd d MMM y
yMd dd/MM/y" :: en.skeletons }

/-- English (Burundi). -/
def enBI : Conventions :=
  { en with
    currencies := "BIF FBu" :: en.currencies
    times :=
      { en.times with
        full := "HH:mm:ss zzzz"
        long := "HH:mm:ss z"
        medium := "HH:mm:ss"
        short := "HH:mm" } }

/-- English (Canada). -/
def enCA : Conventions :=
  { en with
    currencies := "CAD $|JPY JP¥|USD US$|XCG Cg" :: en.currencies
    dayPeriods :=
      { format :=
          { wide := "am a.m.|pm p.m.|afternoon1 in the afternoon|evening1 in the evening|midnight midnight|morning1 in the morning|night1 at night|noon noon"
            narrow := "am am|pm pm|afternoon1 aft|evening1 eve|midnight mid|morning1 mor|night1 night|noon n" }
        standAlone :=
          { wide := "am a.m.|pm p.m.|afternoon1 afternoon|evening1 evening|midnight midnight|morning1 morning|night1 night|noon noon"
            narrow := "am am|pm pm|afternoon1 aft|evening1 eve|midnight mid|morning1 mor|night1 night|noon noon" } }
    dates :=
      { en.dates with
        short := "y-MM-dd" }
    skeletons := "Ed E d
MEd E, MM-dd
MMdd MM-dd
Md MM-dd
yM y-MM
yMEd E, y-MM-dd
yMd y-MM-dd" :: en.skeletons }

/-- English (Europe). -/
def en150 : Conventions :=
  { en001 with
    numbers :=
      { en001.numbers with
        currency := "#,##0.00\u00a0¤" }
    times :=
      { en001.times with
        full := "HH:mm:ss zzzz"
        long := "HH:mm:ss z"
        medium := "HH:mm:ss"
        short := "HH:mm" } }

/-- English (Antigua & Barbuda). -/
def enAG : Conventions :=
  { en001 with
    currencies := "XCD $" :: en001.currencies }

/-- English (Anguilla). -/
def enAI : Conventions :=
  { en001 with
    currencies := "XCD $" :: en001.currencies
    times :=
      { en001.times with
        full := "HH:mm:ss zzzz"
        long := "HH:mm:ss z"
        medium := "HH:mm:ss"
        short := "HH:mm" } }

/-- English (Australia). -/
def enAU : Conventions :=
  { en001 with
    symbols :=
      { en001.symbols with
        exponential := "e" }
    currencies := "AUD $|BRL BRL|CAD CAD|CNY CNY|EUR EUR|GBP GBP|HKD HKD|ILS ILS|INR INR|JPY JPY|KRW KRW|MXN MXN|NZD NZD|PHP PHP|SCR Rs|TWD TWD|USD USD|VND VND|XAF XAF|XCD XCD|XOF XOF|XPF CFP" :: en001.currencies
    months :=
      { en001.months with
        format :=
          { en001.months.format with
            abbreviated := "Jan|Feb|Mar|Apr|May|June|July|Aug|Sept|Oct|Nov|Dec" } }
    weekdays :=
      { en001.weekdays with
        format :=
          { en001.weekdays.format with
            narrow := "M.|Tu.|W.|Th.|F.|Sa.|Su." } }
    dayPeriods :=
      { format :=
          { wide := "am am|pm pm|afternoon1 in the afternoon|evening1 in the evening|midnight midnight|morning1 in the morning|night1 at night|noon midday" }
        standAlone :=
          { wide := "am am|pm pm|afternoon1 afternoon|evening1 evening|midnight midnight|morning1 morning|night1 night|noon midday" } }
    dates :=
      { en001.dates with
        short := "d/M/yy" }
    skeletons := "GyMMMEEEEd EEEE d MMM y G
MEd E, d/M
MMMEEEEd EEEE d MMM
MMMMEEEEd EEEE d MMMM
Md d/M
yMMMEEEEd EEEE d MMM y
yMMMMEEEEd EEEE d MMMM y" :: en001.skeletons }

/-- English (Barbados). -/
def enBB : Conventions :=
  { en001 with
    currencies := "BBD $" :: en001.currencies }

/-- English (Bermuda). -/
def enBM : Conventions :=
  { en001 with
    currencies := "BMD $" :: en001.currencies }

/-- English (Bahamas). -/
def enBS : Conventions :=
  { en001 with
    currencies := "BSD $" :: en001.currencies }

/-- English (Botswana). -/
def enBW : Conventions :=
  { en001 with
    currencies := "BWP P" :: en001.currencies
    dates :=
      { en001.dates with
        full := "EEEE, dd MMMM y"
        long := "dd MMMM y"
        medium := "dd MMM y"
        short := "dd/MM/yy" }
    times :=
      { en001.times with
        full := "HH:mm:ss zzzz"
        long := "HH:mm:ss z"
        medium := "HH:mm:ss"
        short := "HH:mm" }
    skeletons := "GyMMMEd E, dd MMM y G
GyMMMd dd MMM y G
MMMEd E, dd MMM
MMMd dd MMM
yMMMEd E, dd MMM y
yMMMd dd MMM y" :: en001.skeletons }

/-- English (Belize). -/
def enBZ : Conventions :=
  { en001 with
    currencies := "BZD $" :: en001.currencies
    dates :=
      { en001.dates with
        full := "EEEE, dd MMMM y"
        long := "dd MMMM y"
        medium := "dd-MMM-y"
        short := "dd/MM/yy" }
    times :=
      { en001.times with
        full := "HH:mm:ss zzzz"
        long := "HH:mm:ss z"
        medium := "HH:mm:ss"
        short := "HH:mm" }
    skeletons := "MMMEd E, dd MMM
MMMd dd MMM
yMMMEd E, dd MMM y
yMMMd dd MMM y" :: en001.skeletons }

/-- English (Cocos (Keeling) Islands). -/
def enCC : Conventions :=
  { en001 with
    currencies := "AUD $" :: en001.currencies
    times :=
      { en001.times with
        full := "HH:mm:ss zzzz"
        long := "HH:mm:ss z"
        medium := "HH:mm:ss"
        short := "HH:mm" } }

/-- English (Cook Islands). -/
def enCK : Conventions :=
  { en001 with
    currencies := "NZD $" :: en001.currencies
    times :=
      { en001.times with
        full := "HH:mm:ss zzzz"
        long := "HH:mm:ss z"
        medium := "HH:mm:ss"
        short := "HH:mm" } }

/-- English (Cameroon). -/
def enCM : Conventions :=
  { en001 with
    times :=
      { en001.times with
        full := "HH:mm:ss zzzz"
        long := "HH:mm:ss z"
        medium := "HH:mm:ss"
        short := "HH:mm" } }

/-- English (Christmas Island). -/
def enCX : Conventions :=
  { en001 with
    currencies := "AUD $" :: en001.currencies
    times :=
      { en001.times with
        full := "HH:mm:ss zzzz"
        long := "HH:mm:ss z"
        medium := "HH:mm:ss"
        short := "HH:mm" } }

/-- English (Diego Garcia). -/
def enDG : Conventions :=
  { en001 with
    times :=
      { en001.times with
        full := "HH:mm:ss zzzz"
        long := "HH:mm:ss z"
        medium := "HH:mm:ss"
        short := "HH:mm" } }

/-- English (Dominica). -/
def enDM : Conventions :=
  { en001 with
    currencies := "XCD $" :: en001.currencies }

/-- English (Eritrea). -/
def enER : Conventions :=
  { en001 with
    currencies := "ERN Nfk" :: en001.currencies }

/-- English (Fiji). -/
def enFJ : Conventions :=
  { en001 with
    currencies := "FJD $" :: en001.currencies }

/-- English (Falkland Islands). -/
def enFK : Conventions :=
  { en001 with
    currencies := "FKP £|GBP GB£" :: en001.currencies
    times :=
      { en001.times with
        full := "HH:mm:ss zzzz"
        long := "HH:mm:ss z"
        medium := "HH:mm:ss"
        short := "HH:mm" } }

/-- English (United Kingdom). -/
def enGB : Conventions :=
  { en001 with
    compact :=
      { en001.compact with
        short := "other|0k|00k|000k|0m|00m|000m|0bn|00bn|000bn|0tn|00tn|000tn"
        currency := "other|¤0k|¤00k|¤000k|¤0m|¤00m|¤000m|¤0bn|¤00bn|¤000bn|¤0tn|¤00tn|¤000tn" }
    times :=
      { en001.times with
        full := "HH:mm:ss zzzz"
        long := "HH:mm:ss z"
        medium := "HH:mm:ss"
        short := "HH:mm" }
    skeletons := "GyMEd E, d/M/y G
GyMMMEEEEd EEEE, d MMM y G
MEd E dd/MM
MMMEEEEd EEEE d MMM
MMMEd E d MMM
MMMMEEEEd EEEE d MMMM
yMMMEEEEd EEEE, d MMM y
yMMMMEEEEd EEEE, d MMMM y" :: en001.skeletons }

/-- English (Grenada). -/
def enGD : Conventions :=
  { en001 with
    currencies := "XCD $" :: en001.currencies }

/-- English (Guernsey). -/
def enGG : Conventions :=
  { en001 with
    times :=
      { en001.times with
        full := "HH:mm:ss zzzz"
        long := "HH:mm:ss z"
        medium := "HH:mm:ss"
        short := "HH:mm" } }

/-- English (Ghana). -/
def enGH : Conventions :=
  { en001 with
    currencies := "GHS GH₵" :: en001.currencies }

/-- English (Gibraltar). -/
def enGI : Conventions :=
  { en001 with
    currencies := "GBP GB£|GIP £" :: en001.currencies
    times :=
      { en001.times with
        full := "HH:mm:ss zzzz"
        long := "HH:mm:ss z"
        medium := "HH:mm:ss"
        short := "HH:mm" } }

/-- English (Gambia). -/
def enGM : Conventions :=
  { en001 with
    currencies := "GMD D" :: en001.currencies }

/-- English (South Georgia & South Sandwich Islands). -/
def enGS : Conventions :=
  { en001 with
    times :=
      { en001.times with
        full := "HH:mm:ss zzzz"
        long := "HH:mm:ss z"
        medium := "HH:mm:ss"
        short := "HH:mm" } }

/-- English (Guyana). -/
def enGY : Conventions :=
  { en001 with
    currencies := "GYD $" :: en001.currencies }

/-- English (Hong Kong SAR China). -/
def enHK : Conventions :=
  { en001 with
    dates :=
      { en001.dates with
        short := "d/M/y" }
    skeletons := "MMMMEd E, d MMMM
yMd d/M/y" :: en001.skeletons }

/-- English (Indonesia). -/
def enID : Conventions :=
  { en001 with
    symbols :=
      { en001.symbols with
        decimal := ","
        group := "." }
    currencies := "IDR Rp" :: en001.currencies
    times :=
      { en001.times with
        full := "HH.mm.ss zzzz"
        long := "HH.mm.ss z"
        medium := "HH.mm.ss"
        short := "HH.mm" }
    skeletons := "Bhm h.mm B
Bhms h.mm.ss B
EBhm E h.mm B
EBhms E h.mm.ss B
EHm E HH.mm
EHms E HH.mm.ss
Ehm E h.mm a
Ehms E h.mm.ss a
Hm HH.mm
Hms HH.mm.ss
Hmsv HH.mm.ss v
Hmv HH.mm v
hm h.mm a
hms h.mm.ss a
hmsv h.mm.ss. a v
hmv h.mm a v
ms mm.ss" :: en001.skeletons }

/-- English (Ireland). -/
def enIE : Conventions :=
  { en001 with
    dayPeriods :=
      { en001.dayPeriods with
        format :=
          { en001.dayPeriods.format with
            wide := "am a.m.|pm p.m.|afternoon1 in the afternoon|evening1 in the evening|midnight midnight|morning1 in the morning|night1 at night|noon noon" } }
    dates :=
      { en001.dates with
        full := "EEEE d MMMM y" }
    times :=
      { en001.times with
        full := "HH:mm:ss zzzz"
        long := "HH:mm:ss z"
        medium := "HH:mm:ss"
        short := "HH:mm" }
    skeletons := "MEd E, d/M
Md d/M
yMEd E, d/M/y
yMMMEd E d MMM y
yMd d/M/y" :: en001.skeletons }

/-- English (Israel). -/
def enIL : Conventions :=
  { en001 with
    times :=
      { en001.times with
        full := "H:mm:ss zzzz"
        long := "H:mm:ss z"
        medium := "H:mm:ss"
        short := "H:mm" }
    skeletons := "EHm E H:mm
EHms E H:mm:ss
H H
Hm H:mm
Hms H:mm:ss" :: en001.skeletons }

/-- English (Isle of Man). -/
def enIM : Conventions :=
  { en001 with
    times :=
      { en001.times with
        full := "HH:mm:ss zzzz"
        long := "HH:mm:ss z"
        medium := "HH:mm:ss"
        short := "HH:mm" } }

/-- English (India). -/
def enIN : Conventions :=
  { en001 with
    numbers :=
      { en001.numbers with
        decimal := "#,##,##0.###"
        percent := "#,##,##0%"
        currency := "¤#,##,##0.00" }
    compact :=
      { en001.compact with
        short := "other|0K|00K|0L|00L|0Cr|00Cr|000Cr|0KCr|00KCr|0LCr|00LCr|000LCr"
        long := "other|0 thousand|00 thousand|0\u202flakh|00\u202flakh|0\u202fcrore|00\u202fcrore|000\u202fcrore|0000\u202fcrore|00000\u202fcrore|0\u202flakh\u202fcrore|00\u202flakh\u202fcrore|000\u202flakh\u202fcrore"
        currency := "other|¤0K|¤00K|¤0L|¤00L|¤0Cr|¤00Cr|¤000Cr|¤0KCr|¤00KCr|¤0LCr|¤00LCr|¤000LCr" }
    currencies := "USD $" :: en001.currencies
    dates :=
      { en001.dates with
        short := "dd/MM/yy" }
    skeletons := "EBhm E, h:mm B
EBhms E, h:mm:ss B
EHm E, HH:mm
EHms E, HH:mm:ss
Ehm E, h:mm a
Ehms E, h:mm:ss a
GyMMMEEEEd EEEE, d MMM y G
MMMEEEEd EEEE, d MMM
MMMMEEEEd EEEE, d MMMM
yMEd E, d/M/y
yMMMEEEEd EEEE, d MMM y
yMMMEd E, d MMM, y
yMMMMEEEEd EEEE, d MMMM y
yMd d/M/y" :: en001.skeletons }

/-- English (British Indian Ocean Territory). -/
def enIO : Conventions :=
  { en001 with
    times :=
      { en001.times with
        full := "HH:mm:ss zzzz"
        long := "HH:mm:ss z"
        medium := "HH:mm:ss"
        short := "HH:mm" } }

/-- English (Jersey). -/
def enJE : Conventions :=
  { en001 with
    times :=
      { en001.times with
        full := "HH:mm:ss zzzz"
        long := "HH:mm:ss z"
        medium := "HH:mm:ss"
        short := "HH:mm" } }

/-- English (Jamaica). -/
def enJM : Conventions :=
  { en001 with
    currencies := "JMD $" :: en001.currencies }

/-- English (Kenya). -/
def enKE : Conventions :=
  { en001 with
    currencies := "KES Ksh" :: en001.currencies
    times :=
      { en001.times with
        full := "HH:mm:ss zzzz"
        long := "HH:mm:ss z"
        medium := "HH:mm:ss"
        short := "HH:mm" } }

/-- English (Kiribati). -/
def enKI : Conventions :=
  { en001 with
    currencies := "AUD $" :: en001.currencies }

/-- English (St. Kitts & Nevis). -/
def enKN : Conventions :=
  { en001 with
    currencies := "XCD $" :: en001.currencies }

/-- English (Cayman Islands). -/
def enKY : Conventions :=
  { en001 with
    currencies := "KYD $" :: en001.currencies }

/-- English (St. Lucia). -/
def enLC : Conventions :=
  { en001 with
    currencies := "XCD $" :: en001.currencies }

/-- English (Liberia). -/
def enLR : Conventions :=
  { en001 with
    currencies := "LRD $" :: en001.currencies }

/-- English (Lesotho). -/
def enLS : Conventions :=
  { en001 with
    currencies := "ZAR R" :: en001.currencies }

/-- English (Madagascar). -/
def enMG : Conventions :=
  { en001 with
    currencies := "MGA Ar" :: en001.currencies
    times :=
      { en001.times with
        full := "HH:mm:ss zzzz"
        long := "HH:mm:ss z"
        medium := "HH:mm:ss"
        short := "HH:mm" } }

/-- English (Macao SAR China). -/
def enMO : Conventions :=
  { en001 with
    currencies := "MOP MOP$" :: en001.currencies }

/-- English (Montserrat). -/
def enMS : Conventions :=
  { en001 with
    currencies := "XCD $" :: en001.currencies
    times :=
      { en001.times with
        full := "HH:mm:ss zzzz"
        long := "HH:mm:ss z"
        medium := "HH:mm:ss"
        short := "HH:mm" } }

/-- English (Malta). -/
def enMT : Conventions :=
  { en001 with
    currencies := "GBP GB£" :: en001.currencies
    dates :=
      { en001.dates with
        long := "dd MMMM y"
        medium := "dd MMM y" }
    times :=
      { en001.times with
        full := "HH:mm:ss zzzz"
        long := "HH:mm:ss z"
        medium := "HH:mm:ss"
        short := "HH:mm" }
    skeletons := "MMMd dd MMM
yMMMEd E, dd MMM y
yMMMd dd MMM y" :: en001.skeletons }

/-- English (Mauritius). -/
def enMU : Conventions :=
  { en001 with
    currencies := "MUR Rs" :: en001.currencies
    times :=
      { en001.times with
        full := "HH:mm:ss zzzz"
        long := "HH:mm:ss z"
        medium := "HH:mm:ss"
        short := "HH:mm" } }

/-- English (Maldives). -/
def enMV : Conventions :=
  { en001 with
    numbers :=
      { en001.numbers with
        currency := "¤\u00a0#,##0.00" }
    currencies := "MVR Rf" :: en001.currencies
    dates :=
      { en001.dates with
        full := "EEEE d MMMM y"
        medium := "dd-MM-y"
        short := "d-M-yy" }
    times :=
      { en001.times with
        full := "HH:mm:ss zzzz"
        long := "HH:mm:ss z"
        medium := "HH:mm:ss"
        short := "HH:mm" }
    moments :=
      { en001.moments with
        full := "\x7b1\x7d \x7b0\x7d"
        long := "\x7b1\x7d \x7b0\x7d"
        medium := "\x7b1\x7d \x7b0\x7d"
        short := "\x7b1\x7d \x7b0\x7d" } }

/-- English (Malawi). -/
def enMW : Conventions :=
  { en001 with
    currencies := "MWK MK" :: en001.currencies }

/-- English (Malaysia). -/
def enMY : Conventions :=
  { en001 with
    currencies := "MYR RM" :: en001.currencies }

/-- English (Namibia). -/
def enNA : Conventions :=
  { en001 with
    currencies := "NAD $" :: en001.currencies }

/-- English (Norfolk Island). -/
def enNF : Conventions :=
  { en001 with
    currencies := "AUD $" :: en001.currencies
    times :=
      { en001.times with
        full := "HH:mm:ss zzzz"
        long := "HH:mm:ss z"
        medium := "HH:mm:ss"
        short := "HH:mm" } }

/-- English (Nigeria). -/
def enNG : Conventions :=
  { en001 with
    currencies := "NGN ₦" :: en001.currencies
    times :=
      { en001.times with
        full := "HH:mm:ss zzzz"
        long := "HH:mm:ss z"
        medium := "HH:mm:ss"
        short := "HH:mm" } }

/-- English (Nauru). -/
def enNR : Conventions :=
  { en001 with
    currencies := "AUD $" :: en001.currencies
    times :=
      { en001.times with
        full := "HH:mm:ss zzzz"
        long := "HH:mm:ss z"
        medium := "HH:mm:ss"
        short := "HH:mm" } }

/-- English (Niue). -/
def enNU : Conventions :=
  { en001 with
    currencies := "NZD $" :: en001.currencies
    times :=
      { en001.times with
        full := "HH:mm:ss zzzz"
        long := "HH:mm:ss z"
        medium := "HH:mm:ss"
        short := "HH:mm" } }

/-- English (New Zealand). -/
def enNZ : Conventions :=
  { en001 with
    currencies := "NZD $" :: en001.currencies
    skeletons := "Md d/M
yMd d/MM/y" :: en001.skeletons }

/-- English (Papua New Guinea). -/
def enPG : Conventions :=
  { en001 with
    currencies := "PGK K" :: en001.currencies }

/-- English (Pakistan). -/
def enPK : Conventions :=
  { en001 with
    currencies := "PKR Rs" :: en001.currencies
    dates :=
      { en001.dates with
        medium := "dd-MMM-y" } }

/-- English (Pitcairn Islands). -/
def enPN : Conventions :=
  { en001 with
    currencies := "NZD $" :: en001.currencies
    times :=
      { en001.times with
        full := "HH:mm:ss zzzz"
        long := "HH:mm:ss z"
        medium := "HH:mm:ss"
        short := "HH:mm" } }

/-- English (Rwanda). -/
def enRW : Conventions :=
  { en001 with
    currencies := "RWF RF" :: en001.currencies
    times :=
      { en001.times with
        full := "HH:mm:ss zzzz"
        long := "HH:mm:ss z"
        medium := "HH:mm:ss"
        short := "HH:mm" } }

/-- English (Solomon Islands). -/
def enSB : Conventions :=
  { en001 with
    currencies := "SBD $" :: en001.currencies }

/-- English (Seychelles). -/
def enSC : Conventions :=
  { en001 with
    currencies := "SCR SR" :: en001.currencies
    times :=
      { en001.times with
        full := "HH:mm:ss zzzz"
        long := "HH:mm:ss z"
        medium := "HH:mm:ss"
        short := "HH:mm" } }

/-- English (Singapore). -/
def enSG : Conventions :=
  { en001 with
    currencies := "SGD $" :: en001.currencies
    dates :=
      { en001.dates with
        short := "d/M/yy" } }

/-- English (St. Helena). -/
def enSH : Conventions :=
  { en001 with
    currencies := "GBP GB£|SHP £" :: en001.currencies
    times :=
      { en001.times with
        full := "HH:mm:ss zzzz"
        long := "HH:mm:ss z"
        medium := "HH:mm:ss"
        short := "HH:mm" } }

/-- English (Sierra Leone). -/
def enSL : Conventions :=
  { en001 with
    currencies := "SLE Le" :: en001.currencies }

/-- English (South Sudan). -/
def enSS : Conventions :=
  { en001 with
    currencies := "GBP GB£|SSP £" :: en001.currencies }

/-- English (Sint Maarten). -/
def enSX : Conventions :=
  { en001 with
    currencies := "ANG NAf." :: en001.currencies
    times :=
      { en001.times with
        full := "HH:mm:ss zzzz"
        long := "HH:mm:ss z"
        medium := "HH:mm:ss"
        short := "HH:mm" } }

/-- English (Eswatini). -/
def enSZ : Conventions :=
  { en001 with
    currencies := "SZL E" :: en001.currencies }

/-- English (Tokelau). -/
def enTK : Conventions :=
  { en001 with
    currencies := "NZD $" :: en001.currencies
    times :=
      { en001.times with
        full := "HH:mm:ss zzzz"
        long := "HH:mm:ss z"
        medium := "HH:mm:ss"
        short := "HH:mm" } }

/-- English (Tonga). -/
def enTO : Conventions :=
  { en001 with
    currencies := "TOP T$" :: en001.currencies }

/-- English (Trinidad & Tobago). -/
def enTT : Conventions :=
  { en001 with
    currencies := "TTD $" :: en001.currencies }

/-- English (Tuvalu). -/
def enTV : Conventions :=
  { en001 with
    currencies := "AUD $" :: en001.currencies
    times :=
      { en001.times with
        full := "HH:mm:ss zzzz"
        long := "HH:mm:ss z"
        medium := "HH:mm:ss"
        short := "HH:mm" } }

/-- English (Tanzania). -/
def enTZ : Conventions :=
  { en001 with
    currencies := "TZS TSh" :: en001.currencies
    times :=
      { en001.times with
        full := "HH:mm:ss zzzz"
        long := "HH:mm:ss z"
        medium := "HH:mm:ss"
        short := "HH:mm" } }

/-- English (Uganda). -/
def enUG : Conventions :=
  { en001 with
    currencies := "UGX USh" :: en001.currencies
    times :=
      { en001.times with
        full := "HH:mm:ss zzzz"
        long := "HH:mm:ss z"
        medium := "HH:mm:ss"
        short := "HH:mm" } }

/-- English (St. Vincent & Grenadines). -/
def enVC : Conventions :=
  { en001 with
    currencies := "XCD $" :: en001.currencies }

/-- English (Vanuatu). -/
def enVU : Conventions :=
  { en001 with
    currencies := "VUV VT" :: en001.currencies }

/-- English (Samoa). -/
def enWS : Conventions :=
  { en001 with
    currencies := "WST WS$" :: en001.currencies }

/-- English (South Africa). -/
def enZA : Conventions :=
  { en001 with
    symbols :=
      { en001.symbols with
        decimal := ","
        group := "\u00a0" }
    currencies := "ZAR R" :: en001.currencies
    dates :=
      { en001.dates with
        full := "EEEE, dd MMMM y"
        long := "dd MMMM y"
        medium := "dd MMM y"
        short := "y/MM/dd" }
    times :=
      { en001.times with
        full := "HH:mm:ss zzzz"
        long := "HH:mm:ss z"
        medium := "HH:mm:ss"
        short := "HH:mm" }
    skeletons := "MEd E, MM/dd
MMMEd E, dd MMM
MMMd dd MMM
Md MM/dd
yMEd E, y/MM/dd
yMMMEd E, dd MMM y
yMMMd dd MMM y
yMd y/MM/dd" :: en001.skeletons }

/-- English (Zambia). -/
def enZM : Conventions :=
  { en001 with
    currencies := "ZMW K" :: en001.currencies }

/-- English (Zimbabwe). -/
def enZW : Conventions :=
  { en001 with
    dates :=
      { en001.dates with
        full := "EEEE, dd MMMM y"
        long := "dd MMMM y"
        medium := "dd MMM,y"
        short := "d/M/y" }
    times :=
      { en001.times with
        full := "HH:mm:ss zzzz"
        long := "HH:mm:ss z"
        medium := "HH:mm:ss"
        short := "HH:mm" }
    skeletons := "MEd E, d/M
MMMEd E, dd MMM
MMMd dd MMM
Md d/M
yMEd E, d/M/y
yMMMEd E, dd MMM, y
yMMMd dd MMM, y
yMd d/M/y" :: en001.skeletons }

/-- English (Austria). -/
def enAT : Conventions :=
  { en150 with
    symbols :=
      { en150.symbols with
        decimal := ","
        group := "." }
    numbers :=
      { en150.numbers with
        percent := "#,##0\u00a0%"
        currency := "¤\u00a0#,##0.00" } }

/-- English (Belgium). -/
def enBE : Conventions :=
  { en150 with
    symbols :=
      { en150.symbols with
        decimal := ","
        group := "." }
    dates :=
      { en150.dates with
        medium := "dd MMM y"
        short := "dd/MM/yy" }
    skeletons := "MEd E, d/M
Md d/M
yMEd E, d/M/y
yMd d/M/y" :: en150.skeletons }

/-- English (Switzerland). -/
def enCH : Conventions :=
  { en150 with
    symbols :=
      { en150.symbols with
        group := "'" }
    numbers :=
      { en150.numbers with
        currency := "¤\u00a0#,##0.00;¤-#,##0.00" }
    dates :=
      { en150.dates with
        short := "dd.MM.y" }
    skeletons := "GyMd d.M.y G
MEd E, dd.MM
MMdd dd.MM
Md dd.MM
yM MM.y
yMEd E, dd.MM.y
yMd dd.MM.y" :: en150.skeletons }

/-- English (Czechia). -/
def enCZ : Conventions :=
  { en150 with
    symbols :=
      { en150.symbols with
        decimal := ","
        group := "\u00a0" } }

/-- English (Germany). -/
def enDE : Conventions :=
  { en150 with
    symbols :=
      { en150.symbols with
        decimal := ","
        group := "." }
    numbers :=
      { en150.numbers with
        percent := "#,##0\u00a0%" } }

/-- English (Denmark). -/
def enDK : Conventions :=
  { en150 with
    symbols :=
      { en150.symbols with
        decimal := ","
        group := "." }
    numbers :=
      { en150.numbers with
        percent := "#,##0\u00a0%" }
    currencies := "DKK kr." :: en150.currencies
    times :=
      { en150.times with
        full := "HH.mm.ss zzzz"
        long := "HH.mm.ss z"
        medium := "HH.mm.ss"
        short := "HH.mm" }
    skeletons := "EHm E HH.mm
EHms E HH.mm.ss
Ehm E h.mm a
Ehms E h.mm.ss a
Hm HH.mm
Hms HH.mm.ss
Hmsv HH.mm.ss v
Hmv HH.mm v
hm h.mm a
hms h.mm.ss a
hmsv h.mm.ss a v
hmv h.mm a v
ms mm.ss" :: en150.skeletons }

/-- English (Spain). -/
def enES : Conventions :=
  { en150 with
    symbols :=
      { en150.symbols with
        decimal := ","
        group := "." } }

/-- English (Finland). -/
def enFI : Conventions :=
  { en150 with
    symbols :=
      { en150.symbols with
        decimal := ","
        group := "\u00a0" }
    numbers :=
      { en150.numbers with
        percent := "#,##0\u00a0%" }
    times :=
      { en150.times with
        full := "H.mm.ss zzzz"
        long := "H.mm.ss z"
        medium := "H.mm.ss"
        short := "H.mm" }
    skeletons := "EHm E H.mm
EHms E H.mm.ss
Ehm E h.mm a
Ehms E h.mm.ss a
Hm H.mm
Hms H.mm.ss
Hmsv H.mm.ss v
Hmv H.mm v
hm h.mm a
hms h.mm.ss a
hmsv h.mm.ss a v
hmv h.mm a v
ms mm.ss" :: en150.skeletons }

/-- English (France). -/
def enFR : Conventions :=
  { en150 with
    symbols :=
      { en150.symbols with
        decimal := ","
        group := "\u202f" } }

/-- English (Hungary). -/
def enHU : Conventions :=
  { en150 with
    symbols :=
      { en150.symbols with
        decimal := ","
        group := "\u00a0" } }

/-- English (Italy). -/
def enIT : Conventions :=
  { en150 with
    symbols :=
      { en150.symbols with
        decimal := ","
        group := "." } }

/-- English (Netherlands). -/
def enNL : Conventions :=
  { en150 with
    symbols :=
      { en150.symbols with
        decimal := ","
        group := "." }
    numbers :=
      { en150.numbers with
        currency := "¤\u00a0#,##0.00;¤\u00a0-#,##0.00" } }

/-- English (Norway). -/
def enNO : Conventions :=
  { en150 with
    symbols :=
      { en150.symbols with
        decimal := ","
        group := "\u00a0" }
    numbers :=
      { en150.numbers with
        percent := "#,##0\u00a0%" }
    currencies := "NOK kr" :: en150.currencies }

/-- English (Poland). -/
def enPL : Conventions :=
  { en150 with
    symbols :=
      { en150.symbols with
        decimal := ","
        group := "." } }

/-- English (Portugal). -/
def enPT : Conventions :=
  { en150 with
    symbols :=
      { en150.symbols with
        decimal := ","
        group := "\u00a0" } }

/-- English (Romania). -/
def enRO : Conventions :=
  { en150 with
    symbols :=
      { en150.symbols with
        decimal := ","
        group := "." } }

/-- English (Sweden). -/
def enSE : Conventions :=
  { en150 with
    symbols :=
      { en150.symbols with
        decimal := ","
        group := "\u00a0"
        exponential := "×10^" }
    numbers :=
      { en150.numbers with
        percent := "#,##0\u00a0%" }
    currencies := "SEK kr" :: en150.currencies
    dates :=
      { en150.dates with
        short := "y-MM-dd" }
    skeletons := "yM y-MM
yMEd E, y-MM-dd
yMd y-MM-dd" :: en150.skeletons }

/-- English (Slovenia). -/
def enSI : Conventions :=
  { en150 with
    symbols :=
      { en150.symbols with
        decimal := ","
        group := "."
        exponential := "e" } }

/-- English (Slovakia). -/
def enSK : Conventions :=
  { en150 with
    symbols :=
      { en150.symbols with
        decimal := ","
        group := "\u00a0"
        exponential := "e" } }

/-- The locales of English with their conventions. -/
def english : List (String × Conventions) :=
  [ ("en", en), ("en_001", en001), ("en_150", en150), ("en_AE", enAE), ("en_AG", enAG),
    ("en_AI", enAI), ("en_AS", en), ("en_AT", enAT), ("en_AU", enAU), ("en_BB", enBB),
    ("en_BE", enBE), ("en_BI", enBI), ("en_BM", enBM), ("en_BS", enBS), ("en_BW", enBW),
    ("en_BZ", enBZ), ("en_CA", enCA), ("en_CC", enCC), ("en_CH", enCH), ("en_CK", enCK),
    ("en_CM", enCM), ("en_CX", enCX), ("en_CY", en001), ("en_CZ", enCZ), ("en_DE", enDE),
    ("en_DG", enDG), ("en_DK", enDK), ("en_DM", enDM), ("en_Dsrt", enDsrt),
    ("en_Dsrt_US", enDsrt), ("en_ER", enER), ("en_ES", enES), ("en_FI", enFI), ("en_FJ", enFJ),
    ("en_FK", enFK), ("en_FM", en001), ("en_FR", enFR), ("en_GB", enGB), ("en_GD", enGD),
    ("en_GG", enGG), ("en_GH", enGH), ("en_GI", enGI), ("en_GM", enGM), ("en_GS", enGS),
    ("en_GU", en), ("en_GY", enGY), ("en_HK", enHK), ("en_HU", enHU), ("en_ID", enID),
    ("en_IE", enIE), ("en_IL", enIL), ("en_IM", enIM), ("en_IN", enIN), ("en_IO", enIO),
    ("en_IT", enIT), ("en_JE", enJE), ("en_JM", enJM), ("en_KE", enKE), ("en_KI", enKI),
    ("en_KN", enKN), ("en_KY", enKY), ("en_LC", enLC), ("en_LR", enLR), ("en_LS", enLS),
    ("en_MG", enMG), ("en_MH", en), ("en_MO", enMO), ("en_MP", en), ("en_MS", enMS),
    ("en_MT", enMT), ("en_MU", enMU), ("en_MV", enMV), ("en_MW", enMW), ("en_MY", enMY),
    ("en_NA", enNA), ("en_NF", enNF), ("en_NG", enNG), ("en_NL", enNL), ("en_NO", enNO),
    ("en_NR", enNR), ("en_NU", enNU), ("en_NZ", enNZ), ("en_PG", enPG), ("en_PH", en),
    ("en_PK", enPK), ("en_PL", enPL), ("en_PN", enPN), ("en_PR", en), ("en_PT", enPT),
    ("en_PW", en001), ("en_RO", enRO), ("en_RW", enRW), ("en_SB", enSB), ("en_SC", enSC),
    ("en_SD", en001), ("en_SE", enSE), ("en_SG", enSG), ("en_SH", enSH), ("en_SI", enSI),
    ("en_SK", enSK), ("en_SL", enSL), ("en_SS", enSS), ("en_SX", enSX), ("en_SZ", enSZ),
    ("en_Shaw", enShaw), ("en_Shaw_GB", enShaw), ("en_TC", en001), ("en_TK", enTK),
    ("en_TO", enTO), ("en_TT", enTT), ("en_TV", enTV), ("en_TZ", enTZ), ("en_UG", enUG),
    ("en_UM", en), ("en_US", en), ("en_VC", enVC), ("en_VG", en001), ("en_VI", en),
    ("en_VU", enVU), ("en_WS", enWS), ("en_ZA", enZA), ("en_ZM", enZM), ("en_ZW", enZW) ]

end Phrasebook.ConventionsOf
