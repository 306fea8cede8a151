import Phrasebook.Conventions.Basic

/-!
# Conventions of the Germanic languages but English
-/

namespace Phrasebook.ConventionsOf

/-- Afrikaans. -/
def af : Conventions where
  symbols :=
    { decimal := ","
      group := "\u00a0" }
  numbers :=
    { currency := "¤#,##0.00" }
  compact :=
    { short := "other|0\u00a0k|00\u00a0k|000\u00a0k|0\u00a0m|00\u00a0m|000\u00a0m|0\u00a0mjd|00\u00a0mjd|000\u00a0mjd|0\u00a0bn|00\u00a0bn|000\u00a0bn"
      long := "other|0 duisend|00 duisend|000 duisend|0 miljoen|00 miljoen|000 miljoen|0 miljard|00 miljard|000 miljard|0 biljoen|00 biljoen|000 biljoen"
      currency := "other|¤0\u00a0k|¤00\u00a0k|¤000\u00a0k|¤0\u00a0m|¤00\u00a0m|¤000\u00a0m|¤0\u00a0mjd|¤00\u00a0mjd|¤000\u00a0mjd|¤0\u00a0bn|¤00\u00a0bn|¤000\u00a0bn" }
  currencies := "CAD CAD|MXN MXN|PHP PHP|THB ฿|USD USD|ZAR R" :: Conventions.rootCurrencies
  plurals := "one n = 1"
  months :=
    { format :=
        { wide := "Januarie|Februarie|Maart|April|Mei|Junie|Julie|Augustus|September|Oktober|November|Desember"
          abbreviated := "Jan.|Feb.|Mrt.|Apr.|Mei|Jun.|Jul.|Aug.|Sep.|Okt.|Nov.|Des."
          narrow := "J|F|M|A|M|J|J|A|S|O|N|D" } }
  weekdays :=
    { format :=
        { wide := "Maandag|Dinsdag|Woensdag|Donderdag|Vrydag|Saterdag|Sondag"
          abbreviated := "Ma.|Di.|Wo.|Do.|Vr.|Sa.|So."
          narrow := "M|D|W|D|V|S|S" } }
  quarters :=
    { format :=
        { wide := "1ste kwartaal|2de kwartaal|3de kwartaal|4de kwartaal"
          abbreviated := "K1|K2|K3|K4"
          narrow := "1|2|3|4" } }
  eras :=
    { wide := "voor Christus|ná Christus"
      abbreviated := "v.C.|n.C." }
  dayPeriods :=
    { format :=
        { wide := "am vm.|pm nm.|afternoon1 die middag|evening1 die aand|midnight middernag|morning1 die oggend|night1 die nag"
          narrow := "am v|pm n|afternoon1 in die middag|evening1 in die aand|midnight mn|morning1 die oggend|night1 in die nag" }
      standAlone :=
        { wide := "am vm.|pm nm.|afternoon1 middag|evening1 aand|midnight middernag|morning1 oggend|night1 nag"
          narrow := "am v|pm n|afternoon1 middag|evening1 aand|midnight mn|morning1 oggend|night1 nag" } }
  dayPeriodRules := "afternoon1 43200 64800|evening1 64800 86400|midnight 0|morning1 18000 43200|night1 0 18000"
  dates :=
    { full := "EEEE dd MMMM y"
      long := "dd MMMM y"
      medium := "dd MMM y" }
  skeletons := "Bhm hh:mm B
Bhms hh:mm:ss B
EBhm E hh:mm B
EBhms E hh:mm:ss B
Ed E d
Ehm E hh:mm\u202fa
Ehms E hh:mm:ss\u202fa
Gy y G
GyMMM MMM y G
GyMMMEd E dd MMM y G
GyMMMd dd MMM y G
MEd E d/M
MMMEd E d MMM
MMMMEd E d MMMM
MMMMW 'week' W 'van' MMMM
MMMMd d MMMM
MMMd d MMM
Md dd-MM
hm h:mm\u202fa
hms h:mm:ss\u202fa
hmsv h:mm:ss\u202fa v
hmv h:mm\u202fa v
yM MM-y
yMEd E y-MM-dd
yMMM MMM y
yMMMEd E d MMM y
yMMMM MMMM y
yMMMd d MMM y
yQQQ QQQ y
yQQQQ QQQQ y
yw 'week' w 'van' Y" :: Conventions.rootSkeletons
  zones :=
    { place := "\x7b0\x7d-tyd"
      unknownRegion := "Onbekende gebied"
      utcLong := "Gekoördineerde universele tyd" }

/-- Danish. -/
def da : Conventions where
  symbols :=
    { decimal := ","
      group := "." }
  numbers :=
    { percent := "#,##0\u00a0%"
      currency := "#,##0.00\u00a0¤" }
  compact :=
    { short := "other|0\u00a0t|00\u00a0t|000\u00a0t|0\u00a0mio'.'|00\u00a0mio'.'|000\u00a0mio'.'|0\u00a0mia'.'|00\u00a0mia'.'|000\u00a0mia'.'|0\u00a0bio'.'|00\u00a0bio'.'|000\u00a0bio'.'"
      long := "other|0 tusind|00 tusind|000 tusind|0 millioner|00 millioner|000 millioner|0 milliarder|00 milliarder|000 milliarder|0 billioner|00 billioner|000 billioner
one|0 tusind|00 tusind|000 tusind|0 million|00 millioner|000 millioner|0 milliard|00 milliarder|000 milliarder|0 billion|00 billioner|000 billioner"
      currency := "other|0\u00a0t\u00a0¤|00\u00a0t\u00a0¤|000\u00a0t\u00a0¤|0\u00a0mio'.'\u00a0¤|00\u00a0mio'.'\u00a0¤|000\u00a0mio'.'\u00a0¤|0\u00a0mia'.'\u00a0¤|00\u00a0mia'.'\u00a0¤|000\u00a0mia'.'\u00a0¤|0\u00a0bio'.'\u00a0¤|00\u00a0bio'.'\u00a0¤|000\u00a0bio'.'\u00a0¤" }
  currencies := "AUD AU$|DKK kr.|PHP PHP|THB ฿" :: Conventions.rootCurrencies
  plurals := "one n = 1 or t != 0 and i = 0,1"
  months :=
    { format :=
        { wide := "januar|februar|marts|april|maj|juni|juli|august|september|oktober|november|december"
          abbreviated := "jan.|feb.|mar.|apr.|maj|jun.|jul.|aug.|sep.|okt.|nov.|dec."
          narrow := "J|F|M|A|M|J|J|A|S|O|N|D" } }
  weekdays :=
    { format :=
        { wide := "mandag|tirsdag|onsdag|torsdag|fredag|lørdag|søndag"
          abbreviated := "man.|tirs.|ons.|tors.|fre.|lør.|søn."
          short := "ma.|ti.|on.|to.|fr.|lø.|sø."
          narrow := "M|T|O|T|F|L|S" } }
  quarters :=
    { format :=
        { wide := "1. kvartal|2. kvartal|3. kvartal|4. kvartal"
          abbreviated := "1. kvt.|2. kvt.|3. kvt.|4. kvt."
          narrow := "1|2|3|4" } }
  eras :=
    { wide := "før Kristus|efter Kristus"
      abbreviated := "f.Kr.|e.Kr."
      narrow := "fKr|eKr" }
  dayPeriods :=
    { format :=
        { wide := "am AM|pm PM|afternoon1 om eftermiddagen|evening1 om aftenen|midnight midnat|morning1 om morgenen|morning2 om formiddagen|night1 om natten"
          narrow := "am a|pm p|afternoon1 om eftermiddagen|evening1 om aftenen|midnight midnat|morning1 om morgenen|morning2 om formiddagen|night1 om natten" }
      standAlone :=
        { wide := "am AM|pm PM|afternoon1 eftermiddag|evening1 aften|midnight midnat|morning1 morgen|morning2 formiddag|night1 nat"
          narrow := "am a|pm p|afternoon1 eftermiddag|evening1 aften|midnight midnat|morning1 morgen|morning2 formiddag|night1 nat" } }
  dayPeriodRules := "afternoon1 43200 64800|evening1 64800 86400|midnight 0|morning1 18000 36000|morning2 36000 43200|night1 0 18000"
  dates :=
    { full := "EEEE 'den' d. MMMM y"
      long := "d. MMMM y"
      medium := "d. MMM y"
      short := "dd.MM.y" }
  times :=
    { full := "HH.mm.ss zzzz"
      long := "HH.mm.ss z"
      medium := "HH.mm.ss"
      short := "HH.mm" }
  skeletons := "Bhm h.mm B
Bhms h.mm.ss B
EBhm E h.mm B
EBhms E h.mm.ss B
EHm E HH.mm
EHms E HH.mm.ss
Ed E 'den' d.
Ehm E h.mm\u202fa
Ehms E h.mm.ss\u202fa
Gy y G
GyM M/y G
GyMEd E d/M/y G
GyMMM MMM y G
GyMMMEd E d. MMM y G
GyMMMd d. MMM y G
GyMd d.M.y GGGGG
Hm HH.mm
Hms HH.mm.ss
Hmsv HH.mm.ss v
Hmv HH.mm v
M M
MEd E d.M
MMM MMM
MMMEd E d. MMM
MMMMEd E d. MMMM
MMMMW W. 'uge' 'i' MMMM
MMMMd d. MMMM
MMMd d. MMM
MMdd dd.MM
Md d.M
d d.
hm h.mm\u202fa
hms h.mm.ss\u202fa
hmsv h.mm.ss\u202fa v
hmv h.mm\u202fa v
ms mm.ss
yM M.y
yMEd E d.M.y
yMM MM.y
yMMM MMM y
yMMMEd E d. MMM y
yMMMM MMMM y
yMMMd d. MMM y
yMd d.M.y
yQQQ QQQ y
yQQQQ QQQQ y
yw 'uge' w 'i' Y" :: Conventions.rootSkeletons
  zones :=
    { place := "\x7b0\x7d-tid"
      unknownRegion := "Ukendt område"
      utcLong := "Koordineret universaltid" }

/-- German. -/
def de : Conventions where
  symbols :=
    { decimal := ","
      group := "." }
  numbers :=
    { percent := "#,##0\u00a0%"
      currency := "#,##0.00\u00a0¤" }
  compact :=
    { short := "other|0|0|0|0\u00a0Mio'.'|00\u00a0Mio'.'|000\u00a0Mio'.'|0\u00a0Mrd'.'|00\u00a0Mrd'.'|000\u00a0Mrd'.'|0\u00a0Bio'.'|00\u00a0Bio'.'|000\u00a0Bio'.'"
      long := "other|0 Tausend|00 Tausend|000 Tausend|0 Millionen|00 Millionen|000 Millionen|0 Milliarden|00 Milliarden|000 Milliarden|0 Billionen|00 Billionen|000 Billionen
one|0 Tausend|00 Tausend|000 Tausend|0 Million|00 Millionen|000 Millionen|0 Milliarde|00 Milliarden|000 Milliarden|0 Billion|00 Billionen|000 Billionen"
      currency := "other|0|0|0|0\u00a0Mio'.'\u00a0¤|00\u00a0Mio'.'\u00a0¤|000\u00a0Mio'.'\u00a0¤|0\u00a0Mrd'.'\u00a0¤|00\u00a0Mrd'.'\u00a0¤|000\u00a0Mrd'.'\u00a0¤|0\u00a0Bio'.'\u00a0¤|00\u00a0Bio'.'\u00a0¤|000\u00a0Bio'.'\u00a0¤" }
  currencies := "ATS öS|AUD AU$|BGM BGK|BGO BGJ|DEM DM|JPY ¥|PHP PHP|THB ฿|USD $|XXX XXX" :: Conventions.rootCurrencies
  plurals := "one i = 1 and v = 0"
  months :=
    { format :=
        { wide := "Januar|Februar|März|April|Mai|Juni|Juli|August|September|Oktober|November|Dezember"
          abbreviated := "Jan.|Feb.|März|Apr.|Mai|Juni|Juli|Aug.|Sept.|Okt.|Nov.|Dez."
          narrow := "J|F|M|A|M|J|J|A|S|O|N|D" }
      standAlone :=
        { wide := "Januar|Februar|März|April|Mai|Juni|Juli|August|September|Oktober|November|Dezember"
          abbreviated := "Jan|Feb|Mär|Apr|Mai|Jun|Jul|Aug|Sep|Okt|Nov|Dez"
          narrow := "J|F|M|A|M|J|J|A|S|O|N|D" } }
  weekdays :=
    { format :=
        { wide := "Montag|Dienstag|Mittwoch|Donnerstag|Freitag|Samstag|Sonntag"
          abbreviated := "Mo.|Di.|Mi.|Do.|Fr.|Sa.|So."
          narrow := "M|D|M|D|F|S|S" }
      standAlone :=
        { wide := "Montag|Dienstag|Mittwoch|Donnerstag|Freitag|Samstag|Sonntag"
          abbreviated := "Mo|Di|Mi|Do|Fr|Sa|So"
          short := "Mo.|Di.|Mi.|Do.|Fr.|Sa.|So."
          narrow := "M|D|M|D|F|S|S" } }
  quarters :=
    { format :=
        { wide := "1. Quartal|2. Quartal|3. Quartal|4. Quartal"
          abbreviated := "Q1|Q2|Q3|Q4"
          narrow := "1|2|3|4" } }
  eras :=
    { wide := "v. Chr.|n. Chr." }
  dayPeriods :=
    { format :=
        { wide := "am AM|pm PM|afternoon1 mittags|afternoon2 nachmittags|evening1 abends|midnight Mitternacht|morning1 morgens|morning2 vormittags|night1 nachts"
          abbreviated := "am AM|pm PM|afternoon1 mittags|afternoon2 nachm.|evening1 abends|midnight Mitternacht|morning1 morgens|morning2 vorm.|night1 nachts" }
      standAlone :=
        { wide := "am AM|pm PM|afternoon1 Mittag|afternoon2 Nachmittag|evening1 Abend|midnight Mitternacht|morning1 Morgen|morning2 Vormittag|night1 Nacht"
          abbreviated := "am AM|pm PM|afternoon1 Mittag|afternoon2 Nachm.|evening1 Abend|midnight Mitternacht|morning1 Morgen|morning2 Vorm.|night1 Nacht" } }
  dayPeriodRules := "afternoon1 43200 46800|afternoon2 46800 64800|evening1 64800 86400|midnight 0|morning1 18000 36000|morning2 36000 43200|night1 0 18000"
  dates :=
    { full := "EEEE, d. MMMM y"
      long := "d. MMMM y"
      medium := "dd.MM.y"
      short := "dd.MM.yy" }
  moments :=
    { full := "\x7b1\x7d, \x7b0\x7d"
      long := "\x7b1\x7d, \x7b0\x7d"
      medium := "\x7b1\x7d, \x7b0\x7d"
      short := "\x7b1\x7d, \x7b0\x7d" }
  skeletons := "Bh h 'Uhr' B
EBh E, h 'Uhr' B
EBhm E, h:mm 'Uhr' B
EBhms E, h:mm:ss 'Uhr' B
EHm E, HH:mm
EHms E, HH:mm:ss
Ed E, d.
Eh E, h\u202fa
Ehm E h:mm\u202fa
Ehms E, h:mm:ss\u202fa
Gy y G
GyM MM/y G
GyMEd E, dd.MM.y G
GyMMM MMM y G
GyMMMEd E, d. MMM y G
GyMMMd d. MMM y G
GyMd dd.MM.y G
H HH 'Uhr'
Hv HH 'Uhr' v
MEd E, d.M.
MMMEd E, d. MMM
MMMMEd E, d. MMMM
MMMMW 'Woche' W 'im' MMMM
MMMMd d. MMMM
MMMd d. MMM
MMd dd.MM.
MMdd dd.MM.
Md d.M.
hm h:mm\u202fa
hms h:mm:ss\u202fa
hmsv h:mm:ss\u202fa v
hmv h:mm\u202fa v
yM M/y
yMEd E, d.M.y
yMM MM/y
yMMM MMM y
yMMMEd E, d. MMM y
yMMMM MMMM y
yMMMd d. MMM y
yMMdd dd.MM.y
yMd d.M.y
yQQQ QQQ y
yQQQQ QQQQ y
yw 'Woche' w 'des' 'Jahres' Y" :: Conventions.rootSkeletons
  zones :=
    { place := "\x7b0\x7d (Ortszeit)"
      unknownRegion := "Unbekannte Region"
      utcLong := "Koordinierte Weltzeit" }

/-- Icelandic. -/
def is : Conventions where
  symbols :=
    { decimal := ","
      group := "." }
  numbers :=
    { currency := "#,##0.00\u00a0¤" }
  compact :=
    { short := "other|0\u00a0þ'.'|00\u00a0þ'.'|000\u00a0þ'.'|0\u00a0m'.'|00\u00a0m'.'|000\u00a0m'.'|0\u00a0ma'.'|00\u00a0ma'.'|000\u00a0ma'.'|0\u00a0bn|00\u00a0bn|000\u00a0bn"
      long := "other|0 þúsund|00 þúsund|000 þúsund|0 milljónir|00 milljónir|000 milljónir|0 milljarðar|00 milljarðar|000 milljarðar|0 billjónir|00 billjónir|000 billjónir
one|0 þúsund|00 þúsund|000 þúsund|0 milljón|00 milljón|000 milljón|0 milljarður|00 milljarður|000 milljarður|0 billjón|00 billjón|000 billjón"
      currency := "other|0\u00a0þ'.'\u00a0¤|00\u00a0þ'.'\u00a0¤|000\u00a0þ'.'\u00a0¤|0\u00a0m'.'\u00a0¤|00\u00a0m'.'\u00a0¤|000\u00a0m'.'\u00a0¤|0\u00a0ma'.'\u00a0¤|00\u00a0ma'.'\u00a0¤|000\u00a0ma'.'\u00a0¤|0\u00a0bn\u00a0¤|00\u00a0bn\u00a0¤|000\u00a0bn\u00a0¤" }
  currencies := "AUD AUD|BRL BRL|CAD CAD|EUR EUR|GBP GBP|INR INR|ISK kr.|KRW KRW|MXN MXN|NZD NZD|PHP PHP|TWD TWD|USD USD|VND VND|XCG XCG" :: Conventions.rootCurrencies
  plurals := "one t = 0 and i % 10 = 1 and i % 100 != 11 or t % 10 = 1 and t % 100 != 11"
  months :=
    { format :=
        { wide := "janúar|febrúar|mars|apríl|maí|júní|júlí|ágúst|september|október|nóvember|desember"
          abbreviated := "jan.|feb.|mar.|apr.|maí|jún.|júl.|ágú.|sep.|okt.|nóv.|des."
          narrow := "J|F|M|A|M|J|J|Á|S|O|N|D" } }
  weekdays :=
    { format :=
        { wide := "mánudagur|þriðjudagur|miðvikudagur|fimmtudagur|föstudagur|laugardagur|sunnudagur"
          abbreviated := "mán.|þri.|mið.|fim.|fös.|lau.|sun."
          short := "má.|þr.|mi.|fi.|fö.|la.|su."
          narrow := "M|Þ|M|F|F|L|S" } }
  quarters :=
    { format :=
        { wide := "1. fjórðungur|2. fjórðungur|3. fjórðungur|4. fjórðungur"
          abbreviated := "F1|F2|F3|F4"
          narrow := "1|2|3|4" } }
  eras :=
    { wide := "fyrir Krist|eftir Krist"
      abbreviated := "f.Kr.|e.Kr."
      narrow := "f.k.|e.k." }
  dayPeriods :=
    { format :=
        { wide := "am f.h.|pm e.h.|afternoon1 síðdegis|evening1 að kvöldi|midnight miðnætti|morning1 að morgni|night1 að nóttu|noon hádegi"
          narrow := "am f.|pm e.|afternoon1 sd.|evening1 kv.|midnight mn.|morning1 mrg.|night1 n.|noon h." }
      standAlone :=
        { wide := "am f.h.|pm e.h.|afternoon1 eftir hádegi|evening1 kvöld|midnight miðnætti|morning1 morgunn|night1 nótt|noon hádegi"
          abbreviated := "am f.h.|pm e.h.|afternoon1 síðdegis|evening1 kvöld|midnight miðnætti|morning1 morgunn|night1 nótt|noon hádegi"
          narrow := "am f.|pm e.|afternoon1 sd.|evening1 kv.|midnight mn.|morning1 mrg.|night1 n.|noon hd." } }
  dayPeriodRules := "afternoon1 43200 64800|evening1 64800 86400|midnight 0|morning1 21600 43200|night1 0 21600|noon 43200"
  dates :=
    { full := "EEEE, d. MMMM y"
      long := "d. MMMM y"
      medium := "d. MMM y"
      short := "d.M.y" }
  moments :=
    { full := "\x7b1\x7d, \x7b0\x7d"
      long := "\x7b1\x7d, \x7b0\x7d"
      medium := "\x7b1\x7d, \x7b0\x7d"
      short := "\x7b1\x7d, \x7b0\x7d" }
  skeletons := "EHm E, HH:mm
EHms E, HH:mm:ss
Ed E d.
Ehm E, h:mm\u202fa
Ehms E, h:mm:ss\u202fa
Gy y G
GyM M/y G
GyMEd E, d/M/y G
GyMMM MMM y G
GyMMMEd E, d. MMM y G
GyMMMd d. MMM y G
GyMd d/M/y G
Hmsv v – HH:mm:ss
Hmv v – HH:mm
Hv HH'klst'. v
MEd E, d.M.
MMMEd E, d. MMM
MMMMEd E, d. MMMM
MMMMW 'viku' W 'í' MMMM
MMMMd d. MMMM
MMMd d. MMM
Md d.M.
hm h:mm\u202fa
hms h:mm:ss\u202fa
hmsv h:mm:ss\u202fa v
hmv h:mm\u202fa v
yM M. y
yMEd E, d.M.y
yMMM MMM y
yMMMEd E, d. MMM y
yMMMM MMMM y
yMMMd d. MMM y
yMd d.M.y
yQQQ QQQ y
yQQQQ QQQQ y
yw 'viku' w 'af' Y" :: Conventions.rootSkeletons
  zones :=
    { unknownRegion := "Óþekkt svæði"
      utcLong := "Samræmdur alþjóðlegur tími" }

/-- Dutch. -/
def nl : Conventions where
  symbols :=
    { decimal := ","
      group := "." }
  numbers :=
    { currency := "¤\u00a0#,##0.00;¤\u00a0-#,##0.00" }
  compact :=
    { short := "other|0K|00K|000K|0\u00a0mln'.'|00\u00a0mln'.'|000\u00a0mln'.'|0\u00a0mld'.'|00\u00a0mld'.'|000\u00a0mld'.'|0\u00a0bln'.'|00\u00a0bln'.'|000\u00a0bln'.'"
      long := "other|0 duizend|00 duizend|000 duizend|0 miljoen|00 miljoen|000 miljoen|0 miljard|00 miljard|000 miljard|0 biljoen|00 biljoen|000 biljoen"
      currency := "other|¤\u00a00K|¤\u00a000K|¤\u00a0000K|¤\u00a00\u00a0mln'.'|¤\u00a000\u00a0mln'.'|¤\u00a0000\u00a0mln'.'|¤\u00a00\u00a0mld'.'|¤\u00a000\u00a0mld'.'|¤\u00a0000\u00a0mld'.'|¤\u00a00\u00a0bln'.'|¤\u00a000\u00a0bln'.'|¤\u00a0000\u00a0bln'.'" }
  currencies := "AUD AU$|CAD C$|FJD FJ$|PHP PHP|SBD SI$|THB ฿|XPF XPF|XXX XXX|ZWG ZiG" :: Conventions.rootCurrencies
  plurals := "one i = 1 and v = 0"
  months :=
    { format :=
        { wide := "januari|februari|maart|april|mei|juni|juli|augustus|september|oktober|november|december"
          abbreviated := "jan|feb|mrt|apr|mei|jun|jul|aug|sep|okt|nov|dec"
          narrow := "J|F|M|A|M|J|J|A|S|O|N|D" } }
  weekdays :=
    { format :=
        { wide := "maandag|dinsdag|woensdag|donderdag|vrijdag|zaterdag|zondag"
          abbreviated := "ma|di|wo|do|vr|za|zo"
          narrow := "M|D|W|D|V|Z|Z" } }
  quarters :=
    { format :=
        { wide := "1e kwartaal|2e kwartaal|3e kwartaal|4e kwartaal"
          abbreviated := "K1|K2|K3|K4"
          narrow := "1|2|3|4" } }
  eras :=
    { wide := "voor Christus|na Christus"
      abbreviated := "v.Chr.|n.Chr."
      narrow := "v.C.|n.C." }
  dayPeriods :=
    { format :=
        { wide := "am a.m.|pm p.m.|afternoon1 ’s middags|evening1 ’s avonds|midnight middernacht|morning1 ’s ochtends|night1 ’s nachts" }
      standAlone :=
        { wide := "am a.m.|pm p.m.|afternoon1 middag|evening1 avond|midnight middernacht|morning1 ochtend|night1 nacht" } }
  dayPeriodRules := "afternoon1 43200 64800|evening1 64800 86400|midnight 0|morning1 21600 43200|night1 0 21600"
  dates :=
    { full := "EEEE d MMMM y"
      long := "d MMMM y"
      medium := "d MMM y"
      short := "dd-MM-y" }
  moments :=
    { full := "\x7b1\x7d, \x7b0\x7d"
      long := "\x7b1\x7d, \x7b0\x7d"
      medium := "\x7b1\x7d, \x7b0\x7d"
      short := "\x7b1\x7d, \x7b0\x7d" }
  skeletons := "Ed E d
Gy y G
GyM M/y G
GyMEd E d/M/y G
GyMMM MMM y G
GyMMMEd E d MMM y G
GyMMMd d MMM y G
GyMd d/M/y GGGGG
MEd E d-M
MMMEd E d MMM
MMMMW 'week' W 'van' MMMM
MMMMd d MMMM
MMMd d MMM
Md d-M
yM M-y
yMEd E d-M-y
yMMM MMM y
yMMMEd E d MMM y
yMMMM MMMM y
yMMMd d MMM y
yMd d-M-y
yQQQ QQQ y
yQQQQ QQQQ y
yw 'week' w 'in' Y" :: Conventions.rootSkeletons
  zones :=
    { place := "tijd in \x7b0\x7d"
      unknownRegion := "onbekend gebied"
      utcLong := "gecoördineerde wereldtijd" }

/-- Norwegian. -/
def no : Conventions where
  symbols :=
    { decimal := ","
      group := "\u00a0"
      minus := "−" }
  numbers :=
    { percent := "#,##0\u00a0%"
      currency := "#,##0.00\u00a0¤;-#,##0.00\u00a0¤" }
  compact :=
    { short := "other|0k|00k|000k|0\u00a0mill'.'|00\u00a0mill'.'|000\u00a0mill'.'|0\u00a0mrd'.'|00\u00a0mrd'.'|000\u00a0mrd'.'|0\u00a0bill'.'|00\u00a0bill'.'|000\u00a0bill'.'"
      long := "other|0 tusen|00 tusen|000 tusen|0 millioner|00 millioner|000 millioner|0 milliarder|00 milliarder|000 milliarder|0 billioner|00 billioner|000 billioner
one|0 tusen|00 tusen|000 tusen|0 million|00 millioner|000 millioner|0 milliard|00 milliarder|000 milliarder|0 billion|00 billioner|000 billioner"
      currency := "other|0k\u00a0¤|00k\u00a0¤|000k\u00a0¤|0\u00a0mill'.'\u00a0¤|00\u00a0mill'.'\u00a0¤|000\u00a0mill'.'\u00a0¤|0\u00a0mrd'.'\u00a0¤|00\u00a0mrd'.'\u00a0¤|000\u00a0mrd'.'\u00a0¤|0\u00a0bill'.'\u00a0¤|00\u00a0bill'.'\u00a0¤|000\u00a0bill'.'\u00a0¤" }
  currencies := "AUD AUD|BRL BRL|CAD CAD|CNY CNY|HKD HKD|ILS ILS|INR INR|JPY JPY|KRW KRW|MXN MXN|NOK kr|NZD NZD|PHP PHP|TWD TWD|USD USD|VND VND|XAF XAF|XCD XCD|XPF XPF|XXX XXX" :: Conventions.rootCurrencies
  plurals := "one n = 1"
  months :=
    { format :=
        { wide := "januar|februar|mars|april|mai|juni|juli|august|september|oktober|november|desember"
          abbreviated := "jan.|feb.|mars|apr.|mai|juni|juli|aug.|sep.|okt.|nov.|des."
          narrow := "J|F|M|A|M|J|J|A|S|O|N|D" }
      standAlone :=
        { wide := "januar|februar|mars|april|mai|juni|juli|august|september|oktober|november|desember"
          abbreviated := "jan|feb|mar|apr|mai|jun|jul|aug|sep|okt|nov|des"
          narrow := "J|F|M|A|M|J|J|A|S|O|N|D" } }
  weekdays :=
    { format :=
        { wide := "mandag|tirsdag|onsdag|torsdag|fredag|lørdag|søndag"
          abbreviated := "man.|tir.|ons.|tor.|fre.|lør.|søn."
          short := "ma.|ti.|on.|to.|fr.|lø.|sø."
          narrow := "M|T|O|T|F|L|S" } }
  quarters :=
    { format :=
        { wide := "1. kvartal|2. kvartal|3. kvartal|4. kvartal"
          abbreviated := "K1|K2|K3|K4"
          narrow := "1.|2.|3.|4." } }
  eras :=
    { wide := "før Kristus|etter Kristus"
      abbreviated := "f.Kr.|e.Kr." }
  dayPeriods :=
    { format :=
        { wide := "am a.m.|pm p.m.|afternoon1 på ettermiddagen|evening1 på kvelden|midnight midnatt|morning1 på morgenen|morning2 på formiddagen|night1 på natten"
          abbreviated := "am a.m.|pm p.m.|afternoon1 etterm.|evening1 kveld|midnight midn.|morning1 morg.|morning2 form.|night1 natt"
          narrow := "am a|pm p|afternoon1 em.|evening1 kv.|midnight mn.|morning1 mg.|morning2 fm.|night1 nt." }
      standAlone :=
        { wide := "am a.m.|pm p.m.|afternoon1 ettermiddag|evening1 kveld|midnight midnatt|morning1 morgen|morning2 formiddag|night1 natt"
          abbreviated := "am a.m.|pm p.m.|afternoon1 etterm.|evening1 kveld|midnight midn.|morning1 morg.|morning2 form.|night1 natt"
          narrow := "am a|pm p|afternoon1 em.|evening1 kv.|midnight mn.|morning1 mg.|morning2 fm.|night1 nt." } }
  dayPeriodRules := "afternoon1 43200 64800|evening1 64800 86400|midnight 0|morning1 21600 36000|morning2 36000 43200|night1 0 21600"
  dates :=
    { full := "EEEE d. MMMM y"
      long := "d. MMMM y"
      medium := "d. MMM y"
      short := "dd.MM.y" }
  moments :=
    { full := "\x7b1\x7d, \x7b0\x7d"
      long := "\x7b1\x7d, \x7b0\x7d"
      medium := "\x7b1\x7d, \x7b0\x7d"
      short := "\x7b1\x7d, \x7b0\x7d" }
  skeletons := "EHm E 'kl'. HH:mm
EHms E 'kl'. HH:mm:ss
Ed E d.
Ehm E h:mm\u202fa
Ehms E h:mm:ss\u202fa
Gy y G
GyM M.y G
GyMEd E d.M.y G
GyMMM MMM y G
GyMMMEd E d. MMM y G
GyMMMd d. MMM y G
GyMd d.M.y G
Hv HH v
M L.
MEd E d.M.
MMMEd E d. MMM
MMMMW 'den' W. 'uken' 'i' MMMM
MMMMd d. MMMM
MMMd d. MMM
MMdd d.M.
Md d.M.
d d.
hm h:mm\u202fa
hms h:mm:ss\u202fa
hmsv h:mm:ss\u202fa v
hmv h:mm\u202fa v
yM M.y
yMEd E d.M.y
yMM MM.y
yMMM MMM y
yMMMEd E d. MMM y
yMMMM MMMM y
yMMMd d. MMM y
yMd d.M.y
yQQQ QQQ y
yQQQQ QQQQ y
yw 'uke' w 'i' Y" :: Conventions.rootSkeletons
  zones :=
    { place := "tidssone for \x7b0\x7d"
      unknownRegion := "ukjent område"
      utcLong := "koordinert universaltid" }

/-- Swedish. -/
def sv : Conventions where
  symbols :=
    { decimal := ","
      group := "\u00a0"
      minus := "−"
      exponential := "×10^" }
  numbers :=
    { percent := "#,##0\u00a0%"
      currency := "#,##0.00\u00a0¤" }
  compact :=
    { short := "other|0\u00a0tn|00\u00a0tn|000\u00a0tn|0\u00a0mn|00\u00a0mn|000\u00a0mn|0\u00a0md|00\u00a0md|000\u00a0md|0\u00a0bn|00\u00a0bn|000\u00a0bn"
      long := "other|0 tusen|00 tusen|000 tusen|0 miljoner|00 miljoner|000 miljoner|0 miljarder|00 miljarder|000 miljarder|0 biljoner|00 biljoner|000 biljoner
one|0 tusen|00 tusen|000 tusen|0 miljon|00 miljon|000 miljoner|0 miljard|00 miljarder|000 miljarder|0 biljon|00 biljoner|000 biljoner"
      currency := "other|0\u00a0tn\u00a0¤|00\u00a0tn\u00a0¤|000\u00a0tn\u00a0¤|0\u00a0mn\u00a0¤|00\u00a0mn\u00a0¤|000\u00a0mn\u00a0¤|0\u00a0md\u00a0¤|00\u00a0md\u00a0¤|000\u00a0md\u00a0¤|0\u00a0bn\u00a0¤|00\u00a0bn\u00a0¤|000\u00a0bn\u00a0¤" }
  currencies := "AUD AUD|BBD Bds$|BMD BM$|BRL BR$|BSD BS$|BZD BZ$|CNY CNY|DKK Dkr|DOP RD$|EEK Ekr|EGP EG£|GBP GBP|HKD HKD|IEP IE£|INR INR|ISK Ikr|JMD JM$|JPY JPY|KRW KRW|NOK Nkr|NZD NZD|PHP PHP|SEK kr|TWD TWD|VND VND|XCG XCG" :: Conventions.rootCurrencies
  plurals := "one i = 1 and v = 0"
  months :=
    { format :=
        { wide := "januari|februari|mars|april|maj|juni|juli|augusti|september|oktober|november|december"
          abbreviated := "jan.|feb.|mars|apr.|maj|juni|juli|aug.|sep.|okt.|nov.|dec."
          narrow := "J|F|M|A|M|J|J|A|S|O|N|D" } }
  weekdays :=
    { format :=
        { wide := "måndag|tisdag|onsdag|torsdag|fredag|lördag|söndag"
          abbreviated := "mån|tis|ons|tors|fre|lör|sön"
          short := "må|ti|on|to|fr|lö|sö"
          narrow := "M|T|O|T|F|L|S" } }
  quarters :=
    { format :=
        { wide := "1:a kvartalet|2:a kvartalet|3:e kvartalet|4:e kvartalet"
          abbreviated := "K1|K2|K3|K4"
          narrow := "1|2|3|4" } }
  eras :=
    { wide := "före Kristus|efter Kristus"
      abbreviated := "f.Kr.|e.Kr." }
  dayPeriods :=
    { format :=
        { wide := "am fm|pm em|afternoon1 på eftermiddagen|evening1 på kvällen|midnight midnatt|morning1 på morgonen|morning2 på förmiddagen|night1 på natten"
          abbreviated := "am fm|pm em|afternoon1 på efterm.|evening1 på kvällen|midnight midnatt|morning1 på morg.|morning2 på förm.|night1 på natten"
          narrow := "am fm|pm em|afternoon1 på efterm.|evening1 på kvällen|midnight midn.|morning1 på morg.|morning2 på förm.|night1 på natten" }
      standAlone :=
        { wide := "am fm|pm em|afternoon1 eftermiddag|evening1 kväll|midnight midnatt|morning1 morgon|morning2 förmiddag|night1 natt"
          abbreviated := "am fm|pm em|afternoon1 efterm.|evening1 kväll|midnight midnatt|morning1 morgon|morning2 förm.|night1 natt"
          narrow := "am fm|pm em|afternoon1 efterm.|evening1 kväll|midnight midn.|morning1 morg.|morning2 förm.|night1 natt" } }
  dayPeriodRules := "afternoon1 43200 64800|evening1 64800 86400|midnight 0|morning1 18000 36000|morning2 36000 43200|night1 0 18000"
  dates :=
    { full := "EEEE d MMMM y"
      long := "d MMMM y"
      medium := "d MMM y" }
  skeletons := "Ed E d
Ehm E h:mm\u202fa
Ehms E h:mm:ss\u202fa
Gy y G
GyM y-MM G
GyMEd E M-d-y G
GyMMM MMM y G
GyMMMEd E d MMM y G
GyMMMd d MMM y G
GyMd y-MM-dd GGGGG
MEd E d/M
MMMEd E d MMM
MMMMEd E d MMMM
MMMMW 'vecka' W 'i' MMMM
MMMMd d MMMM
MMMd d MMM
MMd d/M
MMdd dd/MM
Md d/M
hm h:mm\u202fa
hms h:mm:ss\u202fa
hmsv h:mm:ss\u202fa v
hmv h:mm\u202fa v
yMEd E, y-MM-dd
yMM y-MM
yMMM MMM y
yMMMEd E d MMM y
yMMMM MMMM y
yMMMd d MMM y
yQQQ QQQ y
yQQQQ QQQQ y
yw 'vecka' w, Y" :: Conventions.rootSkeletons
  zones :=
    { place := "\x7b0\x7dtid"
      unknownRegion := "okänd region"
      utcLong := "koordinerad universell tid" }

/-- Afrikaans (Namibia). -/
def afNA : Conventions :=
  { af with
    currencies := "NAD $" :: af.currencies
    times :=
      { af.times with
        full := "h:mm:ss\u202fa zzzz"
        long := "h:mm:ss\u202fa z"
        medium := "h:mm:ss\u202fa"
        short := "h:mm\u202fa" } }

/-- German (Austria). -/
def deAT : Conventions :=
  { de with
    symbols :=
      { de.symbols with
        group := "\u00a0" }
    numbers :=
      { de.numbers with
        currency := "¤\u00a0#,##0.00" }
    months :=
      { format :=
          { wide := "Jänner|Februar|März|April|Mai|Juni|Juli|August|September|Oktober|November|Dezember"
            abbreviated := "Jän.|Feb.|März|Apr.|Mai|Juni|Juli|Aug.|Sep.|Okt.|Nov.|Dez."
            narrow := "J|F|M|A|M|J|J|A|S|O|N|D" }
        standAlone :=
          { wide := "Jänner|Februar|März|April|Mai|Juni|Juli|August|September|Oktober|November|Dezember"
            abbreviated := "Jän|Feb|Mär|Apr|Mai|Jun|Jul|Aug|Sep|Okt|Nov|Dez"
            narrow := "J|F|M|A|M|J|J|A|S|O|N|D" } }
    dayPeriods :=
      { de.dayPeriods with
        standAlone :=
          { de.dayPeriods.standAlone with
            narrow := "am vm.|pm nm.|afternoon1 Mittag|afternoon2 Nachm.|evening1 Abend|midnight Mitternacht|morning1 Morgen|morning2 Vorm.|night1 Nacht" } } }

/-- German (Switzerland). -/
def deCH : Conventions :=
  { de with
    symbols :=
      { de.symbols with
        decimal := "."
        group := "’" }
    numbers :=
      { de.numbers with
        percent := "#,##0%"
        currency := "¤\u00a0#,##0.00;¤-#,##0.00" }
    compact :=
      { de.compact with
        currency := "other|0|0|0|¤\u00a00\u00a0Mio'.'|¤\u00a000\u00a0Mio'.'|¤\u00a0000\u00a0Mio'.'|¤\u00a00\u00a0Mrd'.'|¤\u00a000\u00a0Mrd'.'|¤\u00a0000\u00a0Mrd'.'|¤\u00a00\u00a0Bio'.'|¤\u00a000\u00a0Bio'.'|¤\u00a0000\u00a0Bio'.'" }
    currencies := "EUR EUR" :: de.currencies
    weekdays :=
      { de.weekdays with
        format :=
          { de.weekdays.format with
            short := "Mo|Di|Mi|Do|Fr|Sa|So" }
        standAlone :=
          { de.weekdays.standAlone with
            short := "Mo|Di|Mi|Do|Fr|Sa|So" } }
    skeletons := "GyM M/y G
GyMEd E, MM.dd.Y G
GyMd dd.MM.y GGGGG" :: de.skeletons }

/-- German (Italy). -/
def deIT : Conventions :=
  { de with
    months :=
      { format :=
          { wide := "Jänner|Februar|März|April|Mai|Juni|Juli|August|September|Oktober|November|Dezember"
            abbreviated := "Jän.|Feb.|März|Apr.|Mai|Juni|Juli|Aug.|Sep.|Okt.|Nov.|Dez."
            narrow := "J|F|M|A|M|J|J|A|S|O|N|D" }
        standAlone :=
          { wide := "Jänner|Februar|März|April|Mai|Juni|Juli|August|September|Oktober|November|Dezember"
            abbreviated := "Jän|Feb|Mär|Apr|Mai|Jun|Jul|Aug|Sep|Okt|Nov|Dez"
            narrow := "J|F|M|A|M|J|J|A|S|O|N|D" } } }

/-- German (Liechtenstein). -/
def deLI : Conventions :=
  { de with
    symbols :=
      { de.symbols with
        decimal := "."
        group := "’" }
    numbers :=
      { de.numbers with
        percent := "#,##0%"
        currency := "¤\u00a0#,##0.00" }
    currencies := "EUR EUR" :: de.currencies
    dayPeriods :=
      { de.dayPeriods with
        standAlone :=
          { de.dayPeriods.standAlone with
            narrow := "am vm.|pm nm.|afternoon1 Mittag|afternoon2 Nachm.|evening1 Abend|midnight Mitternacht|morning1 Morgen|morning2 Vorm.|night1 Nacht" } } }

/-- German (Luxembourg). -/
def deLU : Conventions :=
  { de with
    currencies := "LUF F" :: de.currencies
    dayPeriods :=
      { de.dayPeriods with
        format :=
          { de.dayPeriods.format with
            narrow := "am vorm.|pm nachm.|afternoon1 mittags|afternoon2 nachm.|evening1 abends|midnight Mitternacht|morning1 morgens|morning2 vorm.|night1 nachts" }
        standAlone :=
          { de.dayPeriods.standAlone with
            narrow := "am vorm.|pm nachm.|afternoon1 Mittag|afternoon2 Nachm.|evening1 Abend|midnight Mitternacht|morning1 Morgen|morning2 Vorm.|night1 Nacht" } } }

/-- Dutch (Aruba). -/
def nlAW : Conventions :=
  { nl with
    currencies := "AWG Afl." :: nl.currencies }

/-- Dutch (Belgium). -/
def nlBE : Conventions :=
  { nl with
    dates :=
      { nl.dates with
        short := "d/MM/y" }
    skeletons := "MEd E d/M
Md d/M
yM M/y
yMEd E d/M/y
yMd d/M/y" :: nl.skeletons }

/-- Dutch (Caribbean Netherlands). -/
def nlBQ : Conventions :=
  { nl with
    currencies := "USD $" :: nl.currencies }

/-- Dutch (Curaçao). -/
def nlCW : Conventions :=
  { nl with
    currencies := "ANG NAf." :: nl.currencies }

/-- Dutch (Suriname). -/
def nlSR : Conventions :=
  { nl with
    currencies := "SRD $" :: nl.currencies }

/-- Dutch (Sint Maarten). -/
def nlSX : Conventions :=
  { nl with
    currencies := "ANG NAf." :: nl.currencies }

/-- Norwegian Nynorsk. -/
def nn : Conventions :=
  { no with
    compact :=
      { no.compact with
        long := "other|0 tusen|00 tusen|000 tusen|0 millionar|00 millionar|000 millionar|0 milliardar|00 milliardar|000 milliardar|0 billionar|00 billionar|000 billionar
one|0 tusen|00 tusen|000 tusen|0 million|00 millionar|000 millionar|0 milliard|00 milliardar|000 milliardar|0 billion|00 billionar|000 billionar" }
    currencies := "GBP GBP" :: no.currencies
    weekdays :=
      { format :=
          { wide := "måndag|tysdag|onsdag|torsdag|fredag|laurdag|søndag"
            abbreviated := "må.|ty.|on.|to.|fr.|la.|sø."
            narrow := "M|T|O|T|F|L|S" }
        standAlone :=
          { wide := "måndag|tysdag|onsdag|torsdag|fredag|laurdag|søndag"
            abbreviated := "mån|tys|ons|tor|fre|lau|søn"
            short := "må.|ty.|on.|to.|fr.|la.|sø."
            narrow := "M|T|O|T|F|L|S" } }
    quarters :=
      { no.quarters with
        format :=
          { no.quarters.format with
            narrow := "1|2|3|4" }
        standAlone :=
          { no.quarters.standAlone with
            narrow := "1|2|3|4" } }
    dayPeriods :=
      { format :=
          { wide := "am f.m.|pm e.m.|afternoon1 på ettermiddagen|evening1 på kvelden|midnight midnatt|morning1 på morgonen|morning2 på formiddagen|night1 på natta"
            abbreviated := "am f.m.|pm e.m.|afternoon1 etterm.|evening1 kveld|midnight midn.|morning1 morg.|morning2 form.|night1 natt"
            narrow := "am a|pm p|afternoon1 em.|evening1 kv.|midnight mn.|morning1 mg.|morning2 fm.|night1 nt." }
        standAlone :=
          { wide := "am f.m.|pm e.m.|afternoon1 ettermiddag|evening1 kveld|midnight midnatt|morning1 morgon|morning2 formiddag|night1 natt"
            abbreviated := "am f.m.|pm e.m.|afternoon1 etterm.|evening1 kveld|midnight midn.|morning1 morg.|morning2 form.|night1 natt"
            narrow := "am a|pm p|afternoon1 em.|evening1 kv.|midnight mn.|morning1 mg.|morning2 fm.|night1 nt." } }
    moments :=
      { no.moments with
        full := "\x7b1\x7d \x7b0\x7d"
        long := "\x7b1\x7d 'kl'. \x7b0\x7d" }
    skeletons := "EHm E HH:mm
EHms E HH:mm:ss
MMMMW 'veke' W 'i' MMMM
yw 'veke' w 'i' Y" :: no.skeletons }

/-- Swedish (Åland Islands). -/
def svAX : Conventions :=
  { sv with
    dates :=
      { sv.dates with
        medium := "d.M.y"
        short := "d.M.y" }
    skeletons := "GyMd d.M.y GGGGG" :: sv.skeletons }

/-- Swedish (Finland). -/
def svFI : Conventions :=
  { sv with
    dates :=
      { sv.dates with
        short := "d.M.y" }
    times :=
      { sv.times with
        full := "HH.mm.ss zzzz"
        long := "H.mm.ss z"
        medium := "H.mm.ss"
        short := "H.mm" }
    skeletons := "Bhm h.mm B
Bhms h.mm.ss B
EBhm E h.mm B
EBhms E h.mm.ss B
EHm E HH.mm
EHms E HH.mm.ss
Ehm E h.mm\u202fa
Ehms E h.mm.ss\u202fa
GyM M.y G
GyMEd E d.M.y G
GyMd d.M.y G
H H
Hm HH.mm
Hms HH.mm.ss
Hmsv HH.mm.ss v
Hmv HH.mm v
MEd E d.M
MMd d.M
MMdd dd.MM
Md d.M
hm h.mm\u202fa
hms h.mm.ss\u202fa
hmsv h.mm.ss\u202fa v
hmv h.mm\u202fa v
ms mm.ss
yM L.y
yMEd E d.M.y
yMM M.y
yMd d.M.y" :: sv.skeletons }

/-- The locales of the Germanic languages but English with their conventions. -/
def germanic : List (String × Conventions) :=
  [ ("af", af), ("af_NA", afNA), ("af_ZA", af), ("da", da), ("da_DK", da), ("da_GL", da),
    ("de", de), ("de_AT", deAT), ("de_BE", de), ("de_CH", deCH), ("de_DE", de), ("de_IT", deIT),
    ("de_LI", deLI), ("de_LU", deLU), ("is", is), ("is_IS", is), ("nb", no), ("nb_NO", no),
    ("nb_SJ", no), ("nl", nl), ("nl_AW", nlAW), ("nl_BE", nlBE), ("nl_BQ", nlBQ), ("nl_CW", nlCW),
    ("nl_NL", nl), ("nl_SR", nlSR), ("nl_SX", nlSX), ("nn", nn), ("nn_NO", nn), ("no", no),
    ("sv", sv), ("sv_AX", svAX), ("sv_FI", svFI), ("sv_SE", sv) ]

end Phrasebook.ConventionsOf
