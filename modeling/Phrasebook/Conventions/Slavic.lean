import Phrasebook.Conventions.Basic

/-!
# Conventions of the Slavic languages
-/

namespace Phrasebook.ConventionsOf

/-- Belarusian. -/
def be : Conventions where
  symbols :=
    { decimal := ","
      group := "\u00a0" }
  numbers :=
    { percent := "#,##0\u00a0%"
      currency := "#,##0.00\u00a0¤" }
  compact :=
    { short := "other|0\u00a0тыс'.'|00\u00a0тыс'.'|000\u00a0тыс'.'|0\u00a0млн|00\u00a0млн|000\u00a0млн|0\u00a0млрд|00\u00a0млрд|000\u00a0млрд|0\u00a0трлн|00\u00a0трлн|000\u00a0трлн"
      long := "other|0 тысячы|00 тысячы|000 тысячы|0 мільёна|00 мільёна|000 мільёна|0 мільярда|00 мільярда|000 мільярда|0 трыльёна|00 трыльёна|000 трыльёна
few|0 тысячы|00 тысячы|000 тысячы|0 мільёны|00 мільёны|000 мільёны|0 мільярды|00 мільярды|000 мільярды|0 трыльёны|00 трыльёны|000 трыльёны
many|0 тысяч|00 тысяч|000 тысяч|0 мільёнаў|00 мільёнаў|000 мільёнаў|0 мільярдаў|00 мільярдаў|000 мільярдаў|0 трыльёнаў|00 трыльёнаў|000 трыльёнаў
one|0 тысяча|00 тысяча|000 тысяча|0 мільён|00 мільён|000 мільён|0 мільярд|00 мільярд|000 мільярд|0 трыльён|00 трыльён|000 трыльён"
      currency := "other|0\u00a0тыс'.'\u00a0¤|00\u00a0тыс'.'\u00a0¤|000\u00a0тыс'.'\u00a0¤|0\u00a0млн\u00a0¤|00\u00a0млн\u00a0¤|000\u00a0млн\u00a0¤|0\u00a0млрд\u00a0¤|00\u00a0млрд\u00a0¤|000\u00a0млрд\u00a0¤|0\u00a0трлн\u00a0¤|00\u00a0трлн\u00a0¤|000\u00a0трлн\u00a0¤" }
  currencies := "BRL BRL|BYN Br|CAD CAD|JPY ¥|NZD NZD|PHP PHP|RUB ₽|USD $" :: Conventions.rootCurrencies
  plurals := "few n % 10 = 2..4 and n % 100 != 12..14|many n % 10 = 0 or n % 10 = 5..9 or n % 100 = 11..14|one n % 10 = 1 and n % 100 != 11"
  months :=
    { format :=
        { wide := "студзеня|лютага|сакавіка|красавіка|мая|чэрвеня|ліпеня|жніўня|верасня|кастрычніка|лістапада|снежня"
          abbreviated := "сту|лют|сак|кра|мая|чэр|ліп|жні|вер|кас|ліс|сне"
          narrow := "с|л|с|к|м|ч|л|ж|в|к|л|с" }
      standAlone :=
        { wide := "студзень|люты|сакавік|красавік|май|чэрвень|ліпень|жнівень|верасень|кастрычнік|лістапад|снежань"
          abbreviated := "сту|лют|сак|кра|май|чэр|ліп|жні|вер|кас|ліс|сне"
          narrow := "с|л|с|к|м|ч|л|ж|в|к|л|с" } }
  weekdays :=
    { format :=
        { wide := "панядзелак|аўторак|серада|чацвер|пятніца|субота|нядзеля"
          abbreviated := "пн|аў|ср|чц|пт|сб|нд"
          narrow := "п|а|с|ч|п|с|н" } }
  quarters :=
    { format :=
        { wide := "1-шы квартал|2-гі квартал|3-ці квартал|4-ты квартал"
          abbreviated := "1-шы кв.|2-гі кв.|3-ці кв.|4-ты кв."
          narrow := "1|2|3|4" } }
  eras :=
    { wide := "да нараджэння Хрыстова|ад нараджэння Хрыстова"
      abbreviated := "да н.э.|н.э." }
  dayPeriods :=
    { format :=
        { wide := "am AM|pm PM"
          narrow := "am am|pm pm" } }
  dayPeriodRules := ""
  dates :=
    { full := "EEEE, d MMMM y\u202f'г'."
      long := "d MMMM y\u202f'г'."
      medium := "d MMM y\u202f'г'."
      short := "d.MM.yy" }
  times :=
    { full := "HH:mm:ss, zzzz" }
  moments :=
    { full := "\x7b1\x7d, \x7b0\x7d"
      long := "\x7b1\x7d, \x7b0\x7d"
      medium := "\x7b1\x7d, \x7b0\x7d"
      short := "\x7b1\x7d, \x7b0\x7d" }
  skeletons := "Ehm E h:mm\u202fa
Ehms E h:mm:ss\u202fa
Gy y\u202f'г'. G
GyMMM LLL y\u202f'г'. G
GyMMMEd E, d MMM y\u202f'г'. G
GyMMMd d MMM y\u202f'г'. G
GyMd dd.MM.y GGGGG
H H
Hv HH 'г' v
MEd E, d.M
MMMEd E, d MMM
MMMMEd E, d MMMM
MMMMW W 'тыдзень' MMMM
MMMMd d MMMM
MMMd d MMM
Md d.M
h hh\u202fa
hm h:mm\u202fa
hms h:mm:ss\u202fa
hmsv h:mm:ss\u202fa v
hmv h:mm\u202fa v
ms mm.ss
yM M.y
yMEd E, d.M.y
yMMM LLL y
yMMMEd E, d MMM y
yMMMM LLLL y
yMMMd d MMM y
yMd d.M.y
yQQQ QQQ y
yQQQQ QQQQ y
yw w 'тыдзень' Y" :: Conventions.rootSkeletons
  zones :=
    { place := "Час: \x7b0\x7d"
      unknownRegion := "Невядомы рэгіён"
      utcLong := "Універсальны каардынаваны час" }

/-- Bulgarian. -/
def bg : Conventions where
  symbols :=
    { decimal := ","
      group := "\u00a0" }
  numbers :=
    { currency := "#,##0.00\u00a0¤" }
  compact :=
    { short := "other|0\u00a0хил'.'|00\u00a0хил'.'|000\u00a0хил'.'|0\u00a0млн'.'|00\u00a0млн'.'|000\u00a0млн'.'|0\u00a0млрд'.'|00\u00a0млрд'.'|000\u00a0млрд'.'|0\u00a0трлн'.'|00\u00a0трлн'.'|000\u00a0трлн'.'"
      long := "other|0 хиляди|00 хиляди|000 хиляди|0 милиона|00 милиона|000 милиона|0 милиарда|00 милиарда|000 милиарда|0 трилиона|00 трилиона|000 трилиона
one|0 хил'.'|00 хиляди|000 хиляди|0 милион|00 милиона|000 милиона|0 милиард|00 милиарда|000 милиарда|0 трилион|00 трилиона|000 трилиона"
      currency := "other|0\u00a0хил'.'\u00a0¤|00\u00a0хил'.'\u00a0¤|000\u00a0хил'.'\u00a0¤|0\u00a0млн'.'\u00a0¤|00\u00a0млн'.'\u00a0¤|000\u00a0млн'.'\u00a0¤|0\u00a0млрд'.'\u00a0¤|00\u00a0млрд'.'\u00a0¤|000\u00a0млрд'.'\u00a0¤|0\u00a0трлн'.'\u00a0¤|00\u00a0трлн'.'\u00a0¤|000\u00a0трлн'.'\u00a0¤" }
  currencies := "AUD AUD|BGN лв.|BRL BRL|CAD CAD|CNY CNY|GBP GBP|HKD HKD|ILS ILS|INR INR|JPY JPY|KRW KRW|MXN MXN|NZD NZD|PHP PHP|TWD TWD|USD щ.д.|VND VND|XCD XCD" :: Conventions.rootCurrencies
  plurals := "one n = 1"
  months :=
    { format :=
        { wide := "януари|февруари|март|април|май|юни|юли|август|септември|октомври|ноември|декември"
          abbreviated := "яну|фев|март|апр|май|юни|юли|авг|сеп|окт|ное|дек"
          narrow := "я|ф|м|а|м|ю|ю|а|с|о|н|д" } }
  weekdays :=
    { format :=
        { wide := "понеделник|вторник|сряда|четвъртък|петък|събота|неделя"
          abbreviated := "пн|вт|ср|чт|пт|сб|нд"
          narrow := "п|в|с|ч|п|с|н" } }
  quarters :=
    { format :=
        { wide := "1. тримесечие|2. тримесечие|3. тримесечие|4. тримесечие"
          abbreviated := "1. трим.|2. трим.|3. трим.|4. трим."
          narrow := "1|2|3|4" } }
  eras :=
    { wide := "преди Христа|след Христа"
      abbreviated := "пр.Хр.|сл.Хр." }
  dayPeriods :=
    { format :=
        { wide := "am пр.об.|pm сл.об.|afternoon1 следобед|evening1 вечерта|midnight полунощ|morning1 сутринта|morning2 на обяд|night1 през нощта"
          abbreviated := "am am|pm pm|afternoon1 следобед|evening1 вечерта|midnight полунощ|morning1 сутринта|morning2 на обяд|night1 през нощта" } }
  dayPeriodRules := "afternoon1 50400 64800|evening1 64800 79200|midnight 0|morning1 14400 39600|morning2 39600 50400|night1 79200 14400"
  dates :=
    { full := "EEEE, d MMMM y\u202f'г'."
      long := "d MMMM y\u202f'г'."
      medium := "d.MM.y\u202f'г'."
      short := "d.MM.yy\u202f'г'." }
  times :=
    { full := "H:mm:ss 'ч'. zzzz"
      long := "H:mm:ss 'ч'. z"
      medium := "H:mm:ss"
      short := "H:mm" }
  moments :=
    { full := "\x7b1\x7d, \x7b0\x7d"
      long := "\x7b1\x7d, \x7b0\x7d"
      medium := "\x7b1\x7d, \x7b0\x7d"
      short := "\x7b1\x7d, \x7b0\x7d" }
  skeletons := "Bh h 'ч'. B
Bhm h:mm 'ч'. B
Bhms h:mm:ss 'ч'. B
EBh E, h B
EBhm E, h:mm 'ч'. B
EBhms E, h:mm:ss 'ч'. B
EHm E, HH:mm 'ч'.
EHms E, HH:mm:ss 'ч'.
Ed E, d
Eh E, h\u202fa
Ehm E, h:mm 'ч'. a
Ehms E, h:mm:ss 'ч'. a
Gy y\u202f'г'. G
GyM M.y\u202f'г'. G
GyMEd E, d.M.y\u202f'г'. G
GyMMM MM.y\u202f'г'. G
GyMMMEd E, d.MM.y\u202f'г'. G
GyMMMM MMMM y\u202f'г'. G
GyMMMMEd E, d MMMM y\u202f'г'. G
GyMMMMd d MMMM y\u202f'г'. G
GyMMMd d.MM.y\u202f'г'. G
GyMd dd.MM.y\u202f'г'. GGGGG
H HH 'ч'.
Hm HH:mm 'ч'.
Hms HH:mm:ss 'ч'.
Hmsv HH:mm:ss 'ч'. v
Hmv HH:mm 'ч'. v
Hv HH 'ч' v
MEd E, d.MM
MMM MM
MMMEd E, d.MM
MMMM LLLL
MMMMEd E, d MMMM
MMMMW 'седмица' W 'от' MMMM
MMMMd d MMMM
MMMMdd d MMMM
MMMd d.MM
Md d.MM
h h 'ч'. a
hm h:mm 'ч'. a
hms h:mm:ss 'ч'. a
hmsv h:mm:ss 'ч'. a v
hmv h:mm 'ч'. a v
hv h 'ч'. a v
ms m:ss
y y\u202f'г'.
yM MM.y\u202f'г'.
yMEd E, d.MM.y\u202f'г'.
yMMM MM.y\u202f'г'.
yMMMEd E, d.MM.y\u202f'г'.
yMMMM MMMM y\u202f'г'.
yMMMMEd E, d MMMM y\u202f'г'.
yMMMMd d MMMM y\u202f'г'.
yMMMd d.MM.y\u202f'г'.
yMd d.MM.y\u202f'г'.
yQQQ QQQ y\u202f'г'.
yQQQQ QQQQ y\u202f'г'.
yw 'седмица' w 'от' Y 'г'." :: Conventions.rootSkeletons
  zones :=
    { offset := "Гринуич\x7b0\x7d"
      unknownRegion := "непознат регион"
      utcLong := "Координирано универсално време" }

/-- Bosnian. -/
def bs : Conventions where
  symbols :=
    { decimal := ","
      group := "." }
  numbers :=
    { currency := "#,##0.00\u00a0¤" }
  compact :=
    { short := "other|0\u00a0hilj'.'|00\u00a0hilj'.'|000\u00a0hilj'.'|0\u00a0mil'.'|00\u00a0mil'.'|000\u00a0mil'.'|0\u00a0mlrd'.'|00\u00a0mlrd'.'|000\u00a0mlrd'.'|0\u00a0bil'.'|00\u00a0bil'.'|000\u00a0bil'.'"
      long := "other|0 hiljada|00 hiljada|000 hiljada|0 miliona|00 miliona|000 miliona|0 milijardi|00 milijardi|000 milijardi|0 biliona|00 biliona|000 biliona
few|0 hiljade|00 hiljade|000 hiljade|0 miliona|00 miliona|000 miliona|0 milijarde|00 milijarde|000 milijarde|0 biliona|00 biliona|000 biliona
one|0 hiljada|00 hiljada|000 hiljada|0 milion|00 milion|000 milion|0 milijarda|00 milijarda|000 milijarda|0 bilion|00 bilion|000 bilion"
      currency := "other|0\u00a0hilj'.'\u00a0¤|00\u00a0hilj'.'\u00a0¤|000\u00a0hilj'.'\u00a0¤|0\u00a0mil'.'\u00a0¤|00\u00a0mil'.'\u00a0¤|000\u00a0mil'.'\u00a0¤|0\u00a0mlrd'.'\u00a0¤|00\u00a0mlrd'.'\u00a0¤|000\u00a0mlrd'.'\u00a0¤|0\u00a0bil'.'\u00a0¤|00\u00a0bil'.'\u00a0¤|000\u00a0bil'.'\u00a0¤" }
  currencies := "AUD AUD|BAM KM|BRL BRL|CAD CAD|CNY CNY|GBP GBP|HKD HKD|HRK kn|ILS ILS|JPY ¥|MXN MXN|NZD NZD|PHP PHP|RSD din.|THB ฿|USD USD|XCD XCD|XPF XPF" :: Conventions.rootCurrencies
  plurals := "few v = 0 and i % 10 = 2..4 and i % 100 != 12..14 or f % 10 = 2..4 and f % 100 != 12..14|one v = 0 and i % 10 = 1 and i % 100 != 11 or f % 10 = 1 and f % 100 != 11"
  months :=
    { format :=
        { wide := "januar|februar|mart|april|maj|juni|juli|august|septembar|oktobar|novembar|decembar"
          abbreviated := "jan|feb|mar|apr|maj|jun|jul|aug|sep|okt|nov|dec"
          narrow := "jan|feb|mar|apr|may|jun|jul|aug|sep|okt|nov|dec" }
      standAlone :=
        { wide := "januar|februar|mart|april|maj|juni|juli|august|septembar|oktobar|novembar|decembar"
          abbreviated := "jan|feb|mar|apr|maj|jun|jul|aug|sep|okt|nov|dec"
          narrow := "j|f|m|a|m|j|j|a|s|o|n|d" } }
  weekdays :=
    { format :=
        { wide := "ponedjeljak|utorak|srijeda|četvrtak|petak|subota|nedjelja"
          abbreviated := "pon|uto|sri|čet|pet|sub|ned"
          narrow := "P|U|S|Č|P|S|N" }
      standAlone :=
        { wide := "ponedjeljak|utorak|srijeda|četvrtak|petak|subota|nedjelja"
          abbreviated := "pon|uto|sri|čet|pet|sub|ned"
          narrow := "p|u|s|č|p|s|n" } }
  quarters :=
    { format :=
        { wide := "Prvi kvartal|Drugi kvartal|Treći kvartal|Četvrti kvartal"
          abbreviated := "KV1|KV2|KV3|KV4"
          narrow := "1.|2.|3.|4." } }
  eras :=
    { wide := "prije nove ere|nove ere"
      abbreviated := "p. n. e.|n. e."
      narrow := "p.n.e.|n. e." }
  dayPeriods :=
    { format :=
        { wide := "am prijepodne|pm popodne|afternoon1 poslijepodne|evening1 navečer|midnight ponoć|morning1 ujutro|night1 po noći|noon podne"
          abbreviated := "am a.\u202fm.|pm p.\u202fm.|afternoon1 poslijepodne|evening1 navečer|midnight ponoć|morning1 ujutro|night1 po noći|noon podne" }
      standAlone :=
        { wide := "am prijepodne|pm popodne|afternoon1 poslijepodne|evening1 navečer|midnight ponoć|morning1 ujutro|night1 po noći|noon podne"
          abbreviated := "am a.\u202fm.|pm p.\u202fm.|afternoon1 poslijepodne|evening1 navečer|midnight ponoć|morning1 ujutro|night1 po noći|noon podne"
          narrow := "am prijepodne|pm popodne|afternoon1 poslijepodne|evening1 navečer|midnight ponoć|morning1 ujutro|night1 po noći|noon podne" } }
  dayPeriodRules := "afternoon1 43200 64800|evening1 64800 75600|midnight 0|morning1 14400 43200|night1 75600 14400|noon 43200"
  dates :=
    { full := "EEEE, d. MMMM y."
      long := "d. MMMM y."
      medium := "d. MMM y."
      short := "d. M. y." }
  moments :=
    { full := "\x7b1\x7d, \x7b0\x7d"
      long := "\x7b1\x7d, \x7b0\x7d" }
  skeletons := "Ed E, d.
Ehm E h:mm\u202fa
Ehms E h:mm:ss\u202fa
Gy y. G
GyMMM MMM y. G
GyMMMEd E, d. MMM y. G
GyMMMd d. MMM y. G
GyMd d. M. y. G
Hmsv HH:mm:ss (v)
Hmv HH:mm (v)
MEd E, d. M.
MMMEd E, d. MMM
MMMMEd E, d. MMMM
MMMMW W. 'sedmica' 'mjesec' MMMM
MMMMd d. MMMM
MMMd d. MMM
MMdd d. M.
Md d. M.
d d.
hm hh:mm\u202fa
hms hh:mm:ss\u202fa
hmsv h:mm:ss\u202fa (v)
hmv h:mm\u202fa (v)
y y.
yM MM/y
yMEd E, d. M. y.
yMM M. y.
yMMM MMM y.
yMMMEd E, d. MMM y.
yMMMM LLLL y.
yMMMd d. MMM y.
yMd d. M. y.
yQQQ QQQ y.
yQQQQ QQQQ y.
yw w. 'sedmica' 'u' Y." :: Conventions.rootSkeletons
  zones :=
    { offset := "GMT \x7b0\x7d"
      unknownRegion := "Nepoznata oblast"
      utcLong := "Koordinirano svjetsko vrijeme" }

/-- Bosnian (Cyrillic script). -/
def bsCyrl : Conventions where
  symbols :=
    { decimal := ","
      group := "." }
  numbers :=
    { currency := "#,##0.00\u00a0¤" }
  compact :=
    { short := "other|0|00\u00a0хиљ|000\u00a0хиљ|0\u00a0мил|00\u00a0мил|000\u00a0мил|0\u00a0млрд|00\u00a0млрд|000\u00a0млрд|0\u00a0бил|00\u00a0бил|000\u00a0бил"
      long := "other|0|00 хиљ|000 хиљ|0 мил|00 мил|000 мил|0 млрд|00 млрд|000 млрд|0 бил|00 бил|000 бил"
      currency := "other|0|00\u00a0хиљ\u00a0¤|000\u00a0хиљ\u00a0¤|0\u00a0мил\u00a0¤|00\u00a0мил\u00a0¤|000\u00a0мил\u00a0¤|0\u00a0млрд\u00a0¤|00\u00a0млрд\u00a0¤|000\u00a0млрд\u00a0¤|0\u00a0бил\u00a0¤|00\u00a0бил\u00a0¤|000\u00a0бил\u00a0¤" }
  currencies := "BAM КМ|CZK Кч|JPY ¥|PLN зл|RSD дин.|TRY Тл" :: Conventions.rootCurrencies
  plurals := "few v = 0 and i % 10 = 2..4 and i % 100 != 12..14 or f % 10 = 2..4 and f % 100 != 12..14|one v = 0 and i % 10 = 1 and i % 100 != 11 or f % 10 = 1 and f % 100 != 11"
  months :=
    { format :=
        { wide := "јануар|фебруар|март|април|мај|јуни|јули|аугуст|септембар|октобар|новембар|децембар"
          abbreviated := "јан|феб|мар|апр|мај|јун|јул|ауг|сеп|окт|нов|дец"
          narrow := "ј|ф|м|а|м|ј|ј|а|с|о|н|д" } }
  weekdays :=
    { format :=
        { wide := "понедјељак|уторак|сриједа|четвртак|петак|субота|недјеља"
          abbreviated := "пон|уто|сри|чет|пет|суб|нед"
          narrow := "п|у|с|ч|п|с|н" } }
  quarters :=
    { format :=
        { wide := "Прво тромесечје|Друго тромесечје|Треће тромесечје|Четврто тромесечје"
          abbreviated := "К1|К2|К3|К4"
          narrow := "1.|2.|3.|4." } }
  eras :=
    { wide := "прије нове ере|нове ере"
      abbreviated := "п. н. е.|н. е."
      narrow := "п.н.е.|н.е." }
  dayPeriods :=
    { format :=
        { wide := "am прије подне|pm послије подне|afternoon1 у подне|evening1 увече|midnight поноћ|morning1 ујутру|night1 ноћу|noon подне"
          abbreviated := "am пре\u202fподне|pm поподне|afternoon1 у подне|evening1 увече|midnight поноћ|morning1 ујутру|night1 ноћу|noon подне" }
      standAlone :=
        { wide := "am прије подне|pm послије подне|afternoon1 послийеподне|evening1 вече|midnight поноћ|morning1 јутро|night1 ноћ|noon подне"
          abbreviated := "am пре\u202fподне|pm поподне|afternoon1 послийеподне|evening1 вече|midnight поноћ|morning1 јутро|night1 ноћ|noon подне" } }
  dayPeriodRules := "afternoon1 43200 64800|evening1 64800 75600|midnight 0|morning1 14400 43200|night1 75600 14400|noon 43200"
  dates :=
    { full := "EEEE, dd. MMMM y."
      long := "dd. MMMM y."
      medium := "dd.MM.y."
      short := "d.M.yy." }
  skeletons := "Ed E, d.
Gy y. G
GyMMM MMM y. G
GyMMMEd E, dd. MMM y. G
GyMMMd dd. MMM y. G
MEd E, dd.MM.
MMMEd E, dd. MMM
MMMMW 'седмица' W 'мјесец' MMMM
MMMMd d. MMMM
MMMd dd. MMM
Md dd.MM.
y y.
yM MM.y.
yMEd E, dd.MM.y.
yMMM MMM y.
yMMMEd E, dd. MMM y.
yMMMM MMMM y.
yMMMd dd. MMM y.
yMd dd.MM.y.
yw 'седмица' w 'година' Y" :: Conventions.rootSkeletons
  zones :=
    { place := "Време: \x7b0\x7d"
      unknownRegion := "Непозната или неважећа област"
      utcLong := "Координисано универзално вријеме" }

/-- Czech. -/
def cs : Conventions where
  symbols :=
    { decimal := ","
      group := "\u00a0" }
  numbers :=
    { percent := "#,##0\u00a0%"
      currency := "#,##0.00\u00a0¤" }
  compact :=
    { short := "other|0\u00a0tis'.'|00\u00a0tis'.'|000\u00a0tis'.'|0\u00a0mil'.'|00\u00a0mil'.'|000\u00a0mil'.'|0\u00a0mld'.'|00\u00a0mld'.'|000\u00a0mld'.'|0\u00a0bil'.'|00\u00a0bil'.'|000\u00a0bil'.'"
      long := "other|0 tisíc|00 tisíc|000 tisíc|0 milionů|00 milionů|000 milionů|0 miliard|00 miliard|000 miliard|0 bilionů|00 bilionů|000 bilionů
few|0 tisíce|00 tisíc|000 tisíc|0 miliony|00 milionů|000 milionů|0 miliardy|00 miliard|000 miliard|0 biliony|00 bilionů|000 bilionů
many|0 tisíce|00 tisíce|000 tisíce|0 milionu|00 milionu|000 milionu|0 miliardy|00 miliardy|000 miliardy|0 bilionu|00 bilionu|000 bilionu
one|0 tisíc|00 tisíc|000 tisíc|0 milion|00 milionů|000 milionů|0 miliarda|00 miliard|000 miliard|0 bilion|00 bilionů|000 bilionů"
      currency := "other|0\u00a0tis'.'\u00a0¤|00\u00a0tis'.'\u00a0¤|000\u00a0tis'.'\u00a0¤|0\u00a0mil'.'\u00a0¤|00\u00a0mil'.'\u00a0¤|000\u00a0mil'.'\u00a0¤|0\u00a0mld'.'\u00a0¤|00\u00a0mld'.'\u00a0¤|000\u00a0mld'.'\u00a0¤|0\u00a0bil'.'\u00a0¤|00\u00a0bil'.'\u00a0¤|000\u00a0bil'.'\u00a0¤" }
  currencies := "AUD AU$|CSK Kčs|CZK Kč|ILS ILS|INR INR|PHP PHP|VND VND|XEU ECU|XXX XXX" :: Conventions.rootCurrencies
  plurals := "few i = 2..4 and v = 0|many v != 0|one i = 1 and v = 0"
  months :=
    { format :=
        { wide := "ledna|února|března|dubna|května|června|července|srpna|září|října|listopadu|prosince"
          abbreviated := "led|úno|bře|dub|kvě|čvn|čvc|srp|zář|říj|lis|pro"
          narrow := "1|2|3|4|5|6|7|8|9|10|11|12" }
      standAlone :=
        { wide := "leden|únor|březen|duben|květen|červen|červenec|srpen|září|říjen|listopad|prosinec"
          abbreviated := "led|úno|bře|dub|kvě|čvn|čvc|srp|zář|říj|lis|pro"
          narrow := "1|2|3|4|5|6|7|8|9|10|11|12" } }
  weekdays :=
    { format :=
        { wide := "pondělí|úterý|středa|čtvrtek|pátek|sobota|neděle"
          abbreviated := "po|út|st|čt|pá|so|ne"
          narrow := "P|Ú|S|Č|P|S|N" } }
  quarters :=
    { format :=
        { wide := "1. čtvrtletí|2. čtvrtletí|3. čtvrtletí|4. čtvrtletí"
          abbreviated := "Q1|Q2|Q3|Q4"
          narrow := "1|2|3|4" } }
  eras :=
    { wide := "před naším letopočtem|našeho letopočtu"
      abbreviated := "př. n. l.|n. l."
      narrow := "př.n.l.|n.l." }
  dayPeriods :=
    { format :=
        { wide := "am dop.|pm odp.|afternoon1 odpoledne|evening1 večer|midnight půlnoc|morning1 ráno|morning2 dopoledne|night1 v noci|noon poledne"
          abbreviated := "am dop.|pm odp.|afternoon1 odp.|evening1 več.|midnight půln.|morning1 r.|morning2 dop.|night1 v n.|noon pol."
          narrow := "am dop.|pm odp.|afternoon1 o.|evening1 v.|midnight půl.|morning1 r.|morning2 d.|night1 n.|noon pol." }
      standAlone :=
        { wide := "am dop.|pm odp.|afternoon1 odpoledne|evening1 večer|midnight půlnoc|morning1 ráno|morning2 dopoledne|night1 noc|noon poledne"
          narrow := "am dop.|pm odp.|afternoon1 odp.|evening1 več.|midnight půl.|morning1 ráno|morning2 dop.|night1 noc|noon pol." } }
  dayPeriodRules := "afternoon1 43200 64800|evening1 64800 79200|midnight 0|morning1 14400 32400|morning2 32400 43200|night1 79200 14400|noon 43200"
  dates :=
    { full := "EEEE d. MMMM y"
      long := "d. MMMM y"
      medium := "d. M. y"
      short := "dd.MM.yy" }
  times :=
    { full := "H:mm:ss, zzzz"
      long := "H:mm:ss z"
      medium := "H:mm:ss"
      short := "H:mm" }
  skeletons := "EHm E H:mm
EHms E H:mm:ss
Ed E d.
Ehm E h:mm\u202fa
Ehms E h:mm:ss\u202fa
Gy y G
GyM M/y G
GyMEd E, d. M. y G
GyMMM LLLL y G
GyMMMEd E d. M. y G
GyMMMMEd E d. MMMM y G
GyMMMMd d. MMMM y G
GyMMMd d. M. y G
GyMd d. M. y GGGGG
H H
Hm H:mm
Hms H:mm:ss
Hmsv H:mm:ss v
Hmsvvvv H:mm:ss, vvvv
Hmv H:mm v
Hmvvvv H:mm, vvvv
Hv H 'h' v
MEd E d. M.
MMMEd E d. M.
MMMMEd E d. MMMM
MMMMW W. 'týden' MMMM
MMMMd d. MMMM
MMMd d. M.
Md d. M.
d d.
hm h:mm\u202fa
hms h:mm:ss\u202fa
hmsv h:mm:ss\u202fa v
hmsvvvv h:mm:ss\u202fa, vvvv
hmv h:mm\u202fa v
hmvvvv h:mm\u202fa, vvvv
yM M/y
yMEd E d. M. y
yMMM LLLL y
yMMMEd E d. M. y
yMMMM LLLL y
yMMMMEd E d. MMMM y
yMMMMd d. MMMM y
yMMMd d. M. y
yMd d. M. y
yQQQ QQQ y
yQQQQ QQQQ y
yw w. 'týden' 'roku' Y" :: Conventions.rootSkeletons
  zones :=
    { place := "časové pásmo \x7b0\x7d"
      unknownRegion := "neznámá oblast"
      utcLong := "koordinovaný světový čas" }

/-- Croatian. -/
def hr : Conventions where
  symbols :=
    { decimal := ","
      group := "."
      minus := "−" }
  numbers :=
    { percent := "#,##0\u00a0%"
      currency := "#,##0.00\u00a0¤" }
  compact :=
    { short := "other|0\u00a0tis'.'|00\u00a0tis'.'|000\u00a0tis'.'|0\u00a0mil'.'|00\u00a0mil'.'|000\u00a0mil'.'|0\u00a0mlr'.'|00\u00a0mlr'.'|000\u00a0mlr'.'|0\u00a0bil'.'|00\u00a0bil'.'|000\u00a0bil'.'"
      long := "other|0 tisuća|00 tisuća|000 tisuća|0 milijuna|00 milijuna|000 milijuna|0 milijardi|00 milijardi|000 milijardi|0 bilijuna|00 bilijuna|000 bilijuna
few|0 tisuće|00 tisuće|000 tisuće|0 milijuna|00 milijuna|000 milijuna|0 milijarde|00 milijarde|000 milijarde|0 bilijuna|00 bilijuna|000 bilijuna
one|0 tisuća|00 tisuća|000 tisuća|0 milijun|00 milijun|000 milijun|0 milijarda|00 milijarda|000 milijarda|0 bilijun|00 bilijun|000 bilijun"
      currency := "other|0\u00a0tis'.'\u00a0¤|00\u00a0tis'.'\u00a0¤|000\u00a0tis'.'\u00a0¤|0\u00a0mil'.'\u00a0¤|00\u00a0mil'.'\u00a0¤|000\u00a0mil'.'\u00a0¤|0\u00a0mlr'.'\u00a0¤|00\u00a0mlr'.'\u00a0¤|000\u00a0mlr'.'\u00a0¤|0\u00a0bil'.'\u00a0¤|00\u00a0bil'.'\u00a0¤|000\u00a0bil'.'\u00a0¤" }
  currencies := "AUD AUD|BRL BRL|CAD CAD|CNY CNY|GBP GBP|HKD HKD|HRK kn|ILS ILS|INR INR|JPY JPY|KRW KRW|MXN MXN|NZD NZD|PHP PHP|TWD TWD|USD USD|VND VND|XCD XCD|XPF XPF|XXX XXX" :: Conventions.rootCurrencies
  plurals := "few v = 0 and i % 10 = 2..4 and i % 100 != 12..14 or f % 10 = 2..4 and f % 100 != 12..14|one v = 0 and i % 10 = 1 and i % 100 != 11 or f % 10 = 1 and f % 100 != 11"
  months :=
    { format :=
        { wide := "siječnja|veljače|ožujka|travnja|svibnja|lipnja|srpnja|kolovoza|rujna|listopada|studenoga|prosinca"
          abbreviated := "sij|velj|ožu|tra|svi|lip|srp|kol|ruj|lis|stu|pro"
          narrow := "1.|2.|3.|4.|5.|6.|7.|8.|9.|10.|11.|12." }
      standAlone :=
        { wide := "siječanj|veljača|ožujak|travanj|svibanj|lipanj|srpanj|kolovoz|rujan|listopad|studeni|prosinac"
          abbreviated := "sij|velj|ožu|tra|svi|lip|srp|kol|ruj|lis|stu|pro"
          narrow := "1.|2.|3.|4.|5.|6.|7.|8.|9.|10.|11.|12." } }
  weekdays :=
    { format :=
        { wide := "ponedjeljak|utorak|srijeda|četvrtak|petak|subota|nedjelja"
          abbreviated := "pon|uto|sri|čet|pet|sub|ned"
          narrow := "P|U|S|Č|P|S|N" }
      standAlone :=
        { wide := "ponedjeljak|utorak|srijeda|četvrtak|petak|subota|nedjelja"
          abbreviated := "pon|uto|sri|čet|pet|sub|ned"
          narrow := "p|u|s|č|p|s|n" } }
  quarters :=
    { format :=
        { wide := "1. kvartal|2. kvartal|3. kvartal|4. kvartal"
          abbreviated := "1kv|2kv|3kv|4kv"
          narrow := "1.|2.|3.|4." }
      standAlone :=
        { wide := "1. kvartal|2. kvartal|3. kvartal|4. kvartal"
          abbreviated := "1. kv.|2. kv.|3. kv.|4. kv."
          narrow := "1.|2.|3.|4." } }
  eras :=
    { wide := "prije Krista|poslije Krista"
      abbreviated := "pr. Kr.|po. Kr."
      narrow := "pr.n.e.|AD" }
  dayPeriods :=
    { format :=
        { wide := "am AM|pm PM|afternoon1 poslije podne|evening1 navečer|midnight ponoć|morning1 ujutro|night1 noću|noon podne"
          abbreviated := "am AM|pm PM|afternoon1 popodne|evening1 navečer|midnight ponoć|morning1 ujutro|night1 noću|noon podne" } }
  dayPeriodRules := "afternoon1 43200 64800|evening1 64800 75600|midnight 0|morning1 14400 43200|night1 75600 14400|noon 43200"
  dates :=
    { full := "EEEE, d. MMMM y."
      long := "d. MMMM y."
      medium := "d. MMM y."
      short := "dd. MM. y." }
  times :=
    { full := "HH:mm:ss (zzzz)" }
  skeletons := "Ed E, d.
Ehm E h:mm\u202fa
Ehms E h:mm:ss\u202fa
Gy y. G
GyM MM. y. G
GyMEd E, dd. MM. y., G
GyMMM LLL y. G
GyMMMEd E, d. MMM y. G
GyMMMd d. MMM y. G
GyMd d. M. y. GGGGG
Hv HH 'h' v
M L.
MEd E, dd. MM.
MMMEd E, d. MMM
MMMMEd E, d. MMMM
MMMMW W. 'tjedan' MMMM
MMMMd d. MMMM
MMMd d. MMM
MMdd dd. MM.
Md dd. MM.
d d.
hm hh:mm\u202fa
hms hh:mm:ss\u202fa
hmsv h:mm:ss\u202fa v
hmv h:mm\u202fa v
y y.
yM MM. y.
yMEd E, dd. MM. y.
yMM MM. y.
yMMM LLL y.
yMMMEd E, d. MMM y.
yMMMM LLLL y.
yMMMd d. MMM y.
yMd dd. MM. y.
yQQQ QQQ y.
yQQQQ QQQQ y.
yw w. 'tjedan' 'u' Y." :: Conventions.rootSkeletons
  zones :=
    { unknownRegion := "nepoznato područje"
      utcLong := "koordinirano svjetsko vrijeme" }

/-- Macedonian. -/
def mk : Conventions where
  symbols :=
    { decimal := ","
      group := "." }
  numbers :=
    { percent := "#,##0\u00a0%"
      currency := "#,##0.00\u00a0¤" }
  compact :=
    { short := "other|0\u00a0илј'.'|00\u00a0илј'.'|000\u00a0илј'.'|0\u00a0мил'.'|00\u00a0мил'.'|000\u00a0М|0\u00a0милј'.'|00\u00a0милј'.'|000\u00a0ми'.'|0\u00a0бил'.'|00\u00a0бил'.'|000\u00a0бил'.'
one|0\u00a0илј'.'|00\u00a0илј'.'|000\u00a0илј'.'|0\u00a0мил'.'|00\u00a0мил'.'|000\u00a0М|0\u00a0милј'.'|00\u00a0милј'.'|000\u00a0мј'.'|0\u00a0бил'.'|00\u00a0бил'.'|000\u00a0бил'.'"
      long := "other|0 илјади|00 илјади|000 илјади|0 милиони|00 милиони|000 милиони|0 милијарди|00 милијарди|000 милијарди|0 билиони|00 билиони|000 билиони
one|0 илјада|00 илјада|000 илјада|0 милион|00 милион|000 милион|0 милијарда|00 милијарда|000 милијарда|0 билион|00 билион|000 билион"
      currency := "other|0\u00a0илј'.'\u00a0¤|00\u00a0илј'.'\u00a0¤|000\u00a0илј'.'\u00a0¤|0\u00a0мил'.'\u00a0¤|00\u00a0мил'.'\u00a0¤|000\u00a0М\u00a0¤|0\u00a0милј'.'\u00a0¤|00\u00a0милј'.'\u00a0¤|000\u00a0ми'.'\u00a0¤|0\u00a0бил'.'\u00a0¤|00\u00a0бил'.'\u00a0¤|000\u00a0бил'.'\u00a0¤
one|0\u00a0илј'.'\u00a0¤|00\u00a0илј'.'\u00a0¤|000\u00a0илј'.'\u00a0¤|0\u00a0мил'.'\u00a0¤|00\u00a0мил'.'\u00a0¤|000\u00a0М\u00a0¤|0\u00a0милј'.'\u00a0¤|00\u00a0милј'.'\u00a0¤|000\u00a0мј'.'\u00a0¤|0\u00a0бил'.'\u00a0¤|00\u00a0бил'.'\u00a0¤|000\u00a0бил'.'\u00a0¤" }
  currencies := "AUD AUD|CNY CNY|GBP GBP|HKD HKD|ILS ILS|INR INR|JPY JPY|KRW KRW|MKD ден.|NZD NZD|PHP PHP|TWD TWD|VND VND" :: Conventions.rootCurrencies
  plurals := "one v = 0 and i % 10 = 1 and i % 100 != 11 or f % 10 = 1 and f % 100 != 11"
  months :=
    { format :=
        { wide := "јануари|февруари|март|април|мај|јуни|јули|август|септември|октомври|ноември|декември"
          abbreviated := "јан.|фев.|мар.|апр.|мај|јун.|јул.|авг.|сеп.|окт.|ное.|дек."
          narrow := "ј|ф|м|а|м|ј|ј|а|с|о|н|д" } }
  weekdays :=
    { format :=
        { wide := "понеделник|вторник|среда|четврток|петок|сабота|недела"
          abbreviated := "пон.|вто.|сре.|чет.|пет.|саб.|нед."
          narrow := "п|в|с|ч|п|с|н" } }
  quarters :=
    { format :=
        { wide := "прво тримесечје|второ тримесечје|трето тримесечје|четврто тримесечје"
          abbreviated := "јан. – мар.|апр. – јун.|јул. – сеп.|окт. – дек."
          narrow := "1|2|3|4" } }
  eras :=
    { wide := "пред нашата ера|од нашата ера"
      abbreviated := "пр. н. е.|н. е." }
  dayPeriods :=
    { format :=
        { wide := "am претпл.|pm попл.|afternoon1 попладне|evening1 навечер|midnight полноќ|morning1 наутро|morning2 претпладне|night1 ноќе|noon напладне"
          narrow := "am претпл.|pm попл.|afternoon1 попл.|evening1 навечер|midnight полн.|morning1 наутро|morning2 претпл.|night1 ноќе|noon напл." }
      standAlone :=
        { wide := "am претпл.|pm попл.|afternoon1 попладне|evening1 вечер|midnight полноќ|morning1 утро|morning2 претпладне|night1 ноќ|noon пладне"
          abbreviated := "am претпл.|pm попл.|afternoon1 попл.|evening1 вечер|midnight полноќ|morning1 утро|morning2 претпл.|night1 ноќ|noon пладне"
          narrow := "am претпл.|pm попл.|afternoon1 попл.|evening1 вечер|midnight полн.|morning1 утро|morning2 претпл.|night1 ноќ|noon пладне" } }
  dayPeriodRules := "afternoon1 43200 64800|evening1 64800 86400|midnight 0|morning1 14400 36000|morning2 36000 43200|night1 0 14400|noon 43200"
  dates :=
    { full := "EEEE, d MMMM y\u202f'г'."
      long := "d MMMM y\u202f'г'."
      medium := "d MMM y\u202f'г'."
      short := "d.M.y\u202f'г'." }
  moments :=
    { full := "\x7b1\x7d, \x7b0\x7d"
      long := "\x7b1\x7d, \x7b0\x7d"
      medium := "\x7b1\x7d, \x7b0\x7d"
      short := "\x7b1\x7d, \x7b0\x7d" }
  skeletons := "Ed E, d
Ehm E h:mm\u202fa
Ehms E h:mm:ss\u202fa
Gy y\u202f'г'. G
GyM M.y\u202f'г'. G
GyMEd E, d.M.y\u202f'г'. G
GyMMM MMM y\u202f'г'. G
GyMMMEd E, d MMM y\u202f'г'. G
GyMMMd d MMM y\u202f'г'. G
GyMd d.M.y\u202f'г'. G
H H
Hv HH 'ч'. v
MEd E, d.M
MMMEd E, d MMM
MMMMEd E, d MMMM
MMMMW W. 'седмица' 'од' MMMM
MMMMd d MMMM
MMMd d MMM
Md d.M
Mdd d.M
hm h:mm\u202fa
hms h:mm:ss\u202fa
hmsv h:mm:ss\u202fa v
hmv h:mm\u202fa v
y y\u202f'г'.
yM M.y\u202f'г'.
yMEd E, d.M.y\u202f'г'.
yMMM MMM y\u202f'г'.
yMMMEd E, d MMM y\u202f'г'.
yMMMM MMMM y\u202f'г'.
yMMMd d MMM y\u202f'г'.
yMd d.M.y\u202f'г'.
yQQQ QQQ y\u202f'г'.
yQQQQ QQQQ y\u202f'г'.
yw w. 'седмица' 'од' Y" :: Conventions.rootSkeletons
  zones :=
    { place := "Време во \x7b0\x7d"
      unknownRegion := "Непознат регион"
      utcLong := "Координирано универзално време" }

/-- Polish. -/
def pl : Conventions where
  symbols :=
    { decimal := ","
      group := "\u00a0" }
  numbers :=
    { currency := "#,##0.00\u00a0¤" }
  compact :=
    { short := "other|0\u00a0tys'.'|00\u00a0tys'.'|000\u00a0tys'.'|0\u00a0mln|00\u00a0mln|000\u00a0mln|0\u00a0mld|00\u00a0mld|000\u00a0mld|0\u00a0bln|00\u00a0bln|000\u00a0bln"
      long := "other|0 tysiąca|00 tysiąca|000 tysiąca|0 miliona|00 miliona|000 miliona|0 miliarda|00 miliarda|000 miliarda|0 biliona|00 biliona|000 biliona
few|0 tysiące|00 tysiące|000 tysiące|0 miliony|00 miliony|000 miliony|0 miliardy|00 miliardy|000 miliardy|0 biliony|00 biliony|000 biliony
many|0 tysięcy|00 tysięcy|000 tysięcy|0 milionów|00 milionów|000 milionów|0 miliardów|00 miliardów|000 miliardów|0 bilionów|00 bilionów|000 bilionów
one|0 tysiąc|00 tysiąc|000 tysiąc|0 milion|00 milion|000 milion|0 miliard|00 miliard|000 miliard|0 bilion|00 bilion|000 bilion"
      currency := "other|0\u00a0tys'.'\u00a0¤|00\u00a0tys'.'\u00a0¤|000\u00a0tys'.'\u00a0¤|0\u00a0mln\u00a0¤|00\u00a0mln\u00a0¤|000\u00a0mln\u00a0¤|0\u00a0mld\u00a0¤|00\u00a0mld\u00a0¤|000\u00a0mld\u00a0¤|0\u00a0bln\u00a0¤|00\u00a0bln\u00a0¤|000\u00a0bln\u00a0¤" }
  currencies := "AUD AUD|CAD CAD|CNY CNY|GBP GBP|HKD HKD|ILS ILS|INR INR|JPY JPY|KRW KRW|MXN MXN|NZD NZD|PHP PHP|PLN zł|TWD TWD|USD USD|VND VND|XCG XCG" :: Conventions.rootCurrencies
  plurals := "few v = 0 and i % 10 = 2..4 and i % 100 != 12..14|many v = 0 and i != 1 and i % 10 = 0..1 or v = 0 and i % 10 = 5..9 or v = 0 and i % 100 = 12..14|one i = 1 and v = 0"
  months :=
    { format :=
        { wide := "stycznia|lutego|marca|kwietnia|maja|czerwca|lipca|sierpnia|września|października|listopada|grudnia"
          abbreviated := "sty|lut|mar|kwi|maj|cze|lip|sie|wrz|paź|lis|gru"
          narrow := "s|l|m|k|m|c|l|s|w|p|l|g" }
      standAlone :=
        { wide := "styczeń|luty|marzec|kwiecień|maj|czerwiec|lipiec|sierpień|wrzesień|październik|listopad|grudzień"
          abbreviated := "sty|lut|mar|kwi|maj|cze|lip|sie|wrz|paź|lis|gru"
          narrow := "S|L|M|K|M|C|L|S|W|P|L|G" } }
  weekdays :=
    { format :=
        { wide := "poniedziałek|wtorek|środa|czwartek|piątek|sobota|niedziela"
          abbreviated := "pon.|wt.|śr.|czw.|pt.|sob.|niedz."
          short := "pon|wto|śro|czw|pią|sob|nie"
          narrow := "p|w|ś|c|p|s|n" }
      standAlone :=
        { wide := "poniedziałek|wtorek|środa|czwartek|piątek|sobota|niedziela"
          abbreviated := "pon.|wt.|śr.|czw.|pt.|sob.|niedz."
          short := "pon|wto|śro|czw|pią|sob|nie"
          narrow := "P|W|Ś|C|P|S|N" } }
  quarters :=
    { format :=
        { wide := "I kwartał|II kwartał|III kwartał|IV kwartał"
          abbreviated := "I kw.|II kw.|III kw.|IV kw."
          narrow := "1|2|3|4" } }
  eras :=
    { wide := "przed naszą erą|naszej ery"
      abbreviated := "p.n.e.|n.e." }
  dayPeriods :=
    { format :=
        { wide := "am AM|pm PM|afternoon1 po południu|evening1 wieczorem|midnight o północy|morning1 rano|morning2 przed południem|night1 w nocy|noon w południe"
          narrow := "am a|pm p|afternoon1 po poł.|evening1 wiecz.|midnight o półn.|morning1 rano|morning2 przed poł.|night1 w nocy|noon w poł." }
      standAlone :=
        { wide := "am AM|pm PM|afternoon1 popołudnie|evening1 wieczór|midnight północ|morning1 rano|morning2 przedpołudnie|night1 noc|noon południe"
          narrow := "am a|pm p|afternoon1 popoł.|evening1 wiecz.|midnight półn.|morning1 rano|morning2 przedpoł.|night1 noc|noon poł." } }
  dayPeriodRules := "afternoon1 43200 64800|evening1 64800 75600|midnight 0|morning1 21600 36000|morning2 36000 43200|night1 75600 21600|noon 43200"
  dates :=
    { full := "EEEE, d MMMM y"
      long := "d MMMM y"
      medium := "d MMM y"
      short := "d.MM.y" }
  moments :=
    { medium := "\x7b1\x7d, \x7b0\x7d"
      short := "\x7b1\x7d, \x7b0\x7d" }
  skeletons := "EHm E, HH:mm
EHms E, HH:mm:ss
Ed E, d
Ehm E, h:mm\u202fa
Ehms E, h:mm:ss\u202fa
Gy y G
GyM MM.y G
GyMEd E, d.MM.y G
GyMMM MMM y G
GyMMMEd E, d MMM y G
GyMMMM LLLL y G
GyMMMMEd E, d MMMM y G
GyMMMMd d MMMM y G
GyMMMd d MMM y G
GyMd d.MM.y GGGGG
MEd E, d.MM
MMMEd E, d MMM
MMMMEd E, d MMMM
MMMMW LLLL, 'tydz'. W
MMMMd d MMMM
MMMd d MMM
Md d.MM
hm h:mm\u202fa
hms h:mm:ss\u202fa
hmsv h:mm:ss\u202fa v
hmv h:mm\u202fa v
yM MM.y
yMEd E, d.MM.y
yMMM LLL y
yMMMEd E, d MMM y
yMMMM LLLL y
yMMMMEd E, d MMMM y
yMMMMd d MMMM y
yMMMd d MMM y
yMd d.MM.y
yQQQ QQQ y
yQQQQ QQQQ y
yw Y, 'tydz'. w" :: Conventions.rootSkeletons
  zones :=
    { place := "czas: \x7b0\x7d"
      unknownRegion := "Nieznany region"
      utcLong := "uniwersalny czas koordynowany" }

/-- Russian. -/
def ru : Conventions where
  symbols :=
    { decimal := ","
      group := "\u00a0" }
  numbers :=
    { percent := "#,##0\u00a0%"
      currency := "#,##0.00\u00a0¤" }
  compact :=
    { short := "other|0\u00a0тыс'.'|00\u00a0тыс'.'|000\u00a0тыс'.'|0\u00a0млн|00\u00a0млн|000\u00a0млн|0\u00a0млрд|00\u00a0млрд|000\u00a0млрд|0\u00a0трлн|00\u00a0трлн|000\u00a0трлн"
      long := "other|0 тысячи|00 тысячи|000 тысячи|0 миллиона|00 миллиона|000 миллиона|0 миллиарда|00 миллиарда|000 миллиарда|0 триллиона|00 триллиона|000 триллиона
many|0 тысяч|00 тысяч|000 тысяч|0 миллионов|00 миллионов|000 миллионов|0 миллиардов|00 миллиардов|000 миллиардов|0 триллионов|00 триллионов|000 триллионов
one|0 тысяча|00 тысяча|000 тысяча|0 миллион|00 миллион|000 миллион|0 миллиард|00 миллиард|000 миллиард|0 триллион|00 триллион|000 триллион"
      currency := "other|0\u00a0тыс'.'\u00a0¤|00\u00a0тыс'.'\u00a0¤|000\u00a0тыс'.'\u00a0¤|0\u00a0млн\u00a0¤|00\u00a0млн\u00a0¤|000\u00a0млн\u00a0¤|0\u00a0млрд\u00a0¤|00\u00a0млрд\u00a0¤|000\u00a0млрд\u00a0¤|0\u00a0трлн\u00a0¤|00\u00a0трлн\u00a0¤|000\u00a0трлн\u00a0¤" }
  currencies := "JPY ¥|PHP PHP|RUB ₽|RUR р.|THB ฿|TMT ТМТ|UAH ₴|USD $|XCG Cg|XXX XXXX" :: Conventions.rootCurrencies
  plurals := "few v = 0 and i % 10 = 2..4 and i % 100 != 12..14|many v = 0 and i % 10 = 0 or v = 0 and i % 10 = 5..9 or v = 0 and i % 100 = 11..14|one v = 0 and i % 10 = 1 and i % 100 != 11"
  months :=
    { format :=
        { wide := "января|февраля|марта|апреля|мая|июня|июля|августа|сентября|октября|ноября|декабря"
          abbreviated := "янв.|февр.|мар.|апр.|мая|июн.|июл.|авг.|сент.|окт.|нояб.|дек."
          narrow := "Я|Ф|М|А|М|И|И|А|С|О|Н|Д" }
      standAlone :=
        { wide := "январь|февраль|март|апрель|май|июнь|июль|август|сентябрь|октябрь|ноябрь|декабрь"
          abbreviated := "янв.|февр.|март|апр.|май|июнь|июль|авг.|сент.|окт.|нояб.|дек."
          narrow := "Я|Ф|М|А|М|И|И|А|С|О|Н|Д" } }
  weekdays :=
    { format :=
        { wide := "понедельник|вторник|среда|четверг|пятница|суббота|воскресенье"
          abbreviated := "пн|вт|ср|чт|пт|сб|вс"
          narrow := "П|В|С|Ч|П|С|В" } }
  quarters :=
    { format :=
        { wide := "1-й квартал|2-й квартал|3-й квартал|4-й квартал"
          abbreviated := "1-й кв.|2-й кв.|3-й кв.|4-й кв."
          narrow := "1|2|3|4" } }
  eras :=
    { wide := "до Рождества Христова|от Рождества Христова"
      abbreviated := "до н. э.|н. э."
      narrow := "до н.э.|н.э." }
  dayPeriods :=
    { format :=
        { wide := "am AM|pm PM|afternoon1 дня|evening1 вечера|midnight полночь|morning1 утра|night1 ночи|noon полдень"
          abbreviated := "am AM|pm PM|afternoon1 дня|evening1 вечера|midnight полн.|morning1 утра|night1 ночи|noon полд."
          narrow := "am AM|pm PM|afternoon1 дня|evening1 веч.|midnight полн.|morning1 утра|night1 ночи|noon полд." }
      standAlone :=
        { wide := "am AM|pm PM|afternoon1 день|evening1 вечер|midnight полночь|morning1 утро|night1 ночь|noon полдень"
          abbreviated := "am AM|pm PM|afternoon1 день|evening1 веч.|midnight полн.|morning1 утро|night1 ночь|noon полд." } }
  dayPeriodRules := "afternoon1 43200 64800|evening1 64800 79200|midnight 0|morning1 14400 43200|night1 79200 14400|noon 43200"
  dates :=
    { full := "EEEE, d MMMM y\u202f'г'."
      long := "d MMMM y\u202f'г'."
      medium := "d MMM y\u202f'г'."
      short := "dd.MM.y" }
  moments :=
    { full := "\x7b1\x7d, \x7b0\x7d"
      long := "\x7b1\x7d, \x7b0\x7d"
      medium := "\x7b1\x7d, \x7b0\x7d"
      short := "\x7b1\x7d, \x7b0\x7d" }
  skeletons := "EBh E, h B
EBhm ccc, h:mm B
EBhms ccc, h:mm:ss B
Ed ccc, d
Eh E, h\u202fa
Ehm E h:mm\u202fa
Ehms E h:mm:ss\u202fa
Gy y\u202f'г'. G
GyM MM.y GGGGG
GyMEd E, dd.MM.y GGGGG
GyMMM LLL y\u202f'г'. G
GyMMMEd E, d MMM y\u202f'г'. G
GyMMMd d MMM y\u202f'г'. G
GyMd dd.MM.y GGGGG
H H
Hv HH 'ч'. v
MEd E, dd.MM
MMMEd ccc, d MMM
MMMMW W-'я' 'неделя' MMMM
MMMMd d MMMM
MMMd d MMM
MMdd dd.MM
Md dd.MM
hm h:mm\u202fa
hms h:mm:ss\u202fa
hmsv h:mm:ss\u202fa v
hmv h:mm\u202fa v
hv h\u202fa, v
yM MM.y
yMEd ccc, dd.MM.y
yMM MM.y
yMMM LLL y\u202f'г'.
yMMMEd E, d MMM y\u202f'г'.
yMMMM LLLL y\u202f'г'.
yMMMd d MMM y\u202f'г'.
yMd dd.MM.y
yQQQ QQQ y\u202f'г'.
yQQQQ QQQQ y\u202f'г'.
yw w-'я' 'неделя' Y 'г'." :: Conventions.rootSkeletons
  zones :=
    { unknownRegion := "неизвестный регион"
      utcLong := "Всемирное координированное время" }

/-- Slovak. -/
def sk : Conventions where
  symbols :=
    { decimal := ","
      group := "\u00a0"
      exponential := "e" }
  numbers :=
    { percent := "#,##0\u00a0%"
      currency := "#,##0.00\u00a0¤" }
  compact :=
    { short := "other|0\u00a0tis'.'|00\u00a0tis'.'|000\u00a0tis'.'|0\u00a0mil'.'|00\u00a0mil'.'|000\u00a0mil'.'|0\u00a0mld'.'|00\u00a0mld'.'|000\u00a0mld'.'|0\u00a0bil'.'|00\u00a0bil'.'|000\u00a0bil'.'"
      long := "other|0 tisíc|00 tisíc|000 tisíc|0 miliónov|00 miliónov|000 miliónov|0 miliárd|00 miliárd|000 miliárd|0 biliónov|00 biliónov|000 biliónov
few|0 tisíce|00 tisíc|000 tisíc|0 milióny|00 miliónov|000 miliónov|0 miliardy|00 miliárd|000 miliárd|0 bilióny|00 biliónov|000 biliónov
many|0 tisíca|00 tisíca|000 tisíca|0 milióna|00 milióna|000 milióna|0 miliardy|00 miliardy|000 miliardy|0 bilióna|00 bilióna|000 bilióna
one|0 tisíc|00 tisíc|000 tisíc|0 milión|00 miliónov|000 miliónov|0 miliarda|00 miliárd|000 miliárd|0 bilión|00 biliónov|000 biliónov"
      currency := "other|0\u00a0tis'.'\u00a0¤|00\u00a0tis'.'\u00a0¤|000\u00a0tis'.'\u00a0¤|0\u00a0mil'.'\u00a0¤|00\u00a0mil'.'\u00a0¤|000\u00a0mil'.'\u00a0¤|0\u00a0mld'.'\u00a0¤|00\u00a0mld'.'\u00a0¤|000\u00a0mld'.'\u00a0¤|0\u00a0bil'.'\u00a0¤|00\u00a0bil'.'\u00a0¤|000\u00a0bil'.'\u00a0¤" }
  currencies := "AUD AUD|BRL BRL|CAD CAD|CNY CNY|GBP GBP|HKD HKD|ILS NIS|INR INR|JPY JPY|KRW KRW|NZD NZD|PHP PHP|TWD TWD|USD USD|VND VND|XCG Cg|XXX XXX" :: Conventions.rootCurrencies
  plurals := "few i = 2..4 and v = 0|many v != 0|one i = 1 and v = 0"
  months :=
    { format :=
        { wide := "januára|februára|marca|apríla|mája|júna|júla|augusta|septembra|októbra|novembra|decembra"
          abbreviated := "jan|feb|mar|apr|máj|jún|júl|aug|sep|okt|nov|dec"
          narrow := "j|f|m|a|m|j|j|a|s|o|n|d" }
      standAlone :=
        { wide := "január|február|marec|apríl|máj|jún|júl|august|september|október|november|december"
          abbreviated := "jan|feb|mar|apr|máj|jún|júl|aug|sep|okt|nov|dec"
          narrow := "j|f|m|a|m|j|j|a|s|o|n|d" } }
  weekdays :=
    { format :=
        { wide := "pondelok|utorok|streda|štvrtok|piatok|sobota|nedeľa"
          abbreviated := "po|ut|st|št|pi|so|ne"
          narrow := "p|u|s|š|p|s|n" } }
  quarters :=
    { format :=
        { wide := "1. štvrťrok|2. štvrťrok|3. štvrťrok|4. štvrťrok"
          abbreviated := "Q1|Q2|Q3|Q4"
          narrow := "1|2|3|4" } }
  eras :=
    { wide := "pred Kristom|po Kristovi"
      abbreviated := "pred Kr.|po Kr." }
  dayPeriods :=
    { format :=
        { wide := "am AM|pm PM|afternoon1 popoludní|evening1 večer|midnight o polnoci|morning1 ráno|morning2 dopoludnia|night1 v noci|noon napoludnie"
          abbreviated := "am AM|pm PM|afternoon1 popol.|evening1 večer|midnight o poln.|morning1 ráno|morning2 dopol.|night1 v noci|noon napol."
          narrow := "am AM|pm PM|afternoon1 pop.|evening1 več.|midnight o poln.|morning1 ráno|morning2 dop.|night1 v n.|noon nap." }
      standAlone :=
        { wide := "am AM|pm PM|afternoon1 popoludnie|evening1 večer|midnight polnoc|morning1 ráno|morning2 dopoludnie|night1 noc|noon poludnie"
          abbreviated := "am AM|pm PM|afternoon1 popol.|evening1 večer|midnight poln.|morning1 ráno|morning2 dopol.|night1 noc|noon pol."
          narrow := "am AM|pm PM|afternoon1 pop.|evening1 več.|midnight poln.|morning1 ráno|morning2 dop.|night1 noc|noon pol." } }
  dayPeriodRules := "afternoon1 43200 64800|evening1 64800 79200|midnight 0|morning1 14400 32400|morning2 32400 43200|night1 79200 14400|noon 43200"
  dates :=
    { full := "EEEE d. MMMM y"
      long := "d. MMMM y"
      medium := "d. M. y"
      short := "d. M. y" }
  times :=
    { full := "H:mm:ss zzzz"
      long := "H:mm:ss z"
      medium := "H:mm:ss"
      short := "H:mm" }
  moments :=
    { full := "\x7b1\x7d, \x7b0\x7d"
      long := "\x7b1\x7d, \x7b0\x7d"
      medium := "\x7b1\x7d, \x7b0\x7d" }
  skeletons := "Ed E d.
Ehm E h:mm\u202fa
Ehms E h:mm:ss\u202fa
Gy y G
GyMMM LLLL y G
GyMMMEd E d. M. y G
GyMMMMd d. M. y G
GyMMMd d. M. y G
GyMd d. M. y GGGGG
H H
Hm H:mm
Hms H:mm:ss
Hmsv H:mm:ss v
Hmv H:mm v
M L.
MEd E d. M.
MMMEd E d. M.
MMMMEd E d. MMMM
MMMMW W. 'týždeň' MMMM
MMMMd d. MMMM
MMMd d. M.
Md d. M.
d d.
hm h:mm\u202fa
hms h:mm:ss\u202fa
hmsv h:mm:ss\u202fa v
hmv h:mm\u202fa v
mmss mm:ss
yM M/y
yMEd E d. M. y
yMMM M/y
yMMMEd E d. M. y
yMMMM LLLL y
yMMMMd d. MMMM y
yMMMd d. M. y
yMd d. M. y
yQQQ QQQ y
yQQQQ QQQQ y
yw w. 'týždeň' 'roka' Y" :: Conventions.rootSkeletons
  zones :=
    { place := "časové pásmo \x7b0\x7d"
      unknownRegion := "neznámy región"
      utcLong := "koordinovaný svetový čas" }

/-- Slovenian. -/
def sl : Conventions where
  symbols :=
    { decimal := ","
      group := "."
      minus := "−"
      exponential := "e" }
  numbers :=
    { percent := "#,##0\u00a0%"
      currency := "#,##0.00\u00a0¤" }
  compact :=
    { short := "other|0\u00a0tis'.'|00\u00a0tis'.'|000\u00a0tis'.'|0\u00a0mio'.'|00\u00a0mio'.'|000\u00a0mio'.'|0\u00a0mrd'.'|00\u00a0mrd'.'|000\u00a0mrd'.'|0\u00a0bil'.'|00\u00a0bil'.'|000\u00a0bil'.'"
      long := "other|0 tisoč|00 tisoč|000 tisoč|0 milijonov|00 milijonov|000 milijonov|0 milijard|00 milijard|000 milijard|0 bilijonov|00 bilijonov|000 bilijonov
few|0 tisoč|00 tisoč|000 tisoč|0 milijoni|00 milijona|000 milijoni|0 milijarde|00 milijarde|000 milijarde|0 bilijoni|00 bilijoni|000 bilijoni
one|0 tisoč|00 tisoč|000 tisoč|0 milijon|00 milijon|000 milijon|0 milijarda|00 milijarda|000 milijarda|0 bilijon|00 bilijon|000 bilijon
two|0 tisoč|00 tisoč|000 tisoč|0 milijona|00 milijona|000 milijona|0 milijardi|00 milijardi|000 milijardi|0 bilijona|00 bilijona|000 bilijona"
      currency := "other|0\u00a0tis'.'\u00a0¤|00\u00a0tis'.'\u00a0¤|000\u00a0tis'.'\u00a0¤|0\u00a0mio'.'\u00a0¤|00\u00a0mio'.'\u00a0¤|000\u00a0mio'.'\u00a0¤|0\u00a0mrd'.'\u00a0¤|00\u00a0mrd'.'\u00a0¤|000\u00a0mrd'.'\u00a0¤|0\u00a0bil'.'\u00a0¤|00\u00a0bil'.'\u00a0¤|000\u00a0bil'.'\u00a0¤" }
  currencies := "AUD AUD|BRL BRL|CAD CAD|GBP GBP|JPY ¥|MXN MXN|NZD NZD|PHP PHP|TWD TWD|USD $|XCD XCD" :: Conventions.rootCurrencies
  plurals := "few v = 0 and i % 100 = 3..4 or v != 0|one v = 0 and i % 100 = 1|two v = 0 and i % 100 = 2"
  months :=
    { format :=
        { wide := "januar|februar|marec|april|maj|junij|julij|avgust|september|oktober|november|december"
          abbreviated := "jan.|feb.|mar.|apr.|maj|jun.|jul.|avg.|sep.|okt.|nov.|dec."
          narrow := "j|f|m|a|m|j|j|a|s|o|n|d" } }
  weekdays :=
    { format :=
        { wide := "ponedeljek|torek|sreda|četrtek|petek|sobota|nedelja"
          abbreviated := "pon.|tor.|sre.|čet.|pet.|sob.|ned."
          narrow := "p|t|s|č|p|s|n" } }
  quarters :=
    { format :=
        { wide := "1. četrtletje|2. četrtletje|3. četrtletje|4. četrtletje"
          abbreviated := "1. čet.|2. čet.|3. čet.|4. čet."
          narrow := "1.|2.|3.|4." } }
  eras :=
    { wide := "pred Kristusom|po Kristusu"
      abbreviated := "pr. Kr.|po Kr." }
  dayPeriods :=
    { format :=
        { wide := "am dop.|pm pop.|afternoon1 popoldan|evening1 zvečer|midnight opolnoči|morning1 zjutraj|morning2 dopoldan|night1 ponoči|noon opoldne"
          abbreviated := "am dop.|pm pop.|afternoon1 pop.|evening1 zveč.|midnight opoln.|morning1 zjut.|morning2 dop.|night1 ponoči|noon opold."
          narrow := "am d|pm p|afternoon1 p|evening1 zv|midnight 24.00|morning1 zj|morning2 d|night1 po|noon 12.00" }
      standAlone :=
        { wide := "am dopoldne|pm popoldne|afternoon1 popoldne|evening1 večer|midnight polnoč|morning1 jutro|morning2 dopoldne|night1 noč|noon poldne"
          abbreviated := "am dop.|pm pop.|afternoon1 pop.|evening1 več.|midnight poln.|morning1 jut.|morning2 dop.|night1 noč|noon pold."
          narrow := "am d|pm p|afternoon1 p|evening1 v|midnight 24.00|morning1 j|morning2 d|night1 n|noon 12.00" } }
  dayPeriodRules := "afternoon1 43200 64800|evening1 64800 79200|midnight 0|morning1 21600 36000|morning2 36000 43200|night1 79200 21600|noon 43200"
  dates :=
    { full := "EEEE, d. MMMM y"
      long := "d. MMMM y"
      medium := "d. MMM y"
      short := "d. M. y" }
  moments :=
    { medium := "\x7b1\x7d, \x7b0\x7d"
      short := "\x7b1\x7d, \x7b0\x7d" }
  skeletons := "EBh E, h B
EHm E, HH:mm
EHms E, HH:mm:ss
Ed E, d.
Eh E, h\u202fa
Ehm E, h:mm\u202fa
Ehms E, h:mm:ss\u202fa
Gy y G
GyM MMM y G
GyMEd E, d. M. y G
GyMMM MMM y G
GyMMMEd E, d. MMM y G
GyMMMd d. MMM y G
GyMd d. M. y GGGGG
MEd E, d. M.
MMMEd E, d. MMM
MMMMW MMMM: W. 'teden'
MMMMd d. MMMM
MMMd d. MMM
Md d. M.
d d.
hm h:mm\u202fa
hms h:mm:ss\u202fa
hmsv h:mm:ss\u202fa v
hmv h:mm\u202fa v
yM M/y
yMEd E, d. M. y
yMMM MMM y
yMMMEd E, d. MMM y
yMMMM MMMM y
yMMMd d. MMM y
yMd d. M. y
yQQQ QQQ y
yQQQQ QQQQ y
yw w. 'teden' 'leta' Y" :: Conventions.rootSkeletons
  zones :=
    { offset := "GMT \x7b0\x7d"
      place := "\x7b0\x7d (lokalni čas)"
      unknownRegion := "Neznano ali neveljavno območje"
      utcLong := "univerzalni koordinirani čas" }

/-- Serbian. -/
def sr : Conventions where
  symbols :=
    { decimal := ","
      group := "." }
  numbers :=
    { currency := "#,##0.00\u00a0¤" }
  compact :=
    { short := "other|0\u00a0хиљ'.'|00\u00a0хиљ'.'|000\u00a0хиљ'.'|0\u00a0мил'.'|00\u00a0мил'.'|000\u00a0мил'.'|0\u00a0млрд'.'|00\u00a0млрд'.'|000\u00a0млрд'.'|0\u00a0бил'.'|00\u00a0бил'.'|000\u00a0бил'.'"
      long := "other|0 хиљада|00 хиљада|000 хиљада|0 милиона|00 милиона|000 милиона|0 милијарди|00 милијарди|000 милијарди|0 билиона|00 билиона|000 билиона
few|0 хиљаде|00 хиљаде|000 хиљаде|0 милиона|00 милиона|000 милиона|0 милијарде|00 милијарде|000 милијарде|0 билиона|00 билиона|000 билиона
one|0 хиљада|00 хиљада|000 хиљада|0 милион|00 милион|000 милион|0 милијарда|00 милијарда|000 милијарда|0 билион|00 билион|000 билион"
      currency := "other|0\u00a0хиљ'.'\u00a0¤|00\u00a0хиљ'.'\u00a0¤|000\u00a0хиљ'.'\u00a0¤|0\u00a0мил'.'\u00a0¤|00\u00a0мил'.'\u00a0¤|000\u00a0мил'.'\u00a0¤|0\u00a0млрд'.'\u00a0¤|00\u00a0млрд'.'\u00a0¤|000\u00a0млрд'.'\u00a0¤|0\u00a0бил'.'\u00a0¤|00\u00a0бил'.'\u00a0¤|000\u00a0бил'.'\u00a0¤" }
  currencies := "AUD AUD|BAM КМ|JPY ¥|KRW KRW|NZD NZD|PHP PHP|VND VND" :: Conventions.rootCurrencies
  plurals := "few v = 0 and i % 10 = 2..4 and i % 100 != 12..14 or f % 10 = 2..4 and f % 100 != 12..14|one v = 0 and i % 10 = 1 and i % 100 != 11 or f % 10 = 1 and f % 100 != 11"
  months :=
    { format :=
        { wide := "јануар|фебруар|март|април|мај|јун|јул|август|септембар|октобар|новембар|децембар"
          abbreviated := "јан|феб|мар|апр|мај|јун|јул|авг|сеп|окт|нов|дец"
          narrow := "ј|ф|м|а|м|ј|ј|а|с|о|н|д" } }
  weekdays :=
    { format :=
        { wide := "понедељак|уторак|среда|четвртак|петак|субота|недеља"
          abbreviated := "пон|уто|сре|чет|пет|суб|нед"
          short := "по|ут|ср|че|пе|су|не"
          narrow := "п|у|с|ч|п|с|н" } }
  quarters :=
    { format :=
        { wide := "први квартал|други квартал|трећи квартал|четврти квартал"
          abbreviated := "1. кв.|2. кв.|3. кв.|4. кв."
          narrow := "1.|2.|3.|4." } }
  eras :=
    { wide := "пре нове ере|нове ере"
      abbreviated := "п. н. е.|н. е."
      narrow := "п.н.е.|н.е." }
  dayPeriods :=
    { format :=
        { wide := "am AM|pm PM|afternoon1 по подне|evening1 увече|midnight поноћ|morning1 ујутру|night1 ноћу|noon подне" }
      standAlone :=
        { wide := "am AM|pm PM|afternoon1 поподне|evening1 вече|midnight поноћ|morning1 јутро|night1 ноћ|noon подне" } }
  dayPeriodRules := "afternoon1 43200 64800|evening1 64800 75600|midnight 0|morning1 21600 43200|night1 75600 21600|noon 43200"
  dates :=
    { full := "EEEE, d. MMMM y."
      long := "d. MMMM y."
      medium := "d. M. y."
      short := "d. M. y." }
  skeletons := "Bhm hh:mm B
Bhms hh:mm:ss B
E E
EBhms E, hh:mm:ss B
Ed E d.
Ehm E h:mm\u202fa
Ehms E h:mm:ss\u202fa
Gy y. G
GyMMM MMM y. G
GyMMMEd E, d. MMM y. G
GyMMMd d. MMM y. G
GyMd d.MM.y. GGGGG
Hv HH 'h' v
MEd E, d. M.
MMMEd E d. MMM
MMMMEd E, d. MMMM
MMMMW MMMM: W. 'недеља'
MMMMd d. MMMM
MMMd d. MMM
MMMdd dd.MMM
MMdd dd.MM.
Md d. M.
hm h:mm\u202fa
hms h:mm:ss\u202fa
hmsv h:mm:ss\u202fa v
hmv h:mm\u202fa v
y y.
yM M. y.
yMEd E, d. M. y.
yMM MM.y.
yMMM MMM y.
yMMMEd E, d. MMM y.
yMMMM MMMM y.
yMMMd d. MMM y.
yMMdd dd.MM.y.
yMd d. M. y.
yQQQ QQQ y.
yQQQQ QQQQ y.
yw w. 'недеља' 'у' Y." :: Conventions.rootSkeletons
  zones :=
    { unknownRegion := "непознат регион"
      utcLong := "Координисано универзално време" }

/-- Serbian (Latin script). -/
def srLatn : Conventions where
  symbols :=
    { decimal := ","
      group := "." }
  numbers :=
    { currency := "#,##0.00\u00a0¤" }
  compact :=
    { short := "other|0\u00a0hilj'.'|00\u00a0hilj'.'|000\u00a0hilj'.'|0\u00a0mil'.'|00\u00a0mil'.'|000\u00a0mil'.'|0\u00a0mlrd'.'|00\u00a0mlrd'.'|000\u00a0mlrd'.'|0\u00a0bil'.'|00\u00a0bil'.'|000\u00a0bil'.'"
      long := "other|0 hiljada|00 hiljada|000 hiljada|0 miliona|00 miliona|000 miliona|0 milijardi|00 milijardi|000 milijardi|0 biliona|00 biliona|000 biliona
few|0 hiljade|00 hiljade|000 hiljade|0 miliona|00 miliona|000 miliona|0 milijarde|00 milijarde|000 milijarde|0 biliona|00 biliona|000 biliona
one|0 hiljada|00 hiljada|000 hiljada|0 milion|00 milion|000 milion|0 milijarda|00 milijarda|000 milijarda|0 bilion|00 bilion|000 bilion"
      currency := "other|0\u00a0hilj'.'\u00a0¤|00\u00a0hilj'.'\u00a0¤|000\u00a0hilj'.'\u00a0¤|0\u00a0mil'.'\u00a0¤|00\u00a0mil'.'\u00a0¤|000\u00a0mil'.'\u00a0¤|0\u00a0mlrd'.'\u00a0¤|00\u00a0mlrd'.'\u00a0¤|000\u00a0mlrd'.'\u00a0¤|0\u00a0bil'.'\u00a0¤|00\u00a0bil'.'\u00a0¤|000\u00a0bil'.'\u00a0¤" }
  currencies := "AUD AUD|BAM KM|JPY ¥|KRW KRW|NZD NZD|PHP PHP|VND VND" :: Conventions.rootCurrencies
  plurals := "few v = 0 and i % 10 = 2..4 and i % 100 != 12..14 or f % 10 = 2..4 and f % 100 != 12..14|one v = 0 and i % 10 = 1 and i % 100 != 11 or f % 10 = 1 and f % 100 != 11"
  months :=
    { format :=
        { wide := "januar|februar|mart|april|maj|jun|jul|avgust|septembar|oktobar|novembar|decembar"
          abbreviated := "jan|feb|mar|apr|maj|jun|jul|avg|sep|okt|nov|dec"
          narrow := "j|f|m|a|m|j|j|a|s|o|n|d" } }
  weekdays :=
    { format :=
        { wide := "ponedeljak|utorak|sreda|četvrtak|petak|subota|nedelja"
          abbreviated := "pon|uto|sre|čet|pet|sub|ned"
          short := "po|ut|sr|če|pe|su|ne"
          narrow := "p|u|s|č|p|s|n" } }
  quarters :=
    { format :=
        { wide := "prvi kvartal|drugi kvartal|treći kvartal|četvrti kvartal"
          abbreviated := "1. kv.|2. kv.|3. kv.|4. kv."
          narrow := "1.|2.|3.|4." } }
  eras :=
    { wide := "pre nove ere|nove ere"
      abbreviated := "p. n. e.|n. e."
      narrow := "p.n.e.|n.e." }
  dayPeriods :=
    { format :=
        { wide := "am AM|pm PM|afternoon1 po podne|evening1 uveče|midnight ponoć|morning1 ujutru|night1 noću|noon podne" }
      standAlone :=
        { wide := "am AM|pm PM|afternoon1 popodne|evening1 veče|midnight ponoć|morning1 jutro|night1 noć|noon podne" } }
  dayPeriodRules := "afternoon1 43200 64800|evening1 64800 75600|midnight 0|morning1 21600 43200|night1 75600 21600|noon 43200"
  dates :=
    { full := "EEEE, d. MMMM y."
      long := "d. MMMM y."
      medium := "d. M. y."
      short := "d. M. y." }
  skeletons := "Bhm hh:mm B
Bhms hh:mm:ss B
E E
EBhms E, hh:mm:ss B
Ed E d.
Ehm E h:mm\u202fa
Ehms E h:mm:ss\u202fa
Gy y. G
GyMMM MMM y. G
GyMMMEd E, d. MMM y. G
GyMMMd d. MMM y. G
GyMd d.MM.y. GGGGG
Hv HH 'h' v
MEd E, d. M.
MMMEd E d. MMM
MMMMEd E, d. MMMM
MMMMW MMMM: W. 'nedelja'
MMMMd d. MMMM
MMMd d. MMM
MMMdd dd.MMM
MMdd dd.MM.
Md d. M.
hm h:mm\u202fa
hms h:mm:ss\u202fa
hmsv h:mm:ss\u202fa v
hmv h:mm\u202fa v
y y.
yM M. y.
yMEd E, d. M. y.
yMM MM.y.
yMMM MMM y.
yMMMEd E, d. MMM y.
yMMMM MMMM y.
yMMMd d. MMM y.
yMMdd dd.MM.y.
yMd d. M. y.
yQQQ QQQ y.
yQQQQ QQQQ y.
yw w. 'nedelja' 'u' Y." :: Conventions.rootSkeletons
  zones :=
    { unknownRegion := "nepoznat region"
      utcLong := "Koordinisano univerzalno vreme" }

/-- Ukrainian. -/
def uk : Conventions where
  symbols :=
    { decimal := ","
      group := "\u00a0"
      exponential := "Е" }
  numbers :=
    { currency := "#,##0.00\u00a0¤" }
  compact :=
    { short := "other|0\u00a0тис'.'|00\u00a0тис'.'|000\u00a0тис'.'|0\u00a0млн|00\u00a0млн|000\u00a0млн|0\u00a0млрд|00\u00a0млрд|000\u00a0млрд|0\u00a0трлн|00\u00a0трлн|000\u00a0трлн"
      long := "other|0 тисячі|00 тисячі|000 тисячі|0 мільйона|00 мільйона|000 мільйона|0 мільярда|00 мільярда|000 мільярда|0 трильйона|00 трильйона|000 трильйона
few|0 тисячі|00 тисячі|000 тисячі|0 мільйони|00 мільйони|000 мільйони|0 мільярди|00 мільярди|000 мільярди|0 трильйони|00 трильйони|000 трильйони
many|0 тисяч|00 тисяч|000 тисяч|0 мільйонів|00 мільйонів|000 мільйонів|0 мільярдів|00 мільярдів|000 мільярдів|0 трильйонів|00 трильйонів|000 трильйонів
one|0 тисяча|00 тисяча|000 тисяча|0 мільйон|00 мільйон|000 мільйон|0 мільярд|00 мільярд|000 мільярд|0 трильйон|00 трильйон|000 трильйон"
      currency := "other|0\u00a0тис'.'\u00a0¤|00\u00a0тис'.'\u00a0¤|000\u00a0тис'.'\u00a0¤|0\u00a0млн\u00a0¤|00\u00a0млн\u00a0¤|000\u00a0млн\u00a0¤|0\u00a0млрд\u00a0¤|00\u00a0млрд\u00a0¤|000\u00a0млрд\u00a0¤|0\u00a0трлн\u00a0¤|00\u00a0трлн\u00a0¤|000\u00a0трлн\u00a0¤" }
  currencies := "AUD AUD|BRL BRL|CAD CAD|CNY CNY|EUR EUR|GBP GBP|HKD HKD|ILS ILS|INR INR|JPY ¥|KRW KRW|MXN MXN|NZD NZD|PHP PHP|TWD TWD|UAH ₴|UAK крб.|USD USD|VND VND|XCD XCD" :: Conventions.rootCurrencies
  plurals := "few v = 0 and i % 10 = 2..4 and i % 100 != 12..14|many v = 0 and i % 10 = 0 or v = 0 and i % 10 = 5..9 or v = 0 and i % 100 = 11..14|one v = 0 and i % 10 = 1 and i % 100 != 11"
  months :=
    { format :=
        { wide := "січня|лютого|березня|квітня|травня|червня|липня|серпня|вересня|жовтня|листопада|грудня"
          abbreviated := "січ.|лют.|бер.|квіт.|трав.|черв.|лип.|серп.|вер.|жовт.|лист.|груд."
          narrow := "с|л|б|к|т|ч|л|с|в|ж|л|г" }
      standAlone :=
        { wide := "січень|лютий|березень|квітень|травень|червень|липень|серпень|вересень|жовтень|листопад|грудень"
          abbreviated := "січ.|лют.|бер.|квіт.|трав.|черв.|лип.|серп.|вер.|жовт.|лист.|груд."
          narrow := "С|Л|Б|К|Т|Ч|Л|С|В|Ж|Л|Г" } }
  weekdays :=
    { format :=
        { wide := "понеділок|вівторок|середа|четвер|пʼятниця|субота|неділя"
          abbreviated := "пн|вт|ср|чт|пт|сб|нд"
          narrow := "П|В|С|Ч|П|С|Н" } }
  quarters :=
    { format :=
        { wide := "1-й квартал|2-й квартал|3-й квартал|4-й квартал"
          abbreviated := "1-й кв.|2-й кв.|3-й кв.|4-й кв."
          narrow := "1|2|3|4" } }
  eras :=
    { wide := "до нашої ери|нашої ери"
      abbreviated := "до н. е.|н. е."
      narrow := "до н.е.|н.е." }
  dayPeriods :=
    { format :=
        { wide := "am дп|pm пп|afternoon1 дня|evening1 вечора|midnight ночі|morning1 ранку|night1 ночі|noon дня" }
      standAlone :=
        { wide := "am дп|pm пп|afternoon1 день|evening1 вечір|midnight північ|morning1 ранок|night1 ніч|noon полудень" } }
  dayPeriodRules := "afternoon1 43200 64800|evening1 64800 86400|midnight 0|morning1 14400 43200|night1 0 14400|noon 43200"
  dates :=
    { full := "EEEE, d MMMM y\u202f'р'."
      long := "d MMMM y\u202f'р'."
      medium := "d MMM y\u202f'р'."
      short := "dd.MM.yy" }
  moments :=
    { full := "\x7b1\x7d, \x7b0\x7d"
      long := "\x7b1\x7d, \x7b0\x7d"
      medium := "\x7b1\x7d, \x7b0\x7d"
      short := "\x7b1\x7d, \x7b0\x7d" }
  skeletons := "Ed E, d
Ehm E h:mm\u202fa
Ehms E h:mm:ss\u202fa
Gy y G
GyM MM y G
GyMEd dd-MM-y, E, G
GyMMM LLL y\u202f'р'. G
GyMMMEd E, d MMM y\u202f'р'. G
GyMMMd d MMM y\u202f'р'. G
GyMd dd-MM-y GGGGG
H H
Hv HH 'год' v
M LL
MEd E, dd.MM
MMMEd E, d MMM
MMMMEd E, d MMMM
MMMMW W-'й' 'тиж'. MMMM
MMMMd d MMMM
MMMd d MMM
Md dd.MM
hm h:mm\u202fa
hms h:mm:ss\u202fa
hmsv h:mm:ss\u202fa v
hmv h:mm\u202fa v
yM MM.y
yMEd E, dd.MM.y
yMMM LLL y\u202f'р'.
yMMMEd E, d MMM y\u202f'р'.
yMMMM LLLL y\u202f'р'.
yMMMd d MMM y\u202f'р'.
yMd dd.MM.y
yQQQ QQQ y
yQQQQ QQQQ y\u202f'р'.
yw w-'й' 'тиж'. Y 'р'." :: Conventions.rootSkeletons
  zones :=
    { place := "час: \x7b0\x7d"
      unknownRegion := "Невідомий регіон"
      utcLong := "за всесвітнім координованим часом" }

/-- Croatian (Bosnia & Herzegovina). -/
def hrBA : Conventions :=
  { hr with
    currencies := "BAM KM" :: hr.currencies
    weekdays :=
      { hr.weekdays with
        standAlone :=
          { hr.weekdays.standAlone with
            narrow := "P|U|S|Č|P|S|N" } }
    quarters :=
      { hr.quarters with
        format :=
          { hr.quarters.format with
            abbreviated := "1. kv.|2. kv.|3. kv.|4. kv." } }
    dates :=
      { hr.dates with
        short := "d. M. yy." } }

/-- Russian (Belarus). -/
def ruBY : Conventions :=
  { ru with
    currencies := "BYN Br|RUR RUR" :: ru.currencies }

/-- Russian (Kyrgyzstan). -/
def ruKG : Conventions :=
  { ru with
    currencies := "KGS сом" :: ru.currencies }

/-- Russian (Kazakhstan). -/
def ruKZ : Conventions :=
  { ru with
    currencies := "KZT ₸" :: ru.currencies }

/-- Russian (Moldova). -/
def ruMD : Conventions :=
  { ru with
    currencies := "MDL L" :: ru.currencies }

/-- Russian (Ukraine). -/
def ruUA : Conventions :=
  { ru with
    skeletons := "yMEd ccc, d.MM.y" :: ru.skeletons }

/-- Serbian (Latin script, Bosnia & Herzegovina). -/
def srLatnBA : Conventions :=
  { srLatn with
    weekdays :=
      { format :=
          { wide := "ponedjeljak|utorak|srijeda|četvrtak|petak|subota|nedjelja"
            abbreviated := "pon|uto|sri|čet|pet|sub|ned"
            short := "po|ut|sr|če|pe|su|ne"
            narrow := "p|u|s|č|p|s|n" } }
    eras :=
      { wide := "prije nove ere|nove ere"
        abbreviated := "p. n. e.|n. e."
        narrow := "p.n.e.|n.e." }
    dayPeriods :=
      { format :=
          { wide := "am prije podne|pm po podne|afternoon1 po podne|evening1 uveče|midnight ponoć|morning1 ujutru|night1 noću|noon podne"
            abbreviated := "am prije\u202fpodne|pm po\u202fpodne|afternoon1 po podne|evening1 uveče|midnight ponoć|morning1 ujutru|night1 noću|noon podne"
            narrow := "am prije\u202fpodne|pm po\u202fpodne|afternoon1 po podne|evening1 uveče|midnight ponoć|morning1 ujutro|night1 noću|noon podne" }
        standAlone :=
          { wide := "am prije podne|pm po podne|afternoon1 popodne|evening1 veče|midnight ponoć|morning1 jutro|night1 noć|noon podne"
            abbreviated := "am prije\u202fpodne|pm po\u202fpodne|afternoon1 popodne|evening1 veče|midnight ponoć|morning1 jutro|night1 noć|noon podne"
            narrow := "am a|pm p|afternoon1 popodne|evening1 veče|midnight ponoć|morning1 jutro|night1 noć|noon podne" } }
    zones :=
      { srLatn.zones with
        utcLong := "Koordinisano univerzalno vrijeme" } }

/-- Serbian (Latin script, Montenegro). -/
def srLatnME : Conventions :=
  { srLatn with
    months :=
      { srLatn.months with
        format :=
          { srLatn.months.format with
            abbreviated := "jan|feb|mart|apr|maj|jun|jul|avg|sept|okt|nov|dec" }
        standAlone :=
          { srLatn.months.standAlone with
            abbreviated := "jan|feb|mart|apr|maj|jun|jul|avg|sept|okt|nov|dec" } }
    weekdays :=
      { srLatn.weekdays with
        format :=
          { srLatn.weekdays.format with
            wide := "ponedeljak|utorak|srijeda|četvrtak|petak|subota|nedjelja" }
        standAlone :=
          { srLatn.weekdays.standAlone with
            wide := "ponedeljak|utorak|srijeda|četvrtak|petak|subota|nedjelja" } }
    eras :=
      { wide := "prije nove ere|nove ere"
        abbreviated := "p. n. e.|n. e."
        narrow := "p.n.e.|n.e." }
    dayPeriods :=
      { format :=
          { wide := "am prije podne|pm po podne|afternoon1 po pod.|evening1 veče|midnight ponoć|morning1 jutro|night1 noću|noon podne"
            abbreviated := "am prije\u202fpodne|pm po\u202fpodne|afternoon1 po pod.|evening1 veče|midnight ponoć|morning1 jutro|night1 noću|noon podne"
            narrow := "am prije\u202fpodne|pm po\u202fpodne|afternoon1 po pod.|evening1 veče|midnight ponoć|morning1 jutro|night1 noć|noon podne" }
        standAlone :=
          { wide := "am prije podne|pm po podne|afternoon1 popodne|evening1 veče|midnight ponoć|morning1 jutro|night1 noć|noon podne"
            abbreviated := "am prije\u202fpodne|pm po\u202fpodne|afternoon1 popodne|evening1 veče|midnight ponoć|morning1 jutro|night1 noć|noon podne"
            narrow := "am a|pm p|afternoon1 popodne|evening1 veče|midnight ponoć|morning1 jutro|night1 noć|noon podne" } }
    skeletons := "MMMMW W. 'sjedmica' 'u' MMMM
yw w. 'sjedmica' 'u' Y." :: srLatn.skeletons }

/-- Serbian (Latin script, Kosovo). -/
def srLatnXK : Conventions :=
  { srLatn with
    months :=
      { srLatn.months with
        format :=
          { srLatn.months.format with
            abbreviated := "jan|feb|mart|apr|maj|jun|jul|avg|sept|okt|nov|dec" }
        standAlone :=
          { srLatn.months.standAlone with
            abbreviated := "jan|feb|mart|apr|maj|jun|jul|avg|sept|okt|nov|dec" } }
    dayPeriods :=
      { format :=
          { wide := "am AM|pm PM|afternoon1 po pod.|evening1 uveče|midnight ponoć|morning1 jutro|night1 noću|noon podne"
            narrow := "am AM|pm PM|afternoon1 po pod.|evening1 veče|midnight ponoć|morning1 jutro|night1 noć|noon podne" }
        standAlone :=
          { wide := "am AM|pm PM|afternoon1 popodne|evening1 veče|midnight ponoć|morning1 jutro|night1 noć|noon podne"
            narrow := "am a|pm p|afternoon1 popodne|evening1 veče|midnight ponoć|morning1 jutro|night1 noć|noon podne" } } }

/-- Serbian (Cyrillic script, Bosnia & Herzegovina). -/
def srCyrlBA : Conventions :=
  { sr with
    weekdays :=
      { format :=
          { wide := "понедјељак|уторак|сриједа|четвртак|петак|субота|недјеља"
            abbreviated := "пон|уто|сри|чет|пет|суб|нед"
            short := "по|ут|ср|че|пе|су|не"
            narrow := "п|у|с|ч|п|с|н" } }
    eras :=
      { wide := "прије нове ере|нове ере"
        abbreviated := "п. н. е.|н. е."
        narrow := "п.н.е.|н.е." }
    dayPeriods :=
      { format :=
          { wide := "am прије подне|pm по подне|afternoon1 по подне|evening1 увече|midnight поноћ|morning1 ујутру|night1 ноћу|noon подне"
            abbreviated := "am прије\u202fподне|pm по\u202fподне|afternoon1 по подне|evening1 увече|midnight поноћ|morning1 ујутру|night1 ноћу|noon подне"
            narrow := "am прије\u202fподне|pm по\u202fподне|afternoon1 по подне|evening1 увече|midnight поноћ|morning1 ујутро|night1 ноћу|noon подне" }
        standAlone :=
          { wide := "am прије подне|pm по подне|afternoon1 поподне|evening1 вече|midnight поноћ|morning1 јутро|night1 ноћ|noon подне"
            abbreviated := "am прије\u202fподне|pm по\u202fподне|afternoon1 поподне|evening1 вече|midnight поноћ|morning1 јутро|night1 ноћ|noon подне"
            narrow := "am а|pm p|afternoon1 поподне|evening1 вече|midnight поноћ|morning1 јутро|night1 ноћ|noon подне" } }
    zones :=
      { sr.zones with
        utcLong := "Координисано универзално вријеме" } }

/-- Serbian (Cyrillic script, Montenegro). -/
def srCyrlME : Conventions :=
  { sr with
    months :=
      { sr.months with
        format :=
          { sr.months.format with
            abbreviated := "јан|феб|март|апр|мај|јун|јул|авг|септ|окт|нов|дец" }
        standAlone :=
          { sr.months.standAlone with
            abbreviated := "јан|феб|март|апр|мај|јун|јул|авг|септ|окт|нов|дец" } }
    weekdays :=
      { sr.weekdays with
        format :=
          { sr.weekdays.format with
            wide := "понедељак|уторак|сриједа|четвртак|петак|субота|недјеља" }
        standAlone :=
          { sr.weekdays.standAlone with
            wide := "понедељак|уторак|сриједа|четвртак|петак|субота|недјеља" } }
    eras :=
      { wide := "прије нове ере|нове ере"
        abbreviated := "п. н. е.|н. е."
        narrow := "п.н.е.|н.е." }
    dayPeriods :=
      { format :=
          { wide := "am прије подне|pm по подне|afternoon1 по под.|evening1 вече|midnight поноћ|morning1 јутро|night1 ноћу|noon подне"
            abbreviated := "am прије\u202fподне|pm по\u202fподне|afternoon1 по под.|evening1 вече|midnight поноћ|morning1 јутро|night1 ноћу|noon подне"
            narrow := "am прије\u202fподне|pm по\u202fподне|afternoon1 по под.|evening1 вече|midnight поноћ|morning1 јутро|night1 ноћ|noon подне" }
        standAlone :=
          { wide := "am прије подне|pm по подне|afternoon1 поподне|evening1 вече|midnight поноћ|morning1 јутро|night1 ноћ|noon подне"
            abbreviated := "am прије\u202fподне|pm по\u202fподне|afternoon1 поподне|evening1 вече|midnight поноћ|morning1 јутро|night1 ноћ|noon подне"
            narrow := "am a|pm p|afternoon1 поподне|evening1 вече|midnight поноћ|morning1 јутро|night1 ноћ|noon подне" } }
    skeletons := "MMMMW W. 'сједмица' 'у' MMMM
yw w. 'сједмица' 'у' Y." :: sr.skeletons }

/-- Serbian (Cyrillic script, Kosovo). -/
def srCyrlXK : Conventions :=
  { sr with
    months :=
      { sr.months with
        format :=
          { sr.months.format with
            abbreviated := "јан|феб|март|апр|мај|јун|јул|авг|септ|окт|нов|дец" }
        standAlone :=
          { sr.months.standAlone with
            abbreviated := "јан|феб|март|апр|мај|јун|јул|авг|септ|окт|нов|дец" } }
    dayPeriods :=
      { format :=
          { wide := "am AM|pm PM|afternoon1 по под.|evening1 увече|midnight поноћ|morning1 јутро|night1 ноћу|noon подне"
            narrow := "am AM|pm PM|afternoon1 по под.|evening1 вече|midnight поноћ|morning1 јутро|night1 ноћ|noon подне" }
        standAlone :=
          { wide := "am AM|pm PM|afternoon1 поподне|evening1 вече|midnight поноћ|morning1 јутро|night1 ноћ|noon подне"
            narrow := "am a|pm p|afternoon1 поподне|evening1 вече|midnight поноћ|morning1 јутро|night1 ноћ|noon подне" } } }

/-- The locales of the Slavic languages with their conventions. -/
def slavic : List (String × Conventions) :=
  [ ("be", be), ("be_BY", be), ("bg", bg), ("bg_BG", bg), ("bs", bs), ("bs_Cyrl", bsCyrl),
    ("bs_Cyrl_BA", bsCyrl), ("bs_Latn", bs), ("bs_Latn_BA", bs), ("cs", cs), ("cs_CZ", cs),
    ("hr", hr), ("hr_BA", hrBA), ("hr_HR", hr), ("mk", mk), ("mk_MK", mk), ("pl", pl),
    ("pl_PL", pl), ("ru", ru), ("ru_BY", ruBY), ("ru_KG", ruKG), ("ru_KZ", ruKZ), ("ru_MD", ruMD),
    ("ru_RU", ru), ("ru_UA", ruUA), ("sk", sk), ("sk_SK", sk), ("sl", sl), ("sl_SI", sl),
    ("sr", sr), ("sr_Cyrl", sr), ("sr_Cyrl_BA", srCyrlBA), ("sr_Cyrl_ME", srCyrlME),
    ("sr_Cyrl_RS", sr), ("sr_Cyrl_XK", srCyrlXK), ("sr_Latn", srLatn), ("sr_Latn_BA", srLatnBA),
    ("sr_Latn_ME", srLatnME), ("sr_Latn_RS", srLatn), ("sr_Latn_XK", srLatnXK), ("uk", uk),
    ("uk_UA", uk) ]

end Phrasebook.ConventionsOf
