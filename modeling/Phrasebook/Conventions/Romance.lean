import Phrasebook.Conventions.Basic

/-!
# Conventions of the Romance languages
-/

namespace Phrasebook.ConventionsOf

/-- Catalan. -/
def ca : Conventions where
  symbols :=
    { decimal := ","
      group := "." }
  numbers :=
    { percent := "#,##0\u00a0%"
      currency := "#,##0.00\u00a0¤" }
  compact :=
    { short := "other|0\u00a0k|00\u00a0k|000\u00a0k|0\u00a0M|00\u00a0M|000\u00a0M|0000\u00a0M|00\u00a0kM|000\u00a0kM|0\u00a0B|00\u00a0B|000\u00a0B"
      long := "other|0 milers|00 milers|000 milers|0 milions|00 milions|000 milions|0 milers de milions|00 milers de milions|000 milers de milions|0 bilions|00 bilions|000 bilions
one|0 miler|00 milers|000 milers|0 milió|00 milions|000 milions|0 miler de milions|00 milers de milions|000 milers de milions|0 bilió|00 bilions|000 bilions"
      currency := "other|0\u00a0k\u00a0¤|00\u00a0k\u00a0¤|000\u00a0k\u00a0¤|0\u00a0M\u00a0¤|00\u00a0M\u00a0¤|000\u00a0M\u00a0¤|0000\u00a0M\u00a0¤|00\u00a0kM\u00a0¤|000\u00a0kM\u00a0¤|0\u00a0B\u00a0¤|00\u00a0B\u00a0¤|000\u00a0B\u00a0¤" }
  currencies := "AUD AU$|BRL BRL|CAD CAD|CNY CNY|ESP ₧|JPY ¥|MXN MXN|PHP PHP|THB ฿|USD USD|XCD XCD|XCG XCG|XXX XXX" :: Conventions.rootCurrencies
  plurals := "many e = 0 and i != 0 and i % 1000000 = 0 and v = 0 or e != 0..5|one i = 1 and v = 0"
  months :=
    { format :=
        { wide := "de gener|de febrer|de març|d’abril|de maig|de juny|de juliol|d’agost|de setembre|d’octubre|de novembre|de desembre"
          abbreviated := "de gen.|de febr.|de març|d’abr.|de maig|de juny|de jul.|d’ag.|de set.|d’oct.|de nov.|de des."
          narrow := "GN|FB|MÇ|AB|MG|JN|JL|AG|ST|OC|NV|DS" }
      standAlone :=
        { wide := "gener|febrer|març|abril|maig|juny|juliol|agost|setembre|octubre|novembre|desembre"
          abbreviated := "gen.|febr.|març|abr.|maig|juny|jul.|ag.|set.|oct.|nov.|des."
          narrow := "GN|FB|MÇ|AB|MG|JN|JL|AG|ST|OC|NV|DS" } }
  weekdays :=
    { format :=
        { wide := "dilluns|dimarts|dimecres|dijous|divendres|dissabte|diumenge"
          abbreviated := "dl.|dt.|dc.|dj.|dv.|ds.|dg." } }
  quarters :=
    { format :=
        { wide := "1r trimestre|2n trimestre|3r trimestre|4t trimestre"
          abbreviated := "1T|2T|3T|4T"
          narrow := "1|2|3|4" } }
  eras :=
    { wide := "abans de Crist|després de Crist"
      abbreviated := "aC|dC" }
  dayPeriods :=
    { format :=
        { wide := "am a.\u00a0m.|pm p.\u00a0m.|afternoon1 migdia|afternoon2 tarda|evening1 vespre|midnight mitjanit|morning1 matinada|morning2 matí|night1 nit"
          abbreviated := "am a.\u202fm.|pm p.\u202fm.|afternoon1 migdia|afternoon2 tarda|evening1 vespre|midnight mitjanit|morning1 matinada|morning2 matí|night1 nit" } }
  dayPeriodRules := "afternoon1 43200 46800|afternoon2 46800 68400|evening1 68400 75600|midnight 0|morning1 0 21600|morning2 21600 43200|night1 75600 86400"
  dates :=
    { full := "EEEE, d MMMM 'del' y"
      long := "d MMMM 'del' y"
      medium := "d MMM y"
      short := "d/M/yy" }
  times :=
    { full := "H:mm:ss (zzzz)"
      long := "H:mm:ss z"
      medium := "H:mm:ss"
      short := "H:mm" }
  moments :=
    { full := "\x7b1\x7d, \x7b0\x7d"
      long := "\x7b1\x7d, \x7b0\x7d"
      medium := "\x7b1\x7d, \x7b0\x7d" }
  skeletons := "EHm E H:mm
EHms E H:mm:ss
Ed E d
Ehm E h:mm\u202fa
Ehms E h:mm:ss\u202fa
Gy y G
GyM M/y G
GyMEd E, d/M/y G
GyMMM LLL y G
GyMMMEd E, d MMM 'del' y G
GyMMMM LLLL 'del' y G
GyMMMMEd E, d MMMM 'del' y G
GyMMMMd d MMMM 'del' y G
GyMMMd d MMM 'del' y G
GyMd dd-MM-y GGGGG
H H
Hm H:mm
Hms H:mm:ss
Hmsv H:mm:ss v
Hmsvvvv H:mm:ss (vvvv)
Hmv H:mm v
Hmvvvv H:mm (vvvv)
Hv H 'h' v
MEd E d/M
MMMEd E, d MMM
MMMMEd E, d MMMM
MMMMW 'setmana' W MMMM
MMMMd d MMMM
MMMd d MMM
Md d/M
hm h:mm\u202fa
hms h:mm:ss\u202fa
hmsv h:mm:ss\u202fa v
hmsvvvv h:mm:ss\u202fa (vvvv)
hmv h:mm\u202fa v
hmvvvv h:mm\u202fa (vvvv)
yM M/y
yMEd E, d/M/y
yMMM LLL 'del' y
yMMMEd E, d MMM y
yMMMM LLLL 'del' y
yMMMMEd E, d MMMM 'del' y
yMMMMd d MMMM 'del' y
yMMMd d MMM 'del' y
yMd d/M/y
yQQQ QQQ y
yQQQQ QQQQ 'del' y
yw 'setmana' w 'del' Y" :: Conventions.rootSkeletons
  zones :=
    { place := "Hora de: \x7b0\x7d"
      unknownRegion := "regió desconeguda"
      utcLong := "Temps universal coordinat" }

/-- Spanish. -/
def es : Conventions where
  symbols :=
    { decimal := ","
      group := "." }
  numbers :=
    { percent := "#,##0\u00a0%"
      currency := "#,##0.00\u00a0¤" }
  compact :=
    { short := "other|0\u00a0mil|00\u00a0mil|000\u00a0mil|0\u00a0M|00\u00a0M|000\u00a0M|0000\u00a0M|00\u00a0mil\u00a0M|000\u00a0mil\u00a0M|0\u00a0B|00\u00a0B|000\u00a0B"
      long := "other|0 mil|00 mil|000 mil|0 millones|00 millones|000 millones|0 mil millones|00 mil millones|000 mil millones|0 billones|00 billones|000 billones
one|0 mil|00 mil|000 mil|0 millón|00 millones|000 millones|0 mil millones|00 mil millones|000 mil millones|0 billón|00 billones|000 billones"
      currency := "other|0\u00a0mil\u00a0¤|00\u00a0mil\u00a0¤|000\u00a0mil\u00a0¤|0\u00a0M\u00a0¤|00\u00a0M\u00a0¤|000\u00a0M\u00a0¤|0000\u00a0M\u00a0¤|00\u00a0mil\u00a0M\u00a0¤|000\u00a0mil\u00a0M\u00a0¤|0\u00a0B\u00a0¤|00\u00a0B\u00a0¤|000\u00a0B\u00a0¤" }
  currencies := "AUD AUD|BRL BRL|CAD CAD|CNY CNY|ESP ₧|GBP GBP|HKD HKD|ILS ILS|INR INR|JPY JPY|KRW KRW|MXN MXN|NZD NZD|PHP PHP|THB ฿|TWD TWD|XAF XAF|XCD XCD|XOF XOF" :: Conventions.rootCurrencies
  plurals := "many e = 0 and i != 0 and i % 1000000 = 0 and v = 0 or e != 0..5|one n = 1"
  months :=
    { format :=
        { wide := "enero|febrero|marzo|abril|mayo|junio|julio|agosto|septiembre|octubre|noviembre|diciembre"
          abbreviated := "ene|feb|mar|abr|may|jun|jul|ago|sept|oct|nov|dic"
          narrow := "E|F|M|A|M|J|J|A|S|O|N|D" } }
  weekdays :=
    { format :=
        { wide := "lunes|martes|miércoles|jueves|viernes|sábado|domingo"
          abbreviated := "lun|mar|mié|jue|vie|sáb|dom"
          short := "LU|MA|MI|JU|VI|SA|DO"
          narrow := "L|M|X|J|V|S|D" } }
  quarters :=
    { format :=
        { wide := "1.er trimestre|2.º trimestre|3.er trimestre|4.º trimestre"
          abbreviated := "T1|T2|T3|T4"
          narrow := "1|2|3|4" } }
  eras :=
    { wide := "antes de Cristo|después de Cristo"
      abbreviated := "a. C.|d. C." }
  dayPeriods :=
    { format :=
        { wide := "am a.\u00a0m.|pm p.\u00a0m.|evening1 de la tarde|morning1 de la madrugada|morning2 de la mañana|night1 de la noche|noon del mediodía"
          abbreviated := "am a.\u202fm.|pm p.\u202fm.|evening1 de la tarde|morning1 de la madrugada|morning2 de la mañana|night1 de la noche|noon del mediodía" }
      standAlone :=
        { wide := "am a.\u00a0m.|pm p.\u00a0m.|evening1 tarde|morning1 madrugada|morning2 mañana|night1 noche|noon mediodía"
          abbreviated := "am a.\u202fm.|pm p.\u202fm.|evening1 tarde|morning1 madrugada|morning2 mañana|night1 noche|noon mediodía" } }
  dayPeriodRules := "evening1 43200 72000|morning1 0 21600|morning2 21600 43200|night1 72000 86400|noon 43200"
  dates :=
    { full := "EEEE, d 'de' MMMM 'de' y"
      long := "d 'de' MMMM 'de' y"
      medium := "d MMM y"
      short := "d/M/yy" }
  times :=
    { full := "H:mm:ss (zzzz)"
      long := "H:mm:ss z"
      medium := "H:mm:ss"
      short := "H:mm" }
  moments :=
    { full := "\x7b1\x7d, \x7b0\x7d"
      long := "\x7b1\x7d, \x7b0\x7d"
      medium := "\x7b1\x7d, \x7b0\x7d"
      short := "\x7b1\x7d, \x7b0\x7d" }
  skeletons := "EHm E, H:mm
EHms E, H:mm:ss
Ed E d
Ehm E, h:mm\u202fa
Ehms E, h:mm:ss\u202fa
Gy y G
GyM M/y G
GyMEd E, d/M/y G
GyMMM MMM y G
GyMMMEd E, d MMM y G
GyMMMM MMMM 'de' y G
GyMMMMEd E, d 'de' MMMM 'de' y G
GyMMMMd d 'de' MMMM 'de' y G
GyMMMd d MMM y G
GyMd d/M/y G
H H
Hm H:mm
Hms H:mm:ss
Hmsv H:mm:ss v
Hmsvvvv H:mm:ss (vvvv)
Hmv H:mm v
Hv H 'h' v
MEd E, d/M
MMMEd E, d MMM
MMMMEd E, d 'de' MMMM
MMMMW 'semana' W 'de' MMMM
MMMMd d 'de' MMMM
MMMd d MMM
MMd d/M
MMdd d/M
Md d/M
hm h:mm\u202fa
hms h:mm:ss\u202fa
hmsv h:mm:ss\u202fa v
hmsvvvv h:mm:ss\u202fa (vvvv)
hmv h:mm\u202fa v
yM M/y
yMEd EEE, d/M/y
yMM M/y
yMMM MMM y
yMMMEd EEE, d MMM y
yMMMM MMMM 'de' y
yMMMMEd EEE, d 'de' MMMM 'de' y
yMMMMd d 'de' MMMM 'de' y
yMMMd d MMM y
yMd d/M/y
yQQQ QQQ y
yQQQQ QQQQ 'de' y
yw 'semana' w 'de' Y" :: Conventions.rootSkeletons
  zones :=
    { place := "hora de \x7b0\x7d"
      unknownRegion := "Región desconocida"
      utcLong := "tiempo universal coordinado" }

/-- French. -/
def fr : Conventions where
  symbols :=
    { decimal := ","
      group := "\u202f" }
  numbers :=
    { percent := "#,##0\u00a0%"
      currency := "#,##0.00\u00a0¤" }
  compact :=
    { short := "other|0\u00a0k|00\u00a0k|000\u00a0k|0\u00a0M|00\u00a0M|000\u00a0M|0\u00a0Md|00\u00a0Md|000\u00a0Md|0\u00a0Bn|00\u00a0Bn|000\u00a0Bn"
      long := "other|0 mille|00 mille|000 mille|0 millions|00 millions|000 millions|0 milliards|00 milliards|000 milliards|0 billions|00 billions|000 billions
1|mille
one|0 millier|00 mille|000 mille|0 million|00 million|000 million|0 milliard|00 milliard|000 milliard|0 billion|00 billion|000 billion"
      currency := "other|0\u00a0k\u00a0¤|00\u00a0k\u00a0¤|000\u00a0k\u00a0¤|0\u00a0M\u00a0¤|00\u00a0M\u00a0¤|000\u00a0M\u00a0¤|0\u00a0Md\u00a0¤|00\u00a0Md\u00a0¤|000\u00a0Md\u00a0¤|0\u00a0Bn\u00a0¤|00\u00a0Bn\u00a0¤|000\u00a0Bn\u00a0¤" }
  currencies := "ARS $AR|AUD $AU|BEF FB|BMD $BM|BND $BN|BZD $BZ|CAD $CA|CLP $CL|CNY CNY|COP $CO|CYP £CY|FJD $FJ|FKP £FK|FRF F|GBP £GB|GIP £GI|HKD HKD|IEP £IE|ILP £IL|ITL ₤IT|JPY JPY|LBP £LB|MTP £MT|MXN $MX|NAD $NA|NZD $NZ|PHP PHP|RHD $RH|SBD $SB|SGD $SG|SRD $SR|TTD $TT|TWD TWD|USD $US|UYU $UY|WST $WS|XCD XCD|XPF FCFP" :: Conventions.rootCurrencies
  plurals := "many e = 0 and i != 0 and i % 1000000 = 0 and v = 0 or e != 0..5|one i = 0,1"
  months :=
    { format :=
        { wide := "janvier|février|mars|avril|mai|juin|juillet|août|septembre|octobre|novembre|décembre"
          abbreviated := "janv.|févr.|mars|avr.|mai|juin|juil.|août|sept.|oct.|nov.|déc."
          narrow := "J|F|M|A|M|J|J|A|S|O|N|D" } }
  weekdays :=
    { format :=
        { wide := "lundi|mardi|mercredi|jeudi|vendredi|samedi|dimanche"
          abbreviated := "lun.|mar.|mer.|jeu.|ven.|sam.|dim."
          short := "lu|ma|me|je|ve|sa|di"
          narrow := "L|M|M|J|V|S|D" } }
  quarters :=
    { format :=
        { wide := "1er trimestre|2e trimestre|3e trimestre|4e trimestre"
          abbreviated := "T1|T2|T3|T4"
          narrow := "1|2|3|4" } }
  eras :=
    { wide := "avant Jésus-Christ|après Jésus-Christ"
      abbreviated := "av. J.-C.|ap. J.-C." }
  dayPeriods :=
    { format :=
        { wide := "am AM|pm PM|afternoon1 de l’après-midi|evening1 du soir|midnight minuit|morning1 du matin|night1 du matin|noon midi"
          abbreviated := "am AM|pm PM|afternoon1 après-midi|evening1 soir|midnight minuit|morning1 matin|night1 matin|noon midi"
          narrow := "am AM|pm PM|afternoon1 ap.m.|evening1 soir|midnight minuit|morning1 mat.|night1 matin|noon midi" }
      standAlone :=
        { wide := "am AM|pm PM|afternoon1 après-midi|evening1 soir|midnight minuit|morning1 matin|night1 matin|noon midi"
          abbreviated := "am AM|pm PM|afternoon1 ap.m.|evening1 soir|midnight minuit|morning1 mat.|night1 matin|noon midi" } }
  dayPeriodRules := "afternoon1 43200 64800|evening1 64800 86400|midnight 0|morning1 14400 43200|night1 0 14400|noon 43200"
  dates :=
    { full := "EEEE d MMMM y"
      long := "d MMMM y"
      medium := "d MMM y"
      short := "dd/MM/y" }
  moments :=
    { full := "\x7b1\x7d, \x7b0\x7d"
      long := "\x7b1\x7d, \x7b0\x7d"
      medium := "\x7b1\x7d, \x7b0\x7d" }
  skeletons := "E E
Ed E d
Ehm E h:mm\u202fa
Ehms E h:mm:ss\u202fa
Gy y G
GyM MM/y G
GyMEd E dd/MM/y GGGGG
GyMMM MMM y G
GyMMMEd E d MMM y G
GyMMMd d MMM y G
GyMd dd/MM/y GGGGG
H HH 'h'
Hv HH 'h' v
MEd E dd/MM
MMMEd E d MMM
MMMMW 'semaine' W (MMMM)
MMMMd d MMMM
MMMd d MMM
Md dd/MM
hm h:mm\u202fa
hms h:mm:ss\u202fa
hmsv h:mm:ss\u202fa v
hmv h:mm\u202fa v
yM MM/y
yMEd E dd/MM/y
yMMM MMM y
yMMMEd E d MMM y
yMMMM MMMM y
yMMMd d MMM y
yMd dd/MM/y
yQQQ QQQ y
yQQQQ QQQQ y
yw 'semaine' w 'de' Y" :: Conventions.rootSkeletons
  zones :=
    { offset := "UTC\x7b0\x7d"
      place := "heure : \x7b0\x7d"
      unknownRegion := "région inconnue"
      utcLong := "temps universel coordonné"
      utcShort := "TU" }

/-- Galician. -/
def gl : Conventions where
  symbols :=
    { decimal := ","
      group := "." }
  numbers :=
    { percent := "#,##0\u00a0%"
      currency := "#,##0.00\u00a0¤" }
  compact :=
    { short := "other|0|0|0|0\u00a0M|00\u00a0M|000\u00a0M|0000\u00a0M|00000\u00a0M|000000\u00a0M|0\u00a0B|00\u00a0B|000\u00a0B"
      long := "other||||0 millóns|00 millóns|000 millóns|0000 millóns|00000 millóns|000000 millóns|0 billóns|00 billóns|000 billóns
one||||0 millón|00 millóns|000 millóns|0000 millóns|00000 millóns|000000 millóns|0 billón|00 billóns|000 billóns"
      currency := "other|0|0|0|0\u00a0M\u00a0¤|00\u00a0M\u00a0¤|000\u00a0M\u00a0¤|0000\u00a0M\u00a0¤|00000\u00a0M\u00a0¤|000000\u00a0M\u00a0¤|0\u00a0B\u00a0¤|00\u00a0B\u00a0¤|000\u00a0B\u00a0¤" }
  currencies := "ESP ₧|MXN $MX|PHP PHP|THB ฿|USD $|XCD XCD|XCG ƒ" :: Conventions.rootCurrencies
  plurals := "one i = 1 and v = 0"
  months :=
    { format :=
        { wide := "xaneiro|febreiro|marzo|abril|maio|xuño|xullo|agosto|setembro|outubro|novembro|decembro"
          abbreviated := "xan.|feb.|mar.|abr.|maio|xuño|xul.|ago.|set.|out.|nov.|dec."
          narrow := "x.|f.|m.|a.|m.|x.|x.|a.|s.|o.|n.|d." }
      standAlone :=
        { wide := "xaneiro|febreiro|marzo|abril|maio|xuño|xullo|agosto|setembro|outubro|novembro|decembro"
          abbreviated := "xan.|feb.|mar.|abr.|maio|xuño|xul.|ago.|set.|out.|nov.|dec."
          narrow := "X|F|M|A|M|X|X|A|S|O|N|D" } }
  weekdays :=
    { format :=
        { wide := "luns|martes|mércores|xoves|venres|sábado|domingo"
          abbreviated := "luns|mar.|mér.|xov.|ven.|sáb.|dom."
          short := "lu.|ma.|mé.|xo.|ve.|sá.|do."
          narrow := "l.|m.|m.|x.|v.|s.|d." }
      standAlone :=
        { wide := "luns|martes|mércores|xoves|venres|sábado|domingo"
          abbreviated := "luns|mar.|mér.|xov.|ven.|sáb.|dom."
          short := "lu.|ma.|mé.|xo.|ve.|sá.|do."
          narrow := "L|M|M|X|V|S|D" } }
  quarters :=
    { format :=
        { wide := "1.º trimestre|2.º trimestre|3.º trimestre|4.º trimestre"
          abbreviated := "T1|T2|T3|T4"
          narrow := "1|2|3|4" } }
  eras :=
    { wide := "antes de Cristo|despois de Cristo"
      abbreviated := "a.C.|d.C." }
  dayPeriods :=
    { format :=
        { wide := "am a.m.|pm p.m.|afternoon1 do mediodía|evening1 da tarde|midnight da noite|morning1 da madrugada|morning2 da mañá|night1 da noite" }
      standAlone :=
        { wide := "am a.m.|pm p.m.|afternoon1 mediodía|evening1 tarde|midnight medianoite|morning1 madrugada|morning2 mañá|night1 noite" } }
  dayPeriodRules := "afternoon1 43200 46800|evening1 46800 75600|midnight 0|morning1 0 21600|morning2 21600 43200|night1 75600 86400"
  dates :=
    { full := "EEEE, d 'de' MMMM 'de' y"
      long := "d 'de' MMMM 'de' y"
      medium := "d 'de' MMM 'de' y"
      short := "dd/MM/yy" }
  moments :=
    { full := "\x7b1\x7d, \x7b0\x7d"
      long := "\x7b1\x7d, \x7b0\x7d"
      medium := "\x7b1\x7d, \x7b0\x7d"
      short := "\x7b1\x7d, \x7b0\x7d" }
  skeletons := "EBh E, h B
EBhm E, h:mm B
EBhms E, h:mm:ss B
EHm E, HH:mm
EHms E, HH:mm:ss
Ed E d
Eh E, h\u202fa
Ehm E, h:mm\u202fa
Ehms E, h:mm:ss\u202fa
Gy y G
GyM M/y G
GyMEd E, d/M/y G
GyMMM MMM 'de' y G
GyMMMEd E, d 'de' MMM 'de' y G
GyMMMd d 'de' MMM 'de' y G
GyMd d/M/y GGGGG
Hv HH 'h' v
MEd E, d/M
MMMEd E, d 'de' MMM
MMMMEd E, d 'de' MMMM
MMMMW W.'ª' 'semana' 'de' MMMM
MMMMd d 'de' MMMM
MMMd d 'de' MMM
MMdd dd/MM
Md d/M
hm h:mm\u202fa
hms h:mm:ss\u202fa
hmsv h:mm:ss\u202fa v
hmv h:mm\u202fa v
yM M/y
yMEd E, d/M/y
yMM MM/y
yMMM MMM 'de' y
yMMMEd E, d 'de' MMM 'de' y
yMMMM MMMM 'de' y
yMMMd d 'de' MMM 'de' y
yMd d/M/y
yQQQ QQQ y
yQQQQ QQQQ 'de' y
yw w.'ª' 'semana' 'de' Y" :: Conventions.rootSkeletons
  zones :=
    { place := "hora de: \x7b0\x7d"
      unknownRegion := "Rexión descoñecida"
      utcLong := "hora universal coordinada" }

/-- Italian. -/
def it : Conventions where
  symbols :=
    { decimal := ","
      group := "." }
  numbers :=
    { currency := "#,##0.00\u00a0¤" }
  compact :=
    { short := "other|0K|00K|000K|0\u00a0Mln|00\u00a0Mln|000\u00a0Mln|0\u00a0Mld|00\u00a0Mld|000\u00a0Mld|0\u00a0Bln|00\u00a0Bln|000\u00a0Bln"
      long := "other|0 mila|00 mila|000 mila|0 milioni|00 milioni|000 milioni|0 miliardi|00 miliardi|000 miliardi|0 mila miliardi|00 mila miliardi|000 mila miliardi
one|mille|00 mila|000 mila|0 milione|00 milioni|000 milioni|0 miliardo|00 miliardi|000 miliardi|0 mille miliardi|00 mila miliardi|000 mila miliardi"
      currency := "other|0K\u00a0¤|00K\u00a0¤|000K\u00a0¤|0\u00a0Mln\u00a0¤|00\u00a0Mln\u00a0¤|000\u00a0Mln\u00a0¤|0\u00a0Mld\u00a0¤|00\u00a0Mld\u00a0¤|000\u00a0Mld\u00a0¤|0\u00a0Bln\u00a0¤|00\u00a0Bln\u00a0¤|000\u00a0Bln\u00a0¤" }
  currencies := "BRL BRL|HKD HKD|INR INR|JPY JPY|KRW KRW|MXN MXN|THB ฿|TWD TWD|USD USD|VND VND|XCG Cf" :: Conventions.rootCurrencies
  plurals := "many e = 0 and i != 0 and i % 1000000 = 0 and v = 0 or e != 0..5|one i = 1 and v = 0"
  months :=
    { format :=
        { wide := "gennaio|febbraio|marzo|aprile|maggio|giugno|luglio|agosto|settembre|ottobre|novembre|dicembre"
          abbreviated := "gen|feb|mar|apr|mag|giu|lug|ago|set|ott|nov|dic"
          narrow := "G|F|M|A|M|G|L|A|S|O|N|D" } }
  weekdays :=
    { format :=
        { wide := "lunedì|martedì|mercoledì|giovedì|venerdì|sabato|domenica"
          abbreviated := "lun|mar|mer|gio|ven|sab|dom"
          narrow := "L|M|M|G|V|S|D" } }
  quarters :=
    { format :=
        { wide := "1º trimestre|2º trimestre|3º trimestre|4º trimestre"
          abbreviated := "T1|T2|T3|T4"
          narrow := "1|2|3|4" } }
  eras :=
    { wide := "avanti Cristo|dopo Cristo"
      abbreviated := "a.C.|d.C."
      narrow := "aC|dC" }
  dayPeriods :=
    { format :=
        { wide := "am AM|pm PM|afternoon1 del pomeriggio|evening1 di sera|midnight mezzanotte|morning1 di mattina|night1 di notte|noon mezzogiorno"
          abbreviated := "am AM|pm PM|afternoon1 di pomeriggio|evening1 di sera|midnight mezzanotte|morning1 di mattina|night1 di notte|noon mezzogiorno"
          narrow := "am m.|pm p.|afternoon1 di pomeriggio|evening1 di sera|midnight mezzanotte|morning1 di mattina|night1 di notte|noon mezzogiorno" }
      standAlone :=
        { wide := "am AM|pm PM|afternoon1 pomeriggio|evening1 sera|midnight mezzanotte|morning1 mattina|night1 notte|noon mezzogiorno"
          narrow := "am m.|pm p.|afternoon1 pomeriggio|evening1 sera|midnight mezzanotte|morning1 mattina|night1 notte|noon mezzogiorno" } }
  dayPeriodRules := "afternoon1 43200 64800|evening1 64800 86400|midnight 0|morning1 21600 43200|night1 0 21600|noon 43200"
  dates :=
    { full := "EEEE d MMMM y"
      long := "d MMMM y"
      medium := "d MMM y"
      short := "dd/MM/yy" }
  moments :=
    { medium := "\x7b1\x7d, \x7b0\x7d"
      short := "\x7b1\x7d, \x7b0\x7d" }
  skeletons := "Ed E d
Ehm E h:mm\u202fa
Ehms E h:mm:ss\u202fa
Gy y G
GyM M/y G
GyMEd E dd/MM/y G
GyMMM MMM y G
GyMMMEd E d MMM y G
GyMMMd d MMM y G
GyMd dd/MM/y G
H H
Hv 'h'HH v
MEd E dd/MM
MMMEd E d MMM
MMMMW 'settimana' W 'di' MMMM
MMMMd d MMMM
MMMd d MMM
Md dd/MM
hm h:mm\u202fa
hms h:mm:ss\u202fa
hmsv h:mm:ss\u202fa v
hmv h:mm\u202fa v
yM MM/y
yMEd E dd/MM/y
yMMM MMM y
yMMMEd E d MMM y
yMMMM MMMM y
yMMMd d MMM y
yMd dd/MM/y
yQQQ QQQ y
yQQQQ QQQQ y
yw 'settimana' w 'del' Y" :: Conventions.rootSkeletons
  zones :=
    { place := "Ora \x7b0\x7d"
      unknownRegion := "Regione sconosciuta"
      utcLong := "Tempo coordinato universale" }

/-- Portuguese. -/
def pt : Conventions where
  symbols :=
    { decimal := ","
      group := "." }
  compact :=
    { short := "other|0\u00a0mil|00\u00a0mil|000\u00a0mil|0\u00a0mi|00\u00a0mi|000\u00a0mi|0\u00a0bi|00\u00a0bi|000\u00a0bi|0\u00a0tri|00\u00a0tri|000\u00a0tri"
      long := "other|0 mil|00 mil|000 mil|0 milhões|00 milhões|000 milhões|0 bilhões|00 bilhões|000 bilhões|0 trilhões|00 trilhões|000 trilhões
one|0 mil|00 mil|000 mil|0 milhão|00 milhão|000 milhão|0 bilhão|00 bilhão|000 bilhão|0 trilhão|00 trilhão|000 trilhão"
      currency := "other|¤\u00a00\u00a0mil|¤\u00a000\u00a0mil|¤\u00a0000\u00a0mil|¤\u00a00\u00a0mi|¤\u00a000\u00a0mi|¤\u00a0000\u00a0mi|¤\u00a00\u00a0bi|¤\u00a000\u00a0bi|¤\u00a0000\u00a0bi|¤\u00a00\u00a0tri|¤\u00a000\u00a0tri|¤\u00a0000\u00a0tri" }
  currencies := "AUD AU$|PHP PHP|PTE Esc.|THB ฿" :: Conventions.rootCurrencies
  plurals := "many e = 0 and i != 0 and i % 1000000 = 0 and v = 0 or e != 0..5|one i = 0..1"
  months :=
    { format :=
        { wide := "janeiro|fevereiro|março|abril|maio|junho|julho|agosto|setembro|outubro|novembro|dezembro"
          abbreviated := "jan.|fev.|mar.|abr.|mai.|jun.|jul.|ago.|set.|out.|nov.|dez."
          narrow := "J|F|M|A|M|J|J|A|S|O|N|D" } }
  weekdays :=
    { format :=
        { wide := "segunda-feira|terça-feira|quarta-feira|quinta-feira|sexta-feira|sábado|domingo"
          abbreviated := "seg.|ter.|qua.|qui.|sex.|sáb.|dom."
          narrow := "S|T|Q|Q|S|S|D" } }
  quarters :=
    { format :=
        { wide := "1º trimestre|2º trimestre|3º trimestre|4º trimestre"
          abbreviated := "T1|T2|T3|T4"
          narrow := "1|2|3|4" } }
  eras :=
    { wide := "antes de Cristo|depois de Cristo"
      abbreviated := "a.C.|d.C." }
  dayPeriods :=
    { format :=
        { wide := "am AM|pm PM|afternoon1 da tarde|evening1 da noite|midnight meia-noite|morning1 da manhã|night1 da madrugada|noon meio-dia" }
      standAlone :=
        { wide := "am AM|pm PM|afternoon1 tarde|evening1 noite|midnight meia-noite|morning1 manhã|night1 madrugada|noon meio-dia" } }
  dayPeriodRules := "afternoon1 43200 68400|evening1 68400 86400|midnight 0|morning1 21600 43200|night1 0 21600|noon 43200"
  dates :=
    { full := "EEEE, d 'de' MMMM 'de' y"
      long := "d 'de' MMMM 'de' y"
      medium := "d 'de' MMM 'de' y"
      short := "dd/MM/y" }
  skeletons := "EBh E, h B
EHm E, HH:mm
EHms E, HH:mm:ss
Ed E, d
Eh E, h\u202fa
Ehm E, h:mm\u202fa
Ehms E, h:mm:ss\u202fa
Gy y G
GyM MM/y G
GyMEd E, MM/dd/y G
GyMMM MMM 'de' y G
GyMMMEd E, d 'de' MMM 'de' y G
GyMMMd d 'de' MMM 'de' y G
GyMd dd/MM/y GGGGG
Hv HH'h', v
MEd E, dd/MM
MMMEd E, d 'de' MMM
MMMMEd E, d 'de' MMMM
MMMMW W'ª' 'semana' 'de' MMMM
MMMMd d 'de' MMMM
MMMd d 'de' MMM
MMdd dd/MM
Md dd/MM
hm h:mm\u202fa
hms h:mm:ss\u202fa
hmsv h:mm:ss\u202fa v
hmv h:mm\u202fa v
hv h\u202fa, v
yM MM/y
yMEd E, dd/MM/y
yMM MM/y
yMMM MMM 'de' y
yMMMEd E, d 'de' MMM 'de' y
yMMMM MMMM 'de' y
yMMMMEd E, d 'de' MMMM 'de' y
yMMMMd d 'de' MMMM 'de' y
yMMMd d 'de' MMM 'de' y
yMd dd/MM/y
yQQQ QQQ 'de' y
yQQQQ QQQQ 'de' y
yw w'ª' 'semana' 'de' Y" :: Conventions.rootSkeletons
  zones :=
    { place := "Horário \x7b0\x7d"
      unknownRegion := "Região desconhecida"
      utcLong := "Horário Universal Coordenado" }

/-- Romanian. -/
def ro : Conventions where
  symbols :=
    { decimal := ","
      group := "." }
  numbers :=
    { percent := "#,##0\u00a0%"
      currency := "#,##0.00\u00a0¤" }
  compact :=
    { short := "other|0\u00a0K|00\u00a0K|000\u00a0K|0\u00a0mil'.'|00\u00a0mil'.'|000\u00a0mil'.'|0\u00a0mld'.'|00\u00a0mld'.'|000\u00a0mld'.'|0\u00a0tril'.'|00\u00a0tril'.'|000\u00a0tril'.'"
      long := "other|0 de mii|00 de mii|000 de mii|0 de milioane|00 de milioane|000 de milioane|0 de miliarde|00 de miliarde|000 de miliarde|0 de trilioane|00 de trilioane|000 de trilioane
few|0 mii|00 mii|000 mii|0 milioane|00 milioane|000 milioane|0 miliarde|00 miliarde|000 miliarde|0 trilioane|00 trilioane|000 trilioane
one|0 mie|00 mie|000 mie|0 milion|00 milion|000 milion|0 miliard|00 miliard|000 miliard|0 trilion|00 trilion|000 trilion"
      currency := "other|0\u00a0K\u00a0¤|00\u00a0K\u00a0¤|000\u00a0K\u00a0¤|0\u00a0mil'.'\u00a0¤|00\u00a0mil'.'\u00a0¤|000\u00a0mil'.'\u00a0¤|0\u00a0mld'.'\u00a0¤|00\u00a0mld'.'\u00a0¤|000\u00a0mld'.'\u00a0¤|0\u00a0tril'.'\u00a0¤|00\u00a0tril'.'\u00a0¤|000\u00a0tril'.'\u00a0¤" }
  currencies := "AUD AUD|BRL BRL|CAD CAD|CNY CNY|EUR EUR|GBP GBP|HKD HKD|ILS ILS|INR INR|JPY JPY|KRW KRW|MXN MXN|NZD NZD|PHP PHP|TWD TWD|USD USD|VND VND|XCD XCD" :: Conventions.rootCurrencies
  plurals := "few v != 0 or n = 0 or n != 1 and n % 100 = 1..19|one i = 1 and v = 0"
  months :=
    { format :=
        { wide := "ianuarie|februarie|martie|aprilie|mai|iunie|iulie|august|septembrie|octombrie|noiembrie|decembrie"
          abbreviated := "ian.|feb.|mar.|apr.|mai|iun.|iul.|aug.|sept.|oct.|nov.|dec."
          narrow := "I|F|M|A|M|I|I|A|S|O|N|D" } }
  weekdays :=
    { format :=
        { wide := "luni|marți|miercuri|joi|vineri|sâmbătă|duminică"
          abbreviated := "lun.|mar.|mie.|joi|vin.|sâm.|dum."
          short := "lu.|ma.|mi.|joi|vi.|sâ.|du."
          narrow := "L|M|M|J|V|S|D" } }
  quarters :=
    { format :=
        { wide := "trimestrul I|trimestrul al II-lea|trimestrul al III-lea|trimestrul al IV-lea"
          abbreviated := "trim. I|trim. II|trim. III|trim. IV"
          narrow := "I|II|III|IV" } }
  eras :=
    { wide := "înainte de Hristos|după Hristos"
      abbreviated := "î.Hr.|d.Hr." }
  dayPeriods :=
    { format :=
        { wide := "am a.m.|pm p.m.|afternoon1 după-amiaza|evening1 seara|midnight la miezul nopții|morning1 dimineața|night1 noaptea|noon la amiază"
          abbreviated := "am a.m.|pm p.m.|afternoon1 după-amiaza|evening1 seara|midnight miezul nopții|morning1 dimineața|night1 noaptea|noon amiază" } }
  dayPeriodRules := "afternoon1 43200 64800|evening1 64800 79200|midnight 0|morning1 18000 43200|night1 79200 18000|noon 43200"
  dates :=
    { full := "EEEE, d MMMM y"
      long := "d MMMM y"
      medium := "d MMM y"
      short := "dd.MM.y" }
  moments :=
    { full := "\x7b1\x7d, \x7b0\x7d"
      long := "\x7b1\x7d, \x7b0\x7d"
      medium := "\x7b1\x7d, \x7b0\x7d"
      short := "\x7b1\x7d, \x7b0\x7d" }
  skeletons := "Ed E d
Ehm E h:mm\u202fa
Ehms E h:mm:ss\u202fa
Gy y G
GyM MM.y G
GyMEd E, dd.MM.y G
GyMMM MMM y G
GyMMMEd E, d MMM y G
GyMMMd d MMM y G
GyMd dd.MM.y G
Hv 'h' HH v
MEd E, dd.MM
MMMEd E, d MMM
MMMMEd E, d MMMM
MMMMW 'săptămâna' W 'din' MMMM
MMMMd d MMMM
MMMd d MMM
MMdd dd.MM
Md dd.MM
hm h:mm\u202fa
hms h:mm:ss\u202fa
hmsv h:mm:ss\u202fa v
hmv h:mm\u202fa v
yM MM.y
yMEd E, dd.MM.y
yMM MM.y
yMMM MMM y
yMMMEd E, d MMM y
yMMMM MMMM y
yMMMd d MMM y
yMd dd.MM.y
yQQQ QQQ y
yQQQQ QQQQ y
yw 'săptămâna' w 'din' Y" :: Conventions.rootSkeletons
  zones :=
    { place := "Ora din \x7b0\x7d"
      unknownRegion := "Regiune necunoscută"
      utcLong := "Timpul universal coordonat" }

/-- Catalan (France). -/
def caFR : Conventions :=
  { ca with
    currencies := "FRF F" :: ca.currencies }

/-- Spanish (Latin America). -/
def es419 : Conventions :=
  { es with
    symbols :=
      { es.symbols with
        decimal := "."
        group := "," }
    numbers :=
      { es.numbers with
        percent := "#,##0%"
        currency := "¤#,##0.00" }
    compact :=
      { es.compact with
        short := "other|0\u00a0K|00\u00a0k|000\u00a0k|0\u00a0M|00\u00a0M|000\u00a0M|0000\u00a0M|00\u00a0mil\u00a0M|000\u00a0mil\u00a0M|0\u00a0B|00\u00a0B|000\u00a0B"
        currency := "other|¤0\u00a0K|¤00\u00a0k|¤000\u00a0k|¤0\u00a0M|¤00\u00a0M|¤000\u00a0M|¤0000\u00a0M|¤00\u00a0mil\u00a0M|¤000\u00a0mil\u00a0M|¤0\u00a0B|¤00\u00a0B|¤000\u00a0B" }
    currencies := "EUR EUR|THB THB|USD USD|VND VND" :: es.currencies
    weekdays :=
      { es.weekdays with
        format :=
          { es.weekdays.format with
            narrow := "L|M|M|J|V|S|D" }
        standAlone :=
          { es.weekdays.standAlone with
            narrow := "L|M|M|J|V|S|D" } }
    quarters :=
      { es.quarters with
        format :=
          { es.quarters.format with
            wide := "1.º trimestre|2.º trimestre|3.º trimestre|4.º trimestre" }
        standAlone :=
          { es.quarters.standAlone with
            wide := "1.º trimestre|2.º trimestre|3.º trimestre|4.º trimestre" } }
    eras :=
      { wide := "antes de Cristo|después de Cristo"
        abbreviated := "a.C.|d.C." }
    dayPeriods :=
      { format :=
          { wide := "am a.m.|pm p.m.|evening1 de la tarde|morning1 de la madrugada|morning2 de la mañana|night1 de la noche|noon del mediodía" }
        standAlone :=
          { wide := "am a.m.|pm p.m.|evening1 tarde|morning1 madrugada|morning2 mañana|night1 noche|noon mediodía" } }
    times :=
      { es.times with
        full := "h:mm:ss\u202fa zzzz"
        long := "h:mm:ss\u202fa z"
        medium := "h:mm:ss\u202fa"
        short := "h:mm\u202fa" }
    skeletons := "EHm E, HH:mm
EHms E, HH:mm:ss
GyMMMd d 'de' MMM 'de' y G
H HH
Hm HH:mm
Hms HH:mm:ss
Hmsv HH:mm:ss v
Hmsvvvv HH:mm:ss vvvv
Hmv HH:mm v
MMMdd dd-MMM
yMEd E d/M/y
yMMMEd E, d MMM y
yQQQ QQQ 'de' y" :: es.skeletons
    zones :=
      { es.zones with
        utcLong := "hora universal coordinada" } }

/-- Spanish (Equatorial Guinea). -/
def esGQ : Conventions :=
  { es with
    numbers :=
      { es.numbers with
        currency := "¤#,##0.00" }
    currencies := "XAF FCFA" :: es.currencies }

/-- Spanish (Philippines). -/
def esPH : Conventions :=
  { es with
    currencies := "PHP ₱" :: es.currencies
    times :=
      { es.times with
        full := "h:mm:ss\u202fa zzzz"
        long := "h:mm:ss\u202fa z"
        medium := "h:mm:ss\u202fa"
        short := "h:mm\u202fa" } }

/-- French (Belgium). -/
def frBE : Conventions :=
  { fr with
    dates :=
      { fr.dates with
        short := "d/MM/yy" }
    times :=
      { fr.times with
        full := "H 'h' mm 'min' ss 's' zzzz" } }

/-- French (Burundi). -/
def frBI : Conventions :=
  { fr with
    currencies := "BIF FBu" :: fr.currencies }

/-- French (Canada). -/
def frCA : Conventions :=
  { fr with
    symbols :=
      { fr.symbols with
        group := "\u00a0" }
    compact :=
      { fr.compact with
        short := "other|0\u00a0k|00\u00a0k|000\u00a0k|0\u00a0M|00\u00a0M|000\u00a0M|0\u00a0G|00\u00a0G|000\u00a0G|0\u00a0T|00\u00a0T|000\u00a0T"
        long := "other|0 mille|00 mille|000 mille|0 millions|00 millions|000 millions|0 milliards|00 milliards|000 milliards|0 billions|00 billions|000 billions
one|0 mille|00 mille|000 mille|0 million|00 million|000 million|0 milliard|00 milliard|000 milliard|0 billion|00 billion|000 billion"
        currency := "other|0\u00a0k\u00a0¤|00\u00a0k\u00a0¤|000\u00a0k\u00a0¤|0\u00a0M\u00a0¤|00\u00a0M\u00a0¤|000\u00a0M\u00a0¤|0\u00a0G\u00a0¤|00\u00a0G\u00a0¤|000\u00a0G\u00a0¤|0\u00a0T\u00a0¤|00\u00a0T\u00a0¤|000\u00a0T\u00a0¤" }
    currencies := "ARS ARS|AUD $\u00a0AU|BMD BMD|BND BND|BZD BZD|CAD $|CLP CLP|CNY CN¥|COP COP|FJD FJD|FKP FKP|GBP £|GIP GIP|HKD $\u00a0HK|ILS ILS|INR INR|JPY ¥|KRW KRW|LBP LBP|MXN MXN|NAD NAD|NZD $\u00a0NZ|SBD SBD|SGD $\u00a0SG|SRD SRD|TTD TTD|USD $\u00a0US|UYU UYU|VND VND|WST WST|XAF XAF|XOF XOF|XPF XPF" :: fr.currencies
    months :=
      { fr.months with
        format :=
          { fr.months.format with
            abbreviated := "janv.|févr.|mars|avr.|mai|juin|juill.|août|sept.|oct.|nov.|déc." }
        standAlone :=
          { fr.months.standAlone with
            abbreviated := "janv.|févr.|mars|avr.|mai|juin|juill.|août|sept.|oct.|nov.|déc." } }
    dayPeriods :=
      { format :=
          { wide := "am a.m.|pm p.m.|afternoon1 de l’après-midi|evening1 du soir|midnight minuit|morning1 du matin|night1 du matin|noon midi"
            abbreviated := "am a.m.|pm p.m.|afternoon1 après-midi|evening1 du soir|midnight minuit|morning1 du mat.|night1 du mat.|noon midi"
            narrow := "am a|pm p|afternoon1 après-midi|evening1 du soir|midnight minuit|morning1 mat.|night1 mat.|noon midi" }
        standAlone :=
          { wide := "am a.m.|pm p.m.|afternoon1 après-midi|evening1 soir|midnight minuit|morning1 matin|night1 matin|noon midi"
            abbreviated := "am a.m.|pm p.m.|afternoon1 après-midi|evening1 du soir|midnight minuit|morning1 mat.|night1 du mat.|noon midi"
            narrow := "am a|pm p|afternoon1 après-midi|evening1 du soir|midnight minuit|morning1 mat.|night1 mat.|noon midi" } }
    dates :=
      { fr.dates with
        short := "y-MM-dd" }
    times :=
      { fr.times with
        full := "HH 'h' mm 'min' ss 's' zzzz"
        long := "HH 'h' mm 'min' ss 's' z"
        medium := "HH 'h' mm 'min' ss 's'"
        short := "HH 'h' mm" }
    skeletons := "Bh h 'h' B
Bhm h 'h' mm B
Bhms h 'h' mm 'min' ss 's' B
EBh E h 'h' B
EBhm E h 'h' mm B
EBhms E h 'h' mm 'min' ss 's' B
EHm E HH 'h' mm
EHms E HH 'h' mm 'min' ss 's'
Eh E h 'h' a
Ehm E h 'h' mm\u202fa
Ehms E h 'h' mm 'min' ss 's' a
GyM y-MM G
GyMEd E y-MM-dd G
GyMd y-MM-dd GGGGG
Hm HH 'h' mm
Hms HH 'h' mm 'min' ss 's'
Hmsv HH 'h' mm 'min' ss 's' v
Hmv HH 'h' mm v
Hv H 'h' v
MEd E MM-dd
MMd MM-dd
MMdd MM-dd
Md MM-dd
h h 'h' a
hm h 'h' mm\u202fa
hms h 'h' mm 'min' ss 's' a
hmsv h 'h' mm 'min' ss 's' a v
hmv h 'h' mm\u202fa v
hv h 'h'\u202fa v
ms mm 'min' ss 's'
yM y-MM
yMEd E y-MM-dd
yMM y-MM
yMd y-MM-dd" :: fr.skeletons }

/-- French (Congo - Kinshasa). -/
def frCD : Conventions :=
  { fr with
    currencies := "CDF FC" :: fr.currencies
    dayPeriods :=
      { fr.dayPeriods with
        format :=
          { fr.dayPeriods.format with
            narrow := "am AM|pm PM|afternoon1 ap.m.|evening1 soir|midnight min.|morning1 mat.|night1 matin|noon midi" }
        standAlone :=
          { fr.dayPeriods.standAlone with
            narrow := "am AM|pm PM|afternoon1 ap.m.|evening1 soir|midnight min.|morning1 mat.|night1 matin|noon midi" } } }

/-- French (Switzerland). -/
def frCH : Conventions :=
  { fr with
    numbers :=
      { fr.numbers with
        percent := "#,##0%" }
    dayPeriods :=
      { format :=
          { wide := "am AM|pm PM|afternoon1 de l’après-midi|evening1 du soir|midnight minuit|morning1 du matin|night1 du matin|noon midi"
            abbreviated := "am AM|pm PM|afternoon1 de l’ap.m.|evening1 du soir|midnight min.|morning1 du mat.|night1 du mat.|noon midi" }
        standAlone :=
          { wide := "am AM|pm PM|afternoon1 après-midi|evening1 soir|midnight minuit|morning1 matin|night1 matin|noon midi"
            abbreviated := "am AM|pm PM|afternoon1 ap.m.|evening1 soir|midnight min.|morning1 mat.|night1 matin|noon midi" } }
    dates :=
      { fr.dates with
        full := "EEEE, d MMMM y"
        short := "dd.MM.yy" }
    times :=
      { fr.times with
        full := "HH.mm:ss 'h' zzzz" }
    skeletons := "MEd E, dd.MM.
MMdd dd.MM
Md dd.MM.
yM MM.y
yMEd E, dd.MM.y
yMd dd.MM.y" :: fr.skeletons }

/-- French (Cameroon). -/
def frCM : Conventions :=
  { fr with
    dayPeriods :=
      { format :=
          { wide := "am matin|pm soir|afternoon1 de l’après-midi|evening1 du soir|midnight minuit|morning1 du matin|night1 du matin|noon midi"
            abbreviated := "am mat.|pm soir|afternoon1 après-midi|evening1 soir|midnight minuit|morning1 matin|night1 matin|noon midi"
            narrow := "am mat.|pm soir|afternoon1 ap.m.|evening1 soir|midnight minuit|morning1 mat.|night1 matin|noon midi" }
        standAlone :=
          { wide := "am matin|pm soir|afternoon1 après-midi|evening1 soir|midnight minuit|morning1 matin|night1 matin|noon midi"
            abbreviated := "am mat.|pm soir|afternoon1 ap.m.|evening1 soir|midnight minuit|morning1 mat.|night1 matin|noon midi" } }
    skeletons := "Ehm E h:mm
Ehms E h:mm:ss
h h
hm h:mm
hms h:mm:ss
hmsv h:mm:ss v
hmv h:mm v" :: fr.skeletons }

/-- French (Djibouti). -/
def frDJ : Conventions :=
  { fr with
    currencies := "DJF Fdj" :: fr.currencies
    times :=
      { fr.times with
        full := "h:mm:ss\u202fa zzzz"
        long := "h:mm:ss\u202fa z"
        medium := "h:mm:ss\u202fa"
        short := "h:mm\u202fa" } }

/-- French (Algeria). -/
def frDZ : Conventions :=
  { fr with
    currencies := "DZD DA" :: fr.currencies
    times :=
      { fr.times with
        full := "h:mm:ss\u202fa zzzz"
        long := "h:mm:ss\u202fa z"
        medium := "h:mm:ss\u202fa"
        short := "h:mm\u202fa" } }

/-- French (Guinea). -/
def frGN : Conventions :=
  { fr with
    currencies := "GNF FG" :: fr.currencies }

/-- French (Haiti). -/
def frHT : Conventions :=
  { fr with
    currencies := "HTG G" :: fr.currencies
    dayPeriods :=
      { fr.dayPeriods with
        format :=
          { fr.dayPeriods.format with
            wide := "am AM|pm PM|afternoon1 de l’après-midi|evening1 du soir|midnight minuit|morning1 du matin|night1 de la nuit|noon midi" } } }

/-- French (Comoros). -/
def frKM : Conventions :=
  { fr with
    currencies := "KMF CF" :: fr.currencies }

/-- French (Luxembourg). -/
def frLU : Conventions :=
  { fr with
    symbols :=
      { fr.symbols with
        group := "." }
    currencies := "FRF FRF|LUF F" :: fr.currencies }

/-- French (Morocco). -/
def frMA : Conventions :=
  { fr with
    symbols :=
      { fr.symbols with
        group := "." }
    months :=
      { fr.months with
        format :=
          { fr.months.format with
            abbreviated := "jan.|fév.|mar.|avr.|mai|jui.|juil.|août|sept.|oct.|nov.|déc." }
        standAlone :=
          { fr.months.standAlone with
            abbreviated := "jan.|fév.|mar.|avr.|mai|jui.|juil.|août|sept.|oct.|nov.|déc." } }
    dayPeriods :=
      { fr.dayPeriods with
        format :=
          { fr.dayPeriods.format with
            wide := "am a.m.|pm p.m.|afternoon1 de l’après-midi|evening1 du soir|midnight minuit|morning1 du matin|night1 du matin|noon midi" }
        standAlone :=
          { fr.dayPeriods.standAlone with
            wide := "am a.m.|pm p.m.|afternoon1 après-midi|evening1 soir|midnight minuit|morning1 matin|night1 matin|noon midi" } } }

/-- French (Madagascar). -/
def frMG : Conventions :=
  { fr with
    currencies := "MGA Ar" :: fr.currencies }

/-- French (Mali). -/
def frML : Conventions :=
  { fr with
    quarters :=
      { fr.quarters with
        format :=
          { fr.quarters.format with
            wide := "le 1er trimestre|le 2ème trimestre|le 3ème trimestre|le 4ème trimestre" }
        standAlone :=
          { fr.quarters.standAlone with
            wide := "1er trimestre|2ème trimestre|3ème trimestre|4ème trimestre" } }
    moments :=
      { fr.moments with
        short := "\x7b1\x7d, \x7b0\x7d" } }

/-- French (Mauritania). -/
def frMR : Conventions :=
  { fr with
    currencies := "MRU UM" :: fr.currencies
    times :=
      { fr.times with
        full := "h:mm:ss\u202fa zzzz"
        long := "h:mm:ss\u202fa z"
        medium := "h:mm:ss\u202fa"
        short := "h:mm\u202fa" } }

/-- French (Mauritius). -/
def frMU : Conventions :=
  { fr with
    currencies := "MUR Rs" :: fr.currencies }

/-- French (Réunion). -/
def frRE : Conventions :=
  { fr with
    dayPeriods :=
      { fr.dayPeriods with
        format :=
          { fr.dayPeriods.format with
            abbreviated := "am AM|pm PM|afternoon1 ap.m.|evening1 soir|midnight min.|morning1 mat.|night1 matin|noon midi" }
        standAlone :=
          { fr.dayPeriods.standAlone with
            abbreviated := "am AM|pm PM|afternoon1 ap.m.|evening1 soir|midnight min.|morning1 mat.|night1 matin|noon midi" } } }

/-- French (Rwanda). -/
def frRW : Conventions :=
  { fr with
    currencies := "RWF RF" :: fr.currencies }

/-- French (Seychelles). -/
def frSC : Conventions :=
  { fr with
    currencies := "SCR SR" :: fr.currencies }

/-- French (Senegal). -/
def frSN : Conventions :=
  { fr with
    dayPeriods :=
      { fr.dayPeriods with
        format :=
          { fr.dayPeriods.format with
            abbreviated := "am AM|pm PM|afternoon1 ap.m.|evening1 soir|midnight min.|morning1 mat.|night1 matin|noon midi" }
        standAlone :=
          { fr.dayPeriods.standAlone with
            abbreviated := "am AM|pm PM|afternoon1 ap.m.|evening1 soir|midnight min.|morning1 mat.|night1 matin|noon midi" } } }

/-- French (Syria). -/
def frSY : Conventions :=
  { fr with
    currencies := "SYP LS" :: fr.currencies
    times :=
      { fr.times with
        full := "h:mm:ss\u202fa zzzz"
        long := "h:mm:ss\u202fa z"
        medium := "h:mm:ss\u202fa"
        short := "h:mm\u202fa" } }

/-- French (Chad). -/
def frTD : Conventions :=
  { fr with
    times :=
      { fr.times with
        full := "h:mm:ss\u202fa zzzz"
        long := "h:mm:ss\u202fa z"
        medium := "h:mm:ss\u202fa"
        short := "h:mm\u202fa" } }

/-- French (Tunisia). -/
def frTN : Conventions :=
  { fr with
    currencies := "TND DT" :: fr.currencies
    times :=
      { fr.times with
        full := "h:mm:ss\u202fa zzzz"
        long := "h:mm:ss\u202fa z"
        medium := "h:mm:ss\u202fa"
        short := "h:mm\u202fa" } }

/-- French (Vanuatu). -/
def frVU : Conventions :=
  { fr with
    currencies := "VUV VT" :: fr.currencies
    times :=
      { fr.times with
        full := "h:mm:ss\u202fa zzzz"
        long := "h:mm:ss\u202fa z"
        medium := "h:mm:ss\u202fa"
        short := "h:mm\u202fa" } }

/-- Italian (Switzerland). -/
def itCH : Conventions :=
  { it with
    symbols :=
      { it.symbols with
        decimal := "."
        group := "’" }
    numbers :=
      { it.numbers with
        currency := "¤\u00a0#,##0.00;¤-#,##0.00" }
    dates :=
      { it.dates with
        full := "EEEE, d MMMM y"
        short := "dd.MM.yy" } }

/-- Portuguese (Portugal). -/
def ptPT : Conventions :=
  { pt with
    symbols :=
      { pt.symbols with
        group := "\u00a0" }
    numbers :=
      { pt.numbers with
        currency := "#,##0.00\u00a0¤" }
    compact :=
      { pt.compact with
        short := "other|0\u00a0mil|00\u00a0mil|000\u00a0mil|0\u00a0M|00\u00a0M|000\u00a0M|0\u00a0mM|00\u00a0mM|000\u00a0mM|0\u00a0Bi|00\u00a0Bi|000\u00a0Bi"
        long := "other|0 mil|00 mil|000 mil|0 milhões|00 milhões|000 milhões|0 mil milhões|00 mil milhões|000 mil milhões|0 biliões|00 biliões|000 biliões
one|0 mil|00 mil|000 mil|0 milhão|00 milhões|000 milhões|0 mil milhões|00 mil milhões|000 mil milhões|0 bilião|00 biliões|000 biliões"
        currency := "other|0\u00a0mil\u00a0¤|00\u00a0mil\u00a0¤|000\u00a0mil\u00a0¤|0\u00a0M\u00a0¤|00\u00a0M\u00a0¤|000\u00a0M\u00a0¤|0\u00a0mM\u00a0¤|00\u00a0mM\u00a0¤|000\u00a0mM\u00a0¤|0\u00a0Bi\u00a0¤|00\u00a0Bi\u00a0¤|000\u00a0Bi\u00a0¤" }
    currencies := "PTE \u200b" :: pt.currencies
    plurals := "many e = 0 and i != 0 and i % 1000000 = 0 and v = 0 or e != 0..5|one i = 1 and v = 0"
    weekdays :=
      { pt.weekdays with
        format :=
          { pt.weekdays.format with
            abbreviated := "segunda|terça|quarta|quinta|sexta|sábado|domingo" }
        standAlone :=
          { pt.weekdays.standAlone with
            abbreviated := "segunda|terça|quarta|quinta|sexta|sábado|domingo" } }
    quarters :=
      { pt.quarters with
        format :=
          { pt.quarters.format with
            wide := "1.º trimestre|2.º trimestre|3.º trimestre|4.º trimestre" }
        standAlone :=
          { pt.quarters.standAlone with
            wide := "1.º trimestre|2.º trimestre|3.º trimestre|4.º trimestre" } }
    dayPeriods :=
      { format :=
          { wide := "am da manhã|pm da tarde|afternoon1 da tarde|evening1 da noite|midnight meia-noite|morning1 da manhã|night1 da madrugada|noon meio-dia"
            abbreviated := "am a.m.|pm p.m.|afternoon1 da tarde|evening1 da noite|midnight meia-noite|morning1 da manhã|night1 da madrugada|noon meio-dia"
            narrow := "am a.m.|pm p.m.|afternoon1 tarde|evening1 noite|midnight meia-noite|morning1 manhã|night1 madrugada|noon meio-dia" }
        standAlone :=
          { wide := "am manhã|pm tarde|afternoon1 tarde|evening1 noite|midnight meia-noite|morning1 manhã|night1 madrugada|noon meio-dia"
            abbreviated := "am a.m.|pm p.m.|afternoon1 tarde|evening1 noite|midnight meia-noite|morning1 manhã|night1 madrugada|noon meio-dia" } }
    dates :=
      { pt.dates with
        medium := "dd/MM/y"
        short := "dd/MM/yy" }
    moments :=
      { pt.moments with
        full := "\x7b1\x7d, \x7b0\x7d"
        long := "\x7b1\x7d, \x7b0\x7d"
        medium := "\x7b1\x7d, \x7b0\x7d"
        short := "\x7b1\x7d, \x7b0\x7d" }
    skeletons := "GyMEd E, dd/MM/y G
GyMd dd/MM/y G
MMMEd E, d/MM
MMMMEd ccc, d 'de' MMMM
MMMMW W.'ª' 'semana' 'de' MMMM
MMMd d/MM
yMMM MM/y
yMMMEEEEd EEEE, d/MM/y
yMMMEd E, d/MM/y
yMMMMEd ccc, d 'de' MMMM 'de' y
yMMMd d/MM/y
yQQQ QQQQ 'de' y
yw w.'ª' 'semana' 'de' Y" :: pt.skeletons
    zones :=
      { pt.zones with
        place := "Hora de \x7b0\x7d"
        utcLong := "Hora Coordenada Universal" } }

/-- Romanian (Moldova). -/
def roMD : Conventions :=
  { ro with
    currencies := "MDL L" :: ro.currencies
    weekdays :=
      { format :=
          { wide := "luni|marți|miercuri|joi|vineri|sâmbătă|duminică"
            abbreviated := "Lun|Mar|Mie|Joi|Vin|Sâm|Dum"
            short := "Lu|Ma|Mi|Jo|Vi|Sâ|Du"
            narrow := "L|Ma|Mi|J|V|S|D" } }
    quarters :=
      { format :=
          { wide := "trimestrul 1|trimestrul 2|trimestrul 3|trimestrul 4"
            abbreviated := "trim. 1|trim. 2|trim. 3|trim. 4"
            narrow := "I|II|III|IV" }
        standAlone :=
          { wide := "Trimestrul 1|Trimestrul 2|Trimestrul 3|Trimestrul 4"
            abbreviated := "Trim. 1|Trim. 2|Trim. 3|Trim. 4"
            narrow := "I|II|III|IV" } }
    dayPeriods :=
      { format :=
          { wide := "am a.m.|pm p.m.|afternoon1 după-amiaza|evening1 seara|midnight miezul nopții|morning1 dimineața|night1 noaptea|noon amiază"
            narrow := "am a.m.|pm p.m.|afternoon1 după-amiază|evening1 seară|midnight miezul nopții|morning1 dimineață|night1 noapte|noon amiază" } } }

/-- Spanish (Argentina). -/
def esAR : Conventions :=
  { es419 with
    symbols :=
      { es419.symbols with
        decimal := ","
        group := "." }
    numbers :=
      { es419.numbers with
        currency := "¤\u00a0#,##0.00" }
    currencies := "ARS $|USD US$" :: es419.currencies
    quarters :=
      { es419.quarters with
        format :=
          { es419.quarters.format with
            wide := "1.er trimestre|2.º trimestre|3.er trimestre|4.º trimestre" }
        standAlone :=
          { es419.quarters.standAlone with
            wide := "1.er trimestre|2.º trimestre|3.er trimestre|4.º trimestre" } }
    dayPeriods :=
      { format :=
          { wide := "am a.\u00a0m.|pm p.\u00a0m.|evening1 tarde|morning1 madrugada|morning2 mañana|night1 noche|noon mediodía"
            abbreviated := "am a.\u202fm.|pm p.\u202fm.|evening1 tarde|morning1 madrugada|morning2 mañana|night1 noche|noon mediodía" }
        standAlone :=
          { wide := "am a.\u00a0m.|pm p.\u00a0m.|evening1 tarde|morning1 madrugada|morning2 mañana|night1 noche|noon mediodía"
            abbreviated := "am a.\u202fm.|pm p.\u202fm.|evening1 tarde|morning1 madrugada|morning2 mañana|night1 noche|noon mediodía"
            narrow := "am a.\u202fm.|pm p.\u202fm.|evening1 tarde|morning1 madrugada|morning2 mañana|night1 noche|noon m." } }
    skeletons := "GyMMMEd E, d 'de' MMM 'de' y G
GyMMMd d MMM y G
Hmsvvvv HH:mm:ss (vvvv)
MEd E d-M
hms hh:mm:ss
yM M-y
yMEd E, d/M/y
yMMMd d 'de' MMM 'de' y" :: es419.skeletons }

/-- Spanish (Bolivia). -/
def esBO : Conventions :=
  { es419 with
    symbols :=
      { es419.symbols with
        decimal := ","
        group := "." }
    currencies := "BOB Bs" :: es419.currencies
    dayPeriods :=
      { format :=
          { wide := "am a.\u00a0m.|pm p.\u00a0m.|evening1 de la tarde|morning1 de la madrugada|morning2 de la mañana|night1 de la noche|noon del mediodía"
            abbreviated := "am a.\u202fm.|pm p.\u202fm.|evening1 de la tarde|morning1 de la madrugada|morning2 de la mañana|night1 de la noche|noon del mediodía" }
        standAlone :=
          { wide := "am a.\u00a0m.|pm p.\u00a0m.|evening1 tarde|morning1 madrugada|morning2 mañana|night1 noche|noon mediodía"
            abbreviated := "am a.\u202fm.|pm p.\u202fm.|evening1 tarde|morning1 madrugada|morning2 mañana|night1 noche|noon mediodía" } }
    dates :=
      { es419.dates with
        medium := "d MMM 'de' y" } }

/-- Spanish (Brazil). -/
def esBR : Conventions :=
  { es419 with
    currencies := "BRL R$" :: es419.currencies
    times :=
      { es419.times with
        full := "HH:mm:ss zzzz"
        long := "HH:mm:ss z"
        medium := "HH:mm:ss"
        short := "HH:mm" } }

/-- Spanish (Belize). -/
def esBZ : Conventions :=
  { es419 with
    currencies := "BZD $" :: es419.currencies
    times :=
      { es419.times with
        full := "HH:mm:ss zzzz"
        long := "HH:mm:ss z"
        medium := "HH:mm:ss"
        short := "HH:mm" } }

/-- Spanish (Chile). -/
def esCL : Conventions :=
  { es419 with
    symbols :=
      { es419.symbols with
        decimal := ","
        group := "." }
    numbers :=
      { es419.numbers with
        currency := "¤#,##0.00;¤-#,##0.00" }
    currencies := "CLP $|USD US$" :: es419.currencies
    months :=
      { es419.months with
        standAlone :=
          { es419.months.standAlone with
            abbreviated := "ene.|feb.|mar.|abr.|may.|jun.|jul.|ago.|sept.|oct.|nov.|dic." } }
    weekdays :=
      { es419.weekdays with
        format :=
          { es419.weekdays.format with
            short := "lu|ma|mi|ju|vi|sá|do" }
        standAlone :=
          { es419.weekdays.standAlone with
            short := "lu|ma|mi|ju|vi|sá|do" } }
    quarters :=
      { es419.quarters with
        standAlone :=
          { es419.quarters.standAlone with
            wide := "1.° trimestre|2.° trimestre|3.° trimestre|4.º trimestre" } }
    dayPeriods :=
      { format :=
          { wide := "am a.\u00a0m.|pm p.\u00a0m.|evening1 de la tarde|morning1 de la madrugada|morning2 de la mañana|night1 de la noche|noon del mediodía"
            abbreviated := "am a.\u202fm.|pm p.\u202fm.|evening1 de la tarde|morning1 de la madrugada|morning2 de la mañana|night1 de la noche|noon del mediodía" }
        standAlone :=
          { wide := "am a.\u00a0m.|pm p.\u00a0m.|evening1 tarde|morning1 madrugada|morning2 mañana|night1 noche|noon mediodía"
            abbreviated := "am a.\u202fm.|pm p.\u202fm.|evening1 tarde|morning1 madrugada|morning2 mañana|night1 noche|noon mediodía" } }
    dates :=
      { es419.dates with
        medium := "dd-MM-y"
        short := "dd-MM-yy" }
    skeletons := "GyMMMd d MMM y G
MEd E, dd-MM
Md dd-MM
yM MM-y
yMEd E dd-MM-y
yMd dd-MM-y" :: es419.skeletons }

/-- Spanish (Colombia). -/
def esCO : Conventions :=
  { es419 with
    symbols :=
      { es419.symbols with
        decimal := ","
        group := "." }
    numbers :=
      { es419.numbers with
        currency := "¤\u00a0#,##0.00" }
    currencies := "COP $|USD US$" :: es419.currencies
    months :=
      { es419.months with
        standAlone :=
          { es419.months.standAlone with
            abbreviated := "ene.|feb.|mar.|abr.|may.|jun.|jul.|ago.|sept.|oct.|nov.|dic." } }
    weekdays :=
      { es419.weekdays with
        format :=
          { es419.weekdays.format with
            narrow := "L|M|m|J|V|S|D" }
        standAlone :=
          { es419.weekdays.standAlone with
            narrow := "l|m|m|j|v|s|d" } }
    dayPeriods :=
      { format :=
          { wide := "am a.\u00a0m.|pm p.\u00a0m.|evening1 de la tarde|morning1 de la madrugada|morning2 de la mañana|night1 de la noche|noon m."
            abbreviated := "am a.\u202fm.|pm p.\u202fm.|evening1 de la tarde|morning1 de la madrugada|morning2 de la mañana|night1 de la noche|noon m." }
        standAlone :=
          { wide := "am a.\u00a0m.|pm p.\u00a0m.|evening1 tarde|morning1 madrugada|morning2 mañana|night1 noche|noon m."
            abbreviated := "am a.\u202fm.|pm p.\u202fm.|evening1 tarde|morning1 madrugada|morning2 mañana|night1 noche|noon m." } }
    dayPeriodRules := "evening1 43200 72000|morning2 0 43200|night1 72000 86400|noon 43200"
    dates :=
      { es419.dates with
        medium := "d/MM/y"
        short := "d/MM/yy" }
    skeletons := "GyMMM MMM 'de' y G
GyMMMEd E, d MMM 'de' y G
H H
Hm H:mm
Hms H:mm:ss
MMMEd E, d 'de' MMM
MMMd d 'de' MMM
MMMdd d 'de' MMM
yMEd EEE, d/M/y
yMMM MMM 'de' y
yMMMd d 'de' MMM 'de' y" :: es419.skeletons }

/-- Spanish (Costa Rica). -/
def esCR : Conventions :=
  { es419 with
    symbols :=
      { es419.symbols with
        decimal := ","
        group := "\u00a0" }
    currencies := "CRC ₡" :: es419.currencies
    dayPeriods :=
      { format :=
          { wide := "am a.\u00a0m.|pm p.\u00a0m.|evening1 de la tarde|morning1 de la madrugada|morning2 de la mañana|night1 de la noche|noon del mediodía"
            abbreviated := "am a.\u202fm.|pm p.\u202fm.|evening1 de la tarde|morning1 de la madrugada|morning2 de la mañana|night1 de la noche|noon del mediodía" }
        standAlone :=
          { wide := "am a.\u00a0m.|pm p.\u00a0m.|evening1 tarde|morning1 madrugada|morning2 mañana|night1 noche|noon mediodía"
            abbreviated := "am a.\u202fm.|pm p.\u202fm.|evening1 tarde|morning1 madrugada|morning2 mañana|night1 noche|noon mediodía" } } }

/-- Spanish (Cuba). -/
def esCU : Conventions :=
  { es419 with
    currencies := "CUP $|USD US$" :: es419.currencies }

/-- Spanish (Dominican Republic). -/
def esDO : Conventions :=
  { es419 with
    currencies := "DOP RD$|USD US$" :: es419.currencies
    quarters :=
      { es419.quarters with
        format :=
          { es419.quarters.format with
            abbreviated := "Q1|Q2|Q3|Q4" }
        standAlone :=
          { es419.quarters.standAlone with
            abbreviated := "Q1|Q2|Q3|Q4" } }
    dayPeriods :=
      { format :=
          { wide := "am a.\u00a0m.|pm p.\u00a0m.|evening1 de la tarde|morning1 de la madrugada|morning2 de la mañana|night1 de la noche|noon del mediodía"
            abbreviated := "am a.\u202fm.|pm p.\u202fm.|evening1 de la tarde|morning1 de la madrugada|morning2 de la mañana|night1 de la noche|noon del mediodía"
            narrow := "am a.\u202fm.|pm p.\u202fm.|evening1 tarde|morning1 día|morning2 mañana|night1 noche|noon mediodía" }
        standAlone :=
          { wide := "am a.\u00a0m.|pm p.\u00a0m.|evening1 tarde|morning1 madrugada|morning2 mañana|night1 noche|noon mediodía"
            abbreviated := "am a.\u202fm.|pm p.\u202fm.|evening1 tarde|morning1 madrugada|morning2 mañana|night1 noche|noon mediodía"
            narrow := "am a.\u202fm.|pm p.\u202fm.|evening1 tarde|morning1 madrugada|morning2 mañana|night1 noche|noon m." } }
    skeletons := "yMMMd d MMM 'de' y" :: es419.skeletons }

/-- Spanish (Ecuador). -/
def esEC : Conventions :=
  { es419 with
    symbols :=
      { es419.symbols with
        decimal := ","
        group := "." }
    numbers :=
      { es419.numbers with
        currency := "¤#,##0.00;¤-#,##0.00" }
    currencies := "USD $" :: es419.currencies
    dayPeriods :=
      { format :=
          { wide := "am a.\u00a0m.|pm p.\u00a0m.|evening1 de la tarde|morning1 de la madrugada|morning2 de la mañana|night1 de la noche|noon del mediodía"
            abbreviated := "am a.\u202fm.|pm p.\u202fm.|evening1 de la tarde|morning1 de la madrugada|morning2 de la mañana|night1 de la noche|noon del mediodía" }
        standAlone :=
          { wide := "am a.\u00a0m.|pm p.\u00a0m.|evening1 tarde|morning1 madrugada|morning2 mañana|night1 noche|noon mediodía"
            abbreviated := "am a.\u202fm.|pm p.\u202fm.|evening1 tarde|morning1 madrugada|morning2 mañana|night1 noche|noon mediodía" } } }

/-- Spanish (Guatemala). -/
def esGT : Conventions :=
  { es419 with
    compact :=
      { es419.compact with
        currency := "other|¤0K|¤00K|¤000K|¤0M|¤00M|¤000M|¤0000M|¤00MRD|¤000MRD|¤0\u00a0B|¤00\u00a0B|¤000\u00a0B" }
    currencies := "GTQ Q" :: es419.currencies
    dayPeriods :=
      { format :=
          { wide := "am a.\u00a0m.|pm p.\u00a0m.|evening1 de la tarde|morning1 de la madrugada|morning2 de la mañana|night1 de la noche|noon del mediodía"
            abbreviated := "am a.\u202fm.|pm p.\u202fm.|evening1 de la tarde|morning1 de la madrugada|morning2 de la mañana|night1 de la noche|noon del mediodía" }
        standAlone :=
          { wide := "am a.\u00a0m.|pm p.\u00a0m.|evening1 tarde|morning1 madrugada|morning2 mañana|night1 noche|noon mediodía"
            abbreviated := "am a.\u202fm.|pm p.\u202fm.|evening1 tarde|morning1 madrugada|morning2 mañana|night1 noche|noon mediodía" } }
    dates :=
      { es419.dates with
        medium := "d/MM/y"
        short := "d/MM/yy" } }

/-- Spanish (Honduras). -/
def esHN : Conventions :=
  { es419 with
    currencies := "HNL L" :: es419.currencies
    dayPeriods :=
      { format :=
          { wide := "am a.\u00a0m.|pm p.\u00a0m.|evening1 de la tarde|morning1 de la madrugada|morning2 de la mañana|night1 de la noche|noon del mediodía"
            abbreviated := "am a.\u202fm.|pm p.\u202fm.|evening1 de la tarde|morning1 de la madrugada|morning2 de la mañana|night1 de la noche|noon del mediodía" }
        standAlone :=
          { wide := "am a.\u00a0m.|pm p.\u00a0m.|evening1 tarde|morning1 madrugada|morning2 mañana|night1 noche|noon mediodía"
            abbreviated := "am a.\u202fm.|pm p.\u202fm.|evening1 tarde|morning1 madrugada|morning2 mañana|night1 noche|noon mediodía" } }
    dates :=
      { es419.dates with
        full := "EEEE dd 'de' MMMM 'de' y"
        long := "dd 'de' MMMM 'de' y" } }

/-- Spanish (Mexico). -/
def esMX : Conventions :=
  { es419 with
    compact :=
      { es419.compact with
        short := "other|0\u00a0k|00\u00a0k|000\u00a0k|0\u00a0M|00\u00a0M|000\u00a0M|0000\u00a0M|00\u00a0mil\u00a0M|000\u00a0mil\u00a0M|0\u00a0B|00\u00a0B|000\u00a0B"
        currency := "other|¤0\u00a0k|¤00\u00a0k|¤000\u00a0k|¤0\u00a0M|¤00\u00a0M|¤000\u00a0M|¤0000\u00a0M|¤00\u00a0mil\u00a0M|¤000\u00a0mil\u00a0M|¤0\u00a0B|¤00\u00a0B|¤000\u00a0B" }
    currencies := "MRO MRU|MRU UM|MXN $" :: es419.currencies
    months :=
      { es419.months with
        format :=
          { es419.months.format with
            abbreviated := "ene|feb|mar|abr|may|jun|jul|ago|sep|oct|nov|dic" }
        standAlone :=
          { es419.months.standAlone with
            abbreviated := "ene|feb|mar|abr|may|jun|jul|ago|sep|oct|nov|dic" } }
    dayPeriods :=
      { format :=
          { wide := "am a.m.|pm p.m.|evening1 de la tarde|morning1 de la madrugada|morning2 de la mañana|night1 de la noche|noon del mediodía"
            narrow := "am a.\u202fm.|pm p.\u202fm.|evening1 de la tarde|morning1 de la madrugada|morning2 de la mañana|night1 de la noche|noon del mediodía" }
        standAlone :=
          { wide := "am a.m.|pm p.m.|evening1 tarde|morning1 madrugada|morning2 mañana|night1 noche|noon mediodía"
            abbreviated := "am a.\u202fm.|pm p.\u202fm.|evening1 tarde|morning1 madrugada|morning2 mañana|night1 noche|noon mediodía" } }
    dates :=
      { es419.dates with
        short := "dd/MM/yy" }
    skeletons := "EHm E HH:mm
EHms E HH:mm:ss
Ehm E h:mm\u202fa
Ehms E h:mm:ss\u202fa
GyMMMd d MMM y G
Hmsvvvv HH:mm:ss (vvvv)
MMMEd E d 'de' MMM
MMd d/MM
MMdd dd/MM
yMEd E, d/M/y
yMM MM/y
yMMMEd EEE, d 'de' MMM 'de' y
yQQQ QQQ y" :: es419.skeletons }

/-- Spanish (Nicaragua). -/
def esNI : Conventions :=
  { es419 with
    currencies := "NIO C$" :: es419.currencies
    dayPeriods :=
      { format :=
          { wide := "am a.\u00a0m.|pm p.\u00a0m.|evening1 de la tarde|morning1 de la madrugada|morning2 de la mañana|night1 de la noche|noon del mediodía"
            abbreviated := "am a.\u202fm.|pm p.\u202fm.|evening1 de la tarde|morning1 de la madrugada|morning2 de la mañana|night1 de la noche|noon del mediodía" }
        standAlone :=
          { wide := "am a.\u00a0m.|pm p.\u00a0m.|evening1 tarde|morning1 madrugada|morning2 mañana|night1 noche|noon mediodía"
            abbreviated := "am a.\u202fm.|pm p.\u202fm.|evening1 tarde|morning1 madrugada|morning2 mañana|night1 noche|noon mediodía" } } }

/-- Spanish (Panama). -/
def esPA : Conventions :=
  { es419 with
    currencies := "PAB B/." :: es419.currencies
    quarters :=
      { es419.quarters with
        format :=
          { es419.quarters.format with
            wide := "1er. trimestre|2do. trimestre|3er. trimestre|4.º trimestre" }
        standAlone :=
          { es419.quarters.standAlone with
            wide := "1er. trimestre|2do. trimestre|3er. trimestre|4.º trimestre" } }
    dayPeriods :=
      { format :=
          { wide := "am a.\u00a0m.|pm p.\u00a0m.|evening1 de la tarde|morning1 de la madrugada|morning2 de la mañana|night1 de la noche|noon mediodía"
            abbreviated := "am a.\u202fm.|pm p.\u202fm.|evening1 de la tarde|morning1 de la madrugada|morning2 de la mañana|night1 de la noche|noon mediodía" }
        standAlone :=
          { wide := "am a.\u00a0m.|pm p.\u00a0m.|evening1 tarde|morning1 madrugada|morning2 mañana|night1 noche|noon mediodía"
            abbreviated := "am a.\u202fm.|pm p.\u202fm.|evening1 tarde|morning1 madrugada|morning2 mañana|night1 noche|noon mediodía" } }
    dates :=
      { es419.dates with
        medium := "MM/dd/y"
        short := "MM/dd/yy" }
    skeletons := "MEd E, MM/dd
Md MM/dd
yM MM/y
yMEd E MM/dd/y
yMd MM/dd/y" :: es419.skeletons }

/-- Spanish (Peru). -/
def esPE : Conventions :=
  { es419 with
    numbers :=
      { es419.numbers with
        currency := "¤\u00a0#,##0.00" }
    compact :=
      { es419.compact with
        currency := "other|¤\u00a00\u00a0K|¤\u00a000\u00a0K|¤\u00a0000\u00a0K|¤\u00a00\u00a0M|¤\u00a000\u00a0M|¤\u00a0000\u00a0M|¤\u00a00000\u00a0M|¤\u00a000\u00a0MRD|¤\u00a0000\u00a0MRD|¤\u00a00\u00a0B|¤\u00a000\u00a0B|¤\u00a0000\u00a0B" }
    currencies := "PEN S/" :: es419.currencies
    months :=
      { format :=
          { wide := "enero|febrero|marzo|abril|mayo|junio|julio|agosto|setiembre|octubre|noviembre|diciembre"
            abbreviated := "ene.|feb.|mar.|abr.|may.|jun.|jul.|ago.|set.|oct.|nov.|dic."
            narrow := "E|F|M|A|M|J|J|A|S|O|N|D" }
        standAlone :=
          { wide := "Enero|Febrero|Marzo|Abril|Mayo|Junio|Julio|Agosto|Setiembre|Octubre|Noviembre|Diciembre"
            abbreviated := "Ene.|Feb.|Mar.|Abr.|May.|Jun.|Jul.|Ago.|Set.|Oct.|Nov.|Dic."
            narrow := "E|F|M|A|M|J|J|A|S|O|N|D" } }
    dayPeriods :=
      { format :=
          { wide := "am a.\u00a0m.|pm p.\u00a0m.|evening1 de la tarde|morning1 de la madrugada|morning2 de la mañana|night1 de la noche|noon del mediodía"
            abbreviated := "am a.\u202fm.|pm p.\u202fm.|evening1 de la tarde|morning1 de la madrugada|morning2 de la mañana|night1 de la noche|noon del mediodía" }
        standAlone :=
          { wide := "am a.\u00a0m.|pm p.\u00a0m.|evening1 tarde|morning1 madrugada|morning2 mañana|night1 noche|noon mediodía"
            abbreviated := "am a.\u202fm.|pm p.\u202fm.|evening1 tarde|morning1 madrugada|morning2 mañana|night1 noche|noon mediodía" } }
    dates :=
      { es419.dates with
        short := "d/MM/yy" } }

/-- Spanish (Puerto Rico). -/
def esPR : Conventions :=
  { es419 with
    currencies := "USD $" :: es419.currencies
    dayPeriods :=
      { format :=
          { wide := "am a.\u00a0m.|pm p.\u00a0m.|evening1 de la tarde|morning1 de la madrugada|morning2 de la mañana|night1 de la noche|noon del mediodía"
            abbreviated := "am a.\u202fm.|pm p.\u202fm.|evening1 de la tarde|morning1 de la madrugada|morning2 de la mañana|night1 de la noche|noon del mediodía" }
        standAlone :=
          { wide := "am a.\u00a0m.|pm p.\u00a0m.|evening1 tarde|morning1 madrugada|morning2 mañana|night1 noche|noon mediodía"
            abbreviated := "am a.\u202fm.|pm p.\u202fm.|evening1 tarde|morning1 madrugada|morning2 mañana|night1 noche|noon mediodía" } }
    dates :=
      { es419.dates with
        medium := "MM/dd/y"
        short := "MM/dd/yy" }
    skeletons := "MEd E, MM/dd
Md MM/dd
yM MM/y
yMEd E MM/dd/y
yMd MM/dd/y" :: es419.skeletons }

/-- Spanish (Paraguay). -/
def esPY : Conventions :=
  { es419 with
    symbols :=
      { es419.symbols with
        decimal := ","
        group := "." }
    numbers :=
      { es419.numbers with
        currency := "¤\u00a0#,##0.00;¤\u00a0-#,##0.00" }
    currencies := "PYG Gs." :: es419.currencies
    months :=
      { es419.months with
        format :=
          { es419.months.format with
            abbreviated := "ene.|feb.|mar.|abr.|may.|jun.|jul.|ago.|sept.|oct.|nov.|dic." }
        standAlone :=
          { es419.months.standAlone with
            abbreviated := "ene.|feb.|mar.|abr.|may.|jun.|jul.|ago.|sept.|oct.|nov.|dic." } }
    weekdays :=
      { es419.weekdays with
        format :=
          { es419.weekdays.format with
            short := "lu|ma|mi|ju|vi|sa|do" }
        standAlone :=
          { es419.weekdays.standAlone with
            short := "Lu|Ma|Mi|Ju|Vi|Sa|Do" } }
    dayPeriods :=
      { format :=
          { wide := "am a.\u00a0m.|pm p.\u00a0m.|evening1 de la tarde|morning1 de la madrugada|morning2 de la mañana|night1 de la noche|noon del mediodía"
            abbreviated := "am a.\u202fm.|pm p.\u202fm.|evening1 de la tarde|morning1 de la madrugada|morning2 de la mañana|night1 de la noche|noon del mediodía" }
        standAlone :=
          { wide := "am a.\u00a0m.|pm p.\u00a0m.|evening1 tarde|morning1 madrugada|morning2 mañana|night1 noche|noon mediodía"
            abbreviated := "am a.\u202fm.|pm p.\u202fm.|evening1 tarde|morning1 madrugada|morning2 mañana|night1 noche|noon mediodía"
            narrow := "am a.\u202fm.|pm p.\u202fm.|evening1 tarde|morning1 madrugada|morning2 mañana|night1 noche|noon m." } } }

/-- Spanish (El Salvador). -/
def esSV : Conventions :=
  { es419 with
    currencies := "USD $" :: es419.currencies
    dayPeriods :=
      { format :=
          { wide := "am a.\u00a0m.|pm p.\u00a0m.|evening1 de la tarde|morning1 de la madrugada|morning2 de la mañana|night1 de la noche|noon del mediodía"
            abbreviated := "am a.\u202fm.|pm p.\u202fm.|evening1 de la tarde|morning1 de la madrugada|morning2 de la mañana|night1 de la noche|noon del mediodía" }
        standAlone :=
          { wide := "am a.\u00a0m.|pm p.\u00a0m.|evening1 tarde|morning1 madrugada|morning2 mañana|night1 noche|noon mediodía"
            abbreviated := "am a.\u202fm.|pm p.\u202fm.|evening1 tarde|morning1 madrugada|morning2 mañana|night1 noche|noon mediodía" } } }

/-- Spanish (United States). -/
def esUS : Conventions :=
  { es419 with
    compact :=
      { es419.compact with
        short := "other|0\u00a0K|00\u00a0K|000\u00a0K|0\u00a0M|00\u00a0M|000\u00a0M|0000\u00a0M|00\u00a0mil\u00a0M|000\u00a0mil\u00a0M|0\u00a0B|00\u00a0B|000\u00a0B"
        currency := "other|¤0\u00a0K|¤00\u00a0K|¤000\u00a0K|¤0\u00a0M|¤00\u00a0M|¤000\u00a0M|¤0000\u00a0M|¤00\u00a0mil\u00a0M|¤000\u00a0mil\u00a0M|¤0\u00a0B|¤00\u00a0B|¤000\u00a0B" }
    currencies := "JPY ¥|USD $" :: es419.currencies
    quarters :=
      { es419.quarters with
        format :=
          { es419.quarters.format with
            wide := "1er trimestre|2.º trimestre|3er trimestre|4.º trimestre" }
        standAlone :=
          { es419.quarters.standAlone with
            wide := "1er trimestre|2.º trimestre|3er trimestre|4.º trimestre" } }
    dayPeriods :=
      { es419.dayPeriods with
        standAlone :=
          { es419.dayPeriods.standAlone with
            abbreviated := "am a.\u202fm.|pm p.\u202fm.|evening1 tarde|morning1 madrugada|morning2 mañana|night1 noche|noon mediodía"
            narrow := "am a.\u202fm.|pm p.\u202fm.|evening1 tarde|morning1 madrugada|morning2 mañana|night1 noche|noon mediodía" } }
    dates :=
      { es419.dates with
        short := "d/M/y" }
    skeletons := "EHm E HH:mm
EHms E HH:mm:ss
Ehm E h:mm\u202fa
Ehms E h:mm:ss\u202fa
GyM MM-y G
GyMEd E, dd-MM-y G
GyMMMd d MMM y G
Hmsvvvv HH:mm:ss (vvvv)
MMMEd E, d 'de' MMM
MMd d/MM
MMdd dd/MM
yMEd E, d/M/y
yMM MM/y
yMMMEd EEE, d 'de' MMM 'de' y
yQQQ QQQ y" :: es419.skeletons }

/-- Spanish (Uruguay). -/
def esUY : Conventions :=
  { es419 with
    symbols :=
      { es419.symbols with
        decimal := ","
        group := "." }
    numbers :=
      { es419.numbers with
        currency := "¤\u00a0#,##0.00" }
    currencies := "USD US$|UYU $|UYW UP" :: es419.currencies
    months :=
      { format :=
          { wide := "enero|febrero|marzo|abril|mayo|junio|julio|agosto|setiembre|octubre|noviembre|diciembre"
            abbreviated := "ene.|feb.|mar.|abr.|may.|jun.|jul.|ago.|set.|oct.|nov.|dic."
            narrow := "E|F|M|A|M|J|J|A|S|O|N|D" }
        standAlone :=
          { wide := "Enero|Febrero|Marzo|Abril|Mayo|Junio|Julio|Agosto|Setiembre|Octubre|Noviembre|Diciembre"
            abbreviated := "Ene.|Feb.|Mar.|Abr.|May.|Jun.|Jul.|Ago.|Set.|Oct.|Nov.|Dic."
            narrow := "E|F|M|A|M|J|J|A|S|O|N|D" } }
    dayPeriods :=
      { format :=
          { wide := "am a.\u00a0m.|pm p.\u00a0m.|evening1 de la tarde|morning1 de la madrugada|morning2 de la mañana|night1 de la noche|noon del mediodía"
            abbreviated := "am a.\u202fm.|pm p.\u202fm.|evening1 de la tarde|morning1 de la madrugada|morning2 de la mañana|night1 de la noche|noon del mediodía" }
        standAlone :=
          { wide := "am a.\u00a0m.|pm p.\u00a0m.|evening1 tarde|morning1 madrugada|morning2 mañana|night1 noche|noon mediodía"
            abbreviated := "am a.\u202fm.|pm p.\u202fm.|evening1 tarde|morning1 madrugada|morning2 mañana|night1 noche|noon mediodía" } } }

/-- Spanish (Venezuela). -/
def esVE : Conventions :=
  { es419 with
    symbols :=
      { es419.symbols with
        decimal := ","
        group := "." }
    numbers :=
      { es419.numbers with
        currency := "¤#,##0.00;¤-#,##0.00" }
    currencies := "VEF Bs.|VES Bs.S" :: es419.currencies
    months :=
      { es419.months with
        format :=
          { es419.months.format with
            abbreviated := "ene.|feb.|mar.|abr.|may.|jun.|jul.|ago.|sept.|oct.|nov.|dic." }
        standAlone :=
          { es419.months.standAlone with
            abbreviated := "ene.|feb.|mar.|abr.|may.|jun.|jul.|ago.|sept.|oct.|nov.|dic." } }
    weekdays :=
      { es419.weekdays with
        format :=
          { es419.weekdays.format with
            short := "Lu|Ma|Mi|Ju|Vi|Sa|Do" }
        standAlone :=
          { es419.weekdays.standAlone with
            short := "Lu|Ma|Mi|Ju|Vi|Sa|Do" } }
    quarters :=
      { es419.quarters with
        format :=
          { es419.quarters.format with
            wide := "1er trimestre|2do trimestre|3er trimestre|4to trimestre" }
        standAlone :=
          { es419.quarters.standAlone with
            wide := "1er trimestre|2do trimestre|3er trimestre|4to trimestre" } }
    dayPeriods :=
      { format :=
          { wide := "am a.\u00a0m.|pm p.\u00a0m.|evening1 de la tarde|morning1 de la madrugada|morning2 de la mañana|night1 de la noche|noon del mediodía"
            abbreviated := "am a.\u202fm.|pm p.\u202fm.|evening1 de la tarde|morning1 de la madrugada|morning2 de la mañana|night1 de la noche|noon del mediodía" }
        standAlone :=
          { wide := "am a.\u00a0m.|pm p.\u00a0m.|evening1 tarde|morning1 madrugada|morning2 mañana|night1 noche|noon mediodía"
            abbreviated := "am a.\u202fm.|pm p.\u202fm.|evening1 tarde|morning1 madrugada|morning2 mañana|night1 noche|noon mediodía"
            narrow := "am a.\u202fm.|pm p.\u202fm.|evening1 tarde|morning1 madrugada|morning2 mañana|night1 noche|noon m." } } }

/-- Portuguese (Angola). -/
def ptAO : Conventions :=
  { ptPT with
    currencies := "AOA Kz" :: ptPT.currencies
    plurals := "many e = 0 and i != 0 and i % 1000000 = 0 and v = 0 or e != 0..5|one i = 0..1" }

/-- Portuguese (Switzerland). -/
def ptCH : Conventions :=
  { ptPT with
    plurals := "many e = 0 and i != 0 and i % 1000000 = 0 and v = 0 or e != 0..5|one i = 0..1" }

/-- Portuguese (Cape Verde). -/
def ptCV : Conventions :=
  { ptPT with
    currencies := "CVE \u200b|PTE PTE" :: ptPT.currencies
    plurals := "many e = 0 and i != 0 and i % 1000000 = 0 and v = 0 or e != 0..5|one i = 0..1" }

/-- Portuguese (Equatorial Guinea). -/
def ptGQ : Conventions :=
  { ptPT with
    plurals := "many e = 0 and i != 0 and i % 1000000 = 0 and v = 0 or e != 0..5|one i = 0..1" }

/-- Portuguese (Guinea-Bissau). -/
def ptGW : Conventions :=
  { ptPT with
    plurals := "many e = 0 and i != 0 and i % 1000000 = 0 and v = 0 or e != 0..5|one i = 0..1" }

/-- Portuguese (Luxembourg). -/
def ptLU : Conventions :=
  { ptPT with
    currencies := "LUF F" :: ptPT.currencies
    plurals := "many e = 0 and i != 0 and i % 1000000 = 0 and v = 0 or e != 0..5|one i = 0..1" }

/-- Portuguese (Macao SAR China). -/
def ptMO : Conventions :=
  { ptPT with
    currencies := "MOP MOP$" :: ptPT.currencies
    plurals := "many e = 0 and i != 0 and i % 1000000 = 0 and v = 0 or e != 0..5|one i = 0..1"
    times :=
      { ptPT.times with
        full := "h:mm:ss\u202fa zzzz"
        long := "h:mm:ss\u202fa z"
        medium := "h:mm:ss\u202fa"
        short := "h:mm\u202fa" } }

/-- Portuguese (Mozambique). -/
def ptMZ : Conventions :=
  { ptPT with
    currencies := "MZN MTn" :: ptPT.currencies
    plurals := "many e = 0 and i != 0 and i % 1000000 = 0 and v = 0 or e != 0..5|one i = 0..1" }

/-- Portuguese (São Tomé & Príncipe). -/
def ptST : Conventions :=
  { ptPT with
    currencies := "STN Db" :: ptPT.currencies
    plurals := "many e = 0 and i != 0 and i % 1000000 = 0 and v = 0 or e != 0..5|one i = 0..1" }

/-- Portuguese (Timor-Leste). -/
def ptTL : Conventions :=
  { ptPT with
    plurals := "many e = 0 and i != 0 and i % 1000000 = 0 and v = 0 or e != 0..5|one i = 0..1" }

/-- The locales of the Romance languages with their conventions. -/
def romance : List (String × Conventions) :=
  [ ("ca", ca), ("ca_AD", ca), ("ca_ES", ca), ("ca_FR", caFR), ("ca_IT", ca), ("es", es),
    ("es_419", es419), ("es_AR", esAR), ("es_BO", esBO), ("es_BR", esBR), ("es_BZ", esBZ),
    ("es_CL", esCL), ("es_CO", esCO), ("es_CR", esCR), ("es_CU", esCU), ("es_DO", esDO),
    ("es_EA", es), ("es_EC", esEC), ("es_ES", es), ("es_GQ", esGQ), ("es_GT", esGT),
    ("es_HN", esHN), ("es_IC", es), ("es_MX", esMX), ("es_NI", esNI), ("es_PA", esPA),
    ("es_PE", esPE), ("es_PH", esPH), ("es_PR", esPR), ("es_PY", esPY), ("es_SV", esSV),
    ("es_US", esUS), ("es_UY", esUY), ("es_VE", esVE), ("fr", fr), ("fr_BE", frBE), ("fr_BF", fr),
    ("fr_BI", frBI), ("fr_BJ", fr), ("fr_BL", fr), ("fr_CA", frCA), ("fr_CD", frCD),
    ("fr_CF", fr), ("fr_CG", fr), ("fr_CH", frCH), ("fr_CI", fr), ("fr_CM", frCM),
    ("fr_DJ", frDJ), ("fr_DZ", frDZ), ("fr_FR", fr), ("fr_GA", fr), ("fr_GF", fr),
    ("fr_GN", frGN), ("fr_GP", fr), ("fr_GQ", fr), ("fr_HT", frHT), ("fr_KM", frKM),
    ("fr_LU", frLU), ("fr_MA", frMA), ("fr_MC", fr), ("fr_MF", fr), ("fr_MG", frMG),
    ("fr_ML", frML), ("fr_MQ", fr), ("fr_MR", frMR), ("fr_MU", frMU), ("fr_NC", fr),
    ("fr_NE", fr), ("fr_PF", fr), ("fr_PM", fr), ("fr_RE", frRE), ("fr_RW", frRW),
    ("fr_SC", frSC), ("fr_SN", frSN), ("fr_SY", frSY), ("fr_TD", frTD), ("fr_TG", fr),
    ("fr_TN", frTN), ("fr_VU", frVU), ("fr_WF", fr), ("fr_YT", fr), ("gl", gl), ("gl_ES", gl),
    ("it", it), ("it_CH", itCH), ("it_IT", it), ("it_SM", it), ("it_VA", it), ("pt", pt),
    ("pt_AO", ptAO), ("pt_BR", pt), ("pt_CH", ptCH), ("pt_CV", ptCV), ("pt_GQ", ptGQ),
    ("pt_GW", ptGW), ("pt_LU", ptLU), ("pt_MO", ptMO), ("pt_MZ", ptMZ), ("pt_PT", ptPT),
    ("pt_ST", ptST), ("pt_TL", ptTL), ("ro", ro), ("ro_MD", roMD), ("ro_RO", ro) ]

end Phrasebook.ConventionsOf
