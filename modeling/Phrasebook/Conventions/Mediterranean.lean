import Phrasebook.Conventions.Basic

/-!
# Conventions of Albanian, Armenian, Basque, Georgian and Greek
-/

namespace Phrasebook.ConventionsOf

/-- Greek. -/
def el : Conventions where
  symbols :=
    { decimal := ","
      group := "."
      exponential := "e" }
  numbers :=
    { currency := "#,##0.00\u00a0¤" }
  compact :=
    { short := "other|0\u00a0χιλ'.'|00\u00a0χιλ'.'|000\u00a0χιλ'.'|0\u00a0εκ'.'|00\u00a0εκ'.'|000\u00a0εκ'.'|0\u00a0δισ'.'|00\u00a0δισ'.'|000\u00a0δισ'.'|0\u00a0τρισ'.'|00\u00a0τρισ'.'|000\u00a0τρισ'.'"
      long := "other|0 χιλιάδες|00 χιλιάδες|000 χιλιάδες|0 εκατομμύρια|00 εκατομμύρια|000 εκατομμύρια|0 δισεκατομμύρια|00 δισεκατομμύρια|000 δισεκατομμύρια|0 τρισεκατομμύρια|00 τρισεκατομμύρια|000 τρισεκατομμύρια
one|0 χιλιάδα|00 χιλιάδες|000 χιλιάδες|0 εκατομμύριο|00 εκατομμύρια|000 εκατομμύρια|0 δισεκατομμύριο|00 δισεκατομμύρια|000 δισεκατομμύρια|0 τρισεκατομμύριο|00 τρισεκατομμύρια|000 τρισεκατομμύρια"
      currency := "other|0\u00a0χιλ'.'\u00a0¤|00\u00a0χιλ'.'\u00a0¤|000\u00a0χιλ'.'\u00a0¤|0\u00a0εκ'.'\u00a0¤|00\u00a0εκ'.'\u00a0¤|000\u00a0εκ'.'\u00a0¤|0\u00a0δισ'.'\u00a0¤|00\u00a0δισ'.'\u00a0¤|000\u00a0δισ'.'\u00a0¤|0\u00a0τρισ'.'\u00a0¤|00\u00a0τρισ'.'\u00a0¤|000\u00a0τρισ'.'\u00a0¤" }
  currencies := "GRD Δρχ|PHP PHP|THB ฿|USD $" :: Conventions.rootCurrencies
  plurals := "one n = 1"
  months :=
    { format :=
        { wide := "Ιανουαρίου|Φεβρουαρίου|Μαρτίου|Απριλίου|Μαΐου|Ιουνίου|Ιουλίου|Αυγούστου|Σεπτεμβρίου|Οκτωβρίου|Νοεμβρίου|Δεκεμβρίου"
          abbreviated := "Ιαν|Φεβ|Μαρ|Απρ|Μαΐ|Ιουν|Ιουλ|Αυγ|Σεπ|Οκτ|Νοε|Δεκ"
          narrow := "Ι|Φ|Μ|Α|Μ|Ι|Ι|Α|Σ|Ο|Ν|Δ" }
      standAlone :=
        { wide := "Ιανουάριος|Φεβρουάριος|Μάρτιος|Απρίλιος|Μάιος|Ιούνιος|Ιούλιος|Αύγουστος|Σεπτέμβριος|Οκτώβριος|Νοέμβριος|Δεκέμβριος"
          abbreviated := "Ιαν|Φεβ|Μάρ|Απρ|Μάι|Ιούν|Ιούλ|Αύγ|Σεπ|Οκτ|Νοέ|Δεκ"
          narrow := "Ι|Φ|Μ|Α|Μ|Ι|Ι|Α|Σ|Ο|Ν|Δ" } }
  weekdays :=
    { format :=
        { wide := "Δευτέρα|Τρίτη|Τετάρτη|Πέμπτη|Παρασκευή|Σάββατο|Κυριακή"
          abbreviated := "Δευ|Τρί|Τετ|Πέμ|Παρ|Σάβ|Κυρ"
          short := "Δε|Τρ|Τε|Πέ|Πα|Σά|Κυ"
          narrow := "Δ|Τ|Τ|Π|Π|Σ|Κ" } }
  quarters :=
    { format :=
        { wide := "1ο τρίμηνο|2ο τρίμηνο|3ο τρίμηνο|4ο τρίμηνο"
          abbreviated := "Τ1|Τ2|Τ3|Τ4"
          narrow := "1|2|3|4" } }
  eras :=
    { wide := "προ Χριστού|μετά Χριστόν"
      abbreviated := "π.Χ.|μ.Χ." }
  dayPeriods :=
    { format :=
        { wide := "am π.μ.|pm μ.μ.|afternoon1 το μεσημέρι|evening1 το απόγευμα|morning1 το πρωί|night1 το βράδυ"
          abbreviated := "am π.μ.|pm μ.μ.|afternoon1 μεσημ.|evening1 απόγ.|morning1 πρωί|night1 βράδυ"
          narrow := "am πμ|pm μμ|afternoon1 μεσημ.|evening1 απόγ.|morning1 πρωί|night1 βράδυ" }
      standAlone :=
        { wide := "am π.μ.|pm μ.μ.|afternoon1 μεσημέρι|evening1 απόγευμα|morning1 πρωί|night1 βράδυ"
          abbreviated := "am π.μ.|pm μ.μ.|afternoon1 μεσημ.|evening1 απόγ.|morning1 πρωί|night1 βράδυ"
          narrow := "am πμ|pm μμ|afternoon1 μεσημ.|evening1 απόγ.|morning1 πρωί|night1 βράδυ" } }
  dayPeriodRules := "afternoon1 43200 61200|evening1 61200 72000|morning1 14400 43200|night1 72000 14400"
  dates :=
    { full := "EEEE d MMMM y"
      long := "d MMMM y"
      medium := "d MMM y"
      short := "d/M/yy" }
  times :=
    { full := "h:mm:ss\u202fa zzzz"
      long := "h:mm:ss\u202fa z"
      medium := "h:mm:ss\u202fa"
      short := "h:mm\u202fa" }
  moments :=
    { full := "\x7b1\x7d - \x7b0\x7d"
      long := "\x7b1\x7d - \x7b0\x7d"
      medium := "\x7b1\x7d, \x7b0\x7d"
      short := "\x7b1\x7d, \x7b0\x7d" }
  skeletons := "Ed E d
Ehm E h:mm\u202fa
Ehms E h:mm:ss\u202fa
Gy y G
GyMEd E, dd-MM-y G
GyMMM LLL y G
GyMMMEd E d MMM y G
GyMMMd d MMM y G
GyMd d/M/y GGGGG
Hmsv HH:mm:ss (vvvv)
Hmv HH:mm (vvvv)
Hv HH'h' (vvvv)
MEd E d/M
MMM MMM
MMMEd E d MMM
MMMMEd E d MMMM
MMMMW εβδομάδα W του MMMM
MMMMd d MMMM
MMMd d MMM
Md d/M
hm h:mm\u202fa
hms h:mm:ss\u202fa
hmsv h:mm:ss\u202fa v
hmv h:mm\u202fa v
yM M/y
yMEd E d/M/y
yMMM MMM y
yMMMEd E d MMM y
yMMMM LLLL y
yMMMd d MMM y
yMd d/M/y
yQQQ QQQ y
yQQQQ QQQQ y
yw εβδομάδα w του Y" :: Conventions.rootSkeletons
  zones :=
    { place := "Ώρα (\x7b0\x7d)"
      placeInRegion := "[\x7b1\x7d (\x7b0\x7d)]"
      unknownRegion := "Άγνωστη περιοχή"
      utcLong := "Συντονισμένη Παγκόσμια Ώρα" }

/-- Basque. -/
def eu : Conventions where
  symbols :=
    { decimal := ","
      group := "."
      minus := "−" }
  numbers :=
    { percent := "%\u00a0#,##0"
      currency := "#,##0.00\u00a0¤" }
  compact :=
    { short := "other|0|0|0|0\u00a0M|00\u00a0M|000\u00a0M|0000\u00a0M|00000\u00a0M|000000\u00a0M|0\u00a0B|00\u00a0B|000\u00a0B"
      long := "other||||0 milioi|00 milioi|000 milioi|0000 milioi|00000 milioi|000000 milioi|0 bilioi|00 bilioi|000 bilioi"
      currency := "other|0|0|0|0\u00a0M\u00a0¤|00\u00a0M\u00a0¤|000\u00a0M\u00a0¤|0000\u00a0M\u00a0¤|00000\u00a0M\u00a0¤|000000\u00a0M\u00a0¤|0\u00a0B\u00a0¤|00\u00a0B\u00a0¤|000\u00a0B\u00a0¤" }
  currencies := "ESP ₧|PHP PHP|THB ฿" :: Conventions.rootCurrencies
  plurals := "one n = 1"
  months :=
    { format :=
        { wide := "urtarrila|otsaila|martxoa|apirila|maiatza|ekaina|uztaila|abuztua|iraila|urria|azaroa|abendua"
          abbreviated := "urt.|ots.|mar.|api.|mai.|eka.|uzt.|abu.|ira.|urr.|aza.|abe."
          narrow := "U|O|M|A|M|E|U|A|I|U|A|A" } }
  weekdays :=
    { format :=
        { wide := "astelehena|asteartea|asteazkena|osteguna|ostirala|larunbata|igandea"
          abbreviated := "al.|ar.|az.|og.|or.|lr.|ig."
          narrow := "A|A|A|O|O|L|I" } }
  quarters :=
    { format :=
        { wide := "1. hiruhilekoa|2. hiruhilekoa|3. hiruhilekoa|4. hiruhilekoa"
          abbreviated := "1Hh|2Hh|3Hh|4Hh"
          narrow := "1|2|3|4" } }
  eras :=
    { wide := "Kristo aurretik|Kristo ondoren"
      abbreviated := "K.a.|K.o."
      narrow := "a|o" }
  dayPeriods :=
    { format :=
        { wide := "am AM|pm PM|afternoon1 eguerdiko|afternoon2 arratsaldeko|evening1 iluntzeko|midnight gauerdia|morning1 goizaldeko|morning2 goizeko|night1 gaueko"
          abbreviated := "am AM|pm PM|afternoon1 eguerd.|afternoon2 arrats.|evening1 iluntz.|midnight gauerdia|morning1 goizald.|morning2 goizeko|night1 gaueko"
          narrow := "am g|pm a|afternoon1 eguerd.|afternoon2 arrats.|evening1 iluntz.|midnight gauerd.|morning1 goizald.|morning2 goizeko|night1 gaueko" }
      standAlone :=
        { wide := "am AM|pm PM|afternoon1 eguerdia|afternoon2 arratsaldea|evening1 iluntzea|midnight gauerdia|morning1 goizaldea|morning2 goiza|night1 gaua"
          abbreviated := "am AM|pm PM|afternoon1 eguerd.|afternoon2 arrats.|evening1 iluntz.|midnight gauerdia|morning1 goiz.|morning2 goiza|night1 gaua"
          narrow := "am g|pm a|afternoon1 eguerd.|afternoon2 arrats.|evening1 iluntz.|midnight gauerd.|morning1 goizald.|morning2 goiza|night1 gaua" } }
  dayPeriodRules := "afternoon1 43200 50400|afternoon2 50400 68400|evening1 68400 75600|midnight 0|morning1 0 21600|morning2 21600 43200|night1 75600 86400"
  dates :=
    { full := "y('e')'ko' MMMM'ren' d('a'), EEEE"
      long := "y('e')'ko' MMMM'ren' d('a')"
      medium := "y('e')'ko' MMM d('a')"
      short := "yy/M/d" }
  times :=
    { full := "HH:mm:ss (zzzz)"
      long := "HH:mm:ss (z)" }
  moments :=
    { full := "\x7b1\x7d (\x7b0\x7d)"
      long := "\x7b1\x7d (\x7b0\x7d)"
      medium := "\x7b1\x7d (\x7b0\x7d)"
      short := "\x7b1\x7d (\x7b0\x7d)" }
  skeletons := "Bh B h
Bhm B h:mm
Bhms B h:mm:ss
EBh E B h
EBhm E B h:mm
EBhms E B h:mm:ss
Ehm E h:mm\u202fa
Ehms E h:mm:ss\u202fa
GyM G y/M
GyMEd G y/M/d, E
GyMMM G y. 'urteko' MMM
GyMMMEd G y. 'urteko' MMM d('a'), E
GyMMMd G y. 'urteko' MMM d('a')
MEd M/d, E
MMMEd MMM d('a'), E
MMMMW MMMM'ren' W. 'astea'
MMMMd MMMM'ren' d('a')
MMMd MMM d('a')
Md M/d
hm h:mm\u202fa
hms h:mm:ss\u202fa
hmsv h:mm:ss\u202fa v
hmv h:mm\u202fa v
yM y/M
yMEd y/M/d, E
yMMMEd y MMM d('a'), E
yMMMM y('e')'ko' MMMM
yMMMMEd y('e')'ko' MMMM'ren' d('a'), E
yMMMMd y('e')'ko' MMMM'ren' d('a')
yMMMd y MMM d('a')
yMd y/M/d
yQQQ y('e')'ko' QQQ
yQQQQ y('e')'ko' QQQQ
yw Y. 'urteko' w. 'astea'" :: Conventions.rootSkeletons
  zones :=
    { place := "\x7b0\x7d aldeko ordua"
      unknownRegion := "Eskualde ezezaguna"
      utcLong := "ordu unibertsal koordinatua" }

/-- Armenian. -/
def hy : Conventions where
  symbols :=
    { decimal := ","
      group := "\u00a0" }
  numbers :=
    { currency := "#,##0.00\u00a0¤" }
  compact :=
    { short := "other|0\u00a0հզր|00\u00a0հզր|000\u00a0հզր|0\u00a0մլն|00\u00a0մլն|000\u00a0մլն|0\u00a0մլրդ|00\u00a0մլրդ|000\u00a0մլրդ|0\u00a0տրլն|00\u00a0տրլն|000\u00a0տրլն"
      long := "other|0 հազար|00 հազար|000 հազար|0 միլիոն|00 միլիոն|000 միլիոն|0 միլիարդ|00 միլիարդ|000 միլիարդ|0 տրիլիոն|00 տրիլիոն|000 տրիլիոն"
      currency := "other|0\u00a0հզր\u00a0¤|00\u00a0հզր\u00a0¤|000\u00a0հզր\u00a0¤|0\u00a0մլն\u00a0¤|00\u00a0մլն\u00a0¤|000\u00a0մլն\u00a0¤|0\u00a0մլրդ\u00a0¤|00\u00a0մլրդ\u00a0¤|000\u00a0մլրդ\u00a0¤|0\u00a0տրլն\u00a0¤|00\u00a0տրլն\u00a0¤|000\u00a0տրլն\u00a0¤" }
  currencies := "AMD ֏|PHP PHP|THB ฿|USD $" :: Conventions.rootCurrencies
  plurals := "one i = 0,1"
  months :=
    { format :=
        { wide := "հունվարի|փետրվարի|մարտի|ապրիլի|մայիսի|հունիսի|հուլիսի|օգոստոսի|սեպտեմբերի|հոկտեմբերի|նոյեմբերի|դեկտեմբերի"
          abbreviated := "հնվ|փտվ|մրտ|ապր|մյս|հնս|հլս|օգս|սեպ|հոկ|նոյ|դեկ"
          narrow := "Հ|Փ|Մ|Ա|Մ|Հ|Հ|Օ|Ս|Հ|Ն|Դ" }
      standAlone :=
        { wide := "հունվար|փետրվար|մարտ|ապրիլ|մայիս|հունիս|հուլիս|օգոստոս|սեպտեմբեր|հոկտեմբեր|նոյեմբեր|դեկտեմբեր"
          abbreviated := "հնվ|փտվ|մրտ|ապր|մյս|հնս|հլս|օգս|սեպ|հոկ|նոյ|դեկ"
          narrow := "Հ|Փ|Մ|Ա|Մ|Հ|Հ|Օ|Ս|Հ|Ն|Դ" } }
  weekdays :=
    { format :=
        { wide := "երկուշաբթի|երեքշաբթի|չորեքշաբթի|հինգշաբթի|ուրբաթ|շաբաթ|կիրակի"
          abbreviated := "երկ|երք|չրք|հնգ|ուր|շբթ|կիր"
          short := "եկ|եք|չք|հգ|ու|շբ|կր"
          narrow := "Ե|Ե|Չ|Հ|Ո|Շ|Կ" } }
  quarters :=
    { format :=
        { wide := "1-ին եռամսյակ|2-րդ եռամսյակ|3-րդ եռամսյակ|4-րդ եռամսյակ"
          abbreviated := "1-ին եռմս.|2-րդ եռմս.|3-րդ եռմս.|4-րդ եռմս."
          narrow := "1|2|3|4" } }
  eras :=
    { wide := "Քրիստոսից առաջ|Քրիստոսից հետո"
      abbreviated := "մ.թ.ա.|մ.թ." }
  dayPeriods :=
    { format :=
        { wide := "am AM|pm PM|afternoon1 ցերեկվա|evening1 երեկոյան|midnight կեսգիշերին|morning1 առավոտյան|night1 գիշերվա|noon կեսօրին"
          abbreviated := "am AM|pm PM|afternoon1 ցերեկը|evening1 երեկոյան|midnight կեսգիշեր|morning1 առավոտյան|night1 գիշերը|noon կեսօր"
          narrow := "am ա|pm հ|afternoon1 ցրկ|evening1 երկ|midnight կգ․|morning1 առվ|night1 գշր|noon կօ․" }
      standAlone :=
        { wide := "am AM|pm PM|afternoon1 ցերեկ|evening1 երեկո|midnight կեսգիշերին|morning1 առավոտ|night1 գիշեր|noon կեսօրին"
          abbreviated := "am AM|pm PM|afternoon1 ցերեկ|evening1 երեկո|midnight կեսգիշեր|morning1 առավոտ|night1 գիշեր|noon կեսօր"
          narrow := "am ա|pm հ|afternoon1 ցերեկ|evening1 երեկո|midnight կգ․|morning1 առավոտ|night1 գիշեր|noon կօ․" } }
  dayPeriodRules := "afternoon1 43200 64800|evening1 64800 86400|midnight 0|morning1 21600 43200|night1 0 21600|noon 43200"
  dates :=
    { full := "y թ. MMMM d, EEEE"
      long := "dd MMMM, y թ."
      medium := "dd MMM, y թ."
      short := "dd.MM.yy" }
  moments :=
    { full := "\x7b1\x7d, \x7b0\x7d"
      long := "\x7b1\x7d, \x7b0\x7d"
      medium := "\x7b1\x7d, \x7b0\x7d"
      short := "\x7b1\x7d, \x7b0\x7d" }
  skeletons := "Bh B h-ին
Bhm B h:mm-ին
Bhms B h:mm:ss
EBh E B h-ին
EBhm E B h:mm-ին
EBhms E B h:mm:ss
EHm E, HH:mm
EHms E, HH:mm:ss
Ed d, ccc
Ehm E, h:mm a
Ehms E, h:mm:ss a
Gy G y թ.
GyM G MM.y
GyMEd G dd.MM.y, E
GyMMM G y թ. MMM
GyMMMEd G y թ. MMM d, E
GyMMMd G y թ․ MMM d
GyMd GGGGG dd.MM.y
H H
Hm H:mm
Hms H:mm:ss
Hv ժ․ HH v
MEd dd.MM, E
MMMMW MMMM W-րդ շաբաթ
MMMd d MMM
Md dd.MM
yM MM.y
yMEd d.MM.y, E
yMMM y թ. LLL
yMMMEd y թ. MMM d, E
yMMMM y թ․ LLLL
yMMMd d MMM, y թ.
yMd dd.MM.y
yQQQ y թ. QQQ
yQQQQ y թ. QQQQ
yw Y թ․ w-րդ շաբաթ" :: Conventions.rootSkeletons
  zones :=
    { unknownRegion := "Անհայտ տարածաշրջան"
      utcLong := "Համաշխարհային կոորդինացված ժամանակ" }

/-- Georgian. -/
def ka : Conventions where
  symbols :=
    { decimal := ","
      group := "\u00a0" }
  numbers :=
    { currency := "#,##0.00\u00a0¤" }
  compact :=
    { short := "other|0\u00a0ათ'.'|00\u00a0ათ'.'|000\u00a0ათ'.'|0\u00a0მლნ'.'|00\u00a0მლნ'.'|000\u00a0მლნ'.'|0\u00a0მლრდ'.'|00\u00a0მლრდ'.'|000\u00a0მლრ'.'|0\u00a0ტრლ'.'|00\u00a0ტრლ'.'|000\u00a0ტრლ'.'"
      long := "other|0 ათასი|00 ათასი|000 ათასი|0 მილიონი|00 მილიონი|000 მილიონი|0 მილიარდი|00 მილიარდი|000 მილიარდი|0 ტრილიონი|00 ტრილიონი|000 ტრილიონი"
      currency := "other|0\u00a0ათ'.'\u00a0¤|00\u00a0ათ'.'\u00a0¤|000\u00a0ათ'.'\u00a0¤|0\u00a0მლნ'.'\u00a0¤|00\u00a0მლნ'.'\u00a0¤|000\u00a0მლნ'.'\u00a0¤|0\u00a0მლრდ'.'\u00a0¤|00\u00a0მლრდ'.'\u00a0¤|000\u00a0მლრ'.'\u00a0¤|0\u00a0ტრლ'.'\u00a0¤|00\u00a0ტრლ'.'\u00a0¤|000\u00a0ტრლ'.'\u00a0¤" }
  currencies := "AUD AUD|CNY CNY|GEL ₾|HKD HKD|ILS ILS|INR INR|JPY JPY|KRW KRW|NZD NZD|PHP PHP|VND VND" :: Conventions.rootCurrencies
  plurals := "one n = 1"
  months :=
    { format :=
        { wide := "იანვარი|თებერვალი|მარტი|აპრილი|მაისი|ივნისი|ივლისი|აგვისტო|სექტემბერი|ოქტომბერი|ნოემბერი|დეკემბერი"
          abbreviated := "იან|თებ|მარ|აპრ|მაი|ივნ|ივლ|აგვ|სექ|ოქტ|ნოე|დეკ"
          narrow := "ი|თ|მ|ა|მ|ი|ი|ა|ს|ო|ნ|დ" } }
  weekdays :=
    { format :=
        { wide := "ორშაბათი|სამშაბათი|ოთხშაბათი|ხუთშაბათი|პარასკევი|შაბათი|კვირა"
          abbreviated := "ორშ|სამ|ოთხ|ხუთ|პარ|შაბ|კვი"
          short := "ორ|სმ|ოთ|ხთ|პრ|შბ|კვ"
          narrow := "ო|ს|ო|ხ|პ|შ|კ" } }
  quarters :=
    { format :=
        { wide := "I კვარტალი|II კვარტალი|III კვარტალი|IV კვარტალი"
          abbreviated := "I კვ.|II კვ.|III კვ.|IV კვ."
          narrow := "1|2|3|4" } }
  eras :=
    { wide := "ძველი წელთაღრიცხვით|ახალი წელთაღრიცხვით"
      abbreviated := "ძვ. წ.|ახ. წ." }
  dayPeriods :=
    { format :=
        { wide := "am AM|pm PM|afternoon1 ნაშუადღევს|evening1 საღამოს|midnight შუაღამეს|morning1 დილით|night1 ღამით|noon შუადღეს"
          abbreviated := "am AM|pm PM|afternoon1 ნაშუადღ.|evening1 საღ.|midnight შუაღამეს|morning1 დილ.|night1 ღამ.|noon შუადღ."
          narrow := "am a|pm p|afternoon1 ნაშუადღ.|evening1 საღ.|midnight შუაღამეს|morning1 დილ.|night1 ღამ.|noon შუადღ." }
      standAlone :=
        { wide := "am AM|pm PM|afternoon1 ნაშუადღევი|evening1 საღამო|midnight შუაღამე|morning1 დილა|night1 ღამე|noon შუადღე"
          narrow := "am a|pm p|afternoon1 ნაშუადღევი|evening1 საღამო|midnight შუაღამე|morning1 დილა|night1 ღამე|noon შუადღე" } }
  dayPeriodRules := "afternoon1 43200 64800|evening1 64800 75600|midnight 0|morning1 18000 43200|night1 75600 18000|noon 43200"
  dates :=
    { full := "EEEE, dd MMMM, y"
      long := "d MMMM, y"
      medium := "d MMM. y"
      short := "dd.MM.yy" }
  moments :=
    { full := "\x7b1\x7d, \x7b0\x7d"
      long := "\x7b1\x7d, \x7b0\x7d"
      medium := "\x7b1\x7d, \x7b0\x7d"
      short := "\x7b1\x7d, \x7b0\x7d" }
  skeletons := "EHm E, HH:mm
EHms E, HH:mm:ss
Ed d E
Ehm E, h:mm a
Ehms E, h:mm:ss a
Gy y G
GyMMM MMM. y G
GyMMMEd E, d MMM. y G
GyMMMd d MMM. y G
GyMd d.M.y GGGGG
MEd E, d.M
MMMEd E, d MMM
MMMMW MMMMს კვირა W
MMMMd d MMMM
MMMd d MMM
Md d.M
yM M.y
yMEd E, d.M.y
yMMM MMM. y
yMMMEd E, d MMM. y
yMMMM MMMM, y
yMMMd d MMM. y
yMd d.M.y
yQQQ QQQ, y
yQQQQ QQQQ, y
yw კვირა w, Y" :: Conventions.rootSkeletons
  zones :=
    { place := "დრო: \x7b0\x7d"
      unknownRegion := "უცნობი რეგიონი"
      utcLong := "მსოფლიო კოორდინირებული დრო" }

/-- Albanian. -/
def sq : Conventions where
  symbols :=
    { decimal := ","
      group := "\u00a0" }
  numbers :=
    { currency := "#,##0.00\u00a0¤" }
  compact :=
    { short := "other|0\u00a0mijë|00\u00a0mijë|000\u00a0mijë|0\u00a0mln|00\u00a0mln|000\u00a0mln|0\u00a0mld|00\u00a0mld|000\u00a0mld|0\u00a0bln|00\u00a0bln|000\u00a0bln"
      long := "other|0 mijë|00 mijë|000 mijë|0 milion|00 milion|000 milion|0 miliard|00 miliard|000 miliard|0 bilion|00 bilion|000 bilion"
      currency := "other|0\u00a0mijë\u00a0¤|00\u00a0mijë\u00a0¤|000\u00a0mijë\u00a0¤|0\u00a0mln\u00a0¤|00\u00a0mln\u00a0¤|000\u00a0mln\u00a0¤|0\u00a0mld\u00a0¤|00\u00a0mld\u00a0¤|000\u00a0mld\u00a0¤|0\u00a0bln\u00a0¤|00\u00a0bln\u00a0¤|000\u00a0bln\u00a0¤" }
  currencies := "ALL Lekë|BRL BRL|PHP PHP|THB ฿|XCG ANG" :: Conventions.rootCurrencies
  plurals := "one n = 1"
  months :=
    { format :=
        { wide := "janar|shkurt|mars|prill|maj|qershor|korrik|gusht|shtator|tetor|nëntor|dhjetor"
          abbreviated := "jan|shk|mar|pri|maj|qer|korr|gush|sht|tet|nën|dhj"
          narrow := "j|sh|m|p|m|q|k|g|sh|t|n|dh" } }
  weekdays :=
    { format :=
        { wide := "e hënë|e martë|e mërkurë|e enjte|e premte|e shtunë|e diel"
          abbreviated := "hën|mar|mër|enj|pre|sht|die"
          narrow := "h|m|m|e|p|sh|d" } }
  quarters :=
    { format :=
        { wide := "tremujori i parë|tremujori i dytë|tremujori i tretë|tremujori i katërt"
          abbreviated := "tremujori I|tremujori II|tremujori III|tremujori IV"
          narrow := "1|2|3|4" }
      standAlone :=
        { wide := "Tremujori i 1-rë|Tremujori i 2-të|Tremujori i 3-të|Tremujori i 4-t"
          abbreviated := "Tremujori I|Tremujori II|Tremujori III|Tremujori IV"
          narrow := "1|2|3|4" } }
  eras :=
    { wide := "para Krishtit|mbas Krishtit"
      abbreviated := "p.K.|mb.K." }
  dayPeriods :=
    { format :=
        { wide := "am e paradites|pm e pasdites|afternoon1 e pasdites|evening1 e mbrëmjes|midnight e mesnatës|morning1 e mëngjesit|morning2 e paradites|night1 e natës|noon e mesditës"
          abbreviated := "am p.d.|pm m.d.|afternoon1 e pasdites|evening1 e mbrëmjes|midnight e mesnatës|morning1 e mëngjesit|morning2 e paradites|night1 e natës|noon e mesditës" }
      standAlone :=
        { wide := "am paradite|pm pasdite|afternoon1 pasdite|evening1 mbrëmje|midnight mesnatë|morning1 mëngjes|morning2 paradite|night1 natë|noon mesditë"
          abbreviated := "am p.d.|pm m.d.|afternoon1 pasdite|evening1 mbrëmje|midnight mesnatë|morning1 mëngjes|morning2 paradite|night1 natë|noon mesditë" } }
  dayPeriodRules := "afternoon1 43200 64800|evening1 64800 86400|midnight 0|morning1 14400 32400|morning2 32400 43200|night1 0 14400|noon 43200"
  dates :=
    { full := "EEEE, d MMMM y"
      long := "d MMMM y"
      medium := "d MMM y"
      short := "d.M.yy" }
  times :=
    { full := "h:mm:ss\u202fa, zzzz"
      long := "h:mm:ss\u202fa, z"
      medium := "h:mm:ss\u202fa"
      short := "h:mm\u202fa" }
  moments :=
    { full := "\x7b1\x7d, \x7b0\x7d"
      long := "\x7b1\x7d, \x7b0\x7d"
      medium := "\x7b1\x7d, \x7b0\x7d"
      short := "\x7b1\x7d, \x7b0\x7d" }
  skeletons := "EBh E, h B
EHm E, HH:mm
EHms E, HH:mm:ss
Ed E, d
Eh E, h\u202fa
Ehm E, h:mm\u202fa
Ehms E, h:mm:ss\u202fa
Gy y G
GyM M.y G
GyMEd E, d.M.y G
GyMMM MMM y G
GyMMMEd E, d MMM y G
GyMMMd d MMM y G
GyMd d.M.y GGGG
Hmsv HH:mm:ss, v
Hmv HH:mm, v
Hv HH, v
MEd E, d.M
MMMEd E, d MMM
MMMMEd E, d MMMM
MMMMW 'java' W 'e' MMMM
MMMMd d MMMM
MMMd d MMM
MMdd d.M
Md d.M
hm h:mm\u202fa
hms h:mm:ss\u202fa
hmsv h:mm:ss\u202fa, v
hmv h:mm\u202fa, v
hv h\u202fa, v
yM M.y
yMEd E, d.M.y
yMMM MMM y
yMMMEd E, d MMM y
yMMMM MMMM y
yMMMd d MMM y
yMd d.M.y
yQQQ QQQ, y
yQQQQ QQQQ, y
yw 'java' w 'e' Y" :: Conventions.rootSkeletons
  zones :=
    { place := "Ora: \x7b0\x7d"
      unknownRegion := "I panjohur"
      utcLong := "Ora universale e koordinuar" }

/-- Albanian (North Macedonia). -/
def sqMK : Conventions :=
  { sq with
    currencies := "MKD den" :: sq.currencies
    times :=
      { sq.times with
        full := "HH:mm:ss zzzz"
        long := "HH:mm:ss z"
        medium := "HH:mm:ss"
        short := "HH:mm" } }

/-- Albanian (Kosovo). -/
def sqXK : Conventions :=
  { sq with
    times :=
      { sq.times with
        full := "HH:mm:ss zzzz"
        long := "HH:mm:ss z"
        medium := "HH:mm:ss"
        short := "HH:mm" } }

/-- The locales of Albanian, Armenian, Basque, Georgian and Greek with their conventions. -/
def mediterranean : List (String × Conventions) :=
  [ ("el", el), ("el_CY", el), ("el_GR", el), ("eu", eu), ("eu_ES", eu), ("hy", hy),
    ("hy_AM", hy), ("ka", ka), ("ka_GE", ka), ("sq", sq), ("sq_AL", sq), ("sq_MK", sqMK),
    ("sq_XK", sqXK) ]

end Phrasebook.ConventionsOf
