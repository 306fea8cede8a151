import Phrasebook.Conventions.Basic

/-!
# Conventions of the Turkic languages
-/

namespace Phrasebook.ConventionsOf

/-- Azerbaijani. -/
def az : Conventions where
  symbols :=
    { decimal := ","
      group := "." }
  numbers :=
    { currency := "#,##0.00\u00a0¤" }
  compact :=
    { short := "other|0K|00K|000K|0\u00a0mln|00\u00a0mln|000\u00a0mln|0\u00a0mlrd|00\u00a0mlrd|000\u00a0mlrd|0\u00a0trln|00\u00a0trln|000\u00a0trln"
      long := "other|0 min|00 min|000 min|0 milyon|00 milyon|000 milyon|0 milyard|00 milyard|000 milyard|0 trilyon|00 trilyon|000 trilyon"
      currency := "other|0K\u00a0¤|00K\u00a0¤|000K\u00a0¤|0\u00a0mln\u00a0¤|00\u00a0mln\u00a0¤|000\u00a0mln\u00a0¤|0\u00a0mlrd\u00a0¤|00\u00a0mlrd\u00a0¤|000\u00a0mlrd\u00a0¤|0\u00a0trln\u00a0¤|00\u00a0trln\u00a0¤|000\u00a0trln\u00a0¤" }
  currencies := "AZN ₼|PHP PHP|THB ฿" :: Conventions.rootCurrencies
  plurals := "one n = 1"
  months :=
    { format :=
        { wide := "yanvar|fevral|mart|aprel|may|iyun|iyul|avqust|sentyabr|oktyabr|noyabr|dekabr"
          abbreviated := "yan|fev|mar|apr|may|iyn|iyl|avq|sen|okt|noy|dek"
          narrow := "1|2|3|4|5|6|7|8|9|10|11|12" } }
  weekdays :=
    { format :=
        { wide := "bazar ertəsi|çərşənbə axşamı|çərşənbə|cümə axşamı|cümə|şənbə|bazar"
          abbreviated := "B.e.|Ç.a.|Ç.|C.a.|C.|Ş.|B."
          short := "B.E.|Ç.A.|Ç.|C.A.|C.|Ş.|B."
          narrow := "1|2|3|4|5|6|7" }
      standAlone :=
        { wide := "bazar ertəsi|çərşənbə axşamı|çərşənbə|cümə axşamı|cümə|şənbə|bazar"
          abbreviated := "B.E.|Ç.A.|Ç.|C.A.|C.|Ş.|B."
          narrow := "1|2|3|4|5|6|7" } }
  quarters :=
    { format :=
        { wide := "1-ci kvartal|2-ci kvartal|3-cü kvartal|4-cü kvartal"
          abbreviated := "1-ci kv.|2-ci kv.|3-cü kv.|4-cü kv."
          narrow := "1|2|3|4" } }
  eras :=
    { wide := "eramızdan əvvəl|yeni era"
      abbreviated := "e.ə.|y.e." }
  dayPeriods :=
    { format :=
        { wide := "am AM|pm PM|afternoon1 gündüz|evening1 axşamüstü|midnight gecəyarı|morning1 sübh|morning2 səhər|night1 axşam|night2 gecə|noon günorta"
          narrow := "am a|pm p|afternoon1 gündüz|evening1 axşamüstü|midnight gecəyarı|morning1 sübh|morning2 səhər|night1 axşam|night2 gecə|noon g" } }
  dayPeriodRules := "afternoon1 43200 61200|evening1 61200 68400|midnight 0|morning1 14400 21600|morning2 21600 43200|night1 68400 86400|night2 0 14400|noon 43200"
  dates :=
    { full := "d MMMM y, EEEE"
      long := "d MMMM y"
      medium := "d MMM y"
      short := "dd.MM.yy" }
  skeletons := "Bh B h
Bhm B h:mm
Bhms B h:mm:ss
EBhm E B h:mm
EBhms E B h:mm:ss
Ed d E
Ehm E h:mm\u202fa
Ehms E h:mm:ss\u202fa
GyM G M y
GyMEd G d M y, E
GyMMM G MMM y
GyMMMEd G d MMM y, E
GyMMMd G d MMM y
GyMd G d M y
MEd dd.MM, E
MMMEd d MMM, E
MMMMW MMMM, W 'həftə'
MMMMd d MMMM
MMMd d MMM
Md dd.MM
hm h:mm\u202fa
hms h:mm:ss\u202fa
hmsv h:mm:ss\u202fa v
hmv h:mm\u202fa v
yM MM.y
yMEd dd.MM.y, E
yMMM MMM y
yMMMEd d MMM y, E
yMMMM MMMM y
yMMMd d MMM y
yMd dd.MM.y
yw Y, w 'həftə'" :: Conventions.rootSkeletons
  zones :=
    { place := "\x7b0\x7d Vaxtı"
      unknownRegion := "Naməlum Region"
      utcLong := "Koordinasiya edilmiş ümumdünya vaxtı" }

/-- Azerbaijani (Cyrillic script). -/
def azCyrl : Conventions where
  symbols :=
    { decimal := ","
      group := "." }
  numbers :=
    { currency := "#,##0.00\u00a0¤" }
  currencies := "AZN ₼" :: Conventions.rootCurrencies
  plurals := "one n = 1"
  months :=
    { format :=
        { wide := "јанвар|феврал|март|апрел|май|ијун|ијул|август|сентјабр|октјабр|нојабр|декабр"
          abbreviated := "јан|фев|мар|апр|май|ијн|ијл|авг|сен|окт|ној|дек"
          narrow := "1|2|3|4|5|6|7|8|9|10|11|12" }
      standAlone :=
        { wide := "Јанвар|Феврал|Март|Апрел|Май|Ијун|Ијул|Август|Сентјабр|Октјабр|Нојабр|Декабр"
          abbreviated := "јан|фев|мар|апр|май|ијн|ијл|авг|сен|окт|ној|дек"
          narrow := "1|2|3|4|5|6|7|8|9|10|11|12" } }
  weekdays :=
    { format :=
        { wide := "базар ертәси|чәршәнбә ахшамы|чәршәнбә|ҹүмә ахшамы|ҹүмә|шәнбә|базар"
          abbreviated := "Б.Е.|Ч.А.|Ч.|Ҹ.А.|Ҹ.|Ш.|Б."
          narrow := "1|2|3|4|5|6|7" } }
  quarters :=
    { format :=
        { wide := "1-ҹи квартал|2-ҹи квартал|3-ҹү квартал|4-ҹү квартал"
          abbreviated := "1-ҹи кв.|2-ҹи кв.|3-ҹү кв.|4-ҹү кв."
          narrow := "1|2|3|4" } }
  eras :=
    { wide := "ерамыздан әввәл|јени ера"
      abbreviated := "е.ә.|ј.е." }
  dayPeriods :=
    { format :=
        { wide := "am АМ|pm ПМ|afternoon1 ҝүндүз|evening1 ахшамүстү|midnight ҝеҹәјары|morning1 сүбһ|morning2 сәһәр|night1 ахшам|night2 ҝеҹә|noon ҝүнорта"
          narrow := "am а|pm п|afternoon1 ҝүндүз|evening1 ахшамүстү|midnight ҝеҹәјары|morning1 сүбһ|morning2 сәһәр|night1 ахшам|night2 ҝеҹә|noon ҝ" } }
  dayPeriodRules := "afternoon1 43200 61200|evening1 61200 68400|midnight 0|morning1 14400 21600|morning2 21600 43200|night1 68400 86400|night2 0 14400|noon 43200"
  dates :=
    { full := "d MMMM y, EEEE"
      long := "d MMMM y"
      medium := "d MMM y"
      short := "dd.MM.yy" }
  skeletons := "Ed d E
GyMMM G MMM y
GyMMMEd G d MMM y, E
GyMMMd G d MMM y
MEd dd.MM, E
MMMEd d MMM, E
MMMMW MMMM, W 'һәфтә'
MMMd d MMM
Md dd.MM
yM MM.y
yMEd dd.MM.y, E
yMMM MMM, y
yMMMEd d MMM y, E
yMMMd d MMM y
yMd dd.MM.y
yw Y, w 'һәфтә'" :: Conventions.rootSkeletons
  zones :=
    { unknownRegion := "Намәлум Реҝион" }

/-- Kazakh. -/
def kk : Conventions where
  symbols :=
    { decimal := ","
      group := "\u00a0" }
  numbers :=
    { currency := "#,##0.00\u00a0¤" }
  compact :=
    { short := "other|0\u00a0мың|00\u00a0мың|000\u00a0м'.'|0\u00a0млн|00\u00a0млн|000\u00a0млн|0\u00a0млрд|00\u00a0млрд|000\u00a0млрд|0\u00a0трлн|00\u00a0трлн|000\u00a0трлн"
      long := "other|0 мың|00 мың|000 мың|0 миллион|00 миллион|000 миллион|0 миллиард|00 миллиард|000 миллиард|0 триллион|00 триллион|000 триллион"
      currency := "other|0\u00a0мың\u00a0¤|00\u00a0мың\u00a0¤|000\u00a0м'.'\u00a0¤|0\u00a0млн\u00a0¤|00\u00a0млн\u00a0¤|000\u00a0млн\u00a0¤|0\u00a0млрд\u00a0¤|00\u00a0млрд\u00a0¤|000\u00a0млрд\u00a0¤|0\u00a0трлн\u00a0¤|00\u00a0трлн\u00a0¤|000\u00a0трлн\u00a0¤" }
  currencies := "KZT ₸|LSL ЛСЛ|PHP PHP|RUB ₽|THB ฿|USD $" :: Conventions.rootCurrencies
  plurals := "one n = 1"
  months :=
    { format :=
        { wide := "қаңтар|ақпан|наурыз|сәуір|мамыр|маусым|шілде|тамыз|қыркүйек|қазан|қараша|желтоқсан"
          abbreviated := "қаң.|ақп.|нау.|сәу.|мам.|мау.|шіл.|там.|қыр.|қаз.|қар.|жел."
          narrow := "Қ|А|Н|С|М|М|Ш|Т|Қ|Қ|Қ|Ж" }
      standAlone :=
        { wide := "Қаңтар|Ақпан|Наурыз|Сәуір|Мамыр|Маусым|Шілде|Тамыз|Қыркүйек|Қазан|Қараша|Желтоқсан"
          abbreviated := "қаң.|ақп.|нау.|сәу.|мам.|мау.|шіл.|там.|қыр.|қаз.|қар.|жел."
          narrow := "Қ|А|Н|С|М|М|Ш|Т|Қ|Қ|Қ|Ж" } }
  weekdays :=
    { format :=
        { wide := "дүйсенбі|сейсенбі|сәрсенбі|бейсенбі|жұма|сенбі|жексенбі"
          abbreviated := "дс|сс|ср|бс|жм|сб|жс"
          narrow := "Д|С|С|Б|Ж|С|Ж" } }
  quarters :=
    { format :=
        { wide := "І тоқсан|ІІ тоқсан|ІІІ тоқсан|IV тоқсан"
          abbreviated := "І тқс.|ІІ тқс.|ІІІ тқс.|IV тқс."
          narrow := "I|II|III|IV" } }
  eras :=
    { wide := "Біздің заманымызға дейін|біздің заманымыз"
      abbreviated := "б.з.д.|б.з." }
  dayPeriods :=
    { format :=
        { wide := "am AM|pm PM|afternoon1 түстен кейінгі|evening1 кешкі|midnight түн жарымы|morning1 таңғы|night1 түнгі|noon түскі"
          narrow := "am AM|pm PM|afternoon1 түстен кейінгі|evening1 кешкі|midnight түнгі|morning1 таңғы|night1 түнгі|noon түскі" }
      standAlone :=
        { wide := "am AM|pm PM|afternoon1 түстен кейін|evening1 кеш|midnight түн жарымы|morning1 таң|night1 түн|noon талтүс"
          narrow := "am AM|pm PM|afternoon1 түстен кейін|evening1 кеш|midnight түнгі|morning1 таң|night1 түн|noon талтүс" } }
  dayPeriodRules := "afternoon1 43200 64800|evening1 64800 75600|midnight 0|morning1 21600 43200|night1 75600 21600|noon 43200"
  dates :=
    { full := "y\u202f'ж'. d MMMM, EEEE"
      long := "y\u202f'ж'. d MMMM"
      medium := "y\u202f'ж'. dd MMM"
      short := "dd.MM.yy" }
  moments :=
    { full := "\x7b1\x7d, \x7b0\x7d"
      long := "\x7b1\x7d, \x7b0\x7d"
      medium := "\x7b1\x7d, \x7b0\x7d"
      short := "\x7b1\x7d, \x7b0\x7d" }
  skeletons := "Bh B h
Bhm B h:mm
Bhms B h:mm:ss
EBh E, B h
EBhm E, B h:mm
EBhms E, B h:mm:ss
Eh E, h\u202fa
Ehm E h:mm\u202fa
Ehms E h:mm:ss\u202fa
Gy G y\u202f'ж'.
GyM MM-GGGGG y
GyMEd E, MM-dd-G y
GyMMM G y\u202f'ж'. MMM
GyMMMEd G y\u202f'ж'. d MMM, E
GyMMMd G y\u202f'ж'. d MMM
GyMd dd-MM-GGGGG y
MEd dd.MM, E
MMMEd d MMM, E
MMMMW MMMM 'айының' W-'аптасы'
MMMMd d MMMM
MMMd d MMM
Md dd.MM
hm h:mm\u202fa
hms h:mm:ss\u202fa
hmsv h:mm:ss\u202fa v
hmv h:mm\u202fa v
hv h\u202fa, v
yM MM.y
yMEd dd.MM.y, E
yMMM y\u202f'ж'. MMM
yMMMEd y\u202f'ж'. d MMM, E
yMMMM y\u202f'ж'. MMMM
yMMMd y\u202f'ж'. d MMM
yMd dd.MM.y
yQQQ y\u202f'ж'. QQQ
yQQQQ y\u202f'ж'. QQQQ
yw Y 'жылдың' w-'аптасы'" :: Conventions.rootSkeletons
  zones :=
    { place := "\x7b0\x7d уақыты"
      unknownRegion := "Белгісіз аймақ"
      utcLong := "Дүниежүзілік үйлестірілген уақыт" }

/-- Kazakh (Arabic script). -/
def kkArab : Conventions where
  compact :=
    { short := "other|0\u00a0مىڭ|00\u00a0مىڭ|000\u00a0مىڭ|0\u00a0ميلليون|00\u00a0ميلليون|000\u00a0ملن|0\u00a0ميلليارد|00\u00a0ملرد|000\u00a0ملرد|0\u00a0تريلليون|00\u00a0ترلن|000\u00a0ترلن"
      long := "other|0 مىڭ|00 مىڭ|000 مىڭ|0 ميلليون|00 ميلليون|000 ميلليون|0 ميلليارد|00 ميلليارد|000 ميلليارد|0 تريلليون|00 تريلليون|000 تريلليون"
      currency := "other|¤\u00a00\u00a0مىڭ|¤\u00a000\u00a0مىڭ|¤\u00a0000\u00a0مىڭ|¤\u00a00\u00a0ميلليون|¤\u00a000\u00a0ميلليون|¤\u00a0000\u00a0ملن|¤\u00a00\u00a0ميلليارد|¤\u00a000\u00a0ملرد|¤\u00a0000\u00a0ملرد|¤\u00a00\u00a0تريلليون|¤\u00a000\u00a0ترلن|¤\u00a0000\u00a0ترلن" }
  currencies := "KZT ₸" :: Conventions.rootCurrencies
  plurals := "one n = 1"
  months :=
    { format :=
        { wide := "قاڭتار|اقپان|ناۋرىز|ءساۋىر|مامىر|ماۋسىم|شىلدە|تامىز|قىركۇيەك|قازان|قاراشا|جەلتوقسان"
          narrow := "1|2|3|4|5|6|7|8|9|10|11|12" } }
  weekdays :=
    { format :=
        { wide := "دۇيسەنبى|سەيسەنبى|سارسەنبى|بەيسەنبى|جۇما|سەنبى|جەكسەنبى"
          abbreviated := "دۇي|سەي|سار|بەي|جۇم|سەن|جەك"
          short := "دۇ|سە|سا|بە|جۇ|سن|جە"
          narrow := "د|س|س|ب|ج|س|ج" } }
  quarters :=
    { format :=
        { wide := "ءبىرىنشى توقسان|ەكىنشى توقسان|ءۇشىنشى توقسان|ءتورتىنشى توقسان"
          abbreviated := "1- توقسان|2- توقسان|3- توقسان|4- توقسان"
          narrow := "1|2|3|4" } }
  eras :=
    { wide := "ءبىزدىڭ زامانىمىزعا دەيىن|ءبىزدىڭ زامانىمىز"
      abbreviated := "ب ز د|ب ز" }
  dayPeriods :=
    { format :=
        { wide := "am ت د|pm ت ك|afternoon1 تۇستەن كەيىنگى|evening1 كەشى|midnight ءتۇن جارىمى|morning1 تاڭعى|night1 تۇنگى|noon تۇسكى"
          abbreviated := "am ت\u202fد|pm ت\u202fك|afternoon1 تۇستەن كەيىنگى|evening1 كەش|midnight ءتۇن جارىمى|morning1 تاڭعى|night1 تۇنگى|noon تۇسكى"
          narrow := "am ت\u202fد|pm ت\u202fك|afternoon1 تۇستەن كەيىنگى|evening1 كەش|midnight تۇنگى|morning1 تاڭعى|night1 تۇنگى|noon تۇسكى" }
      standAlone :=
        { wide := "am ت د|pm ت ك|afternoon1 تۇستەن كەيىن|evening1 كەش|midnight ءتۇن جارىمى|morning1 تاڭ|night1 ءتۇن|noon تال ءتۇس"
          abbreviated := "am ت\u202fد|pm ت\u202fك|afternoon1 تۇستەن كەيىن|evening1 كەش|midnight ءتۇن جارىمى|morning1 تاڭ|night1 ءتۇن|noon تال ءتۇس"
          narrow := "am ت\u202fد|pm ت\u202fك|afternoon1 تۇستەن كەيىن|evening1 كەش|midnight تۇنگى|morning1 تاڭ|night1 ءتۇن|noon تال ءتۇس" } }
  dayPeriodRules := "afternoon1 43200 64800|evening1 64800 75600|midnight 0|morning1 21600 43200|night1 75600 21600|noon 43200"
  dates :=
    { full := "y، d- MMMM، EEEE"
      long := "y، d- MMMM"
      medium := "y، d- MMM"
      short := "dd-MM-y" }
  moments :=
    { full := "\x7b1\x7d، \x7b0\x7d"
      long := "\x7b1\x7d، \x7b0\x7d"
      medium := "\x7b1\x7d, \x7b0\x7d"
      short := "\x7b1\x7d, \x7b0\x7d" }
  skeletons := "Ed d E
GyMEd G y-MM-dd، E
GyMMMEd G y، d- MMM، E
GyMMMd G y، d- MMM
GyMd G d-M-y
MEd d-M، E
MMMEd d- MMM، E
MMMMW MMMM ايىنىڭ W اپتاسى
MMMMd d- MMMM
MMMd d- MMM
Md d-M
yM M-y
yMEd y-d-M، E
yMMMEd y d- MMM، E
yMMMd y d- MMM
yMd y-d-M
yw Y جىلدىڭ w اپتاسى" :: Conventions.rootSkeletons
  zones :=
    { place := "\x7b0\x7d ۋاقىتى"
      unknownRegion := "بەلگىسىز ايماق"
      utcLong := "دۇنيەجۇزىلىك ۇيلەستىرىلگەن ۋاقىت" }

/-- Turkish. -/
def tr : Conventions where
  symbols :=
    { decimal := ","
      group := "." }
  numbers :=
    { percent := "%#,##0"
      currency := "¤#,##0.00" }
  compact :=
    { short := "other|0\u00a0B|00\u00a0B|000\u00a0B|0\u00a0Mn|00\u00a0Mn|000\u00a0Mn|0\u00a0Mr|00\u00a0Mr|000\u00a0Mr|0\u00a0Tn|00\u00a0Tn|000\u00a0Tn"
      long := "other|0 bin|00 bin|000 bin|0 milyon|00 milyon|000 milyon|0 milyar|00 milyar|000 milyar|0 trilyon|00 trilyon|000 trilyon"
      currency := "other|¤0\u00a0B|¤00\u00a0B|¤000\u00a0B|¤0\u00a0Mn|¤00\u00a0Mn|¤000\u00a0Mn|¤0\u00a0Mr|¤00\u00a0Mr|¤000\u00a0Mr|¤0\u00a0Tn|¤00\u00a0Tn|¤000\u00a0Tn" }
  currencies := "AUD AU$|JPY ¥|PHP PHP|THB ฿|TRY ₺|USD $" :: Conventions.rootCurrencies
  plurals := "one n = 1"
  months :=
    { format :=
        { wide := "Ocak|Şubat|Mart|Nisan|Mayıs|Haziran|Temmuz|Ağustos|Eylül|Ekim|Kasım|Aralık"
          abbreviated := "Oca|Şub|Mar|Nis|May|Haz|Tem|Ağu|Eyl|Eki|Kas|Ara"
          narrow := "O|Ş|M|N|M|H|T|A|E|E|K|A" } }
  weekdays :=
    { format :=
        { wide := "Pazartesi|Salı|Çarşamba|Perşembe|Cuma|Cumartesi|Pazar"
          abbreviated := "Pzt|Sal|Çar|Per|Cum|Cmt|Paz"
          short := "Pt|Sa|Ça|Pe|Cu|Ct|Pa"
          narrow := "P|S|Ç|P|C|C|P" } }
  quarters :=
    { format :=
        { wide := "1. çeyrek|2. çeyrek|3. çeyrek|4. çeyrek"
          abbreviated := "Ç1|Ç2|Ç3|Ç4"
          narrow := "1.|2.|3.|4." } }
  eras :=
    { wide := "Milattan Önce|Milattan Sonra"
      abbreviated := "MÖ|MS" }
  dayPeriods :=
    { format :=
        { wide := "am ÖÖ|pm ÖS|afternoon1 öğleden sonra|afternoon2 akşamüstü|evening1 akşam|midnight gece yarısı|morning1 sabah|morning2 öğleden önce|night1 gece|noon öğle"
          narrow := "am öö|pm ös|afternoon1 öğleden sonra|afternoon2 akşamüstü|evening1 akşam|midnight gece|morning1 sabah|morning2 öğleden önce|night1 gece|noon ö" } }
  dayPeriodRules := "afternoon1 43200 64800|afternoon2 64800 68400|evening1 68400 75600|midnight 0|morning1 21600 39600|morning2 39600 43200|night1 75600 21600|noon 43200"
  dates :=
    { full := "d MMMM y EEEE"
      long := "d MMMM y"
      medium := "d MMM y"
      short := "d.MM.y" }
  skeletons := "Bh B h
Bhm B h:mm
Bhms B h:mm:ss
EBhm E B h:mm
EBhms E B h:mm:ss
Ed d E
Ehm E a\u202fh:mm
Ehms E a\u202fh:mm:ss
GyM MM/y G
GyMEd G dd.MM.y E
GyMMM G MMM y
GyMMMEd G d MMM y E
GyMMMd G d MMM y
GyMd G dd.MM.y
Hv HH v
MEd d/M E
MMMEd d MMM E
MMMMEd d MMMM E
MMMMW MMMM 'ayının' W. 'haftası'
MMMMd d MMMM
MMMd d MMM
Md d/M
h a\u202fh
hm a\u202fh:mm
hms a\u202fh:mm:ss
hmsv a\u202fh:mm:ss v
hmv a\u202fh:mm v
mmss mm:ss
yM MM/y
yMEd d.M.y E
yMM MM.y
yMMM MMM y
yMMMEd d MMM y E
yMMMM MMMM y
yMMMd d MMM y
yMd dd.MM.y
yw Y 'yılının' w. 'haftası'" :: Conventions.rootSkeletons
  zones :=
    { place := "\x7b0\x7d Saati"
      unknownRegion := "Bilinmeyen Bölge"
      utcLong := "Eş Güdümlü Evrensel Zaman" }

/-- Uzbek. -/
def uz : Conventions where
  symbols :=
    { decimal := ","
      group := "\u00a0" }
  numbers :=
    { currency := "#,##0.00\u00a0¤" }
  compact :=
    { short := "other|0\u00a0ming|00\u00a0ming|000\u00a0ming|0\u00a0mln|00\u00a0mln|000\u00a0mln|0\u00a0mlrd|00\u00a0mlrd|000\u00a0mlrd|0\u00a0trln|00\u00a0trln|000\u00a0trln"
      long := "other|0 ming|00 ming|000 ming|0 million|00 million|000 million|0 milliard|00 milliard|000 milliard|0 trillion|00 trillion|000 trillion"
      currency := "other|0\u00a0ming\u00a0¤|00\u00a0ming\u00a0¤|000\u00a0ming\u00a0¤|0\u00a0mln\u00a0¤|00\u00a0mln\u00a0¤|000\u00a0mln\u00a0¤|0\u00a0mlrd\u00a0¤|00\u00a0mlrd\u00a0¤|000\u00a0mlrd\u00a0¤|0\u00a0trln\u00a0¤|00\u00a0trln\u00a0¤|000\u00a0trln\u00a0¤" }
  currencies := "PHP PHP|UZS soʻm" :: Conventions.rootCurrencies
  plurals := "one n = 1"
  months :=
    { format :=
        { wide := "yanvar|fevral|mart|aprel|may|iyun|iyul|avgust|sentabr|oktabr|noyabr|dekabr"
          abbreviated := "yan|fev|mar|apr|may|iyn|iyl|avg|sen|okt|noy|dek"
          narrow := "Y|F|M|A|M|I|I|A|S|O|N|D" }
      standAlone :=
        { wide := "Yanvar|Fevral|Mart|Aprel|May|Iyun|Iyul|Avgust|Sentabr|Oktabr|Noyabr|Dekabr"
          abbreviated := "Yan|Fev|Mar|Apr|May|Iyn|Iyl|Avg|Sen|Okt|Noy|Dek"
          narrow := "Y|F|M|A|M|I|I|A|S|O|N|D" } }
  weekdays :=
    { format :=
        { wide := "dushanba|seshanba|chorshanba|payshanba|juma|shanba|yakshanba"
          abbreviated := "Dush|Sesh|Chor|Pay|Jum|Shan|Yak"
          short := "Du|Se|Ch|Pa|Ju|Sh|Ya"
          narrow := "D|S|C|P|J|S|Y" } }
  quarters :=
    { format :=
        { wide := "1-chorak|2-chorak|3-chorak|4-chorak"
          abbreviated := "1-ch|2-ch|3-ch|4-ch"
          narrow := "1|2|3|4" } }
  eras :=
    { wide := "miloddan avvalgi|milodiy"
      abbreviated := "m.a.|milodiy" }
  dayPeriods :=
    { format :=
        { wide := "am TO|pm TK|afternoon1 kunduzi|evening1 kechqurun|midnight yarim tun|morning1 ertalab|night1 kechasi|noon tush payti" } }
  dayPeriodRules := "afternoon1 39600 64800|evening1 64800 79200|midnight 0|morning1 21600 39600|night1 79200 21600|noon 43200"
  dates :=
    { full := "EEEE, d-MMMM, y"
      long := "d-MMMM, y"
      medium := "d-MMM, y"
      short := "dd/MM/yy" }
  times :=
    { full := "H:mm:ss (zzzz)"
      long := "H:mm:ss (z)" }
  moments :=
    { full := "\x7b1\x7d, \x7b0\x7d"
      long := "\x7b1\x7d, \x7b0\x7d"
      medium := "\x7b1\x7d, \x7b0\x7d"
      short := "\x7b1\x7d, \x7b0\x7d" }
  skeletons := "Bh B h
Bhm B h:mm
Bhms B h:mm:ss
EBh E, B h
EBhm E, B h:mm
EBhms E, B h:mm:ss
EHm E, HH:mm
EHms E, HH:mm:ss
Eh E, h\u202fa
Ehm E, h:mm\u202fa
Ehms E, h:mm:ss\u202fa
GyM MM-y G
GyMEd E, dd-MM-y G
GyMMM MMM, G y
GyMMMEd E, d-MMM, G y
GyMMMd d-MMM, G y
GyMd dd.MM.y GGGGG
Hmsv HH:mm:ss (v)
Hmv HH:mm (v)
M LL
MEd E, dd/MM
MMMEd E, d-MMM
MMMMW MMMM, W-'hafta'
MMMMd d-MMMM
MMMd d-MMM
Md dd/MM
hm h:mm\u202fa
hms h:mm:ss\u202fa
hmsv h:mm:ss\u202fa (v)
hmv h:mm\u202fa (v)
yM MM.y
yMEd E, dd/MM/y
yMMM MMM, y
yMMMEd E, d-MMM, y
yMMMM MMMM, y
yMMMd d-MMM, y
yMd dd/MM/y
yQQQ y, QQQ
yQQQQ y, QQQQ
yw Y, w-'hafta'" :: Conventions.rootSkeletons
  zones :=
    { unknownRegion := "Noma’lum mintaqa"
      utcLong := "Koordinatali universal vaqt" }

/-- Uzbek (Arabic script). -/
def uzArab : Conventions where
  symbols :=
    { decimal := ","
      group := "."
      plus := "\u200e+"
      minus := "\u200e−" }
  currencies := "AFN ؋" :: Conventions.rootCurrencies
  plurals := "one n = 1"
  months :=
    { format :=
        { wide := "جنوری|فبروری|مارچ|اپریل|می|جون|جولای|اگست|سپتمبر|اکتوبر|نومبر|دسمبر"
          abbreviated := "جنو|فبر|مار|اپر|می|جون|جول|اگس|سپت|اکت|نوم|دسم"
          narrow := "1|2|3|4|5|6|7|8|9|10|11|12" } }
  weekdays :=
    { format :=
        { wide := "دوشنبه|سه\u200cشنبه|چهارشنبه|پنجشنبه|جمعه|شنبه|یکشنبه"
          abbreviated := "د.|س.|چ.|پ.|ج.|ش.|ی."
          narrow := "M|T|W|T|F|S|S" } }
  dayPeriodRules := "afternoon1 39600 64800|evening1 64800 79200|midnight 0|morning1 21600 39600|night1 79200 21600|noon 43200"

/-- Uzbek (Cyrillic script). -/
def uzCyrl : Conventions where
  symbols :=
    { decimal := ","
      group := "\u00a0" }
  numbers :=
    { currency := "#,##0.00\u00a0¤" }
  compact :=
    { short := "other|0минг|00минг|000минг|0млн|00млн|000млн|0млрд|00млрд|000млрд|0трлн|00трлн|000трлн"
      long := "other|0 минг|00 минг|000 минг|0 миллион|00 миллион|000 миллион|0 миллиард|00 миллиард|000 миллиард|0 трилион|00 трилион|000 трилион"
      currency := "other|0минг\u00a0¤|00минг\u00a0¤|000минг\u00a0¤|0млн\u00a0¤|00млн\u00a0¤|000млн\u00a0¤|0млрд\u00a0¤|00млрд\u00a0¤|000млрд\u00a0¤|0трлн\u00a0¤|00трлн\u00a0¤|000трлн\u00a0¤" }
  currencies := "THB ฿|UZS сўм" :: Conventions.rootCurrencies
  plurals := "one n = 1"
  months :=
    { format :=
        { wide := "январ|феврал|март|апрел|май|июн|июл|август|сентябр|октябр|ноябр|декабр"
          abbreviated := "янв|фев|мар|апр|май|июн|июл|авг|сен|окт|ноя|дек"
          narrow := "Я|Ф|М|А|М|И|И|А|С|О|Н|Д" } }
  weekdays :=
    { format :=
        { wide := "душанба|сешанба|чоршанба|пайшанба|жума|шанба|якшанба"
          abbreviated := "душ|сеш|чор|пай|жум|шан|якш"
          short := "ду|се|чо|па|жу|ша|як"
          narrow := "Д|С|Ч|П|Ж|Ш|Я" } }
  quarters :=
    { format :=
        { wide := "1-чорак|2-чорак|3-чорак|4-чорак"
          abbreviated := "1-ч|2-ч|3-ч|4-ч"
          narrow := "1|2|3|4" } }
  eras :=
    { wide := "милоддан аввалги|милодий"
      abbreviated := "м.а.|милодий" }
  dayPeriods :=
    { format :=
        { wide := "am ТО|pm ТК|afternoon1 кундузи|evening1 кечқурун|midnight ярим тун|morning1 эрталаб|night1 кечаси|noon туш пайти" } }
  dayPeriodRules := "afternoon1 39600 64800|evening1 64800 79200|midnight 0|morning1 21600 39600|night1 79200 21600|noon 43200"
  dates :=
    { full := "EEEE, dd MMMM, y"
      long := "d MMMM, y"
      medium := "d MMM, y"
      short := "dd/MM/yy" }
  times :=
    { full := "HH:mm:ss (zzzz)"
      long := "HH:mm:ss (z)" }
  skeletons := "Bh B h
Bhm B h:mm
Bhms B h:mm:ss
EBhm E, B h:mm
EBhms E, B h:mm:ss
EHm E, HH:mm
EHms E, HH:mm:ss
Ehm E, h:mm\u202fa
Ehms E, h:mm:ss\u202fa
GyMMM MMM, G y
GyMMMEd E, d-MMM, G y
GyMMMd d MMM, G y
Hmsv HH:mm:ss (v)
Hmv HH:mm (v)
M LL
MEd E, dd/MM
MMMEd E, d MMM
MMMMW MMMM, W-'ҳафта'
MMMMd d MMMM
MMMd d MMM
Md dd/MM
hm h:mm\u202fa
hms h:mm:ss\u202fa
hmsv h:mm:ss\u202fa (v)
hmv h:mm\u202fa (v)
yM MM/y
yMEd E, dd/MM/y
yMMM MMM, y
yMMMEd E, d-MMM, y
yMMMM MMMM, y
yMMMd d MMM, y
yMd dd/MM/y
yQQQ y, QQQ
yQQQQ y, QQQQ
yw Y, w-'ҳафта'" :: Conventions.rootSkeletons
  zones :=
    { place := "\x7b0\x7d вақти"
      unknownRegion := "Номаълум минтақа" }

/-- Turkish (Cyprus). -/
def trCY : Conventions :=
  { tr with
    times :=
      { tr.times with
        full := "h:mm:ss\u202fa zzzz"
        long := "h:mm:ss\u202fa z"
        medium := "h:mm:ss\u202fa"
        short := "h:mm\u202fa" } }

/-- The locales of the Turkic languages with their conventions. -/
def turkic : List (String × Conventions) :=
  [ ("az", az), ("az_Arab", az), ("az_Arab_IQ", az), ("az_Arab_IR", az), ("az_Arab_TR", az),
    ("az_Cyrl", azCyrl), ("az_Cyrl_AZ", azCyrl), ("az_Latn", az), ("az_Latn_AZ", az), ("kk", kk),
    ("kk_Arab", kkArab), ("kk_Arab_CN", kkArab), ("kk_Cyrl", kk), ("kk_Cyrl_KZ", kk),
    ("kk_KZ", kk), ("tr", tr), ("tr_CY", trCY), ("tr_TR", tr), ("uz", uz), ("uz_Arab", uzArab),
    ("uz_Arab_AF", uzArab), ("uz_Cyrl", uzCyrl), ("uz_Cyrl_UZ", uzCyrl), ("uz_Latn", uz),
    ("uz_Latn_UZ", uz) ]

end Phrasebook.ConventionsOf
