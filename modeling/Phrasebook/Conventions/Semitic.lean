import Phrasebook.Conventions.Basic

/-!
# Conventions of Arabic, Hebrew and Persian
-/

namespace Phrasebook.ConventionsOf

/-- Arabic. -/
def ar : Conventions where
  symbols :=
    { plus := "\u200e+"
      minus := "\u200e-" }
  numbers :=
    { currency := "\u200f#,##0.00\u00a0¤;\u200f-#,##0.00\u00a0¤" }
  compact :=
    { short := "other|0\u00a0ألف|00\u00a0ألف|000\u00a0ألف|0\u00a0مليون|00\u00a0مليون|000\u00a0مليون|0\u00a0مليار|00\u00a0مليار|000\u00a0مليار|0\u00a0ترليون|00\u00a0ترليون|000\u00a0ترليون
few|0\u00a0آلاف|00\u00a0ألف|000\u00a0ألف"
      long := "other|0 ألف|00 ألف|000 ألف|0 مليون|00 مليون|000 مليون|0 مليار|00 مليار|000 مليار|0 ترليون|00 ترليون|000 ترليون
few|0 آلاف|00 ألف|000 ألف|0 ملايين|00 ملايين|000 مليون|0 مليار|00 مليار|000 مليار|0 ترليون|00 ترليون|000 ترليون"
      currency := "other|\u200f0\u00a0ألف\u00a0¤|\u200f00\u00a0ألف\u00a0¤|\u200f000\u00a0ألف\u00a0¤|\u200f0\u00a0مليون\u00a0¤|\u200f00\u00a0مليون\u00a0¤|\u200f000\u00a0مليون\u00a0¤|\u200f0\u00a0مليار\u00a0¤|\u200f00\u00a0مليار\u00a0¤|\u200f000\u00a0مليار\u00a0¤|\u200f0\u00a0ترليون\u00a0¤|\u200f00\u00a0ترليون\u00a0¤|\u200f000\u00a0ترليون\u00a0¤
few|\u200f0\u00a0آلاف\u00a0¤|\u200f00\u00a0ألف\u00a0¤|\u200f000\u00a0ألف\u00a0¤|\u200f0\u00a0مليون\u00a0¤|\u200f00\u00a0مليون\u00a0¤|\u200f000\u00a0مليون\u00a0¤|\u200f0\u00a0مليار\u00a0¤|\u200f00\u00a0مليار\u00a0¤|\u200f000\u00a0مليار\u00a0¤|\u200f0\u00a0ترليون\u00a0¤|\u200f00\u00a0ترليون\u00a0¤|\u200f000\u00a0ترليون\u00a0¤" }
  currencies := "AED د.إ.\u200f|AUD AU$|BHD د.ب.\u200f|DZD د.ج.\u200f|EGP ج.م.\u200f|GBP UK£|IQD د.ع.\u200f|IRR ر.إ.|JOD د.أ.\u200f|KWD د.ك.\u200f|LBP ل.ل.\u200f|LYD د.ل.\u200f|MAD د.م.\u200f|MRU أ.م.|OMR ر.ع.\u200f|PHP PHP|QAR ر.ق.\u200f|SAR ر.س.\u200f|SDD د.س.\u200f|SDG ج.س.|SYP ل.س.\u200f|THB ฿|TND د.ت.\u200f|YER ر.ي.\u200f" :: Conventions.rootCurrencies
  plurals := "few n % 100 = 3..10|many n % 100 = 11..99|one n = 1|two n = 2|zero n = 0"
  months :=
    { format :=
        { wide := "يناير|فبراير|مارس|أبريل|مايو|يونيو|يوليو|أغسطس|سبتمبر|أكتوبر|نوفمبر|ديسمبر"
          narrow := "ي|ف|م|أ|و|ن|ل|غ|س|ك|ب|د" } }
  weekdays :=
    { format :=
        { wide := "الاثنين|الثلاثاء|الأربعاء|الخميس|الجمعة|السبت|الأحد"
          short := "إثنين|ثلاثاء|أربعاء|خميس|جمعة|سبت|أحد"
          narrow := "ن|ث|ر|خ|ج|س|ح" } }
  quarters :=
    { format :=
        { wide := "الربع الأول|الربع الثاني|الربع الثالث|الربع الرابع"
          narrow := "١|٢|٣|٤" } }
  eras :=
    { wide := "قبل الميلاد|ميلادي"
      abbreviated := "ق.م|م" }
  dayPeriods :=
    { format :=
        { wide := "am ص|pm م|afternoon1 ظهرًا|afternoon2 بعد الظهر|evening1 مساءً|morning1 في الصباح|morning2 صباحًا|night1 في المساء|night2 ليلاً"
          abbreviated := "am ص|pm م|afternoon1 ظهرًا|afternoon2 بعد الظهر|evening1 مساءً|morning1 فجرًا|morning2 ص|night1 في المساء|night2 ليلاً"
          narrow := "am ص|pm م|afternoon1 ظهرًا|afternoon2 بعد الظهر|evening1 مساءً|morning1 فجرًا|morning2 صباحًا|night1 منتصف الليل|night2 ليلاً" }
      standAlone :=
        { wide := "am صباحًا|pm مساءً|afternoon1 ظهرًا|afternoon2 بعد الظهر|evening1 مساءً|morning1 فجرًا|morning2 صباحًا|night1 منتصف الليل|night2 ليلاً"
          abbreviated := "am ص|pm م|afternoon1 ظهرًا|afternoon2 بعد الظهر|evening1 مساءً|morning1 فجرًا|morning2 ص|night1 منتصف الليل|night2 ليلاً"
          narrow := "am ص|pm م|afternoon1 ظهرًا|afternoon2 بعد الظهر|evening1 مساءً|morning1 فجرًا|morning2 صباحًا|night1 منتصف الليل|night2 ليلاً" } }
  dayPeriodRules := "afternoon1 43200 46800|afternoon2 46800 64800|evening1 64800 86400|morning1 10800 21600|morning2 21600 43200|night1 0 3600|night2 3600 10800"
  dates :=
    { full := "EEEE، d MMMM y"
      long := "d MMMM y"
      medium := "dd\u200f/MM\u200f/y"
      short := "d\u200f/M\u200f/y" }
  times :=
    { full := "h:mm:ss a zzzz"
      long := "h:mm:ss a z"
      medium := "h:mm:ss a"
      short := "h:mm a" }
  moments :=
    { full := "\x7b1\x7d، \x7b0\x7d"
      long := "\x7b1\x7d، \x7b0\x7d"
      medium := "\x7b1\x7d، \x7b0\x7d"
      short := "\x7b1\x7d، \x7b0\x7d" }
  skeletons := "Ed E، d
Gy y G
GyM MM، y G
GyMEd E d/M/y G
GyMMM MMM y G
GyMMMEd E، d MMM y G
GyMMMd d MMM y G
GyMd dd-MM-y GGGGG
MEd E، d\u200f/M
MMMEd E، d MMM
MMMMEd E، d MMMM
MMMMW الأسبوع W من MMMM
MMMMd d MMMM
MMMd d MMM
MMdd dd\u200f/MM
Md d\u200f/M
yM M\u200f/y
yMEd E، d\u200f/M\u200f/y
yMM MM\u200f/y
yMMM MMM y
yMMMEd E، d MMM y
yMMMM MMMM y
yMMMd d MMM y
yMd d\u200f/M\u200f/y
yQQQ QQQ y
yQQQQ QQQQ y
yw الأسبوع w من سنة Y" :: Conventions.rootSkeletons
  zones :=
    { offset := "غرينتش\x7b0\x7d"
      place := "توقيت \x7b0\x7d"
      unknownRegion := "منطقة غير معروفة"
      utcLong := "التوقيت العالمي المنسق" }

/-- Persian. -/
def fa : Conventions where
  symbols :=
    { plus := "\u200e+"
      minus := "\u200e−" }
  numbers :=
    { currency := "\u200e¤\u00a0#,##0.00" }
  compact :=
    { short := "other|0\u00a0هزار|00\u00a0هزار|000\u00a0هزار|0\u00a0میلیون|00\u00a0میلیون|000\u00a0میلیون|0\u00a0میلیارد|00\u00a0میلیارد|000\u00a0میلیارد|0\u00a0تریلیون|00\u00a0تریلیون|000\u00a0تریلیون"
      long := "other|0 هزار|00 هزار|000 هزار|0 میلیون|00 میلیون|000 میلیون|0 میلیارد|00 میلیارد|000 میلیارد|0 هزارمیلیارد|00 هزارمیلیارد|000 هزارمیلیارد"
      currency := "other|\u200e¤\u00a00\u00a0هزار|\u200e¤\u00a000\u00a0هزار|\u200e¤\u00a0000\u00a0هزار|\u200e¤\u00a00\u00a0میلیون|\u200e¤\u00a000\u00a0میلیون|\u200e¤\u00a0000\u00a0میلیون|\u200e¤\u00a00\u00a0میلیارد|\u200e¤\u00a000\u00a0میلیارد|\u200e¤\u00a0000\u00a0میلیارد|\u200e¤\u00a00\u00a0تریلیون|\u200e¤\u00a000\u00a0تریلیون|\u200e¤\u00a0000\u00a0تریلیون" }
  currencies := "AFN ؋|CAD $CA|CNY ¥CN|HKD $HK|IRR ریال|JPY ¥|MXN $MX|NZD $NZ|PHP PHP|THB ฿|USD $|XCD $EC|XOF فرانک\u202fCFA" :: Conventions.rootCurrencies
  plurals := "one i = 0 or n = 1"
  months :=
    { format :=
        { wide := "ژانویهٔ|فوریهٔ|مارس|آوریل|مهٔ|ژوئن|ژوئیهٔ|اوت|سپتامبر|اکتبر|نوامبر|دسامبر"
          abbreviated := "ژانویه|فوریه|مارس|آوریل|مه|ژوئن|ژوئیه|اوت|سپتامبر|اکتبر|نوامبر|دسامبر"
          narrow := "ژ|ف|م|آ|م|ژ|ژ|ا|س|ا|ن|د" }
      standAlone :=
        { wide := "ژانویه|فوریه|مارس|آوریل|مه|ژوئن|ژوئیه|اوت|سپتامبر|اکتبر|نوامبر|دسامبر"
          narrow := "ژ|ف|م|آ|م|ژ|ژ|ا|س|ا|ن|د" } }
  weekdays :=
    { format :=
        { wide := "دوشنبه|سه\u200cشنبه|چهارشنبه|پنجشنبه|جمعه|شنبه|یکشنبه"
          short := "۲ش|۳ش|۴ش|۵ش|ج|ش|۱ش"
          narrow := "د|س|چ|پ|ج|ش|ی" } }
  quarters :=
    { format :=
        { wide := "سه\u200cماههٔ اول|سه\u200cماههٔ دوم|سه\u200cماههٔ سوم|سه\u200cماههٔ چهارم"
          abbreviated := "س\u200cم۱|س\u200cم۲|س\u200cم۳|س\u200cم۴"
          narrow := "۱|۲|۳|۴" } }
  eras :=
    { wide := "قبل از میلاد|میلادی"
      abbreviated := "ق.م.|م."
      narrow := "ق|م" }
  dayPeriods :=
    { format :=
        { wide := "am قبل\u200cازظهر|pm بعدازظهر|afternoon1 بعدازظهر|afternoon2 عصر|morning1 بامداد|morning2 صبح|night1 شب|night2 نیمه\u200cشب"
          abbreviated := "am ق.ظ.|pm ب.ظ.|afternoon1 ظهر|afternoon2 عصر|morning1 بامداد|morning2 صبح|night1 شب|night2 نیمه\u200cشب"
          narrow := "am ق|pm ب|afternoon1 ظهر|afternoon2 عصر|morning1 بامداد|morning2 صبح|night1 شب|night2 نیمه\u200cشب" }
      standAlone :=
        { wide := "am قبل\u200cازظهر|pm بعدازظهر|afternoon1 بعدازظهر|afternoon2 عصر|morning1 بامداد|morning2 صبح|night1 شب|night2 نیمه\u200cشب"
          abbreviated := "am ق.ظ.|pm ب.ظ.|afternoon1 ظهر|afternoon2 عصر|morning1 بامداد|morning2 صبح|night1 شب|night2 نیمه\u200cشب"
          narrow := "am ق\u200cظ|pm ب\u200cظ|afternoon1 ظهر|afternoon2 عصر|morning1 بامداد|morning2 صبح|night1 شب|night2 نیمه\u200cشب" } }
  dayPeriodRules := "afternoon1 43200 46800|afternoon2 46800 68400|morning1 3600 14400|morning2 14400 43200|night1 68400 86400|night2 0 3600"
  dates :=
    { full := "EEEE d MMMM y"
      long := "d MMMM y"
      medium := "d MMM y"
      short := "y/M/d" }
  times :=
    { full := "H:mm:ss (zzzz)"
      long := "H:mm:ss (z)"
      medium := "H:mm:ss"
      short := "H:mm" }
  moments :=
    { full := "\x7b1\x7d، ساعت \x7b0\x7d"
      long := "\x7b1\x7d، ساعت \x7b0\x7d"
      medium := "\x7b1\x7d،\u200f \x7b0\x7d"
      short := "\x7b1\x7d،\u200f \x7b0\x7d" }
  skeletons := "EHm E H:mm
EHms E H:mm:ss
Ed E d
Gy y G
GyM y/M G
GyMEd E، y/M/d G
GyMMM MMM y G
GyMMMEd E d MMM y G
GyMMMd d MMM y G
GyMd y/M/d GGGGG
H H
HHmmZ HH:mm (Z)
Hm H:mm
Hms H:mm:ss
Hmsv H:mm:ss v
Hmv H:mm v
Hv سHH v
MEd E M/d
MMMEd E d LLL
MMMMEd E d LLLL
MMMMW هفتهٔ Wم LLLL
MMMMd d LLLL
MMMd d LLL
Md M/d
mmss mm:ss
ms m:ss
yM y/M
yMEd E y/M/d
yMMM MMM y
yMMMEd E d MMM y
yMMMM MMMM y
yMMMMEEEEd EEEE d MMMM y
yMMMd d MMM y
yMd y/M/d
yQQQ QQQQ y
yQQQQ QQQQ y
yw هفتهٔ wم Y" :: Conventions.rootSkeletons
  zones :=
    { offset := "\x7b0\x7d گرینویچ"
      place := "وقت \x7b0\x7d"
      unknownRegion := "ناحیهٔ نامشخص"
      utcLong := "زمان هماهنگ جهانی" }

/-- Hebrew. -/
def he : Conventions where
  symbols :=
    { plus := "\u200e+"
      minus := "\u200e-" }
  numbers :=
    { currency := "\u200f#,##0.00\u00a0\u200f¤;\u200f-#,##0.00\u00a0\u200f¤" }
  compact :=
    { short := "other|0K\u200f|00K\u200f|000K\u200f|0M\u200f|00M\u200f|000M\u200f|0B\u200f|00B\u200f|000B\u200f|0T\u200f|00T\u200f|000T\u200f"
      long := "other|\u200f0 אלף|\u200f00 אלף|\u200f000 אלף|\u200f0 מיליון|\u200f00 מיליון|\u200f000 מיליון|\u200f0 מיליארד|\u200f00 מיליארד|\u200f000 מיליארד|\u200f0 טריליון|\u200f00 טריליון|\u200f000 טריליון"
      currency := "other|\u200f0K\u200f\u00a0\u200f¤|\u200f00K\u200f\u00a0\u200f¤|\u200f000K\u200f\u00a0\u200f¤|\u200f0M\u200f\u00a0\u200f¤|\u200f00M\u200f\u00a0\u200f¤|\u200f000M\u200f\u00a0\u200f¤|\u200f0B\u200f\u00a0\u200f¤|\u200f00B\u200f\u00a0\u200f¤|\u200f000B\u200f\u00a0\u200f¤|\u200f0T\u200f\u00a0\u200f¤|\u200f00T\u200f\u00a0\u200f¤|\u200f000T\u200f\u00a0\u200f¤" }
  currencies := "CNY \u200eCN¥\u200e|ILP ל״י|JPY ¥|PHP PHP|THB ฿|USD $" :: Conventions.rootCurrencies
  plurals := "one i = 1 and v = 0 or i = 0 and v != 0|two i = 2 and v = 0"
  months :=
    { format :=
        { wide := "ינואר|פברואר|מרץ|אפריל|מאי|יוני|יולי|אוגוסט|ספטמבר|אוקטובר|נובמבר|דצמבר"
          abbreviated := "ינו׳|פבר׳|מרץ|אפר׳|מאי|יוני|יולי|אוג׳|ספט׳|אוק׳|נוב׳|דצמ׳"
          narrow := "1|2|3|4|5|6|7|8|9|10|11|12" } }
  weekdays :=
    { format :=
        { wide := "יום שני|יום שלישי|יום רביעי|יום חמישי|יום שישי|יום שבת|יום ראשון"
          abbreviated := "יום ב׳|יום ג׳|יום ד׳|יום ה׳|יום ו׳|שבת|יום א׳"
          short := "ב׳|ג׳|ד׳|ה׳|ו׳|ש׳|א׳"
          narrow := "ב׳|ג׳|ד׳|ה׳|ו׳|ש׳|א׳" } }
  quarters :=
    { format :=
        { wide := "רבעון 1|רבעון 2|רבעון 3|רבעון 4"
          abbreviated := "Q1|Q2|Q3|Q4"
          narrow := "1|2|3|4" } }
  eras :=
    { wide := "לפני הספירה|לספירה"
      abbreviated := "לפנה״ס|לספירה"
      narrow := "לפני|אחריי" }
  dayPeriods :=
    { format :=
        { wide := "am AM|pm PM|afternoon1 בצהריים|afternoon2 אחר הצהריים|evening1 בערב|midnight חצות|morning1 בבוקר|night1 בלילה|night2 לפנות בוקר"
          abbreviated := "am AM|pm PM|afternoon1 צהריים|afternoon2 אחר הצהריים|evening1 ערב|midnight חצות|morning1 בוקר|night1 לילה|night2 לפנות בוקר"
          narrow := "am AM|pm PM|afternoon1 בצהריים|afternoon2 אחה״צ|evening1 בערב|midnight חצות|morning1 בבוקר|night1 בלילה|night2 לפנות בוקר" }
      standAlone :=
        { wide := "am AM|pm PM|afternoon1 צהריים|afternoon2 אחר הצהריים|evening1 ערב|midnight חצות|morning1 בוקר|night1 לילה|night2 לפנות בוקר"
          abbreviated := "am AM|pm PM|afternoon1 צהריים|afternoon2 אחה״צ|evening1 ערב|midnight חצות|morning1 בוקר|night1 לילה|night2 לפנות בוקר"
          narrow := "am לפנה״צ|pm אחה״צ|afternoon1 צהריים|afternoon2 אחה״צ|evening1 ערב|midnight חצות|morning1 בוקר|night1 לילה|night2 לפנות בוקר" } }
  dayPeriodRules := "afternoon1 43200 57600|afternoon2 57600 64800|evening1 64800 79200|midnight 0|morning1 21600 43200|night1 79200 10800|night2 10800 21600"
  dates :=
    { full := "EEEE, d בMMMM y"
      long := "d בMMMM y"
      medium := "d בMMM y"
      short := "d.M.y" }
  times :=
    { full := "H:mm:ss zzzz"
      long := "H:mm:ss z"
      medium := "H:mm:ss"
      short := "H:mm" }
  moments :=
    { full := "\x7b1\x7d, \x7b0\x7d"
      long := "\x7b1\x7d, \x7b0\x7d"
      medium := "\x7b1\x7d, \x7b0\x7d"
      short := "\x7b1\x7d, \x7b0\x7d" }
  skeletons := "EHm E H:mm
EHms E H:mm:ss
Ed E ה-d
Gy y G
GyMMM MMM y G
GyMMMEd E, d בMMM y G
GyMMMd d בMMM y G
GyMd d/M/y G
H H
Hm H:mm
Hms H:mm:ss
MEd E, d.M
MMMEd E, d בMMM
MMMMW שבוע W בMMMM
MMMMd d בMMMM
MMMd d בMMM
Md d.M
h \u200fh a
yM M.y
yMEd E, d.M.y
yMM M.y
yMMM MMM y
yMMMEd E, d בMMM y
yMMMM MMMM y
yMMMd d בMMM y
yMd d.M.y
yQQQ QQQ y
yQQQQ QQQQ y
yw שבוע w בשנת Y" :: Conventions.rootSkeletons
  zones :=
    { offset := "GMT\x7b0\x7d\u200e"
      place := "שעון \x7b0\x7d"
      unknownRegion := "אזור לא ידוע"
      utcLong := "זמן אוניברסלי מתואם" }

/-- Arabic (Djibouti). -/
def arDJ : Conventions :=
  { ar with
    currencies := "DJF Fdj" :: ar.currencies }

/-- Arabic (Algeria). -/
def arDZ : Conventions :=
  { ar with
    symbols :=
      { ar.symbols with
        decimal := ","
        group := "." }
    months :=
      { format :=
          { wide := "جانفي|فيفري|مارس|أفريل|ماي|جوان|جويلية|أوت|سبتمبر|أكتوبر|نوفمبر|ديسمبر"
            narrow := "ج|ف|م|أ|م|ج|ج|أ|س|أ|ن|د" } } }

/-- Arabic (Eritrea). -/
def arER : Conventions :=
  { ar with
    currencies := "ERN Nfk" :: ar.currencies }

/-- Arabic (Israel). -/
def arIL : Conventions :=
  { ar with
    times :=
      { ar.times with
        full := "H:mm:ss zzzz"
        long := "H:mm:ss z"
        medium := "H:mm:ss"
        short := "H:mm" } }

/-- Arabic (Iraq). -/
def arIQ : Conventions :=
  { ar with
    months :=
      { format :=
          { wide := "كانون الثاني|شباط|آذار|نيسان|أيار|حزيران|تموز|آب|أيلول|تشرين الأول|تشرين الثاني|كانون الأول"
            abbreviated := "كانون الثاني|شباط|آذار|نيسان|أيار|حزيران|تموز|آب|أيلول|تشرين\u00a0الأول|تشرين الثاني|كانون الأول"
            narrow := "ك|ش|آ|ن|أ|ح|ت|آ|أ|ت|ت|ك" }
        standAlone :=
          { wide := "كانون الثاني|شباط|آذار|نيسان|أيار|حزيران|تموز|آب|أيلول|تشرين الأول|تشرين الثاني|كانون الأول"
            narrow := "ك|ش|آ|ن|أ|ح|ت|آ|أ|ت|ت|ك" } } }

/-- Arabic (Jordan). -/
def arJO : Conventions :=
  { ar with
    months :=
      { format :=
          { wide := "كانون الثاني|شباط|آذار|نيسان|أيار|حزيران|تموز|آب|أيلول|تشرين الأول|تشرين الثاني|كانون الأول"
            narrow := "ك|ش|آ|ن|أ|ح|ت|آ|أ|ت|ت|ك" } } }

/-- Arabic (Comoros). -/
def arKM : Conventions :=
  { ar with
    currencies := "KMF CF" :: ar.currencies
    times :=
      { ar.times with
        full := "HH:mm:ss zzzz"
        long := "HH:mm:ss z"
        medium := "HH:mm:ss"
        short := "HH:mm" } }

/-- Arabic (Lebanon). -/
def arLB : Conventions :=
  { ar with
    symbols :=
      { ar.symbols with
        decimal := ","
        group := "." }
    currencies := "SDG SDG" :: ar.currencies
    months :=
      { format :=
          { wide := "كانون الثاني|شباط|آذار|نيسان|أيار|حزيران|تموز|آب|أيلول|تشرين الأول|تشرين الثاني|كانون الأول"
            narrow := "ك|ش|آ|ن|أ|ح|ت|آ|أ|ت|ت|ك" } } }

/-- Arabic (Libya). -/
def arLY : Conventions :=
  { ar with
    symbols :=
      { ar.symbols with
        decimal := ","
        group := "." }
    dayPeriods :=
      { ar.dayPeriods with
        format :=
          { ar.dayPeriods.format with
            abbreviated := "am ص|pm م|afternoon1 ظهرًا|afternoon2 بعد الظهر|evening1 مساءً|morning1 فجرًا|morning2 ص|night1 في المساء|night2 ل" } } }

/-- Arabic (Morocco). -/
def arMA : Conventions :=
  { ar with
    symbols :=
      { ar.symbols with
        decimal := ","
        group := "." }
    months :=
      { format :=
          { wide := "يناير|فبراير|مارس|أبريل|ماي|يونيو|يوليوز|غشت|شتنبر|أكتوبر|نونبر|دجنبر"
            narrow := "ي|ف|م|أ|م|ن|ل|غ|ش|ك|ب|د" } }
    times :=
      { ar.times with
        full := "HH:mm:ss zzzz"
        long := "HH:mm:ss z"
        medium := "HH:mm:ss"
        short := "HH:mm" } }

/-- Arabic (Mauritania). -/
def arMR : Conventions :=
  { ar with
    symbols :=
      { ar.symbols with
        decimal := ","
        group := "." }
    months :=
      { format :=
          { wide := "يناير|فبراير|مارس|إبريل|مايو|يونيو|يوليو|أغشت|شتمبر|أكتوبر|نوفمبر|دجمبر"
            narrow := "ي|ف|م|إ|و|ن|ل|غ|ش|ك|ب|د" } } }

/-- Arabic (Palestinian Territories). -/
def arPS : Conventions :=
  { ar with
    months :=
      { format :=
          { wide := "كانون الثاني|شباط|آذار|نيسان|أيار|حزيران|تموز|آب|أيلول|تشرين الأول|تشرين الثاني|كانون الأول"
            narrow := "ك|ش|آ|ن|أ|ح|ت|آ|أ|ت|ت|ك" } } }

/-- Arabic (Saudi Arabia). -/
def arSA : Conventions :=
  { ar with
    dayPeriods :=
      { ar.dayPeriods with
        format :=
          { ar.dayPeriods.format with
            abbreviated := "am ص|pm م|afternoon1 ظهرًا|afternoon2 بعد الظهر|evening1 مساءً|morning1 فجرًا|morning2 ص|night1 في المساء|night2 ل" } } }

/-- Arabic (Somalia). -/
def arSO : Conventions :=
  { ar with
    currencies := "SOS S" :: ar.currencies }

/-- Arabic (South Sudan). -/
def arSS : Conventions :=
  { ar with
    currencies := "GBP GB£|SSP £" :: ar.currencies }

/-- Arabic (Syria). -/
def arSY : Conventions :=
  { ar with
    months :=
      { format :=
          { wide := "كانون الثاني|شباط|آذار|نيسان|أيار|حزيران|تموز|آب|أيلول|تشرين الأول|تشرين الثاني|كانون الأول"
            narrow := "ك|ش|آ|ن|أ|ح|ت|آ|أ|ت|ت|ك" } } }

/-- Arabic (Tunisia). -/
def arTN : Conventions :=
  { ar with
    symbols :=
      { ar.symbols with
        decimal := ","
        group := "." }
    months :=
      { format :=
          { wide := "جانفي|فيفري|مارس|أفريل|ماي|جوان|جويلية|أوت|سبتمبر|أكتوبر|نوفمبر|ديسمبر"
            narrow := "ج|ف|م|أ|م|ج|ج|أ|س|أ|ن|د" } } }

/-- Persian (Afghanistan). -/
def faAF : Conventions :=
  { fa with
    numbers :=
      { fa.numbers with
        currency := "¤\u00a0#,##0.00" }
    months :=
      { format :=
          { wide := "جنوری|فبروری|مارچ|اپریل|می|جون|جولای|اگست|سپتمبر|اکتوبر|نومبر|دسمبر"
            abbreviated := "جنو|فبروری|مارچ|اپریل|می|جون|جول|اگست|سپتمبر|اکتوبر|نومبر|دسم"
            narrow := "ج|ف|م|ا|م|ج|ج|ا|س|ا|ن|د" }
        standAlone :=
          { wide := "جنوری|فبروری|مارچ|اپریل|می|جون|جولای|اگست|سپتمبر|اکتوبر|نومبر|دسمبر"
            narrow := "ج|ف|م|ا|م|ج|ج|ا|س|ا|ن|د" } }
    quarters :=
      { format :=
          { wide := "ربع اول|ربع دوم|ربع سوم|ربع چهارم"
            abbreviated := "ر۱|ر۲|ر۳|ر۴"
            narrow := "۱|۲|۳|۴" } }
    dayPeriods :=
      { format :=
          { wide := "am قبل\u200cازظهر|pm بعدازظهر|afternoon1 ظهر|afternoon2 بعدازچاشت|morning1 بامداد|morning2 صبح|night1 شب|night2 نیمه\u200cشب"
            abbreviated := "am ق.ظ.|pm ب.ظ.|afternoon1 ظهر|afternoon2 بعدازچاشت|morning1 بامداد|morning2 صبح|night1 شب|night2 نیمه\u200cشب"
            narrow := "am ق|pm ب|afternoon1 ظهر|afternoon2 بعدازچاشت|morning1 بامداد|morning2 صبح|night1 شب|night2 نیمه\u200cشب" }
        standAlone :=
          { wide := "am قبل\u200cازظهر|pm بعدازظهر|afternoon1 ظهر|afternoon2 بعدازچاشت|morning1 بامداد|morning2 صبح|night1 شب|night2 نیمه\u200cشب"
            abbreviated := "am ق.ظ.|pm ب.ظ.|afternoon1 ظهر|afternoon2 بعدازچاشت|morning1 بامداد|morning2 صبح|night1 شب|night2 نیمه\u200cشب"
            narrow := "am ق\u200cظ|pm ب\u200cظ|afternoon1 بعد از چاشت|afternoon2 بعدازچاشت|morning1 بامداد|morning2 صبح|night1 شب|night2 نیمه\u200cشب" } }
    skeletons := "EHm E HH:mm
EHms E HH:mm:ss
Ed d E
GyMMMEd E, MMM d, y G
GyMMMd MMM d, y G
H HH
Hm HH:mm
Hms HH:mm:ss
MEd E, M/d
MMMEd E, MMM d
MMMMd MMMM d
MMMd MMM d
yM M/y
yMEd E, M/d/y
yMMMEd E, MMM d, y
yMMMd MMM d, y
yMd M/d/y
yQQQ QQQ y" :: fa.skeletons }

/-- The locales of Arabic, Hebrew and Persian with their conventions. -/
def semitic : List (String × Conventions) :=
  [ ("ar", ar), ("ar_001", ar), ("ar_AE", ar), ("ar_BH", ar), ("ar_DJ", arDJ), ("ar_DZ", arDZ),
    ("ar_EG", ar), ("ar_EH", ar), ("ar_ER", arER), ("ar_IL", arIL), ("ar_IQ", arIQ),
    ("ar_JO", arJO), ("ar_KM", arKM), ("ar_KW", ar), ("ar_LB", arLB), ("ar_LY", arLY),
    ("ar_MA", arMA), ("ar_MR", arMR), ("ar_OM", ar), ("ar_PS", arPS), ("ar_QA", ar),
    ("ar_SA", arSA), ("ar_SD", ar), ("ar_SO", arSO), ("ar_SS", arSS), ("ar_SY", arSY),
    ("ar_TD", ar), ("ar_TN", arTN), ("ar_YE", ar), ("fa", fa), ("fa_AF", faAF), ("fa_IR", fa),
    ("he", he), ("he_IL", he) ]

end Phrasebook.ConventionsOf
