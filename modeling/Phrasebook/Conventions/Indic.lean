import Phrasebook.Conventions.Basic

/-!
# Conventions of the languages of South Asia
-/

namespace Phrasebook.ConventionsOf

/-- Bangla. -/
def bn : Conventions where
  numbers :=
    { decimal := "#,##,##0.###"
      percent := "#,##,##0%"
      currency := "#,##,##0.00¤" }
  compact :=
    { short := "other|0\u00a0হা|00\u00a0হা|0\u00a0লা|00\u00a0লা|0\u00a0কো|00\u00a0কো|000\u00a0কো|0শত\u00a0কো|0কো|0\u00a0লা'.'কো'.'|00\u00a0লা'.'কো'.'|000\u00a0লা'.'কো'.'
one|0\u00a0হা|00\u00a0হা|0\u00a0লা|00\u00a0লা|0\u00a0কো|00\u00a0কো|000\u00a0কো|0\u00a0শত\u00a0কো|0কো|0\u00a0লা'.'কো'.'|00\u00a0লা'.'কো'.'|000\u00a0লা'.'কো'.'"
      long := "other|0 হাজার|00 হাজার|0 লাখ|00 লাখ|0 কোটি|00 কোটি|000 কোটি|0000 কোটি|00000 কোটি|0 লাখ কোটি|00 লাখ কোটি|000 লাখ কোটি"
      currency := "other|0\u00a0হা¤|00\u00a0হা¤|0\u00a0লা¤|00\u00a0লা¤|0\u00a0কো¤|00\u00a0কো¤|000\u00a0কো¤|0শত\u00a0কো¤|0কো¤|0\u00a0লা'.'কো'.'¤|00\u00a0লা'.'কো'.'¤|000\u00a0লা'.'কো'.'¤
one|0\u00a0হা¤|00\u00a0হা¤|0\u00a0লা¤|00\u00a0লা¤|0\u00a0কো¤|00\u00a0কো¤|000\u00a0কো¤|0\u00a0শত\u00a0কো¤|0কো¤|0\u00a0লা'.'কো'.'¤|00\u00a0লা'.'কো'.'¤|000\u00a0লা'.'কো'.'¤" }
  currencies := "BDT ৳|PHP PHP|THB ฿" :: Conventions.rootCurrencies
  plurals := "one i = 0 or n = 1"
  months :=
    { format :=
        { wide := "জানুয়ারি|ফেব্রুয়ারি|মার্চ|এপ্রিল|মে|জুন|জুলাই|আগস্ট|সেপ্টেম্বর|অক্টোবর|নভেম্বর|ডিসেম্বর"
          abbreviated := "জানু|ফেব|মার্চ|এপ্রি|মে|জুন|জুল|আগ|সেপ|অক্টো|নভে|ডিসে"
          narrow := "জা|ফে|মা|এ|মে|জুন|জু|আ|সে|অ|ন|ডি" }
      standAlone :=
        { wide := "জানুয়ারি|ফেব্রুয়ারি|মার্চ|এপ্রিল|মে|জুন|জুলাই|আগস্ট|সেপ্টেম্বর|অক্টোবর|নভেম্বর|ডিসেম্বর"
          abbreviated := "জানু|ফেব|মার্চ|এপ্রিল|মে|জুন|জুলাই|আগস্ট|সেপ্ট|অক্টো|নভেম্বর|ডিসে"
          narrow := "জা|ফে|মা|এ|মে|জুন|জু|আ|সে|অ|ন|ডি" } }
  weekdays :=
    { format :=
        { wide := "সোমবার|মঙ্গলবার|বুধবার|বৃহস্পতিবার|শুক্রবার|শনিবার|রবিবার"
          abbreviated := "সোম|মঙ্গল|বুধ|বৃহস্পতি|শুক্র|শনি|রবি"
          short := "সোঃ|মঃ|বুঃ|বৃঃ|শুঃ|শনি|রঃ"
          narrow := "সো|ম|বু|বৃ|শু|শ|র" } }
  quarters :=
    { format :=
        { wide := "ত্রৈমাসিক|দ্বিতীয় ত্রৈমাসিক|তৃতীয় ত্রৈমাসিক|চতুর্থ ত্রৈমাসিক"
          narrow := "১|২|৩|৪" }
      standAlone :=
        { wide := "ত্রৈমাসিক|দ্বিতীয় ত্রৈমাসিক|তৃতীয় ত্রৈমাসিক|চতুর্থ ত্রৈমাসিক"
          abbreviated := "Q1|Q2|Q3|Q4"
          narrow := "১|২|৩|৪" } }
  eras :=
    { wide := "খ্রিস্টপূর্ব|খ্রিস্টাব্দ"
      abbreviated := "খ্রিস্টপূর্ব|খৃষ্টাব্দ" }
  dayPeriods :=
    { format :=
        { wide := "am AM|pm PM|afternoon1 দুপুরবেলায়|afternoon2 বিকাল|evening1 সন্ধ্যাবেলায়|morning1 ভোরবেলায়|morning2 সকালবেলায়|night1 রাত্রিবেলায়"
          abbreviated := "am AM|pm PM|afternoon1 দুপুর|afternoon2 বিকাল|evening1 সন্ধ্যা|morning1 ভোর|morning2 সকাল|night1 রাত্রি" } }
  dayPeriodRules := "afternoon1 43200 57600|afternoon2 57600 64800|evening1 64800 72000|morning1 14400 21600|morning2 21600 43200|night1 72000 14400"
  dates :=
    { full := "EEEE, d MMMM, y"
      long := "d MMMM, y"
      medium := "d MMM, y"
      short := "d/M/yy" }
  times :=
    { full := "h:mm:ss a zzzz"
      long := "h:mm:ss a z"
      medium := "h:mm:ss a"
      short := "h:mm a" }
  skeletons := "EBh E B h
Ed d E
Gy y G
GyM MM-y G
GyMEd E, dd-MM-y G
GyMMM MMM y G
GyMMMEd E, d MMM, y G
GyMMMd d MMM, y G
GyMd dd-MM-y GGGGG
MEd E, d-M
MMMEd E d MMM
MMMMEd E d MMMM
MMMMW MMMM এর Wয় সপ্তাহ
MMMMd d MMMM
MMMd d MMM
MMdd dd-MM
Md d/M
yM M/y
yMEd E, d/M/y
yMM MM-y
yMMM MMM y
yMMMEd E, d MMM, y
yMMMM MMMM y
yMMMd d MMM, y
yMd d/M/y
yQQQ QQQ y
yQQQQ QQQQ y
yw Y এর wতম সপ্তাহ" :: Conventions.rootSkeletons
  zones :=
    { offset := "GMT \x7b0\x7d"
      place := "\x7b0\x7d সময়"
      unknownRegion := "অজানা অঞ্চল"
      utcLong := "স্থানাংকিত আন্তর্জাতিক সময়" }

/-- Gujarati. -/
def gu : Conventions where
  numbers :=
    { decimal := "#,##,##0.###"
      percent := "#,##,##0%"
      currency := "¤#,##,##0.00"
      scientific := "[#E0]" }
  compact :=
    { short := "other|0\u00a0હજાર|00\u00a0હજાર|0\u00a0લાખ|00\u00a0લાખ|0\u00a0કરોડ|00\u00a0કરોડ|0\u00a0અબજ|00\u00a0અબજ|0\u00a0નિખર્વ|0\u00a0મહાપદ્મ|0\u00a0શંકુ|0\u00a0જલધિ"
      long := "other|0 હજાર|00 હજાર|0 લાખ|00 લાખ|0 કરોડ|00 કરોડ|0 અબજ|00 અબજ|0 નિખર્વ|0 મહાપદ્મ|0 શંકુ|0 જલધિ"
      currency := "other|¤0\u00a0હજાર|¤00\u00a0હજાર|¤0\u00a0લાખ|¤00\u00a0લાખ|¤0\u00a0કરોડ|¤00\u00a0કરોડ|¤0\u00a0અબજ|¤00\u00a0અબજ|¤0\u00a0નિખર્વ|¤0\u00a0મહાપદ્મ|¤0\u00a0શંકુ|¤0\u00a0જલધિ" }
  currencies := "PHP PHP|THB ฿" :: Conventions.rootCurrencies
  plurals := "one i = 0 or n = 1"
  months :=
    { format :=
        { wide := "જાન્યુઆરી|ફેબ્રુઆરી|માર્ચ|એપ્રિલ|મે|જૂન|જુલાઈ|ઑગસ્ટ|સપ્ટેમ્બર|ઑક્ટોબર|નવેમ્બર|ડિસેમ્બર"
          abbreviated := "જાન્યુ|ફેબ્રુ|માર્ચ|એપ્રિલ|મે|જૂન|જુલાઈ|ઑગસ્ટ|સપ્ટે|ઑક્ટો|નવે|ડિસે"
          narrow := "જા|ફે|મા|એ|મે|જૂ|જુ|ઑ|સ|ઑ|ન|ડિ" } }
  weekdays :=
    { format :=
        { wide := "સોમવાર|મંગળવાર|બુધવાર|ગુરુવાર|શુક્રવાર|શનિવાર|રવિવાર"
          abbreviated := "સોમ|મંગળ|બુધ|ગુરુ|શુક્ર|શનિ|રવિ"
          short := "સો|મં|બુ|ગુ|શુ|શ|ર"
          narrow := "સો|મં|બુ|ગુ|શુ|શ|ર" } }
  quarters :=
    { format :=
        { wide := "1લો ત્રિમાસ|2જો ત્રિમાસ|3જો ત્રિમાસ|4થો ત્રિમાસ"
          abbreviated := "Q1|Q2|Q3|Q4"
          narrow := "1|2|3|4" } }
  eras :=
    { wide := "ઈસવીસન પૂર્વે|ઇસવીસન"
      abbreviated := "ઈ.સ.પૂર્વે|ઈ.સ."
      narrow := "ઇ સ પુ|ઇસ" }
  dayPeriods :=
    { format :=
        { wide := "am AM|pm PM|afternoon1 બપોરે|evening1 સાંજે|midnight મધ્યરાત્રિ|morning1 સવારે|night1 રાત્રે"
          narrow := "am AM|pm PM|afternoon1 બપોરે|evening1 સાંજે|midnight મ.રાત્રિ|morning1 સવારે|night1 રાત્રે" }
      standAlone :=
        { wide := "am AM|pm PM|afternoon1 બપોર|evening1 સાંજ|midnight મધ્યરાત્રિ|morning1 સવાર|night1 રાત્રિ"
          abbreviated := "am AM|pm PM|afternoon1 બપોરે|evening1 સાંજે|midnight મધ્યરાત્રિ|morning1 સવારે|night1 રાત્રે"
          narrow := "am AM|pm PM|afternoon1 બપોરે|evening1 સાંજે|midnight મ.રાત્રિ|morning1 સવારે|night1 રાત્રે" } }
  dayPeriodRules := "afternoon1 43200 57600|evening1 57600 72000|midnight 0|morning1 14400 43200|night1 72000 14400"
  dates :=
    { full := "EEEE, d MMMM, y"
      long := "d MMMM, y"
      medium := "d MMM, y"
      short := "d/M/yy" }
  times :=
    { full := "hh:mm:ss a zzzz"
      long := "hh:mm:ss a z"
      medium := "hh:mm:ss a"
      short := "hh:mm a" }
  skeletons := "Ed E d
GyM M/y G
GyMMM MMM, G y
GyMMMEd E, d MMM, G y
GyMMMd d MMM, G y
MEd E, d/M
MMMEd E, d MMM
MMMMW MMMMના W અઠવાડિયા
MMMMd d MMMM
MMMd d MMM
MMdd dd-MM
Md d/M
yM M/y
yMEd E, d/M/y
yMM MM-y
yMMM MMM y
yMMMEd E, d MMM, y
yMMMM MMMM y
yMMMd d MMM, y
yMd d/M/y
yw Y ના w અઠવાડિયા" :: Conventions.rootSkeletons
  zones :=
    { place := "\x7b0\x7d સમય"
      unknownRegion := "અજ્ઞાત પ્રદેશ"
      utcLong := "સંકલિત યુનિવર્સલ સમય" }

/-- Hindi. -/
def hi : Conventions where
  numbers :=
    { decimal := "#,##,##0.###"
      percent := "#,##,##0%"
      currency := "¤#,##,##0.00"
      scientific := "[#E0]" }
  compact :=
    { short := "other|0\u00a0हज़ार|00\u00a0हज़ार|0\u00a0लाख|00\u00a0लाख|0\u00a0क॰|00\u00a0क॰|0\u00a0अ॰|00\u00a0अ॰|0\u00a0ख॰|00\u00a0ख॰|0\u00a0नील|00\u00a0नील"
      long := "other|0 हज़ार|00 हज़ार|0 लाख|00 लाख|0 करोड़|00 करोड़|0 अरब|00 अरब|0 खरब|00 खरब|000 खरब|0000 खरब"
      currency := "other|¤0\u00a0हज़ार|¤00\u00a0हज़ार|¤0\u00a0लाख|¤00\u00a0लाख|¤0\u00a0क॰|¤00\u00a0क॰|¤0\u00a0अ॰|¤00\u00a0अ॰|¤0\u00a0ख॰|¤00\u00a0ख॰|¤0\u00a0नील|¤00\u00a0नील" }
  currencies := "PHP PHP|THB ฿|USD $" :: Conventions.rootCurrencies
  plurals := "one i = 0 or n = 1"
  months :=
    { format :=
        { wide := "जनवरी|फ़रवरी|मार्च|अप्रैल|मई|जून|जुलाई|अगस्त|सितंबर|अक्टूबर|नवंबर|दिसंबर"
          abbreviated := "जन॰|फ़र॰|मार्च|अप्रैल|मई|जून|जुल॰|अग॰|सित॰|अक्टू॰|नव॰|दिस॰"
          narrow := "ज|फ़|मा|अ|म|जू|जु|अ|सि|अ|न|दि" } }
  weekdays :=
    { format :=
        { wide := "सोमवार|मंगलवार|बुधवार|गुरुवार|शुक्रवार|शनिवार|रविवार"
          abbreviated := "सोम|मंगल|बुध|गुरु|शुक्र|शनि|रवि"
          short := "सो|मं|बु|गु|शु|श|र"
          narrow := "सो|मं|बु|गु|शु|श|र" } }
  quarters :=
    { format :=
        { wide := "पहली तिमाही|दूसरी तिमाही|तीसरी तिमाही|चौथी तिमाही"
          abbreviated := "ति1|ति2|ति3|ति4"
          narrow := "1|2|3|4" } }
  eras :=
    { wide := "ईसा-पूर्व|ईसवी सन"
      abbreviated := "ईसा-पूर्व|ईस्वी" }
  dayPeriods :=
    { format :=
        { wide := "am am|pm pm|afternoon1 दोपहर|evening1 शाम|midnight मध्यरात्रि|morning1 सुबह|night1 रात" }
      standAlone :=
        { wide := "am am|pm pm|afternoon1 दोपहर|evening1 शाम|midnight मध्यरात्रि|morning1 सुबह|night1 रात"
          narrow := "am am|pm pm|afternoon1 दोपहर|evening1 शाम|midnight आधी रात|morning1 सुबह|night1 रात" } }
  dayPeriodRules := "afternoon1 43200 57600|evening1 57600 72000|midnight 0|morning1 14400 43200|night1 72000 14400"
  dates :=
    { full := "EEEE, d MMMM y"
      long := "d MMMM y"
      medium := "d MMM y"
      short := "d/M/yy" }
  times :=
    { full := "h:mm:ss a zzzz"
      long := "h:mm:ss a z"
      medium := "h:mm:ss a"
      short := "h:mm a" }
  moments :=
    { full := "\x7b1\x7d, \x7b0\x7d"
      long := "\x7b1\x7d, \x7b0\x7d"
      medium := "\x7b1\x7d, \x7b0\x7d"
      short := "\x7b1\x7d, \x7b0\x7d" }
  skeletons := "Bh B h
Bhm B h:mm
Bhms B h:mm:ss
EBhm E B h:mm
EBhms E B h:mm:ss
Ed E d
Gy y G
GyMMM MMM G y
GyMMMEd E, d MMM y G
GyMMMd d MMM y G
GyMd GGGGG d/M/y
MEd E, d/M
MMMEd E, d MMM
MMMMEd E, d MMMM
MMMMW MMMM का सप्ताह W
MMMMd d MMMM
MMMd d MMM
MMdd dd/MM
Md d/M
yM M/y
yMEd E, d/M/y
yMM MM/y
yMMM MMM y
yMMMEd E, d MMM y
yMMMM MMMM y
yMMMd d MMM y
yMMdd dd/MM/y
yMd d/M/y
yQQQ QQQ y
yQQQQ QQQQ y
yw Y का सप्ताह w" :: Conventions.rootSkeletons
  zones :=
    { place := "\x7b0\x7d समय"
      unknownRegion := "अज्ञात क्षेत्र"
      utcLong := "समन्वित वैश्विक समय" }

/-- Hindi (Latin script). -/
def hiLatn : Conventions where
  numbers :=
    { scientific := "[#E0]" }
  plurals := "one i = 0 or n = 1"
  months :=
    { format :=
        { wide := "M01|M02|M03|M04|M05|M06|M07|M08|M09|M10|M11|M12"
          abbreviated := "Jan|Feb|Mar|Apr|May|Jun|Jul|Aug|Sep|Oct|Nov|Dec"
          narrow := "1|2|3|4|5|6|7|8|9|10|11|12" } }
  weekdays :=
    { format :=
        { wide := "Somwaar|Mangalwaar|Budhwaar|Guruwaar|Shukrawaar|Shaniwaar|Raviwaar"
          abbreviated := "Som|Mangal|Budh|Guru|Shukra|Shani|Ravi"
          short := "So|Ma|Bu|Gu|Shu|Sha|Ra"
          narrow := "So|Ma|Bu|Gu|Sh|Sha|Ra" } }
  dayPeriods :=
    { format :=
        { wide := "am AM|pm PM|afternoon1 dopahar|evening1 shaam|midnight aadhi raat|morning1 subah|night1 raat|noon Madhyanh"
          abbreviated := "am AM|pm PM|afternoon1 dopahar|evening1 shaam|midnight midnight|morning1 subah|night1 raat|noon noon"
          narrow := "am AM|pm PM|afternoon1 dopahar|evening1 shaam|midnight mi|morning1 subah|night1 raat|noon n" } }
  dayPeriodRules := "afternoon1 43200 57600|evening1 57600 72000|midnight 0|morning1 14400 43200|night1 72000 14400|noon 43200"
  dates :=
    { full := "EEEE, d MMMM y"
      long := "d MMMM, y"
      medium := "dd MMM, y"
      short := "dd/MM/y" }
  times :=
    { full := "h:mm:ss\u202fa zzzz"
      long := "h:mm:ss\u202fa z"
      medium := "h:mm:ss\u202fa"
      short := "h:mm\u202fa" }
  moments :=
    { full := "\x7b1\x7d, \x7b0\x7d"
      long := "\x7b1\x7d, \x7b0\x7d" }
  skeletons := "EBh E, B h
Eh E, h\u202fa
GyMMMEEEEd EEEE, d MMM, y G
MMMMW MMMM 'kaa' 'week' W
hv h\u202fa, v
yMMMd d MMM, y
yw Y 'kaa' 'week' w" :: Conventions.rootSkeletons

/-- Kannada. -/
def kn : Conventions where
  numbers :=
    { currency := "¤#,##0.00" }
  compact :=
    { short := "other|0ಸಾ|00ಸಾ|000ಸಾ|0ಮಿ|00ಮಿ|000ಮಿ|0ಬಿ|00ಬಿ|000ಬಿ|0ಟ್ರಿ|00ಟ್ರಿ|000ಟ್ರಿ"
      long := "other|0 ಸಾವಿರ|00 ಸಾವಿರ|000 ಸಾವಿರ|0 ಮಿಲಿಯನ್|00 ಮಿಲಿಯನ್|000 ಮಿಲಿಯನ್|0 ಬಿಲಿಯನ್|00 ಬಿಲಿಯನ್|000 ಬಿಲಿಯನ್|0 ಟ್ರಿಲಿಯನ್\u200c|00 ಟ್ರಿಲಿಯನ್\u200c|000 ಟ್ರಿಲಿಯನ್\u200c"
      currency := "other|¤0ಸಾ|¤00ಸಾ|¤000ಸಾ|¤0ಮಿ|¤00ಮಿ|¤000ಮಿ|¤0ಬಿ|¤00ಬಿ|¤000ಬಿ|¤0ಟ್ರಿ|¤00ಟ್ರಿ|¤000ಟ್ರಿ" }
  currencies := "PHP PHP|THB ฿|USD $" :: Conventions.rootCurrencies
  plurals := "one i = 0 or n = 1"
  months :=
    { format :=
        { wide := "ಜನವರಿ|ಫೆಬ್ರವರಿ|ಮಾರ್ಚ್|ಏಪ್ರಿಲ್|ಮೇ|ಜೂನ್|ಜುಲೈ|ಆಗಸ್ಟ್|ಸೆಪ್ಟೆಂಬರ್|ಅಕ್ಟೋಬರ್|ನವೆಂಬರ್|ಡಿಸೆಂಬರ್"
          abbreviated := "ಜನ|ಫೆಬ್ರ|ಮಾರ್ಚ್|ಏಪ್ರಿ|ಮೇ|ಜೂನ್|ಜುಲೈ|ಆಗ|ಸೆಪ್ಟೆಂ|ಅಕ್ಟೋ|ನವೆಂ|ಡಿಸೆಂ"
          narrow := "ಜ|ಫೆ|ಮಾ|ಏ|ಮೇ|ಜೂ|ಜು|ಆ|ಸೆ|ಅ|ನ|ಡಿ" } }
  weekdays :=
    { format :=
        { wide := "ಸೋಮವಾರ|ಮಂಗಳವಾರ|ಬುಧವಾರ|ಗುರುವಾರ|ಶುಕ್ರವಾರ|ಶನಿವಾರ|ಭಾನುವಾರ"
          abbreviated := "ಸೋಮ|ಮಂಗಳ|ಬುಧ|ಗುರು|ಶುಕ್ರ|ಶನಿ|ಭಾನು"
          narrow := "ಸೋ|ಮಂ|ಬು|ಗು|ಶು|ಶ|ಭಾ" } }
  quarters :=
    { format :=
        { wide := "1ನೇ ತ್ರೈಮಾಸಿಕ|2ನೇ ತ್ರೈಮಾಸಿಕ|3ನೇ ತ್ರೈಮಾಸಿಕ|4ನೇ ತ್ರೈಮಾಸಿಕ"
          abbreviated := "ತ್ರೈ 1|ತ್ರೈ 2|ತ್ರೈ 3|ತ್ರೈ 4"
          narrow := "1|2|3|4" } }
  eras :=
    { wide := "ಕ್ರಿಸ್ತ ಪೂರ್ವ|ಕ್ರಿಸ್ತ ಶಕ"
      abbreviated := "ಕ್ರಿ.ಪೂ|ಕ್ರಿ.ಶ" }
  dayPeriods :=
    { format :=
        { wide := "am AM|pm PM|afternoon1 ಮಧ್ಯಾಹ್ನ|evening1 ಸಂಜೆ|midnight ಮಧ್ಯ ರಾತ್ರಿ|morning1 ಬೆಳಗ್ಗೆ|night1 ರಾತ್ರಿ"
          narrow := "am a|pm p|afternoon1 ಮಧ್ಯಾಹ್ನ|evening1 ಸಂಜೆ|midnight ಮಧ್ಯರಾತ್ರಿ|morning1 ಬೆಳಗ್ಗೆ|night1 ರಾತ್ರಿ" }
      standAlone :=
        { wide := "am AM|pm PM|afternoon1 ಮಧ್ಯಾಹ್ನ|evening1 ಸಂಜೆ|midnight ಮಧ್ಯರಾತ್ರಿ|morning1 ಬೆಳಗ್ಗೆ|night1 ರಾತ್ರಿ"
          narrow := "am a|pm p|afternoon1 ಮಧ್ಯಾಹ್ನ|evening1 ಸಂಜೆ|midnight ಮಧ್ಯರಾತ್ರಿ|morning1 ಬೆಳಗ್ಗೆ|night1 ರಾತ್ರಿ" } }
  dayPeriodRules := "afternoon1 43200 64800|evening1 64800 75600|midnight 0|morning1 21600 43200|night1 75600 21600"
  dates :=
    { full := "EEEE, MMMM d, y"
      long := "MMMM d, y"
      medium := "MMM d, y"
      short := "d/M/yy" }
  times :=
    { full := "hh:mm:ss a zzzz"
      long := "hh:mm:ss a z"
      medium := "hh:mm:ss a"
      short := "hh:mm a" }
  skeletons := "Ed d E
MEd d/M, E
MMMEd E, d MMM
MMMMd d MMMM
MMMd d MMM
MMdd dd-MM
Md d/M
yM M/y
yMEd E, M/d/y
yMM MM-y
yMMM MMM y
yMMMEd E, MMM d, y
yMMMM MMMM y
yMMMd MMM d,y
yMd d/M/y
yQQQ QQQ y
yQQQQ QQQQ y" :: Conventions.rootSkeletons
  zones :=
    { place := "\x7b0\x7d ಸಮಯ"
      unknownRegion := "ಅಜ್ಞಾತ ಪ್ರದೇಶ"
      utcLong := "ಸಂಘಟಿತ ಸಾರ್ವತ್ರಿಕ ಸಮಯ" }

/-- Malayalam. -/
def ml : Conventions where
  numbers :=
    { decimal := "#,##,##0.###"
      currency := "¤#,##0.00" }
  compact :=
    { short := "other|0K|00K|000K|0M|00M|000M|0B|00B|000B|0T|00T|000T"
      long := "other|0 ആയിരം|00 ആയിരം|000 ആയിരം|0 ദശലക്ഷം|00 ദശലക്ഷം|000 ദശലക്ഷം|0 ബില്യൺ|00 ബില്യൺ|000 ബില്യൺ|0 ട്രില്യൺ|00 ട്രില്യൺ|000 ട്രില്യൺ"
      currency := "other|¤0K|¤00K|¤000K|¤0M|¤00M|¤000M|¤0B|¤00B|¤000B|¤0T|¤00T|¤000T" }
  currencies := "JPY ¥|PHP PHP|THB ฿|USD $" :: Conventions.rootCurrencies
  plurals := "one n = 1"
  months :=
    { format :=
        { wide := "ജനുവരി|ഫെബ്രുവരി|മാർച്ച്|ഏപ്രിൽ|മേയ്|ജൂൺ|ജൂലൈ|ഓഗസ്റ്റ്|സെപ്റ്റംബർ|ഒക്\u200cടോബർ|നവംബർ|ഡിസംബർ"
          abbreviated := "ജനു|ഫെബ്രു|മാർ|ഏപ്രി|മേയ്|ജൂൺ|ജൂലൈ|ഓഗ|സെപ്റ്റം|ഒക്ടോ|നവം|ഡിസം"
          narrow := "ജ|ഫെ|മാ|ഏ|മെ|ജൂൺ|ജൂ|ഓ|സെ|ഒ|ന|ഡി" } }
  weekdays :=
    { format :=
        { wide := "തിങ്കളാഴ്\u200cച|ചൊവ്വാഴ്ച|ബുധനാഴ്\u200cച|വ്യാഴാഴ്\u200cച|വെള്ളിയാഴ്\u200cച|ശനിയാഴ്\u200cച|ഞായറാഴ്\u200cച"
          abbreviated := "തിങ്കൾ|ചൊവ്വ|ബുധൻ|വ്യാഴം|വെള്ളി|ശനി|ഞായർ"
          short := "തി|ചൊ|ബു|വ്യാ|വെ|ശ|ഞാ"
          narrow := "തി|ചൊ|ബു|വ്യാ|വെ|ശ|ഞ" }
      standAlone :=
        { wide := "തിങ്കളാഴ്\u200cച|ചൊവ്വാഴ്\u200cച|ബുധനാഴ്\u200cച|വ്യാഴാഴ്\u200cച|വെള്ളിയാഴ്\u200cച|ശനിയാഴ്\u200cച|ഞായറാഴ്\u200cച"
          abbreviated := "തിങ്കൾ|ചൊവ്വ|ബുധൻ|വ്യാഴം|വെള്ളി|ശനി|ഞായർ"
          short := "തി|ചൊ|ബു|വ്യാ|വെ|ശ|ഞാ"
          narrow := "തി|ചൊ|ബു|വ്യാ|വെ|ശ|ഞാ" } }
  quarters :=
    { format :=
        { wide := "ഒന്നാം പാദം|രണ്ടാം പാദം|മൂന്നാം പാദം|നാലാം പാദം"
          narrow := "1|2|3|4" } }
  eras :=
    { wide := "ക്രിസ്\u200cതുവിന് മുമ്പ്|ആന്നോ ഡൊമിനി"
      abbreviated := "ബിസി|എഡി" }
  dayPeriods :=
    { format :=
        { wide := "am AM|pm PM|afternoon1 ഉച്ചയ്ക്ക്|afternoon2 ഉച്ചതിരിഞ്ഞ്|evening1 വൈകുന്നേരം|evening2 സന്ധ്യ|midnight അർദ്ധരാത്രി|morning1 പുലർച്ചെ|morning2 രാവിലെ|night1 രാത്രി|noon ഉച്ച"
          narrow := "am AM|pm PM|afternoon1 ഉച്ചയ്ക്ക്|afternoon2 ഉച്ചതിരിഞ്ഞ്|evening1 വൈകുന്നേരം|evening2 സന്ധ്യ|midnight അ|morning1 പുലർച്ചെ|morning2 രാവിലെ|night1 രാത്രി|noon ഉച്ച" } }
  dayPeriodRules := "afternoon1 43200 50400|afternoon2 50400 54000|evening1 54000 64800|evening2 64800 68400|midnight 0|morning1 10800 21600|morning2 21600 43200|night1 68400 10800|noon 43200"
  dates :=
    { short := "d/M/yy" }
  times :=
    { full := "zzzz h:mm:ss a"
      long := "z h:mm:ss a"
      medium := "h:mm:ss a"
      short := "h:mm a" }
  moments :=
    { full := "\x7b1\x7d, \x7b0\x7d"
      long := "\x7b1\x7d, \x7b0\x7d"
      medium := "\x7b1\x7d, \x7b0\x7d"
      short := "\x7b1\x7d, \x7b0\x7d" }
  skeletons := "Bh B h
Bhm B h:mm
Bhms B h:mm:ss
EBhm E, B h:mm
EBhms E, B h:mm:ss
Eh E, h\u202fa
GyM G y/M
GyMEd G d/M/y, E
GyMd G y/M/d
Hmsv v HH:mm:ss
Hmv v HH:mm
Hv v HH'h'
MEd d/M, E
MMMMEd MMMM d, E
MMMMW MMMM - ആഴ്ച W
MMdd dd/MM
Md d/M
hmsv v h:mm:ss a
hmv v h:mm a
hv v h\u202fa
yM M/y
yMEd d/M/y, E
yMM MM/y
yMd d/M/y
yw Y-ലെ ആഴ്ച w" :: Conventions.rootSkeletons
  zones :=
    { offset := "ജിഎംടി\x7b0\x7d"
      place := "\x7b0\x7d സമയം"
      unknownRegion := "അജ്ഞാത പ്രദേശം"
      utcLong := "കോർഡിനേറ്റഡ് യൂണിവേഴ്\u200cസൽ സമയം" }

/-- Marathi. -/
def mr : Conventions where
  numbers :=
    { decimal := "#,##,##0.###"
      currency := "¤#,##0.00"
      scientific := "[#E0]" }
  compact :=
    { short := "other|0\u00a0ह|00\u00a0ह|0\u00a0लाख|00\u00a0लाख|0\u00a0कोटी|00\u00a0कोटी|0\u00a0अब्ज|00\u00a0अब्ज|0\u00a0खर्व|00\u00a0खर्व|0\u00a0पद्म|00\u00a0पद्म"
      long := "other|0 हजार|00 हजार|0 लाख|00 लाख|0 कोटी|00 कोटी|0 अब्ज|00 अब्ज|0 खर्व|00 खर्व|0 पद्म|00 पद्म"
      currency := "other|¤0\u00a0ह|¤00\u00a0ह|¤0\u00a0लाख|¤00\u00a0लाख|¤0\u00a0कोटी|¤00\u00a0कोटी|¤0\u00a0अब्ज|¤00\u00a0अब्ज|¤0\u00a0खर्व|¤00\u00a0खर्व|¤0\u00a0पद्म|¤00\u00a0पद्म" }
  currencies := "PHP PHP|THB ฿|USD $" :: Conventions.rootCurrencies
  plurals := "one n = 1"
  months :=
    { format :=
        { wide := "जानेवारी|फेब्रुवारी|मार्च|एप्रिल|मे|जून|जुलै|ऑगस्ट|सप्टेंबर|ऑक्टोबर|नोव्हेंबर|डिसेंबर"
          abbreviated := "जाने|फेब्रु|मार्च|एप्रि|मे|जून|जुलै|ऑग|सप्टें|ऑक्टो|नोव्हें|डिसें"
          narrow := "जा|फे|मा|ए|मे|जू|जु|ऑ|स|ऑ|नो|डि" } }
  weekdays :=
    { format :=
        { wide := "सोमवार|मंगळवार|बुधवार|गुरुवार|शुक्रवार|शनिवार|रविवार"
          abbreviated := "सोम|मंगळ|बुध|गुरु|शुक्र|शनि|रवि"
          short := "सो|मं|बु|गु|शु|श|र"
          narrow := "सो|मं|बु|गु|शु|श|र" } }
  quarters :=
    { format :=
        { wide := "प्रथम तिमाही|द्वितीय तिमाही|तृतीय तिमाही|चतुर्थ तिमाही"
          abbreviated := "ति१|ति२|ति३|ति४"
          narrow := "१|२|३|४" } }
  eras :=
    { wide := "ईसवीसनपूर्व|ईसवीसन"
      abbreviated := "ई. स. पू.|इ. स." }
  dayPeriods :=
    { format :=
        { wide := "am AM|pm PM|afternoon1 दुपार|evening1 संध्याकाळ|midnight मध्यरात्र|morning1 पहाट|morning2 सकाळ|night1 रात्र|noon मध्यान्ह"
          narrow := "am a|pm p|afternoon1 दु|evening1 सं|midnight म.रा.|morning1 प|morning2 स|night1 रा|noon दु" }
      standAlone :=
        { wide := "am AM|pm PM|afternoon1 दुपार|evening1 संध्याकाळ|midnight मध्यरात्र|morning1 पहाट|morning2 सकाळ|night1 रात्र|noon मध्यान्ह"
          narrow := "am a|pm p|afternoon1 दु|evening1 सं|midnight म.रा.|morning1 प|morning2 स|night1 रात्र|noon म" } }
  dayPeriodRules := "afternoon1 43200 57600|evening1 57600 75600|midnight 0|morning1 14400 21600|morning2 21600 43200|night1 75600 14400|noon 43200"
  dates :=
    { full := "EEEE, d MMMM, y"
      long := "d MMMM, y"
      medium := "d MMM, y"
      short := "d/M/yy" }
  times :=
    { full := "h:mm:ss a zzzz"
      long := "h:mm:ss a z"
      medium := "h:mm:ss a"
      short := "h:mm a" }
  moments :=
    { full := "\x7b1\x7d, \x7b0\x7d"
      long := "\x7b1\x7d, \x7b0\x7d"
      medium := "\x7b1\x7d, \x7b0\x7d"
      short := "\x7b1\x7d, \x7b0\x7d" }
  skeletons := "Bh B h
Bhm B h:mm
Bhms B h:mm:ss
EBhm E B h:mm
EBhms E B h:mm:ss
Ed d E
GyMMM MMM G y
GyMMMEd E, d MMM, G y
GyMMMd d MMM, G y
GyMd GGGGG d/M/y
Hm H:mm
Hms H:mm:ss
MEd E, d/M
MMMEd E, d MMM
MMMMW MMMM चा W रा आठवडा
MMMMd d MMMM
MMMd d MMM
MMdd dd-MM
Md d/M
yM M/y
yMEd E, d/M/y
yMM MM-y
yMMM MMM y
yMMMEd E, d, MMM y
yMMMM MMMM y
yMMMd d MMM, y
yMd d/M/y
yQQQ QQQ y
yQQQQ QQQQ y
yw Y चा w वा आठवडा" :: Conventions.rootSkeletons
  zones :=
    { offset := "[GMT]\x7b0\x7d"
      place := "\x7b0\x7d वेळ"
      unknownRegion := "अज्ञात प्रदेश"
      utcLong := "समन्वित वैश्विक वेळ" }

/-- Punjabi. -/
def pa : Conventions where
  numbers :=
    { decimal := "#,##,##0.###"
      percent := "#,##,##0%"
      currency := "¤#,##,##0.00"
      scientific := "[#E0]" }
  compact :=
    { short := "other|0\u00a0ਹਜ਼ਾਰ|00\u00a0ਹਜ਼ਾਰ|0\u00a0ਲੱਖ|00\u00a0ਲੱਖ|0\u00a0ਕਰੋੜ|00\u00a0ਕਰੋੜ|0\u00a0ਅਰਬ|00\u00a0ਅਰਬ|0\u00a0ਖਰਬ|00\u00a0ਖਰਬ|0\u00a0ਨੀਲ|00\u00a0ਨੀਲ"
      long := "other|0 ਹਜ਼ਾਰ|00 ਹਜ਼ਾਰ|0 ਲੱਖ|00 ਲੱਖ|0 ਕਰੋੜ|00 ਕਰੋੜ|0 ਅਰਬ|00 ਅਰਬ|0 ਖਰਬ|00 ਖਰਬ|0 ਨੀਲ|00 ਨੀਲ"
      currency := "other|¤0\u00a0ਹਜ਼ਾਰ|¤00\u00a0ਹਜ਼ਾਰ|¤0\u00a0ਲੱਖ|¤00\u00a0ਲੱਖ|¤0\u00a0ਕਰੋੜ|¤00\u00a0ਕਰੋੜ|¤0\u00a0ਅਰਬ|¤00\u00a0ਅਰਬ|¤0\u00a0ਖਰਬ|¤00\u00a0ਖਰਬ|¤0\u00a0ਨੀਲ|¤00\u00a0ਨੀਲ" }
  currencies := "PHP PHP|THB ฿|XXX XXX" :: Conventions.rootCurrencies
  plurals := "one n = 0..1"
  months :=
    { format :=
        { wide := "ਜਨਵਰੀ|ਫ਼ਰਵਰੀ|ਮਾਰਚ|ਅਪ੍ਰੈਲ|ਮਈ|ਜੂਨ|ਜੁਲਾਈ|ਅਗਸਤ|ਸਤੰਬਰ|ਅਕਤੂਬਰ|ਨਵੰਬਰ|ਦਸੰਬਰ"
          abbreviated := "ਜਨ|ਫ਼ਰ|ਮਾਰਚ|ਅਪ੍ਰੈ|ਮਈ|ਜੂਨ|ਜੁਲਾ|ਅਗ|ਸਤੰ|ਅਕਤੂ|ਨਵੰ|ਦਸੰ"
          narrow := "ਜ|ਫ਼|ਮਾ|ਅ|ਮ|ਜੂ|ਜੁ|ਅ|ਸ|ਅ|ਨ|ਦ" } }
  weekdays :=
    { format :=
        { wide := "ਸੋਮਵਾਰ|ਮੰਗਲਵਾਰ|ਬੁੱਧਵਾਰ|ਵੀਰਵਾਰ|ਸ਼ੁੱਕਰਵਾਰ|ਸ਼ਨੀਵਾਰ|ਐਤਵਾਰ"
          abbreviated := "ਸੋਮ|ਮੰਗਲ|ਬੁੱਧ|ਵੀਰ|ਸ਼ੁੱਕਰ|ਸ਼ਨੀ|ਐਤ"
          short := "ਸੋਮ|ਮੰਗ|ਬੁੱਧ|ਵੀਰ|ਸ਼ੁੱਕ|ਸ਼ਨੀ|ਐਤ"
          narrow := "ਸੋ|ਮੰ|ਬੁੱ|ਵੀ|ਸ਼ੁੱ|ਸ਼|ਐ" } }
  quarters :=
    { format :=
        { wide := "ਪਹਿਲੀ ਤਿਮਾਹੀ|ਦੂਜੀ ਤਿਮਾਹੀ|ਤੀਜੀ ਤਿਮਾਹੀ|ਚੌਥੀ ਤਿਮਾਹੀ"
          abbreviated := "ਤਿਮਾਹੀ1|ਤਿਮਾਹੀ2|ਤਿਮਾਹੀ3|ਤਿਮਾਹੀ4"
          narrow := "1|2|3|4" } }
  eras :=
    { wide := "ਈਸਵੀ ਪੂਰਵ|ਈਸਵੀ ਸੰਨ"
      abbreviated := "ਈ. ਪੂ.|ਸੰਨ"
      narrow := "ਈ.ਪੂ.|ਸੰਨ" }
  dayPeriods :=
    { format :=
        { wide := "am AM|pm PM|afternoon1 ਦੁਪਹਿਰੇ|evening1 ਸ਼ਾਮੀਂ|midnight ਅੱਧੀ ਰਾਤ|morning1 ਸਵੇਰੇ|night1 ਰਾਤੀਂ" }
      standAlone :=
        { wide := "am AM|pm PM|afternoon1 ਦੁਪਹਿਰੇ|evening1 ਸ਼ਾਮ|midnight ਅੱਧੀ ਰਾਤ|morning1 ਸਵੇਰੇ|night1 ਰਾਤ"
          abbreviated := "am AM|pm PM|afternoon1 ਦੁਪਹਿਰੇ|evening1 ਸ਼ਾਮੀਂ|midnight ਅੱਧੀ ਰਾਤ|morning1 ਸਵੇਰੇ|night1 ਰਾਤੀਂ" } }
  dayPeriodRules := "afternoon1 43200 57600|evening1 57600 75600|midnight 0|morning1 14400 43200|night1 75600 14400"
  dates :=
    { full := "EEEE, d MMMM y"
      long := "d MMMM y"
      medium := "d MMM y"
      short := "d/M/yy" }
  times :=
    { full := "h:mm:ss a zzzz"
      long := "h:mm:ss a z"
      medium := "h:mm:ss a"
      short := "h:mm a" }
  moments :=
    { medium := "\x7b1\x7d, \x7b0\x7d"
      short := "\x7b1\x7d, \x7b0\x7d" }
  skeletons := "Bh B h
Bhm B h:mm
Bhms B h:mm:ss
EBh E B h
EBhm E B h:mm
EBhms E B h:mm:ss
GyM G M/y
GyMEd E, d/M/y G
GyMMM MMM, G y
GyMMMEd E d MMM, G y
GyMMMd d MMM, G y
GyMd d/M/GGGGG y
MEd E, dd-MM.
MMMEd E, d MMM
MMMMW MMMM ਦਾ W ਹਫ਼ਤਾ
MMMd d MMM
Md d/M
mmss mm:ss
yM M/y
yMEd E, d/M/y
yMMM MMM y
yMMMEd E, d MMM y
yMMMM MMMM y
yMMMd d MMM y
yMd d/M/y
yQQQ QQQ y
yQQQQ QQQQ y
yw Y ਦਾ w ਹਫ਼ਤਾ" :: Conventions.rootSkeletons
  zones :=
    { place := "\x7b0\x7d ਵੇਲਾ"
      unknownRegion := "ਅਣਪਛਾਤਾ ਇਲਾਕਾ"
      utcLong := "ਕੋਔਰਡੀਨੇਟੇਡ ਵਿਆਪਕ ਵੇਲਾ" }

/-- Punjabi (Arabic script). -/
def paArab : Conventions where
  symbols :=
    { plus := "\u200e+"
      minus := "\u200e-" }
  currencies := "PKR ر" :: Conventions.rootCurrencies
  plurals := "one n = 0..1"
  months :=
    { format :=
        { wide := "جنوری|فروری|مارچ|اپریل|مئ|جون|جولائی|اگست|ستمبر|اکتوبر|نومبر|دسمبر"
          narrow := "1|2|3|4|5|6|7|8|9|10|11|12" } }
  weekdays :=
    { format :=
        { wide := "پیر|منگل|بُدھ|جمعرات|جمعہ|ہفتہ|اتوار"
          narrow := "M|T|W|T|F|S|S" } }
  quarters :=
    { format :=
        { wide := "چوتھاي پہلاں|چوتھاي دوجا|چوتھاي تيجا|چوتھاي چوتھا"
          narrow := "1|2|3|4" } }
  eras :=
    { wide := "ايساپورو|سں" }
  dayPeriodRules := "afternoon1 43200 57600|evening1 57600 75600|midnight 0|morning1 14400 43200|night1 75600 14400"
  dates :=
    { full := "EEEE, dd MMMM y"
      long := "d MMMM y"
      medium := "d MMM y"
      short := "dd/MM/y" }
  times :=
    { full := "h:mm:ss a zzzz"
      long := "h:mm:ss a z"
      medium := "h:mm:ss a"
      short := "h:mm a" }
  skeletons := "HHmmss HH:mm:ss
Md d/M
mmss mm:ss
yMMM MMM y
yQQQ QQQ y" :: Conventions.rootSkeletons

/-- Tamil. -/
def ta : Conventions where
  numbers :=
    { decimal := "#,##,##0.###"
      percent := "#,##,##0%"
      currency := "¤#,##,##0.00" }
  compact :=
    { short := "other|0ஆ|00ஆ|000ஆ|0மி|00மி|000மி|0பி|00பி|000பி|0டி|00டி|000டி"
      long := "other|0 ஆயிரம்|00 ஆயிரம்|000 ஆயிரம்|0 மில்லியன்|00 மில்லியன்|000 மில்லியன்|0 பில்லியன்|00 பில்லியன்|000 பில்லியன்|0 டிரில்லியன்|00 டிரில்லியன்|000 டிரில்லியன்"
      currency := "other|¤0ஆ|¤00ஆ|¤000ஆ|¤0மி|¤00மி|¤000மி|¤0பி|¤00பி|¤000பி|¤0டி|¤00டி|¤000டி" }
  currencies := "JPY ¥|PHP PHP|THB ฿|USD $" :: Conventions.rootCurrencies
  plurals := "one n = 1"
  months :=
    { format :=
        { wide := "ஜனவரி|பிப்ரவரி|மார்ச்|ஏப்ரல்|மே|ஜூன்|ஜூலை|ஆகஸ்ட்|செப்டம்பர்|அக்டோபர்|நவம்பர்|டிசம்பர்"
          abbreviated := "ஜன.|பிப்.|மார்.|ஏப்.|மே|ஜூன்|ஜூலை|ஆக.|செப்.|அக்.|நவ.|டிச."
          narrow := "ஜ|பி|மா|ஏ|மே|ஜூ|ஜூ|ஆ|செ|அ|ந|டி" } }
  weekdays :=
    { format :=
        { wide := "திங்கள்|செவ்வாய்|புதன்|வியாழன்|வெள்ளி|சனி|ஞாயிறு"
          abbreviated := "திங்.|செவ்.|புத.|வியா.|வெள்.|சனி|ஞாயி."
          short := "தி|செ|பு|வி|வெ|ச|ஞா"
          narrow := "தி|செ|பு|வி|வெ|ச|ஞா" } }
  quarters :=
    { format :=
        { wide := "முதல் காலாண்டு|இரண்டாம் காலாண்டு|மூன்றாம் காலாண்டு|நான்காம் காலாண்டு"
          abbreviated := "கா.1|கா.2|கா.3|கா.4"
          narrow := "1|2|3|4" } }
  eras :=
    { wide := "கிறிஸ்துவுக்கு முன்|அன்னோ டோமினி"
      abbreviated := "கி.மு.|கி.பி." }
  dayPeriods :=
    { format :=
        { wide := "am AM|pm PM|afternoon1 மதியம்|afternoon2 பிற்பகல்|evening1 மாலை|evening2 அந்தி மாலை|midnight நள்ளிரவு|morning1 அதிகாலை|morning2 காலை|night1 இரவு|noon நண்பகல்"
          narrow := "am AM|pm PM|afternoon1 மதி.|afternoon2 பிற்.|evening1 மா.|evening2 அந்தி மா.|midnight நள்.|morning1 காலை|morning2 கா.|night1 இர.|noon நண்." }
      standAlone :=
        { wide := "am AM|pm PM|afternoon1 மதியம்|afternoon2 பிற்பகல்|evening1 மாலை|evening2 அந்தி மாலை|midnight நள்ளிரவு|morning1 அதிகாலை|morning2 காலை|night1 இரவு|noon நண்பகல்"
          narrow := "am AM|pm PM|afternoon1 மதி.|afternoon2 பிற்.|evening1 மா.|evening2 அந்தி மா.|midnight நள்.|morning1 அதி.|morning2 கா.|night1 இ.|noon நண்." } }
  dayPeriodRules := "afternoon1 43200 50400|afternoon2 50400 57600|evening1 57600 64800|evening2 64800 75600|midnight 0|morning1 10800 18000|morning2 18000 43200|night1 75600 10800|noon 43200"
  dates :=
    { full := "EEEE, d MMMM, y"
      long := "d MMMM, y"
      medium := "d MMM, y"
      short := "d/M/yy" }
  times :=
    { full := "h:mm:ss a zzzz"
      long := "h:mm:ss a z"
      medium := "h:mm:ss a"
      short := "h:mm a" }
  moments :=
    { full := "\x7b1\x7d, \x7b0\x7d"
      long := "\x7b1\x7d, \x7b0\x7d"
      medium := "\x7b1\x7d, \x7b0\x7d"
      short := "\x7b1\x7d, \x7b0\x7d" }
  skeletons := "Bh B h
Bhm B h:mm
Bhms B h:mm:ss
EBhm E B h:mm
EBhms E B h:mm:ss
Ed d E
GyMd d/M/y G
MEd dd-MM, E
MMMMW MMMM W -ஆம் வாரம்
MMMMd d MMMM
MMdd dd-MM
Md d/M
yM M/y
yMEd E, d/M/y
yMM MM-y
yMMM MMM y
yMMMEd E, d MMM, y
yMMMM MMMM y
yMMMd d MMM, y
yMd d/M/y
yQQQ QQQ y
yQQQQ QQQQ y
yw Y ஆம் ஆண்டின் w -ஆம் வாரம்" :: Conventions.rootSkeletons
  zones :=
    { place := "\x7b0\x7d நேரம்"
      unknownRegion := "அறியப்படாத பிரதேசம்"
      utcLong := "ஒருங்கிணைந்த சர்வதேச நேரம்" }

/-- Telugu. -/
def te : Conventions where
  numbers :=
    { decimal := "#,##,##0.###"
      currency := "¤#,##,##0.00" }
  compact :=
    { short := "other|0వే|00వే|000వే|0మి|00మి|000మి|0బి|00బి|000బి|0ట్రి|00ట్రి|000ట్రి"
      long := "other|0 వేలు|00 వేలు|000 వేలు|0 మిలియన్లు|00 మిలియన్లు|000 మిలియన్లు|0 బిలియన్లు|00 బిలియన్లు|000 బిలియన్లు|0 ట్రిలియన్లు|00 ట్రిలియన్లు|000 ట్రిలియన్లు
one|0 వేయి|00 వేలు|000 వేలు|0 మిలియన్|00 మిలియన్లు|000 మిలియన్లు|0 బిలియన్|00 బిలియన్లు|000 బిలియన్లు|0 ట్రిలియన్|00 ట్రిలియన్లు|000 ట్రిలియన్లు"
      currency := "other|¤0వే|¤00వే|¤000వే|¤0మి|¤00మి|¤000మి|¤0బి|¤00బి|¤000బి|¤0ట్రి|¤00ట్రి|¤000ట్రి" }
  currencies := "PHP PHP|THB ฿|USD $" :: Conventions.rootCurrencies
  plurals := "one n = 1"
  months :=
    { format :=
        { wide := "జనవరి|ఫిబ్రవరి|మార్చి|ఏప్రిల్|మే|జూన్|జులై|ఆగస్టు|సెప్టెంబర్|అక్టోబర్|నవంబర్|డిసెంబర్"
          abbreviated := "జన|ఫిబ్ర|మార్చి|ఏప్రి|మే|జూన్|జులై|ఆగ|సెప్టెం|అక్టో|నవం|డిసెం"
          narrow := "జ|ఫి|మా|ఏ|మే|జూ|జు|ఆ|సె|అ|న|డి" } }
  weekdays :=
    { format :=
        { wide := "సోమవారం|మంగళవారం|బుధవారం|గురువారం|శుక్రవారం|శనివారం|ఆదివారం"
          abbreviated := "సోమ|మంగళ|బుధ|గురు|శుక్ర|శని|ఆది"
          short := "సోమ|మం|బుధ|గురు|శుక్ర|శని|ఆది"
          narrow := "సో|మ|బు|గు|శు|శ|ఆ" } }
  quarters :=
    { format :=
        { wide := "1వ త్రైమాసికం|2వ త్రైమాసికం|3వ త్రైమాసికం|4వ త్రైమాసికం"
          abbreviated := "త్రై1|త్రై2|త్రై3|త్రై4"
          narrow := "1|2|3|4" } }
  eras :=
    { wide := "క్రీస్తు పూర్వం|క్రీస్తు శకం"
      abbreviated := "క్రీపూ|క్రీశ" }
  dayPeriods :=
    { format :=
        { wide := "am AM|pm PM|afternoon1 మధ్యాహ్నం|evening1 సాయంత్రం|midnight అర్ధరాత్రి|morning1 ఉదయం|night1 రాత్రి" } }
  dayPeriodRules := "afternoon1 43200 64800|evening1 64800 75600|midnight 0|morning1 21600 43200|night1 75600 21600"
  dates :=
    { full := "d, MMMM y, EEEE"
      long := "d MMMM, y"
      medium := "d MMM, y"
      short := "dd-MM-yy" }
  times :=
    { full := "h:mm:ss a zzzz"
      long := "h:mm:ss a z"
      medium := "h:mm:ss a"
      short := "h:mm a" }
  skeletons := "EBh E B h
GyM G M/y
GyMEd G d/M/y, E
GyMMM G MMM y
GyMMMEd G, d MMM, y, E
GyMMMd G d, MMM y
MEd d/M, E
MMMEd d MMM, E
MMMMW MMMMలో Wవ వారం
MMMMd d MMMM
MMMd d MMM
MMdd dd-MM
Md d/M
yM M/y
yMEd d/M/y, E
yMM MM-y
yMMM MMM y
yMMMEd d MMM, y, E
yMMMM MMMM y
yMMMd d, MMM y
yMd d/M/y
yQQQ QQQ y
yQQQQ QQQQ y
yw Yలో wవ వారం" :: Conventions.rootSkeletons
  zones :=
    { place := "\x7b0\x7d సమయం"
      unknownRegion := "తెలియని ప్రాంతం"
      utcLong := "సమన్వయ సార్వజనీన సమయం" }

/-- Urdu. -/
def ur : Conventions where
  symbols :=
    { plus := "\u200e+"
      minus := "\u200e-" }
  numbers :=
    { currency := "¤#,##0.00" }
  compact :=
    { short := "other|0\u00a0ہزار|00\u00a0ہزار|0\u00a0لاکھ|00\u00a0لاکھ|0\u00a0کروڑ|00\u00a0کروڑ|0\u00a0ارب|00\u00a0ارب|0\u00a0کھرب|00\u00a0کھرب|00\u00a0ٹریلین|000\u00a0ٹریلین"
      long := "other|0 ہزار|00 ہزار|0 لاکھ|00 لاکھ|0 کروڑ|00 کروڑ|0 ارب|00 ارب|0 کھرب|00 کھرب|00 ٹریلین|000 ٹریلین"
      currency := "other|¤0\u00a0ہزار|¤00\u00a0ہزار|¤0\u00a0لاکھ|¤00\u00a0لاکھ|¤0\u00a0کروڑ|¤00\u00a0کروڑ|¤0\u00a0ارب|¤00\u00a0ارب|¤0\u00a0کھرب|¤00\u00a0کھرب|¤00\u00a0ٹریلین|¤000\u00a0ٹریلین" }
  currencies := "PHP PHP|PKR Rs|THB ฿|USD $" :: Conventions.rootCurrencies
  plurals := "one i = 1 and v = 0"
  months :=
    { format :=
        { wide := "جنوری|فروری|مارچ|اپریل|مئی|جون|جولائی|اگست|ستمبر|اکتوبر|نومبر|دسمبر"
          narrow := "J|F|M|A|M|J|J|A|S|O|N|D" } }
  weekdays :=
    { format :=
        { wide := "پیر|منگل|بدھ|جمعرات|جمعہ|ہفتہ|اتوار"
          narrow := "M|T|W|T|F|S|S" } }
  quarters :=
    { format :=
        { wide := "پہلی سہ ماہی|دوسری سہ ماہی|تیسری سہ ماہی|چوتهی سہ ماہی"
          narrow := "1|2|3|4" } }
  eras :=
    { wide := "قبل مسیح|عیسوی" }
  dayPeriods :=
    { format :=
        { wide := "am AM|pm PM|afternoon1 دوپہر میں|afternoon2 سہ پہر|evening1 شام میں|midnight آدھی رات|morning1 صبح میں|night1 رات میں"
          abbreviated := "am AM|pm PM|afternoon1 دوپہر|afternoon2 سہ پہر|evening1 شام|midnight آدھی رات|morning1 صبح|night1 رات"
          narrow := "am a|pm p|afternoon1 دوپہر|afternoon2 سہ پہر|evening1 شام|midnight نصف شب|morning1 صبح|night1 رات" } }
  dayPeriodRules := "afternoon1 43200 57600|afternoon2 57600 64800|evening1 64800 72000|midnight 0|morning1 14400 43200|night1 72000 14400"
  dates :=
    { full := "EEEE، d MMMM، y"
      long := "d MMMM، y"
      medium := "d MMM، y"
      short := "d/M/yy" }
  times :=
    { full := "h:mm:ss a zzzz"
      long := "h:mm:ss a z"
      medium := "h:mm:ss a"
      short := "h:mm a" }
  skeletons := "Ed d E
Gy y G
GyM M/y G
GyMEd E، d/M/y G
GyMMM MMM y G
GyMMMEd E، d MMM، y G
GyMMMd d MMM، y G
GyMd d/M/y GGGGG
MEd E، d/M
MMMEd E، d MMM
MMMMW MMMM کا ہفتہ W
MMMMd d MMMM
MMMd d MMM
Md d/M
yM M/y
yMEd E، d/M/y
yMMM MMM y
yMMMEd E، d MMM، y
yMMMM MMMM y
yMMMd d MMM، y
yMd d/M/y
yQQQ QQQ y
yQQQQ QQQQ y
yw Y کا w ہفتہ" :: Conventions.rootSkeletons
  zones :=
    { offset := "GMT \x7b0\x7d"
      place := "\x7b0\x7d وقت"
      unknownRegion := "نامعلوم علاقہ"
      utcLong := "کوآرڈینیٹڈ یونیورسل ٹائم" }

/-- Bangla (India). -/
def bnIN : Conventions :=
  { bn with
    numbers :=
      { bn.numbers with
        currency := "¤#,##,##0.00" }
    currencies := "USD $" :: bn.currencies
    months :=
      { format :=
          { wide := "জানুয়ারি|ফেব্রুয়ারি|মার্চ|এপ্রিল|মে|জুন|জুলাই|আগস্ট|সেপ্টেম্বর|অক্টোবর|নভেম্বর|ডিসেম্বর"
            abbreviated := "জানু|ফেব|মার্চ|এপ্রি|মে|জুন|জুল|আগ|সেপ্টেঃ|অক্টোঃ|নভেঃ|ডিসেঃ"
            narrow := "জা|ফে|মা|এ|মে|জুন|জুল|আ|সে|অ|ন|ডি" }
        standAlone :=
          { wide := "জানুয়ারি|ফেব্রুয়ারি|মার্চ|এপ্রিল|মে|জুন|জুলাই|আগস্ট|সেপ্টেম্বর|অক্টোবর|নভেম্বর|ডিসেম্বর"
            abbreviated := "জানু|ফেব|মার্চ|এপ্রিল|মে|জুন|জুলাই|আগস্ট|সেপ্টেঃ|অক্টোঃ|নভেঃ|ডিসেঃ"
            narrow := "জা|ফে|মা|এ|মে|জুন|জুল|আ|সে|অ|ন|ডি" } }
    weekdays :=
      { bn.weekdays with
        format :=
          { bn.weekdays.format with
            short := "সোঃ|মঃ|বুঃ|বৃঃ|শুঃ|শঃ|রঃ" }
        standAlone :=
          { bn.weekdays.standAlone with
            short := "সোঃ|মঃ|বুঃ|বৃঃ|শুঃ|শঃ|রঃ" } }
    eras :=
      { wide := "খ্রিঃপূঃ|খ্রিষ্টাব্দ"
        abbreviated := "খ্রিঃপূঃ|খ্রিঃ" }
    dayPeriods :=
      { bn.dayPeriods with
        format :=
          { bn.dayPeriods.format with
            wide := "am AM|pm PM|afternoon1 দুপুরবেলায়|afternoon2 বিকাল|evening1 সন্ধ্যাবেলায়|morning1 ভোরবেলায়|morning2 সকালবেলায়|night1 রাত্রি" }
        standAlone :=
          { bn.dayPeriods.standAlone with
            wide := "am AM|pm PM|afternoon1 দুপুরবেলায়|afternoon2 বিকাল|evening1 সন্ধ্যাবেলায়|morning1 ভোরবেলায়|morning2 সকালবেলায়|night1 রাত্রি" } }
    skeletons := "MMMMW MMMM এর W নম্বর সপ্তাহ" :: bn.skeletons }

/-- Hindi (Latin script, India). -/
def hiLatnIN : Conventions :=
  { hiLatn with
    dayPeriodRules := "afternoon1 43200 57600|evening1 57600 72000|midnight 0|morning1 14400 43200|night1 72000 14400" }

/-- Tamil (Sri Lanka). -/
def taLK : Conventions :=
  { ta with
    currencies := "LKR Rs." :: ta.currencies
    times :=
      { ta.times with
        full := "HH:mm:ss zzzz"
        long := "HH:mm:ss z"
        medium := "HH:mm:ss"
        short := "HH:mm" } }

/-- Tamil (Malaysia). -/
def taMY : Conventions :=
  { ta with
    numbers :=
      { ta.numbers with
        decimal := "#,##0.###"
        percent := "#,##0%"
        currency := "¤\u00a0#,##0.00" }
    currencies := "MYR RM|SGD S$" :: ta.currencies }

/-- Tamil (Singapore). -/
def taSG : Conventions :=
  { ta with
    numbers :=
      { ta.numbers with
        decimal := "#,##0.###"
        percent := "#,##0%"
        currency := "¤\u00a0#,##0.00" }
    currencies := "MYR RM|SGD $|USD US$" :: ta.currencies }

/-- Urdu (India). -/
def urIN : Conventions :=
  { ur with
    currencies := "PKR PKR" :: ur.currencies
    zones :=
      { ur.zones with
        offset := "GMT\x7b0\x7d" } }

/-- The locales of the languages of South Asia with their conventions. -/
def indic : List (String × Conventions) :=
  [ ("bn", bn), ("bn_BD", bn), ("bn_IN", bnIN), ("gu", gu), ("gu_IN", gu), ("hi", hi),
    ("hi_IN", hi), ("hi_Latn", hiLatn), ("hi_Latn_IN", hiLatnIN), ("kn", kn), ("kn_IN", kn),
    ("ml", ml), ("ml_IN", ml), ("mr", mr), ("mr_IN", mr), ("pa", pa), ("pa_Arab", paArab),
    ("pa_Arab_PK", paArab), ("pa_Guru", pa), ("pa_Guru_IN", pa), ("ta", ta), ("ta_IN", ta),
    ("ta_LK", taLK), ("ta_MY", taMY), ("ta_SG", taSG), ("te", te), ("te_IN", te), ("ur", ur),
    ("ur_IN", urIN), ("ur_PK", ur) ]

end Phrasebook.ConventionsOf
