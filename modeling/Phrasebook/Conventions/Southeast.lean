import Phrasebook.Conventions.Basic

/-!
# Conventions of the languages of Southeast Asia and of East Africa
-/

namespace Phrasebook.ConventionsOf

/-- Filipino. -/
def fil : Conventions where
  numbers :=
    { currency := "¤#,##0.00" }
  compact :=
    { short := "other|0K|00K|000K|0M|00M|000M|0B|00B|000B|0T|00T|000T"
      long := "other|0 na libo|00 na libo|000 na libo|0 na milyon|00 na milyon|000 na milyon|0 na bilyon|00 na bilyon|000 na bilyon|0 na trilyon|00 na trilyon|000 na trilyon
one|0 libo|00 libo|000 libo|0 milyon|00 milyon|000 milyon|0 bilyon|00 bilyon|000 bilyon|0 trilyon|00 trilyon|000 trilyon"
      currency := "other|¤0K|¤00K|¤000K|¤0M|¤00M|¤000M|¤0B|¤00B|¤000B|¤0T|¤00T|¤000T" }
  currencies := "JPY ¥|THB ฿|USD $" :: Conventions.rootCurrencies
  plurals := "one v = 0 and i = 1,2,3 or v = 0 and i % 10 != 4,6,9 or v != 0 and f % 10 != 4,6,9"
  months :=
    { format :=
        { wide := "Enero|Pebrero|Marso|Abril|Mayo|Hunyo|Hulyo|Agosto|Setyembre|Oktubre|Nobyembre|Disyembre"
          abbreviated := "Ene|Peb|Mar|Abr|May|Hun|Hul|Ago|Set|Okt|Nob|Dis" }
      standAlone :=
        { wide := "Enero|Pebrero|Marso|Abril|Mayo|Hunyo|Hulyo|Agosto|Setyembre|Oktubre|Nobyembre|Disyembre"
          abbreviated := "Ene|Peb|Mar|Abr|May|Hun|Hul|Ago|Set|Okt|Nob|Dis"
          narrow := "E|P|M|A|M|Hun|Hul|Ago|Set|Okt|Nob|Dis" } }
  weekdays :=
    { format :=
        { wide := "Lunes|Martes|Miyerkules|Huwebes|Biyernes|Sabado|Linggo"
          abbreviated := "Lun|Mar|Miy|Huw|Biy|Sab|Lin" } }
  quarters :=
    { format :=
        { wide := "ika-1 quarter|ika-2 quarter|ika-3 quarter|ika-4 na quarter"
          abbreviated := "Q1|Q2|Q3|Q4"
          narrow := "1|2|3|4" } }
  eras :=
    { wide := "Before Christ|Anno Domini"
      abbreviated := "BC|AD" }
  dayPeriods :=
    { format :=
        { wide := "am AM|pm PM|afternoon1 ng hapon|evening1 ng gabi|midnight hatinggabi|morning1 ng umaga|morning2 madaling-araw|night1 ng gabi|noon tanghaling-tapat"
          narrow := "am am|pm pm|afternoon1 ng hapon|evening1 ng gabi|midnight hatinggabi|morning1 ng umaga|morning2 madaling-araw|night1 ng gabi|noon tanghaling-tapat" }
      standAlone :=
        { wide := "am AM|pm PM|afternoon1 hapon|evening1 gabi|midnight hatinggabi|morning1 umaga|morning2 madaling-araw|night1 gabi|noon tanghaling-tapat"
          narrow := "am am|pm pm|afternoon1 hapon|evening1 gabi|midnight hatinggabi|morning1 umaga|morning2 madaling-araw|night1 gabi|noon tanghaling-tapat" } }
  dayPeriodRules := "afternoon1 43200 57600|evening1 57600 64800|midnight 0|morning1 0 21600|morning2 21600 43200|night1 64800 86400|noon 43200"
  dates :=
    { full := "EEEE, MMMM d, y"
      long := "MMMM d, y"
      medium := "MMM d, y"
      short := "M/d/yy" }
  times :=
    { full := "h:mm:ss\u202fa zzzz"
      long := "h:mm:ss\u202fa z"
      medium := "h:mm:ss\u202fa"
      short := "h:mm\u202fa" }
  moments :=
    { full := "\x7b1\x7d, \x7b0\x7d"
      long := "\x7b1\x7d, \x7b0\x7d"
      medium := "\x7b1\x7d, \x7b0\x7d"
      short := "\x7b1\x7d, \x7b0\x7d" }
  skeletons := "Ed d E
Ehm E h:mm\u202fa
Ehms E h:mm:ss\u202fa
Gy y G
GyM M/y G
GyMEd E, M/d/y G
GyMMM MMM y G
GyMMMEd E, MMM d, y G
GyMMMd MMM d, y G
GyMd M/d/y G
MEd E, M/d
MMMEd E, MMM d
MMMMEd E, MMMM d
MMMMW 'linggo' W 'ng' MMMM
Md M/d
hm h:mm\u202fa
hms h:mm:ss\u202fa
hmsv h:mm:ss\u202fa v
hmv h:mm\u202fa v
yM M/y
yMEd E, M/d/y
yMM MM/y
yMMM MMM y
yMMMEd E, MMM d, y
yMMMM MMMM y
yMMMd MMM d, y
yMd M/d/y
yQQQ QQQ y
yQQQQ QQQQ y
yw 'linggo' w 'ng' Y" :: Conventions.rootSkeletons
  zones :=
    { place := "Oras sa \x7b0\x7d"
      unknownRegion := "Hindi Kilalang Rehiyon"
      utcLong := "Coordinated Universal Time" }

/-- Indonesian. -/
def id : Conventions where
  symbols :=
    { decimal := ","
      group := "." }
  numbers :=
    { currency := "¤#,##0.00" }
  compact :=
    { short := "other|0\u00a0rb|00\u00a0rb|000\u00a0rb|0\u00a0jt|00\u00a0jt|000\u00a0jt|0\u00a0M|00\u00a0M|000\u00a0M|0\u00a0T|00\u00a0T|000\u00a0T"
      long := "other|0 ribu|00 ribu|000 ribu|0 juta|00 juta|000 juta|0 miliar|00 miliar|000 miliar|0 triliun|00 triliun|000 triliun"
      currency := "other|¤0\u00a0rb|¤00\u00a0rb|¤000\u00a0rb|¤0\u00a0jt|¤00\u00a0jt|¤000\u00a0jt|¤0\u00a0M|¤00\u00a0M|¤000\u00a0M|¤0\u00a0T|¤00\u00a0T|¤000\u00a0T" }
  currencies := "AUD AU$|IDR Rp|INR Rs|PHP PHP|THB ฿|XXX XXX" :: Conventions.rootCurrencies
  months :=
    { format :=
        { wide := "Januari|Februari|Maret|April|Mei|Juni|Juli|Agustus|September|Oktober|November|Desember"
          abbreviated := "Jan|Feb|Mar|Apr|Mei|Jun|Jul|Agu|Sep|Okt|Nov|Des"
          narrow := "J|F|M|A|M|J|J|A|S|O|N|D" } }
  weekdays :=
    { format :=
        { wide := "Senin|Selasa|Rabu|Kamis|Jumat|Sabtu|Minggu"
          abbreviated := "Sen|Sel|Rab|Kam|Jum|Sab|Min"
          narrow := "S|S|R|K|J|S|M" } }
  quarters :=
    { format :=
        { wide := "Kuartal ke-1|Kuartal ke-2|Kuartal ke-3|Kuartal ke-4"
          abbreviated := "K1|K2|K3|K4"
          narrow := "1|2|3|4" } }
  eras :=
    { wide := "Sebelum Masehi|Masehi"
      abbreviated := "SM|M" }
  dayPeriods :=
    { format :=
        { wide := "am AM|pm PM|afternoon1 siang|evening1 sore|midnight tengah malam|morning1 pagi|night1 malam|noon tengah hari" } }
  dayPeriodRules := "afternoon1 36000 54000|evening1 54000 64800|midnight 0|morning1 0 36000|night1 64800 86400|noon 43200"
  dates :=
    { full := "EEEE, dd MMMM y"
      long := "d MMMM y"
      medium := "d MMM y"
      short := "dd/MM/yy" }
  times :=
    { full := "HH.mm.ss zzzz"
      long := "HH.mm.ss z"
      medium := "HH.mm.ss"
      short := "HH.mm" }
  skeletons := "Bhm h.mm B
Bhms h.mm.ss B
EBhm E h.mm B
EBhms E h.mm.ss B
EHm E HH.mm
EHms E HH.mm.ss
Ed E, d
Ehm E h.mm\u202fa
Ehms E h.mm.ss\u202fa
Gy y G
GyM M/y G
GyMEd E, d/M/y G
GyMMM MMM y G
GyMMMEd E, d MMM y G
GyMMMd d MMM y G
GyMd d/M/y GGGGG
Hm HH.mm
Hms HH.mm.ss
Hmsv HH.mm.ss v
Hmv HH.mm v
MEd E, d/M
MMMEd E, d MMM
MMMMEd E, d MMMM
MMMMW 'minggu' 'ke'-W MMMM
MMMMd d MMMM
MMMd d MMM
Md d/M
hm h.mm\u202fa
hms h.mm.ss\u202fa
hmsv h.mm.ss. a v
hmv h.mm\u202fa v
ms mm.ss
yM M/y
yMEd E, d/M/y
yMMM MMM y
yMMMEd E, d MMM y
yMMMM MMMM y
yMMMd d MMM y
yMd d/M/y
yQQQ QQQ y
yQQQQ QQQQ y
yw 'minggu' 'ke'-w Y" :: Conventions.rootSkeletons
  zones :=
    { place := "Waktu \x7b0\x7d"
      unknownRegion := "Wilayah Tidak Dikenal"
      utcLong := "Waktu Universal Terkoordinasi" }

/-- Malay. -/
def ms : Conventions where
  numbers :=
    { currency := "¤#,##0.00" }
  compact :=
    { short := "other|0K|00K|000K|0J|00J|000J|0B|00B|000B|0T|00T|000T"
      long := "other|0 ribu|00 ribu|000 ribu|0 juta|00 juta|000 juta|0 bilion|00 bilion|000 bilion|0 trilion|00 trilion|000 trilion"
      currency := "other|¤0K|¤00K|¤000K|¤0J|¤00J|¤000J|¤0B|¤00B|¤000B|¤0T|¤00T|¤000T" }
  currencies := "CAD CAD|MXN MXN|MYR RM|PHP PHP|USD USD" :: Conventions.rootCurrencies
  months :=
    { format :=
        { wide := "Januari|Februari|Mac|April|Mei|Jun|Julai|Ogos|September|Oktober|November|Disember"
          abbreviated := "Jan|Feb|Mac|Apr|Mei|Jun|Jul|Ogo|Sep|Okt|Nov|Dis"
          narrow := "J|F|M|A|M|J|J|O|S|O|N|D" } }
  weekdays :=
    { format :=
        { wide := "Isnin|Selasa|Rabu|Khamis|Jumaat|Sabtu|Ahad"
          abbreviated := "Isn|Sel|Rab|Kha|Jum|Sab|Ahd"
          short := "Is|Se|Ra|Kh|Ju|Sa|Ah"
          narrow := "I|S|R|K|J|S|A" } }
  quarters :=
    { format :=
        { wide := "Suku pertama|Suku Ke-2|Suku Ke-3|Suku Ke-4"
          abbreviated := "S1|S2|S3|S4"
          narrow := "1|2|3|4" } }
  eras :=
    { wide := "S.M.|TM" }
  dayPeriods :=
    { format :=
        { wide := "am PG|pm PTG|afternoon1 tengah hari|evening1 petang|morning1 tengah malam|morning2 pagi|night1 malam"
          abbreviated := "am PG|pm PTG|afternoon1 tengah hari|evening1 petang|morning1 pagi|morning2 pagi|night1 malam" }
      standAlone :=
        { wide := "am PG|pm PTG|afternoon1 tengah hari|evening1 petang|morning1 tengah malam|morning2 pagi|night1 malam"
          narrow := "am PG|pm PTG|afternoon1 tengah hari|evening1 petang|morning1 pagi|morning2 pagi|night1 malam" } }
  dayPeriodRules := "afternoon1 43200 50400|evening1 50400 68400|morning1 0 3600|morning2 3600 43200|night1 68400 86400"
  dates :=
    { full := "EEEE, d MMMM y"
      long := "d MMMM y"
      medium := "d MMM y"
      short := "d/MM/yy" }
  times :=
    { full := "h:mm:ss\u202fa zzzz"
      long := "h:mm:ss\u202fa z"
      medium := "h:mm:ss\u202fa"
      short := "h:mm\u202fa" }
  moments :=
    { medium := "\x7b1\x7d, \x7b0\x7d"
      short := "\x7b1\x7d, \x7b0\x7d" }
  skeletons := "Ed d E
Ehm E h:mm\u202fa
Ehms E h:mm:ss\u202fa
Gy y G
GyM M/y G
GyMEd E, d/M/y G
GyMMM MMM y G
GyMMMEd E, d MMM y G
GyMMMd d MMM y G
MEd E, d-M
MMMEd E, d MMM
MMMMW 'minggu' W 'daripada' MMMM
MMMMd d MMMM
MMMd d MMM
MMdd dd/MM
Md d-M
hm h:mm\u202fa
hms h:mm:ss\u202fa
hmsv h:mm:ss\u202fa v
hmv h:mm\u202fa v
yM M-y
yMEd E, d/M/y
yMMM MMM y
yMMMEd E, d MMM y
yMMMM MMMM y
yMMMd d MMM y
yMd d/M/y
yQQQ QQQ y
yQQQQ QQQQ y
yw 'minggu' w 'daripada' Y" :: Conventions.rootSkeletons
  zones :=
    { place := "Waktu \x7b0\x7d"
      unknownRegion := "Wilayah Tidak Diketahui"
      utcLong := "Waktu Universal Selaras" }

/-- Malay (Arabic script). -/
def msArab : Conventions where
  dayPeriodRules := "afternoon1 43200 50400|evening1 50400 68400|morning1 0 3600|morning2 3600 43200|night1 68400 86400"

/-- Swahili. -/
def sw : Conventions where
  compact :=
    { short := "other|elfu\u00a00;elfu\u00a0-0|elfu\u00a000;elfu\u00a0-00|elfu\u00a0000;elfu\u00a0-000|0M|00M|000M|0B;-0B|00B;-00B|000B;-000B|0T|00T|000T
one|elfu\u00a00;elfu\u00a0-0|elfu\u00a000;elfu\u00a0-00|elfu\u00a0000;elfu\u00a0-000|0M;-0M|00M;-00M|000M;-000M|0B;-0B|00B;-00B|000B;-000B|0T;-0T|00T;-00T|000T;-000T"
      long := "other|elfu 0;elfu -0|elfu 00;elfu -00|elfu 000;elfu -000|milioni 0;milioni -0|milioni 00;milioni -00|milioni 000;milioni -000|bilioni 0;bilioni -0|bilioni 00;bilioni -00|bilioni 000;bilioni -000|trilioni 0;trilioni -0|trilioni 00;trilioni -00|trilioni 000;trilioni -000"
      currency := "other|¤\u00a0elfu\u00a00;¤\u00a0elfu\u00a0-0|¤\u00a0elfu\u00a000;¤\u00a0elfu\u00a0-00|¤\u00a0elfu\u00a0000;¤\u00a0elfu\u00a0-000|¤\u00a00M|¤\u00a000M|¤\u00a0000M|¤\u00a00B;¤\u00a0-0B|¤\u00a000B;¤\u00a0-00B|¤\u00a0000B;¤\u00a0-000B|¤\u00a00T|¤\u00a000T|¤\u00a0000T
one|¤\u00a0elfu\u00a00;¤\u00a0elfu\u00a0-0|¤\u00a0elfu\u00a000;¤\u00a0elfu\u00a0-00|¤\u00a0elfu\u00a0000;¤\u00a0elfu\u00a0-000|¤\u00a00M;¤\u00a0-0M|¤\u00a000M;¤\u00a0-00M|¤\u00a0000M;¤\u00a0-000M|¤\u00a00B;¤\u00a0-0B|¤\u00a000B;¤\u00a0-00B|¤\u00a0000B;¤\u00a0-000B|¤\u00a00T;¤\u00a0-0T|¤\u00a000T;¤\u00a0-00T|¤\u00a0000T;¤\u00a0-000T" }
  currencies := "KES Ksh|PHP PHP|THB ฿|TZS TSh" :: Conventions.rootCurrencies
  plurals := "one i = 1 and v = 0"
  months :=
    { format :=
        { wide := "Januari|Februari|Machi|Aprili|Mei|Juni|Julai|Agosti|Septemba|Oktoba|Novemba|Desemba"
          abbreviated := "Jan|Feb|Mac|Apr|Mei|Jun|Jul|Ago|Sep|Okt|Nov|Des"
          narrow := "J|F|M|A|M|J|J|A|S|O|N|D" } }
  weekdays :=
    { format :=
        { wide := "Jumatatu|Jumanne|Jumatano|Alhamisi|Ijumaa|Jumamosi|Jumapili"
          narrow := "M|T|W|T|F|S|S" } }
  quarters :=
    { format :=
        { wide := "Robo ya 1|Robo ya 2|Robo ya 3|Robo ya 4"
          narrow := "1|2|3|4" } }
  eras :=
    { wide := "Kabla ya Kristo|Baada ya Kristo"
      abbreviated := "KK|BK" }
  dayPeriods :=
    { format :=
        { wide := "am AM|pm PM|afternoon1 mchana|evening1 jioni|midnight saa sita za usiku|morning1 alfajiri|morning2 asubuhi|night1 usiku|noon saa sita za mchana"
          abbreviated := "am AM|pm PM|afternoon1 mchana|evening1 jioni|midnight saa sita za usiku|morning1 alfajiri|morning2 asubuhi|night1 usiku|noon adhuhuri"
          narrow := "am am|pm pm|afternoon1 mchana|evening1 jioni|midnight usiku|morning1 alfajiri|morning2 asubuhi|night1 usiku|noon mchana" }
      standAlone :=
        { wide := "am AM|pm PM|afternoon1 mchana|evening1 jioni|midnight saa sita za usiku|morning1 alfajiri|morning2 asubuhi|night1 usiku|noon saa sita za mchana"
          abbreviated := "am AM|pm PM|afternoon1 alasiri|evening1 jioni|midnight saa sita za usiku|morning1 alfajiri|morning2 asubuhi|night1 usiku|noon adhuhuri"
          narrow := "am am|pm pm|afternoon1 mchana|evening1 jioni|midnight usiku|morning1 alfajiri|morning2 asubuhi|night1 usiku|noon saa sita za mchana" } }
  dayPeriodRules := "afternoon1 43200 57600|evening1 57600 68400|midnight 0|morning1 14400 25200|morning2 25200 43200|night1 68400 14400|noon 43200"
  dates :=
    { full := "EEEE, d MMMM y"
      long := "d MMMM y"
      medium := "d MMM y"
      short := "dd/MM/y" }
  skeletons := "Ed E d
Ehm E h:mm\u202fa
Ehms E h:mm:ss\u202fa
Gy y G
GyM G MM-y
GyMEd E, d/M/y G
GyMMM MMM y G
GyMMMEd E, d MMM y G
GyMMMd d MMM y G
GyMd d/M/y GGGGG
MEd E, d/M
MMMEd E, d MMM
MMMMEd E, d MMMM
MMMMW 'wiki' W 'ya' MMMM
MMMMd d MMMM
MMMd d MMM
Md d/M
hm h:mm\u202fa
hms h:mm:ss\u202fa
hmsv h:mm:ss\u202fa v
hmv h:mm\u202fa v
yM M/y
yMEd E, d/M/y
yMMM MMM y
yMMMEd E, d MMM y
yMMMM MMMM y
yMMMd d MMM y
yMd d/M/y
yQQQ QQQ y
yQQQQ QQQQ y
yw 'wiki' w 'ya' Y" :: Conventions.rootSkeletons
  zones :=
    { offset := "GMT \x7b0\x7d"
      place := "Saa za \x7b0\x7d"
      unknownRegion := "Eneo lisilojulikana"
      utcLong := "Mfumo wa kuratibu saa ulimwenguni" }

/-- Thai. -/
def th : Conventions where
  numbers :=
    { currency := "¤#,##0.00" }
  compact :=
    { short := "other|0K|00K|000K|0M|00M|000M|0B|00B|000B|0T|00T|000T"
      long := "other|0 พัน|0 หมื่น|0 แสน|0 ล้าน|00 ล้าน|000 ล้าน|0 พันล้าน|0 หมื่นล้าน|0 แสนล้าน|0 ล้านล้าน|00 ล้านล้าน|000 ล้านล้าน"
      currency := "other|¤0K|¤00K|¤000K|¤0M|¤00M|¤000M|¤0B|¤00B|¤000B|¤0T|¤00T|¤000T" }
  currencies := "AUD AU$|JPY ¥|PHP PHP|THB ฿|XXX XXX" :: Conventions.rootCurrencies
  months :=
    { format :=
        { wide := "มกราคม|กุมภาพันธ์|มีนาคม|เมษายน|พฤษภาคม|มิถุนายน|กรกฎาคม|สิงหาคม|กันยายน|ตุลาคม|พฤศจิกายน|ธันวาคม"
          abbreviated := "ม.ค.|ก.พ.|มี.ค.|เม.ย.|พ.ค.|มิ.ย.|ก.ค.|ส.ค.|ก.ย.|ต.ค.|พ.ย.|ธ.ค." } }
  weekdays :=
    { format :=
        { wide := "วันจันทร์|วันอังคาร|วันพุธ|วันพฤหัสบดี|วันศุกร์|วันเสาร์|วันอาทิตย์"
          abbreviated := "จันทร์|อังคาร|พุธ|พฤหัส|ศุกร์|เสาร์|อาทิตย์"
          short := "จ.|อ.|พ.|พฤ.|ศ.|ส.|อา."
          narrow := "จ|อ|พ|พฤ|ศ|ส|อา" } }
  quarters :=
    { format :=
        { wide := "ไตรมาส 1|ไตรมาส 2|ไตรมาส 3|ไตรมาส 4"
          narrow := "1|2|3|4" } }
  eras :=
    { wide := "ปีก่อนคริสตกาล|คริสต์ศักราช"
      abbreviated := "ก่อน ค.ศ.|ค.ศ." }
  dayPeriods :=
    { format :=
        { wide := "am ก่อนเที่ยง|pm หลังเที่ยง|afternoon1 ในตอนบ่าย|afternoon2 บ่าย|evening1 ในตอนเย็น|evening2 ค่ำ|midnight เที่ยงคืน|morning1 ในตอนเช้า|night1 กลางคืน|noon เที่ยง"
          abbreviated := "am AM|pm PM|afternoon1 ในตอนบ่าย|afternoon2 บ่าย|evening1 ในตอนเย็น|evening2 ค่ำ|midnight เที่ยงคืน|morning1 ในตอนเช้า|night1 กลางคืน|noon เที่ยง"
          narrow := "am a|pm p|afternoon1 เที่ยง|afternoon2 บ่าย|evening1 เย็น|evening2 ค่ำ|midnight เที่ยงคืน|morning1 เช้า|night1 กลางคืน|noon เที่ยง" }
      standAlone :=
        { wide := "am ก่อนเที่ยง|pm หลังเที่ยง|afternoon1 ในตอนบ่าย|afternoon2 บ่าย|evening1 ในตอนเย็น|evening2 ค่ำ|midnight เที่ยงคืน|morning1 ในตอนเช้า|night1 กลางคืน|noon เที่ยง"
          abbreviated := "am ก่อนเที่ยง|pm หลังเที่ยง|afternoon1 ตอนบ่าย|afternoon2 บ่าย|evening1 ตอนเย็น|evening2 ค่ำ|midnight เที่ยงคืน|morning1 ตอนเช้า|night1 กลางคืน|noon เที่ยง"
          narrow := "am ก่อนเที่ยง|pm หลังเที่ยง|afternoon1 ช่วงเที่ยง|afternoon2 บ่าย|evening1 เย็น|evening2 ค่ำ|midnight เที่ยงคืน|morning1 เช้า|night1 กลางคืน|noon เที่ยง" } }
  dayPeriodRules := "afternoon1 43200 46800|afternoon2 46800 57600|evening1 57600 64800|evening2 64800 75600|midnight 0|morning1 21600 43200|night1 75600 21600|noon 43200"
  dates :=
    { full := "EEEEที่ d MMMM G y"
      long := "d MMMM G y"
      medium := "d MMM y"
      short := "d/M/yy" }
  times :=
    { full := "H นาฬิกา mm นาที ss วินาที zzzz"
      long := "H นาฬิกา mm นาที ss วินาที z" }
  skeletons := "EHm E HH:mm น.
Ed E d
GyMEd E d/M/G y
GyMMM MMM G y
GyMMMEEEEd EEEEที่ d MMM G y
GyMMMEd E d MMM G y
GyMMMd d MMM G y
GyMd d/M/GGGGG y
Hm HH:mm น.
MEd E d/M
MMMEEEEd EEEEที่ d MMM
MMMEd E d MMM
MMMMEEEEd EEEEที่ d MMMM
MMMMEd E d MMMM
MMMMW สัปดาห์ที่ W ของเดือนMMMM
MMMMd d MMMM
MMMd d MMM
Md d/M
hmv h:mm น. a v
mmss mm:ss
yM M/y
yMEd E d/M/y
yMMM MMM y
yMMMEEEEd EEEEที่ d MMM y
yMMMEd E d MMM y
yMMMM MMMM y
yMMMMEEEEd EEEEที่ d MMMM y
yMMMMEd E d MMMM y
yMMMMd d MMMM y
yMMMd d MMM y
yMd d/M/y
yQQQ QQQ y
yQQQQ QQQQ G y
yw สัปดาห์ที่ w ของปี Y" :: Conventions.rootSkeletons
  zones :=
    { place := "เวลา\x7b0\x7d"
      unknownRegion := "ภูมิภาคที่ไม่รู้จัก"
      utcLong := "เวลาสากลเชิงพิกัด" }

/-- Vietnamese. -/
def vi : Conventions where
  symbols :=
    { decimal := ","
      group := "." }
  numbers :=
    { currency := "#,##0.00\u00a0¤" }
  compact :=
    { short := "other|0\u00a0N|00\u00a0N|000\u00a0N|0\u00a0Tr|00\u00a0Tr|000\u00a0Tr|0\u00a0T|00\u00a0T|000\u00a0T|0\u00a0NT|00\u00a0NT|000\u00a0NT"
      long := "other|0 nghìn|00 nghìn|000 nghìn|0 triệu|00 triệu|000 triệu|0 tỷ|00 tỷ|000 tỷ|0 nghìn tỷ|00 nghìn tỷ|000 nghìn tỷ"
      currency := "other|0\u00a0N\u00a0¤|00\u00a0N\u00a0¤|000\u00a0N\u00a0¤|0\u00a0Tr\u00a0¤|00\u00a0Tr\u00a0¤|000\u00a0Tr\u00a0¤|0\u00a0T\u00a0¤|00\u00a0T\u00a0¤|000\u00a0T\u00a0¤|0\u00a0NT\u00a0¤|00\u00a0NT\u00a0¤|000\u00a0NT\u00a0¤" }
  currencies := "AUD AU$|JPY ¥|PHP PHP|THB ฿|XXX XXX" :: Conventions.rootCurrencies
  months :=
    { format :=
        { wide := "tháng 1|tháng 2|tháng 3|tháng 4|tháng 5|tháng 6|tháng 7|tháng 8|tháng 9|tháng 10|tháng 11|tháng 12"
          abbreviated := "thg 1|thg 2|thg 3|thg 4|thg 5|thg 6|thg 7|thg 8|thg 9|thg 10|thg 11|thg 12"
          narrow := "1|2|3|4|5|6|7|8|9|10|11|12" }
      standAlone :=
        { wide := "Tháng 1|Tháng 2|Tháng 3|Tháng 4|Tháng 5|Tháng 6|Tháng 7|Tháng 8|Tháng 9|Tháng 10|Tháng 11|Tháng 12"
          narrow := "1|2|3|4|5|6|7|8|9|10|11|12" } }
  weekdays :=
    { format :=
        { wide := "Thứ Hai|Thứ Ba|Thứ Tư|Thứ Năm|Thứ Sáu|Thứ Bảy|Chủ Nhật"
          abbreviated := "Thứ 2|Thứ 3|Thứ 4|Thứ 5|Thứ 6|Thứ 7|CN"
          short := "T2|T3|T4|T5|T6|T7|CN"
          narrow := "T2|T3|T4|T5|T6|T7|CN" } }
  quarters :=
    { format :=
        { wide := "Quý 1|Quý 2|Quý 3|Quý 4"
          abbreviated := "Q1|Q2|Q3|Q4"
          narrow := "1|2|3|4" }
      standAlone :=
        { wide := "quý 1|quý 2|quý 3|quý 4"
          abbreviated := "Q1|Q2|Q3|Q4"
          narrow := "1|2|3|4" } }
  eras :=
    { wide := "Trước Chúa Giáng Sinh|Sau Công Nguyên"
      abbreviated := "TCN|SCN"
      narrow := "TCN|CN" }
  dayPeriods :=
    { format :=
        { wide := "am SA|pm CH|afternoon1 chiều|evening1 tối|midnight nửa đêm|morning1 sáng|night1 đêm|noon trưa"
          abbreviated := "am SA|pm CH|afternoon1 chiều|evening1 tối|midnight nửa đêm|morning1 sáng|night1 đêm|noon TR"
          narrow := "am s|pm c|afternoon1 chiều|evening1 tối|midnight nửa đêm|morning1 sáng|night1 đêm|noon tr" }
      standAlone :=
        { wide := "am SA|pm CH|afternoon1 chiều|evening1 tối|midnight nửa đêm|morning1 sáng|night1 đêm|noon trưa"
          abbreviated := "am SA|pm CH|afternoon1 chiều|evening1 tối|midnight nửa đêm|morning1 sáng|night1 đêm|noon TR"
          narrow := "am s|pm c|afternoon1 chiều|evening1 tối|midnight nửa đêm|morning1 sáng|night1 đêm|noon trưa" } }
  dayPeriodRules := "afternoon1 43200 64800|evening1 64800 75600|midnight 0|morning1 14400 43200|night1 75600 14400|noon 43200"
  dates :=
    { full := "EEEE, d MMMM, y"
      long := "d MMMM, y"
      medium := "d MMM, y"
      short := "d/M/yy" }
  moments :=
    { full := "\x7b0\x7d \x7b1\x7d"
      long := "\x7b0\x7d \x7b1\x7d"
      medium := "\x7b0\x7d \x7b1\x7d"
      short := "\x7b0\x7d \x7b1\x7d" }
  skeletons := "Bh h 'giờ' B
EBh h 'giờ' B E
EBhm h:mm B E
EBhms h:mm:ss B E
EHm HH:mm E
EHms HH:mm:ss E
Ed E, 'ngày' d
Eh h 'giờ'\u202fa E
Ehm h:mm\u202fa E
Ehms h:mm:ss\u202fa E
Gy y G
GyM M/y G
GyMEd E, d/M/y G
GyMMM MMM y G
GyMMMEd E, d MMM, y G
GyMMMd d MMM, y G
GyMd d/M/y G
H HH 'giờ'
Hm H:mm
MEd E, d/M
MMMEd E, d MMM
MMMMEd E, d MMMM
MMMMW 'tuần' W 'của' 'tháng' M
MMMMd d MMMM
MMMd d MMM
MMdd dd-MM
Md d/M
hm h:mm\u202fa
hms h:mm:ss\u202fa
hmsv h:mm:ss\u202fa v
hmv h:mm\u202fa v
hv h\u202f'giờ' a v
mmss mm:ss
yM M/y
yMEd E, d/M/y
yMM 'tháng' MM, y
yMMM MMM y
yMMMEd E, d MMM, y
yMMMM MMMM 'năm' y
yMMMd d MMM, y
yMd d/M/y
yQQQ QQQ y
yQQQQ QQQQ 'năm' y
yw 'tuần' w 'của' 'năm' Y" :: Conventions.rootSkeletons
  zones :=
    { place := "Giờ \x7b0\x7d"
      unknownRegion := "Vùng không xác định"
      utcLong := "Giờ Phối hợp Quốc tế" }

/-- Zulu. -/
def zu : Conventions where
  numbers :=
    { currency := "¤#,##0.00" }
  compact :=
    { short := "other|0K|00K|000K|0M|00M|000M|0B|00B|000B|0T|00T|000T"
      long := "other|0 inkulungwane|00 inkulungwane|000 inkulungwane|0 isigidi|00 isigidi|000 isigidi|0 isigidi sezigidi|00 isigidi sezigidi|000 isigidi sezigidi|0 isigidintathu|00 isigidintathu|000 isigidintathu"
      currency := "other|¤0K|¤00K|¤000K|¤0M|¤00M|¤000M|¤0B|¤00B|¤000B|¤0T|¤00T|¤000T" }
  currencies := "PHP PHP|THB ฿|USD $|ZAR R" :: Conventions.rootCurrencies
  plurals := "one i = 0 or n = 1"
  months :=
    { format :=
        { wide := "Januwari|Februwari|Mashi|Ephreli|Meyi|Juni|Julayi|Agasti|Septhemba|Okthoba|Novemba|Disemba"
          abbreviated := "Jan|Feb|Mas|Eph|Mey|Jun|Jul|Aga|Sep|Okt|Nov|Dis"
          narrow := "J|F|M|E|M|J|J|A|S|O|N|D" }
      standAlone :=
        { wide := "Januwari|Februwari|Mashi|Ephreli|Meyi|Juni|Julayi|Agasti|Septhemba|Okthoba|Novemba|Disemba"
          abbreviated := "Jan|Feb|Mas|Eph|Mey|Jun|Jul|Aga|Sep|Okt|Nov|Dis"
          narrow := "J|F|M|A|M|J|J|A|S|O|N|D" } }
  weekdays :=
    { format :=
        { wide := "UMsombuluko|ULwesibili|ULwesithathu|ULwesine|ULwesihlanu|UMgqibelo|ISonto"
          abbreviated := "Mso|Bil|Tha|Sin|Hla|Mgq|Son"
          narrow := "M|B|T|S|H|M|S" } }
  quarters :=
    { format :=
        { wide := "ikota yesi-1|ikota yesi-2|ikota yesi-3|ikota yesi-4"
          abbreviated := "Q1|Q2|Q3|Q4"
          narrow := "1|2|3|4" } }
  eras :=
    { wide := "BC|AD" }
  dayPeriods :=
    { format :=
        { wide := "am AM|pm PM|afternoon1 emini|evening1 ntambama|morning1 entathakusa|morning2 ekuseni|night1 ebusuku"
          narrow := "am a|pm p|afternoon1 emini|evening1 ntambama|morning1 entathakusa|morning2 ekuseni|night1 ebusuku" } }
  dayPeriodRules := "afternoon1 36000 46800|evening1 46800 68400|morning1 0 21600|morning2 21600 36000|night1 68400 86400"
  dates :=
    { full := "EEEE, MMMM d, y"
      long := "MMMM d, y"
      medium := "MMM d, y"
      short := "M/d/yy" }
  skeletons := "Ed d E
Ehm E h:mm\u202fa
Ehms E h:mm:ss\u202fa
GyMd M/d/y GGGGG
MMMEd E, MMM d
hm h:mm\u202fa
hms h:mm:ss\u202fa
hmsv h:mm:ss\u202fa v
hmv h:mm\u202fa v
yMMM MMM y
yMMMEd E, MMM d, y
yMMMM MMMM y
yMMMd MMM d, y
yQQQ QQQ y
yQQQQ QQQQ y" :: Conventions.rootSkeletons
  zones :=
    { place := "Isikhathi sase-\x7b0\x7d"
      unknownRegion := "iSifunda esingaziwa"
      utcLong := "isikhathi somhlaba esididiyelwe" }

/-- Malay (Brunei). -/
def msBN : Conventions :=
  { ms with
    symbols :=
      { ms.symbols with
        decimal := ","
        group := "." }
    numbers :=
      { ms.numbers with
        currency := "¤\u00a0#,##0.00" }
    currencies := "BND $" :: ms.currencies
    dates :=
      { ms.dates with
        full := "dd MMMM y" } }

/-- Malay (Indonesia). -/
def msID : Conventions :=
  { ms with
    symbols :=
      { ms.symbols with
        decimal := ","
        group := "." }
    currencies := "IDR Rp" :: ms.currencies
    dates :=
      { ms.dates with
        full := "EEEE, dd MMMM y"
        short := "dd/MM/yy" }
    times :=
      { ms.times with
        full := "HH.mm.ss zzzz"
        long := "HH.mm.ss z"
        medium := "HH.mm.ss"
        short := "HH.mm" }
    skeletons := "Bhm h.mm B
Bhms h.mm.ss B
EBhm E h.mm B
EBhms E h.mm.ss B
EHm E HH.mm
EHms E HH.mm.ss
Ehm E h.mm\u202fa
Ehms E h.mm.ss\u202fa
Hm HH.mm
Hms HH.mm.ss
Hmsv HH.mm.ss v
Hmv HH.mm v
hm h.mm\u202fa
hms h.mm.ss\u202fa
hmsv h.mm.ss. a v
hmv h.mm\u202fa v" :: ms.skeletons }

/-- Malay (Singapore). -/
def msSG : Conventions :=
  { ms with
    currencies := "SGD $" :: ms.currencies }

/-- Swahili (Congo - Kinshasa). -/
def swCD : Conventions :=
  { sw with
    symbols :=
      { sw.symbols with
        decimal := ","
        group := "." }
    currencies := "CDF FC" :: sw.currencies }

/-- Swahili (Kenya). -/
def swKE : Conventions :=
  { sw with
    compact :=
      { sw.compact with
        short := "other|elfu\u00a00|elfu\u00a000|elfu\u00a0000|M0|M00|M000|B0|B00|B000|T0|T00|T000"
        long := "other|elfu 0;elfu -0|elfu 00|elfu 000|milioni 0|milioni 00|milioni 000|bilioni 0|bilioni 00|bilioni 000|trilioni 0|trilioni 00|trilioni 000
one|elfu 0;elfu -0|elfu 00;elfu -00|elfu 000|milioni 0|milioni 00|milioni 000|bilioni 0|bilioni 00|bilioni 000|trilioni 0|trilioni 00|trilioni 000"
        currency := "other|¤\u00a0elfu\u00a00|¤\u00a0elfu\u00a000|¤\u00a0elfu\u00a0000|¤\u00a0M0|¤\u00a0M00|¤\u00a0M000|¤\u00a0B0|¤\u00a0B00|¤\u00a0B000|¤\u00a0T0|¤\u00a0T00|¤\u00a0T000" }
    currencies := "USD $" :: sw.currencies
    skeletons := "GyMd d/M/y G" :: sw.skeletons
    zones :=
      { sw.zones with
        unknownRegion := "Eneo Lisilojulikana"
        utcLong := "Saa ya Dunia" } }

/-- Swahili (Uganda). -/
def swUG : Conventions :=
  { sw with
    currencies := "UGX USh" :: sw.currencies }

/-- The locales of the languages of Southeast Asia and of East Africa with their conventions. -/
def southeast : List (String × Conventions) :=
  [ ("fil", fil), ("fil_PH", fil), ("id", id), ("id_ID", id), ("ms", ms), ("ms_Arab", msArab),
    ("ms_Arab_BN", msArab), ("ms_Arab_MY", msArab), ("ms_BN", msBN), ("ms_ID", msID),
    ("ms_MY", ms), ("ms_SG", msSG), ("sw", sw), ("sw_CD", swCD), ("sw_KE", swKE), ("sw_TZ", sw),
    ("sw_UG", swUG), ("th", th), ("th_TH", th), ("vi", vi), ("vi_VN", vi), ("zu", zu),
    ("zu_ZA", zu) ]

end Phrasebook.ConventionsOf
