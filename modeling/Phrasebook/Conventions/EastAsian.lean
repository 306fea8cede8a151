import Phrasebook.Conventions.Basic

/-!
# Conventions of Chinese, Japanese and Korean
-/

namespace Phrasebook.ConventionsOf

/-- Japanese. -/
def ja : Conventions where
  numbers :=
    { currency := "¤#,##0.00" }
  compact :=
    { short := "other|0|0万|00万|000万|0000万|0億|00億|000億|0000億|0兆|00兆|000兆|0000兆|0京|00京|000京|0000京"
      currency := "other|0|¤0万|¤00万|¤000万|¤0000万|¤0億|¤00億|¤000億|¤0000億|¤0兆|¤00兆|¤000兆|¤0000兆|¤0京|¤00京|¤000京|¤0000京" }
  currencies := "CNY 元|JPY ￥|PHP PHP|USD $|XCG Cg|XXX XXX" :: Conventions.rootCurrencies
  months :=
    { format :=
        { wide := "1月|2月|3月|4月|5月|6月|7月|8月|9月|10月|11月|12月"
          narrow := "1|2|3|4|5|6|7|8|9|10|11|12" } }
  weekdays :=
    { format :=
        { wide := "月曜日|火曜日|水曜日|木曜日|金曜日|土曜日|日曜日"
          abbreviated := "月|火|水|木|金|土|日" } }
  quarters :=
    { format :=
        { wide := "第1四半期|第2四半期|第3四半期|第4四半期"
          abbreviated := "Q1|Q2|Q3|Q4"
          narrow := "1|2|3|4" } }
  eras :=
    { wide := "紀元前|西暦"
      narrow := "BC|AD" }
  dayPeriods :=
    { format :=
        { wide := "am 午前|pm 午後|afternoon1 昼|evening1 夕方|midnight 真夜中|morning1 朝|night1 夜|night2 夜中|noon 正午" } }
  dayPeriodRules := "afternoon1 43200 57600|evening1 57600 68400|midnight 0|morning1 14400 43200|night1 68400 82800|night2 82800 14400|noon 43200"
  dates :=
    { full := "y年M月d日EEEE"
      long := "y年M月d日"
      medium := "y/MM/dd"
      short := "y/MM/dd" }
  times :=
    { full := "H時mm分ss秒 zzzz"
      long := "H:mm:ss z"
      medium := "H:mm:ss"
      short := "H:mm" }
  skeletons := "Bh BK時
Bhm BK:mm
Bhms BK:mm:ss
EBh BK時 (E)
EBhm BK:mm (E)
EBhms BK:mm:ss (E)
EEEEd d日EEEE
EHm H:mm (E)
EHms H:mm:ss (E)
Ed d日(E)
Eh aK時 (E)
Ehm aK:mm (E)
Ehms aK:mm:ss (E)
Gy Gy年
GyM Gy/M
GyMEd Gy/M/d(E)
GyMMM Gy年M月
GyMMMEEEEd Gy年M月d日EEEE
GyMMMEd Gy年M月d日(E)
GyMMMd Gy年M月d日
GyMd Gy/M/d
H H時
Hm H:mm
Hms H:mm:ss
Hmsv H:mm:ss v
Hmv H:mm v
Hv H時 v
M M月
MEEEEd M/dEEEE
MEd M/d(E)
MMM M月
MMMEEEEd M月d日EEEE
MMMEd M月d日(E)
MMMMW M月第W週
MMMMd M月d日
MMMd M月d日
Md M/d
d d日
h aK時
hm aK:mm
hms aK:mm:ss
hmsv aK:mm:ss v
hmv aK:mm v
hv aK時 v
y y年
yM y/M
yMEEEEd y/M/dEEEE
yMEd y/M/d(E)
yMM y/MM
yMMM y年M月
yMMMEEEEd y年M月d日EEEE
yMMMEd y年M月d日(E)
yMMMM y年M月
yMMMd y年M月d日
yMd y/M/d
yQQQ y/QQQ
yQQQQ y年QQQQ
yw Y年第w週" :: Conventions.rootSkeletons
  zones :=
    { place := "\x7b0\x7d時間"
      placeInRegion := "\x7b1\x7d（\x7b0\x7d）"
      unknownRegion := "不明な地域"
      utcLong := "協定世界時" }

/-- Korean. -/
def ko : Conventions where
  numbers :=
    { currency := "¤#,##0.00" }
  compact :=
    { short := "other|0천|0만|00만|000만|0000만|0억|00억|000억|0000억|0조|00조|000조"
      currency := "other|¤0천|¤0만|¤00만|¤000만|¤0000만|¤0억|¤00억|¤000억|¤0000억|¤0조|¤00조|¤000조" }
  currencies := "AUD AU$|PHP PHP" :: Conventions.rootCurrencies
  months :=
    { format :=
        { wide := "1월|2월|3월|4월|5월|6월|7월|8월|9월|10월|11월|12월" } }
  weekdays :=
    { format :=
        { wide := "월요일|화요일|수요일|목요일|금요일|토요일|일요일"
          abbreviated := "월|화|수|목|금|토|일" } }
  quarters :=
    { format :=
        { wide := "제 1/4분기|제 2/4분기|제 3/4분기|제 4/4분기"
          abbreviated := "1분기|2분기|3분기|4분기"
          narrow := "1|2|3|4" } }
  eras :=
    { wide := "기원전|서기"
      abbreviated := "BC|AD" }
  dayPeriods :=
    { format :=
        { wide := "am 오전|pm 오후|afternoon1 오후|evening1 저녁|midnight 자정|morning1 아침|morning2 오전|night1 밤|noon 정오"
          abbreviated := "am AM|pm PM|afternoon1 오후|evening1 저녁|midnight 자정|morning1 아침|morning2 오전|night1 밤|noon 정오" } }
  dayPeriodRules := "afternoon1 43200 64800|evening1 64800 75600|midnight 0|morning1 10800 21600|morning2 21600 43200|night1 75600 10800|noon 43200"
  dates :=
    { full := "y년 MMMM d일 EEEE"
      long := "y년 MMMM d일"
      medium := "y. M. d."
      short := "yy. M. d." }
  times :=
    { full := "a h시 m분 s초 zzzz"
      long := "a h시 m분 s초 z"
      medium := "a h:mm:ss"
      short := "a h:mm" }
  skeletons := "Bh B h시
Bhm B h:mm
Bhms B h:mm:ss
EBh (E) B h시
EBhm (E) B h:mm
EBhms (E) B h:mm:ss
EEEEd d일 EEEE
EHm (E) HH:mm
EHms (E) HH:mm:ss
Ed d일 (E)
Eh (E) a h
Ehm (E) a h:mm
Ehms (E) a h:mm:ss
Gy G y년
GyM G y/M
GyMEd G y/M/d (E)
GyMMM G y년 MMM
GyMMMEEEEd G y년 MMM d일 EEEE
GyMMMEd G y년 MMM d일 (E)
GyMMMd G y년 MMM d일
GyMd GGGGG y/M/d
H H시
HHmmss HH:mm:ss
Hms H시 m분 s초
Hmsv H시 m분 s초 v
Hv H시 v
M M월
MEEEEd M. d. EEEE
MEd M. d. (E)
MMMEEEEd MMM d일 EEEE
MMMEd MMM d일 (E)
MMMMW MMMM W번째 주
MMMMd MMMM d일
MMMd MMM d일
Md M. d.
d d일
h a h시
hm a h:mm
hms a h:mm:ss
hmsv a h:mm:ss v
hmv a h:mm v
hv a h시 v
mmss mm:ss
y y년
yM y. M.
yMEEEEd y. M. d. EEEE
yMEd y. M. d. (E)
yMM y. M.
yMMM y년 MMM
yMMMEEEEd y년 MMM d일 EEEE
yMMMEd y년 MMM d일 (E)
yMMMM y년 MMMM
yMMMd y년 MMM d일
yMd y. M. d.
yQQQ y년 QQQ
yQQQQ y년 QQQQ
yw Y년 w번째 주" :: Conventions.rootSkeletons
  zones :=
    { place := "\x7b0\x7d 시간"
      placeInRegion := "\x7b1\x7d(\x7b0\x7d)"
      unknownRegion := "알려지지 않은 지역"
      utcLong := "협정 세계시" }

/-- Chinese. -/
def zh : Conventions where
  numbers :=
    { currency := "¤#,##0.00" }
  compact :=
    { short := "other|0|0万|00万|000万|0000万|0亿|00亿|000亿|0000亿|0万亿|00万亿|000万亿"
      currency := "other|0|¤0万|¤00万|¤000万|¤0000万|¤0亿|¤00亿|¤000亿|¤0000亿|¤0万亿|¤00万亿|¤000万亿" }
  currencies := "AUD AU$|CNY ¥|ILR ILS|PHP PHP|XXX XXX" :: Conventions.rootCurrencies
  months :=
    { format :=
        { wide := "一月|二月|三月|四月|五月|六月|七月|八月|九月|十月|十一月|十二月"
          abbreviated := "1月|2月|3月|4月|5月|6月|7月|8月|9月|10月|11月|12月"
          narrow := "1|2|3|4|5|6|7|8|9|10|11|12" } }
  weekdays :=
    { format :=
        { wide := "星期一|星期二|星期三|星期四|星期五|星期六|星期日"
          abbreviated := "周一|周二|周三|周四|周五|周六|周日"
          narrow := "一|二|三|四|五|六|日" } }
  quarters :=
    { format :=
        { wide := "第一季度|第二季度|第三季度|第四季度"
          abbreviated := "1季度|2季度|3季度|4季度"
          narrow := "1|2|3|4" } }
  eras :=
    { wide := "公元前|公元" }
  dayPeriods :=
    { format :=
        { wide := "am 上午|pm 下午|afternoon1 中午|afternoon2 下午|evening1 晚上|midnight 午夜|morning1 清晨|morning2 上午|night1 凌晨"
          abbreviated := "am 上午|pm 下午|afternoon1 中午|afternoon2 下午|evening1 晚上|midnight 午夜|morning1 早上|morning2 上午|night1 凌晨" } }
  dayPeriodRules := "afternoon1 43200 46800|afternoon2 46800 68400|evening1 68400 86400|midnight 0|morning1 18000 28800|morning2 28800 43200|night1 0 18000"
  dates :=
    { full := "y年M月d日EEEE"
      long := "y年M月d日"
      medium := "y年M月d日"
      short := "y/M/d" }
  times :=
    { full := "zzzz HH:mm:ss"
      long := "z HH:mm:ss" }
  skeletons := "Bh Bh时
Bhm Bh:mm
Bhms Bh:mm:ss
EBh EBh时
EBhm EBh:mm
EBhms EBh:mm:ss
EHm EHH:mm
EHms EHH:mm:ss
Ed d日E
Eh Eah时
Ehm Eah:mm
Ehms Eah:mm:ss
Gy Gy年
GyM Gy年M月
GyMEd Gy-MM-ddE
GyMMM Gy年M月
GyMMMEd Gy年M月d日E
GyMMMd Gy年M月d日
GyMd Gy-MM-dd
H H时
Hmsv vHH:mm:ss
Hmv v HH:mm
Hv vH时
M M月
MEd M/dE
MMMEd M月d日E
MMMMW MMMM第W周
MMMMd M月d日
MMMd M月d日
MMdd MM/dd
Md M/d
d d日
h ah时
hm ah:mm
hms ah:mm:ss
hmsv vah:mm:ss
hmv vah:mm
hv vah时
y y年
yM y/M
yMEEEEd y年M月d日EEEE
yMEd y/M/dE
yMM y年M月
yMMM y年M月
yMMMEd y年M月d日E
yMMMM y年M月
yMMMd y年M月d日
yMd y/M/d
yQQQ y年第Q季度
yQQQQ y年第Q季度
yw Y年第w周" :: Conventions.rootSkeletons
  zones :=
    { place := "\x7b0\x7d时间"
      placeInRegion := "\x7b1\x7d（\x7b0\x7d）"
      unknownRegion := "未知地区"
      utcLong := "协调世界时" }

/-- Chinese (Traditional script). -/
def zhHant : Conventions where
  numbers :=
    { currency := "¤#,##0.00" }
  compact :=
    { short := "other|0|0萬|00萬|000萬|0000萬|0億|00億|000億|0000億|0兆|00兆|000兆"
      currency := "other|0|¤0萬|¤00萬|¤000萬|¤0000萬|¤0億|¤00億|¤000億|¤0000億|¤0兆|¤00兆|¤000兆" }
  currencies := "AUD AU$|JPY ¥|KRW ￦|PHP PHP|TWD $|XXX XXX" :: Conventions.rootCurrencies
  months :=
    { format :=
        { wide := "1月|2月|3月|4月|5月|6月|7月|8月|9月|10月|11月|12月"
          narrow := "1|2|3|4|5|6|7|8|9|10|11|12" } }
  weekdays :=
    { format :=
        { wide := "星期一|星期二|星期三|星期四|星期五|星期六|星期日"
          abbreviated := "週一|週二|週三|週四|週五|週六|週日"
          short := "一|二|三|四|五|六|日"
          narrow := "一|二|三|四|五|六|日" } }
  quarters :=
    { format :=
        { wide := "第1季|第2季|第3季|第4季"
          narrow := "1|2|3|4" } }
  eras :=
    { wide := "西元前|西元" }
  dayPeriods :=
    { format :=
        { wide := "am 上午|pm 下午|afternoon1 中午|afternoon2 下午|evening1 晚上|midnight 午夜|morning1 清晨|morning2 上午|night1 凌晨" } }
  dayPeriodRules := "afternoon1 43200 46800|afternoon2 46800 68400|evening1 68400 86400|midnight 0|morning1 18000 28800|morning2 28800 43200|night1 0 18000"
  dates :=
    { full := "y年M月d日 EEEE"
      long := "y年M月d日"
      medium := "y年M月d日"
      short := "y/M/d" }
  times :=
    { full := "Bh:mm:ss [zzzz]"
      long := "Bh:mm:ss [z]"
      medium := "Bh:mm:ss"
      short := "Bh:mm" }
  moments :=
    { short := "\x7b1\x7d\u2009\x7b0\x7d" }
  skeletons := "Bh Bh時
Bhm Bh:mm
Bhms Bh:mm:ss
EBh EBh時
EBhm EBh:mm
EBhms EBh:mm:ss
Ed d E
Eh Eah時
Ehm EBh:mm
Ehms EBh:mm:ss
Gy Gy年
GyM Gy/M
GyMEd Gy/M/d（E）
GyMMM Gy年M月
GyMMMEd Gy年M月d日 E
GyMMMd Gy年M月d日
GyMd G y/M/d
H H時
Hmsv HH:mm:ss [v]
Hmv HH:mm [v]
M M月
MEd M/d（E）
MMMEd M月d日E
MMMMW MMMM的第W週
MMMMd M月d日
MMMd M月d日
MMdd MM/dd
Md M/d
d d日
h Bh時
hm Bh:mm
hms Bh:mm:ss
hmsv Bh:mm:ss [v]
hmv Bh:mm [v]
hv ah v
y y年
yM y/M
yMEEEEd y年M月d日 EEEE
yMEd y/M/d（E）
yMM y/MM
yMMM y年M月
yMMMEd y年M月d日E
yMMMM y年M月
yMMMd y年M月d日
yMd y/M/d
yQQQ y年QQQ
yQQQQ y年QQQQ
yw Y年的第w週" :: Conventions.rootSkeletons
  zones :=
    { place := "\x7b0\x7d時間"
      placeInRegion := "\x7b1\x7d（\x7b0\x7d）"
      unknownRegion := "未知區域"
      utcLong := "世界標準時間" }

/-- Korean (China). -/
def koCN : Conventions :=
  { ko with
    times :=
      { ko.times with
        full := "zzzz HH:mm:ss"
        long := "z HH:mm:ss"
        medium := "HH:mm:ss"
        short := "HH:mm" } }

/-- Chinese (Traditional script, Hong Kong SAR China). -/
def zhHantHK : Conventions :=
  { zhHant with
    compact :=
      { zhHant.compact with
        short := "other|0K|00K|000K|0M|00M|000M|0B|00B|000B|0T|00T|000T"
        currency := "other|¤0K|¤00K|¤000K|¤0M|¤00M|¤000M|¤0B|¤00B|¤000B|¤0T|¤00T|¤000T" }
    currencies := "KRW ₩|TWD NT$" :: zhHant.currencies
    quarters :=
      { zhHant.quarters with
        format :=
          { zhHant.quarters.format with
            abbreviated := "Q1|Q2|Q3|Q4" }
        standAlone :=
          { zhHant.quarters.standAlone with
            abbreviated := "Q1|Q2|Q3|Q4" } }
    eras :=
      { wide := "公元前|公元" }
    dayPeriods :=
      { format :=
          { wide := "am 上午|pm 下午|afternoon1 中午|afternoon2 下午|evening1 晚上|midnight 午夜|morning1 早上|morning2 上午|night1 凌晨" } }
    dates :=
      { zhHant.dates with
        full := "y年M月d日EEEE"
        short := "d/M/y" }
    times :=
      { zhHant.times with
        full := "ah:mm:ss [zzzz]"
        long := "ah:mm:ss [z]"
        medium := "ah:mm:ss"
        short := "ah:mm" }
    skeletons := "Ehm E ah:mm
Ehms E ah:mm:ss
GyMMMEd Gy年M月d日E
Hv vH時
MEd d/M（E）
MMMMW M月第W週
MMdd dd/MM
Md d/M
h ah時
hm ah:mm
hms ah:mm:ss
hmsv ah:mm:ss [v]
hmv ah:mm [v]
hv vah時
yM M/y
yMEd d/M/y（E）
yMM MM/y
yMd d/M/y
yw Y年第w週" :: zhHant.skeletons }

/-- Chinese (Traditional script, Malaysia). -/
def zhHantMY : Conventions :=
  { zhHant with
    times :=
      { zhHant.times with
        full := "zzzz ah:mm:ss"
        long := "z ah:mm:ss"
        medium := "ah:mm:ss"
        short := "ah:mm" } }

/-- Chinese (Simplified script, Hong Kong SAR China). -/
def zhHansHK : Conventions :=
  { zh with
    currencies := "CNY CN¥" :: zh.currencies
    dates :=
      { zh.dates with
        short := "d/M/yy" }
    times :=
      { zh.times with
        full := "zzzz ah:mm:ss"
        long := "z ah:mm:ss"
        medium := "ah:mm:ss"
        short := "ah:mm" }
    skeletons := "HHmm HH:mm
MEd E, d/M
MMMMdd M月d日
MMdd dd/MM
Md d/M
yM M/y
yMEd d/M/y（E）
yMM MM/y
yMd d/M/y" :: zh.skeletons }

/-- Chinese (Simplified script, Macao SAR China). -/
def zhHansMO : Conventions :=
  { zh with
    currencies := "CNY CN¥|MOP MOP$" :: zh.currencies
    dates :=
      { zh.dates with
        short := "d/M/yy" }
    times :=
      { zh.times with
        full := "zzzz ah:mm:ss"
        long := "z ah:mm:ss"
        medium := "ah:mm:ss"
        short := "ah:mm" }
    skeletons := "MEd E, d/M
MMMMdd M月d日
MMdd dd/MM
Md d/M
yMEd y年M月d日，E
yMd y年M月d日" :: zh.skeletons }

/-- Chinese (Simplified script, Malaysia). -/
def zhHansMY : Conventions :=
  { zh with
    times :=
      { zh.times with
        full := "zzzz ah:mm:ss"
        long := "z ah:mm:ss"
        medium := "ah:mm:ss"
        short := "ah:mm" } }

/-- Chinese (Simplified script, Singapore). -/
def zhHansSG : Conventions :=
  { zh with
    currencies := "CNY CN¥|SGD $" :: zh.currencies
    dates :=
      { zh.dates with
        short := "dd/MM/yy" }
    times :=
      { zh.times with
        full := "zzzz ah:mm:ss"
        long := "z ah:mm:ss"
        medium := "ah:mm:ss"
        short := "ah:mm" }
    skeletons := "MEd M-dE
MMM M月
MMMMdd M月d日
MMdd MM-dd
Md M-d
yMEd y年M月d日，E
yMd y年M月d日" :: zh.skeletons }

/-- Chinese (Traditional script, Macao SAR China). -/
def zhHantMO : Conventions :=
  { zhHantHK with
    currencies := "MOP MOP$" :: zhHantHK.currencies }

/-- The locales of Chinese, Japanese and Korean with their conventions. -/
def eastAsian : List (String × Conventions) :=
  [ ("ja", ja), ("ja_JP", ja), ("ko", ko), ("ko_CN", koCN), ("ko_KP", ko), ("ko_KR", ko),
    ("zh", zh), ("zh_Hans", zh), ("zh_Hans_CN", zh), ("zh_Hans_HK", zhHansHK),
    ("zh_Hans_MO", zhHansMO), ("zh_Hans_MY", zhHansMY), ("zh_Hans_SG", zhHansSG),
    ("zh_Hant", zhHant), ("zh_Hant_HK", zhHantHK), ("zh_Hant_MO", zhHantMO),
    ("zh_Hant_MY", zhHantMY), ("zh_Hant_TW", zhHant) ]

end Phrasebook.ConventionsOf
