import Phrasebook.Conventions.Basic

/-!
# Conventions of the Baltic and Uralic languages
-/

namespace Phrasebook.ConventionsOf

/-- Estonian. -/
def et : Conventions where
  symbols :=
    { decimal := ","
      group := "\u00a0"
      minus := "−"
      exponential := "×10^" }
  numbers :=
    { currency := "#,##0.00\u00a0¤" }
  compact :=
    { short := "other|0\u00a0tuh|00\u00a0tuh|000\u00a0tuh|0\u00a0mln|00\u00a0mln|000\u00a0mln|0\u00a0mld|00\u00a0mld|000\u00a0mld|0\u00a0trln|00\u00a0trln|000\u00a0trln"
      long := "other|0 tuhat|00 tuhat|000 tuhat|0 miljonit|00 miljonit|000 miljonit|0 miljardit|00 miljardit|000 miljardit|0 triljonit|00 triljonit|000 triljonit
one|0 tuhat|00 tuhat|000 tuhat|0 miljon|00 miljonit|000 miljonit|0 miljard|00 miljardit|000 miljardit|0 triljon|00 triljonit|000 triljonit"
      currency := "other|0\u00a0tuh\u00a0¤|00\u00a0tuh\u00a0¤|000\u00a0tuh\u00a0¤|0\u00a0mln\u00a0¤|00\u00a0mln\u00a0¤|000\u00a0mln\u00a0¤|0\u00a0mld\u00a0¤|00\u00a0mld\u00a0¤|000\u00a0mld\u00a0¤|0\u00a0trln\u00a0¤|00\u00a0trln\u00a0¤|000\u00a0trln\u00a0¤" }
  currencies := "AUD AU$|EEK kr|JPY ¥|PHP PHP|THB ฿|USD $" :: Conventions.rootCurrencies
  plurals := "one i = 1 and v = 0"
  months :=
    { format :=
        { wide := "jaanuar|veebruar|märts|aprill|mai|juuni|juuli|august|september|oktoober|november|detsember"
          abbreviated := "jaan|veebr|märts|apr|mai|juuni|juuli|aug|sept|okt|nov|dets"
          narrow := "J|V|M|A|M|J|J|A|S|O|N|D" } }
  weekdays :=
    { format :=
        { wide := "esmaspäev|teisipäev|kolmapäev|neljapäev|reede|laupäev|pühapäev"
          abbreviated := "E|T|K|N|R|L|P" } }
  quarters :=
    { format :=
        { wide := "1. kvartal|2. kvartal|3. kvartal|4. kvartal"
          abbreviated := "K1|K2|K3|K4"
          narrow := "1|2|3|4" }
      standAlone :=
        { wide := "1. kvartal|2. kvartal|3. kvartal|4. kvartal"
          abbreviated := "K1|K2|K3|K4"
          narrow := "1.|2.|3.|4." } }
  eras :=
    { wide := "enne Kristust|pärast Kristust"
      abbreviated := "eKr|pKr" }
  dayPeriods :=
    { format :=
        { wide := "am AM|pm PM|afternoon1 pärastlõunal|evening1 õhtul|midnight keskööl|morning1 hommikul|night1 öösel|noon keskpäeval" }
      standAlone :=
        { wide := "am AM|pm PM|afternoon1 pärastlõuna|evening1 õhtu|midnight kesköö|morning1 hommik|night1 öö|noon keskpäev" } }
  dayPeriodRules := "afternoon1 43200 64800|evening1 64800 82800|midnight 0|morning1 18000 43200|night1 82800 18000|noon 43200"
  dates :=
    { full := "EEEE, d. MMMM y"
      long := "d. MMMM y"
      medium := "d. MMM y"
      short := "dd.MM.yy" }
  skeletons := "Ed E, d
Ehm E h:mm\u202fa
Ehms E h:mm:ss\u202fa
Gy y G
GyM MM.y G
GyMEd E, dd.MM.y G
GyMMM MMM y G
GyMMMEd E, d. MMMM y G
GyMMMd d. MMM y G
GyMd d.MM.y GGGGG
M M
MEd E, d.M
MMM MMM
MMMEd E, d. MMM
MMMMEd E, d. MMMM
MMMMW MMMM (W. 'nädal')
MMMMd d. MMMM
MMMd d. MMM
Md d.M
hm h:mm\u202fa
hms h:mm:ss\u202fa
hmsv h:mm:ss\u202fa v
hmv h:mm\u202fa v
mmss mm:ss
yM M.y
yMEd E, d.M.y
yMMM MMM y
yMMMEd E, d. MMMM y
yMMMM MMMM y
yMMMd d. MMM y
yMd d.M.y
yQQQ QQQ y
yQQQQ QQQQ y
yw w. 'nädal' (Y)" :: Conventions.rootSkeletons
  zones :=
    { offset := "GMT \x7b0\x7d"
      place := "(\x7b0\x7d)"
      unknownRegion := "tundmatu piirkond"
      utcLong := "Koordineeritud maailmaaeg" }

/-- Finnish. -/
def fi : Conventions where
  symbols :=
    { decimal := ","
      group := "\u00a0"
      minus := "−" }
  numbers :=
    { percent := "#,##0\u00a0%"
      currency := "#,##0.00\u00a0¤" }
  compact :=
    { short := "other|0\u00a0t'.'|00\u00a0t'.'|000\u00a0t'.'|0\u00a0milj'.'|00\u00a0milj'.'|000\u00a0milj'.'|0\u00a0mrd'.'|00\u00a0mrd'.'|000\u00a0mrd'.'|0\u00a0bilj'.'|00\u00a0bilj'.'|000\u00a0bilj'.'"
      long := "other|0 tuhatta|00 tuhatta|000 tuhatta|0 miljoonaa|00 miljoonaa|000 miljoonaa|0 miljardia|00 miljardia|000 miljardia|0 biljoonaa|00 biljoonaa|000 biljoonaa
one|0 tuhat|00 tuhatta|000 tuhatta|0 miljoona|00 miljoonaa|000 miljoonaa|0 miljardi|00 miljardia|000 miljardia|0 biljoona|00 biljoonaa|000 biljoonaa"
      currency := "other|0\u00a0t'.'\u00a0¤|00\u00a0t'.'\u00a0¤|000\u00a0t'.'\u00a0¤|0\u00a0milj'.'\u00a0¤|00\u00a0milj'.'\u00a0¤|000\u00a0milj'.'\u00a0¤|0\u00a0mrd'.'\u00a0¤|00\u00a0mrd'.'\u00a0¤|000\u00a0mrd'.'\u00a0¤|0\u00a0bilj'.'\u00a0¤|00\u00a0bilj'.'\u00a0¤|000\u00a0bilj'.'\u00a0¤" }
  currencies := "AUD AUD|BRL BRL|CAD CAD|CNY CNY|FIM mk|HKD HKD|ILS ILS|INR INR|JPY ¥|KRW KRW|MXN MXN|NZD NZD|PHP PHP|TWD TWD|USD $|VND VND|XCD XCD|XPF XPF|XXX XXX" :: Conventions.rootCurrencies
  plurals := "one i = 1 and v = 0"
  months :=
    { format :=
        { wide := "tammikuuta|helmikuuta|maaliskuuta|huhtikuuta|toukokuuta|kesäkuuta|heinäkuuta|elokuuta|syyskuuta|lokakuuta|marraskuuta|joulukuuta"
          abbreviated := "tammi|helmi|maalis|huhti|touko|kesä|heinä|elo|syys|loka|marras|joulu"
          narrow := "T|H|M|H|T|K|H|E|S|L|M|J" }
      standAlone :=
        { wide := "tammikuu|helmikuu|maaliskuu|huhtikuu|toukokuu|kesäkuu|heinäkuu|elokuu|syyskuu|lokakuu|marraskuu|joulukuu"
          abbreviated := "tammi|helmi|maalis|huhti|touko|kesä|heinä|elo|syys|loka|marras|joulu"
          narrow := "T|H|M|H|T|K|H|E|S|L|M|J" } }
  weekdays :=
    { format :=
        { wide := "maanantaina|tiistaina|keskiviikkona|torstaina|perjantaina|lauantaina|sunnuntaina"
          abbreviated := "ma|ti|ke|to|pe|la|su"
          narrow := "M|T|K|T|P|L|S" }
      standAlone :=
        { wide := "maanantai|tiistai|keskiviikko|torstai|perjantai|lauantai|sunnuntai"
          abbreviated := "ma|ti|ke|to|pe|la|su"
          narrow := "M|T|K|T|P|L|S" } }
  quarters :=
    { format :=
        { wide := "1. neljännes|2. neljännes|3. neljännes|4. neljännes"
          abbreviated := "1. nelj.|2. nelj.|3. nelj.|4. nelj."
          narrow := "1|2|3|4" } }
  eras :=
    { wide := "ennen Kristuksen syntymää|jälkeen Kristuksen syntymän"
      abbreviated := "eKr.|jKr."
      narrow := "eKr|jKr" }
  dayPeriods :=
    { format :=
        { wide := "am ap.|pm ip.|afternoon1 iltapäivällä|evening1 illalla|midnight keskiyöllä|morning1 aamulla|morning2 aamupäivällä|night1 yöllä|noon keskipäivällä"
          abbreviated := "am ap.|pm ip.|afternoon1 iltap.|evening1 illalla|midnight keskiyöllä|morning1 aamulla|morning2 aamup.|night1 yöllä|noon keskip."
          narrow := "am ap.|pm ip.|afternoon1 ip.|evening1 illalla|midnight ky.|morning1 aamulla|morning2 ap.|night1 yöllä|noon kp." }
      standAlone :=
        { wide := "am ap.|pm ip.|afternoon1 iltapäivä|evening1 ilta|midnight keskiyö|morning1 aamu|morning2 aamupäivä|night1 yö|noon keskipäivä"
          abbreviated := "am ap.|pm ip.|afternoon1 iltap.|evening1 ilta|midnight keskiyö|morning1 aamu|morning2 aamup.|night1 yö|noon keskip."
          narrow := "am ap.|pm ip.|afternoon1 ip.|evening1 ilta|midnight ky.|morning1 aamu|morning2 ap.|night1 yö|noon kp." } }
  dayPeriodRules := "afternoon1 43200 64800|evening1 64800 82800|midnight 0|morning1 18000 36000|morning2 36000 43200|night1 82800 18000|noon 43200"
  dates :=
    { full := "cccc d. MMMM y"
      long := "d. MMMM y"
      medium := "d.M.y"
      short := "d.M.y" }
  times :=
    { full := "H.mm.ss zzzz"
      long := "H.mm.ss z"
      medium := "H.mm.ss"
      short := "H.mm" }
  skeletons := "Bhm h.mm B
Bhms h.mm.ss B
EBhm E h.mm B
EBhms E h.mm.ss B
EHm E H.mm
EHms E H.mm.ss
Ed E d.
Ehm E h.mm\u202fa
Ehms E h.mm.ss\u202fa
Gy y G
GyM M.y G
GyMEd E d.M.y G
GyMMM LLL y G
GyMMMEd E d.M.y G
GyMMMMEd E d. MMMM y G
GyMMMMd d. MMMM y G
GyMMMd d.M.y G
GyMd M.d.y G
H H
Hm H.mm
Hms H.mm.ss
Hmsv H.mm.ss v
Hmv H.mm v
Hv H 'h' v
MEd E d.M.
MMMEd ccc d.M.
MMMMEd ccc d. MMMM
MMMMW LLLL'n' W. 'viikko'
MMMMd d. MMMM
MMMd d.M.
Md d.M.
hm h.mm\u202fa
hms h.mm.ss\u202fa
hmsv h.mm.ss\u202fa v
hmv h.mm\u202fa v
ms m.ss
yM L.y
yMEd E d.M.y
yMM M.y
yMMM LLL y
yMMMEd E d.M.y
yMMMM LLLL y
yMMMMEd E d. MMMM y
yMMMMccccd cccc d. MMMM y
yMMMMd d. MMMM y
yMMMd d.M.y
yMd d.M.y
yQQQ QQQ y
yQQQQ QQQQ y
yw 'vuoden' Y 'viikko' w" :: Conventions.rootSkeletons
  zones :=
    { offset := "UTC\x7b0\x7d"
      place := "aikavyöhyke: \x7b0\x7d"
      unknownRegion := "tuntematon alue"
      utcLong := "UTC-yleisaika" }

/-- Hungarian. -/
def hu : Conventions where
  symbols :=
    { decimal := ","
      group := "\u00a0" }
  numbers :=
    { currency := "#,##0.00\u00a0¤" }
  compact :=
    { short := "other|0\u00a0E|00\u00a0E|000\u00a0E|0\u00a0M|00\u00a0M|000\u00a0M|0\u00a0Mrd|00\u00a0Mrd|000\u00a0Mrd|0\u00a0B|00\u00a0B|000\u00a0B"
      long := "other|0 ezer|00 ezer|000 ezer|0 millió|00 millió|000 millió|0 milliárd|00 milliárd|000 milliárd|0 billió|00 billió|000 billió"
      currency := "other|0\u00a0E\u00a0¤|00\u00a0E\u00a0¤|000\u00a0E\u00a0¤|0\u00a0M\u00a0¤|00\u00a0M\u00a0¤|000\u00a0M\u00a0¤|0\u00a0Mrd\u00a0¤|00\u00a0Mrd\u00a0¤|000\u00a0Mrd\u00a0¤|0\u00a0B\u00a0¤|00\u00a0B\u00a0¤|000\u00a0B\u00a0¤" }
  currencies := "AUD AUD|BRL BRL|CAD CAD|CNY CNY|EUR EUR|GBP GBP|HKD HKD|HUF Ft|ILS ILS|INR INR|JPY ¥|KRW KRW|MXN MXN|NZD NZD|PHP PHP|TWD TWD|USD USD|VND VND|XCD XCD" :: Conventions.rootCurrencies
  plurals := "one n = 1"
  months :=
    { format :=
        { wide := "január|február|március|április|május|június|július|augusztus|szeptember|október|november|december"
          abbreviated := "jan.|febr.|márc.|ápr.|máj.|jún.|júl.|aug.|szept.|okt.|nov.|dec."
          narrow := "J|F|M|Á|M|J|J|A|Sz|O|N|D" } }
  weekdays :=
    { format :=
        { wide := "hétfő|kedd|szerda|csütörtök|péntek|szombat|vasárnap"
          abbreviated := "H|K|Sze|Cs|P|Szo|V"
          narrow := "H|K|Sz|Cs|P|Sz|V" } }
  quarters :=
    { format :=
        { wide := "I. negyedév|II. negyedév|III. negyedév|IV. negyedév"
          abbreviated := "I. n.év|II. n.év|III. n.év|IV. n.év"
          narrow := "I.|II.|III.|IV." }
      standAlone :=
        { wide := "1. negyedév|2. negyedév|3. negyedév|4. negyedév"
          abbreviated := "1. n.év|2. n.év|3. n.év|4. n.év"
          narrow := "1.|2.|3.|4." } }
  eras :=
    { wide := "Krisztus előtt|időszámításunk szerint"
      abbreviated := "i. e.|i. sz."
      narrow := "ie.|isz." }
  dayPeriods :=
    { format :=
        { wide := "am de.|pm du.|afternoon1 délután|evening1 este|midnight éjfél|morning1 reggel|morning2 délelőtt|night1 éjjel|night2 hajnal|noon dél"
          abbreviated := "am de.|pm du.|afternoon1 du.|evening1 este|midnight éjfél|morning1 reggel|morning2 de.|night1 éjjel|night2 hajnal|noon dél"
          narrow := "am de.|pm du.|afternoon1 délután|evening1 este|midnight éjfél|morning1 reggel|morning2 de.|night1 éjjel|night2 hajnal|noon dél" } }
  dayPeriodRules := "afternoon1 43200 64800|evening1 64800 75600|midnight 0|morning1 21600 32400|morning2 32400 43200|night1 75600 14400|night2 14400 21600|noon 43200"
  dates :=
    { full := "y. MMMM d., EEEE"
      long := "y. MMMM d."
      medium := "y. MMM d."
      short := "y. MM. dd." }
  times :=
    { full := "H:mm:ss zzzz"
      long := "H:mm:ss z"
      medium := "H:mm:ss"
      short := "H:mm" }
  skeletons := "Bh B h
Bhm B h:mm
Bhms B h:mm:ss
EBh E B h
EBhm E B h:mm
EBhms E B h:mm:ss
Ed d., E
Eh E a\u202fh
Ehm E h:mm\u202fa
Ehms E h:mm:ss\u202fa
Gy G y.
GyM G y. MM.
GyMEd G y. MM. dd., E
GyMMM G y. MMM
GyMMMEd G y. MMM d., E
GyMMMd G y. MMM d.
GyMd GGGGG y. MM. dd.
H H
Hm H:mm
Hms H:mm:ss
MEd M. d., E
MMMEd MMM d., E
MMMMW MMMM W. 'hete'
MMMMd MMMM d.
MMMd MMM d.
Md M. d.
h a\u202fh
hm a\u202fh:mm
hms a\u202fh:mm:ss
hmsv a\u202fh:mm:ss v
hmv a\u202fh:mm v
hv a\u202fh v
mmss mm:ss
y y.
yM y. M.
yMEd y. MM. dd., E
yMMM y. MMM
yMMMEd y. MMM d., E
yMMMM y. MMMM
yMMMd y. MMM d.
yMd y. MM. dd.
yQQQ y. QQQ
yQQQQ y. QQQQ
yw Y w. 'hete'" :: Conventions.rootSkeletons
  zones :=
    { place := "\x7b0\x7d idő"
      unknownRegion := "Ismeretlen körzet"
      utcLong := "koordinált világidő" }

/-- Lithuanian. -/
def lt : Conventions where
  symbols :=
    { decimal := ","
      group := "\u00a0"
      minus := "−"
      exponential := "×10^" }
  numbers :=
    { percent := "#,##0\u00a0%"
      currency := "#,##0.00\u00a0¤" }
  compact :=
    { short := "other|0\u00a0tūkst'.'|00\u00a0tūkst'.'|000\u00a0tūkst'.'|0\u00a0mln'.'|00\u00a0mln'.'|000\u00a0mln'.'|0\u00a0mlrd'.'|00\u00a0mlrd'.'|000\u00a0mlrd'.'|0\u00a0trln'.'|00\u00a0trln'.'|000\u00a0trln'.'"
      long := "other|0 tūkstančių|00 tūkstančių|000 tūkstančių|0 milijonų|00 milijonų|000 milijonų|0 milijardų|00 milijardų|000 milijardų|0 trilijonų|00 trilijonų|000 trilijonų
few|0 tūkstančiai|00 tūkstančiai|000 tūkstančiai|0 milijonai|00 milijonai|000 milijonai|0 milijardai|00 milijardai|000 milijardai|0 trilijonai|00 trilijonai|000 trilijonai
many|0 tūkstančio|00 tūkstančio|000 tūkstančio|0 milijono|00 milijono|000 milijono|0 milijardo|00 milijardo|000 milijardo|0 trilijono|00 trilijono|000 trilijono
one|0 tūkstantis|00 tūkstantis|000 tūkstantis|0 milijonas|00 milijonas|000 milijonas|0 milijardas|00 milijardas|000 milijardas|0 trilijonas|00 trilijonas|000 trilijonas"
      currency := "other|0\u00a0tūkst'.'\u00a0¤|00\u00a0tūkst'.'\u00a0¤|000\u00a0tūkst'.'\u00a0¤|0\u00a0mln'.'\u00a0¤|00\u00a0mln'.'\u00a0¤|000\u00a0mln'.'\u00a0¤|0\u00a0mlrd'.'\u00a0¤|00\u00a0mlrd'.'\u00a0¤|000\u00a0mlrd'.'\u00a0¤|0\u00a0trln'.'\u00a0¤|00\u00a0trln'.'\u00a0¤|000\u00a0trln'.'\u00a0¤" }
  currencies := "AUD AUD|BRL BRL|CAD CAD|CNY CNY|GBP GBP|HKD HKD|ILS ILS|INR INR|JPY JPY|KRW KRW|MXN MXN|NZD NZD|PHP PHP|TWD TWD|USD USD|VND VND|XAF XAF|XCD XCD|XOF XOF|XPF XPF" :: Conventions.rootCurrencies
  plurals := "few n % 10 = 2..9 and n % 100 != 11..19|many f != 0|one n % 10 = 1 and n % 100 != 11..19"
  months :=
    { format :=
        { wide := "sausio|vasario|kovo|balandžio|gegužės|birželio|liepos|rugpjūčio|rugsėjo|spalio|lapkričio|gruodžio"
          abbreviated := "saus.|vas.|kov.|bal.|geg.|birž.|liep.|rugp.|rugs.|spal.|lapkr.|gruod."
          narrow := "S|V|K|B|G|B|L|R|R|S|L|G" }
      standAlone :=
        { wide := "sausis|vasaris|kovas|balandis|gegužė|birželis|liepa|rugpjūtis|rugsėjis|spalis|lapkritis|gruodis"
          abbreviated := "saus.|vas.|kov.|bal.|geg.|birž.|liep.|rugp.|rugs.|spal.|lapkr.|gruod."
          narrow := "S|V|K|B|G|B|L|R|R|S|L|G" } }
  weekdays :=
    { format :=
        { wide := "pirmadienis|antradienis|trečiadienis|ketvirtadienis|penktadienis|šeštadienis|sekmadienis"
          abbreviated := "pr|an|tr|kt|pn|št|sk"
          short := "Pr|An|Tr|Kt|Pn|Št|Sk"
          narrow := "P|A|T|K|P|Š|S" } }
  quarters :=
    { format :=
        { wide := "I ketvirtis|II ketvirtis|III ketvirtis|IV ketvirtis"
          abbreviated := "I k.|II k.|III k.|IV k."
          narrow := "1|2|3|4" }
      standAlone :=
        { wide := "I ketvirtis|II ketvirtis|III ketvirtis|IV ketvirtis"
          abbreviated := "I ketv.|II ketv.|III ketv.|IV ketv."
          narrow := "1|2|3|4" } }
  eras :=
    { wide := "prieš Kristų|po Kristaus"
      abbreviated := "pr. Kr.|po Kr." }
  dayPeriods :=
    { format :=
        { wide := "am priešpiet|pm popiet|afternoon1 popietė|evening1 vakaras|midnight vidurnaktis|morning1 rytas|night1 naktis|noon perpiet"
          narrow := "am pr.\u202fp.|pm pop.|afternoon1 popietė|evening1 vakaras|midnight vidurnaktis|morning1 rytas|night1 naktis|noon perpiet" }
      standAlone :=
        { wide := "am priešpiet|pm popiet|afternoon1 diena|evening1 vakaras|midnight vidurnaktis|morning1 rytas|night1 naktis|noon vidurdienis"
          narrow := "am pr.\u202fp.|pm pop.|afternoon1 diena|evening1 vakaras|midnight vidurnaktis|morning1 rytas|night1 naktis|noon vidurdienis" } }
  dayPeriodRules := "afternoon1 43200 64800|evening1 64800 86400|midnight 0|morning1 21600 43200|night1 0 21600|noon 43200"
  dates :=
    { full := "y 'm'. MMMM d 'd'., EEEE"
      long := "y 'm'. MMMM d 'd'."
      medium := "y-MM-dd" }
  skeletons := "EBh h B, E
EBhm h:mm B, E
EBhms h:mm:ss B, E
EHm HH:mm, E
EHms HH:mm:ss, E
Eh h\u202fa, E
Ehm hh:mm\u202fa, E
Ehms hh:mm:ss\u202fa, E
Gy y 'm'. G
GyM y-MM G
GyMEd y-MM-dd G, E
GyMMM y-MM G
GyMMMEd y-MM-dd G, E
GyMMMM y 'm'. G, LLLL
GyMMMMEd y 'm'. G MMMM d 'd'., E
GyMMMMd y 'm'. G MMMM d 'd'.
GyMMMd y-MM-dd G
GyMd y-MM-dd G
Hmsv HH:mm:ss; v
Hmv HH:mm; v
Hv HH 'h' v
M MM
MMM MM
MMMEd MM-dd, E
MMMM LLLL
MMMMEd MMMM d 'd'., E
MMMMW MMMM W 'sav'.
MMMMd MMMM d 'd'.
MMMd MM-dd
MMdd MM-dd
Md MM-d
d dd
h hh\u202fa
hm hh:mm\u202fa
hms hh:mm:ss\u202fa
hmsv hh:mm:ss\u202fa; v
hmv hh:mm\u202fa; v
yMMM y-MM
yMMMEd y-MM-dd, E
yMMMM y 'm'. LLLL
yMMMMEd y 'm'. MMMM d 'd'., E
yMMMMd y 'm'. MMMM d 'd'.
yMMMd y-MM-dd
yw Y w 'sav'." :: Conventions.rootSkeletons
  zones :=
    { place := "Laikas: \x7b0\x7d"
      unknownRegion := "nežinoma sritis"
      utcLong := "pasaulio suderintasis laikas" }

/-- Latvian. -/
def lv : Conventions where
  symbols :=
    { decimal := ","
      group := "\u00a0" }
  numbers :=
    { currency := "#,##0.00\u00a0¤" }
  compact :=
    { short := "other|0\u00a0tūkst'.'|00\u00a0tūkst'.'|000\u00a0tūkst'.'|0\u00a0milj'.'|00\u00a0milj'.'|000\u00a0milj'.'|0\u00a0mljrd'.'|00\u00a0mljrd'.'|000\u00a0mljrd'.'|0\u00a0trilj'.'|00\u00a0trilj'.'|000\u00a0trilj'.'"
      long := "other|0 tūkstoši|00 tūkstoši|000 tūkstoši|0 miljoni|00 miljoni|000 miljoni|0 miljardi|00 miljardi|000 miljardi|0 triljoni|00 triljoni|000 triljoni
one|0 tūkstotis|00 tūkstotis|000 tūkstotis|0 miljons|00 miljons|000 miljons|0 miljards|00 miljards|000 miljards|0 triljons|00 triljons|000 triljons
zero|0 tūkstošu|00 tūkstoši|000 tūkstoši|0 miljonu|00 miljoni|000 miljoni|0 miljardu|00 miljardi|000 miljardi|0 triljonu|00 triljoni|000 triljoni"
      currency := "other|0\u00a0tūkst'.'\u00a0¤|00\u00a0tūkst'.'\u00a0¤|000\u00a0tūkst'.'\u00a0¤|0\u00a0milj'.'\u00a0¤|00\u00a0milj'.'\u00a0¤|000\u00a0milj'.'\u00a0¤|0\u00a0mljrd'.'\u00a0¤|00\u00a0mljrd'.'\u00a0¤|000\u00a0mljrd'.'\u00a0¤|0\u00a0trilj'.'\u00a0¤|00\u00a0trilj'.'\u00a0¤|000\u00a0trilj'.'\u00a0¤" }
  currencies := "AUD AU$|JPY ¥|LVL Ls|PHP PHP|THB ฿|USD $" :: Conventions.rootCurrencies
  plurals := "one n % 10 = 1 and n % 100 != 11 or v = 2 and f % 10 = 1 and f % 100 != 11 or v != 2 and f % 10 = 1|zero n % 10 = 0 or n % 100 = 11..19 or v = 2 and f % 100 = 11..19"
  months :=
    { format :=
        { wide := "janvāris|februāris|marts|aprīlis|maijs|jūnijs|jūlijs|augusts|septembris|oktobris|novembris|decembris"
          abbreviated := "janv.|febr.|marts|apr.|maijs|jūn.|jūl.|aug.|sept.|okt.|nov.|dec."
          narrow := "J|F|M|A|M|J|J|A|S|O|N|D" } }
  weekdays :=
    { format :=
        { wide := "pirmdiena|otrdiena|trešdiena|ceturtdiena|piektdiena|sestdiena|svētdiena"
          abbreviated := "pirmd.|otrd.|trešd.|ceturtd.|piektd.|sestd.|svētd."
          short := "Pr|Ot|Tr|Ce|Pk|Se|Sv"
          narrow := "P|O|T|C|P|S|S" }
      standAlone :=
        { wide := "Pirmdiena|Otrdiena|Trešdiena|Ceturtdiena|Piektdiena|Sestdiena|Svētdiena"
          abbreviated := "Pirmd.|Otrd.|Trešd.|Ceturtd.|Piektd.|Sestd.|Svētd."
          short := "Pr|Ot|Tr|Ce|Pk|Se|Sv"
          narrow := "P|O|T|C|P|S|S" } }
  quarters :=
    { format :=
        { wide := "1. ceturksnis|2. ceturksnis|3. ceturksnis|4. ceturksnis"
          abbreviated := "1.\u00a0cet.|2.\u00a0cet.|3.\u00a0cet.|4.\u00a0cet."
          narrow := "1.|2.|3.|4." } }
  eras :=
    { wide := "pirms mūsu ēras|mūsu ērā"
      abbreviated := "p.m.ē.|m.ē." }
  dayPeriods :=
    { format :=
        { wide := "am priekšpusdienā|pm pēcpusdienā|afternoon1 pēcpusdienā|evening1 vakarā|midnight pusnaktī|morning1 no rīta|night1 naktī|noon pusdienlaikā"
          abbreviated := "am priekšp.|pm pēcp.|afternoon1 pēcpusd.|evening1 vakarā|midnight pusnaktī|morning1 no rīta|night1 naktī|noon pusd." }
      standAlone :=
        { wide := "am priekšpusdiena|pm pēcpusdiena|afternoon1 pēcpusdiena|evening1 vakars|midnight pusnakts|morning1 rīts|night1 nakts|noon pusdienlaiks"
          abbreviated := "am priekšp.|pm pēcpusd.|afternoon1 pēcpusd.|evening1 vakars|midnight pusnakts|morning1 rīts|night1 nakts|noon pusd." } }
  dayPeriodRules := "afternoon1 43200 64800|evening1 64800 82800|midnight 0|morning1 21600 43200|night1 82800 21600|noon 43200"
  dates :=
    { full := "EEEE, y. 'gada' d. MMMM"
      long := "y. 'gada' d. MMMM"
      medium := "y. 'gada' d. MMM"
      short := "dd.MM.yy" }
  skeletons := "EBhm E, h:mm B
EBhms E, h:mm:ss B
EHm E, HH:mm
EHms E, HH:mm:ss
Ed E, d.
Ehm E, h:mm\u202fa
Ehms E, h:mm:ss\u202fa
Gy G y. 'g'.
GyMMM G y. 'g'. MMM
GyMMMEd E, G y. 'g'. d. MMM
GyMMMd G y. 'g'. d. MMM
GyMd GGGGG dd-MM-y
MEd E, dd.MM.
MMMEd E, d. MMM
MMMMEd E, d. MMMM
MMMMW MMMM, W. 'nedēļa'
MMMMd d. MMMM
MMMd d. MMM
Md dd.MM.
hm h:mm\u202fa
hms h:mm:ss\u202fa
hmsv h:mm:ss\u202fa v
hmv h:mm\u202fa v
mmss mm:ss
y y. 'g'.
yM MM.y.
yMEd E, d.MM.y.
yMMM y. 'g'. MMM
yMMMEd E, y. 'g'. d. MMM
yMMMM y. 'g'. MMMM
yMMMd y. 'g'. d. MMM
yMd d.MM.y.
yQQQ y. 'g'. QQQ
yQQQQ y. 'g'. QQQQ
yw Y. 'g'. w. 'nedēļa'" :: Conventions.rootSkeletons
  zones :=
    { place := "Laika josla: \x7b0\x7d"
      placeInRegion := "\x7b0\x7d (\x7b1\x7d)"
      unknownRegion := "nezināms reģions"
      utcLong := "Universālais koordinētais laiks" }

/-- The locales of the Baltic and Uralic languages with their conventions. -/
def baltic : List (String × Conventions) :=
  [ ("et", et), ("et_EE", et), ("fi", fi), ("fi_FI", fi), ("hu", hu), ("hu_HU", hu), ("lt", lt),
    ("lt_LT", lt), ("lv", lv), ("lv_LV", lv) ]

end Phrasebook.ConventionsOf
