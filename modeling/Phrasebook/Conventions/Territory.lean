import Phrasebook.Unicode.Properties

/-!
# Territories and currencies

What holds in a territory whatever language is used: the day that weeks start with, how many days of a
year make its first week, and the currency. A list of territories is kept as one string of codes. For
currencies it is laid down how many digits their amounts have.
-/

namespace Phrasebook.Territory

/-- The codes that a string lists. -/
def codes (s : String) : List Text := Text.words s

/-- Territories by the day that their weeks start with, counted from Monday, unless it is Monday. -/
def weekStarts : List (Nat × String) :=
  [ (4, "MV"),
    (5, "AF BH DJ DZ EG IQ IR JO KW LY OM QA SD SY"),
    (6, "AG AS BD BR BS BT BW BZ CA CO DM DO ET GT GU HK HN ID IL IN IS JM JP KE KH KR LA MH MM MO
MT MX MZ NI NP PA PE PH PK PR PT PY SA SG SV TH TT TW UM US VE VI WS YE ZA ZW") ]

/-- Territories where the first week of a year has at least four days of it; elsewhere one will do. -/
def longFirstWeeks : String :=
  "AD AN AT AX BE BG CH CZ DE DK EE ES FI FJ FO FR GB GF GG GI GP GR HU IE IM IS IT JE LI LT LU MC
MQ NL NO PL PT RE RU SE SJ SK SM VA"

/-- Territories by currency. -/
def currencies : List (String × String) :=
  [ ("AED", "AE"),
    ("AFN", "AF"),
    ("ALL", "AL"),
    ("AMD", "AM"),
    ("AOA", "AO"),
    ("ARS", "AR"),
    ("AUD", "AU CC CX HM KI NF NR TV"),
    ("AWG", "AW"),
    ("AZN", "AZ"),
    ("BAM", "BA"),
    ("BBD", "BB"),
    ("BDT", "BD"),
    ("BGN", "BG"),
    ("BHD", "BH"),
    ("BIF", "BI"),
    ("BMD", "BM"),
    ("BND", "BN"),
    ("BOB", "BO"),
    ("BRL", "BR"),
    ("BSD", "BS"),
    ("BTN", "BT"),
    ("BWP", "BW"),
    ("BYN", "BY"),
    ("BZD", "BZ"),
    ("CAD", "CA"),
    ("CDF", "CD"),
    ("CHF", "CH LI"),
    ("CLP", "CL"),
    ("CNY", "CN"),
    ("COP", "CO"),
    ("CRC", "CR"),
    ("CUP", "CU"),
    ("CVE", "CV"),
    ("CZK", "CZ"),
    ("DJF", "DJ"),
    ("DKK", "DK FO GL"),
    ("DOP", "DO"),
    ("DZD", "DZ"),
    ("EGP", "EG"),
    ("ERN", "ER"),
    ("ETB", "ET"),
    ("EUR", "AD AT AX BE BL CY DE EA EE ES EU FI FR GF GP GR HR IC IE IT LT LU LV MC ME MF MQ MT
NL PM PT RE SI SK SM TF VA XK YT"),
    ("FJD", "FJ"),
    ("FKP", "FK"),
    ("GBP", "GB GG GS IM JE TA"),
    ("GEL", "GE"),
    ("GHS", "GH"),
    ("GIP", "GI"),
    ("GMD", "GM"),
    ("GNF", "GN"),
    ("GTQ", "GT"),
    ("GYD", "GY"),
    ("HKD", "HK"),
    ("HNL", "HN"),
    ("HTG", "HT"),
    ("HUF", "HU"),
    ("IDR", "ID"),
    ("ILS", "IL PS"),
    ("INR", "IN"),
    ("IQD", "IQ"),
    ("IRR", "IR"),
    ("ISK", "IS"),
    ("JMD", "JM"),
    ("JOD", "JO"),
    ("JPY", "JP"),
    ("KES", "KE"),
    ("KGS", "KG"),
    ("KHR", "KH"),
    ("KMF", "KM"),
    ("KPW", "KP"),
    ("KRW", "KR"),
    ("KWD", "KW"),
    ("KYD", "KY"),
    ("KZT", "KZ"),
    ("LAK", "LA"),
    ("LBP", "LB"),
    ("LKR", "LK"),
    ("LRD", "LR"),
    ("LYD", "LY"),
    ("MAD", "EH MA"),
    ("MDL", "MD"),
    ("MGA", "MG"),
    ("MKD", "MK"),
    ("MMK", "MM"),
    ("MNT", "MN"),
    ("MOP", "MO"),
    ("MRU", "MR"),
    ("MUR", "MU"),
    ("MVR", "MV"),
    ("MWK", "MW"),
    ("MXN", "MX"),
    ("MYR", "MY"),
    ("MZN", "MZ"),
    ("NAD", "NA"),
    ("NGN", "NG"),
    ("NIO", "NI"),
    ("NOK", "BV NO SJ"),
    ("NPR", "NP"),
    ("NZD", "CK NU NZ PN TK"),
    ("OMR", "OM"),
    ("PAB", "PA"),
    ("PEN", "PE"),
    ("PGK", "PG"),
    ("PHP", "PH"),
    ("PKR", "PK"),
    ("PLN", "PL"),
    ("PYG", "PY"),
    ("QAR", "QA"),
    ("RON", "RO"),
    ("RSD", "RS"),
    ("RUB", "RU"),
    ("RWF", "RW"),
    ("SAR", "SA"),
    ("SBD", "SB"),
    ("SCR", "SC"),
    ("SDG", "SD"),
    ("SEK", "SE"),
    ("SGD", "SG"),
    ("SHP", "AC SH"),
    ("SLE", "SL"),
    ("SOS", "SO"),
    ("SRD", "SR"),
    ("SSP", "SS"),
    ("STN", "ST"),
    ("SYP", "SY"),
    ("SZL", "SZ"),
    ("THB", "TH"),
    ("TJS", "TJ"),
    ("TMT", "TM"),
    ("TND", "TN"),
    ("TOP", "TO"),
    ("TRY", "TR"),
    ("TTD", "TT"),
    ("TWD", "TW"),
    ("TZS", "TZ"),
    ("UAH", "UA"),
    ("UGX", "UG"),
    ("USD", "AS BQ DG EC FM GU IO MH MP PR PW SV TC TL UM US VG VI"),
    ("UYU", "UY"),
    ("UZS", "UZ"),
    ("VES", "VE"),
    ("VND", "VN"),
    ("VUV", "VU"),
    ("WST", "WS"),
    ("XAF", "CF CG CM GA GQ TD"),
    ("XCD", "AG AI DM GD KN LC MS VC"),
    ("XCG", "CW SX"),
    ("XOF", "BF BJ CI GW ML NE SN TG"),
    ("XPF", "NC PF WF"),
    ("YER", "YE"),
    ("ZAR", "LS ZA"),
    ("ZMW", "ZM"),
    ("ZWG", "ZW") ]

/-- Currencies by the digits of their amounts, unless these are two. -/
def currencyDigits : List (Nat × String) :=
  [ (0, "ADP AFN ALL BIF BYR CLP DJF ESP GNF IQD IRR ISK ITL JPY KMF KPW KRW LAK LBP LUF MGA MGF
MMK MRO PYG RSD RWF SLL SOS STD SYP TMM TRL UGX UYI VND VUV XAF XOF XPF YER ZMK ZWD"),
    (3, "BHD JOD KWD LYD OMR TND"),
    (4, "CLF UYW") ]

/-- The day that weeks start with in a territory, counted from Monday. -/
def firstWeekday (territory : Text) : Nat :=
  ((weekStarts.find? fun (_, s) => territory ∈ codes s).map Prod.fst).getD 0

/-- How many days of a year its first week must have. -/
def leastWeekDays (territory : Text) : Nat := if territory ∈ codes longFirstWeeks then 4 else 1

/-- The currency of a territory. -/
def currency? (territory : Text) : Option Text :=
  (currencies.find? fun (_, s) => territory ∈ codes s).map fun (code, _) => Text.ofString code

/-- How many digits an amount in a currency has. -/
def digitsOf (currency : Text) : Nat :=
  ((currencyDigits.find? fun (_, s) => currency ∈ codes s).map Prod.fst).getD 2

end Phrasebook.Territory
