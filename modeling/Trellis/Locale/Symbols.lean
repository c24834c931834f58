/-
The symbols of currencies: those that are understood everywhere, and those that locales use instead.

A locale takes its conventions from the locales of its lineage, the nearest first.  A locale with a
region comes from that of its language and script; a script that is not the usual one of its
language has no forebears.  Some regions come from another region.
-/
import Trellis.Locale.Likely

namespace Trellis.Locale

/-! ### Lineages -/

/-- Regions whose English is that of the world at large. -/
def worldEnglish : List String := Text.words
  "150 AG AI AU BB BM BS BW BZ CA CC CK CM CX CY DG DM ER FJ FK FM GB GD GG GH GI GM GY HK IE IL IM
   IN IO JE JM KE KI KN KY LC LR LS MG MO MS MT MU MW MY NA NF NG NR NU NZ PG PH PK PN PW RW SB SC
   SD SG SH SL SS SX SZ TC TK TO TT TV TZ UG VC VG VU WS ZA ZM ZW"

/-- Regions whose English is that of Europe. -/
def europeanEnglish : List String := Text.words "AT BE CH DE DK FI NL SE SI"

/-- Regions whose Spanish is that of Latin America. -/
def americanSpanish : List String := Text.words
  "AR BO BR BZ CL CO CR CU DO EC GT HN MX NI PA PE PR PY SV US UY VE"

/-- Regions whose Portuguese is that of Portugal. -/
def europeanPortuguese : List String := Text.words "AO CH CV FR GQ GW LU MO MZ ST TL"

namespace Tag

/-- The region from whose locale that of another one comes. -/
def regionBefore? (language script region : String) : Option String :=
  if language == "en" && script == "Latn" then
    if europeanEnglish.contains region then some "150"
    else if worldEnglish.contains region then some "001"
    else none
  else if language == "es" && script == "Latn" && americanSpanish.contains region then some "419"
  else if language == "pt" && script == "Latn" && europeanPortuguese.contains region then some "PT"
  else if language == "zh" && script == "Hant" && region == "MO" then some "HK"
  else none

/-- The tag of a language and a script, which is only said if it is not the usual one. -/
def written (language script : String) : Tag :=
  let usual := (full { language }).script
  { language, script := if usual == script then "" else script }

/-- The locale from which another one comes. -/
def parent? (t : Tag) : Option Tag :=
  if t.isOpen then none
  else if !t.region.isEmpty then
    let script := t.full.script
    match regionBefore? t.language script t.region with
    | some region => some { written t.language script with region }
    | none => some (written t.language script)
  else if !t.script.isEmpty then
    let w := written t.language t.script
    if w.script.isEmpty then some w else none
  else none

/-- The locales before a tag, up to a number of them. -/
def forebears : Nat → Tag → List Tag
  | 0, _ => []
  | n + 1, t =>
    match t.parent? with
    | some p => p :: forebears n p
    | none => []

/-- The region that a tag asks the conventions of. -/
def customs (t : Tag) : String :=
  match t.keyword? "rg" with
  | some s =>
    let region := (start 2 s).toUpper
    if s.length == 6 && s.endsWith "zzzz" && regions.contains region then region else t.region
  | none => t.region

/-- The names of the locales from which a tag takes its conventions. -/
def lineage (t : Tag) : List String :=
  let t : Tag := { language := t.language, script := t.script, region := t.customs }
  if t.isOpen then []
  else
    let known := if t.script.isEmpty && !t.region.isEmpty then [t, t.full] else [t]
    (known ++ forebears 4 t).map text

/-- What a table says for the nearest of the locales of a tag. -/
def nearest? {α : Type} (t : Tag) (table : List (String × α)) : Option α :=
  t.lineage.findSome? fun name => (table.find? (·.1 == name)).map (·.2)

end Tag

/-! ### Symbols -/

/-- Symbols that are understood everywhere. -/
def commonSymbols : List (String × String) := [
  ("AUD", "A$"), ("BRL", "R$"), ("CAD", "CA$"), ("CNY", "CN¥"), ("EUR", "€"), ("GBP", "£"),
  ("HKD", "HK$"), ("ILS", "₪"), ("INR", "₹"), ("JPY", "JP¥"), ("KRW", "₩"), ("MXN", "MX$"),
  ("NZD", "NZ$"), ("TWD", "NT$"), ("USD", "US$"), ("VND", "₫"), ("XAF", "FCFA"), ("XCD", "EC$"),
  ("XOF", "CFA"), ("XPF", "CFPF")]

/-- What the locales with these names show: currencies by their code, and currencies by a symbol. -/
def shown (names codes symbols : String) : List (String × List (String × String)) :=
  let symbols := (Text.splitOnChar symbols ',').filterMap fun s => Text.cut? (Text.trim s) " "
  let codes := (Text.words codes).map fun code => (code, code)
  (Text.words names).map fun name => (name, codes ++ symbols)

/-- The symbols of locales that differ from those before them. -/
def localSymbols : List (String × List (String × String)) := List.flatten [
  shown "af" "" "THB ฿, ZAR R",
  shown "af-NA en-NA naq" "" "NAD $",
  shown "ak en-GH ha-GH" "" "GHS GH₵",
  shown "am" "" "AUD AU$, ETB ብር, THB ฿",
  shown "ar" ""
    "AED د.إ., AUD AU$, BHD د.ب., DZD د.ج., EGP ج.م., GBP UK£, IQD د.ع., IRR ر.إ., JOD د.أ., KWD
     د.ك., LBP ل.ل., LYD د.ل., MAD د.م., MRO أ.م., OMR ر.ع., QAR ر.ق., SAR ر.س., SDD د.س., SDG
     ج.س., SYP ل.س., THB ฿, TND د.ت., YER ر.ي.",
  shown "ar-DJ fr-DJ so-DJ" "" "DJF Fdj",
  shown "ar-ER en-ER ti-ER" "" "ERN Nfk",
  shown "ar-KM fr-KM" "" "KMF CF",
  shown "ar-LB" "SDG" "",
  shown "ar-SO" "" "SOS S",
  shown "ar-SS en-SS nus" "" "GBP GB£, SSP £",
  shown "asa bez en-TZ jmc kde ksb mas-TZ rof rwk sbp vun" "" "TZS TSh",
  shown "ast ga ml ta" "" "JPY ¥, THB ฿, USD $",
  shown "az" "" "AZN ₼, THB ฿",
  shown "az-Cyrl" "" "AZN ₼",
  shown "be" "BRL CAD NZD" "BYN Br, JPY ¥, RUB ₽, USD $",
  shown "bem en-ZM" "" "ZMW K",
  shown "bg" "AUD BRL CAD CNY GBP HKD ILS INR JPY KRW MXN NZD TWD VND XCD" "BGN лв., USD щ.д.",
  shown "bn ccp" "" "BDT ৳, THB ฿",
  shown "bn-IN chr en-IN es-EC es-PR es-SV haw mzn nl-BQ sw-KE" "" "USD $",
  shown "bo ii zh-Hans-MY" "" "CNY ¥",
  shown "bo-IN zh-Hans-HK" "" "CNY CN¥",
  shown "br"
    "BRL CNY ILS JPY KRW TWD VND XCD"
    "AUD $A, CAD $CA, GBP £ RU, HKD $ HK, NZD $ ZN, USD $ SU",
  shown "bs"
    "AUD BRL CAD CNY GBP HKD ILS MXN NZD USD XCD XPF"
    "BAM KM, HRK kn, JPY ¥, RSD din., THB ฿",
  shown "bs-Cyrl" "" "BAM КМ, CZK Кч, JPY ¥, PLN зл, RSD дин., TRY Тл",
  shown "ca" "BRL CAD CNY MXN USD XCD" "AUD AU$, ESP ₧, JPY ¥, THB ฿",
  shown "ca-FR" "" "FRF F",
  shown "ce sah" "" "RUB ₽",
  shown "cgg en-UG lg nyn sw-UG teo xog" "" "UGX USh",
  shown "ckb lrc" "" "IQD د.ع.",
  shown "cs" "ILS INR VND" "AUD AU$, CSK Kčs, CZK Kč, XEU ECU",
  shown "cy" "KRW" "THB ฿",
  shown "da" "" "AUD AU$, DKK kr., THB ฿",
  shown "dav ebu en-KE guz kam ki kln luo luy mas mer om-KE saq so-KE teo-KE" "" "KES Ksh",
  shown "de" "" "ATS öS, AUD AU$, BGM BGK, BGO BGJ, DEM DM, JPY ¥, THB ฿, USD $, XXX ¤",
  shown "de-CH de-LI" "EUR" "",
  shown "de-LU pt-LU" "" "LUF F",
  shown "dsb hsb" "AUD" "JPY ¥, PLN zł, THB ฿, USD $",
  shown "dz" "ILS XAF" "AUD AU$, BTN Nu., KRW KR₩, THB TH฿",
  shown "ee" "" "AUD AU$, GHS GH₵, THB ฿",
  shown "el" "" "GRD Δρχ, THB ฿, USD $",
  shown "en" "" "JPY ¥, USD $, XXX ¤",
  shown "en-001" "" "JPY JP¥, USD US$",
  shown "en-AG en-AI en-DM en-GD en-KN en-LC en-MS en-VC" "" "XCD $",
  shown "en-AU"
    "BRL CAD CNY EUR GBP HKD ILS INR JPY KRW MXN NZD TWD USD VND XAF XCD XOF"
    "AUD $, SCR Rs, XPF CFP",
  shown "en-BB" "" "BBD $",
  shown "en-BI fr-BI rn" "" "BIF FBu",
  shown "en-BM" "" "BMD $",
  shown "en-BS" "" "BSD $",
  shown "en-BW" "" "BWP P",
  shown "en-BZ es-BZ" "" "BZD $",
  shown "en-CA" "" "CAD $",
  shown "en-CC en-CX en-KI en-NF en-NR en-TV" "" "AUD $",
  shown "en-CK en-NU en-NZ en-PN en-TK" "" "NZD $",
  shown "en-DK fo-DK kl" "" "DKK kr.",
  shown "en-FJ" "" "FJD $",
  shown "en-FK" "" "FKP £, GBP GB£",
  shown "en-GI" "" "GBP GB£, GIP £",
  shown "en-GM" "" "GMD D",
  shown "en-GY" "" "GYD $",
  shown "en-JM" "" "JMD $",
  shown "en-KY" "" "KYD $",
  shown "en-LR vai vai-Latn" "" "LRD $",
  shown "en-LS en-ZA" "" "ZAR R",
  shown "en-MG fr-MG mg" "" "MGA Ar",
  shown "en-MO pt-MO zh-MO zh-Hant-MO" "" "MOP MOP$",
  shown "en-MT" "" "GBP GB£",
  shown "en-MU fr-MU mfe" "" "MUR Rs",
  shown "en-MW" "" "MWK MK",
  shown "en-MY" "" "MYR RM",
  shown "en-NG" "" "NGN ₦",
  shown "en-PG" "" "PGK K",
  shown "en-PH" "" "JPY ¥, PHP ₱, USD $",
  shown "en-PK ps-PK sd" "" "PKR Rs",
  shown "en-RW fr-RW rw" "" "RWF RF",
  shown "en-SB" "" "SBD $",
  shown "en-SC fr-SC" "" "SCR SR",
  shown "en-SE" "" "SEK kr",
  shown "en-SG ms-SG" "" "SGD $",
  shown "en-SH" "" "GBP GB£, SHP £",
  shown "en-SX nl-CW nl-SX" "" "ANG NAf.",
  shown "en-SZ" "" "SZL E",
  shown "en-TO" "" "TOP T$",
  shown "en-TT" "" "TTD $",
  shown "en-VU fr-VU" "" "VUV VT",
  shown "en-WS" "" "WST WS$",
  shown "eo lt" "AUD BRL CAD CNY GBP HKD ILS INR JPY KRW MXN NZD TWD USD VND XAF XCD XOF XPF" "",
  shown "es" "AUD BRL CAD CNY GBP HKD ILS INR JPY KRW MXN NZD TWD XAF XCD XOF" "ESP ₧, THB ฿",
  shown "es-419" "EUR THB USD VND" "",
  shown "es-AR" "" "ARS $, USD US$",
  shown "es-BO" "" "BOB Bs",
  shown "es-BR" "" "BRL R$",
  shown "es-CL" "" "CLP $, USD US$",
  shown "es-CO" "" "COP $, USD US$",
  shown "es-CR" "" "CRC ₡",
  shown "es-CU" "" "CUP $, USD US$",
  shown "es-DO" "" "DOP RD$, USD US$",
  shown "es-GQ" "" "XAF FCFA",
  shown "es-GT" "" "GTQ Q",
  shown "es-HN" "" "HNL L",
  shown "es-MX" "" "MRO UM, MXN $",
  shown "es-NI" "" "NIO C$",
  shown "es-PA" "" "PAB B/.",
  shown "es-PE" "" "PEN S/",
  shown "es-PY" "" "PYG Gs.",
  shown "es-US ks or sd-IN wae" "" "JPY ¥, USD $",
  shown "es-UY" "" "USD US$, UYU $",
  shown "es-VE" "" "VEF Bs.",
  shown "et" "" "AUD AU$, EEK kr, JPY ¥, THB ฿, USD $",
  shown "eu" "" "ESP ₧, THB ฿",
  shown "fa" ""
    "AFN ؋, CAD $CA, CNY ¥CN, HKD $HK, IRR ریال, JPY ¥, MXN $MX, NZD $NZ, THB ฿, USD $, XCD $EC,
     XOF فرانک\u00a0CFA",
  shown "ff-GN fr-GN" "" "GNF FG",
  shown "ff-MR fr-MR" "" "MRO UM",
  shown "fi" "AUD BRL CAD CNY HKD ILS INR KRW MXN NZD TWD VND XCD XPF" "FIM mk, JPY ¥, USD $",
  shown "fil" "" "JPY ¥, PHP ₱, THB ฿, USD $",
  shown "fo" "" "DKK kr",
  shown "fr" "CNY HKD JPY TWD XCD"
    "ARS $AR, AUD $AU, BEF FB, BMD $BM, BND $BN, BZD $BZ, CAD $CA, CLP $CL, COP $CO, CYP £CY, FJD
     $FJ, FKP £FK, FRF F, GBP £GB, GIP £GI, IEP £IE, ILP £IL, ITL ₤IT, LBP £LB, MTP £MT, MXN $MX,
     NAD $NA, NZD $NZ, RHD $RH, SBD $SB, SGD $SG, SRD $SR, TTD $TT, USD $US, UYU $UY, WST $WS,
     XPF FCFP",
  shown "fr-CA"
    "ARS BMD BND BZD CLP COP FJD FKP GIP ILS INR KRW LBP MXN NAD SBD SRD TTD UYU VND WST XAF XOF
     XPF"
    "AUD $\u00a0AU, CAD $, CNY CN¥, GBP £, HKD $\u00a0HK, JPY ¥, NZD $\u00a0NZ, SGD $\u00a0SG,
     USD $\u00a0US",
  shown "fr-CD ln lu sw-CD" "" "CDF FC",
  shown "fr-DZ kab" "" "DZD DA",
  shown "fr-HT" "" "HTG G",
  shown "fr-LU" "FRF" "LUF F",
  shown "fr-SY" "" "SYP LS",
  shown "fr-TN" "" "TND DT",
  shown "fy nl" "XPF" "AUD AU$, CAD C$, FJD FJ$, SBD SI$, THB ฿",
  shown "gd hi kn mr te" "" "THB ฿, USD $",
  shown "gl" "XCD" "ESP ₧, MXN $MX, THB ฿, USD $",
  shown "gsw" "" "ATS öS, JPY ¥, USD $",
  shown "gu pa" "" "THB ฿",
  shown "ha ig" "" "JPY ¥, NGN ₦, USD $",
  shown "he" "" "ILP ל״י, JPY ¥, THB ฿, USD $",
  shown "hr" "AUD BRL CAD CNY GBP HKD ILS INR JPY KRW MXN NZD TWD USD VND XCD XPF" "HRK kn",
  shown "hr-BA sr-Cyrl-ME" "" "BAM KM",
  shown "hu" "AUD BRL CAD CNY EUR GBP HKD ILS INR KRW MXN NZD TWD USD VND XCD" "HUF Ft, JPY ¥",
  shown "hy" "" "AMD ֏, THB ฿, USD $",
  shown "id" "" "AUD AU$, IDR Rp, INR Rs, THB ฿",
  shown "is" "AUD BRL CAD EUR GBP INR KRW MXN NZD TWD USD VND" "ISK kr.",
  shown "it" "BRL HKD INR JPY KRW MXN TWD USD VND" "THB ฿",
  shown "ja" "" "CNY 元, JPY ￥, USD $",
  shown "ka" "AUD CNY HKD ILS INR JPY KRW NZD VND" "GEL ₾",
  shown "kea" "" "AUD AU$, CVE \u200b, THB ฿",
  shown "kk" "" "KZT ₸, LSL ЛСЛ, RUB ₽, THB ฿, USD $",
  shown "km" "" "KHR ៛, LSL ឡូទី, THB ฿, USD $",
  shown "ko" "" "AUD AU$",
  shown "kok" "" "RON रॉन",
  shown "ky" "AUD BRL CAD GBP HKD ILS INR KRW MXN NZD TWD USD XCD" "KGS сом, THB ฿",
  shown "lb" "" "ATS öS, AUD AU$, JPY ¥, THB ฿, USD $",
  shown "ln-AO pt-AO" "" "AOA Kz",
  shown "lo" "" "LAK ₭, THB ฿",
  shown "lv" "" "AUD AU$, JPY ¥, LVL Ls, THB ฿, USD $",
  shown "mgh pt-MZ seh" "" "MZN MTn",
  shown "mk" "AUD CNY GBP HKD ILS INR JPY KRW NZD TWD VND" "MKD ден.",
  shown "mn" "" "MNT ₮, THB ฿, USD $",
  shown "ms" "CAD MXN USD" "MYR RM",
  shown "ms-BN" "" "BND $",
  shown "my" "" "ANG NAf, AWG Afl, HTG G, MMK K, PAB B/., THB ฿, TTD TT$",
  shown "nb no" "AUD BRL CAD CNY HKD ILS INR JPY KRW MXN NZD TWD USD VND XAF XCD XPF" "NOK kr",
  shown "ne" "" "NPR नेरू, THB ฿",
  shown "nl-AW" "" "AWG Afl.",
  shown "nl-SR" "" "SRD $",
  shown "nn" "AUD BRL CAD CNY GBP HKD ILS INR JPY KRW MXN NZD TWD USD VND XAF XCD XPF" "NOK kr",
  shown "om so-ET" "" "ETB Br",
  shown "os" "" "GEL ₾, USD $",
  shown "os-RU" "GEL" "RUB ₽",
  shown "pa-Arab" "" "PKR ر",
  shown "pl" "AUD CAD CNY GBP HKD ILS INR JPY KRW MXN NZD TWD USD VND" "PLN zł",
  shown "ps" "" "AFN ؋, USD $",
  shown "pt" "" "AUD AU$, PTE Esc., THB ฿",
  shown "pt-CV" "PTE" "CVE \u200b",
  shown "pt-PT" "" "PTE \u200b",
  shown "pt-ST" "" "STD Db",
  shown "qu" "" "BBD BBG, BMD DBM, BZD DBZ, CAD $CA, PEN S/, USD $US",
  shown "qu-BO" "PEN" "BOB Bs",
  shown "qu-EC" "PEN" "USD $",
  shown "ro" "AUD BRL CAD CNY EUR GBP HKD ILS INR JPY KRW MXN NZD TWD USD VND XCD" "",
  shown "ro-MD ru-MD" "" "MDL L",
  shown "ru" "" "JPY ¥, RUB ₽, RUR р., THB ฿, TMT ТМТ, UAH ₴, USD $",
  shown "ru-BY" "RUR" "BYN Br",
  shown "ru-KG" "" "KGS сом",
  shown "ru-KZ" "" "KZT ₸",
  shown "se" "" "DKK Dkr, NOK kr, SEK Skr, THB ฿",
  shown "se-SE" "" "NOK Nkr, SEK kr",
  shown "si" "" "LKR රු., THB ฿, XOF සිෆ්එ",
  shown "sk" "AUD BRL CAD CNY GBP HKD INR JPY KRW NZD TWD USD VND" "ILS NIS",
  shown "sl" "AUD BRL CAD GBP MXN NZD TWD XCD" "JPY ¥, USD $",
  shown "so" "" "BBD DBB, SOS S",
  shown "sq" "BRL" "ALL Lekë, THB ฿",
  shown "sq-MK" "" "MKD den",
  shown "sr" "AUD KRW NZD VND" "BAM КМ, JPY ¥",
  shown "sr-Latn" "AUD KRW NZD VND" "BAM KM, JPY ¥",
  shown "sv"
    "AUD CNY GBP HKD INR JPY KRW NZD TWD VND"
    "BBD Bds$, BMD BM$, BRL BR$, BSD BS$, BZD BZ$, DKK Dkr, DOP RD$, EEK Ekr, EGP EG£, IEP IE£,
     ISK Ikr, JMD JM$, NOK Nkr, SEK kr",
  shown "sw" "" "KES Ksh, THB ฿, TZS TSh",
  shown "ta-LK" "" "LKR Rs.",
  shown "ta-MY" "" "MYR RM, SGD S$",
  shown "ta-SG" "" "MYR RM, SGD $, USD US$",
  shown "tg" "" "TJS сом., USD $",
  shown "th vi" "" "AUD AU$, JPY ¥, THB ฿",
  shown "ti" "CNY JPY" "ETB Br",
  shown "tk" "EUR GBP" "",
  shown "to" "" "AUD AUD$, NZD NZD$, TOP T$",
  shown "tr" "" "AUD AU$, JPY ¥, THB ฿, TRY ₺, USD $",
  shown "tt" "" "RUB ₽, USD $",
  shown "ug" "" "CNY ￥, USD $",
  shown "uk"
    "AUD BRL CAD CNY EUR GBP HKD ILS INR KRW MXN NZD TWD USD VND XCD"
    "JPY ¥, UAH ₴, UAK крб.",
  shown "ur" "" "PKR Rs, THB ฿, USD $",
  shown "ur-IN" "PKR" "",
  shown "uz" "" "UZS soʻm",
  shown "uz-Arab" "" "AFN ؋",
  shown "uz-Cyrl" "" "THB ฿, UZS сўм",
  shown "wo" "" "EGP EGPP, GHS GHS., GIP GIIP, GTQ GT Q, HRK HRKS, MDL Vote MDL, NGN NGN., USD $",
  shown "yo" "" "NGN ₦, RUB ₽, USD $",
  shown "yue yue-Hans" "" "AUD AU$, JPY ¥, KRW ￦",
  shown "zh" "" "AUD AU$, CNY ￥, ILR ILS, KRW ￦",
  shown "zh-HK zh-Hant-HK" "" "TWD NT$",
  shown "zh-Hans-MO" "" "CNY CN¥, MOP MOP$",
  shown "zh-Hant" "" "AUD AU$, JPY ¥, KRW ￦, TWD $",
  shown "zh-MY" "" "CNY ¥, ILR ILS, JPY JP¥, TWD NT$",
  shown "zh-SG zh-Hans-SG" "" "CNY CN¥, SGD $",
  shown "zu" "" "THB ฿, USD $, ZAR R"]

/-- The symbol of a currency: that of the nearest locale that has one, else the common one. -/
def symbolFor? (t : Tag) (code : String) : Option String :=
  let find := fun (table : List (String × String)) => (table.find? (·.1 == code)).map (·.2)
  (t.lineage.findSome? fun name =>
    ((localSymbols.find? (·.1 == name)).map (·.2)).bind find) <|> find commonSymbols

end Trellis.Locale
