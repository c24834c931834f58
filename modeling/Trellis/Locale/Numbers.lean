/-
How numbers and percentages are written in a language.
-/
import Trellis.Locale.Symbols
import Trellis.Text.Decimal

namespace Trellis.Locale

/-- Where the percent sign stands. -/
inductive PercentPlace where
  /-- right after the number -/
  | after
  /-- after a blank -/
  | apart
  /-- right before the number -/
  | ahead
  /-- before a blank -/
  | aheadApart
deriving DecidableEq, Repr

/-- How a language writes numbers. -/
structure NumberFormat where
  decimal : String := "."
  group : String := ","
  minus : String := "-"
  percent : String := "%"
  nan : String := "NaN"
  infinity : String := "∞"
  place : PercentPlace := .after
  /-- the sizes of the last group of digits and of those before it -/
  groups : Nat × Nat := (3, 3)
  /-- the digit zero -/
  zero : Char := '0'
deriving DecidableEq, Repr

namespace NumberFormat

/-- A blank at which no line is broken. -/
def hardBlank : String := "\u00a0"

/-- The true minus sign. -/
def trueMinus : String := "\u2212"

/-- The format that is understood everywhere. -/
def common : NumberFormat := { decimal := "." }

/-- A format under the names of the locales that use it. -/
def named (names : String) (f : NumberFormat) : List (String × NumberFormat) :=
  (Text.words names).map fun name => (name, f)

/-- The formats of locales that differ from those before them. -/
def formats : List (String × NumberFormat) := List.flatten [
  named
    "az az-Cyrl bs-Cyrl ca el en-BE en-NL en-SI fur fy hr id is it jgo kkj km ln lu mgh ms-BN
     mua nl nnh pt rw seh sg sr sr-Latn sw-CD vi wo"
    { decimal := ",", group := "." },
  named
    "bs da de dsb en-AT en-DE en-DK es es-AR es-BO es-CL es-CO es-EC es-PY es-UY es-VE fr-LU
     fr-MA gl hsb kl lb mk nds qu-BO rn ro"
    { decimal := ",", group := ".", place := .apart },
  named
    "af agq bg dyo en-ZA eo ewo ff fr-CH hu kab kea ksf nmg pl prg pt-PT shi shi-Latn sq tg tzm
     uk yav"
    { decimal := ",", group := hardBlank },
  named
    "bas be br cs de-AT dua en-FI en-SE es-CR fr sk tt zgh"
    { decimal := ",", group := hardBlank, place := .apart },
  named "brx en-IN gu hi kok ml or pa ta te" { groups := (3, 2) },
  named
    "ks lrc mzn pa-Arab ps uz-Arab"
    { decimal := "٫", group := "٬", minus := "\u200e-\u200e", percent := "٪", zero := '۰' },
  named
    "ksh lt nb nn no se"
    { decimal := ",", group := hardBlank, minus := trueMinus, place := .apart },
  named "dje khq mfe ses twq" { group := hardBlank },
  named
    "ar-DZ ar-LY ar-MA ar-TN"
    { decimal := ",", group := ".", minus := "\u200e-", percent := "\u200e%\u200e", nan :=
      "ليس\u00a0رقمًا" },
  named "de-CH de-LI en-CH it-CH" { group := "’" },
  named "ar-AE ar-EH" { minus := "\u200e-", percent := "\u200e%\u200e", nan := "ليس\u00a0رقمًا" },
  named "as bn" { zero := '০', groups := (3, 2) },
  named "es-419 qu" { place := .apart },
  named "fo sl" { decimal := ",", group := ".", minus := trueMinus, place := .apart },
  named "gsw rm" { group := "’", minus := trueMinus, place := .apart },
  named "he ur" { minus := "\u200e-" },
  named "ta-MY ta-SG" common,
  named "yue zh-Hant" { nan := "非數值" },
  named
    "ar"
    { decimal := "٫", group := "٬", minus := "\u061c-", percent := "٪\u061c", nan :=
      "ليس\u00a0رقم", zero := '٠' },
  named "ast" { decimal := ",", group := ".", nan := "ND" },
  named "ccp" { zero := '𑄶', groups := (3, 2) },
  named "ce" { place := .apart, nan := "Терхьаш\u00a0дац" },
  named
    "ckb"
    { decimal := "٫", group := "٬", minus := "\u200f-", percent := "٪", place := .apart, zero :=
      '٠' },
  named "dz" { place := .apart, nan := "ཨང་མད", zero := '༠', groups := (3, 2) },
  named "ee" { nan := "mnn" },
  named "et" { decimal := ",", group := hardBlank, minus := trueMinus },
  named "eu" { decimal := ",", group := ".", minus := trueMinus, place := .aheadApart },
  named
    "fa"
    { decimal := "٫", group := "٬", minus := "\u200e\u2212", percent := "٪", nan := "ناعدد",
      zero := '۰' },
  named
    "fi"
    { decimal := ",", group := hardBlank, minus := trueMinus, place := .apart, nan := "epäluku" },
  named "ga" { nan := "Nuimh" },
  named "hy" { decimal := ",", group := hardBlank, nan := "ՈչԹ" },
  named "ka" { decimal := ",", group := hardBlank, nan := "არ\u00a0არის\u00a0რიცხვი" },
  named "kk" { decimal := ",", group := hardBlank, nan := "сан\u00a0емес" },
  named "ky" { decimal := ",", group := hardBlank, nan := "сан\u00a0эмес" },
  named "lo" { decimal := ",", group := ".", nan := "ບໍ່\u200bແມ່ນ\u200bໂຕ\u200bເລກ" },
  named "lv" { decimal := ",", group := hardBlank, nan := "NS" },
  named "mr" { zero := '०', groups := (3, 2) },
  named "my" { nan := "ဂဏန်းမဟုတ်သော", zero := '၀' },
  named "ne" { zero := '०' },
  named "os" { decimal := ",", group := hardBlank, nan := "НН" },
  named "ru" { decimal := ",", group := hardBlank, place := .apart, nan := "не\u00a0число" },
  named "sah" { decimal := ",", group := hardBlank, nan := "чыыһыла\u00a0буотах" },
  named "sd" { group := "٬", minus := "\u061c-", percent := "٪\u061c", zero := '٠' },
  named "smn" { decimal := ",", group := hardBlank, place := .apart, nan := "epiloho" },
  named
    "sv"
    { decimal := ",", group := hardBlank, minus := trueMinus, place := .apart, nan := "¤¤¤" },
  named "tk" { decimal := ",", group := hardBlank, place := .apart, nan := "san\u00a0däl" },
  named "to" { nan := "TF" },
  named "tr" { decimal := ",", group := ".", place := .ahead },
  named "ur-IN" { decimal := "٫", group := "٬", minus := "\u200e-\u200e", zero := '۰' },
  named "uz" { decimal := ",", group := hardBlank, nan := "son\u00a0emas" },
  named "uz-Cyrl" { decimal := ",", group := hardBlank, nan := "ҳақиқий\u00a0сон\u00a0эмас" },
  named "wae" { decimal := ",", group := "’" },
  named "yue-Hans" { nan := "非数值" }]

/-- The signs that locales use with European digits, where those are not the usual ones. -/
def europeanFormats : List (String × NumberFormat) := List.flatten [
  named "ar" { minus := "\u200e-", percent := "\u200e%\u200e", nan := "ليس\u00a0رقمًا" },
  named "fa" { minus := "\u200e\u2212", nan := "ناعدد" },
  named "ks" { group := "،" },
  named "my" { nan := "ဂဏန်းမဟုတ်သော" },
  named "pa-Arab" { minus := "\u200e-" },
  named "ps uz-Arab" { decimal := ",", group := ".", minus := "\u200e\u2212" },
  named "ur-IN" { minus := "\u200e-" }]

/-- The signs that go with the digits of a script everywhere. -/
def scriptFormats : List NumberFormat := [
  { decimal := "٫", group := "٬", minus := "\u061c-", percent := "٪\u061c", zero := '٠' },
  { decimal := "٫", group := "٬", minus := "\u200e-\u200e", percent := "٪", zero := '۰' }]

/-- The systems of digits and the code of their zero. -/
def zeros : List (String × Nat) := [
  ("adlm", 0x1E950), ("arab", 0x660), ("arabext", 0x6F0), ("bali", 0x1B50), ("beng", 0x9E6),
  ("bhks", 0x11C50), ("brah", 0x11066), ("cakm", 0x11136), ("cham", 0xAA50), ("deva", 0x966),
  ("fullwide", 0xFF10), ("gonm", 0x11D50), ("gujr", 0xAE6), ("guru", 0xA66), ("hanidec", 0x3007),
  ("hmng", 0x16B50), ("java", 0xA9D0), ("kali", 0xA900), ("khmr", 0x17E0), ("knda", 0xCE6),
  ("lana", 0x1A80), ("lanatham", 0x1A90), ("laoo", 0xED0), ("latn", 0x30), ("lepc", 0x1C40),
  ("limb", 0x1946), ("mathbold", 0x1D7CE), ("mathdbl", 0x1D7D8), ("mathmono", 0x1D7F6),
  ("mathsanb", 0x1D7EC), ("mathsans", 0x1D7E2), ("mlym", 0xD66), ("modi", 0x11650),
    ("mong", 0x1810),
  ("mroo", 0x16A60), ("mtei", 0xABF0), ("mymr", 0x1040), ("mymrshan", 0x1090), ("mymrtlng", 0xA9F0),
  ("newa", 0x11450), ("nkoo", 0x7C0), ("olck", 0x1C50), ("orya", 0xB66), ("osma", 0x104A0),
  ("saur", 0xA8D0), ("shrd", 0x111D0), ("sind", 0x112F0), ("sora", 0x110F0), ("sund", 0x1BB0),
  ("takr", 0x116C0), ("talu", 0x19D0), ("tamldec", 0xBE6), ("telu", 0xC66), ("thai", 0xE50),
  ("tibt", 0xF20), ("tirh", 0x114D0), ("vaii", 0xA620), ("wara", 0x118E0),
  ("armn", 0x30), ("armnlow", 0x30), ("cyrl", 0x30), ("ethi", 0x30), ("geor", 0x30), ("grek", 0x30),
  ("greklow", 0x30), ("hanidays", 0x30), ("hans", 0x30), ("hansfin", 0x30), ("hant", 0x30),
  ("hantfin", 0x30), ("hebr", 0x30), ("jpan", 0x30), ("jpanfin", 0x30), ("roman", 0x30),
  ("romanlow", 0x30), ("taml", 0x30)]

/-- The formats of a tag's lineage, and the common one last. -/
def candidates (t : Tag) : List NumberFormat :=
  (t.lineage.filterMap fun name => (formats.find? (·.1 == name)).map (·.2)) ++ [common]

/-- The signs of a tag with European digits. -/
def european (t : Tag) : NumberFormat :=
  ((t.nearest? europeanFormats) <|> (candidates t).find? (·.zero == '0')).getD common

/-- The format of a tag: that of its locale, with the digits that it asks for. -/
def ofTag (t : Tag) : NumberFormat :=
  let own := (candidates t).headD common
  match (t.keyword? "nu").bind fun name => (zeros.find? (·.1 == name)).map (·.2) with
  | none => own
  | some code =>
    let zero := Char.ofNat code
    let among := (candidates t).find? (·.zero == zero) <|> scriptFormats.find? (·.zero == zero)
    let signs := if zero == own.zero then own
      else if zero == '0' then european t
      else among.getD (european t)
    { signs with place := own.place, groups := own.groups, zero }

/-- Digits in groups.  The digits are given from the last to the first, and `room` is what the
current group can still take. -/
def grouped (f : NumberFormat) : Nat → List Char → List (List Char)
  | _, [] => [[]]
  | 0, c :: cs =>
    match grouped f (f.groups.2 - 1) cs with
    | g :: gs => [] :: (c :: g) :: gs
    | [] => [[c]]
  | room + 1, c :: cs =>
    match grouped f room cs with
    | g :: gs => (c :: g) :: gs
    | [] => [[c]]

/-- Digits in front of the decimals. -/
def wholeText (f : NumberFormat) (ds : List Char) : String :=
  f.group.intercalate ((f.grouped f.groups.1 ds.reverse).reverse.map fun g =>
    String.ofList g.reverse)

/-- The digits of one to nine that do not follow their zero in order. -/
def hanDigits : List Char := "〇一二三四五六七八九".toList

/-- A digit of the language. -/
def digit (f : NumberFormat) (c : Char) : Char :=
  if '0' ≤ c && c ≤ '9' then
    let n := c.toNat - '0'.toNat
    if f.zero == '〇' then hanDigits.getD n c else Char.ofNat (f.zero.toNat + n)
  else c

/-- The digits of a number without those zeros at the end that are not among the first `least`. -/
def trimmed (least : Nat) (ds : List Char) : List Char :=
  ds.take least ++ ((ds.drop least).reverse.dropWhile (· == '0')).reverse

/-- Digits before and after the point, written out. -/
def digitsText (f : NumberFormat) (negative : Bool) (whole decimals : List Char) : String :=
  let body := f.wholeText (whole.map f.digit) ++
    (if decimals.isEmpty then "" else f.decimal ++ String.ofList (decimals.map f.digit))
  (if negative then f.minus else "") ++ body

/-- The parts of a decimal text before and after its point. -/
def atPoint (s : String) : List Char × List Char :=
  let cs := s.toList
  (cs.takeWhile (· != '.'), (cs.dropWhile (· != '.')).drop 1)

/-- A number with at least `least` and at most `most` decimals. -/
def text (f : NumberFormat) (least most : Nat) (x : Float) : String :=
  if x.isNaN then f.nan
  else if x.isInf then (if x < 0 then f.minus else "") ++ f.infinity
  else
    let (whole, decimals) := atPoint (Text.fixedText most x.abs)
    f.digitsText (x < 0) whole (trimmed least decimals)

/-- A text with the percent sign where it belongs. -/
def withPercent (f : NumberFormat) (s : String) : String :=
  match f.place with
  | .after => s ++ f.percent
  | .apart => s ++ hardBlank ++ f.percent
  | .ahead => f.percent ++ s
  | .aheadApart => f.percent ++ hardBlank ++ s

/-- A number as a percentage without decimals.  What is not a number has no percent sign. -/
def percentText (f : NumberFormat) (x : Float) : String :=
  let around := fun (negative : Bool) (s : String) =>
    (if negative then f.minus else "") ++ f.withPercent s
  if x.isNaN then f.nan
  else if x.isInf then around (x < 0) f.infinity
  else
    let (whole, decimals) := atPoint (Text.fixedText 2 x.abs)
    let ds := (whole ++ decimals).dropWhile (· == '0')
    around (x < 0) (f.digitsText false (if ds.isEmpty then ['0'] else ds) [])

/-- A number rounded to the nearest whole number, a half away from zero. -/
def roundAway (x : Float) : Float :=
  let whole := x.abs.floor
  let up := if x.abs - whole ≥ 0.5 then whole + 1 else whole
  if x < 0 then -up else up

/-- A number with exactly `places` decimals, a half away from zero. -/
def amountText (f : NumberFormat) (places : Nat) (x : Float) : String :=
  if x.isNaN then f.nan
  else
    let scale := (power 10 places : Nat).toFloat
    let y := roundAway (x * scale) / scale
    f.text places places y

end NumberFormat

end Trellis.Locale

/-! Currencies: their codes, their decimals and their symbols. -/

namespace Trellis.Locale

/-- A currency by its code. -/
structure Currency where
  code : String
deriving DecidableEq, Repr

namespace Currency

/-- The codes of currencies, those of the past included. -/
def codes : List String := Text.words
  "ADP AED AFA AFN ALK ALL AMD ANG AOA AOK AON AOR ARA ARL ARM ARP ARS ATS AUD AWG AZM AZN BAD BAM
   BAN BBD BDT BEC BEF BEL BGL BGM BGN BGO BHD BIF BMD BND BOB BOL BOP BOV BRB BRC BRE BRL BRN BRR
   BRZ BSD BTN BUK BWP BYB BYN BYR BZD CAD CDF CHE CHF CHW CLE CLF CLP CNH CNX CNY COP COU CRC CSD
   CSK CUC CUP CVE CYP CZK DDM DEM DJF DKK DOP DZD ECS ECV EEK EGP EQE ERN ESA ESB ESP ETB EUR FIM
   FJD FKP FRF GBP GEK GEL GHC GHS GIP GMD GNF GNS GQE GRD GTQ GWE GWP GYD HKD HNL HRD HRK HTG HUF
   IDR IEP ILP ILR ILS INR IQD IRR ISJ ISK ITL JMD JOD JPY KES KGS KHR KMF KPW KRH KRO KRW KWD KYD
   KZT LAK LBP LKR LRD LSL LSM LTL LTT LUC LUF LUL LVL LVR LYD MAD MAF MCF MDC MDL MGA MGF MKD MKN
   MLF MMK MNT MOP MRO MRU MTL MTP MUR MVP MVR MWK MXN MXP MXV MYR MZE MZM MZN NAD NGN NIC NIO NLG
   NOK NPR NZD OMR PAB PEI PEN PES PGK PHP PKR PLN PLZ PTE PYG QAR RHD ROL RON RSD RUB RUR RWF SAR
   SBD SCR SDD SDG SDP SEK SGD SHP SIT SKK SLL SOS SRD SRG SSP STD STN SUR SVC SYP SZL THB TJR TJS
   TMM TMT TND TOP TPE TRL TRY TTD TWD TZS UAH UAK UGS UGX USD USN USS UYI UYP UYU UZS VEB VEF VND
   VNN VUV WST XAF XAG XAU XBA XBB XBC XBD XCD XDR XEU XFO XFU XOF XPD XPF XPT XRE XSU XTS XUA XXX
   YDD YER YUD YUM YUN YUR ZAL ZAR ZMK ZMW ZRN ZRZ ZWD ZWL ZWR"

/-- The currency with a code; case does not matter. -/
def parse (code : String) : Except Fault Currency :=
  if code.length ≠ 3 || !Tag.areLetters code then
    .error (.plain "currency: tag is not well-formed")
  else if codes.contains code.toUpper then .ok ⟨code.toUpper⟩
  else .error (.plain "currency: tag is not a recognized currency")

/-- How many decimals amounts have. -/
def places (c : Currency) : Nat :=
  if ["BHD", "JOD", "KWD", "LYD", "OMR", "TND"].contains c.code then 3
  else if c.code == "CLF" then 4
  else if (Text.words
    "ADP AFN ALL BIF BYR CLP DJF ESP GNF IQD IRR ISK ITL JPY KMF KPW KRW LAK LBP LUF MGA MGF MMK
     MRO PYG RSD RWF SLL SOS STD SYP TMM TRL UGX UYI VND VUV XAF XOF XPF YER ZMK ZWD").contains
      c.code then 0
  else 2

/-- How a currency is shown in a language; one without a symbol by its code. -/
def symbol (c : Currency) (t : Tag) : String :=
  (symbolFor? t c.code).getD c.code

/-- An amount of money: the symbol, and the number with the decimals of the currency. -/
def text (c : Currency) (t : Tag) (x : Float) : String :=
  c.symbol t ++ " " ++ (NumberFormat.ofTag t).amountText c.places x

end Currency

end Trellis.Locale
