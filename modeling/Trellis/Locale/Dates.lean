/-
Dates in the words of a language.

A date is first written in a layout with English names.  The layout and the written date are then
cut into runs of letters, runs of digits and the rest between them; where a run of the layout is a
name, the run of the date is replaced by the name in the language.  Slavic languages have a second
form of a month's name for when a day stands before it.
-/
import Trellis.Locale.Layout
import Trellis.Text.Search
import Trellis.Text.Case
import Trellis.Text.Ranges

namespace Trellis.Locale

/-- The languages in which dates are written. -/
inductive DateLanguage where
  | enUS | enGB | de | fr | frCA | es | it | pt | ptBR | nl | nlBE | ru | pl | cs | da | fi | sv
  | nb
  | ja | zh | zhTW | ko
deriving DecidableEq, Repr

/-- The names of days, Sunday first, and of months. -/
structure DateNames where
  days : List String
  shortDays : List String
  months : List String
  shortMonths : List String
  /-- months after the number of a day, when they differ -/
  monthsOfDay : Option (List String) := none
  shortMonthsOfDay : Option (List String) := none
  /-- the halves of the day, when they have names -/
  halves : Option (String × String) := none

namespace DateLanguage

/-- Language tags in lower case, with underscores. -/
def tags : List (String × DateLanguage) := [
  ("en", .enUS), ("en_us", .enUS), ("en_gb", .enGB), ("de", .de), ("fr", .fr), ("fr_ca", .frCA),
  ("es", .es), ("it", .it), ("pt", .pt), ("pt_br", .ptBR), ("nl", .nl), ("nl_be", .nlBE),
  ("ru", .ru), ("pl", .pl), ("cs", .cs), ("da", .da), ("fi", .fi), ("sv", .sv), ("nb", .nb),
  ("ja", .ja), ("zh", .zh), ("zh_tw", .zhTW), ("ko", .ko)]

/-- The language of a tag: that of the whole tag, else that of its first part, else American
English. -/
def ofTag (tag : String) : DateLanguage :=
  let tag := Text.lower (Text.replaceAll tag "-" "_")
  let find := fun (s : String) => (tags.find? (·.1 == s)).map (·.2)
  ((find tag) <|> ((Text.cut? tag "_").bind fun (first, _) => find first)).getD .enUS

/-- The day of a date stands before its month. -/
def dayFirst : DateLanguage → Bool
  | .enUS | .ja | .zh | .zhTW | .ko => false
  | _ => true

/-- The numbered months of the languages that do not name them. -/
def numberedMonths (unit : String) : List String :=
  (List.range 12).map fun i => Text.natText (i + 1) ++ unit

/-- The names of a language; none for English. -/
def names? : DateLanguage → Option DateNames
  | .enUS | .enGB => none
  | .de => some {
      days := Text.words "Sonntag Montag Dienstag Mittwoch Donnerstag Freitag Samstag"
      shortDays := Text.words "So Mo Di Mi Do Fr Sa"
      months := Text.words "Januar Februar März April Mai Juni Juli August September Oktober
        November Dezember"
      shortMonths := Text.words "Jan Feb Mär Apr Mai Juni Juli Aug Sep Okt Nov Dez" }
  | .fr | .frCA => some {
      days := Text.words "dimanche lundi mardi mercredi jeudi vendredi samedi"
      shortDays := Text.words "dim lun mar mer jeu ven sam"
      months := Text.words "janvier février mars avril mai juin juillet août septembre octobre
        novembre décembre"
      shortMonths := Text.words "janv févr mars avr mai juin juil août sept oct nov déc" }
  | .es => some {
      days := Text.words "domingo lunes martes miércoles jueves viernes sábado"
      shortDays := Text.words "dom lun mar mié jue vie sáb"
      months := Text.words "enero febrero marzo abril mayo junio julio agosto septiembre octubre
        noviembre diciembre"
      shortMonths := Text.words "ene feb mar abr may jun jul ago sep oct nov dic" }
  | .it => some {
      days := Text.words "domenica lunedì martedì mercoledì giovedì venerdì sabato"
      shortDays := Text.words "dom lun mar mer gio ven sab"
      months := Text.words "gennaio febbraio marzo aprile maggio giugno luglio agosto settembre
        ottobre novembre dicembre"
      shortMonths := Text.words "gen feb mar apr mag giu lug ago set ott nov dic" }
  | .pt => some {
      days := Text.words "Domingo Segunda-feira Terça-feira Quarta-feira Quinta-feira Sexta-feira
        Sábado"
      shortDays := Text.words "Dom Seg Ter Qua Qui Sex Sáb"
      months := Text.words "Janeiro Fevereiro Março Abril Maio Junho Julho Agosto Setembro Outubro
        Novembro Dezembro"
      shortMonths := Text.words "Jan Fev Mar Abr Mai Jun Jul Ago Set Out Nov Dez" }
  | .ptBR => some {
      days := Text.words "domingo segunda-feira terça-feira quarta-feira quinta-feira sexta-feira
        sábado"
      shortDays := Text.words "dom seg ter qua qui sex sáb"
      months := Text.words "janeiro fevereiro março abril maio junho julho agosto setembro outubro
        novembro dezembro"
      shortMonths := Text.words "jan fev mar abr mai jun jul ago set out nov dez" }
  | .nl | .nlBE => some {
      days := Text.words "zondag maandag dinsdag woensdag donderdag vrijdag zaterdag"
      shortDays := Text.words "zo ma di wo do vr za"
      months := Text.words "januari februari maart april mei juni juli augustus september oktober
        november december"
      shortMonths := Text.words "jan feb mrt apr mei jun jul aug sep okt nov dec" }
  | .ru => some {
      days := Text.words "Воскресенье Понедельник Вторник Среда Четверг Пятница Суббота"
      shortDays := Text.words "Вс Пн Вт Ср Чт Пт Сб"
      months := Text.words "Январь Февраль Март Апрель Май Июнь Июль Август Сентябрь Октябрь
        Ноябрь Декабрь"
      shortMonths := Text.words "Янв Фев Мар Апр Май Июн Июл Авг Сен Окт Ноя Дек"
      monthsOfDay := some (Text.words "января февраля марта апреля мая июня июля августа сентября
        октября ноября декабря")
      shortMonthsOfDay := some (Text.words "янв фев мар апр мая июн июл авг сен окт ноя дек") }
  | .pl => some {
      days := Text.words "Niedziela Poniedziałek Wtorek Środa Czwartek Piątek Sobota"
      shortDays := Text.words "Nie Pon Wto Śro Czw Pią Sob"
      months := Text.words "Styczeń Luty Marzec Kwiecień Maj Czerwiec Lipiec Sierpień Wrzesień
        Październik Listopad Grudzień"
      shortMonths := Text.words "Sty Lut Mar Kwi Maj Cze Lip Sie Wrz Paź Lis Gru"
      monthsOfDay := some (Text.words "stycznia lutego marca kwietnia maja czerwca lipca sierpnia
        września października listopada grudnia")
      shortMonthsOfDay := some (Text.words "sty lut mar kwi maj cze lip sie wrz paź lis gru") }
  | .cs => some {
      days := Text.words "neděle pondělí úterý středa čtvrtek pátek sobota"
      shortDays := Text.words "ne po út st čt pá so"
      months := Text.words "leden únor březen duben květen červen červenec srpen září říjen
        listopad prosinec"
      shortMonths := Text.words "led úno bře dub kvě čvn čvc srp zář říj lis pro" }
  | .da => some {
      days := Text.words "søndag mandag tirsdag onsdag torsdag fredag lørdag"
      shortDays := Text.words "søn man tir ons tor fre lør"
      months := Text.words "januar februar marts april maj juni juli august september oktober
        november december"
      shortMonths := Text.words "jan feb mar apr maj jun jul aug sep okt nov dec" }
  | .fi => some {
      days := Text.words "sunnuntai maanantai tiistai keskiviikko torstai perjantai lauantai"
      shortDays := Text.words "su ma ti ke to pe la"
      months := Text.words "tammikuu helmikuu maaliskuu huhtikuu toukokuu kesäkuu heinäkuu elokuu
        syyskuu lokakuu marraskuu joulukuu"
      shortMonths := Text.words "tammi helmi maalis huhti touko kesä heinä elo syys loka marras
        joulu" }
  | .sv => some {
      days := Text.words "söndag måndag tisdag onsdag torsdag fredag lördag"
      shortDays := Text.words "sön mån tis ons tors fre lör"
      months := Text.words "januari februari mars april maj juni juli augusti september oktober
        november december"
      shortMonths := Text.words "jan feb mar apr maj jun jul aug sep okt nov dec" }
  | .nb => some {
      days := Text.words "søndag mandag tirsdag onsdag torsdag fredag lørdag"
      shortDays := Text.words "sø ma ti on to fr lø"
      months := Text.words "januar februar mars april mai juni juli august september oktober
        november desember"
      shortMonths := Text.words "jan feb mar apr mai jun jul aug sep okt nov des" }
  | .ja => some {
      days := Text.words "日曜日 月曜日 火曜日 水曜日 木曜日 金曜日 土曜日"
      shortDays := Text.words "日 月 火 水 木 金 土"
      months := numberedMonths "月"
      shortMonths := numberedMonths "月"
      halves := some ("午前", "午後") }
  | .zh | .zhTW => some {
      days := Text.words "星期日 星期一 星期二 星期三 星期四 星期五 星期六"
      shortDays := Text.words "日 一 二 三 四 五 六"
      months := numberedMonths " 月"
      shortMonths := numberedMonths ""
      halves := some ("上午", "下午") }
  | .ko => some {
      days := Text.words "일요일 월요일 화요일 수요일 목요일 금요일 토요일"
      shortDays := Text.words "일 월 화 수 목 금 토"
      months := numberedMonths "월"
      shortMonths := numberedMonths "월"
      halves := some ("오전", "오후") }

/-- Dates in these languages are written from the year down to the day. -/
def yearFirst (l : DateLanguage) : Bool := l == .ja || l == .zh || l == .zhTW

/-- The layout of a style.  Anything that is not the name of a style is a layout already. -/
def layout (l : DateLanguage) (style : String) : String :=
  let pick := fun (american german yearFirst other : String) =>
    if l == .enUS then american
    else if l == .de then german
    else if l.yearFirst then yearFirst
    else other
  match style with
  | "short" =>
    if l == .ko then "06. 1. 2." else pick "1/2/06" "02.01.06" "06/01/02" "02/01/06"
  | "medium" => pick "Jan 2, 2006" "2. Jan. 2006" "2006年1月2日" "2 Jan 2006"
  | "long" => pick "January 2, 2006" "2. January 2006" "2006年1月2日" "2 January 2006"
  | "full" =>
    pick "Monday, January 2, 2006" "Monday, 2. January 2006" "2006年1月2日 Monday"
      "Monday 2 January 2006"
  | "iso" => "2006-01-02"
  | style => style

/-- What a character of a date belongs to. -/
inductive Mark where
  | letter | digit | other
deriving DecidableEq, Repr

def Mark.of (c : Char) : Mark :=
  if Text.isLetter c then .letter else if '0' ≤ c && c ≤ '9' then .digit else .other

/-- The runs of letters, of digits and of other characters. -/
def runs (s : String) : List String :=
  (s.toList.splitBy fun a b => Mark.of a == Mark.of b).map String.ofList

/-- One or two digits: the number of a day. -/
def isDayNumber (s : String) : Bool := s.length ≤ 2 && s.toList.all Char.isDigit && s != ""

/-- The name in a table that stands for an English name. -/
def swapped (english : List String) (names : List String) (run : String) : String :=
  match english.findIdx? (· == run) with
  | some i => names.getD i run
  | none => run

/-- The name that a run of a date is replaced by; `before` is the run before the last one. -/
def replacement (n : DateNames) (before : Option String) (layoutRun run : String) : String :=
  let afterDay := before.any isDayNumber
  match layoutRun with
  | "Monday" => swapped Layout.longDays n.days run
  | "Mon" => swapped Layout.shortDays n.shortDays run
  | "January" =>
    swapped Layout.longMonths (if afterDay then n.monthsOfDay.getD n.months else n.months) run
  | "Jan" =>
    swapped Layout.shortMonths
      (if afterDay then n.shortMonthsOfDay.getD n.shortMonths else n.shortMonths) run
  | "PM" | "pm" =>
    match n.halves with
    | some (morning, afternoon) => swapped ["AM", "PM", "am", "pm"]
        [morning, afternoon, morning, afternoon] run
    | none => run
  | _ => run

/-- Replaces the names in the runs of a date, given the runs of its layout. -/
def replaceRuns (n : DateNames) : Option String → Option String → List String → List String → String
  | before, last, l :: layout, r :: date =>
    replacement n before l r ++ replaceRuns n last (some r) layout date
  | _, _, _, _ => ""

/-- An instant in a style. -/
def format (l : DateLanguage) (style : String) (t : Instant) : String :=
  let layout := l.layout style
  let date := Layout.format layout t
  match l.names? with
  | none => date
  | some n =>
    if (runs layout).length == (runs date).length then
      replaceRuns n none none (runs layout) (runs date)
    else date

end DateLanguage

end Trellis.Locale
