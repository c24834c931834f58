/-
Dates as people write them.

The layout of a date is found by reading it once from the left: what stands between digits, letters
and dividers tells which part of the date is which, and the part is replaced by its element in a
copy of the text, which so becomes the layout.  The date is then read in that layout.  Some
spellings are first brought into another form and read again.

Places in the text are counted in bytes, each held as the character of its number.
-/
import Trellis.Locale.Layout.Reader
import Trellis.Text.Bytes
import Trellis.Text.Case
import Trellis.Text.Ranges
import Trellis.Text.Decimal

namespace Trellis.Locale.DateText

/-- How far the date has been recognised. -/
inductive DateForm where
  | start
  /-- digits only so far -/
  | number
  /-- six digits and a blank -/
  | sixDigits
  | yearDash | yearDashDash
  /-- a whole date, year first, before its time -/
  | yearDashDay
  | yearDashOffset
  | yearDashName
  | dayDash | dayDashName | dayDashNameDash
  | yearSlash | slashName | slash
  | colon
  | dayBlank | dayNameYear | dayLongName
  | yearSign | yearSignBlank
  | dot | dotDot
  | word
  | wordBlank | wordDot
  | wordWord | wordWordYear
  | wordDay | wordDayYear | wordDayComma | wordDayCommaYear | wordDayYearTime
  | monthDay | monthMore | monthYear | daySuffix
  | weekdayComma | shortWeekdayComma
deriving DecidableEq, Repr

/-- How far the time of day has been recognised. -/
inductive TimeForm where
  | none | start
  | offset | offsetColon
  | blank
  | zone | zoneBlank | zoneOffset | zoneOffsetBlank | zoneOffsetYear | zoneOffsetMore
  | halfOrZone | half
  | blankOffset | blankOffsetBlank | blankOffsetColon | blankOffsetColonZone
  | year
  | fraction | fractionOffset | fractionOffsetColon | fractionOffsetZone
  | fractionBlank | fractionZone
  | fractionBlankOffset | fractionBlankOffsetZone | fractionBlankOffsetColon
  | fractionBlankOffsetColonZone
  | zulu | zuluDigit
deriving DecidableEq, Repr

/-- Where a part of the date stands.  A start of zero is not known yet. -/
structure Place where
  start : Nat := 0
  width : Nat := 0
deriving DecidableEq, Repr

/-- What is known of a date. -/
structure Sketch where
  text : Array Char
  layout : Array Char
  monthFirst : Bool
  date : DateForm := .start
  time : TimeForm := .none
  /-- the width of the first number -/
  first : Nat := 0
  year : Place := {}
  month : Place := {}
  day : Place := {}
  hour : Place := {}
  minute : Place := {}
  second : Place := {}
  fraction : Place := {}
  offset : Nat := 0
  zone : Nat := 0
  /-- what is left out at the front -/
  skip : Nat := 0
  /-- where text begins that is left out -/
  extra : Nat := 0
  /-- the name of the month that the date begins with -/
  monthName : String := ""
  /-- the time is in universal time -/
  universal : Bool := false

/-- Why the reading of a date is given up. -/
inductive Detour where
  /-- the date is read again in another spelling; the order of day and month may be forgotten -/
  | again (text : List Char) (forgets : Bool)
  | unknown
  /-- the offset from universal time, which stands at `i`, has no known form -/
  | badOffset (text : List Char) (i : Nat)

/-- Where the reading goes on, or ends. -/
inductive Step where
  | next (i : Nat)
  | stop (i : Nat)

namespace Sketch

/-- Puts an element into the layout; nothing when it would not fit. -/
def write (s : Sketch) (start : Nat) (piece : String) : Sketch :=
  if s.layout.size < start + piece.length then s
  else
    let put := fun (a : Array Char) (c, k) => a.setIfInBounds (start + k) c
    { s with layout := piece.toList.zipIdx.foldl put s.layout }

def writeMonth (s : Sketch) : Sketch :=
  match s.month.width with
  | 2 => s.write s.month.start "01"
  | 1 => s.write s.month.start "1"
  | _ => s

def writeDay (s : Sketch) : Sketch :=
  match s.day.width with
  | 2 => s.write s.day.start "02"
  | 1 => s.write s.day.start "2"
  | _ => s

def writeYear (s : Sketch) : Sketch :=
  match s.year.width with
  | 2 => s.write s.year.start "06"
  | 4 => s.write s.year.start "2006"
  | _ => s

/-- The month, the day or the year ends before `i`. -/
def monthTo (s : Sketch) (i : Nat) : Sketch :=
  { s with month := { s.month with width := i - s.month.start } }.writeMonth

def dayTo (s : Sketch) (i : Nat) : Sketch :=
  { s with day := { s.day with width := i - s.day.start } }.writeDay

def yearTo (s : Sketch) (i : Nat) : Sketch :=
  { s with year := { s.year with width := i - s.year.start } }.writeYear

/-- The month, the day or the year begins at `i`. -/
def monthAt (s : Sketch) (i : Nat) : Sketch := { s with month := { s.month with start := i } }
def dayAt (s : Sketch) (i : Nat) : Sketch := { s with day := { s.day with start := i } }
def yearAt (s : Sketch) (i : Nat) : Sketch := { s with year := { s.year with start := i } }

/-- The first number is the day. -/
def firstIsDay (s : Sketch) : Sketch := { s with day := ⟨0, s.first⟩ }.writeDay

/-- Ends the parts of the date that have begun. -/
def closeDate (s : Sketch) (i : Nat) : Sketch :=
  let s := if s.year.start > 0 then (if s.year.width == 0 then s.yearTo i else s.writeYear) else s
  let s := if s.month.start > 0 && s.month.width == 0 then s.monthTo i else s
  if s.day.start > 0 && s.day.width == 0 then s.dayTo i else s

/-- Ends the parts of the time that have begun. -/
def closeTime (s : Sketch) (i : Nat) : Sketch :=
  let s := if s.hour.start == 0 then s else
    match s.hour.width with
    | 2 => s.write s.hour.start "15"
    | 1 => s.write s.hour.start "3"
    | _ => s
  let widthOr := fun (p : Place) => if p.width == 0 then { p with width := i - p.start } else p
  let s := if s.minute.start == 0 then s else
    let p := widthOr s.minute
    { s with minute := p }.write p.start (if p.width == 2 then "04" else "4")
  let s := if s.second.start == 0 then s else
    let p := widthOr s.second
    { s with second := p }.write p.start (if p.width == 2 then "05" else "5")
  if s.fraction.start == 0 then s
  else s.write s.fraction.start (String.ofList (List.replicate s.fraction.width '0'))

/-- Leaves out what has been found to be too much. -/
def cutExtra (s : Sketch) : Sketch :=
  if s.extra > 0 && s.layout.size > s.extra then
    { s with layout := s.layout.take s.extra, text := s.text.take s.extra }
  else s

/-- The character after `i`. -/
def nextIs (s : Sketch) (i : Nat) (c : Char) : Bool := s.text[i + 1]? == some c

/-- The text before `i`. -/
def lead (s : Sketch) (i : Nat) : List Char := s.text.toList.take i

/-- The text from `i` on. -/
def tail (s : Sketch) (i : Nat) : List Char := s.text.toList.drop i

end Sketch

/-- Short and long names of the days. -/
def dayNames : List String :=
  (Layout.shortDays ++ Layout.longDays).map Text.lower

/-- Long names of the months. -/
def monthNames : List String := Layout.longMonths.map Text.lower

/-! ## The date -/

/-- Reads the character at `i` after digits only. -/
def afterNumber (s : Sketch) (i : Nat) (c : Char) : Except Detour (Sketch × Step) :=
  let go := fun (t : Sketch) => .ok ({ t with first := i }, Step.next (i + 1))
  match c with
  | '-' =>
    if i == 4 then
      go ({ s with date := .yearDash, year := ⟨0, 4⟩ }.monthAt (i + 1) |>.write 0 "2006")
    else go { s with date := .dayDash }
  | '\u2212' => go { s with date := .dayDash }
  | '/' =>
    if i == 4 then go ({ s with date := .yearSlash }.yearTo i |>.monthAt (i + 1))
    else if i + 2 < s.text.size && (s.text[i + 1]?).any Text.isLetter then
      .ok ({ s with date := .slashName, day := ⟨0, 2⟩ }.monthAt (i + 1) |>.writeDay, .next (i + 1))
    else
      let s := { s with date := .slash }
      if s.monthFirst then go (if s.month.width == 0 then s.monthTo i |>.dayAt (i + 1) else s)
      else go (if s.day.width == 0 then s.dayTo i |>.monthAt (i + 1) else s)
  | ':' =>
    let s := { s with date := .colon }
    if i == 4 then go (s.yearTo i |>.monthAt (i + 1))
    else if s.monthFirst && s.month.width == 0 then go (s.monthTo i |>.dayAt (i + 1))
    else go s
  | '.' =>
    let s := { s with date := .dot }
    if i == 4 then go (s.yearTo i |>.monthAt (i + 1))
    else go ({ s with month := {} }.monthTo i |>.dayAt (i + 1))
  | ' ' =>
    if i == 6 then go { s with date := .sixDigits }
    else go { s with date := .dayBlank, day := ⟨0, i⟩ }
  | '年' => go { s with date := .yearSign }
  | ',' => .error .unknown
  | _ => .ok (s, .next (i + 1))

/-- Reads the character at `i` after the first word. -/
def afterWord (s : Sketch) (i : Nat) (c : Char) : Except Detour (Sketch × Step) :=
  match c with
  | ' ' =>
    let word := Text.lower (Text.ofByteChars (s.lead i))
    if i > 3 then
      if monthNames.contains word then
        let date := if s.text.size - i < 10 then DateForm.monthDay else .monthMore
        .ok ({ s with date, monthName := word }.dayAt (i + 1), .next (i + 1))
      else .ok (s, .next (i + 1))
    else if dayNames.contains word then .error (.again (s.tail (i + 1)) true)
    else .ok ({ s with date := .wordBlank }, .next (i + 1))
  | ',' =>
    if i == 3 then .ok ({ s with date := .shortWeekdayComma }.write 0 "Mon", .next (i + 1))
    else .ok ({ s with date := .weekdayComma, skip := i + 2 }, .next (i + 2))
  | '.' =>
    if i == 3 then
      .ok ({ s with date := .wordDot, month := ⟨0, i⟩ }.write 0 "Jan", .next (i + 1))
    else if i == 4 then .error (.again (s.lead (i - 1) ++ s.tail i) false)
    else .error .unknown
  | _ => .ok (s, .next (i + 1))

/-- The ending of an ordinal number is left out. -/
def afterSuffix (s : Sketch) (i : Nat) (c : Char) : Except Detour (Sketch × Step) :=
  let ends := [('t', 'h'), ('n', 'd'), ('s', 't'), ('r', 'd')].any fun (a, b) =>
    (c == a || c == a.toUpper) && (s.nextIs i b || s.nextIs i b.toUpper)
  if ends && s.text.size > i + 2 then .error (.again (s.lead i ++ s.tail (i + 2)) false)
  else .ok (s, .next (i + 1))

/-- Reads the character `c` at `i`. -/
def dateStep (s : Sketch) (i : Nat) (c : Char) : Except Detour (Sketch × Step) :=
  let go := fun (t : Sketch) => Except.ok (t, Step.next (i + 1))
  let stop := fun (t : Sketch) => Except.ok (t, Step.stop i)
  let timed := fun (t : Sketch) => { t with time := TimeForm.start }
  match s.date with
  | .start =>
    if Text.isDecimalDigit c then go { s with date := .number }
    else if Text.isLetter c then go { s with date := .word }
    else .error .unknown
  | .number => afterNumber s i c
  | .sixDigits => .ok (timed (s.write 0 "060102"), .stop (i - 1))
  | .yearDash =>
    if c == '-' then go ({ s with date := .yearDashDash }.monthTo i |>.dayAt (i + 1))
    else if Text.isLetter c then go { s with date := .yearDashName }
    else go s
  | .yearDashDash =>
    if c == '+' || c == '-' then go ({ s with date := .yearDashOffset, offset := i }.dayTo i)
    else if c == ' ' || c == 'T' then stop (timed ({ s with date := .yearDashDay }.dayTo i))
    else go s
  | .yearDashOffset => go (if c == ':' then s.write s.offset "-07:00" else s)
  | .yearDashName =>
    go (if c == '-' then (s.monthTo i).write s.month.start "Jan" |>.dayAt (i + 1) else s)
  | .dayDash =>
    if Text.isLetter c then go ({ s with date := .dayDashName }.monthAt i) else .error .unknown
  | .dayDashName =>
    if c == '-' then
      go (({ s with date := .dayDashNameDash }.monthTo i).write s.month.start "Jan"
        |>.yearAt (i + 1))
    else go s
  | .dayDashNameDash =>
    if c == ' ' then
      let width := i - s.year.start
      let s := if width == 4 || width == 2 then (s.yearTo i).firstIsDay else s
      stop (timed s)
    else go s
  | .yearSlash =>
    if c == ' ' || c == ':' then stop (timed (if s.day.width == 0 then s.dayTo i else s))
    else if c == '/' && s.month.width == 0 then go (s.monthTo i |>.dayAt (i + 1))
    else go s
  | .slashName =>
    if c == '/' then
      go (if s.month.width == 0 then s.write s.month.start "Jan" |>.yearAt (i + 1) else s)
    else if c == ' ' || c == ':' then stop (timed (if s.year.width == 0 then s.yearTo i else s))
    else go s
  | .slash =>
    if c == '/' then
      if s.monthFirst then go (if s.day.width == 0 then s.dayTo i |>.yearAt (i + 1) else s)
      else go (if s.month.width == 0 then s.monthTo i |>.yearAt (i + 1) else s)
    else if c == ' ' then stop (timed (if s.year.width == 0 then s.yearTo i else s))
    else go s
  | .colon =>
    if c == ' ' then
      stop (timed (if s.year.width == 0 then s.yearTo i
        else if s.day.width == 0 then s.dayTo i else s))
    else if c == ':' then
      if s.year.width > 0 then
        go (if s.month.width == 0 then s.monthTo i |>.dayAt (i + 1) else s)
      else if s.monthFirst && s.day.width == 0 then go (s.dayTo i |>.yearAt (i + 1))
      else go s
    else go s
  | .dayBlank =>
    if c == ' ' then
      let s := timed (s.yearAt (i + 1)).firstIsDay
      if i > s.day.width + 4 then go { s with date := .dayLongName }
      else
        let start := s.day.width + 1
        go ({ s with date := .dayNameYear, month := ⟨start, i - start⟩ }.write start "Jan")
    else go s
  | .dayNameYear =>
    if c == ',' then .ok (s.yearTo i, .stop (i + 1))
    else if c == ' ' then stop (s.yearTo i)
    else go s
  | .yearSign => go (if c == ' ' then { s with date := .yearSignBlank } else s)
  | .dot =>
    if c == '.' then
      let s := { s with date := .dotDot }
      if s.month.start == 0 then go (s.dayTo i |>.yearAt (i + 1))
      else go (s.monthTo i |>.dayAt (i + 1))
    else go s
  | .word => afterWord s i c
  | .wordDot =>
    if c == ' ' then go s
    else if Text.isDecimalDigit c then go ({ s with date := .wordDay }.dayAt i)
    else .error .unknown
  | .wordBlank =>
    if Text.isLetter c then go (({ s with date := .wordWord }.write 0 "Mon").write i "Jan")
    else if Text.isDecimalDigit c then
      go (({ s with date := .wordDay }.write 0 "Jan").dayAt i)
    else go s
  | .wordWord =>
    if c == ' ' then
      if s.day.start > 0 then
        go (timed ({ s with date := .wordWordYear }.dayTo i |>.yearAt (i + 1)))
      else go s
    else if Text.isDecimalDigit c && s.day.start == 0 then go (s.dayAt i)
    else go s
  | .wordWordYear =>
    if c == ':' then .ok ({ s with date := .wordWord, year := {} }, .stop (i - 3))
    else if c == ' ' then stop (s.yearTo i)
    else go s
  | .wordDay =>
    if c == ',' then go ({ s with date := .wordDayComma }.dayTo i)
    else if c == ' ' then
      go (timed ({ s with date := .wordDayYear }.dayTo i |>.yearAt (i + 1)))
    else if Text.isLetter c then .ok ({ s with date := .daySuffix }, .next i)
    else go s
  | .wordDayYear =>
    if c == ':' then .ok ({ s with date := .wordDay, year := {} }, .stop (i - 3))
    else if c == ' ' then stop (s.yearTo i)
    else go s
  | .wordDayComma =>
    go (if c == ' ' then { s with date := .wordDayCommaYear }.yearAt (i + 1) else s)
  | .wordDayCommaYear =>
    if c == '\x27' then go (s.yearAt (i + 1))
    else if c == ' ' || c == ',' then
      stop (timed ({ s with date := .wordDayYearTime }.yearTo i))
    else go s
  | .monthDay =>
    if c == ' ' || c == ',' then go (if s.day.width == 0 then s.dayTo i else s)
    else if ['s', 'r', 't', 'n'].contains c.toLower then
      .ok ({ s with date := .daySuffix }, .next i)
    else go (if s.day.width > 0 && s.year.start == 0 then s.yearAt i else s)
  | .monthMore =>
    if c == ',' then
      if s.nextIs i ' ' then
        .ok ({ s with date := .monthYear }.dayTo i |>.yearAt (i + 2), .next (i + 2))
      else go s
    else if c == ' ' then go ({ s with date := .monthYear }.dayTo i |>.yearAt (i + 1))
    else if Text.isDecimalDigit c then go s
    else if Text.isLetter c then .ok ({ s with date := .daySuffix }.dayTo i, .next i)
    else go s
  | .monthYear =>
    if c == ',' then .ok (timed (s.yearTo i), .stop (i + 1))
    else if c == ' ' then stop (timed (s.yearTo i))
    else go s
  | .daySuffix => afterSuffix s i c
  | .weekdayComma =>
    let s := if s.day.start == 0 then s.dayAt i else s
    if c == ' ' || c == '-' then
      if s.month.start == 0 then go (s.dayTo i |>.monthAt (i + 1))
      else if s.year.start == 0 then
        go ((s.monthTo i).write s.month.start "Jan" |>.yearAt (i + 1))
      else stop (timed s)
    else go s
  | .shortWeekdayComma =>
    if c == ' ' || c == '-' then
      if s.day.start == 0 then go (s.dayAt (i + 1))
      else if s.month.start == 0 then go (s.dayTo i |>.monthAt (i + 1))
      else if s.year.start == 0 then
        go ((s.monthTo i).write s.month.start "Jan" |>.yearAt (i + 1))
      else stop (timed (s.yearTo i))
    else go s
  | .dayLongName | .dotDot => go s
  | .yearDashDay | .yearSignBlank | .wordDayYearTime => stop s

/-- Reads the date from `i` on, character by character, and returns where it ends.  The place of a
character is that of its last byte. -/
def readDate : Nat → Sketch → Nat → Except Detour (Sketch × Nat)
  | 0, s, i => .ok (s, i)
  | n + 1, s, i =>
    if s.text.size ≤ i then .ok (s, i)
    else do
      let (c, width) := Text.frontChar (s.text.extract i (i + 4)).toList
      match ← dateStep s (i + width - 1) c with
      | (s, .next i) => readDate n s i
      | (s, .stop i) => .ok (s, i)

/-! ## The time of day -/

/-- Reads the character at `i` of the hours, minutes and seconds. -/
def clockStep (s : Sketch) (i : Nat) (c : Char) : Except Detour (Sketch × Step) :=
  let s := if s.hour.start == 0 then { s with hour := { s.hour with start := i } } else s
  let go := fun (t : Sketch) => Except.ok (t, Step.next (i + 1))
  let clockTo := fun (t : Sketch) =>
    if t.second.start == 0 then { t with minute := { t.minute with width := i - t.minute.start } }
    else { t with second := { t.second with width := i - t.second.start } }
  match c with
  | ',' => .error (.again (s.lead i ++ '.' :: s.tail (i + 1)) false)
  | '-' | '+' =>
    let t := if s.second.start > 0 && s.second.width > 0 then s else clockTo s
    let t := if s.second.start > 0 && t.fraction.start > 0 && t.fraction.width == 0 then
      { t with fraction := { t.fraction with width := i - t.fraction.start } } else t
    go { t with time := .offset, offset := i }
  | '.' =>
    go { s with
      time := .fraction, second := { s.second with width := i - s.second.start }
      fraction := { s.fraction with start := i + 1 } }
  | 'Z' => go { clockTo s with time := .zulu, universal := true }
  | 'a' | 'A' =>
    if s.nextIs i 't' || s.nextIs i 'T' then
      if s.nextIs (i + 1) ' ' then .ok ({ s with hour := {} }, .next (i + 3))
      else .ok (s, .next (i + 2))
    else if c == 'a' && s.nextIs i 'm' then go ((s.closeTime i).write i "am")
    else if c == 'A' && s.nextIs i 'M' then go ((s.closeTime i).write i "PM")
    else go s
  | 'p' => go (if s.nextIs i 'm' then (s.closeTime i).write i "pm" else s)
  | 'P' => go (if s.nextIs i 'M' then (s.closeTime i).write i "PM" else s)
  | ' ' => go { s.closeTime i with time := .blank }
  | ':' =>
    if s.minute.start == 0 then
      go { s with
        minute := { s.minute with start := i + 1 }
        hour := { s.hour with width := i - s.hour.start } }
    else if s.second.start == 0 then
      go { s with
        second := { s.second with start := i + 1 }
        minute := { s.minute with width := i - s.minute.start } }
    else
      let s := { s with
        second := { s.second with width := i - s.second.start }
        fraction := { s.fraction with start := i + 1 }
        text := s.text.setIfInBounds i '.' }
      go ((s.write s.second.start "05").write i ".")
  | _ => go s

/-- The name of a zone ends before `i`. -/
def zoneTo (s : Sketch) (i : Nat) : Sketch :=
  match i - s.zone with
  | 4 => s.write s.zone " MST"
  | 3 => s.write s.zone "MST"
  | _ => s

/-- Reads the character `c` at `i`; `before` is the one before it. -/
def timeStep (s : Sketch) (i : Nat) (before c : Char) : Except Detour (Sketch × Step) :=
  let go := fun (t : Sketch) => Except.ok (t, Step.next (i + 1))
  let digit := Text.isDecimalDigit c
  let letter := Text.isLetter c
  let yearDigit := fun (t : Sketch) =>
    let t := { t with year := { t.year with width := i - t.year.start + 1 } }
    if t.year.width == 4 then t.writeYear else t
  match s.time with
  | .start => clockStep s i c
  | .offset => go (if c == ':' then { s with time := .offsetColon } else s)
  | .blank =>
    if c == 'A' || c == 'P' then go { s with time := .halfOrZone, zone := i }
    else if c == '+' || c == '-' then go { s with time := .blankOffset, offset := i }
    else if letter then go { s with time := .zone, zone := i }
    else if digit then go ({ s with time := .year }.yearAt i)
    else go s
  | .zone =>
    if c == '+' || c == '-' then go { zoneTo s i with time := .zoneOffset, offset := i }
    else if c == ' ' then go ({ zoneTo s i with time := .zoneBlank }.yearAt (i + 1))
    else go s
  | .zoneOffset =>
    if c == ' ' then
      let s := { s.write s.offset "-0700" with time := .zoneOffsetBlank }
      go (if s.year.start == 0 then s.yearAt (i + 1) else s)
    else go s
  | .zoneOffsetBlank =>
    go (if digit then { s with time := .zoneOffsetYear }
      else { s with time := .zoneOffsetMore, extra := i - 1 })
  | .zoneOffsetYear => go (if digit then yearDigit s else s)
  | .halfOrZone =>
    if c == 'M' then
      let s := { s with time := .half }.write (i - 1) "PM"
      go (match s.hour.width with
        | 2 => s.write s.hour.start "03"
        | 1 => s.write s.hour.start "3"
        | _ => s)
    else go { s with time := .zone }
  | .blankOffset =>
    if c == ':' then go { s with time := .blankOffsetColon }
    else if c == ' ' then
      go ({ s.write s.offset "-0700" with time := .blankOffsetBlank }.yearAt (i + 1))
    else go s
  | .blankOffsetBlank =>
    if c == '=' then
      go (if before == 'm' then { s with extra := i - 2 }.cutExtra else s)
    else if c == '+' || c == '-' || c == '(' then
      go { s with time := .blankOffset, extra := i - 1 }.cutExtra
    else if digit then go (yearDigit s)
    else if letter && s.zone == 0 then go { s with zone := i }
    else go s
  | .blankOffsetColon =>
    if letter then .ok ({ s with time := .blankOffsetColonZone }, .stop i) else go s
  | .fraction =>
    let closed := { s with fraction := { s.fraction with width := i - s.fraction.start } }
    if c == ' ' then go { closed with time := .fractionBlank }
    else if c == '+' || c == '-' then go { closed with time := .fractionOffset, offset := i }
    else if letter then go { closed with time := .fractionZone }
    else go s
  | .fractionOffset => go (if c == ':' then { s with time := .fractionOffsetColon } else s)
  | .fractionOffsetColon =>
    go (if c == ' ' then
      { s.write s.offset "-07:00" with time := .fractionOffsetZone, zone := i + 1 } else s)
  | .fractionBlank =>
    let s := if s.offset == 0 then { s with offset := i } else s
    if c == '+' || c == '-' then
      go { s with
        time := .fractionBlankOffset
        fraction := { s.fraction with width := i - s.fraction.start - 1 } }
    else if letter then .ok ({ s with time := .fractionBlankOffsetZone }, .stop i)
    else go s
  | .fractionBlankOffset =>
    if c == ':' then go { s with time := .fractionBlankOffsetColon }
    else if c == ' ' then go (s.write s.offset "-0700")
    else if c == '+' || c == '-' then go { s with extra := i - 1 }.cutExtra
    else if letter then go { s with time := .fractionBlankOffsetZone }
    else go s
  | .fractionBlankOffsetZone =>
    go (if c == '=' && before == 'm' then { s with extra := i - 2 }.cutExtra else s)
  | .fractionBlankOffsetColon =>
    if c == ' ' then go (s.write s.offset "-07:00")
    else if letter then go { s with time := .fractionBlankOffsetColonZone, zone := i }
    else go s
  | .zulu => go (if digit then { s with time := .zuluDigit } else s)
  | _ => go s

/-- Reads the time from `i` on, in the text as it was at the start, and returns where it ends. -/
def readTime (text : Array Char) : Nat → Sketch → Nat → Except Detour (Sketch × Nat)
  | 0, s, i => .ok (s, i)
  | n + 1, s, i =>
    match text[i]? with
    | none => .ok (s, i)
    | some c => do
      match ← timeStep s i (text.getD (i - 1) c) c with
      | (s, .next i) => readTime text n s i
      | (s, .stop i) => .ok (s, i)

/-- Ends the time at `i`. -/
def endTime (s : Sketch) (i : Nat) : Except Detour Sketch := do
  if s.time == .offset && [0, 1, 2, 4].contains (s.text.size - s.offset) then
    throw (.badOffset s.text.toList s.offset)
  let s := match s.time with
    | .zone =>
      match s.text.size - s.zone with
      | 3 => s.write s.zone "MST"
      | 4 => { s.write s.zone "MST" with extra := s.text.size - 1 }.cutExtra
      | _ => s
    | .zoneBlank | .year => s.yearTo i
    | .zoneOffsetMore => s.cutExtra
    | .zoneOffset => s.write s.offset (if i - s.offset < 4 then "-07" else "-0700")
    | .fraction => { s with fraction := { s.fraction with width := i - s.fraction.start } }
    | .offset =>
      match s.text.size - s.offset with
      | 3 => s.write s.offset "-07"
      | 5 => s.write s.offset "-0700"
      | _ => s
    | .blankOffset | .fractionOffset | .fractionBlankOffset => s.write s.offset "-0700"
    | .blankOffsetBlank =>
      if s.zone == 0 then s
      else match s.text.size - s.zone with
        | 3 => s.write s.zone "MST"
        | 4 => s.write s.zone "MST "
        | _ => s
    | .blankOffsetColon | .offsetColon | .fractionOffsetColon => s.write s.offset "-07:00"
    | .fractionBlankOffsetColonZone =>
      match i - s.zone with
      | 3 => s.write s.zone "MST"
      | 4 => s.write s.zone "MST "
      | _ => s
    | _ => s
  return s.closeTime i

/-! ## The whole text -/

/-- What a text was found to be. -/
inductive Finding where
  | moment (t : Moment)
  | layout (layout text : List Char) (universal : Bool)

/-- The fault of a text that has no known form. -/
def unknown (text : List Char) : Fault :=
  .plain ("Could not find format for " ++ Text.quoteBytes text)

/-- The fault of a text whose offset at `i` has no known form. -/
def badOffset (text : List Char) (i : Nat) : Fault :=
  .plain ("TZ offset not recognized " ++ Text.quoteBytes text ++ " near " ++
    Text.quoteBytes (text.drop i) ++ " (must be 2 or 4 digits optional colon)")

/-- The number that a text of digits stands for, when it fits into 64 bits. -/
def count? (text : List Char) : Option Int :=
  if text.all Layout.isDigit && Text.natOfDigits text < power 2 63 then some (Text.natOfDigits text)
  else none

/-- What a number is: how long it is tells its unit.  Nanoseconds since 1970 are counted in 64
bits. -/
def ofDigits (text : List Char) : Except Fault Finding :=
  let counted := fun (nanos : Int) =>
    match count? text with
    | some n => Except.ok (Finding.moment (.ofNanos ((n * nanos).bmod (power 2 64))))
    | none => .error (unknown text)
  match text.length with
  | 19 => counted 1
  | 16 => counted 1000
  | 14 => .ok (.layout "20060102150405".toList text false)
  | 13 => counted 1000000
  | 10 =>
    match count? text with
    | some n => .ok (.moment ⟨n, 0⟩)
    | none => .error (unknown text)
  | 8 => .ok (.layout "20060102".toList text false)
  | 4 => .ok (.layout "2006".toList text false)
  | n =>
    if n < 4 then .error (.plain ("unrecognized format, too short " ++ Text.ofByteChars text))
    else .error (unknown text)

/-- The layout that was found; a month that the date begins with and a day of the week before a
comma are brought into their final form. -/
def Sketch.finding (s : Sketch) : Finding :=
  let layout := if s.monthName != "" && s.month.start == 0 then
      "January".toList ++ s.layout.toList.drop s.monthName.utf8ByteSize
    else s.layout.toList
  let skip := if s.skip > 0 && layout.length > s.skip then s.skip else 0
  .layout (layout.drop skip) (s.text.toList.drop skip) s.universal

/-- Ends the date after everything has been read up to `i`. -/
def endDate (text : List Char) (s : Sketch) (i : Nat) : Except Fault Finding :=
  let fixed := fun (layout : String) =>
    Except.ok (Finding.layout (Text.byteChars layout) s.text.toList s.universal)
  match s.date with
  | .number => ofDigits text
  | .yearDashOffset =>
    match s.text.size - s.offset with
    | 5 => .ok (s.write s.offset "-0700").finding
    | 6 => .ok (s.write s.offset "-07:00").finding
    | _ => .ok s.finding
  | .yearDashName => .ok (s.dayTo i).finding
  | .dayDashNameDash =>
    let width := text.length - s.year.start
    if width == 4 || width == 2 then .ok ((s.yearTo text.length).firstIsDay).finding
    else .ok s.finding
  | .dot => .ok (s.monthTo i).finding
  | .dayLongName => fixed (if s.day.width == 2 then "02 January 2006" else "2 January 2006")
  | .monthDay | .wordDayCommaYear => .ok (s.yearTo i).finding
  | .yearSign => fixed "2006年01月02日"
  | .yearSignBlank => fixed "2006年01月02日 15:04:05"
  | .sixDigits | .yearDash | .yearDashDash | .yearDashDay | .dotDot | .dayNameYear | .monthYear
  | .wordDayYearTime | .wordWord | .wordWordYear | .wordDay | .wordDayYear | .slash | .slashName
  | .yearSlash | .colon | .weekdayComma | .shortWeekdayComma => .ok s.finding
  | _ => .error (unknown text)

/-- Reads a text once. -/
def readOnce (monthFirst : Bool) (text : List Char) : Except Detour (Sketch × Nat) := do
  let cs := text.toArray
  let (s, i) ← readDate (2 * cs.size + 2) { text := cs, layout := cs, monthFirst } 0
  let s := s.closeDate i
  if s.time != .start then return (s, i)
  let i := if i < cs.size then i + 1 else i
  let i := i + ((cs.toList.drop i).takeWhile (· == ' ')).length
  let (s, i) ← readTime cs (cs.size + 1) s i
  return (← endTime s i, i)

/-- Finds out what a text is; it may be read again `n` times. -/
def findTo : Nat → Bool → List Char → Except Fault Finding
  | 0, _, text => .error (unknown text)
  | n + 1, monthFirst, text =>
    match readOnce monthFirst text with
    | .ok (s, i) => endDate text s i
    | .error .unknown => .error (unknown text)
    | .error (.badOffset text i) => .error (badOffset text i)
    | .error (.again text forgets) => findTo n (monthFirst || forgets) text

/-- The point in time that a text names, in the local time of a zone. -/
def parse (monthFirst : Bool) (zone : Zone) (text : String) : Except Fault Moment := do
  let text := Text.byteChars text
  match ← findTo (2 * text.length + 2) monthFirst text with
  | .moment t => return t
  | .layout layout text universal => Layout.parse layout text (if universal then {} else zone)

end Trellis.Locale.DateText
