/-
Layouts of dates: how a date is written is said by writing the reference date in that way, the
second of January 2006 at 15:04:05, seven hours behind universal time.
-/
import Trellis.Calendar
import Trellis.Moment
import Trellis.Text.Search

namespace Trellis

namespace Locale.Layout

/-- How the offset from universal time is written. -/
structure OffsetForm where
  /-- `Z` stands for no offset -/
  zulu : Bool
  minutes : Bool
  seconds : Bool
  colons : Bool
deriving DecidableEq, Repr

/-- An element of a layout. -/
inductive Element where
  | longMonth | month | numMonth | zeroMonth
  | longWeekday | weekday
  | day | underDay | zeroDay | underYearDay | zeroYearDay
  | hour | hour12 | zeroHour12
  | minute | zeroMinute | second | zeroSecond
  | longYear | year
  | upperHalf | lowerHalf
  | zone
  | offset (form : OffsetForm)
  /-- a fraction of a second after a mark; `trimmed` leaves zeros at the end out -/
  | fraction (digits : Nat) (trimmed : Bool) (mark : Char)
deriving DecidableEq, Repr

/-- What follows a piece at the front of a text. -/
def after? (piece : String) (cs : List Char) : Option (List Char) := Text.dropPiece? piece.toList cs

def startsLower (cs : List Char) : Bool := cs.head?.any fun c => 'a' ≤ c && c ≤ 'z'

def startsDigit (cs : List Char) : Bool := cs.head?.any fun c => '0' ≤ c && c ≤ '9'

/-- The offsets in the order in which they are tried. -/
def offsetForms : List (String × OffsetForm) := [
  ("070000", ⟨false, true, true, false⟩), ("07:00:00", ⟨false, true, true, true⟩),
  ("0700", ⟨false, true, false, false⟩), ("07:00", ⟨false, true, false, true⟩),
  ("07", ⟨false, false, false, false⟩)]

/-- The offset at the front of what follows its sign or `Z`. -/
def offset? (zulu : Bool) (cs : List Char) : Option (Element × List Char) :=
  offsetForms.findSome? fun (text, form) =>
    (after? text cs).map fun rest => (.offset { form with zulu }, rest)

/-- The fraction at the front of what follows its mark. -/
def fraction? (mark : Char) (cs : List Char) : Option (Element × List Char) :=
  match cs with
  | '0' :: _ => digits '0'
  | '9' :: _ => digits '9'
  | _ => none
where
  digits (d : Char) : Option (Element × List Char) :=
    let n := (cs.takeWhile (· == d)).length
    let rest := cs.drop n
    if startsDigit rest then none else some (.fraction n (d == '9') mark, rest)

/-- The element at the front of a layout. -/
def element? : List Char → Option (Element × List Char)
  | 'J' :: 'a' :: 'n' :: rest =>
    match after? "uary" rest with
    | some rest => some (.longMonth, rest)
    | none => if startsLower rest then none else some (.month, rest)
  | 'M' :: 'o' :: 'n' :: rest =>
    match after? "day" rest with
    | some rest => some (.longWeekday, rest)
    | none => if startsLower rest then none else some (.weekday, rest)
  | 'M' :: 'S' :: 'T' :: rest => some (.zone, rest)
  | '0' :: '0' :: '2' :: rest => some (.zeroYearDay, rest)
  | '0' :: '1' :: rest => some (.zeroMonth, rest)
  | '0' :: '2' :: rest => some (.zeroDay, rest)
  | '0' :: '3' :: rest => some (.zeroHour12, rest)
  | '0' :: '4' :: rest => some (.zeroMinute, rest)
  | '0' :: '5' :: rest => some (.zeroSecond, rest)
  | '0' :: '6' :: rest => some (.year, rest)
  | '1' :: '5' :: rest => some (.hour, rest)
  | '1' :: rest => some (.numMonth, rest)
  | '2' :: '0' :: '0' :: '6' :: rest => some (.longYear, rest)
  | '2' :: rest => some (.day, rest)
  | '_' :: '_' :: '2' :: rest => some (.underYearDay, rest)
  | '_' :: '2' :: rest => if (after? "006" rest).isSome then none else some (.underDay, rest)
  | '3' :: rest => some (.hour12, rest)
  | '4' :: rest => some (.minute, rest)
  | '5' :: rest => some (.second, rest)
  | 'P' :: 'M' :: rest => some (.upperHalf, rest)
  | 'p' :: 'm' :: rest => some (.lowerHalf, rest)
  | '-' :: rest => offset? false rest
  | 'Z' :: rest => offset? true rest
  | '.' :: rest => fraction? '.' rest
  | ',' :: rest => fraction? ',' rest
  | _ => none

/-- The plain text before the first element, the element with its text, and the rest. -/
def next (cs : List Char) : List Char × Option (Element × List Char) × List Char :=
  match cs with
  | [] => ([], none, [])
  | c :: rest =>
    match element? (c :: rest) with
    | some (e, tail) => ([], some (e, (c :: rest).take ((c :: rest).length - tail.length)), tail)
    | none =>
      let (plain, found, tail) := next rest
      (c :: plain, found, tail)

/-! ## Writing -/

/-- A number with blanks in front. -/
def blankPadded (width n : Nat) : String :=
  let s := Text.natText n
  String.ofList (List.replicate (width - s.length) ' ') ++ s

/-- The offset in a form.  The sign is that of its full minutes. -/
def offsetText (form : OffsetForm) (offset : Int) : String :=
  if form.zulu && offset == 0 then "Z"
  else
    let n := offset.natAbs
    let colon := if form.colons then ":" else ""
    let seconds : Int := if offset ≤ -60 then -(offset.tmod 60) else offset.tmod 60
    (if offset ≤ -60 then "-" else "+") ++ Calendar.padded 2 (n / 3600 : Nat) ++
      (if form.minutes then colon ++ Calendar.padded 2 (n / 60 % 60 : Nat) else "") ++
      (if form.seconds then colon ++ Calendar.padded 2 seconds else "")

/-- A fraction of a second, with nine digits at most. -/
def fractionText (digits : Nat) (trimmed : Bool) (mark : Char) (nanos : Nat) : String :=
  let ds := (Calendar.padded 9 nanos).toList.take digits
  let ds := if trimmed then (ds.reverse.dropWhile (· == '0')).reverse else ds
  if ds.isEmpty then "" else String.ofList (mark :: ds)

/-- The hour on a clock of twelve hours. -/
def hourOfHalf (hour : Nat) : Nat := if hour % 12 == 0 then 12 else hour % 12

/-- An element for a date; `t` is the instant and `c` what the clock shows. -/
def elementText (t : Instant) (c : Calendar) : Element → String
  | .longMonth => nameAt longMonths (c.month - 1)
  | .month => short (nameAt longMonths (c.month - 1))
  | .numMonth => Text.natText c.month
  | .zeroMonth => Calendar.padded 2 c.month
  | .longWeekday => nameAt longDays c.weekday
  | .weekday => short (nameAt longDays c.weekday)
  | .day => Text.natText c.day
  | .underDay => blankPadded 2 c.day
  | .zeroDay => Calendar.padded 2 c.day
  | .underYearDay => blankPadded 3 c.yearDay
  | .zeroYearDay => Calendar.padded 3 c.yearDay
  | .hour => Calendar.padded 2 c.hour
  | .hour12 => Text.natText (hourOfHalf c.hour)
  | .zeroHour12 => Calendar.padded 2 (hourOfHalf c.hour)
  | .minute => Text.natText c.minute
  | .zeroMinute => Calendar.padded 2 c.minute
  | .second => Text.natText c.second
  | .zeroSecond => Calendar.padded 2 c.second
  | .longYear => Calendar.padded 4 c.year
  | .year => Calendar.padded 2 (max 0 c.year % 100)
  | .upperHalf => if c.hour ≥ 12 then "PM" else "AM"
  | .lowerHalf => if c.hour ≥ 12 then "pm" else "am"
  | .zone =>
    if t.clock.name.isEmpty then offsetText ⟨false, true, false, false⟩ t.clock.offset
    else t.clock.name
  | .offset form => offsetText form t.clock.offset
  | .fraction digits trimmed mark => fractionText digits trimmed mark t.moment.nanos

/-- A date in a layout; `n` bounds the number of elements. -/
def formatTo (t : Instant) (c : Calendar) : Nat → List Char → String
  | 0, cs => String.ofList cs
  | n + 1, cs =>
    match next cs with
    | (plain, none, _) => String.ofList plain
    | (plain, some (e, _), rest) =>
      String.ofList plain ++ elementText t c e ++ formatTo t c n rest

/-- An instant in a layout. -/
def format (layout : String) (t : Instant) : String :=
  formatTo t t.calendar (layout.length + 1) layout.toList

end Locale.Layout

end Trellis
