/-
Points in time as dates of the Gregorian calendar, without leap seconds.
-/
import Trellis.Text.Decimal

namespace Trellis

/-- A date with a time of day. -/
structure Calendar where
  year : Int
  /-- from 1 to 12 -/
  month : Nat
  /-- from 1 to 31 -/
  day : Nat
  hour : Nat := 0
  minute : Nat := 0
  second : Nat := 0
deriving DecidableEq, Repr

namespace Calendar

/-- The days from the start of 1970 to a date.  Years are counted from March, so that a leap day
ends its year. -/
def daysOfDate (year : Int) (month day : Nat) : Int :=
  let y := if month ≤ 2 then year - 1 else year
  let m := if month ≤ 2 then month + 9 else month - 3
  let era := y.fdiv 400
  let yearOfEra := y - era * 400
  let dayOfYear : Int := (153 * m + 2) / 5 + day - 1
  era * 146097 + (yearOfEra * 365 + yearOfEra / 4 - yearOfEra / 100 + dayOfYear) - 719468

/-- The date that lies a number of days after the start of 1970. -/
def dateOfDays (days : Int) : Int × Nat × Nat :=
  let z := days + 719468
  let era := z.fdiv 146097
  let dayOfEra := z - era * 146097
  let yearOfEra := (dayOfEra - dayOfEra / 1460 + dayOfEra / 36524 - dayOfEra / 146096) / 365
  let dayOfYear := dayOfEra - (365 * yearOfEra + yearOfEra / 4 - yearOfEra / 100)
  let m := ((5 * dayOfYear + 2) / 153).toNat
  let day := (dayOfYear - (153 * (m : Int) + 2) / 5 + 1).toNat
  let month := if m < 10 then m + 3 else m - 9
  let year := yearOfEra + era * 400
  (if month ≤ 2 then year + 1 else year, month, day)

/-- The date and time of day of a point in time. -/
def ofSeconds (seconds : Int) : Calendar :=
  let days := seconds.fdiv 86400
  let rest := (seconds - days * 86400).toNat
  let (year, month, day) := dateOfDays days
  { year, month, day, hour := rest / 3600, minute := rest % 3600 / 60, second := rest % 60 }

/-- The point in time of a date and time of day. -/
def seconds (c : Calendar) : Int :=
  daysOfDate c.year c.month c.day * 86400 + c.hour * 3600 + c.minute * 60 + c.second

/-- The day of the week, Sunday being 0. -/
def weekday (c : Calendar) : Nat := ((daysOfDate c.year c.month c.day + 4).emod 7).toNat

/-- The day of the year, from 1. -/
def yearDay (c : Calendar) : Nat :=
  (daysOfDate c.year c.month c.day - daysOfDate c.year 1 1).toNat + 1

/-- Whether a year has a leap day. -/
def isLeap (year : Int) : Bool := year % 4 == 0 && (year % 100 != 0 || year % 400 == 0)

/-- The number of days of a month. -/
def daysIn (year : Int) (month : Nat) : Nat :=
  match month with
  | 2 => if isLeap year then 29 else 28
  | 4 | 6 | 9 | 11 => 30
  | _ => 31

/-- A number with at least `width` digits. -/
def padded (width : Nat) (n : Int) : String :=
  let ds := (Text.natText n.natAbs).toList
  (if n < 0 then "-" else "") ++ String.ofList (Text.zeros (width - ds.length) ++ ds)

/-- A date. -/
def dateText (c : Calendar) : String :=
  padded 4 c.year ++ "-" ++ padded 2 c.month ++ "-" ++ padded 2 c.day

/-- A time of day. -/
def clockText (c : Calendar) : String :=
  padded 2 c.hour ++ ":" ++ padded 2 c.minute ++ ":" ++ padded 2 c.second

/-- A point in time as it is shown. -/
def text (c : Calendar) : String := c.dateText ++ " " ++ c.clockText ++ " +0000 UTC"

/-- A point in time as documents and logs write it. -/
def stamp (c : Calendar) : String := c.dateText ++ "T" ++ c.clockText ++ "Z"

end Calendar

end Trellis

/-! The English names of months and of days of the week. -/

namespace Trellis.Locale.Layout

def longMonths : List String := [
  "January", "February", "March", "April", "May", "June", "July", "August", "September", "October",
  "November", "December"]

def longDays : List String :=
  ["Sunday", "Monday", "Tuesday", "Wednesday", "Thursday", "Friday", "Saturday"]

/-- The short form of a name. -/
def short (name : String) : String := (name.take 3).toString

def shortMonths : List String := longMonths.map short

def shortDays : List String := longDays.map short

/-- A name by its position. -/
def nameAt (names : List String) (i : Nat) : String := names.getD i ""

end Trellis.Locale.Layout
