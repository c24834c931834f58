/-
Points in time, and how they are told.

A moment is counted from the start of 1970 in universal time.  A clock says by how much local time
is ahead of universal time, and what local time is called; a moment told by a clock is an instant.
-/
import Trellis.Calendar
import Trellis.Text.Decimal

namespace Trellis

/-- A point in time. -/
structure Moment where
  /-- seconds from the start of 1970 -/
  seconds : Int
  /-- nanoseconds since the last full second -/
  nanos : Nat := 0
deriving DecidableEq, Repr

/-- How local time is told: by how many seconds it is ahead of universal time, and its name, which
is empty when it has none. -/
structure Clock where
  offset : Int := 0
  name : String := "UTC"
deriving DecidableEq, Repr

/-- A point in time together with the clock by which it is told. -/
structure Instant where
  moment : Moment
  clock : Clock := {}
deriving DecidableEq, Repr

namespace Moment

def nanosPerSecond : Nat := 1000000000

/-- The point in time that lies a number of nanoseconds after the start of 1970. -/
def ofNanos (n : Int) : Moment := ⟨n.fdiv nanosPerSecond, (n.fmod nanosPerSecond).toNat⟩

/-- The nanoseconds from the start of 1970 on. -/
def toNanos (t : Moment) : Int := t.seconds * nanosPerSecond + t.nanos

/-- Whether a point in time lies before another. -/
def before (s t : Moment) : Bool :=
  s.seconds < t.seconds || (s.seconds == t.seconds && s.nanos < t.nanos)

end Moment

namespace Instant

/-- The seconds from the start of the calendar, in March of the year before the one that lies
292277022400 years before the year 1, to the start of 1970. -/
def calendarStart : Int := (730692556 * 146097 + 306) * 86400 + 62135596800

/-- The date and the time of day that the clock shows.  Seconds are counted in 64 bits from the
start of the calendar, which so goes round. -/
def calendar (t : Instant) : Calendar :=
  let n := t.moment.seconds + t.clock.offset + calendarStart
  .ofSeconds (n.emod (power 2 64) - calendarStart)

/-- The start of the year 1 in universal time, which stands for no instant. -/
def start : Instant := ⟨⟨-62135596800, 0⟩, {}⟩

/-- The same point in time in universal time. -/
def utc (t : Instant) : Instant := ⟨t.moment, {}⟩

/-- The part of a second as it is written after the seconds, without zeros at its end. -/
def fractionText (t : Instant) : String :=
  let ds := (Calendar.padded 9 t.moment.nanos).toList
  let ds := (ds.reverse.dropWhile (· == '0')).reverse
  if ds.isEmpty then "" else String.ofList ('.' :: ds)

/-- The offset of the clock in hours and minutes with a mark between them. -/
def offsetText (t : Instant) (mark : String) : String :=
  let n := t.clock.offset.natAbs / 60
  (if t.clock.offset ≤ -60 then "-" else "+") ++ Calendar.padded 2 (n / 60 : Nat) ++ mark ++
    Calendar.padded 2 (n % 60 : Nat)

/-- An instant as it is shown. -/
def text (t : Instant) : String :=
  let name := if t.clock.name.isEmpty then t.offsetText "" else t.clock.name
  t.calendar.dateText ++ " " ++ t.calendar.clockText ++ t.fractionText ++ " " ++ t.offsetText "" ++
    " " ++ name

/-- An instant as documents and logs write it. -/
def stamp (t : Instant) : String :=
  t.calendar.dateText ++ "T" ++ t.calendar.clockText ++ t.fractionText ++
    (if t.clock.offset == 0 then "Z" else t.offsetText ":")

end Instant

end Trellis

/-!
Time zones: the clock that a place keeps, through time.

A zone is a list of changes, each of which puts another clock into force.  From the clock at a point
in time one gets the point in time of a date that is given in local time; where clocks are put
forward a time of day is missing, and where they are put back one comes twice.
-/

namespace Trellis.Locale

/-- A point in time, in seconds from the start of 1970, and the clock that is kept from then on. -/
structure Change where
  start : Int
  clock : Clock
deriving DecidableEq, Repr

/-- A time zone: the clock before all changes, and the changes in order of time. -/
structure Zone where
  first : Clock := {}
  changes : List Change := []
deriving Repr

namespace Zone

/-- The year up to which changes are listed.  Rules that have not ended by 2100 go on for ever. -/
def horizon : Int := 2500

/-- Four hundred years in seconds.  After so long dates fall on the same days of the week. -/
def cycle : Int := 146097 * 86400

/-- A point in time before the horizon at which the same clock is kept. -/
def folded (t : Int) : Int :=
  let limit := Calendar.daysOfDate horizon 1 1 * 86400
  if t < limit then t else t - ((t - limit) / cycle + 1) * cycle

/-- The clock at a point in time. -/
def clockAt (z : Zone) (t : Int) : Clock :=
  match (z.changes.takeWhile (·.start ≤ folded t)).getLast? with
  | some c => c.clock
  | none => z.first

/-- The offset from universal time at a point in time. -/
def offsetAt (z : Zone) (t : Int) : Int := (z.clockAt t).offset

/-- The point in time at which local time is `wall`, counted as if it were universal time.  The
offset is first taken at `wall` itself, and then at the point in time to which that leads. -/
def ofWall (z : Zone) (wall : Int) : Int :=
  let near := z.offsetAt wall
  if near == 0 then wall else wall - z.offsetAt (wall - near)

/-- The clocks that a place has ever kept. -/
def clocks (z : Zone) : List Clock := (z.first :: z.changes.map (·.clock)).eraseDups

/-- The offset of a clock by its name.  Of several clocks of that name the one that is kept at the
time that `wall` stands for is preferred. -/
def offsetNamed? (z : Zone) (name : String) (wall : Int) : Option Int :=
  let named := z.clocks.filter (·.name == name)
  let kept := named.findSome? fun c =>
    let clock := z.clockAt (wall - c.offset)
    if clock.name == name then some clock.offset else none
  kept <|> named.head?.map (·.offset)

/-- An instant told by the clock of a place. -/
def tell (z : Zone) (t : Moment) : Instant := ⟨t, z.clockAt t.seconds⟩

end Zone

end Trellis.Locale
