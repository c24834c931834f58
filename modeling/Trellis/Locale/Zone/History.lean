/-
The changes of clocks that follow from the eras of a place and the rules of summer time.

An era begins where the one before it ends, with the summer time that its own rules have put into
force by then.  In every year the rules come into force in the order of their times, and the time of
a rule that is told by the clock of the place depends on what the rule before it has set.
-/
import Trellis.Calendar
import Trellis.Moment
import Trellis.Locale.Zone.Eras
import Trellis.Locale.Zone.Rules
import Trellis.Text.Search

namespace Trellis.Locale.Zone

/-- The clock by which a time is given. -/
inductive Gauge where
  | wall | standard | universal
deriving DecidableEq, Repr

/-- A day of a month. -/
inductive DayRule where
  | fixed (day : Nat)
  | last (weekday : Nat)
  | notBefore (weekday day : Nat)
  | notAfter (weekday day : Nat)
deriving DecidableEq, Repr

/-- A time of the year. -/
structure Season where
  month : Nat := 1
  day : DayRule := .fixed 1
  time : Int := 0
  gauge : Gauge := .wall
deriving DecidableEq, Repr

/-- A rule of summer time. -/
structure Rule where
  firstYear : Int
  lastYear : Int
  season : Season
  save : Int
  letters : String
deriving DecidableEq, Repr

/-- An era of a place. -/
structure Era where
  offset : Int
  save : Int := 0
  rules : List Rule := []
  format : String
  stop : Option (Int × Season) := none

/-! ## Times -/

/-- The days from the start of 1970 to a day of a month. -/
def DayRule.days (year : Int) (month : Nat) : DayRule → Int
  | .fixed n => Calendar.daysOfDate year month n
  | .last wd => back wd (Calendar.daysOfDate year month (Calendar.daysIn year month))
  | .notBefore wd n =>
    let d := Calendar.daysOfDate year month n
    d + ((wd : Int) - (d + 4)).emod 7
  | .notAfter wd n => back wd (Calendar.daysOfDate year month n)
where
  /-- The last such day of the week that is not after a day. -/
  back (wd : Nat) (d : Int) : Int := d - ((d + 4) - (wd : Int)).emod 7

/-- The point in time of a season in a year, with the offset of standard time and what is added to
it until then. -/
def Season.seconds (s : Season) (year offset save : Int) : Int :=
  let wall := s.day.days year s.month * 86400 + s.time
  match s.gauge with
  | .wall => wall - offset - save
  | .standard => wall - offset
  | .universal => wall

/-- How a clock is named. -/
def Era.name (e : Era) (save : Int) (letters : String) : String :=
  match Text.cut? e.format "/" with
  | some (winter, summer) => if save == 0 then winter else summer
  | none => Text.replaceAll e.format "%s" letters

def Era.clock (e : Era) (save : Int) (letters : String) : Clock :=
  ⟨e.offset + save, e.name save letters⟩

/-! ## Changes -/

/-- How far the rules of an era have been followed. -/
structure Progress where
  save : Int := 0
  /-- what is added to standard time when the era begins -/
  opening : Int := 0
  /-- the letters of the rule in force when the era begins -/
  letters : Option String := none
  /-- a rule comes into force when the era begins -/
  opened : Bool := false
  /-- the changes so far, the last one first -/
  changes : List Change := []

/-- Follows a rule that comes into force at `t`. -/
def Era.follow (e : Era) (start : Option Int) (p : Progress) (t : Int) (r : Rule) : Progress :=
  let p := { p with save := r.save }
  if start.any (t < ·) && !p.opened then { p with opening := r.save, letters := some r.letters }
  else
    { p with
      opened := p.opened || start == some t
      letters := p.letters <|> if r.save == p.opening then some r.letters else none
      changes := ⟨t, e.clock r.save r.letters⟩ :: p.changes }

/-- Whether an era is over at `t`. -/
def Era.isOver (e : Era) (save t : Int) : Bool :=
  e.stop.any fun (year, season) => season.seconds year e.offset save ≤ t

/-- Follows the rules of one year, the earliest first; `n` bounds their number. -/
def Era.followYear (e : Era) (start : Option Int) (year : Int) :
    Nat → List Rule → Progress → Progress
  | 0, _, p => p
  | n + 1, rules, p =>
    let timed := rules.map fun r => (r.season.seconds year e.offset p.save, r)
    match timed.foldl (fun best c => if best.any (·.1 ≤ c.1) then best else some c) none with
    | none => p
    | some (t, r) =>
      if e.isOver p.save t then
        { p with letters := p.letters <|> if r.save == p.opening then some r.letters else none }
      else e.followYear start year n (rules.erase r) (e.follow start p t r)

/-- Follows the rules of `n` years. -/
def Era.followYears (e : Era) (start : Option Int) : Nat → Int → Progress → Progress
  | 0, _, p => p
  | n + 1, year, p =>
    let rules := e.rules.filter fun r => r.firstYear ≤ year && year ≤ r.lastYear
    e.followYears start n (year + 1) (e.followYear start year rules.length rules p)

/-- The changes of an era that begins at `start`, and when the next era begins. -/
def Era.changes (e : Era) (start : Option Int) : List Change × Option Int :=
  let years := e.rules.map (·.firstYear)
  let low := years.foldl min (years.headD 0)
  let high := match e.stop with
    | some (year, _) => min year horizon
    | none => horizon
  let p := e.followYears start (high + 1 - low).toNat low { save := e.save, opening := e.save }
  let opening := match start with
    | none => []
    | some t => if p.opened then [] else [⟨t, e.clock p.opening (p.letters.getD "")⟩]
  (opening ++ p.changes.reverse,
    e.stop.map fun (year, season) => season.seconds year e.offset p.save)

/-- The changes of eras that follow one another. -/
def changesOf : Option Int → List Era → List Change
  | _, [] => []
  | start, e :: eras =>
    let (changes, stop) := e.changes start
    changes ++ changesOf stop eras

/-- The clock before all changes: that of the first era, in winter when it has summer time. -/
def firstClock (e : Era) : Clock :=
  match e.rules.find? (·.save == 0) with
  | some r => e.clock 0 r.letters
  | none => e.clock e.save ""

/-- Adds a change to those before it, the last of which comes first.  One that local time reaches no
later than the change before it takes the place of that change. -/
def addChange (first : Clock) (before : List Change) (c : Change) : List Change :=
  match before with
  | [] => [c]
  | last :: rest =>
    let offset := (rest.head?.map (·.clock)).getD first |>.offset
    if c.start + last.clock.offset ≤ last.start + offset then { last with clock := c.clock } :: rest
    else if c.clock == last.clock then before
    else c :: before

/-- The zone with these eras. -/
def ofEras : List Era → Zone
  | [] => {}
  | e :: eras =>
    let first := firstClock e
    ⟨first, ((changesOf none (e :: eras)).foldl (addChange first) []).reverse⟩

/-! ## The tables -/

/-- A length of time in hours, minutes and seconds with colons between them. -/
def duration (s : String) : Int :=
  let (sign, digits) := match s.toList with
    | '-' :: cs => (-1, cs)
    | cs => (1, cs)
  let parts := (Text.splitChars ':' digits).map Text.natOfDigits
  sign * (parts.getD 0 0 * 3600 + parts.getD 1 0 * 60 + parts.getD 2 0 : Nat)

/-- A day of the week by the start of its name. -/
def weekdayOf (cs : List Char) : Nat := (Layout.shortDays.findIdx? (·.toList == cs)).getD 0

/-- A day of a month as the tables write it. -/
def dayRule (s : String) : DayRule :=
  match s.toList with
  | 'l' :: 'a' :: 's' :: 't' :: cs => .last (weekdayOf cs)
  | a :: b :: c :: '>' :: '=' :: ds => .notBefore (weekdayOf [a, b, c]) (Text.natOfDigits ds)
  | a :: b :: c :: '<' :: '=' :: ds => .notAfter (weekdayOf [a, b, c]) (Text.natOfDigits ds)
  | ds => .fixed (Text.natOfDigits ds)

/-- A time of the year as the tables write it; what is left out is the start. -/
def season : List String → Season
  | [] => {}
  | month :: rest =>
    let month := (Layout.shortMonths.findIdx? (· == month)).getD 0 + 1
    match rest with
    | [] => { month }
    | [day] => { month, day := dayRule day }
    | day :: time :: _ =>
      let (digits, gauge) := match time.toList.getLast? with
        | some 's' => (time.dropEnd 1, Gauge.standard)
        | some 'u' => (time.dropEnd 1, Gauge.universal)
        | _ => (time.toSlice, Gauge.wall)
      { month, day := dayRule day, time := duration digits.toString, gauge }

/-- A year as the tables write it. -/
def yearOf (s : String) : Int := Text.natOfDigits s.toList

/-- A rule as the tables write it. -/
def rule? (s : String) : Option Rule :=
  match Text.words s with
  | [first, last, month, day, time, save, letters] => some {
      firstYear := yearOf first
      lastYear := if last == "-" then yearOf first else if last == "max" then horizon
        else yearOf last
      season := season [month, day, time]
      save := duration save
      letters := if letters == "-" then "" else letters }
  | _ => none

/-- The rules of a rule set. -/
def rulesOf (name : String) : List Rule :=
  match ruleTable.lookup name with
  | some text => (Text.splitOnChar text ';').filterMap rule?
  | none => []

/-- An era as the tables write it. -/
def era? (s : String) : Option Era :=
  match Text.words s with
  | offset :: rules :: format :: stop =>
    let stop := match stop with
      | [] => none
      | year :: rest => some (yearOf year, season rest)
    let fixed := rules.toList.head?.any Char.isDigit
    some {
      offset := duration offset, format, stop
      save := if fixed then duration rules else 0
      rules := if fixed then [] else rulesOf rules }
  | _ => none

/-- The place that has a name, which may be another name of it. -/
def placeOf (name : String) : String :=
  ((aliasTable.find? fun (_, names) => (Text.words names).contains name).map (·.1)).getD name

/-- The time zone of a place. -/
def ofName? (name : String) : Option Zone :=
  if name.isEmpty || name == "UTC" || name == "Local" then some {}
  else (eraTable.lookup (placeOf name)).map fun text =>
    ofEras ((Text.splitOnChar text ';').filterMap era?)

/-- Whether there is a place of this name. -/
def isName (name : String) : Bool :=
  name.isEmpty || name == "UTC" || name == "Local" || (eraTable.lookup (placeOf name)).isSome

end Trellis.Locale.Zone
