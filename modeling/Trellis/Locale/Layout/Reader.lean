/-
Reading dates that are written in a layout.

Layout and date are bytes, each held as the character of its number.  What the layout says in plain
text must stand in the date as it is; an element is read as what it stands for.  A date without an
offset is in the local time of a zone.
-/
import Trellis.Fault.Basic
import Trellis.Locale.Layout
import Trellis.Moment
import Trellis.Text.Quoted

namespace Trellis.Locale.Layout

/-- What was read of a date so far. -/
structure Parts where
  year : Int := 0
  month : Option Nat := none
  day : Option Nat := none
  yearDay : Option Nat := none
  hour : Nat := 0
  minute : Nat := 0
  second : Nat := 0
  nanos : Nat := 0
  morning : Bool := false
  afternoon : Bool := false
  /-- the date is in universal time -/
  universal : Bool := false
  offset : Option Int := none
  zone : Option String := none

/-- Why an element could not be read. -/
inductive Trouble where
  /-- the text does not fit -/
  | mismatch
  /-- a number is out of range -/
  | range (what : String)

/-- Bytes as they are quoted in messages about dates. -/
def quoted (cs : List Char) : String :=
  let escape := fun (c : Char) =>
    if c == '"' || c == '\\' then ['\\', c]
    else if c.toNat < 32 || c.toNat ≥ 128 then '\\' :: 'x' :: Text.hexDigits 2 c.toNat
    else [c]
  String.ofList ('"' :: cs.flatMap escape ++ ['"'])

/-- Passes over plain text of the layout.  Blanks stand for any blanks; those after a blank, for
which `blank` is set, stand for none. -/
def skip (blank : Bool) : List Char → List Char → Except (List Char) (List Char)
  | [], value => .ok value
  | ' ' :: plain, value =>
    match value with
    | [] | ' ' :: _ => skip true plain (value.dropWhile (· == ' '))
    | _ => if blank then skip true plain value else .error value
  | c :: plain, v :: value => if c == v then skip false plain value else .error (v :: value)
  | _ :: _, [] => .error []

/-! ## Numbers and names -/

def isDigit (c : Char) : Bool := '0' ≤ c && c ≤ '9'

/-- One or two digits; exactly two when `fixed`. -/
def number (fixed : Bool) : List Char → Option (Nat × List Char)
  | a :: b :: rest =>
    if !isDigit a then none
    else if isDigit b then some (Text.natOfDigits [a, b], rest)
    else if fixed then none
    else some (Text.natOfDigits [a], b :: rest)
  | [a] => if isDigit a && !fixed then some (Text.natOfDigits [a], []) else none
  | [] => none

/-- Up to three digits; exactly three when `fixed`. -/
def longNumber (fixed : Bool) (cs : List Char) : Option (Nat × List Char) :=
  let ds := (cs.take 3).takeWhile isDigit
  if ds.isEmpty || (fixed && ds.length != 3) then none
  else some (Text.natOfDigits ds, cs.drop ds.length)

/-- Digits, of which there may be none, after a sign, which may be missing. -/
def signed? (cs : List Char) : Option Int :=
  let (negative, ds) := match cs with
    | '-' :: ds => (true, ds)
    | '+' :: ds => (false, ds)
    | ds => (false, ds)
  if ds.all isDigit then
    let n : Int := Text.natOfDigits ds
    some (if negative then -n else n)
  else none

/-- The name at the front of a text, whatever its case. -/
def lookup (names : List String) (cs : List Char) : Option (Nat × List Char) :=
  names.zipIdx.findSome? fun (name, i) =>
    let front := cs.take name.length
    if front.map Char.toLower == name.toList.map Char.toLower then some (i, cs.drop name.length)
    else none

/-- A number within a range. -/
def ranged (what : String) (low high : Nat) (r : Option (Nat × List Char)) :
    Except Trouble (Nat × List Char) :=
  match r with
  | none => .error .mismatch
  | some (n, rest) => if low ≤ n && n ≤ high then .ok (n, rest) else .error (.range what)

/-- What must be there. -/
def must {α : Type} : Option α → Except Trouble α
  | some a => .ok a
  | none => .error .mismatch

/-! ## Fractions of a second -/

def isMark (c : Char) : Bool := c == '.' || c == ','

/-- The nanoseconds that a mark with what follows it stands for; from the tenth place on digits do
not count. -/
def nanosOf : List Char → Except Trouble Nat
  | mark :: ds => do
    if !isMark mark then throw .mismatch
    let ds := ds.take 9
    let n ← must (signed? ds)
    if n < 0 then throw (.range "fractional second")
    return n.toNat * power 10 (9 - ds.length)
  | [] => .error .mismatch

/-- A fraction with as many digits as there are. -/
def anyFraction (value : List Char) : Option (List Char × List Char) :=
  match value with
  | mark :: rest =>
    let ds := rest.takeWhile isDigit
    if isMark mark && !ds.isEmpty then some (mark :: ds, rest.drop ds.length) else none
  | [] => none

/-- A fraction of a second that the layout does not mention. -/
def looseFraction (layout value : List Char) : Option (List Char × List Char) :=
  match next layout with
  | (_, some (.fraction _ _ _, _), _) => none
  | _ => anyFraction value

/-! ## Offsets and zones -/

/-- The hours, minutes and seconds of an offset as they are written, and what follows. -/
def offsetParts? (form : OffsetForm) (cs : List Char) : Option (List (List Char) × List Char) := do
  let part := fun (on : Bool) (cs : List Char) =>
    if !on then some (['0', '0'], cs)
    else do
      let cs ← if form.colons then after? ":" cs else some cs
      if cs.length < 2 then none else return (cs.take 2, cs.drop 2)
  let cs := cs.drop 1
  if cs.length < 2 then none
  let (m, rest) ← part form.minutes (cs.drop 2)
  let (s, rest) ← part form.seconds rest
  return ([cs.take 2, m, s], rest)

/-- The numbers of an offset, and whether all of them could be read.  After one that could not, the
others are not looked at. -/
def offsetNumbers : List (List Char) → List Nat × Bool
  | [] => ([], true)
  | p :: ps =>
    match number true p with
    | some (n, _) => let (ns, good) := offsetNumbers ps; (n :: ns, good)
    | none => (0 :: ps.map fun _ => 0, false)

/-- An offset in a form. -/
def readOffset (form : OffsetForm) (cs : List Char) : Except Trouble (Int × List Char) := do
  let (parts, rest) ← must (offsetParts? form cs)
  let (ns, good) := offsetNumbers parts
  let (h, m, s) := (ns.getD 0 0, ns.getD 1 0, ns.getD 2 0)
  if s > 60 then throw (.range "time zone offset second")
  if m > 60 then throw (.range "time zone offset minute")
  if h > 24 then throw (.range "time zone offset hour")
  if !good then throw .mismatch
  let n : Int := (h * 3600 + m * 60 + s : Nat)
  match cs with
  | '+' :: _ => return (n, rest)
  | '-' :: _ => return (-n, rest)
  | _ => throw .mismatch

/-- How long a sign with a number of hours at the front of a text is; nothing when there is none. -/
def hoursLength (cs : List Char) : Nat :=
  match cs with
  | sign :: more =>
    let ds := more.takeWhile isDigit
    if (sign != '+' && sign != '-') || ds.isEmpty || Text.natOfDigits ds > 23 then 0
    else ds.length + 1
  | [] => 0

/-- How many bytes a zone at the front of a text has. -/
def zoneLength? (cs : List Char) : Option Nat :=
  let upper := ((cs.take 6).takeWhile fun c => 'A' ≤ c && c ≤ 'Z').length
  let starts := fun (name : String) => (after? name cs).isSome
  if cs.length < 3 then none
  else if starts "ChST" || starts "MeST" then some 4
  else if starts "GMT" then some (3 + hoursLength (cs.drop 3))
  else if starts "+" || starts "-" then if hoursLength cs > 0 then some (hoursLength cs) else none
  else if upper == 3 then some 3
  else if upper == 4 && (cs[3]? == some 'T' || starts "WITA") then some 4
  else if upper == 5 && cs[4]? == some 'T' then some 5
  else none

/-! ## Elements -/

/-- Reads an element; `layout` is what follows it. -/
def readElement (layout : List Char) (p : Parts) (e : Element) (value : List Char) :
    Except Trouble (Parts × List Char) := do
  match e with
  | .year =>
    let n ← must (if value.length < 2 then none else signed? (value.take 2))
    return ({ p with year := if n ≥ 69 then n + 1900 else n + 2000 }, value.drop 2)
  | .longYear =>
    let ds := (value.take 4).takeWhile isDigit
    if ds.length < 4 then throw .mismatch
    return ({ p with year := Text.natOfDigits ds }, value.drop 4)
  | .month =>
    let (n, rest) ← must (lookup shortMonths value)
    return ({ p with month := some (n + 1) }, rest)
  | .longMonth =>
    let (n, rest) ← must (lookup longMonths value)
    return ({ p with month := some (n + 1) }, rest)
  | .numMonth | .zeroMonth =>
    let (n, rest) ← ranged "month" 1 12 (number (e == .zeroMonth) value)
    return ({ p with month := some n }, rest)
  | .weekday =>
    let (_, rest) ← must (lookup shortDays value)
    return (p, rest)
  | .longWeekday =>
    let (_, rest) ← must (lookup longDays value)
    return (p, rest)
  | .day | .underDay | .zeroDay =>
    let value := match e, value with
      | .underDay, ' ' :: rest => rest
      | _, value => value
    let (n, rest) ← must (number (e == .zeroDay) value)
    return ({ p with day := some n }, rest)
  | .underYearDay | .zeroYearDay =>
    let blanks := ((value.take 2).takeWhile (· == ' ')).length
    let value := if e == .underYearDay then value.drop blanks else value
    let (n, rest) ← must (longNumber (e == .zeroYearDay) value)
    return ({ p with yearDay := some n }, rest)
  | .hour =>
    let (n, rest) ← ranged "hour" 0 23 (number false value)
    return ({ p with hour := n }, rest)
  | .hour12 | .zeroHour12 =>
    let (n, rest) ← ranged "hour" 0 12 (number (e == .zeroHour12) value)
    return ({ p with hour := n }, rest)
  | .minute | .zeroMinute =>
    let (n, rest) ← ranged "minute" 0 59 (number (e == .zeroMinute) value)
    return ({ p with minute := n }, rest)
  | .second | .zeroSecond =>
    let (n, rest) ← ranged "second" 0 59 (number (e == .zeroSecond) value)
    match looseFraction layout rest with
    | some (fraction, rest) => return ({ p with second := n, nanos := ← nanosOf fraction }, rest)
    | none => return ({ p with second := n }, rest)
  | .upperHalf | .lowerHalf =>
    let front := value.take 2
    let (am, pm) := if e == .upperHalf then (['A', 'M'], ['P', 'M']) else (['a', 'm'], ['p', 'm'])
    if front == pm then return ({ p with afternoon := true }, value.drop 2)
    else if front == am then return ({ p with morning := true }, value.drop 2)
    else throw .mismatch
  | .offset form =>
    match form.zulu, value with
    | true, 'Z' :: rest => return ({ p with universal := true }, rest)
    | _, _ =>
      let (n, rest) ← readOffset form value
      return ({ p with offset := some n }, rest)
  | .zone =>
    match after? "UTC" value with
    | some rest => return ({ p with universal := true }, rest)
    | none =>
      let n ← must (zoneLength? value)
      return ({ p with zone := some (String.ofList (value.take n)) }, value.drop n)
  | .fraction n trimmed _ =>
    if trimmed then
      match anyFraction value with
      | some (fraction, rest) => return ({ p with nanos := ← nanosOf fraction }, rest)
      | none => return (p, value)
    else if value.length < n + 1 then throw .mismatch
    else return ({ p with nanos := ← nanosOf (value.take (n + 1)) }, value.drop (n + 1))

/-- The fault of a text that does not fit its layout. -/
def misfit (layout value : List Char) (element rest : List Char) : Fault :=
  .plain ("parsing time " ++ quoted value ++ " as " ++ quoted layout ++ ": cannot parse " ++
    quoted rest ++ " as " ++ quoted element)

/-- The fault of a text with a message of its own. -/
def misfitFor (value : List Char) (message : String) : Fault :=
  .plain ("parsing time " ++ quoted value ++ ": " ++ message)

/-- Reads the parts of a date; `n` bounds the number of elements. -/
def partsTo (layout value : List Char) : Nat → Parts → List Char → List Char →
    Except Fault Parts
  | 0, p, _, _ => .ok p
  | n + 1, p, cs, rest =>
    let (plain, found, tail) := next cs
    match skip false plain rest with
    | .error left => .error (misfit layout value plain left)
    | .ok rest =>
      match found with
      | none =>
        if rest.isEmpty then .ok p
        else .error (misfitFor value ("extra text: " ++ quoted rest))
      | some (e, text) =>
        match readElement tail p e rest with
        | .ok (p, rest) => partsTo layout value n p tail rest
        | .error .mismatch => .error (misfit layout value text rest)
        | .error (.range what) => .error (misfitFor value (what ++ " out of range"))

/-! ## Whole dates -/

/-- The month and the day of a date.  A day of the year gives both, and must agree with what else is
said of them. -/
def Parts.date (p : Parts) : Except String (Nat × Nat) := do
  let (month, day) ← match p.yearDay with
    | none => pure (p.month.getD 1, p.day.getD 1)
    | some n =>
      if n < 1 || n > (if Calendar.isLeap p.year then 366 else 365) then
        throw "day-of-year out of range"
      let (_, month, day) := Calendar.dateOfDays (Calendar.daysOfDate p.year 1 1 + n - 1)
      if p.month.any (· != month) then throw "day-of-year does not match month"
      if p.day.any (· != day) then throw "day-of-year does not match day"
      pure (month, day)
  if day < 1 || day > Calendar.daysIn p.year month then throw "day out of range"
  return (month, day)

/-- The hour on a clock of twenty-four hours. -/
def Parts.fullHour (p : Parts) : Nat :=
  if p.afternoon && p.hour < 12 then p.hour + 12
  else if p.morning && p.hour == 12 then 0
  else p.hour

/-- The point in time at which local time is `wall`: what is said of the offset comes first, then
the name of a clock in the zone, then the zone itself.  A clock that is not known there counts as
universal time. -/
def Parts.seconds (p : Parts) (zone : Zone) (wall : Int) : Int :=
  if p.universal then wall
  else match p.offset, p.zone with
    | some n, _ => wall - n
    | none, some name => wall - (zone.offsetNamed? name wall).getD 0
    | none, none => zone.ofWall wall

/-- Reads a point in time that is written in a layout. -/
def parse (layout value : List Char) (zone : Zone) : Except Fault Moment := do
  let p ← partsTo layout value (layout.length + 1) {} layout value
  match p.date with
  | .error message => throw (misfitFor value message)
  | .ok (month, day) =>
    let c : Calendar :=
      { year := p.year, month, day, hour := p.fullHour, minute := p.minute, second := p.second }
    return ⟨p.seconds zone c.seconds, p.nanos⟩

end Trellis.Locale.Layout
