/-
Values: what expressions compute with.

Lists, objects and what a host program hands in have an identity and may change, so a value only
says where they are kept.  The kinds of number that a host may use are told apart, since a message
names the type of a value.
-/
import Trellis.Calendar
import Trellis.Moment
import Trellis.Text.Decimal

/-!
Whole numbers that stand for something and are shown in words: months, days of the week, lengths of
time, kinds of rendered nodes.
-/

namespace Trellis

/-- What a whole number stands for. -/
inductive Measure where
  | month | weekday
  /-- a length of time in nanoseconds -/
  | duration
  | nodeKind
deriving DecidableEq, Repr

namespace Measure

/-- The name of the type in messages. -/
def name : Measure → String
  | .month => "time.Month"
  | .weekday => "time.Weekday"
  | .duration => "time.Duration"
  | .nodeKind => "runtime.NodeKind"

/-- A count of `unit`s with a fraction of as many digits as it needs. -/
def unitText (n unit : Nat) (name : String) : String :=
  let digits := (Text.natText unit).length - 1
  let fraction := (Text.natText (n % unit)).toList
  let fraction := Text.zeros (digits - fraction.length) ++ fraction
  let fraction := (fraction.reverse.dropWhile (· == '0')).reverse
  Text.natText (n / unit) ++ (if n % unit == 0 then "" else String.ofList ('.' :: fraction)) ++ name

/-- A length of time: what is shorter than a second in the largest unit that fits, otherwise hours,
minutes and seconds. -/
def durationText (n : Int) : String :=
  let u := n.natAbs
  let sign := if n < 0 then "-" else ""
  if u == 0 then "0s"
  else if u < 1000 then sign ++ unitText u 1 "ns"
  else if u < 1000000 then sign ++ unitText u 1000 "µs"
  else if u < 1000000000 then sign ++ unitText u 1000000 "ms"
  else
    let minutes := u / 60000000000
    let seconds := unitText (u % 60000000000) 1000000000 "s"
    sign ++ (if minutes ≥ 60 then Text.natText (minutes / 60) ++ "h" else "") ++
      (if minutes ≥ 1 then Text.natText (minutes % 60) ++ "m" else "") ++ seconds

/-- A number as it is shown. -/
def text (m : Measure) (n : Int) : String :=
  match m with
  | .month => Locale.Layout.nameAt Locale.Layout.longMonths (n - 1).toNat
  | .weekday => Locale.Layout.nameAt Locale.Layout.longDays n.toNat
  | .duration => durationText n
  | .nodeKind => if n == 0 then "text" else if n == 1 then "element" else "control"

end Measure

end Trellis

namespace Trellis

/-- The widths of whole numbers. -/
inductive WholeKind where
  | int | int8 | int16 | int32 | int64 | uint | uint8 | uint16 | uint32 | uint64
deriving DecidableEq, Repr

namespace WholeKind

def name : WholeKind → String
  | .int => "int"
  | .int8 => "int8"
  | .int16 => "int16"
  | .int32 => "int32"
  | .int64 => "int64"
  | .uint => "uint"
  | .uint8 => "uint8"
  | .uint16 => "uint16"
  | .uint32 => "uint32"
  | .uint64 => "uint64"

def all : List WholeKind :=
  [.int, .int8, .int16, .int32, .int64, .uint, .uint8, .uint16, .uint32, .uint64]

def isSigned : WholeKind → Bool
  | .int | .int8 | .int16 | .int32 | .int64 => true
  | _ => false

def bits : WholeKind → Nat
  | .int8 | .uint8 => 8
  | .int16 | .uint16 => 16
  | .int32 | .uint32 => 32
  | _ => 64

/-- A whole number brought into the range of a width by dropping its high bits. -/
def wrap (k : WholeKind) (n : Int) : Int :=
  if k.isSigned then n.bmod (power 2 k.bits) else n.emod (power 2 k.bits)

/-- The whole number that a number is cut to.  Narrow widths go through 32 bits, the others through
64; what does not fit there counts as the smallest number of that width. -/
def ofFloat (k : WholeKind) (x : Float) : Int :=
  let way := if k.bits < 32 || k == .int32 then 31 else 63
  if x.isNaN || x.isInf then k.wrap (-(power 2 way))
  else
    let n := Text.truncToInt x
    if -(power 2 way) ≤ n && n < power 2 way then k.wrap n
    else if !k.isSigned && k.bits == 64 && power 2 63 ≤ n && n < power 2 64 then n
    else k.wrap (-(power 2 way))

end WholeKind

/-- The width in which a measure is counted. -/
def Measure.kind : Measure → WholeKind
  | .duration => .int64
  | _ => .int

/-- The types that a host gives to what it hands in. -/
inductive HostType where
  | any | bool | text | number | single
  | whole (kind : WholeKind)
  | measure (of : Measure)
  | instant
  | list (element : HostType)
  | map (key element : HostType)
  /-- texts with a type of their own -/
  | label (name : String)
  /-- a type of records, and references to them -/
  | record (name : String)
  | ref (name : String)
  | function (name : String)
  /-- a type whose values expressions cannot make -/
  | other (shown : String)
deriving DecidableEq, Repr

/-- A type as it is shown in messages. -/
def HostType.shown : HostType → String
  | .any => "interface {}"
  | .bool => "bool"
  | .text => "string"
  | .number => "float64"
  | .single => "float32"
  | .whole kind => kind.name
  | .measure of => of.name
  | .instant => "time.Time"
  | .list element => "[]" ++ element.shown
  | .map key element => "map[" ++ key.shown ++ "]" ++ element.shown
  | .label name | .record name | .function name => name
  | .ref name => "*" ++ name
  | .other shown => shown

/-- A value.  `at_` says where what can change is kept. -/
inductive Value where
  | null
  /-- a property that is missing, a name that is not bound -/
  | undefined
  /-- what could not be evaluated while watching; it equals nothing -/
  | unreachable
  | bool (b : Bool)
  | number (x : Float)
  | single (x : Float32)
  | whole (kind : WholeKind) (n : Int)
  /-- a whole number that stands for something -/
  | measure (of : Measure) (n : Int)
  | text (s : String)
  /-- markup that is shown as it is -/
  | raw (s : String)
  /-- a text with a type of its own, which does not show it -/
  | label (type : String) (s : String)
  | list (at_ : Nat)
  | object (at_ : Nat)
  /-- a host's list with one type of elements -/
  | typedList (element : HostType) (at_ : Nat)
  /-- a host's map with one type of keys and one of values -/
  | typedMap (key element : HostType) (at_ : Nat)
  /-- a host's record, which cannot be changed -/
  | record (type : String) (at_ : Nat)
  /-- a reference to a host's record -/
  | recordRef (type : String) (at_ : Nat)
  /-- a reference to no record -/
  | noRecord (type : String)
  /-- a host's object, which says itself how it is read and written -/
  | host (type : String) (at_ : Nat)
  /-- a point in time -/
  | instant (t : Instant)
  | instantRef (t : Instant) (at_ : Nat)
  /-- the clock of an instant -/
  | clock (c : Clock)
  /-- a host's function -/
  | function (name : String)
  /-- a function of the library -/
  | action (type : String) (at_ : Nat)
  | template (at_ : Nat)
  /-- content that a call was given -/
  | content (at_ : Nat)
  /-- the options of a template, with themselves under `_options` -/
  | options (at_ : Nat)
  /-- rendered nodes -/
  | nodes (at_ : Nat)
  /-- anything else that a host has -/
  | foreign (type : String)
deriving Inhabited

/-- What is kept for a value that has an identity. -/
inductive Cell where
  /-- the elements of a list -/
  | items (xs : Array Value)
  /-- the fields of an object or a record; those of an object in the order of their names -/
  | fields (fs : List (String × Value))
  /-- the entries of a typed map -/
  | entries (es : List (Value × Value))
  /-- what a host's object holds -/
  | inner (v : Value)

namespace Value

/-- Whether a value is null or undefined. -/
def isNullish : Value → Bool
  | .null | .undefined => true
  | _ => false

def isUndefined : Value → Bool
  | .undefined => true
  | _ => false

/-- Whether a value is text, escaped or not. -/
def isTextual : Value → Bool
  | .text _ | .raw _ => true
  | _ => false

/-- Whether a value is a number of any kind. -/
def isNumeric : Value → Bool
  | .number _ | .single _ | .whole _ _ | .measure _ _ => true
  | _ => false

/-- Whether operators work on the value itself. -/
def isPrimitive : Value → Bool
  | .null | .undefined | .bool _ | .text _ | .raw _ | .number _ | .single _ | .whole _ _
  | .measure _ _ => true
  | _ => false

end Value

/-- Named values in the order of their names. -/
abbrev Fields := List (String × Value)

namespace Fields

/-- The value under a name. -/
def get? (fs : Fields) (name : String) : Option Value := (fs.find? (·.1 == name)).map (·.2)

/-- The fields with a value under a name, which takes the place of one that is there. -/
def insert (name : String) (v : Value) : Fields → Fields
  | [] => [(name, v)]
  | f :: fs =>
    if f.1 == name then (name, v) :: fs
    else if name < f.1 then (name, v) :: f :: fs
    else f :: Fields.insert name v fs

/-- Fields from pairs in any order, of which later ones count. -/
def ofList (fs : List (String × Value)) : Fields :=
  fs.foldl (fun acc f => Fields.insert f.1 f.2 acc) []

end Fields

end Trellis
