/-
Scalars of YAML documents: texts that stand for a value.

A plain text is null, a truth value, a number or a time when it is spelled like one, and a text
otherwise.  A text in quotes is a text.  A tag says what a text is to be.
-/
import Trellis.Moment
import Trellis.Text.Bytes
import Trellis.Text.Decimal
import Trellis.Text.Search

namespace Trellis.Yaml

/-- A scalar: its text, whether it stands without quotes, and its tag, empty if it has none. -/
structure Scalar where
  text : String
  isPlain : Bool
  tag : String := ""

/-- What a scalar stands for. -/
inductive Meaning where
  | null
  | bool (b : Bool)
  | int (n : Int)
  | float (x : Float)
  | time (t : Instant)
  | text (s : String)

namespace Scalar

/-- The spellings of null. -/
def nullWords : List String := ["", "~", "null", "Null", "NULL"]

def trueWords : List String := ["true", "True", "TRUE"]

def falseWords : List String := ["false", "False", "FALSE"]

/-- Numbers that are no numbers proper. -/
def special? (s : String) : Option Float :=
  if [".nan", ".NaN", ".NAN"].contains s then some Text.nan
  else if [".inf", ".Inf", ".INF", "+.inf", "+.Inf", "+.INF"].contains s then some Text.infinity
  else if ["-.inf", "-.Inf", "-.INF"].contains s then some (-Text.infinity)
  else none

/-! ## Whole numbers -/

/-- The value of a digit in a base. -/
def digit? (base : Nat) (c : Char) : Option Nat :=
  let v := if '0' ≤ c && c ≤ '9' then some (c.toNat - 48)
    else if 'a' ≤ c && c ≤ 'f' then some (c.toNat - 87)
    else if 'A' ≤ c && c ≤ 'F' then some (c.toNat - 55)
    else none
  v.filter (· < base)

/-- The number that digits denote in a base. -/
def digits? (base : Nat) (cs : List Char) : Option Nat :=
  if cs.isEmpty then none
  else cs.foldlM (fun n c => (digit? base c).map (n * base + ·)) 0

/-- The number without a sign, whose base is said by its start. -/
def unsigned? : List Char → Option Nat
  | '0' :: 'x' :: cs | '0' :: 'X' :: cs => digits? 16 cs
  | '0' :: 'o' :: cs | '0' :: 'O' :: cs => digits? 8 cs
  | '0' :: 'b' :: cs | '0' :: 'B' :: cs => digits? 2 cs
  | '0' :: c :: cs => digits? 8 (c :: cs)
  | cs => digits? 10 cs

/-- The whole number that a text denotes: one of 64 bits. -/
def int? (s : String) : Option Int :=
  let within := fun (n : Int) => if -9223372036854775808 ≤ n && n < 9223372036854775808 then some n
    else none
  match s.toList with
  | '-' :: cs => (unsigned? cs).bind fun n => within (-n)
  | '+' :: cs => (unsigned? cs).bind fun n => within n
  | cs => (unsigned? cs).bind fun n => if n < 18446744073709551616 then some (n : Int) else none

/-! ## Decimal fractions -/

/-- Whether a text is a decimal number: digits, maybe with a point, maybe with an exponent. -/
def isDecimal (s : String) : Bool :=
  let cs := match s.toList with
    | '-' :: cs | '+' :: cs => cs
    | cs => cs
  let whole := cs.takeWhile Char.isDigit
  let rest := cs.dropWhile Char.isDigit
  let (point, rest) := match rest with
    | '.' :: more => (some (more.takeWhile Char.isDigit), more.dropWhile Char.isDigit)
    | rest => (none, rest)
  let body := match point with
    | some fraction => !whole.isEmpty || !fraction.isEmpty
    | none => !whole.isEmpty
  let exponent := match rest with
    | [] => true
    | e :: more =>
      let ds := match more with
        | '-' :: ds | '+' :: ds => ds
        | ds => ds
      (e == 'e' || e == 'E') && !ds.isEmpty && ds.all Char.isDigit
  body && exponent

/-- The number that a text denotes; one that is out of range is none. -/
def float? (s : String) : Option Float :=
  (Text.number? s).filter (·.isFinite)

/-! ## Times -/

/-- One or two digits. -/
def short? : List Char → Option (Nat × List Char)
  | a :: b :: cs =>
    if a.isDigit && b.isDigit then some ((a.toNat - 48) * 10 + (b.toNat - 48), cs)
    else if a.isDigit then some (a.toNat - 48, b :: cs)
    else none
  | [a] => if a.isDigit then some (a.toNat - 48, []) else none
  | [] => none

/-- A number after a mark. -/
def marked? (mark : Char) : List Char → Option (Nat × List Char)
  | c :: cs => if c == mark then short? cs else none
  | [] => none

/-- The parts of a second in nanoseconds; digits beyond the ninth count for nothing. -/
def fraction : List Char → Nat × List Char
  | c :: cs =>
    let ds := cs.takeWhile Char.isDigit
    if (c == '.' || c == ',') && !ds.isEmpty then
      let kept := ds.take 9
      (kept.foldl (fun n d => n * 10 + (d.toNat - 48)) 0 * power 10 (9 - kept.length),
        cs.drop ds.length)
    else (0, c :: cs)
  | [] => (0, [])

/-- The clock of a time: `Z`, or an offset of hours and minutes. -/
def clock? : List Char → Option Clock
  | ['Z'] => some {}
  | [sign, a, b, ':', c, d] => do
    let h ← digits? 10 [a, b]
    let m ← digits? 10 [c, d]
    if h > 24 || m > 60 || (sign != '+' && sign != '-') then none
    let n : Int := (h * 3600 + m * 60 : Nat)
    let offset := if sign == '-' then -n else n
    some (if offset == 0 then {} else { offset, name := "" })
  | _ => none

/-- The point in time that a text denotes: a date, or a date with a time of day. -/
def time? (s : String) : Option Instant := do
  let cs := s.toList
  let year := cs.takeWhile Char.isDigit
  if year.length != 4 then none
  let (month, rest) ← marked? '-' (cs.drop 4)
  let (day, rest) ← marked? '-' rest
  let year ← digits? 10 year
  if month < 1 || month > 12 || day < 1 || day > Calendar.daysIn year month then none
  let date := Calendar.daysOfDate year month day * 86400
  match rest with
  | [] => some { moment := ⟨date, 0⟩ }
  | mark :: more => do
    let (hour, rest) ← short? more
    let (minute, rest) ← marked? ':' rest
    let (second, rest) ← marked? ':' rest
    if hour ≥ 24 || minute ≥ 60 || second ≥ 60 then none
    let (nanos, rest) := fraction rest
    let seconds := date + (hour * 3600 + minute * 60 + second : Nat)
    if mark == ' ' then (if rest.isEmpty then some { moment := ⟨seconds, nanos⟩ } else none)
    else if mark == 'T' || mark == 't' then
      (clock? rest).map fun clock => { moment := ⟨seconds - clock.offset, nanos⟩, clock }
    else none

/-! ## Meaning -/

/-- What a plain text without a tag stands for. -/
def plainMeaning (s : String) : Meaning :=
  let other : Meaning := .text s
  if nullWords.contains s then .null
  else if trueWords.contains s then .bool true
  else if falseWords.contains s then .bool false
  else
    match special? s, s.toList with
    | some x, _ => .float x
    | none, c :: _ =>
      if c == '.' then ((float? s).map .float).getD other
      else if c.isDigit || c == '+' || c == '-' then
        match time? s with
        | some t => .time t
        | none =>
          let plain := String.ofList (s.toList.filter (· != '_'))
          match int? plain with
          | some n => .int n
          | none => if isDecimal plain then ((float? plain).map .float).getD other else other
      else other
    | none, [] => other

/-- Whether a scalar is a text whatever it is spelled like. -/
def isText (s : Scalar) : Bool :=
  s.tag == "!!str" || ((s.tag.isEmpty || s.tag == "!") && !s.isPlain)

/-- What a scalar stands for; none when its text does not fit its tag. -/
def meaning? (s : Scalar) : Option Meaning :=
  if s.isText then some (.text s.text)
  else
    match s.tag with
    | "" | "!" => some (plainMeaning s.text)
    | "!!null" | "!!bool" | "!!int" | "!!float" | "!!timestamp" =>
      match s.tag, plainMeaning s.text with
      | "!!null", .null => some .null
      | "!!bool", .bool b => some (.bool b)
      | "!!int", .int n => some (.int n)
      | "!!float", .float x => some (.float x)
      | "!!float", .int n => some (.float (Float.ofInt n))
      | "!!timestamp", .time t => some (.time t)
      | _, _ => none
    | "!!binary" => (Text.base64? s.text).map .text
    | _ => some (.text s.text)

/-- Whether a scalar is the mark that merges another map into a map. -/
def isMerge (s : Scalar) : Bool :=
  (s.isPlain && s.text == "<<" && (s.tag.isEmpty || s.tag == "!")) || s.tag == "!!merge"

end Scalar

/-- A node of a document. -/
inductive Node where
  | scalar (s : Scalar)
  | list (items : List Node)
  | map (entries : List (Node × Node))
  /-- another node, given by its name -/
  | alias (name : String) (target : Node)
  /-- a node that it is itself a part of, given by its name -/
  | within (name : String)

instance : Inhabited Node := ⟨.scalar ⟨"", true, ""⟩⟩

/-- The node that stands for nothing. -/
def Node.null : Node := .scalar ⟨"", true, ""⟩

end Trellis.Yaml
