/-
How values are taken as truths, numbers and texts, and what the operators do with them.
-/
import Trellis.Calendar
import Trellis.Expr.Basic
import Trellis.Text.Search
import Trellis.Text.Decimal
import Trellis.Value.Machine

namespace Trellis

open Text (nan)

/-- The remainder of a division, with the sign of the dividend.  It is exact. -/
def floatMod (x y : Float) : Float :=
  if y == 0 || x.isInf || x.isNaN || y.isNaN then nan
  else if y.isInf || x == 0 then x
  else
    let a := Text.binaryOfBits x.toBits
    let b := Text.binaryOfBits y.toBits
    let low := min a.exponent b.exponent
    let r := (a.mantissa * power 2 (a.exponent - low).toNat) %
      (b.mantissa * power 2 (b.exponent - low).toNat)
    let z := Text.binaryFloat r low
    if x < 0 then -z else z

/-- A number as text.  Whole numbers are written out up to `10^21`. -/
def numberText (x : Float) : String :=
  if x.isNaN then "NaN"
  else if x.isInf then (if x < 0 then "-Infinity" else "Infinity")
  else
    let whole := x.floor == x && x.abs < 1e21
    Text.floatText (if whole then .plain else .general) x

namespace Value

/-- Whether a value counts as true. -/
def truthy : Value → Bool
  | .null | .undefined | .unreachable => false
  | .bool b => b
  | .text s | .raw s => !s.isEmpty
  | .number x => x != 0 && !x.isNaN
  | .single x => x != 0
  | .whole kind n =>
    match kind with
    | .int | .int64 | .int32 | .uint | .uint64 => n != 0
    | _ => true
  | _ => true

/-- A value as a number. -/
def toNumber : Value → Float
  | .null => 0
  | .bool b => if b then 1 else 0
  | .number x => x
  | .single x => x.toFloat
  | .whole _ n | .measure _ n => Float.ofInt n
  | .text s =>
    let t := Text.trim s
    if t.isEmpty then 0 else (Text.number? t).getD nan
  | _ => nan

/-- The name of the type of a value in the expression language. -/
def typeof : Value → String
  | .undefined | .unreachable => "undefined"
  | .bool _ => "boolean"
  | .text _ | .raw _ => "string"
  | .function _ | .action _ _ => "function"
  | .number _ | .single _ | .whole _ _ | .measure _ _ => "number"
  | _ => "object"

/-- A value as text; lists inside lists are followed `depth` deep. -/
def textTo (m : Machine) : Nat → Value → Run String
  | _, .text s | _, .raw s => return s
  | _, .bool b => return if b then "true" else "false"
  | _, .number x => return numberText x
  | _, .single x => return numberText x.toFloat
  | _, .whole _ n => return Text.intText n
  | _, .measure of n => return of.text n
  | 0, .list _ | 0, .typedList _ _ => return ""
  | depth + 1, .list at_ => do
    return ",".intercalate (← (← Memory.items at_).toList.mapM (textTo m depth))
  | depth + 1, .typedList _ at_ => do
    return ",".intercalate (← (← Memory.items at_).toList.mapM (textTo m depth))
  | _, .object _ | _, .typedMap _ _ _ | _, .record _ _ => return "[object Object]"
  | _, .instant t | _, .instantRef t _ => return t.text
  | _, .clock c => return c.name
  | _, .content at_ => m.contentText at_
  | _, .nodes at_ => do
    let count := ((← get).rendered[at_]?.getD []).length
    return ",".intercalate (List.replicate count "")
  | _, _ => return ""

/-- A value as text, the way it is shown: null and undefined show nothing. -/
def toText (m : Machine) (v : Value) : Run String := do
  textTo m ((← get).cells.size + 1) v

/-- Whether two lists have no elements, and so cannot be told apart. -/
def bothEmpty (a b : Nat) : Run Bool := do
  return (← Memory.items a).isEmpty && (← Memory.items b).isEmpty

/-- Equality without conversion.  Numbers of any kind are compared by value, lists and objects by
identity; empty lists are all the same. -/
def strictEq (a b : Value) : Run Bool :=
  match a, b with
  | .unreachable, _ | _, .unreachable => return false
  | .text x, .text y | .text x, .raw y | .raw x, .text y | .raw x, .raw y => return x == y
  | .null, .null | .undefined, .undefined => return true
  | .bool x, .bool y => return x == y
  | .list x, .list y => return x == y || (← bothEmpty x y)
  | .typedList e x, .typedList f y => return e == f && (x == y || (← bothEmpty x y))
  | .object x, .object y | .options x, .options y | .template x, .template y
  | .content x, .content y | .nodes x, .nodes y | .instantRef _ x, .instantRef _ y => return x == y
  | .typedMap k e x, .typedMap l f y => return k == l && e == f && x == y
  | .recordRef s x, .recordRef t y | .host s x, .host t y => return s == t && x == y
  | .noRecord s, .noRecord t => return s == t
  | .label s x, .label t y => return s == t && x == y
  | .instant x, .instant y => return x == y
  | .clock x, .clock y => return x == y
  | .function x, .function y => return x == y
  | .action s x, .action t y => return s == t && x == y
  | _, _ => return a.isNumeric && b.isNumeric && a.toNumber == b.toNumber

/-- Equality where null equals undefined and other primitives are compared as numbers. -/
def looseEq (a b : Value) : Run Bool := do
  if a.isNullish || b.isNullish then return a.isNullish && b.isNullish
  else if ← strictEq a b then return true
  else if a.isPrimitive && b.isPrimitive && !(a.isTextual && b.isTextual) then
    return a.toNumber == b.toNumber
  else return false

/-- Text of a textual value. -/
def asText : Value → String
  | .text s | .raw s => s
  | _ => ""

/-- Order: texts by their characters, anything else as numbers. -/
def less (a b : Value) (texts : String → String → Bool) (numbers : Float → Float → Bool) : Bool :=
  if a.isTextual && b.isTextual then texts a.asText b.asText else numbers a.toNumber b.toNumber

/-- What an operator before an operand gives. -/
def unary (op : Expr.UnaryOp) (v : Value) : Value :=
  match op with
  | .not => .bool (!v.truthy)
  | .neg => .number (-v.toNumber)
  | .pos => .number v.toNumber
  | .typeof => .text v.typeof

/-- Addition of numbers, or joining of texts as soon as one side is a text or no primitive. -/
def add (m : Machine) (a b : Value) : Run Value := do
  if a.isTextual || b.isTextual || !a.isPrimitive || !b.isPrimitive then
    return .text ((← a.toText m) ++ (← b.toText m))
  else return .number (a.toNumber + b.toNumber)

/-- What an operator between two operands gives. -/
def binary (m : Machine) (op : Expr.BinaryOp) (a b : Value) : Run Value :=
  match op with
  | .add => add m a b
  | .sub => return .number (a.toNumber - b.toNumber)
  | .mul => return .number (a.toNumber * b.toNumber)
  | .div => return .number (a.toNumber / b.toNumber)
  | .mod => return .number (floatMod a.toNumber b.toNumber)
  | .eq => return .bool (← looseEq a b)
  | .ne => return .bool (!(← looseEq a b))
  | .strictEq => return .bool (← strictEq a b)
  | .strictNe => return .bool (!(← strictEq a b))
  | .lt => return .bool (less a b (· < ·) (· < ·))
  | .gt => return .bool (less a b (· > ·) (· > ·))
  | .le => return .bool (less a b (fun x y => !(y < x)) (· ≤ ·))
  | .ge => return .bool (less a b (fun x y => !(x < y)) (· ≥ ·))

end Value

end Trellis
