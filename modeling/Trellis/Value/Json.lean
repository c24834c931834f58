/-
Values as JSON text.
-/
import Trellis.Calendar
import Trellis.Json.Writer
import Trellis.Text.Bytes
import Trellis.Value.Portrait

namespace Trellis

namespace Value

/-- The fault of a value that cannot be written. -/
def unwritable (what : String) : Fault := .plain ("json: unsupported " ++ what)

/-- A number; one that is no finite number cannot be written. -/
def jsonNumber (shown : String) (isFinite : Bool) : Run String :=
  if isFinite then return shown else throw (unwritable ("value: " ++ shown))

/-- A point in time. -/
def jsonInstant (t : Instant) : String := Json.stringText true t.stamp

/-- Fields as an object. -/
def jsonObject (fields : List (String × String)) : String :=
  "\x7b" ++ ",".intercalate (fields.map fun (k, v) => Json.stringText true k ++ ":" ++ v) ++ "\x7d"

/-- The key of an entry: a text, or what is written as one or as a number. -/
def jsonKey (h : Host) : Value → Run String
  | .text s | .raw s => return s
  | .whole _ n | .measure _ n => return Text.intText n
  | .number x => jsonNumber (if x.isNaN then "NaN" else Json.numberText x) x.isFinite
  | .instant t => return t.stamp
  | v => throw (unwritable ("value: " ++ v.typeName h))

/-- Whether a field that is left out when it is empty is left out. -/
def isEmptyField : Value → Bool
  | .text s => s.isEmpty
  | .whole _ n => n == 0
  | .number x => x == 0
  | .bool b => !b
  | .null | .noRecord _ => true
  | .label _ s => s.isEmpty
  | _ => false

/-- Whether nothing is kept for a list or a map. -/
def isMissing (at_ : Nat) : Run Bool := do
  match ← Memory.cell? at_ with
  | some (.inner _) => return true
  | _ => return false

/-- A value as JSON text; what holds itself is followed `depth` deep. -/
def jsonTo (h : Host) : Nat → Value → Run String
  | _, .null | _, .noRecord _ => return "null"
  | _, .undefined | _, .unreachable => return jsonObject []
  | _, .bool b => return if b then "true" else "false"
  | _, .number x => jsonNumber (if x.isNaN then "NaN" else if x.isInf then
      (if x < 0 then "-Inf" else "+Inf") else Json.numberText x) x.isFinite
  | _, .single x =>
    let y := x.toFloat
    jsonNumber (if y.isNaN then "NaN" else if y.isInf then
      (if y < 0 then "-Inf" else "+Inf") else Text.float32Text .document x) y.isFinite
  | _, .whole _ n | _, .measure _ n => return Text.intText n
  | _, .text s | _, .raw s | _, .label _ s => return Json.stringText true s
  | _, .instant t | _, .instantRef t _ => return jsonInstant t
  | _, .host _ _ | _, .options _ | _, .clock _ => return jsonObject []
  | _, .content at_ => do
    let name := ((← get).contents[at_]?.map (·.name)).getD ""
    return jsonObject [("Name", Json.stringText true name)]
  | _, .template at_ => do
    return (((← get).templates[at_]?).bind Template.text?).getD "null"
  | 0, v => throw (unwritable ("value: encountered a cycle via " ++ v.typeName h))
  | _, .typedList (.whole .uint8) at_ => do
    if ← isMissing at_ then return "null"
    let bytes := (← Memory.items at_).toList.map fun
      | .whole _ n => n.toNat
      | _ => 0
    return Json.stringText true (String.ofList (Text.base64Chars bytes))
  | depth + 1, .nodes at_ => do jsonTo h depth (← Portrait.nodes at_)
  | depth + 1, .list at_ | depth + 1, .typedList _ at_ => do
    if ← isMissing at_ then return "null"
    let items ← (← Memory.items at_).toList.mapM (jsonTo h depth)
    return "[" ++ ",".intercalate items ++ "]"
  | depth + 1, .object at_ => do
    if ← isMissing at_ then return "null"
    return jsonObject (← (← Memory.fields at_).mapM fun (k, v) => do return (k, ← jsonTo h depth v))
  | depth + 1, .typedMap _ _ at_ => do
    let named ← (← Memory.entries at_).mapM fun (k, v) => do return (← jsonKey h k, v)
    let sorted := Datum.sortedFields named
    return jsonObject (← sorted.mapM fun (k, v) => do return (k, ← jsonTo h depth v))
  | depth + 1, .record type at_ | depth + 1, .recordRef type at_ => do
    let fs ← Memory.fields at_
    let used ← (h.recordType type).fields.filterMapM fun f => do
      match fs.get? f.name with
      | none => return none
      | some v =>
        let empty ← match v with
          | .typedList _ items => do pure (← Memory.items items).isEmpty
          | v => pure v.isEmptyField
        if f.written == .never || (f.written == .unlessEmpty && empty) then return none
        else return some (f.visible, v)
    return jsonObject (← used.mapM fun (k, v) => do return (k, ← jsonTo h depth v))
  | _, v => throw (unwritable ("type: " ++ v.typeName h))

/-- A value as JSON text. -/
def jsonText (h : Host) (v : Value) : Run String := do jsonTo h ((← get).cells.size + 1) v

end Value

end Trellis
