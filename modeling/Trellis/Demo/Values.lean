/-
Values written as documents.  A record with a text under `$t` is tagged: what it stands for is
said by the tag.
-/
import Trellis.Inspect.Basic
import Trellis.Demo.Controls

namespace Trellis

namespace Demo

/-- The number that a document stands for: a number, or a text that denotes one. -/
def floatOf : Datum → Float
  | .number x => x
  | .whole n => Text.wholeFloat n
  | .text s =>
    let (sign, cs) : Float × List Char := match s.toList with
      | '-' :: cs => (-1, cs)
      | '+' :: cs => (1, cs)
      | cs => (1, cs)
    if s == "NaN" then Text.nan
    else if Text.isInfinityWord cs then sign * Text.infinity
    else sign * (Text.unsignedNumber? cs).getD 0
  | _ => 0

/-- The whole number that a document stands for. -/
def wholeOf (d : Datum) : Value := .whole .int (WholeKind.int.ofFloat (floatOf d))

/-- A person from the fields of a record. -/
def newPerson (d : Datum) : Run Nat := do
  let field := fun name => (d.field? name).getD .null
  let tags ← match field "Tags" with
    | .list xs => Memory.alloc (.items (xs.map fun t => Value.text (textOf t)).toArray)
    | _ => Memory.alloc (.inner .null)
  let active := match field "Active" with
    | .bool b => b
    | _ => false
  Memory.alloc (.fields [("Name", .text (textOf (field "Name"))), ("Age", wholeOf (field "Age")),
    ("Email", .text (textOf (field "Email"))), ("Tags", .typedList .text tags),
    ("Active", .bool active), ("secret", .text "")])

/-- Keeps the items of a list. -/
def newItems (d : Datum) (item : Datum → Value) : Run Nat :=
  Memory.alloc (.items ((itemsOf d).map item).toArray)

/-- A value with a tag, given how other documents are read. -/
def taggedValue (read : Datum → Run Value) (tag : String) (v : Datum) : Run Value := do
  match WholeKind.all.find? (·.name == tag) with
  | some kind => return .whole kind (kind.ofFloat (floatOf v))
  | none =>
    match tag with
    | "undefined" => return .undefined
    | "unreachable" => return .unreachable
    | "num" => return .number (floatOf v)
    | "float32" => return .single (floatOf v).toFloat32
    | "raw" => return .raw (textOf v)
    | "fn" => return if (function? (textOf v)).isSome then .function (textOf v) else .null
    | "strings" => return .typedList .text (← newItems v fun d => .text (textOf d))
    | "ints" => return .typedList (.whole .int) (← newItems v wholeOf)
    | "mapint" =>
      return .typedMap .text (.whole .int)
        (← Memory.alloc (.entries ((fieldsOf v).map fun (k, d) => (.text k, wholeOf d))))
    | "intmap" =>
      let es := (fieldsOf v).map fun (k, d) =>
        (Value.whole .int ((Text.whole? k).getD 0), Value.text (textOf d))
      return .typedMap (.whole .int) .text (← Memory.alloc (.entries es))
    | "person" => return .record personName (← newPerson v)
    | "personptr" => return .recordRef personName (← newPerson v)
    | "nilptr" => return .noRecord personName
    | "bag" =>
      let fs ← (fieldsOf v).mapM fun (k, d) => do return (k, ← read d)
      return .host "*main.oBag" (← Memory.alloc (.inner (← Memory.newObject (Fields.ofList fs))))
    | "records" =>
      let items ← Memory.newList (← (itemsOf v).mapM read)
      return .host "*main.oRecords" (← Memory.alloc (.inner items))
    | "time" => return .instant { moment := ⟨WholeKind.int64.ofFloat (floatOf v), 0⟩ }
    | "timeptr" =>
      return .instantRef { moment := ⟨WholeKind.int64.ofFloat (floatOf v), 0⟩ }
        (← Memory.alloc (.inner .null))
    | _ => return .null

/-- The value that a document stands for, followed `depth` deep; `template` makes templates. -/
def valueTo (template : Datum → Run Value) : Nat → Datum → Run Value
  | _, .null => return .null
  | _, .bool b => return .bool b
  | _, .number x => return .number x
  | _, .whole n => return .number (Text.wholeFloat n)
  | _, .text s => return .text s
  | 0, _ => return .null
  | depth + 1, .list xs => do Memory.newList (← xs.mapM (valueTo template depth))
  | depth + 1, .record fs => do
    match (Datum.record fs).field? "$t" with
    | some (.text "template") => template (.record fs)
    | some (.text tag) =>
      taggedValue (valueTo template depth) tag (((Datum.record fs).field? "v").getD .null)
    | _ =>
      let fs ← (Datum.sortedFields fs).mapM fun (k, d) => do
        return (k, ← valueTo template depth d)
      Memory.newObject (Fields.ofList fs)

/-- The value that a document stands for. -/
def value (template : Datum → Run Value) (d : Datum) : Run Value := valueTo template d.depth d

end Demo

end Trellis
