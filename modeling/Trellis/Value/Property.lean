/-
Reading and writing the properties of values.
-/
import Trellis.Text.Case
import Trellis.Text.Quoted
import Trellis.Value.Coerce
import Trellis.Value.Portrait

namespace Trellis

/-- A name with its first letter in upper case. -/
def capitalName (name : String) : String :=
  match name.toList with
  | [] => ""
  | c :: cs => String.ofList (Text.upperChar c :: cs)

/-- The position that a property name stands for, if it is within `size`. -/
def position? (name : String) (size : Nat) : Option Nat :=
  match Text.whole? name with
  | some (.ofNat i) => if i < size then some i else none
  | _ => none

namespace RecordType

/-- The field that a name stands for: its own name, the name that templates use, or its own name
but for the case of the first letter. -/
def field? (t : RecordType) (name : String) : Option RecordField :=
  match t.fields.find? fun f => f.name == name || f.visible == name with
  | some f => some f
  | none => t.fields.find? (·.name == capitalName name)

end RecordType

namespace Value

/-- What nothing is called in messages. -/
def nothingName : Value → String
  | .null => "null"
  | _ => "undefined"

/-- A property of a list. -/
def listProperty (at_ : Nat) (name : String) : Run Value := do
  let xs ← Memory.items at_
  if name == "length" then return .number xs.size.toFloat
  return ((position? name xs.size).bind (xs[·]?)).getD .undefined

/-- A property of a text: its length in characters, or one of them. -/
def textProperty (s name : String) : Value :=
  let cs := s.toList
  if name == "length" then .number cs.length.toFloat
  else
    match (position? name cs.length).bind (cs[·]?) with
    | some c => .text (String.ofList [c])
    | none => .undefined

/-- The field of a record that a name stands for, with where it is kept.  Fields of embedded records
are found by their own names. -/
def fieldPlace? (h : Host) (type : String) (at_ : Nat) (name : String) :
    Run (Option (Nat × RecordField)) := do
  let t := h.recordType type
  match t.field? name with
  | some f => return some (at_, f)
  | none =>
    let fs ← Memory.fields at_
    return (t.fields.filter (·.embedded)).findSome? fun e =>
      match fs.get? e.name with
      | some (.record inner place) =>
        ((h.recordType inner).fields.find? (·.name == capitalName name)).map fun f => (place, f)
      | _ => none

/-- A property of a host's record. -/
def recordProperty (h : Host) (type : String) (at_ : Nat) (name : String) : Run Value := do
  match ← fieldPlace? h type at_ name with
  | some (place, f) => return ((← Memory.fields place).get? f.name).getD .undefined
  | none => return .undefined

/-- A property of a template. -/
def templateProperty (decorators : List String) (at_ : Nat) (t : Template) (name : String) :
    Run Value :=
  match capitalName name with
  | "Name" => return .text t.name
  | "Stable" => return .bool t.isStable
  | "IsModule" => return .bool t.isModule
  | "Description" => Portrait.description at_ t
  | "Body" => Portrait.body at_ t
  | "Methods" => Portrait.methods decorators at_ t
  | "Templates" => Portrait.templates at_ t
  | _ => return .undefined

/-- The property of a value with a name; undefined when it has none. -/
def property (h : Host) (v : Value) (name : String) : Run Value :=
  match v with
  | .object at_ => do return ((← Memory.fields at_).get? name).getD .undefined
  | .options at_ => do
    if name == "_options" then return .object at_
    return ((← Memory.fields at_).get? name).getD .undefined
  | .host type at_ =>
    match (h.objects type).get? with
    | some read => do return (← read (← Memory.inner at_) name).getD .undefined
    | none => return .undefined
  | .list at_ | .typedList _ at_ => listProperty at_ name
  | .text s => return textProperty s name
  | .typedMap .text _ at_ => do
    let found := (← Memory.entries at_).find? fun e => e.1.asText == name
    return (found.map (·.2)).getD .undefined
  | .record type at_ | .recordRef type at_ => recordProperty h type at_ name
  | .content at_ => do
    if capitalName name == "Name" then
      return ((← get).contents[at_]?.map fun c => .text c.name).getD .undefined
    else return .undefined
  | .template at_ => do
    match (← get).templates[at_]? with
    | some t => templateProperty h.decorators at_ t name
    | none => return .undefined
  | .nodes at_ => do
    match ← Portrait.nodes at_ with
    | .typedList _ items => listProperty items name
    | _ => return .undefined
  | _ => return .undefined

/-- What a path leads to; beyond nothing there is only undefined. -/
def follow (h : Host) : Value → List String → Run Value
  | v, [] => return v
  | v, name :: rest => do
    if v.isNullish then return .undefined
    follow h (← v.property h name) rest

/-- The value that nothing stands for in a type.  For lists this is no list, which has no elements
either. -/
def zero : HostType → Run Value
  | .any => return .null
  | .bool => return .bool false
  | .text => return .text ""
  | .number => return .number 0
  | .single => return .single 0
  | .whole kind => return .whole kind 0
  | .measure of => return .measure of 0
  | .instant => return .instant Instant.start
  | .list element => do return .typedList element (← Memory.alloc (.inner .null))
  | .map key element => do return .typedMap key element (← Memory.alloc (.inner .null))
  | .label type => return .label type ""
  | .ref type => return .noRecord type
  | .function name => return .function name
  | .record _ | .other _ => return .null

/-- A number converted to a type of numbers. -/
def toNumeric? (v : Value) : HostType → Option Value
  | .number => some (.number v.toNumber)
  | .single => some (.single v.toNumber.toFloat32)
  | .whole kind =>
    match v with
    | .whole _ n | .measure _ n => some (.whole kind (kind.wrap n))
    | _ => some (.whole kind (kind.ofFloat v.toNumber))
  | .measure of =>
    match v with
    | .whole _ n | .measure _ n => some (.measure of (of.kind.wrap n))
    | _ => some (.measure of (of.kind.ofFloat v.toNumber))
  | _ => none

/-- The type of bytes. -/
def bytesType : HostType := .list (.whole .uint8)

/-- A byte as a value. -/
def byteValue (n : Nat) : Value := .whole .uint8 n

/-- The bytes of a text. -/
def bytesOf (s : String) : List Nat := s.toUTF8.toList.map (·.toNat)

/-- A list of bytes. -/
def bytesList (bytes : List Value) : Run Value := do
  return .typedList (.whole .uint8) (← Memory.alloc (.items bytes.toArray))

/-- A text as bytes. -/
def bytesValue (s : String) : Run Value := bytesList ((bytesOf s).map byteValue)

/-- A value converted to a type of the host. -/
def convert (m : Machine) (v : Value) (type : HostType) : Run Value := do
  if v.isNullish then zero type
  else
    let failed := Fault.plain ("cannot use " ++ v.typeName m.host ++ " as " ++ type.shown)
    match type, v with
    | .any, _ | .bool, .bool _ | .text, .text _ | .number, .number _ | .single, .single _
    | .instant, .instant _ => return v
    | .text, _ => return .text (← v.toText m)
    | .label type, .label other _ =>
      if type == other then return v else return .label type (← v.toText m)
    | .label type, _ => return .label type (← v.toText m)
    | .ref type, .recordRef other _ | .ref type, .noRecord other
    | .record type, .record other _ => if type == other then return v else throw failed
    | .list e, .typedList f _ => if e == f then return v else throw failed
    | .map k e, .typedMap l f _ => if k == l && e == f then return v else throw failed
    | .function shown, _ => if v.typeName m.host == shown then return v else throw failed
    | .list .any, .list _ => return v
    | .list (.whole .uint8), .text s | .list (.whole .uint8), .raw s => bytesValue s
    | .other shown, _ => if v.typeName m.host == shown then return v else throw failed
    | _, _ =>
      if v.isNumeric then
        match v.toNumeric? type with
        | some w => return w
        | none => throw failed
      else throw failed

/-- Fields with one of them replaced where it stands. -/
def replaceField (fs : Fields) (name : String) (v : Value) : Fields :=
  fs.map fun f => if f.1 == name then (name, v) else f

/-- Entries with a value under a text, sorted by the texts. -/
def insertEntry (es : List (Value × Value)) (name : String) (v : Value) : List (Value × Value) :=
  let fs := Fields.insert name v (es.map fun e => (e.1.asText, e.2))
  fs.map fun f => (.text f.1, f.2)

/-- Changes a template that is kept. -/
def changeTemplate (at_ : Nat) (f : Template → Template) : Run Unit :=
  modify fun mem => { mem with templates := mem.templates.modify at_ f }

/-- Sets a property of a template. -/
def setTemplateProperty (m : Machine) (at_ : Nat) (name : String) (v : Value) (failed : Fault) :
    Run Unit := do
  match capitalName name with
  | "Name" =>
    let w ← v.convert m .text
    changeTemplate at_ ({ · with name := w.asText })
  | "Stable" =>
    let w ← v.convert m .bool
    changeTemplate at_ ({ · with isStable := w.truthy })
  | "IsModule" =>
    let w ← v.convert m .bool
    changeTemplate at_ ({ · with isModule := w.truthy })
  | "Description" =>
    Portrait.replace (.description at_) (← v.convert m (.ref "runtime.Description"))
  | "Methods" => Portrait.replace (.methods at_) (← v.convert m (.ref "runtime.Methods"))
  | "Templates" =>
    let w ← v.convert m (.map .text (.other "*runtime.Template"))
    Portrait.replace (.templates at_) w
  | "Body" => discard (v.convert m (.ref "runtime.Body"))
  | _ => throw failed

/-- Sets a property of a value. -/
def setProperty (m : Machine) (target : Value) (name : String) (v : Value) : Run Unit := do
  let failed := Fault.plain
    ("cannot set property " ++ Text.quote name ++ " on " ++ target.typeName m.host)
  match target with
  | .object at_ | .options at_ => do
    Memory.put at_ (.fields (Fields.insert name v (← Memory.fields at_)))
  | .host type at_ =>
    match (m.host.objects type).set? with
    | some write => write (← Memory.inner at_) name v
    | none => throw failed
  | .list at_ =>
    let xs ← Memory.items at_
    match position? name xs.size with
    | some i => Memory.put at_ (.items (xs.setIfInBounds i v))
    | none => throw (.plain ("index " ++ Text.quote name ++ " out of range"))
  | .noRecord _ => throw (Fault.make .writeToNothing [("Value", "null"), ("Property", name)])
  | .typedMap .text element at_ =>
    let w ← v.convert m element
    Memory.put at_ (.entries (insertEntry (← Memory.entries at_) name w))
  | .recordRef type at_ =>
    match ← fieldPlace? m.host type at_ name with
    | some (place, f) =>
      let w ← v.convert m f.type
      Memory.put place (.fields (replaceField (← Memory.fields place) f.name w))
    | none => throw failed
  | .template at_ => setTemplateProperty m at_ name v failed
  | .content at_ =>
    if capitalName name == "Name" then
      let text ← v.convert m .text
      modify fun mem => { mem with
        contents := mem.contents.modify at_ fun c => { c with name := text.asText } }
    else throw failed
  | _ => throw failed

/-- Sets what a path leads to; nothing happens for an empty path. -/
def setPath (m : Machine) (obj : Value) (path : List String) (v : Value) : Run Unit := do
  match path.getLast? with
  | none => return
  | some name =>
    let target ← obj.follow m.host path.dropLast
    if target.isNullish then
      throw (Fault.make .writeToNothing [("Value", target.nothingName), ("Property", name)])
    target.setProperty m name v

/-- The names of the properties of a value.  Those of objects are sorted, those of records stand in
the order of their fields. -/
def keys (m : Machine) (v : Value) : Run (List String) :=
  match v with
  | .object at_ | .options at_ => do return (← Memory.fields at_).map (·.1)
  | .typedMap _ _ at_ => do
    return Text.sortTexts (← (← Memory.entries at_).mapM fun e => e.1.toText m)
  | .record type _ | .recordRef type _ => return (m.host.recordType type).fields.map (·.visible)
  | .content _ => return ["Name"]
  | .template _ =>
    return ["Description", "Body", "Name", "Methods", "Stable", "IsModule", "Templates"]
  | _ => return []

end Value

end Trellis
