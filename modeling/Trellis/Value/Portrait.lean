/-
What compiled templates and rendered nodes show of themselves, as records.

The types of these records are those that the library itself hands to expressions.  A portrait is
made when it is first asked for and kept from then on, so that it is the same each time.
-/
import Trellis.Description.Document
import Trellis.Description.Reader
import Trellis.Value.Machine
import Trellis.Value.Memory

namespace Trellis

/-! ### Types of records -/

namespace Schema

/-- A field that is always written. -/
def always (name visible : String) (type : HostType) : RecordField :=
  { name, visible, type }

/-- A field that is written unless it is empty. -/
def unlessEmpty (name visible : String) (type : HostType) : RecordField :=
  { name, visible, type, written := .unlessEmpty }

/-- A field that is not written. -/
def hidden (name : String) (type : HostType) : RecordField :=
  { name, visible := name, type, written := .never }

/-- A field that is known by its name alone. -/
def plain (name : String) (type : HostType) : RecordField :=
  { name, visible := name, type }

def int : HostType := .whole .int

def instructions : HostType := .list (.ref "runtime.Instruction")

def parts : HostType := .list (.record "runtime.Segment")

/-- The fields of a configured binding. -/
def bindingFields : List RecordField := [
  always "FieldName" "fieldName" .text, always "FullPropName" "fullPropName" .text,
  always "PropPath" "propPath" (.list .text), always "OneWay" "oneWay" .bool,
  always "Direction" "direction" .text, always "HasDefault" "hasDefault" .bool]

/-- The fields of the types. -/
def fields : List (String × List RecordField) := [
  ("runtime.Description", [
    always "Version" "version" int, always "Module" "module" .text,
    always "Dependencies" "dependencies" (.list .text),
    always "Bodies" "bodies" (.list (.ref "runtime.Body")),
    unlessEmpty "ReactiveProps" "reactiveProps" (.list .text),
    unlessEmpty "Expressions" "expressions" (.list (.ref "runtime.Expression")),
    unlessEmpty "Internals" "internals" (.list (.list (.list int))),
    unlessEmpty "ChildNames" "childNames" (.list .text),
    unlessEmpty "TranslationKeys" "translationKeys" (.list (.record "runtime.TranslationKey")),
    unlessEmpty "Symbols" "symbols" (.list .text)]),
  ("runtime.TranslationKey", [
    always "Text" "text" .text, unlessEmpty "Context" "context" .text]),
  ("runtime.Body", [
    always "Kind" "kind" (.label "runtime.BodyKind"), unlessEmpty "Name" "name" .text,
    unlessEmpty "Source" "source" .text, always "Children" "children" instructions,
    always "Internal" "internal" int]),
  ("runtime.Expression", [
    always "Source" "source" .text, always "Body" "body" .text,
    always "Flags" "flags" (.whole .uint16), unlessEmpty "Bind" "bind" .bool,
    unlessEmpty "Event" "event" .bool, hidden "Eval" (.function "runtime.Evaluator"),
    hidden "Assign" (.function "runtime.Assigner"), hidden "Handler" (.ref "runtime.Handler")]),
  ("runtime.Handler", [
    plain "Name" .text, plain "Context" (.function "runtime.Evaluator"),
    plain "Args" (.list (.function "runtime.Evaluator"))]),
  ("runtime.Segment", [
    always "Kind" "kind" (.label "runtime.SegmentKind"), unlessEmpty "Text" "text" .text,
    unlessEmpty "Context" "context" .text, always "Value" "value" .any,
    unlessEmpty "Expr" "expr" int, unlessEmpty "Unsafe" "unsafe" .bool]),
  ("runtime.AttrSpec", [
    always "Name" "name" .text, always "Kind" "kind" (.label "runtime.AttrKind"),
    unlessEmpty "Segments" "segments" parts, unlessEmpty "Expr" "expr" int,
    unlessEmpty "Binding" "binding" (.ref "runtime.BindingConfig")]),
  ("runtime.BindingConfig", bindingFields),
  ("runtime.OptionSpec", [
    unlessEmpty "Name" "name" .text, always "Type" "type" .text,
    unlessEmpty "Segments" "segments" parts,
    unlessEmpty "Items" "items" (.list (.ref "runtime.OptionSpec")),
    unlessEmpty "Properties" "properties" (.list (.ref "runtime.OptionSpec"))]),
  ("runtime.ContentRef", [always "Name" "name" .text, always "Body" "body" int]),
  ("runtime.Branch", [
    always "Test" "test" int, always "Children" "children" instructions,
    always "Internal" "internal" int]),
  ("runtime.Instruction", [
    always "Op" "op" (.label "runtime.Op"), always "Key" "key" .text,
    unlessEmpty "Name" "name" .text, unlessEmpty "Segments" "segments" parts,
    unlessEmpty "Attrs" "attrs" (.list (.ref "runtime.AttrSpec")),
    unlessEmpty "Children" "children" instructions, unlessEmpty "Void" "void" .bool,
    unlessEmpty "Mode" "mode" (.label "runtime.PartialMode"), unlessEmpty "Target" "target" int,
    unlessEmpty "Options" "options" (.list (.ref "runtime.OptionSpec")),
    unlessEmpty "Contents" "contents" (.list (.record "runtime.ContentRef")),
    unlessEmpty "Branches" "branches" (.list (.ref "runtime.Branch")),
    unlessEmpty "Init" "init" int, unlessEmpty "Test" "test" int,
    unlessEmpty "Update" "update" int, unlessEmpty "Collection" "collection" int,
    unlessEmpty "Index" "index" .text, unlessEmpty "Iterator" "iterator" .text,
    unlessEmpty "Names" "names" (.list .text), always "Internal" "internal" int]),
  ("runtime.Methods", [
    plain "Decorators" (.map .text (.function "runtime.Decorator")),
    plain "Translator" .any, plain "ResourceRoot" .text, plain "Logger" .any]),
  ("runtime.VNode", [
    plain "Kind" (.measure .nodeKind), plain "Key" .text, plain "Tag" .text, plain "Text" .text,
    plain "Raw" .bool, plain "Attrs" (.list (.record "runtime.Attr")),
    plain "Events" (.list (.ref "runtime.Event")), plain "Children" (.list (.ref "runtime.VNode")),
    plain "Control" .text, plain "Options" .any, plain "Bindings" (.list (.ref "runtime.Binding")),
    plain "Loop" .bool]),
  ("runtime.Attr", [plain "Name" .text, plain "Value" .text]),
  ("runtime.Event", [
    plain "Name" .text, plain "Handler" .text,
    plain "Fire" (.function "func(...interface \x7b\x7d) (interface \x7b\x7d, error)")]),
  ("runtime.Binding", [
    { plain "BindingConfig" (.record "runtime.BindingConfig") with embedded := true },
    plain "Update" (.function "func(interface \x7b\x7d) error")])]

/-- The type of records of the library with a name. -/
def type? (name : String) : Option RecordType := (fields.lookup name).map fun fields => { fields }

end Schema

/-- A type of records: one of the library, or else one of the host. -/
def Host.recordType (h : Host) (name : String) : RecordType :=
  (Schema.type? name).getD (h.records name)

/-! ### Portraits -/

namespace Memory

/-- The portrait of something, made by `paint` the first time. -/
def portrait (s : Sitter) (paint : Run Value) : Run Value := do
  match (← get).portraits.find? (·.1 == s) with
  | some (_, v) => return v
  | none =>
    let v ← paint
    modify fun m => { m with portraits := (s, v) :: m.portraits }
    return v

/-- Keeps the elements of a typed list; one without elements is no list at all. -/
def newTyped (element : HostType) (xs : List Value) : Run Value := do
  return .typedList element (← alloc (if xs.isEmpty then .inner .null else .items xs.toArray))

/-- Keeps a record of a type, and refers to it. -/
def newRecord (type : String) (fs : Fields) : Run Value := do
  return .recordRef type (← alloc (.fields fs))

end Memory

namespace Template

/-- A template as it is written down: a module as its description, an inline template as a quoted
line. -/
def text? (t : Template) : Option String :=
  if t.isModule then t.description.document?.map (Json.text true)
  else
    match t.description.line t.body with
    | .ok (some line) => some (Json.stringText true line)
    | _ => none

/-- An inline template of a module. -/
def inline? (t : Template) (name : String) : Option Template :=
  if t.isModule then
    (t.description.template? name).map fun body => { t with body, name, isModule := false }
  else none

/-- The names of the inline templates, in order. -/
def inlineNames (t : Template) : List String :=
  if t.isModule then Text.sortTexts (Text.dedup t.description.templateNames) else []

end Template

namespace Portrait

/-- Puts another value in the place of a portrait. -/
def replace (s : Sitter) (v : Value) : Run Unit :=
  modify fun m => { m with portraits := (s, v) :: m.portraits.filter (·.1 != s) }

/-- The value of a type that a document stands for, followed `depth` deep; what the document leaves
out is the zero of its type. -/
def ofDatum : Nat → HostType → Option Datum → Run Value
  | _, .any, d => Memory.ofDatum (d.getD .null)
  | _, .text, some (.text s) => return .text s
  | _, .text, _ => return .text ""
  | _, .bool, some (.bool b) => return .bool b
  | _, .bool, _ => return .bool false
  | _, .whole k, some (.whole n) => return .whole k n
  | _, .whole k, _ => return .whole k 0
  | _, .label type, some (.text s) => return .label type s
  | _, .label type, _ => return .label type ""
  | _, .function name, _ => return .function name
  | depth + 1, .list e, some (.list xs) => do
    return .typedList e (← Memory.alloc (.items (← xs.mapM fun d =>
      ofDatum depth e (some d)).toArray))
  | _, .list e, _ => return .typedList e (← Memory.alloc (.inner .null))
  | depth + 1, .ref type, some d => do return .recordRef type (← record depth type d)
  | _, .ref type, _ => return .noRecord type
  | depth + 1, .record type, some d => do return .record type (← record depth type d)
  | _, _, _ => return .null
termination_by n _ _ => 2 * n
where
  /-- The fields of a record. -/
  record (depth : Nat) (type : String) (d : Datum) : Run Nat := do
    let fs ← ((Schema.fields.lookup type).getD []).mapM fun f => do
      return (f.name, ← ofDatum depth f.type (d.field? f.visible))
    Memory.alloc (.fields fs)
  termination_by 2 * depth + 1

/-- A handler as a document. -/
def handler (h : Handler) : Datum :=
  .record [("Name", .text h.name), ("Args", .list (h.args.map fun _ => .null))]

/-- A description as a document that also tells its handlers. -/
def document (d : Description) : Datum :=
  let expressions := d.expressions.toList.map fun e =>
    match Description.Document.expression e, e.handler with
    | .record fs, some h => .record (fs ++ [("Handler", handler h)])
    | doc, _ => doc
  match d.document with
  | .record fs =>
    .record (fs.map fun f => if f.1 == "expressions" then (f.1, .list expressions) else f)
  | doc => doc

/-- The portrait of the description of a template. -/
def description (at_ : Nat) (t : Template) : Run Value :=
  Memory.portrait (.description at_) do
    let d := document t.description
    ofDatum (d.depth * 3 + 3) (.ref "runtime.Description") (some d)

/-- The body of a template, as it stands in the description. -/
def body (at_ : Nat) (t : Template) : Run Value := do
  match ← description at_ t with
  | .recordRef _ fields =>
    match (← Memory.fields fields).get? "Bodies" with
    | some (.typedList _ bodies) => return (← Memory.items bodies)[t.body]?.getD .null
    | _ => return .null
  | _ => return .null

/-- The portrait of the inline templates of a template. -/
def templates (at_ : Nat) (t : Template) : Run Value :=
  Memory.portrait (.templates at_) do
    let es ← t.inlineNames.filterMapM fun name => do
      match t.inline? name with
      | some inner => return some (Value.text name, Value.template (← Memory.newTemplate inner))
      | none => return none
    return .typedMap .text (.other "*runtime.Template") (← Memory.alloc (.entries es))

/-- A function of a type. -/
def action (type : String) (a : Action) : Run Value := do return .action type (← Memory.newAction a)

/-- The portrait of what a template can call on. -/
def methods (decorators : List String) (at_ : Nat) (t : Template) : Run Value :=
  Memory.portrait (.methods at_) do
    let names := if t.toolkit.formats.isSome then decorators else []
    let es ← names.mapM fun name => do
      return (Value.text name, ← action "runtime.Decorator" (.decorator at_ name))
    let map ← Memory.alloc (.entries es)
    Memory.newRecord "runtime.Methods" [
      ("Decorators", .typedMap .text (.function "runtime.Decorator") map), ("Translator", .null),
      ("ResourceRoot", .text t.toolkit.resourceRoot), ("Logger", .foreign "*logger.nullLogger"),
      ("template", .template at_)]

/-- The attributes of a node. -/
def attrs (as : List (String × String)) : Run Value := do
  let xs ← as.mapM fun (name, value) => do
    return .record "runtime.Attr"
      (← Memory.alloc (.fields [("Name", .text name), ("Value", .text value)]))
  Memory.newTyped (.record "runtime.Attr") xs

/-- The events of a node. -/
def events (es : List RenderedEvent) : Run Value := do
  let xs ← es.mapM fun e => do
    let fire ← action "func(...interface \x7b\x7d) (interface \x7b\x7d, error)" (.fire e)
    Memory.newRecord "runtime.Event" [
      ("Name", .text e.name), ("Handler", .text ((e.handler.map (·.name)).getD "")), ("Fire", fire)]
  Memory.newTyped (.ref "runtime.Event") xs

/-- Texts as a list, if there is one. -/
def texts (ts : Option (List String)) : Run Value := do
  let cell := match ts with
    | some ts => Cell.items (ts.map Value.text).toArray
    | none => .inner .null
  return .typedList .text (← Memory.alloc cell)

/-- The bindings of a node. -/
def bindings (bs : List RenderedBinding) : Run Value := do
  let xs ← bs.mapM fun b => do
    let config : Fields := [
      ("FieldName", .text b.binding.field), ("FullPropName", .text b.binding.target),
      ("PropPath", ← texts b.binding.path),
      ("OneWay", .bool b.binding.oneWay), ("Direction", .text b.binding.direction),
      ("HasDefault", .bool b.binding.hasDefault)]
    Memory.newRecord "runtime.Binding" [
      ("BindingConfig", .record "runtime.BindingConfig" (← Memory.alloc (.fields config))),
      ("Update", ← action "func(interface \x7b\x7d) error" (.update b))]
  Memory.newTyped (.ref "runtime.Binding") xs

/-- A node whose parts are known. -/
def nodeRecord (kind : Int) (key tag text : String) (raw loop : Bool)
    (attrs events children : Value) (control : String) (options bindings : Value) : Run Value :=
  Memory.newRecord "runtime.VNode" [
    ("Kind", .measure .nodeKind kind), ("Key", .text key), ("Tag", .text tag), ("Text", .text text),
    ("Raw", .bool raw), ("Attrs", attrs), ("Events", events), ("Children", children),
    ("Control", .text control), ("Options", options), ("Bindings", bindings), ("Loop", .bool loop)]

/-- The options of a node that has none. -/
def noOptions : Run Value := do return .object (← Memory.alloc (.inner .null))

mutual
/-- A rendered node. -/
def node : Rendered → Run Value
  | .text key s raw loop => do
    let cs ← Memory.newTyped (.ref "runtime.VNode") []
    nodeRecord 0 key "" s raw loop (← attrs []) (← events []) cs "" (← noOptions) (← bindings [])
  | .element key tag as es ns loop => do
    let cs ← Memory.newTyped (.ref "runtime.VNode") (← nodeList ns)
    nodeRecord 1 key tag "" false loop (← attrs as) (← events es) cs "" (← noOptions)
      (← bindings [])
  | .control key name options as bs es ns loop => do
    let cs ← Memory.newTyped (.ref "runtime.VNode") (← nodeList ns)
    nodeRecord 2 key "" "" false loop (← attrs as) (← events es) cs name
      (← Memory.newObject options) (← bindings bs)

/-- Rendered nodes. -/
def nodeList : List Rendered → Run (List Value)
  | [] => return []
  | n :: ns => do
    let v ← node n
    return v :: (← nodeList ns)
end

/-- The portrait of rendered nodes: a list of references to their records. -/
def nodes (at_ : Nat) : Run Value :=
  Memory.portrait (.nodes at_) do
    Memory.newTyped (.ref "runtime.VNode") (← nodeList ((← get).rendered[at_]?.getD []))

end Portrait

end Trellis
