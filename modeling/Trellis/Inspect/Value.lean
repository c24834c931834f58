/-
Values and rendered nodes as documents.  What a document cannot say itself is tagged: a record with
the tag under `$t` and the rest under `v`.
-/
import Trellis.Code.Fragment
import Trellis.Inspect.Basic
import Trellis.Value.Coerce
import Trellis.Value.Methods

namespace Trellis.Inspect

/-! Compiled programs as documents. -/

/-- What a binding is about. -/
def binding (b : Binding) : Datum := .record [
  ("fieldName", .text b.field), ("fullPropName", .text b.target),
  ("propPath", texts (b.path.getD [])), ("oneWay", .bool b.oneWay),
  ("direction", .text b.direction), ("hasDefault", .bool b.hasDefault)]

/-- A compiled program. -/
def fragment (f : Code.Fragment) : Datum := .record ([
  ("body", .text f.body), ("flags", nat f.flags.code), ("flagNames", .text f.flags.text),
  ("table", .bool f.isFunction), ("source", .text f.source), ("constant", .bool f.constant),
  ("eval", .bool f.evaluates), ("assign", .bool f.target.isSome),
  ("binding", (f.binding.map binding).getD .null), ("entity", .text f.entity),
  ("materialized", .text f.flags.carried.text)] ++
  (match f.handler with
    | some h => [("handler", .record [("name", .text h.name), ("context", .bool h.owner.isSome),
        ("args", nat h.args.length)])]
    | none => []))

/-- A tagged document. -/
def tagged (tag : String) (v : Datum) : Datum := .record [("$t", .text tag), ("v", v)]

/-- A tag alone. -/
def tag (t : String) : Datum := .record [("$t", .text t)]

/-- Named texts as pairs. -/
def pairs (xs : List (String × String)) : Datum := .list (xs.map fun (a, b) => texts [a, b])

/-- Events, each with the name of what it calls. -/
def events (es : List RenderedEvent) : Datum :=
  pairs (es.map fun e => (e.name, (e.handler.map (·.name)).getD ""))

/-- A number of a list or map of whole numbers. -/
def wholeNumber : Value → Datum
  | .whole _ n => num n
  | v => .number v.toNumber

mutual
/-- A rendered node, given how values are shown. -/
def rendered (value : Value → Run Datum) : Rendered → Run Datum
  | .text key s raw loop =>
    return .record [("kind", .text "text"), ("key", .text key), ("loop", .bool loop),
      ("text", .text s), ("raw", .bool raw)]
  | .element key name attrs es children loop => do
    let cs ← renderedList value children
    return .record ([("kind", .text "element"), ("key", .text key), ("loop", .bool loop),
      ("attrs", pairs attrs), ("events", events es), ("tag", .text name), ("children", .list cs),
      ("content", .text (Rendered.textContents children))] ++
      ((attrs.find? (·.1 == "class")).map fun a => ("class", .text a.2)).toList)
  | .control key name options attrs bindings es _ loop => do
    let os ← options.mapM fun (k, v) => do return (k, ← value v)
    return .record [("kind", .text "control"), ("key", .text key), ("loop", .bool loop),
      ("attrs", pairs attrs), ("events", events es), ("control", .text name),
      ("options", .record os), ("bindings", .list (bindings.map fun b => binding b.binding))]

def renderedList (value : Value → Run Datum) : List Rendered → Run (List Datum)
  | [] => return []
  | n :: ns => return (← rendered value n) :: (← renderedList value ns)
end

/-- The first two fields of records as pairs. -/
def fieldPairs (first second : String) (vs : List Value) : Run (List (String × String)) :=
  (Value.recordPlaces vs).mapM fun a => do
    return (← Value.textField a first, ← Value.textField a second)

/-- The binding that a record tells of. -/
def bindingRecord (at_ : Nat) : Run Datum := do
  match (← Memory.fields at_).get? "BindingConfig" with
  | some (.record _ config) =>
    let fs ← Memory.fields config
    let flag := fun name => ((fs.get? name).getD .null).truthy
    let path := (← Value.itemsField config "PropPath").map (·.asText)
    return binding {
      field := ← Value.textField config "FieldName", target :=
        ← Value.textField config "FullPropName"
      path := some path, oneWay := flag "OneWay"
      direction := ← Value.textField config "Direction", hasDefault := flag "HasDefault" }
  | _ => return .null

/-- The node that a record tells of, given how values are shown, followed `depth` deep. -/
def nodeRecord (value : Value → Run Datum) : Nat → Nat → Run Datum
  | 0, _ => return .null
  | depth + 1, at_ => do
    let fs ← Memory.fields at_
    let flag := fun name => Datum.bool ((fs.get? name).getD .null).truthy
    let kind := match fs.get? "Kind" with
      | some (.measure _ n) => n
      | _ => 0
    let attrs ← fieldPairs "Name" "Value" (← Value.itemsField at_ "Attrs")
    let common := [("kind", .text (Measure.nodeKind.text kind)),
      ("key", .text (← Value.textField at_ "Key")), ("loop", flag "Loop")]
    let shared := common ++ [("attrs", pairs attrs),
      ("events", pairs (← fieldPairs "Name" "Handler" (← Value.itemsField at_ "Events")))]
    if kind == 0 then
      return .record (common ++ [("text", .text (← Value.textField at_ "Text")),
        ("raw", flag "Raw")])
    else if kind == 1 then
      let children := Value.recordPlaces (← Value.itemsField at_ "Children")
      return .record (shared ++ [("tag", .text (← Value.textField at_ "Tag")),
        ("children", .list (← children.mapM (nodeRecord value depth))),
        ("content", .text (← Value.nodeText (depth + 1) at_))] ++
        ((attrs.find? (·.1 == "class")).map fun a => ("class", Datum.text a.2)).toList)
    else
      let options ← match fs.get? "Options" with
        | some (.object a) => Memory.fields a
        | _ => pure []
      let bindings := Value.recordPlaces (← Value.itemsField at_ "Bindings")
      return .record (shared ++ [("control", .text (← Value.textField at_ "Control")),
        ("options", .record (← options.mapM fun (k, v) => do return (k, ← value v))),
        ("bindings", .list (← bindings.mapM bindingRecord))])

/-- A value, followed `depth` deep. -/
def valueTo (m : Machine) : Nat → Value → Run Datum
  | _, .null => return .null
  | _, .undefined => return tag "undefined"
  | _, .unreachable => return tag "unreachable"
  | _, .bool b => return .bool b
  | _, .number x => return float x
  | _, .single x => return tagged "float32" (.text (Text.float32Text .general x))
  | _, .whole k n => return tagged k.name (.text (Text.intText n))
  | _, .measure of n => return tagged of.kind.name (.text (Text.intText n))
  | _, .text s => return .text s
  | _, .raw s => return tagged "raw" (.text s)
  | _, .function _ | _, .action _ _ => return tag "function"
  | _, .noRecord type =>
    if (Schema.type? type).isSome then return tagged "other" (.text ("*" ++ type))
    else return tag "nilptr"
  | 0, _ => return .null
  | depth + 1, .list a => do return .list (← (← Memory.items a).toList.mapM (valueTo m depth))
  | depth + 1, .object a => do
    return .record (← (← Memory.fields a).mapM fun (k, v) => do return (k, ← valueTo m depth v))
  | _, .typedList .text a => do
    match ← Memory.cell? a with
    | some (.inner _) => return tagged "strings" .null
    | _ => return tagged "strings" (texts ((← Memory.items a).toList.map (·.asText)))
  | _, .typedList (.whole .int) a => do
    return tagged "ints" (.list ((← Memory.items a).toList.map wholeNumber))
  | _, .typedMap .text (.whole .int) a => do
    return tagged "mapint"
      (.record ((← Memory.entries a).map fun e => (e.1.asText, wholeNumber e.2)))
  | _, .typedMap (.whole .int) .text a => do
    return tagged "intmap" (.record (← (← Memory.entries a).mapM fun e => do
      return (← e.1.toText m, .text e.2.asText)))
  | depth + 1, .record type a => record m depth "person" (.record type a) type a
  | depth + 1, .recordRef type a => record m depth "personptr" (.recordRef type a) type a
  | depth + 1, .host _ a => do
    let v ← Memory.inner a
    return tagged (match v with
      | .list _ => "records"
      | _ => "bag") (← valueTo m depth v)
  | _, .content a => do
    let name := ((← get).contents[a]?.map (·.name)).getD ""
    return .record [("$t", .text "content"), ("name", .text name),
      ("html", .text (← m.contentText a))]
  | _, .template a => do
    match (← get).templates[a]? with
    | some t => return .record [("$t", .text "template"), ("name", .text t.name),
        ("module", .text t.description.module)]
    | none => return .null
  | depth + 1, .nodes a => do
    match (← get).portraits.lookup (.nodes a) with
    | some (.typedList _ b) => nodeList m depth b
    | _ => return .list (← renderedList (valueTo m depth) ((← get).rendered[a]?.getD []))
  | depth + 1, .typedList (.ref "runtime.VNode") a => nodeList m depth a
  | _, v => return tagged "other" (.text (v.typeName m.host))
termination_by n _ => 2 * n
where
  /-- Nodes that stand in a list. -/
  nodeList (m : Machine) (depth a : Nat) : Run Datum := do
    let places := Value.recordPlaces (← Memory.items a).toList
    return .list (← places.mapM (nodeRecord (valueTo m depth) (depth + 1)))
  termination_by 2 * depth + 1
  /-- The fields that a record shows; numbers and lists in them stand without tags. -/
  record (m : Machine) (depth : Nat) (tag : String) (v : Value) (type : String) (a : Nat) :
      Run Datum := do
    if (Schema.type? type).isSome then return tagged "other" (.text (v.typeName m.host))
    let fs ← Memory.fields a
    let shown ← (m.host.records type).fields.mapM fun f => do
      let v := (fs.get? f.name).getD .undefined
      let d ← valueTo m depth v
      return (f.name, match v, d with
        | .whole _ n, _ => num n
        | .typedList _ _, .record [_, (_, .list items)] => .list items
        | .typedList _ _, _ => .list []
        | _, d => d)
    return tagged tag (.record shown)
  termination_by 2 * depth + 1

/-- A value. -/
def value (m : Machine) (v : Value) : Run Datum := do
  valueTo m ((← get).cells.size + (← get).rendered.size + 2) v

/-- Rendered nodes. -/
def nodesOf (m : Machine) (ns : List Rendered) : Run Datum := do
  return .list (← renderedList (value m) ns)

/-- What a step comes to: its document, or its fault; what it did stays done. -/
def settle (work : Run Datum) : Run Datum := tryCatch work fun f => return fault f

/-- The value of a step. -/
def valueResult (m : Machine) (work : Run Value) : Run Datum :=
  settle do return .record [("value", ← value m (← work))]

/-- The success of a step. -/
def okResult (work : Run Unit) : Run Datum := settle do
  work
  return .record [("ok", .bool true)]

/-- The operators that two values are tried with. -/
def binaryOps : List Expr.BinaryOp :=
  [.add, .sub, .mul, .div, .mod, .eq, .ne, .strictEq, .strictNe, .lt, .gt, .le, .ge]

/-- All that can be said of a value, or of two. -/
def valueReport (m : Machine) (args : List Value) : Run Datum := do
  let a := args.headD .null
  let undefined := tag "undefined"
  let unary := fun (op : Expr.UnaryOp) => do return ("unary " ++ op.text, ← value m (a.unary op))
  let more ← match args with
    | [a, b] => do
      let rs ← binaryOps.mapM fun op => do return (op.text, ← value m (← Value.binary m op a b))
      pure [("binary", Datum.record (rs ++ [("**", undefined)]))]
    | _ => pure []
  return .record ([("truthy", .bool a.truthy), ("number", float a.toNumber),
    ("string", .text (← a.toText m)), ("typeof", .text a.typeof), ("nullish", .bool a.isNullish),
    ("undefined", .bool a.isUndefined), ("keys", texts (← a.keys m)),
    ← unary .not, ← unary .neg, ← unary .pos, ← unary .typeof, ("unary ~", undefined)] ++ more)

end Trellis.Inspect
