/-
A small host program to try templates with: some functions, a type of records, two types of objects,
and components.
-/
import Trellis.Render.Template
import Trellis.Value.Machine
import Trellis.Value.Property

namespace Trellis.Demo

/-- A function of typed arguments. -/
def typed (shown : String) (params : List HostType) (rest : Option HostType)
    (run : (Value → Run String) → List Value → Run Value) : HostFunction :=
  ⟨shown, .typed params rest, fun toText _ args => run toText args⟩

/-- A function of any arguments. -/
def free (run : (Value → Run String) → Value → List Value → Run Value) : HostFunction :=
  ⟨"runtime.Function", .free, run⟩

/-- The whole number at a position. -/
def wholeArg (args : List Value) (k : Nat) : Int :=
  match args.getD k .undefined with
  | .whole _ n => n
  | _ => 0

/-- The text at the first position. -/
def textArg (args : List Value) : String := (args.headD .undefined).asText

/-- The functions. -/
def function? : String → Option HostFunction
  | "echo" => some (free fun _ _ args => Memory.newList args)
  | "this" => some (free fun _ this _ => return this)
  | "count" => some (free fun _ _ args => return .number args.length.toFloat)
  | "sum" => some (free fun _ _ args =>
      return .number (args.foldl (fun s a => s + a.toNumber) 0))
  | "fail" => some (free fun _ _ _ => throw (.plain "boom"))
  | "raw" => some (free fun toText _ args => do return .raw (← toText (args.headD .undefined)))
  | "plain" => some {
      free (fun _ _ args => return .text ("plain" ++ Text.natText args.length)) with
      shown := "func(interface \x7b\x7d, []interface \x7b\x7d) (interface \x7b\x7d, error)" }
  | "vfail" => some {
      free (fun _ _ args =>
        if args.length > 1 then throw (.plain ("vfail " ++ Text.natText args.length))
        else return .text "ok") with
      shown := "func(...interface \x7b\x7d) (interface \x7b\x7d, error)" }
  | "vjoin" => some {
      free (fun toText _ args => do return .text ("-".intercalate (← args.mapM toText))) with
      shown := "func(...interface \x7b\x7d) interface \x7b\x7d" }
  | "repeat" => some (typed "func(string, int) string" [.text, .whole .int] none fun _ args => do
      let n := wholeArg args 1
      let n := if n < 0 || n > 100 then 0 else n.toNat
      return .text (String.join (List.replicate n (textArg args))))
  | "void" => some (typed "func(float64)" [.number] none fun _ _ => return .undefined)
  | "check" => some (typed "func(bool) error" [.bool] none fun _ args =>
      if (args.headD .undefined).truthy then return .undefined else throw (.plain "not ok"))
  | "div" => some (typed "func(int, int) (int, error)" [.whole .int, .whole .int] none
      fun _ args =>
        if wholeArg args 1 == 0 then throw (.plain "divide by zero")
        else return .whole .int (WholeKind.int.wrap ((wholeArg args 0).tdiv (wholeArg args 1))))
  | "vnums" => some (typed "func(string, ...float64) string" [.text] (some .number)
      fun toText args => do
        let ns ← (args.drop 1).mapM fun v => do return ":" ++ (← toText v)
        return .text (textArg args ++ String.join ns))
  | "names" => some (typed "func([]string) int" [.list .text] none fun _ args => do
      match args.headD .undefined with
      | .typedList _ a => return .whole .int (← Memory.items a).size
      | _ => return .whole .int 0)
  | _ => none

/-- The type of persons. -/
def personName : String := "main.oPerson"

/-- Persons greet, and can be renamed. -/
def person : RecordType where
  fields := [
    { name := "Name", visible := "Name", type := .text },
    { name := "Age", visible := "age", type := .whole .int },
    { name := "Email", visible := "mail", type := .text, written := .unlessEmpty },
    { name := "Tags", visible := "Tags", type := .list .text, written := .never },
    { name := "Active", visible := "Active", type := .bool }]
  methods := [
    { name := "Greet"
      function := ⟨"func(string) string", .typed [.text] none, fun _ this args => do
        match this with
        | .record _ a | .recordRef _ a =>
          let name := ((← Memory.fields a).get? "Name").getD .undefined
          return .text (textArg args ++ ", " ++ name.asText)
        | _ => return .undefined⟩ },
    { name := "Rename", byReference := true,
      function := ⟨"func(string) error", .typed [.text] none, fun _ this args => do
        if (textArg args).isEmpty then throw (.plain "empty name")
        match this with
        | .recordRef _ a =>
          let fs := Value.replaceField (← Memory.fields a) "Name" (.text (textArg args))
          Memory.put a (.fields fs)
        | _ => pure ()
        return .undefined⟩ }]

/-- Reads from a bag. -/
def bagGet (inner : Value) (name : String) : Run (Option Value) := do
  match inner with
  | .object a => return (← Memory.fields a).get? name
  | _ => return none

/-- Writes to a bag, whose names with an underscore are locked. -/
def bagSet (inner : Value) (name : String) (v : Value) : Run Unit := do
  if Text.startsWith name "_" then throw (.plain ("locked " ++ name))
  match inner with
  | .object a => Memory.put a (.fields (Fields.insert name v (← Memory.fields a)))
  | _ => return

/-- What an object of the host holds. -/
def held (this : Value) : Run Value :=
  match this with
  | .host _ a => Memory.inner a
  | _ => return .undefined

/-- A bag of named values. -/
def bag : ObjectType where
  get? := some bagGet
  set? := some bagSet
  methods := [
    { name := "Get", function := ⟨"", .typed [.text] none, fun _ this args => do
        return (← bagGet (← held this) (textArg args)).getD .null⟩ },
    { name := "Set", function := ⟨"", .typed [.text, .any] none, fun _ this args => do
        bagSet (← held this) (textArg args) (args.getD 1 .null)
        return .undefined⟩ }]

/-- A set of records that can be walked over. -/
def records : ObjectType where
  each? := some fun inner => do
    match inner with
    | .list a => return (← Memory.items a).toList
    | _ => return []
  methods := [{ name := "Each", function := ⟨"",
    .typed [.other "func(interface \x7b\x7d, int) bool"] none, fun _ _ _ => return .undefined⟩ }]

/-- The host. -/
def host : Host where
  functions := function?
  records := fun type => if type == personName then person else {}
  objects := fun type =>
    match type with
    | "*main.oBag" => bag
    | "*main.oRecords" => records
    | _ => {}

/-- Shows what it was called with. -/
def echo : Control := fun r c call => do
  let style := match c.style with
    | .tree => "vdom"
    | .text _ => "string"
  let options ← (← Memory.fields call.options).mapM fun f => do
    return f.1 ++ "=" ++ (← f.2.toText r.machine)
  let shown := [call.name ++ "@" ++ style] ++ options ++
    call.attrs.map (fun a => "@" ++ a.1 ++ "=" ++ a.2) ++
    call.bindings.map (fun b => "&" ++ b.binding.field) ++
    call.events.map (fun e => "!" ++ e.name ++ ":" ++ (e.handler.map (·.name)).getD "")
  return [.text call.key (" ".intercalate shown) false false]

/-- Shows the content that it was given, with its option `data`. -/
def slot : Control := fun r _ call => do
  let options ← Memory.fields call.options
  match options.get? "content" with
  | some (.content at_) => r.content at_ ((options.get? "data").getD .null)
  | _ => throw (.plain "no content")

/-- Renders the template that it was given, as nodes. -/
def invoke : Control := fun r c call => do
  match (← Memory.fields call.options).get? "template" with
  | some (.template at_) =>
    match (← get).templates[at_]? with
    | some t => r.invoke t { data := .object call.options, parent := some c.surroundings }
    | none => return []
  | _ => throw (.plain "no template")

/-- The components. -/
def controls : String → Control
  | "fail" => fun _ _ _ => throw (.plain "control failed")
  | "slot" => slot
  | "invoke" => invoke
  | "control" => fun _ _ call =>
      return [.control call.key "" [] [] [] [] [.text call.key "in" false false] false]
  | _ => echo

/-- The host with its components. -/
def workshop : Workshop where
  host := host
  controls := controls

end Trellis.Demo
