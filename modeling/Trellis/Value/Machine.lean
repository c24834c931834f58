/-
What evaluation depends on from outside: the functions, records and objects of the host program,
the decorators, and the rendering of content that was passed to a template.
-/
import Trellis.Render.Html

namespace Trellis

/-- How a host's function takes its arguments. -/
inductive CallForm where
  /-- with what it is called on, all arguments as they are -/
  | free
  /-- each argument converted to a type; `rest` is the type of those that may follow -/
  | typed (params : List HostType) (rest : Option HostType)

/-- A function of the host.  It is given a way to show values as text. -/
structure HostFunction where
  /-- its type as it is shown in messages -/
  shown : String
  form : CallForm
  run : (Value → Run String) → Value → List Value → Run Value

/-- When a field of a record is written into a document. -/
inductive FieldUse where
  | always | unlessEmpty | never
deriving DecidableEq, Repr

/-- A field of a host's record: its name, the name that templates use, its type. -/
structure RecordField where
  name : String
  visible : String
  type : HostType
  written : FieldUse := .always
  /-- the fields of this record count as fields of the whole -/
  embedded : Bool := false

/-- A method of a host's type; some need a reference to what they are called on. -/
structure HostMethod where
  name : String
  byReference : Bool := false
  function : HostFunction

/-- A type of records. -/
structure RecordType where
  fields : List RecordField := []
  methods : List HostMethod := []

/-- A type of objects that say themselves how they are read, written and walked over. -/
structure ObjectType where
  get? : Option (Value → String → Run (Option Value)) := none
  set? : Option (Value → String → Value → Run Unit) := none
  each? : Option (Value → Run (List Value)) := none
  methods : List HostMethod := []

/-- The host program. -/
structure Host where
  /-- the names of the decorators -/
  decorators : List String := []
  functions : String → Option HostFunction := fun _ => none
  records : String → RecordType := fun _ => {}
  objects : String → ObjectType := fun _ => {}

/-- What evaluation depends on. -/
structure Machine where
  host : Host := {}
  /-- renders content that was passed, given its data -/
  content : Nat → Value → Run (List Rendered)
  /-- renders a template from the start, given its data, in a style; faults may end it -/
  render : Template → Value → Style → Bool → Run (List Rendered) := fun _ _ _ _ => return []
  /-- the watched slots of a template with their values for data -/
  watched : Template → Value → Run (List (Nat × Value)) := fun _ _ => return []
  /-- fires an event with arguments -/
  fire : RenderedEvent → List Value → Run Value := fun _ _ => return .undefined
  /-- writes a value through a binding -/
  update : RenderedBinding → Value → Run Unit := fun _ _ => return
  /-- the names of the decorators -/
  decoratorNames : List String := []
  /-- the decorator with a name -/
  decorator? : Formats → String → Option (List Value → Run Value)

namespace Machine

/-- Content that was passed, as text; empty when it cannot be rendered. -/
def contentText (m : Machine) (at_ : Nat) : Run String :=
  tryCatch (do return Rendered.htmlList false (← m.content at_ .undefined)) fun _ => return ""

/-- Sends a value through a decorator of a toolkit. -/
def decorate (m : Machine) (t : Toolkit) (name : String) (args : List Value) : Run Value :=
  let unknown := fun (known : List String) =>
    (Fault.make .unknownDecorator [("Name", name)]).suggesting name known
  match t.formats with
  | none => throw (unknown [])
  | some formats =>
    match m.decorator? formats name with
    | some f => f args
    | none => throw (unknown m.decoratorNames)

end Machine

/-- The type of a value as it is shown in messages. -/
def Value.typeName (h : Host) : Value → String
  | .null => "<nil>"
  | .undefined => "runtime.undefined"
  | .unreachable => "runtime.unreachable"
  | .bool _ => "bool"
  | .number _ => "float64"
  | .single _ => "float32"
  | .whole kind _ => kind.name
  | .measure of _ => of.name
  | .text _ => "string"
  | .raw _ => "runtime.RawHTML"
  | .label type _ => type
  | .list _ => "[]interface \x7b\x7d"
  | .object _ => "map[string]interface \x7b\x7d"
  | .typedList element _ => "[]" ++ element.shown
  | .typedMap key element _ => "map[" ++ key.shown ++ "]" ++ element.shown
  | .record type _ => type
  | .recordRef type _ | .noRecord type => "*" ++ type
  | .host type _ => type
  | .instant _ => "time.Time"
  | .instantRef _ _ => "*time.Time"
  | .clock _ => "*time.Location"
  | .function name => ((h.functions name).map (·.shown)).getD name
  | .action type _ => type
  | .template _ => "*runtime.Template"
  | .content _ => "*runtime.ContentOption"
  | .options _ => "*runtime.optionsScope"
  | .nodes _ => "[]*runtime.VNode"
  | .foreign type => type

end Trellis
