/-
Memory: what values refer to, the scopes of names, what expressions may call on, and what was
logged.

Work on memory may fail; what it did before it failed stays done.
-/
import Trellis.Description.Basic
import Trellis.Locale.Numbers
import Trellis.Locale.Dates
import Trellis.Moment
import Trellis.Text.Search
import Trellis.Value.Basic

namespace Trellis

/-! ### What expressions may call on: decorators, translations and resources -/

/-- How numbers, money and dates are written. -/
structure Formats where
  tag : Locale.Tag
  /-- the language of dates -/
  dates : Locale.DateLanguage
  /-- the currency of amounts that name none -/
  currency : Locale.Currency
  /-- the time zone in which dates are told -/
  zone : Locale.Zone := {}

/-- What a template can call on. -/
structure Toolkit where
  /-- the standard decorators, when they are there -/
  formats : Option Formats := none
  /-- the translation of a text in a context -/
  translate : String → String → String := fun text _ => text
  /-- where resources are -/
  resourceRoot : String := ""
  /-- what is logged for debugging is kept -/
  logs : Bool := false

namespace Toolkit

/-- The path without empty and `.` steps, `..` taking the step before it away. -/
def cleanPath (path : String) : String :=
  let steps := (Text.splitOnChar path '/').foldl (fun (acc : List String) step =>
    if step.isEmpty || step == "." then acc
    else if step == ".." then acc.drop 1
    else step :: acc) []
  "/" ++ "/".intercalate steps.reverse

/-- Where a resource is.  Full addresses stay as they are. -/
def resource (t : Toolkit) (path : String) : String :=
  if Text.hasPiece path "://" || Text.startsWith path "//" || t.resourceRoot.isEmpty then path
  else Text.dropBack t.resourceRoot "/" ++ cleanPath path

end Toolkit

/-! ### Memory -/

/-- A scope of names.  What it does not bind is looked up in its parent; a scope without parent
has data whose properties are names too. -/
structure Scope where
  parent : Option Nat := none
  vars : Fields := []
  /-- names that must not be read here -/
  poisoned : List String := []
  data : Value := .null

instance : Inhabited Scope := ⟨{}⟩

/-- What an expression is evaluated in. -/
structure Env where
  scope : Option Nat := none
  /-- the value of `this` -/
  self : Value := .null
  /-- what bare functions are called on -/
  caller : Value := .null
  /-- the data of the ambient contexts, the nearest first -/
  ambient : List (Option Nat) := []
  /-- the named children -/
  children : Option Nat := none
  toolkit : Toolkit := {}

/-- A template that can be rendered: a body of a description. -/
structure Template where
  description : Description
  body : Nat
  /-- empty for the template of a module -/
  name : String := ""
  toolkit : Toolkit := {}
  isModule : Bool := false
  isStable : Bool := true

instance : Inhabited Template := ⟨{ description := { module := "" }, body := 0 }⟩

/-- What is registered under a name. -/
inductive Component where
  | template (at_ : Nat)
  /-- a control of the host -/
  | control (name : String)
  | other

/-- Components by name, in the order of their names. -/
abbrev Registry := List (String × Component)

/-- How output is made. -/
inductive Style where
  /-- as nodes; components stay in them -/
  | tree
  /-- as text; components are rendered in place.  A `keyed` text shows the keys of elements. -/
  | text (keyed : Bool)
deriving DecidableEq, Repr

/-- What a context renders. -/
inductive Subject where
  /-- the template that the rendering was started with -/
  | start
  /-- a template that was kept; while `watching`, only what is watched is evaluated -/
  | kept (t : Template) (watching : Bool)

/-- The state of one rendering. -/
structure Context where
  subject : Subject := .start
  key : String := ""
  scope : Nat
  self : Value := .null
  /-- the component that owns the rendering -/
  controller : Value := .null
  ambient : List (Option Nat) := []
  children : Option Nat := none
  style : Style := .tree
  registry : Option Registry := none
  /-- faults end the rendering -/
  throws : Bool := true
  /-- faults are logged -/
  logs : Bool := false

/-- Content that a call was given, to be rendered where it was written. -/
structure ContentOption where
  name : String
  body : Nat
  context : Context

/-- An event of a rendered node. -/
structure RenderedEvent where
  name : String
  /-- the text of the expression -/
  source : String
  handler : Option Handler
  env : Env

/-- A binding of a rendered node. -/
structure RenderedBinding where
  binding : Binding
  name : String
  target : Option Expr
  env : Env

/-- A rendered node.  `loop` marks what a loop made. -/
inductive Rendered where
  | text (key text : String) (raw loop : Bool)
  | element (key tag : String) (attrs : List (String × String)) (events : List RenderedEvent)
    (children : List Rendered) (loop : Bool)
  | control (key name : String) (options : Fields) (attrs : List (String × String))
    (bindings : List RenderedBinding) (events : List RenderedEvent) (children : List Rendered)
    (loop : Bool)

instance : Inhabited Rendered := ⟨.text "" "" false false⟩

/-- A function that the library hands out. -/
inductive Action where
  /-- a decorator of a template, by where the template is kept -/
  | decorator (template : Nat) (name : String)
  /-- fires an event -/
  | fire (e : RenderedEvent)
  /-- writes through a binding -/
  | update (b : RenderedBinding)

/-- What shows parts of itself as records. -/
inductive Sitter where
  /-- a template, by where it is kept -/
  | description (template : Nat)
  | methods (template : Nat)
  | templates (template : Nat)
  /-- rendered nodes, by where they are kept -/
  | nodes (at_ : Nat)
deriving DecidableEq, Repr

/-- All that values refer to. -/
structure Memory where
  cells : Array Cell := #[]
  scopes : Array Scope := #[]
  templates : Array Template := #[]
  contents : Array ContentOption := #[]
  rendered : Array (List Rendered) := #[]
  actions : Array Action := #[]
  /-- what was made to show parts of templates and nodes -/
  portraits : List (Sitter × Value) := []
  /-- the lines that were logged -/
  log : Array String := #[]
  /-- the values of watched slots -/
  watched : List (Nat × Value) := []

instance : Inhabited Memory := ⟨{}⟩

/-- Work on memory. -/
abbrev Run := ExceptT Fault (StateM Memory)

namespace Memory

/-- Keeps a cell and says where. -/
def alloc (c : Cell) : Run Nat :=
  modifyGet fun m => (m.cells.size, { m with cells := m.cells.push c })

/-- What is kept somewhere. -/
def cell? (at_ : Nat) : Run (Option Cell) := do return (← get).cells[at_]?

/-- Replaces what is kept somewhere. -/
def put (at_ : Nat) (c : Cell) : Run Unit :=
  modify fun m => { m with cells := m.cells.setIfInBounds at_ c }

/-- The elements of a list. -/
def items (at_ : Nat) : Run (Array Value) := do
  match ← cell? at_ with
  | some (.items xs) => return xs
  | _ => return #[]

/-- The fields of an object or a record. -/
def fields (at_ : Nat) : Run Fields := do
  match ← cell? at_ with
  | some (.fields fs) => return fs
  | _ => return []

/-- The entries of a typed map. -/
def entries (at_ : Nat) : Run (List (Value × Value)) := do
  match ← cell? at_ with
  | some (.entries es) => return es
  | _ => return []

/-- What a host's object holds. -/
def inner (at_ : Nat) : Run Value := do
  match ← cell? at_ with
  | some (.inner v) => return v
  | _ => return .undefined

/-- A new list. -/
def newList (xs : List Value) : Run Value := do return .list (← alloc (.items xs.toArray))

/-- A new object. -/
def newObject (fs : Fields) : Run Value := do return .object (← alloc (.fields fs))

/-- Writes a line to the log. -/
def logLine (line : String) : Run Unit := modify fun m => { m with log := m.log.push line }

/-- A scope by its number. -/
def scope (at_ : Nat) : Run Scope := do return (← get).scopes[at_]?.getD {}

/-- A new scope. -/
def newScope (s : Scope) : Run Nat :=
  modifyGet fun m => (m.scopes.size, { m with scopes := m.scopes.push s })

/-- Changes a scope. -/
def updateScope (at_ : Nat) (f : Scope → Scope) : Run Unit :=
  modify fun m => { m with scopes := m.scopes.modify at_ f }

/-- Keeps a template. -/
def newTemplate (t : Template) : Run Nat :=
  modifyGet fun m => (m.templates.size, { m with templates := m.templates.push t })

/-- Keeps content that was passed. -/
def newContent (c : ContentOption) : Run Nat :=
  modifyGet fun m => (m.contents.size, { m with contents := m.contents.push c })

/-- Contents that belong to the template that a rendering was started with keep that template. -/
def settle (t : Template) : Run Unit :=
  modify fun m => { m with
    contents := m.contents.map fun c =>
      match c.context.subject with
      | .start => { c with context := { c.context with subject := .kept t false } }
      | .kept _ _ => c }

/-- Keeps rendered nodes. -/
def newNodes (ns : List Rendered) : Run Nat :=
  modifyGet fun m => (m.rendered.size, { m with rendered := m.rendered.push ns })

/-- Keeps a function. -/
def newAction (a : Action) : Run Nat :=
  modifyGet fun m => (m.actions.size, { m with actions := m.actions.push a })

end Memory

end Trellis

/-! Documents as values. -/

namespace Trellis.Memory

mutual
/-- Keeps a document as a value; of several fields with one name the last counts. -/
def ofDatum : Datum → Run Value
  | .null => return .null
  | .bool b => return .bool b
  | .number x => return .number x
  | .whole n => return .number (Text.wholeFloat n)
  | .text s => return .text s
  | .list items => do newList (← ofItems items)
  | .record fields => do newObject (Fields.ofList (← ofFields fields))

def ofItems : List Datum → Run (List Value)
  | [] => return []
  | d :: ds => do
    let v ← ofDatum d
    return v :: (← ofItems ds)

def ofFields : List (String × Datum) → Run Fields
  | [] => return []
  | (name, d) :: fields => do
    let v ← ofDatum d
    return (name, v) :: (← ofFields fields)
end

end Trellis.Memory

/-!
Components by name.

A name may be written with the mark of the module loader in front and with dots between its
steps; all such spellings are one name.
-/

namespace Trellis.Registry

/-- The mark of the module loader. -/
def loaderMark : String := "wml!"

/-- The one spelling of a name. -/
def normalize (name : String) : String :=
  (Text.dropFront name loaderMark).map fun c => if c == '.' then '/' else c

/-- Registers a component under a name, in the order of the names. -/
def register (name : String) (c : Component) (r : Registry) : Registry :=
  insert (normalize name) r
where
  insert (name : String) : Registry → Registry
    | [] => [(name, c)]
    | e :: es =>
      if e.1 == name then (name, c) :: es
      else if name < e.1 then (name, c) :: e :: es
      else e :: insert name es

/-- The component under a name. -/
def find? (r : Registry) (name : String) : Option Component :=
  (List.find? (·.1 == normalize name) r).map (·.2)

/-- The registered names, in order. -/
def names (r : Registry) : List String := r.map (·.1)

end Trellis.Registry
