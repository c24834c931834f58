/-
The state of one rendering, what a rendering is started with, and the components that the host
implements.
-/
import Trellis.Decorate.Standard
import Trellis.Scope
import Trellis.Value.Machine

namespace Trellis

namespace Context

/-- The context of a nested construct.  A `step` that is not empty is added to the key, so that
siblings have different keys. -/
def spawn (c : Context) (step : String) : Context :=
  if step.isEmpty then c else { c with key := c.key ++ step ++ "_" }

/-- What bare functions are called on: the controller, or else the data. -/
def caller (c : Context) : Value :=
  match c.controller with
  | .null => c.self
  | v => v

/-- Whether only what is watched is evaluated. -/
def watching (c : Context) : Bool :=
  match c.subject with
  | .start => false
  | .kept _ watching => watching

/-- The template that a context renders, in a rendering that was started with a template. -/
def template (c : Context) (start : Template) : Template :=
  match c.subject with
  | .start => start
  | .kept t _ => t

/-- What the expressions of a context are evaluated in. -/
def env (c : Context) (toolkit : Toolkit) : Env where
  scope := some c.scope
  self := c.self
  caller := c.caller
  ambient := c.ambient
  children := c.children
  toolkit

/-- A nested context with a scope of its own. -/
def nested (c : Context) (step : String) : Run Context := do
  return { c.spawn step with scope := ← Scope.child c.scope }

/-- The fault in a module is logged, where faults are. -/
def report (c : Context) (module : String) (f : Fault) : Run Unit :=
  if c.logs then Memory.logLine ("template error: " ++ module ++ " " ++ f.text)
  else return

/-- Goes on with `instead` after a fault in a module, unless faults end the rendering. -/
def contain {α : Type} (c : Context) (module : String) (instead : α) (work : Run α) : Run α :=
  tryCatch work fun f => do
    if c.throws then throw f
    c.report module f
    return instead

end Context

/-- What a component renders as part of: the context around it. -/
structure Surroundings where
  key : String := ""
  /-- what bare functions are called on there -/
  caller : Value := .null
  ambient : List (Option Nat) := []
  children : Option Nat := none

/-- The surroundings that a context gives. -/
def Context.surroundings (c : Context) : Surroundings := ⟨c.key, c.caller, c.ambient, c.children⟩

/-- What a rendering is started with. -/
structure Invocation where
  data : Value := .null
  parent : Option Surroundings := none
  style : Style := .tree
  registry : Option Registry := none
  /-- the data of the ambient context -/
  ambient : Option Nat := none
  controller : Value := .null
  throws : Bool := true
  logs : Bool := false

/-- Data that shows itself under `_options`, unless it has such a name already. -/
def Value.withOptions (data : Value) : Run Value := do
  match data with
  | .object at_ =>
    match (← Memory.fields at_).get? "_options" with
    | some _ => return data
    | none => return .options at_
  | _ => return data

/-- The context that an invocation starts in. -/
def Invocation.context (i : Invocation) (subject : Subject) : Run Context := do
  let scope ← Memory.newScope { data := ← i.data.withOptions }
  let start : Context := {
    subject, scope, self := i.data, controller := i.controller, ambient := [i.ambient]
    style := i.style, registry := i.registry, throws := i.throws, logs := i.logs }
  match i.parent with
  | none => return start
  | some p =>
    return { start with
      key := p.key
      controller := match i.controller with
        | .null => p.caller
        | v => v
      ambient := (i.ambient <|> p.ambient.head?.join) :: p.ambient
      children := p.children }

/-- All that the call of a component passes. -/
structure ControlCall where
  name : String
  key : String
  /-- where the options are kept -/
  options : Nat
  attrs : List (String × String) := []
  bindings : List RenderedBinding := []
  events : List RenderedEvent := []

/-- The means to render. -/
structure Renderer where
  machine : Machine
  /-- renders a body of what a context renders -/
  body : Context → Nat → Run (List Rendered)

/-- A component of the host. -/
abbrev Control := Renderer → Context → ControlCall → Run (List Rendered)

/-- What the host brings along. -/
structure Workshop where
  host : Host := {}
  controls : String → Control := fun _ _ _ _ => return []
  /-- the names of the decorators -/
  decoratorNames : List String := StandardDecorator.names
  /-- the decorator with a name, given a machine without decorators -/
  decorator? : Machine → Formats → String → Option (List Value → Run Value) :=
    StandardDecorator.find?
  /-- how deep the bodies may be that a body calls -/
  depth : Nat := 999

namespace Renderer

/-- Renders content that was passed: in the scope it was written in, with data under its name. -/
def content (r : Renderer) (at_ : Nat) (data : Value) : Run (List Rendered) := do
  match (← get).contents[at_]? with
  | none => return []
  | some c =>
    let inner ← c.context.nested ""
    Scope.define inner.scope c.name data
    r.body inner c.body

/-- Renders a template as a component: its data are the options of the call. -/
def component (r : Renderer) (c : Context) (t : Template) (key : String) (options : Nat) :
    Run (List Rendered) := do
  let scope ← Memory.newScope { data := ← (Value.object options).withOptions }
  r.body { c with subject := .kept t c.watching, key, scope } t.body

/-- Renders a template from the start.  A fault that does not end the rendering leaves an empty
text. -/
def invoke (r : Renderer) (t : Template) (i : Invocation) : Run (List Rendered) := do
  let c ← i.context (.kept t false)
  c.contain t.description.module [.text c.key "" false false] (r.body c t.body)

/-- Renders a template from the start in a style; nothing but its data is known. -/
def render (r : Renderer) (t : Template) (data : Value) (style : Style) (throws : Bool) :
    Run (List Rendered) :=
  r.invoke t { data, style, throws }

/-- The watched slots of a template with their values for data, in the order of the slots.  What
cannot be evaluated is marked. -/
def watchedSlots (r : Renderer) (t : Template) (data : Value) : Run (List (Nat × Value)) := do
  let before := (← get).watched
  modify fun m => { m with watched := [] }
  let c ← Invocation.context { data, throws := false } (.kept t true)
  tryCatch (do let _ ← r.body c t.body) fun _ => return
  let found := (← get).watched
  modify fun m => { m with watched := before }
  return found.mergeSort fun a b => a.1 ≤ b.1

end Renderer

end Trellis
