/-
Rendering bodies.

A body is rendered instruction by instruction.  Where one body calls another, a renderer that is
given does the rest, so that everything here follows the instructions down.

While watching, nothing is made: the slots that the containers watch are evaluated, and a loop is
gone through once.  What stands in a loop without steps, or in content that is passed, is gone
through with the names out of scope that only its steps or the call would bind.
-/
import Trellis.Chain
import Trellis.Eval
import Trellis.Html.Sanitize
import Trellis.Container.Basic
import Trellis.Value.Memory
import Trellis.Render.Context
import Trellis.Value.Each

namespace Trellis.Render

open Description

/-- The most steps of a loop with three clauses. -/
def loopLimit : Nat := 100000

/-- The fault of a slot that the table does not have. -/
def noSlot (slot : Int) : Fault :=
  Fault.make .malformedDescription
    [("Reason", "expression " ++ Text.intText slot ++ " out of range")]

/-- The fault of a component or template that nobody knows. -/
def unregistered (name : String) : Fault := Fault.make .unregisteredTemplate [("Name", name)]

/-- The entry of a slot. -/
def expression? (t : Template) (slot : Nat) : Option Expression :=
  t.description.expressions[slot]?

mutual
/-- The value of a constant. -/
def constant : Datum → Run Value
  | .null => return .null
  | .bool b => return .bool b
  | .number x => return .number x
  | .whole n => return .number (Text.wholeFloat n)
  | .text s => return .text s
  | .list items => do Memory.newList (← constants items)
  | .record fields => do Memory.newObject (Fields.ofList (← namedConstants fields))

def constants : List Datum → Run (List Value)
  | [] => return []
  | d :: ds => return (← constant d) :: (← constants ds)

def namedConstants : List (String × Datum) → Run (List (String × Value))
  | [] => return []
  | (name, d) :: ds => return (name, ← constant d) :: (← namedConstants ds)
end

section

variable (w : Workshop) (t : Template) (r : Renderer)

/-- Goes on with `instead` after a fault, unless faults end the rendering. -/
def contain {α : Type} (c : Context) (instead : α) (work : Run α) : Run α :=
  c.contain t.description.module instead work

/-- The value of a slot. -/
def eval (c : Context) (slot : Nat) : Run Value :=
  match expression? t slot with
  | some e => Eval.program r.machine (c.env t.toolkit) e.program
  | none => throw (noSlot slot)

/-- Evaluates the slots that a container watches, while watching.  What once could not be
evaluated stays so. -/
def collect (c : Context) (watch : Option Nat) : Run Unit := do
  if !c.watching then return
  let runs := (watch.bind fun i => t.description.watches[i]?).getD []
  for slot in Container.expand runs do
    let slot := slot.toNat
    let seen := (← get).watched.find? (·.1 == slot)
    unless seen.any fun s => s.2.isUnreachable do
      let v ← tryCatch (eval t r c slot) fun _ => return .unreachable
      modify fun m => { m with watched := (slot, v) :: m.watched.filter (·.1 != slot) }

/-- The value of a part. -/
def part (c : Context) : Part → Run Value
  | .text s => return .text s
  | .value d => constant d
  | .translation text context => return .text (t.toolkit.translate text context)
  | .expr slot _ => contain t c (.text "") (eval t r c slot)
  | .other _ => return .text ""

/-- The value of a text.  A part alone keeps its type; several are put together as text. -/
def parts (c : Context) : List Part → Run Value
  | [p] => part t r c p
  | ps => do
    let texts ← ps.mapM fun p => do (← part t r c p).toText r.machine
    return .text (String.join texts)

/-- Whether a text consists of one trusted expression. -/
def isTrusted : List Part → Bool
  | [.expr _ trusted] => trusted
  | _ => false

/-- The text node of a value.  Markup is cleaned unless it is trusted. -/
def textNode (key : String) (trusted : Bool) : Value → Run (List Rendered)
  | .raw html => return [.text key (if trusted then html else Html.sanitize html) true false]
  | v => do return [.text key (← v.toText r.machine) false false]

/-- A text. -/
def text (c : Context) (key : String) (ps : List Part) : Run (List Rendered) := do
  if c.watching then return []
  textNode r (c.key ++ key) (isTrusted ps) (← parts t r c ps)

/-- An event of a node.  It can be fired, but does not show where its handler was read. -/
def event (c : Context) (name : String) (slot : Nat) : RenderedEvent :=
  let e := expression? t slot
  ⟨name, (e.map (·.source)).getD "", (e.bind (·.handler)).map Handler.bare, c.env t.toolkit⟩

/-- A binding of a call.  It can be written through, but does not show where its target was read. -/
def binding (c : Context) (name : String) (slot : Nat) (b : Option Binding) : RenderedBinding :=
  ⟨b.getD {}, name, ((expression? t slot).bind (·.target)).map Expr.bare, c.env t.toolkit⟩

/-- The attribute that a value stands for on an element: none for nothing and for `false`, its own
name for `true`. -/
def attrText? (name : String) : Value → Run (Option (String × String))
  | .null | .undefined | .bool false => return none
  | .bool true => return some (name, name)
  | v => do return some (name, ← v.toText r.machine)

/-- The attributes and events of an element. -/
def elementAttrs (c : Context) (as : List Attr) :
    Run (List (String × String) × List RenderedEvent) := do
  let found ← as.mapM fun a => do
    match a.value with
    | .event slot => return (none, some (event t c a.name slot))
    | .bind slot _ =>
      let v ← contain t c .null (eval t r c slot)
      if v.isNullish then return (none, none)
      return (some (a.name, ← v.toText r.machine), none)
    | .markup ps | .option ps | .other _ ps =>
      return (← attrText? r a.name (← parts t r c ps), none)
  return (found.filterMap (·.1), found.filterMap (·.2))

mutual
/-- The value of a typed option. -/
def optionValue (c : Context) : OptionValue → Run Value
  | .array items => do Memory.newList ((← options c items).map (·.2))
  | .object properties => do Memory.newObject (Fields.ofList (← options c properties))
  | .scalar type ps => do
    let v ← parts t r c ps
    match type with
    | "String" => return .text (← v.toText r.machine)
    | "Number" => return .number v.toNumber
    | "Boolean" =>
      match v with
      | .text s => return .bool (s == "true")
      | v => return .bool v.truthy
    | _ => return v

/-- Typed options. -/
def options (c : Context) : List OptionSpec → Run (List (String × Value))
  | [] => return []
  | .mk name v :: os => return (name, ← optionValue c v) :: (← options c os)
end

/-- Takes an attribute into a call.  The option `scope` passes all properties of its value. -/
def callAttr (c : Context) (call : ControlCall) (fs : Fields) (a : Attr) :
    Run (ControlCall × Fields) := do
  match a.value with
  | .markup ps =>
    let v ← (← parts t r c ps).toText r.machine
    return ({ call with attrs := call.attrs ++ [(a.name, v)] }, fs)
  | .option ps =>
    let v ← parts t r c ps
    if a.name == "scope" then
      let fs ← (← v.keys r.machine).foldlM (fun fs k => do
        return Fields.insert k (← v.property r.machine.host k) fs) fs
      return (call, fs)
    return (call, Fields.insert a.name v fs)
  | .bind slot b =>
    let v ← contain t c .null (eval t r c slot)
    return ({ call with bindings := call.bindings ++ [binding t c a.name slot b] },
      Fields.insert a.name v fs)
  | .event slot => return ({ call with events := call.events ++ [event t c a.name slot] }, fs)
  | .other _ _ => return (call, fs)

/-- What a component or partial is called with. -/
def callOf (c : Context) (key name : String) (call : Call) : Run ControlCall := do
  let start : ControlCall := { name, key := c.key ++ key, options := 0 }
  let (result, fs) ← call.attrs.foldlM (fun acc a => callAttr t r c acc.1 acc.2 a) (start, [])
  let fs := (← options t r c call.options).foldl (fun fs o => Fields.insert o.1 o.2 fs) fs
  let fs ← call.contents.foldlM (fun fs (ref : ContentRef) => do
    let at_ ← Memory.newContent { name := ref.name, body := ref.body, context := c }
    return Fields.insert ref.name (.content at_) fs) fs
  return { result with options := ← Memory.alloc (.fields fs) }

/-- Renders what is registered under a name. -/
def registered (c : Context) (call : ControlCall) (name : String) :
    Option Component → Fault → Run (List Rendered)
  | none, f => throw f
  | some .other, _ => throw (unregistered name)
  | some (.control control), _ => w.controls control r c call
  | some (.template at_), _ => do
    match (← get).templates[at_]? with
    | some t => r.component c t call.key call.options
    | none => throw (unregistered name)

/-- The registered component with a name. -/
def find? (c : Context) (name : String) : Option Component := c.registry.bind (·.find? name)

/-- The fault of a name that is not registered, with a suggestion for `shown`. -/
def unknown (c : Context) (name shown : String) : Fault :=
  (unregistered name).suggesting shown ((c.registry.map Registry.names).getD [])

/-- A component: rendered in place for text, a node of its own in a tree. -/
def control (c : Context) (call : ControlCall) : Run (List Rendered) := do
  match c.style with
  | .tree =>
    return [.control call.key call.name (← Memory.fields call.options) call.attrs call.bindings
      call.events [] false]
  | .text _ => registered w r c call call.name (find? c call.name) (unknown c call.name call.name)

/-- Renders the partial with a name. -/
def byName (c : Context) (call : ControlCall) (name : String) : Run (List Rendered) :=
  registered w r c call name (find? c name) (unknown c name (Registry.normalize name))

/-- The name of an inline template, a module path, or a slot. -/
def partialBody (c : Context) (call : ControlCall) : Target → Run (List Rendered)
  | .inline name => do
    match if t.isModule then t.description.template? name else none with
    | none => throw (unregistered name)
    | some body =>
      let inner ← c.nested ""
      for f in ← Memory.fields call.options do
        Scope.define inner.scope f.1 f.2
      r.body { inner with key := call.key } body
  | .static name => byName w r c call name
  | .dynamic slot _ => do
    if slot < 0 then throw (noSlot slot)
    match ← eval t r c slot.toNat with
    | .content at_ => r.content at_ (.object call.options)
    | .template at_ =>
      match (← get).templates[at_]? with
      | some t => r.component c t call.key call.options
      | none => return []
    | .text name => byName w r c call name
    | v => throw (unregistered (← v.toText r.machine))

/-- Goes through the content that a call passes, while watching. -/
def watchContents (c : Context) (call : Call) : Run Unit := do
  for ref in call.contents do
    let inner ← c.nested ""
    Scope.poison inner.scope [ref.name]
    let _ ← r.body inner ref.body

/-- A call: `render` makes what is called. -/
def calling (c : Context) (key name : String) (call : Call)
    (render : ControlCall → Run (List Rendered)) : Run (List Rendered) := do
  if c.watching then
    collect t r c call.watch
    watchContents r c call
    return []
  let made ← callOf t r c key name call
  contain t c [] (render made)

/-- The steps of a loop with three clauses.  `body` renders one of them; what it made stands in
`made`, the last first. -/
def steps (c loop : Context) (test update : Run Bool) (body : Context → Run (List Rendered)) :
    Nat → Nat → List (List Rendered) → Run (List (List Rendered))
  | 0, _, _ =>
    throw (Chain.misplaced ("for loop exceeded " ++ Text.natText loopLimit ++ " iterations"))
  | left + 1, done, made => do
    if !(← tryTest) then return made
    let inner ← loop.nested (Text.natText done)
    let nodes ← body inner
    if c.watching then return nodes :: made
    if !(← tryUpdate) then return nodes :: made
    steps c loop test update body left (done + 1) (nodes :: made)
where
  /-- Whether there is another step; a fault that does not end the rendering ends the loop. -/
  tryTest : Run Bool := if c.watching then tryCatch test fun _ =>
    return false else contain t c false test
  /-- Whether the loop goes on after a step. -/
  tryUpdate : Run Bool := contain t c false update

/-- Goes once through what stands in a loop that has no steps, its names out of scope. -/
def withoutSteps (c : Context) (names : List String) (body : Context → Run (List Rendered)) :
    Run (List Rendered) := do
  let inner ← c.nested ""
  Scope.poison inner.scope names
  let _ ← body inner
  return []

/-- What a loop made, put together. -/
def loopNodes (made : List (List Rendered)) : List Rendered := made.reverse.flatten.map (·.inLoop)

/-- The value of a clause of a loop; one that is left out holds. -/
def clause (c : Context) : Option Nat → Run Value
  | none => return .bool true
  | some slot => eval t r c slot

/-- A loop with three clauses. -/
def loop (c : Context) (names : List String) (init test update : Option Nat)
    (body : Context → Run (List Rendered)) : Run (List Rendered) := do
  let inner ← c.nested ""
  for name in names do
    Scope.define inner.scope name .undefined
  let start := do
    let _ ← clause t r inner init
    return true
  let started ← if c.watching then tryCatch start fun _ => return false else contain t c false start
  let made ←
    if started then
      steps t c inner (do return (← clause t r inner test).truthy)
        (do let _ ← clause t r inner update; return true) body loopLimit 0 []
    else pure []
  if c.watching && made.isEmpty then withoutSteps inner names body
  else return loopNodes made

/-- A loop over a collection. -/
def each (c : Context) (collection : Nat) (index iterator : String)
    (body : Context → Run (List Rendered)) : Run (List Rendered) := do
  let found ← if c.watching then tryCatch (return some (← eval t r c collection)) fun _ =>
      return some .null
    else contain t c none (do return some (← eval t r c collection))
  match found with
  | none => return []
  | some v =>
    let made ← v.walk r.machine [] fun made key element => do
      let inner ← c.nested (← key.toText r.machine)
      Scope.define inner.scope iterator element
      if !index.isEmpty then Scope.define inner.scope index key
      let nodes ← body inner
      return (nodes :: made, !c.watching)
    if c.watching && made.isEmpty then
      withoutSteps c (if index.isEmpty then [iterator] else [iterator, index]) body
    else return loopNodes made

/-- The test of an arm.  Outside of watching, a fault that does not end the rendering counts as
false. -/
def test (c : Context) (slot : Nat) : Run (Except Fault Value) :=
  tryCatch (do
    let v ← if c.watching then eval t r c slot else contain t c (.bool false) (eval t r c slot)
    return .ok v) fun f => return .error f

/-- Runs an arm of a condition. -/
def arm (c : Context) (first : Bool) (slot : Option Nat) (body : Run (List Rendered))
    (chain : Chain Rendered) : Run (Chain Rendered) := do
  let body : Run (Except Fault (List Rendered)) := do return .ok (← body)
  let (chain, f) ← match first, slot with
    | true, slot => chain.«if» (slot.map (test t r c)) body
    | false, none => chain.«else» body
    | false, some slot => chain.elif (some (test t r c slot)) body
  match f with
  | some f => throw f
  | none => return chain

mutual
/-- Renders an instruction. -/
def instruction (c : Context) : Instruction → Run (List Rendered)
  | .text key ps => text t r c key ps
  | .element key name as children _ => do
    if c.watching then
      let _ ← instructions c children
      return []
    let (attrs, events) ← elementAttrs t r c as
    let children ← instructions c children
    let events := if c.style == .tree then events else []
    return [.element (c.key ++ key) name attrs events children false]
  | .component key name call => calling t r c key name call (control w r c)
  | .partialCall key target call =>
    let name := match target with
      | .inline name | .static name | .dynamic _ name => name
    calling t r c key name call fun made => partialBody w t r c made target
  | .branches _ as => do
    let chain : Chain Rendered := { controller := if c.watching then .watching else .standard }
    match (← arms c true chain as).fi [] with
    | (_, .ok nodes) => return nodes
    | (_, .error f) => throw f
  | .loop _ names init test update children watch =>
    loop t r c names init test update fun inner => do
      collect t r inner watch
      instructions inner children
  | .each _ collection index iterator children watch =>
    each t r c collection index iterator fun inner => do
      collect t r inner watch
      instructions inner children
  | .unknown op => throw (Fault.make .unknownNode [("Type", op)])

/-- Renders instructions. -/
def instructions (c : Context) : List Instruction → Run (List Rendered)
  | [] => return []
  | i :: is => return (← instruction c i) ++ (← instructions c is)

/-- Runs the arms of a condition. -/
def arms (c : Context) (first : Bool) (chain : Chain Rendered) :
    List Arm → Run (Chain Rendered)
  | [] => return chain
  | .mk slot children watch :: as => do
    let chain ← arm t r c first slot (do
      collect t r c watch
      instructions c children) chain
    arms c false chain as
end

/-- Renders a body of the template of a context. -/
def body (c : Context) (at_ : Nat) : Run (List Rendered) := do
  match t.description.bodies[at_]? with
  | none => return []
  | some b =>
    collect t r c b.watch
    instructions w t r c b.children

end

end Trellis.Render
