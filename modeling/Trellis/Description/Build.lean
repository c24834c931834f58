/-
Building descriptions from annotated templates.

Every expression that is not a constant gets one slot of the table and is compiled there for each
way it is used.  What a container watches is kept as runs of slots.
-/
import Trellis.Annotated
import Trellis.Description.Source
import Trellis.Eval

namespace Trellis.Description

/-- How a description is built. -/
structure Options where
  module : String
  /-- the decorators that there are, when that is checked -/
  decorators : Option (List String) := none
  /-- constants are computed once -/
  folds : Bool := true

/-- A description under construction. -/
structure Construction where
  arena : Arena
  symbols : Symbols := {}
  bodies : Array Body := #[]
  expressions : Array (Option Expression) := #[]
  watches : Array (List (List Int)) := #[]
  /-- the containers whose watched slots are known -/
  watchers : List (Nat × Option Nat) := []

/-- Building adds to a construction, and may fail. -/
abbrev Build := StateT Construction (Except Fault)

/-- How an expression is used. -/
inductive Use where
  /-- for its value; a `forced` one stays a function -/
  | value (field : String) (forced : Bool)
  /-- as the target of a binding -/
  | bind (field : String)
  /-- as the handler of an event -/
  | event

namespace Build

variable (o : Options)

/-- Work on the containers. -/
def work {β : Type} (w : Container.Work β) : Build β := do
  let d ← get
  match w.run d.arena with
  | (.ok b, arena) =>
    set { d with arena }
    return b
  | (.error f, _) => throw f

/-- Compiles something. -/
def compiled {β : Type} (c : Code.Options → Code.Compile β) : Build β := do
  let d ← get
  match (c { decorators := o.decorators, interned := true }).run d.symbols with
  | (.ok b, symbols) =>
    set { d with symbols }
    return b
  | (.error f, _) => throw f

/-- Gives a fault without a place the place `line`, `column`. -/
def located {β : Type} (line column : Nat) (b : Build β) : Build β :=
  tryCatch b fun f => throw (Annotated.Pass.located line column f)

/-- Adds a body. -/
def addBody (b : Body) : Build Nat :=
  modifyGet fun d => (d.bodies.size, { d with bodies := d.bodies.push b })

/-- The table grown to hold a slot. -/
def grown (table : Array (Option Expression)) (slot : Nat) : Array (Option Expression) :=
  table ++ Array.replicate (slot + 1 - table.size) none

/-- The entry of a slot. -/
def entry? (slot : Nat) : Build (Option Expression) := do return (← get).expressions[slot]?.join

/-- Fills a slot. -/
def fill (slot : Nat) (e : Expression) : Build Unit :=
  modify fun d =>
    { d with expressions := (grown d.expressions slot).setIfInBounds slot (some e) }

/-- The entry of a program that is new in the table. -/
def fresh (p : Program) (f : Code.Fragment) : Expression :=
  { source := p.text, body := f.source, flags := f.flags, program := p }

/-- Compiles a program for a use, given the entry that it has.  The result is the entry that it gets
instead, if that one does not do.  A program that is used in several ways has one entry for all of
them, whose text is that of the first. -/
def entryFor (o : Code.Options) (p : Program) :
    Use → Option Expression → Code.Compile (Option Expression)
  | .value _ _, some _ => return none
  | .value field forced, none => do
    let f ← Code.value o field forced p
    return some { fresh p f with bind := f.binding.isSome, target := f.target }
  | .bind field, old => do
    if old.any (·.bind) then return none
    let f ← Code.bind o field p
    return some { old.getD (fresh p f) with bind := true, target := f.target }
  | .event, old => do
    if old.any (·.event) then return none
    let f ← Code.event o p
    if old.isNone then
      let _ ← Code.value o "" false p
    return some { old.getD (fresh p f) with event := true, handler := f.handler }

/-- Compiles a program for a use and says which slot it has. -/
def slot (use : Use) (p : Program) : Build Nat := do
  let i ← work (do Container.Work.allocate (← Container.Work.intern p))
  let old ← entry? i
  match ← compiled o (entryFor · p use old) with
  | some e => fill i e
  | none => pure ()
  return i

/-- A slot for an expression that stays a function. -/
def forcedSlot (p : Program) : Build Nat := slot o (.value "" true) p

/-- What a container watches. -/
def watch (container : Option Nat) : Build (Option Nat) := do
  match container with
  | none => return none
  | some id =>
    let d ← get
    match d.watchers.find? (·.1 == id) with
    | some (_, known) => return known
    | none =>
      if (d.arena.get? id).isNone then return none
      let slots := (← work (Container.Work.watched id)).map (·.1)
      modifyGet fun d =>
        if slots.isEmpty then (none, { d with watchers := (id, none) :: d.watchers })
        else
          let at_ := d.watches.size
          (some at_, { d with
            watches := d.watches.push (Container.ranges (slots.map Int.ofNat))
            watchers := (id, some at_) :: d.watchers })

/-- The constant that a value is kept as. -/
def constant? : Value → Option Datum
  | .null => some .null
  | .text s => some (.text s)
  | .number x => some (.number x)
  | .bool b => some (.bool b)
  | _ => none

/-- The value of a program that depends on nothing. -/
def folded? (p : Program) : Option Datum :=
  let m : Machine := { content := fun _ _ => return [], decorator? := fun _ _ => none }
  match (Eval.program m {} p).run.run {} with
  | (.ok v, _) => constant? v
  | (.error _, _) => none

/-- An expression inside a text. -/
def exprPart (field : String) (p : Program) : Build Part := do
  let f ← compiled o (Code.value · field false p)
  match if f.constant && o.folds then folded? p else none with
  | some d => return .value d
  | none => return .expr (← slot o (.value field false) p) f.flags.rawText

/-- Text with expressions in it. -/
def parts (field : String) (ss : List Segment) : Build (List Part) :=
  ss.mapM fun s =>
    match s.content with
    | .text value _ => return .text value
    | .translation text context _ _ => return .translation text context
    | .expression _ p => exprPart o field p

/-- An attribute.  At a call, a plain attribute is an option; one that consists of an expression
with a binding mark is a binding. -/
def attrValue (atCall : Bool) (a : Markup.Attribute) : Build AttrValue := do
  match a.kind, a.value with
  | .bind, .program p =>
    let i ← slot o (.bind a.name) p
    return .bind i (← compiled o (Code.bind · a.name p)).binding
  | .event, .program p => return .event (← slot o .event p)
  | kind, .segments ss =>
    if atCall && kind == .plain then
      match Segment.single? ss with
      | some (_, p) =>
        let f ← compiled o (Code.value · a.name false p)
        if f.binding.isSome then return .bind (← slot o (.value a.name false) p) f.binding
      | none => pure ()
      return .option (← parts o a.name ss)
    else return .markup (← parts o a.name ss)
  | _, .program _ => return .markup []

/-- The attributes of an element or a call. -/
def attrs (atCall : Bool) (as : List Markup.Attribute) : Build (List Attr) :=
  as.mapM fun a => do return ⟨a.name, ← located a.line a.column (attrValue o atCall a)⟩

mutual
/-- The value of a typed option. -/
def optionValue (field : String) : Markup.TypedValue → Build OptionValue
  | .scalar type ss => return .scalar type.name (← parts o field ss)
  | .array items => return .array (← optionItems items)
  | .object properties => return .object (← options properties)

def optionItems : List Markup.TypedValue → Build (List OptionSpec)
  | [] => return []
  | v :: vs => return .mk "" (← optionValue "" v) :: (← optionItems vs)

/-- Typed options. -/
def options : List Markup.TypedOption → Build (List OptionSpec)
  | [] => return []
  | .mk _ name v :: os => return .mk name (← optionValue name v) :: (← options os)
end

/-- A slot for a program that may be left out. -/
def optSlot : Option Program → Build (Option Nat)
  | none => return none
  | some p => return some (← forcedSlot o p)

/-- What a component or partial is called with. -/
def call (info : Markup.Meta) (as : List Markup.Attribute) (os : List Markup.TypedOption)
    (cs : Build (List ContentRef)) : Build Call := do
  let attrs ← attrs o true as
  let options ← options o os
  let contents ← cs
  return { attrs, options, contents, watch := ← watch info.container }

mutual
/-- The instruction of a node.  An inline template is a body of its own and has none. -/
def node : Markup.Node → Build (List Instruction)
  | .text info ss => located info.line info.column do
    return [.text info.key (← parts o "" ss)]
  | .element info name as children void => located info.line info.column do
    let as ← attrs o false as
    return [.element info.key name as (← nodes children) void]
  | .component info name as os cs => located info.line info.column do
    return [.component info.key name (← call o info as os (contents cs))]
  | .partialCall info target as os cs => located info.line info.column do
    let target ← match target with
      | .inline name => pure (Target.inline name)
      | .static path => pure (Target.static path)
      | .dynamic p => do pure (Target.dynamic (← forcedSlot o p) "")
    return [.partialCall info.key target (← call o info as os (contents cs))]
  | .template info name children => located info.line info.column do
    let children ← nodes children
    let watch ← watch info.container
    let _ ← addBody { kind := .template, name, children, watch }
    return []
  | .branches info test children others => located info.line info.column do
    let test ← forcedSlot o test
    let children ← nodes children
    let first := Arm.mk (some test) children (← watch info.container)
    return [.branches info.key (first :: (← arms others))]
  | .loop info init test update names children => located info.line info.column do
    let init ← optSlot o init
    let test ← forcedSlot o test
    let update ← optSlot o update
    let children ← nodes children
    return [.loop info.key names init (some test) update children (← watch info.container)]
  | .each info index iterator collection children => located info.line info.column do
    let collection ← forcedSlot o collection
    let children ← nodes children
    return [.each info.key collection index iterator children (← watch info.container)]

/-- The instructions of nodes. -/
def nodes : List Markup.Node → Build (List Instruction)
  | [] => return []
  | n :: ns => return (← node n) ++ (← nodes ns)

/-- The other arms of a condition. -/
def arms : List Markup.Branch → Build (List Arm)
  | [] => return []
  | .mk info test children :: bs => do
    let test ← optSlot o test
    let children ← nodes children
    let arm := Arm.mk test children (← watch info.container)
    return arm :: (← arms bs)

/-- Content that a call passes. -/
def contents : List Markup.Content → Build (List ContentRef)
  | [] => return []
  | .mk info name children :: cs => do
    let children ← nodes children
    let watch ← watch info.container
    let body ← addBody { kind := .content, name, children, watch }
    return ⟨name, body⟩ :: (← contents cs)
end

/-- Compiles the programs of the table that no instruction refers to. -/
def remaining : Build Unit := do
  for s in (← get).arena.table.programs do
    let _ ← slot o (.value "" false) s.program

/-- Builds all bodies; the root stands first. -/
def bodies (ns : List Markup.Node) : Build Unit := do
  let _ ← addBody { kind := .root }
  let children ← nodes o ns
  let watch ← watch (some 0)
  modify fun d => { d with
    bodies := d.bodies.setIfInBounds 0 { kind := .root, children, watch } }
  remaining o

end Build

/-- The description of an annotated template. -/
def ofAnnotated {α : Type} (o : Options) (a : Annotated α) : Except Fault Description := do
  let (_, d) ← (Build.bodies o a.nodes).run { arena := a.arena }
  return {
    module := o.module
    dependencies := a.manifest.paths
    bodies := d.bodies.map fun b => { b with source := b.text }
    reactive := a.reactive
    expressions := d.expressions.filterMap fun e => e
    watches := d.watches
    childNames := a.childNames
    translations := a.manifest.translations.map fun k => (k.text, k.context)
    symbols := d.symbols.values }

end Trellis.Description
