/-
Annotated templates: the nodes with the containers they belong to, and what was learned on the
way.

Every expression is registered in the container it stands in.  Inline templates are attached to
the calls of them at the end, so that a template may be defined after it is called.
-/
import Trellis.Container.Basic
import Trellis.Fault.Closest
import Trellis.Manifest
import Trellis.Markup.Node

namespace Trellis

open Markup Container

/-- A call of an inline template that waits to be attached. -/
structure PendingCall where
  template : String
  line : Nat
  column : Nat
  call : Nat
  options : List String

/-- A template with its containers. -/
structure Annotated (α : Type) where
  nodes : List Markup.Node := []
  arena : Arena := Arena.start
  manifest : Manifest α := {}
  /-- the fixed `name` attributes of elements and components -/
  childNames : List String := []
  /-- the containers of the inline templates, in the order of definition -/
  templates : List (String × Nat) := []
  calls : List PendingCall := []

namespace Annotated

variable {α : Type}

/-- The reactive names of the template. -/
def reactive (a : Annotated α) : List String := ((a.arena.get? 0).map (·.reactive)).getD []

/-- Annotation works on what is known so far, and may fail. -/
abbrev Pass (α : Type) := StateT (Annotated α) (Except Fault)

namespace Pass

/-- Work on the containers. -/
def work {β : Type} (w : Work β) : Pass α β := do
  let a ← get
  match w.run a.arena with
  | (.ok b, arena) =>
    set { a with arena }
    return b
  | (.error f, _) => throw f

/-- Changes what the template asks for. -/
def ask (f : Manifest α → Manifest α) : Pass α Unit :=
  modify fun a => { a with manifest := f a.manifest }

/-- The stored program for a program. -/
def intern (p : Program) : Pass α Program := do return (← work (Work.intern p)).program

/-- Gives a fault without a place the place `line`, `column`. -/
def located (line column : Nat) (f : Fault) : Fault :=
  if f.line == 0 && line > 0 then f.moved line column else f

/-- Registers a program in a container; a fault is placed at `line`, `column`. -/
def program (p : Program) (c : Nat) (role : Role) (line column : Nat) : Pass α Unit := do
  if (Trellis.Node.program p).callsTranslation then ask fun m => { m with translates := true }
  let a ← get
  match (Work.register c p role).run a.arena with
  | (.ok _, arena) => set { a with arena }
  | (.error f, _) => throw (located line column f)

/-- Registers the expressions and translations of segments. -/
def segments (module : String) (c : Nat) (role : Role) (line column : Nat) (ss : List Segment) :
    Pass α (List Segment) :=
  ss.mapM fun s =>
    match s.content with
    | .text _ _ => return s
    | .expression source p => do
      let p ← intern p
      program p c role line column
      return { s with content := .expression source p }
    | .translation text context _ _ => do
      ask fun m => { m.translate ⟨"text", module, text, context⟩ with translates := true }
      return s

/-- Records the name of a child. -/
def childName (name : String) : Pass α Unit :=
  modify fun a =>
    if name.isEmpty || a.childNames.contains name then a
    else { a with childNames := a.childNames ++ [name] }

/-- The role of an attribute with segments.  At a call, plain values are options of what is
called. -/
def attrRole (call : Bool) (a : Attribute) : Role :=
  if !call then .simple
  else if a.name == "scope" && a.kind == .plain then .scope
  else .attribute

/-- Registers the attributes of an element or a call. -/
def attributes (module : String) (c : Nat) (call : Bool) (attrs : List Attribute) :
    Pass α (List Attribute) :=
  attrs.mapM fun a =>
    match a.value with
    | .program p => do
      let p ← intern p
      program p c (if a.kind = .bind then .bind else .event) a.line a.column
      return { a with value := .program p }
    | .segments ss => do
      if a.name == "name" && Segment.isStatic ss then childName (Segment.join ss)
      let ss ← segments module c (attrRole call a) a.line a.column ss
      return { a with value := .segments ss }

mutual
/-- Registers a typed value. -/
def value (module : String) (c : Nat) : TypedValue → Pass α TypedValue
  | .scalar type ss => return .scalar type (← segments module c .option 0 0 ss)
  | .array items => return .array (← values module c items)
  | .object properties => return .object (← options module c properties)

def values (module : String) (c : Nat) : List TypedValue → Pass α (List TypedValue)
  | [] => return []
  | v :: vs => return (← value module c v) :: (← values module c vs)

/-- Registers typed options. -/
def options (module : String) (c : Nat) : List TypedOption → Pass α (List TypedOption)
  | [] => return []
  | .mk info name v :: os =>
    return .mk { info with container := some c } name (← value module c v) ::
      (← options module c os)
end

/-- The names that a call of an inline template binds.  An option that passes on a name under the
same name still means the outer value and is left out. -/
def passedOptions (attrs : List Attribute) (options : List TypedOption) (contents : List Content) :
    List String :=
  let passed := attrs.filter fun a =>
    a.kind == .plain &&
      match a.value with
      | .program _ => true
      | .segments ss =>
        match (Segment.single? ss).bind (·.2.single?) with
        | some (.ident _ name) => name != a.name
        | _ => true
  passed.map (·.name) ++ options.map (·.name) ++ contents.map (·.name)

mutual
/-- Marks the top nodes of a body.  Branches and loops make no markup of their own, so what stands
in them is marked too. -/
def markRoot : Markup.Node → Markup.Node
  | .text info ss => .text { info with root := true } ss
  | .element info name attrs children void =>
    .element { info with root := true } name attrs children void
  | .component info name attrs os cs => .component { info with root := true } name attrs os cs
  | .partialCall info target attrs os cs =>
    .partialCall { info with root := true } target attrs os cs
  | .template info name children => .template { info with root := true } name children
  | .branches info test children others =>
    .branches { info with root := true } test (markRoots children) (markBranches others)
  | .loop info init test update names children =>
    .loop { info with root := true } init test update names (markRoots children)
  | .each info index iterator collection children =>
    .each { info with root := true } index iterator collection (markRoots children)

def markRoots : List Markup.Node → List Markup.Node
  | [] => []
  | n :: ns => markRoot n :: markRoots ns

def markBranches : List Branch → List Branch
  | [] => []
  | .mk info test children :: bs =>
    .mk { info with root := true } test (markRoots children) :: markBranches bs
end

/-- Registers an optional program of a loop. -/
def clause (p : Option Program) (c line column : Nat) : Pass α (Option Program) :=
  match p with
  | none => return none
  | some p => do
    let p ← intern p
    program p c .iterator line column
    return some p

mutual
/-- Registers a node that stands in container `c`. -/
def node (module : String) (c : Nat) : Markup.Node → Pass α Markup.Node
  | .text info ss =>
    return .text { info with container := some c } (← segments module c .simple 0 0 ss)
  | .element info name attrs children void => do
    let attrs ← attributes module c false attrs
    return .element { info with container := some c } name attrs (← nodes module c children) void
  | .component info name attrs os cs => do
    ask (·.require name)
    let call ← work (Work.spawn c .component name)
    let attrs ← attributes module call true attrs
    let os ← options module call os
    return .component { info with container := some call } name attrs os (← contents module call cs)
  | .partialCall info target attrs os cs => do
    let name := match target with
      | .inline name => name
      | .static path => path
      | .dynamic _ => ""
    let call ← work (Work.spawn c .component name)
    let target ← match target with
      | .inline name => do
        modify fun a => { a with calls := a.calls ++
          [⟨name, info.line, info.column, call, passedOptions attrs os cs⟩] }
        pure target
      | .static path => do
        ask (·.require path)
        pure target
      | .dynamic p => do
        let p ← intern p
        program p call .scope info.line info.column
        pure (PartialTarget.dynamic p)
    let attrs ← attributes module call true attrs
    let os ← options module call os
    return .partialCall { info with container := some call } target attrs os
      (← contents module call cs)
  | .template info name children => do
    let a ← get
    match a.manifest.define name info.line info.column with
    | .error f => throw f
    | .ok manifest => set { a with manifest }
    let t ← work (Work.spawn c .template name)
    modify fun a => { a with templates := a.templates ++ [(name, t)] }
    let children ← nodes module t children
    return .template { info with container := some t } name (markRoots children)
  | .branches info test children others => do
    let test ← intern test
    program test c .simple info.line info.column
    let branch ← work (Work.spawn c .conditional "")
    let children ← nodes module branch children
    return .branches { info with container := some branch } test children
      (← branches module c others)
  | .loop info init test update names children => do
    let loop ← work (Work.spawn c .cycle "")
    work (Work.update loop (·.isolate names))
    let init ← clause init loop info.line info.column
    let test ← intern test
    program test loop .iterator info.line info.column
    let update ← clause update loop info.line info.column
    return .loop { info with container := some loop } init test update names
      (← nodes module loop children)
  | .each info index iterator collection children => do
    let loop ← work (Work.spawn c .cycle "")
    work (Work.update loop (·.isolate (eachNames index iterator)))
    let collection ← intern collection
    program collection loop .iterator info.line info.column
    return .each { info with container := some loop } index iterator collection
      (← nodes module loop children)

def nodes (module : String) (c : Nat) : List Markup.Node → Pass α (List Markup.Node)
  | [] => return []
  | n :: ns => return (← node module c n) :: (← nodes module c ns)

/-- Registers the other branches of a condition. -/
def branches (module : String) (c : Nat) : List Branch → Pass α (List Branch)
  | [] => return []
  | .mk info test children :: bs => do
    let test ← match test with
      | none => pure none
      | some p => do
        let p ← intern p
        program p c .simple info.line info.column
        pure (some p)
    let branch ← work (Work.spawn c .conditional "")
    let children ← nodes module branch children
    return .mk { info with container := some branch } test children :: (← branches module c bs)

/-- Registers what a call passes as content. -/
def contents (module : String) (call : Nat) : List Content → Pass α (List Content)
  | [] => return []
  | .mk info name children :: cs => do
    let content ← work (Work.spawn call .contentOption name)
    work (Work.update content (·.isolate [name]))
    let children ← nodes module content children
    return .mk { info with container := some content } name (markRoots children) ::
      (← contents module call cs)
end

/-- Attaches an inline template to a call of it. -/
def attach (call : PendingCall) : Pass α Unit := do
  let a ← get
  match a.templates.find? (·.1 == call.template) with
  | none =>
    throw ((((Fault.make .undefinedTemplate [("Name", call.template)]).moved call.line
      call.column).suggesting call.template (a.templates.map (·.1))))
  | some (_, t) => work (Work.attach call.call t call.options)

/-- Annotates the nodes of a template. -/
def template (module : String) (ns : List Markup.Node) : Pass α Unit := do
  let ns ← nodes module 0 ns
  modify fun a => { a with nodes := markRoots ns }
  (← get).calls.forM attach

end Pass

/-- Annotates a template, whose module names its translations. -/
def ofNodes (module : String) (ns : List Markup.Node) : Except Fault (Annotated α) :=
  ((Pass.template module ns).run {}).map (·.2)

end Annotated

end Trellis
