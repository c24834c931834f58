/-
Compiled programs in their three uses: as a value, as the target of a binding, as the handler of
an event.
-/
import Trellis.Code.Piece

namespace Trellis

/-- What a binding is about. -/
structure Binding where
  /-- the attribute or option that is bound -/
  field : String := ""
  /-- the place that is bound, as it is written -/
  target : String := ""
  /-- the steps of a fixed path after its root -/
  path : Option (List String) := none
  oneWay : Bool := false
  direction : String := ""
  hasDefault : Bool := false
deriving DecidableEq, Repr

/-- What an event calls: a method by its name, of an owner or else of the caller, with arguments
after those of the event. -/
structure Handler where
  name : String
  owner : Option Expr := none
  args : List Expr := []

/-- What an event calls, without places. -/
def Handler.bare (h : Handler) : Handler :=
  { h with owner := h.owner.map Expr.bare, args := Expr.bareList h.args }

namespace Code

/-- A compiled program. -/
structure Fragment where
  body : String
  flags : Flags
  /-- it is kept as a function whatever it depends on -/
  forced : Bool := false
  constant : Bool := false
  /-- it can be evaluated -/
  evaluates : Bool := true
  /-- where it writes to -/
  target : Option Expr := none
  handler : Option Handler := none
  binding : Option Binding := none
  /-- the text of what is bound -/
  entity : String := ""

namespace Fragment

/-- Whether the program is kept as a function. -/
def isFunction (f : Fragment) : Bool := f.forced || f.flags.isStructural

/-- The text of the program as it is kept.  A function that reads `this` has to be one that can be
given a receiver. -/
def source (f : Fragment) : String :=
  if !f.isFunction then f.body
  else if f.flags.self then "function(d, c, f)\x7b return " ++ f.body ++ "; \x7d"
  else "(d, c, f) => " ++ f.body

end Fragment

/-- The start of a member path. -/
def pathRoot : Expr → Expr
  | .member _ base _ _ => pathRoot base
  | .index _ base _ => pathRoot base
  | .paren _ inner => pathRoot inner
  | e => e

/-- Whether an expression leads into the options that were passed in. -/
def isFrozen (e : Expr) : Bool :=
  match pathRoot e with
  | .ident _ name => name == "_options"
  | _ => false

/-- A fault about an expression at its place. -/
def faultAt (code : Fault.Code) (e : Expr) (more : List (String × String)) : Fault :=
  (Fault.make code (("Expression", e.text) :: more)).moved e.span.startLine e.span.startColumn

/-- What binding a field to an expression is about.  Only names and properties can be bound, none
of the options that were passed in, and nothing that is decorated. -/
def bindTarget (e : Expr) (field : String) : Except Fault Binding := do
  match e with
  | .pipe _ _ _ _ => throw (faultAt .bindDecorated e [])
  | .ident _ _ | .member _ _ _ _ | .index _ _ _ => pure ()
  | _ => throw (faultAt .bindNotAssignable e [("Kind", (Node.expr e).kindName)])
  if isFrozen e then throw (faultAt .bindFrozen e [])
  if (Node.expr e).hasDecorators then throw (faultAt .bindDecorated e [])
  return { field, target := e.text, direction := "fromContext", path := e.path?.map (·.drop 1) }

/-- The binding that a mark in a pipe asks for. -/
def markedBinding (mark : Decorator) (b : Binding) : Binding :=
  if mark.name == "mutable" then { b with oneWay := true }
  else
    { b with
      oneWay := false
      hasDefault := mark.arguments.length > 1
      direction := match mark.arguments with
        | .lit _ (.string s _) :: _ => s
        | _ => b.direction }

/-- The pipe that a program consists of, with the first binding mark in it. -/
def markedPipe? (p : Program) : Option (Expr × List Decorator × Decorator) :=
  match p.single?.map Expr.unwrap with
  | some (.pipe _ entity _ chain) =>
    (chain.find? fun d => isBindingMark d.name).map fun mark => (entity.unwrap, chain, mark)
  | _ => none

/-- Compiles a program for its value.  A pipe with a binding mark also says where to write to. -/
def value (o : Options) (field : String) (forced : Bool) (p : Program) : Compile Fragment := do
  match markedPipe? p with
  | some (entity, chain, mark) =>
    let b ← ExceptT.mk (pure (bindTarget entity field))
    let at_ ← place o entity
    let v ← decorators o (← expr o false entity) chain
    return {
      body := v.text, flags := v.flags ∪ at_.flags, forced, target := some entity
      binding := some (markedBinding mark b), entity := entity.text }
  | none =>
    let v ← program o p
    return { body := v.text, flags := v.flags, forced, constant := v.constant && !forced }

/-- Compiles a program as the target of a binding. -/
def bind (o : Options) (field : String) (p : Program) : Compile Fragment := do
  match p.exprs with
  | [e] =>
    let target := e.unwrap
    let b ← ExceptT.mk (pure (bindTarget target field))
    let v ← expr o false target
    let at_ ← place o target
    return {
      body := v.text, flags := v.flags ∪ at_.flags, forced := true, target := some target
      binding := some { b with oneWay := true }, entity := target.text }
  | es =>
    throw ((Fault.make .bindNotAssignable [("Expression", p.text),
      ("Kind", "sequence of " ++ Text.natText es.length ++ " expressions")]).moved
        p.span.startLine p.span.startColumn)

/-- The text of writing to the target of a binding. -/
def setter (o : Options) (p : Program) : Compile String := do
  let target := (p.single?.getD (.ident ⟨0, 0, 0, 0⟩ "")).unwrap
  return "(d, c, v) => " ++ (← place o target).setter

/-- What stands for a call, and its arguments. -/
def called? : Expr → Option (Expr × List Expr)
  | .call _ callee args => some (callee.unwrap, args)
  | .ident s name => some (.ident s name, [])
  | .member s base ns name => some (.member s base ns name, [])
  | .index s base key => some (.index s base key, [])
  | _ => none

/-- What an event calls.  Its function is known by a name: a bare one, or that of a property. -/
def handlerOf (root : Expr) : Except Fault Handler :=
  match called? root with
  | none => throw (faultAt .eventNotCallable root [])
  | some (callee, args) =>
    match callee, callee.staticName? with
    | .ident _ name, _ => return ⟨name, none, args⟩
    | .member _ base _ _, some name | .index _ base _, some name => return ⟨name, some base, args⟩
    | .index _ _ _, none => throw (faultAt .eventComputed root [])
    | _, _ => throw (faultAt .eventNotCallable root [])

/-- Compiles a program as the handler of an event.  Its arguments are compiled on their own. -/
def event (o : Options) (p : Program) : Compile Fragment := do
  match p.exprs with
  | [e] =>
    let h ← ExceptT.mk (pure (handlerOf e.unwrap))
    let at_ ← match h.owner with
      | none => pure { text := "f" }
      | some base => expr o false base
    let ps ← exprs o h.args
    return {
      body := helperCall .callMethod [at_.text, pathText [h.name], bracketed (textsOf ps)]
      flags := at_.flags.carried ∪ (flagsOf ps).carried
      forced := true, evaluates := false, handler := some h }
  | es => throw (Fault.make .eventNotSingle [("Count", Text.natText es.length)])

end Code

end Trellis
