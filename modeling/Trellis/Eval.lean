/-
Evaluation of expressions.

Operands are evaluated from left to right.  An assignment evaluates its value first and its target
when it writes; what changes a place by its own value evaluates the target twice, once to read and
once to write.
-/
import Trellis.Code.Piece
import Trellis.Scope
import Trellis.Value.Methods

namespace Trellis

namespace Value

/-- Entries in the order of their keys, when these are whole numbers. -/
def sortedEntries (es : List (Value × Value)) : List (Value × Value) :=
  es.mergeSort fun a b =>
    match a.1, b.1 with
    | .whole _ x, .whole _ y => x ≤ y
    | _, _ => true

/-- A value as it stands in a log line. -/
def display (m : Machine) : Nat → Value → Run String
  | _, .null => return "<nil>"
  | _, .undefined => return "undefined"
  | _, .unreachable => return "unreachable"
  | _, .number x => return Text.floatText .general x
  | _, .single x => return Text.float32Text .general x
  | 0, _ => return ""
  | depth + 1, .list at_ => do
    return "[" ++ " ".intercalate (← (← Memory.items at_).toList.mapM (display m depth)) ++ "]"
  | depth + 1, .typedList _ at_ => do
    return "[" ++ " ".intercalate (← (← Memory.items at_).toList.mapM (display m depth)) ++ "]"
  | depth + 1, .object at_ => do
    let fs ← (← Memory.fields at_).mapM fun f => do return f.1 ++ ":" ++ (← display m depth f.2)
    return "map[" ++ " ".intercalate fs ++ "]"
  | depth + 1, .typedMap _ _ at_ => do
    let es ← (sortedEntries (← Memory.entries at_)).mapM fun e => do
      return (← display m depth e.1) ++ ":" ++ (← display m depth e.2)
    return "map[" ++ " ".intercalate es ++ "]"
  | depth + 1, .record _ at_ => do
    let fs ← (← Memory.fields at_).mapM fun f => display m depth f.2
    return "\x7b" ++ " ".intercalate fs ++ "\x7d"
  | depth + 1, .recordRef _ at_ => do
    let fs ← (← Memory.fields at_).mapM fun f => display m depth f.2
    return "&\x7b" ++ " ".intercalate fs ++ "\x7d"
  | depth + 1, .host _ at_ => do
    return "&\x7b" ++ (← display m depth (← Memory.inner at_)) ++ "\x7d"
  | _, .noRecord _ => return "<nil>"
  | _, .label _ s => return s
  | _, v => v.toText m

end Value

mutual
/-- Whether an expression is put together from constants: it reads, calls and writes nothing. -/
def Expr.isClosed : Expr → Bool
  | .lit _ _ => true
  | .ident _ name => name == "undefined"
  | .pipe _ entity _ chain => Expr.isClosed entity && chain.all fun d => isBindingMark d.name
  | .array _ es | .seq _ es => Expr.areClosed es
  | .object _ ps => Property.areClosed ps
  | .unary _ _ e | .paren _ e => Expr.isClosed e
  | .binary _ _ l r | .logical _ _ l r => Expr.isClosed l && Expr.isClosed r
  | .cond _ t c a => Expr.isClosed t && Expr.isClosed c && Expr.isClosed a
  | _ => false

def Expr.areClosed : List Expr → Bool
  | [] => true
  | e :: es => Expr.isClosed e && Expr.areClosed es

/-- Whether all properties of an object literal are closed. -/
def Property.areClosed : List Property → Bool
  | [] => true
  | .mk _ value :: ps => Expr.isClosed value && Property.areClosed ps
end

namespace Eval

open Trellis.Expr (AssignOp UpdateOp)

/-- Reads a name. -/
def name (m : Machine) (env : Env) (name : String) : Run Value :=
  match env.scope with
  | none => return .undefined
  | some at_ => Scope.lookup m.host at_ name

/-- The data of the ambient context as a whole. -/
def ambientData (env : Env) : Value :=
  match env.ambient.head? with
  | some (some at_) => .object at_
  | _ => .undefined

/-- The named children as a whole. -/
def childrenData (env : Env) : Value :=
  match env.children with
  | some at_ => .object at_
  | none => .undefined

/-- Reads a name, of which some have a meaning of their own. -/
def identifier (m : Machine) (env : Env) (id : String) : Run Value :=
  match id with
  | "undefined" => return .undefined
  | "context" => return ambientData env
  | "_children" => return childrenData env
  | _ => name m env id

/-- A name of the ambient contexts, the nearest that has it. -/
def ambientName (name : String) : List (Option Nat) → Run Value
  | [] => return .undefined
  | none :: rest => ambientName name rest
  | some at_ :: rest => do
    match (← Memory.fields at_).get? name with
    | some v => return v
    | none => ambientName name rest

/-- A named child. -/
def childName (env : Env) (name : String) : Run Value := do
  match env.children with
  | none => return .undefined
  | some at_ => return ((← Memory.fields at_).get? name).getD .undefined

/-- Reads a fixed path. -/
def path (m : Machine) (env : Env) : List String → Run Value
  | [] => return .undefined
  | "context" :: first :: rest => do (← ambientName first env.ambient).follow m.host rest
  | "_children" :: first :: rest => do (← childName env first).follow m.host rest
  | root :: rest => do (← name m env root).follow m.host rest

/-- The value of a constant. -/
def literal : Expr.Literal → Value
  | .string value _ => .text value
  | .number raw => .number (Expr.numberValue raw)
  | .bool b => .bool b
  | .null => .null

/-- What a call is made to: a name, a property of an owner, or a value. -/
inductive Callee where
  | bare (name : String) (fn : Value)
  | intrinsic (i : Intrinsic)
  | method (owner : Value) (name : String)
  /-- a method whose name is the text of a key -/
  | computed (owner key : Value)
  | value (fn : Value) (shown : String)

/-- Calls what was found with arguments. -/
def apply (m : Machine) (env : Env) (args : List Value) : Callee → Run Value
  | .bare name fn => Value.call m env.caller fn args name
  | .method owner name => owner.callMethod m [name] args
  | .computed owner key => do owner.callMethod m [← key.toText m] args
  | .value fn shown => Value.call m .undefined fn args shown
  | .intrinsic _ => return .undefined

/-- What an intrinsic function gives for its first two arguments. -/
def intrinsic (m : Machine) (env : Env) (first second : Value) : Intrinsic → Run Value
  | .translate => do
    return .text (env.toolkit.translate (← first.toText m) (← second.toText m))
  | .rawText => do return .raw (← first.toText m)
  | .resource => do return .text (env.toolkit.resource (← first.toText m))
  | .debug => do
    let fs ← match env.scope with
      | some at_ => Scope.flatten m at_
      | none => pure []
    if env.toolkit.logs then
      let depth := (← get).cells.size + 1
      let shown ← fs.mapM fun f => do return f.1 ++ ":" ++ (← f.2.display m depth)
      Memory.logLine ("debug: map[" ++ " ".intercalate shown ++ "]")
    return .undefined

/-- How many of its arguments an intrinsic function looks at. -/
def intrinsicArity : Intrinsic → Nat
  | .translate => 2
  | .rawText | .resource => 1
  | .debug => 0

/-- A value changed by a step. -/
def stepped (op : UpdateOp) (old : Float) : Float :=
  match op with
  | .inc => old + 1
  | .dec => old + -1

/-- The value that an assignment writes, from what it was given and what was there. -/
def combined (m : Machine) (op : AssignOp) (current : Run Value) (v : Value) : Run Value :=
  match op with
  | .set => return v
  | .add => do Value.binary m .add (← current) v
  | .sub => do Value.binary m .sub (← current) v

/-- Writes a name. -/
def assignName (m : Machine) (env : Env) (name : String) (v : Value) : Run Unit :=
  match env.scope with
  | none => throw (Fault.make .writeToNothing [("Value", "undefined"), ("Property", name)])
  | some at_ => Scope.assign m at_ name v

mutual
/-- The value of an expression. -/
def expr (m : Machine) (env : Env) : Expr → Run Value
  | .lit _ l => return literal l
  | .this _ => return env.self
  | .ident _ name => identifier m env name
  | .member s base ns name =>
    match (Expr.member s base ns name).path? with
    | some p => path m env p
    | none => do (← expr m env base).follow m.host [name]
  | .index s base key =>
    match (Expr.index s base key).path? with
    | some p => path m env p
    | none => do
      let owner ← expr m env base
      let k ← expr m env key
      owner.follow m.host [← k.toText m]
  | .call _ callee args => do
    if callee.unwrap.isAssignable then
      match ← resolve m env callee with
      | .intrinsic i =>
        let vs ← firstExprs m env (intrinsicArity i) args
        intrinsic m env (vs.getD 0 .undefined) (vs.getD 1 .undefined) i
      | found => apply m env (← exprs m env args) found
    else
      let fn ← expr m env callee
      apply m env (← exprs m env args) (.value fn callee.unwrap.text)
  | .pipe _ entity _ chain => do decorators m env (← expr m env entity) chain
  | .array _ elements => do Memory.newList (← exprs m env elements)
  | .object _ properties => do Memory.newObject (← object m env properties [])
  | .seq _ items => sequence m env .undefined items
  | .unary _ op argument => do return (← expr m env argument).unary op
  | .binary _ op left right => do
    let l ← expr m env left
    let r ← expr m env right
    Value.binary m op l r
  | .logical _ op left right => do
    let l ← expr m env left
    if l.truthy != (op == .and) then return l
    expr m env right
  | .cond _ test consequent alternate => do
    if (← expr m env test).truthy then expr m env consequent else expr m env alternate
  | .paren _ inner => expr m env inner
  | .assign _ op target value => do
    let given ← expr m env value
    let v ← combined m op (read m env target) given
    write m env target v
    return v
  | .update _ op before target => do
    let old := (← read m env target).toNumber
    let new := stepped op old
    write m env target (.number new)
    return .number (if before then new else old)

def exprs (m : Machine) (env : Env) : List Expr → Run (List Value)
  | [] => return []
  | e :: es => return (← expr m env e) :: (← exprs m env es)

/-- The values of at most `n` expressions. -/
def firstExprs (m : Machine) (env : Env) : Nat → List Expr → Run (List Value)
  | n + 1, e :: es => return (← expr m env e) :: (← firstExprs m env n es)
  | _, _ => return []

/-- The value of the last of several expressions. -/
def sequence (m : Machine) (env : Env) (last : Value) : List Expr → Run Value
  | [] => return last
  | e :: es => do sequence m env (← expr m env e) es

/-- The fields of an object literal; of several with one name the last counts. -/
def object (m : Machine) (env : Env) : List Property → Fields → Run Fields
  | [], fs => return fs
  | .mk key value :: ps, fs => do
    let v ← expr m env value
    object m env ps (Fields.insert key.name v fs)

/-- Sends a value through decorators, from left to right. -/
def decorators (m : Machine) (env : Env) (v : Value) : List Decorator → Run Value
  | [] => return v
  | .mk _ name args _ :: ds => do
    if isBindingMark name then decorators m env v ds
    else decorators m env (← m.decorate env.toolkit name (v :: (← exprs m env args))) ds

/-- What a call to a name or a property is made to. -/
def resolve (m : Machine) (env : Env) : Expr → Run Callee
  | .ident _ name =>
    match Intrinsic.ofName? name with
    | some i => return .intrinsic i
    | none => return .bare name (← identifier m env name)
  | .member _ base _ name => return .method (← expr m env base) name
  | .index _ base key => return .computed (← expr m env base) (← expr m env key)
  | .paren _ inner => resolve m env inner
  | _ => return .value .undefined ""

/-- Reads a place that can be written. -/
def read (m : Machine) (env : Env) : Expr → Run Value
  | .ident _ id => name m env id
  | .member _ base _ name => do (← expr m env base).follow m.host [name]
  | .index _ base key => do
    let owner ← expr m env base
    let k ← expr m env key
    owner.follow m.host [← k.toText m]
  | .paren _ inner => read m env inner
  | _ => return .undefined

/-- Writes to a place. -/
def write (m : Machine) (env : Env) : Expr → Value → Run Unit
  | .ident _ name, v => assignName m env name v
  | .member _ base _ name, v => do (← expr m env base).setPath m [name] v
  | .index _ base key, v => do
    let owner ← expr m env base
    let k ← expr m env key
    owner.setPath m [← k.toText m] v
  | .paren _ inner, v => write m env inner v
  | _, _ => return
end

/-- The value of a program: that of its last expression.  What a closed program made on the way is
out of reach once it has a primitive value, and is given back. -/
def program (m : Machine) (env : Env) (p : Program) : Run Value := do
  let cells := (← get).cells
  let v ← sequence m env .undefined p.exprs
  if Expr.areClosed p.exprs && v.isPrimitive then modify fun mem => { mem with cells }
  return v

end Eval

end Trellis
