/-
Scopes of names: looking names up, binding them and writing to them.
-/
import Trellis.Value.Property

namespace Trellis

/-- The fault of reading a name that is not in scope. -/
def poisonedName (name : String) : Fault := Fault.make .poisonedName [("Expression", name)]

namespace Scope

/-- What a scope says about a name: its value, that it must not be read, or nothing. -/
inductive Finding where
  | bound (v : Value)
  | poisoned
  | absent

/-- What a scope itself says about a name. -/
def find (s : Scope) (name : String) : Finding :=
  if s.poisoned.contains name then .poisoned
  else
    match s.vars.get? name with
    | some v => .bound v
    | none => .absent

/-- A scope below another. -/
def child (at_ : Nat) : Run Nat := Memory.newScope { parent := some at_ }

/-- Binds a name in a scope. -/
def define (at_ : Nat) (name : String) (v : Value) : Run Unit :=
  Memory.updateScope at_ fun s =>
    { s with vars := Fields.insert name v s.vars, poisoned := s.poisoned.filter (· != name) }

/-- Marks names of a scope as not to be read. -/
def poison (at_ : Nat) (names : List String) : Run Unit :=
  Memory.updateScope at_ fun s =>
    { s with
      vars := s.vars.filter fun f => !names.contains f.1
      poisoned := Text.dedup (s.poisoned ++ names) }

/-- The scopes from one up to the topmost.  A parent has a smaller number than its child, so
`fuel` may be the number of the scope. -/
def chain : Nat → Nat → Run (List (Nat × Scope))
  | 0, at_ => do return [(at_, ← Memory.scope at_)]
  | fuel + 1, at_ => do
    let s ← Memory.scope at_
    match s.parent with
    | some up => return (at_, s) :: (← chain fuel up)
    | none => return [(at_, s)]

/-- The data at the top of a scope. -/
def rootData (at_ : Nat) : Run Value := do
  return ((← chain at_ at_).getLast?.map (·.2.data)).getD .null

/-- Looks a name up along scopes. -/
def lookupIn (h : Host) (name : String) : List (Nat × Scope) → Run Value
  | [] => return .undefined
  | (_, s) :: rest =>
    match s.find name with
    | .poisoned => throw (poisonedName name)
    | .bound v => return v
    | .absent =>
      match rest, s.data with
      | [], .null => return .undefined
      | [], data => data.property h name
      | _, _ => lookupIn h name rest

/-- The value of a name in a scope; undefined when it is bound nowhere. -/
def lookup (h : Host) (at_ : Nat) (name : String) : Run Value := do
  lookupIn h name (← chain at_ at_)

/-- Whether writing a name to data succeeds. -/
def writeData (m : Machine) (data : Value) (name : String) (v : Value) : Run Bool :=
  match data with
  | .null => return false
  | _ => tryCatch (do data.setProperty m name v; return true) fun _ => return false

/-- Writes a name where it is bound along scopes, or to the data; says whether it did. -/
def assignIn (m : Machine) (name : String) (v : Value) : List (Nat × Scope) → Run Bool
  | [] => return false
  | (at_, s) :: rest =>
    match s.find name with
    | .poisoned => throw (poisonedName name)
    | .bound _ => do
      Memory.updateScope at_ fun s => { s with vars := Fields.insert name v s.vars }
      return true
    | .absent =>
      match rest with
      | [] => writeData m s.data name v
      | _ => assignIn m name v rest

/-- Sets a name where it is bound.  A name that is bound nowhere goes to the data, or else to the
scope itself. -/
def assign (m : Machine) (at_ : Nat) (name : String) (v : Value) : Run Unit := do
  if !(← assignIn m name v (← chain at_ at_)) then
    Memory.updateScope at_ fun s => { s with vars := Fields.insert name v s.vars }

/-- What a scope makes of the names above it: it binds some and hides some.  At the top the data
comes first. -/
def layer (m : Machine) (acc : Fields) (s : Scope) : Run Fields := do
  let acc ← match s.parent, s.data with
    | some _, _ | none, .null => pure acc
    | none, data =>
      (← data.keys m).foldlM (fun acc k => do
        return Fields.insert k (← data.property m.host k) acc) acc
  let acc := s.vars.foldl (fun acc f => Fields.insert f.1 f.2 acc) acc
  return acc.filter fun f => !s.poisoned.contains f.1

/-- All names that are visible in a scope, with their values. -/
def flatten (m : Machine) (at_ : Nat) : Run Fields := do
  (← chain at_ at_).reverse.foldlM (fun acc (_, s) => layer m acc s) []

end Scope

end Trellis
