/-
Chains of conditions: `if`, any number of `elif`, at most one `else`, and `fi`.

Which arms run is decided by a controller.  The standard one runs the first arm whose test is
true.  The watching one also runs every arm from a test on that cannot be decided.
-/
import Trellis.Value.Coerce

namespace Trellis

/-- Who decides which arms run. -/
inductive Controller where
  | standard | watching
deriving DecidableEq, Repr

/-- Where a chain is. -/
inductive Chain.Stage where
  | new | opened | last | closed
deriving DecidableEq, Repr

/-- A chain of conditions. -/
structure Chain (α : Type) where
  controller : Controller
  stage : Chain.Stage := .new
  /-- an arm ran -/
  fired : Bool := false
  /-- a test could not be decided -/
  undecided : Bool := false
  output : List α := []

/-- Whether a test's value is the mark of what could not be evaluated. -/
def Value.isUnreachable : Value → Bool
  | .unreachable => true
  | _ => false

namespace Controller

/-- Whether an arm runs, given what its test came to, and whether the chain is undecided then. -/
def decide (c : Controller) (test : Except Fault Value) (fired undecided : Bool) :
    Except Fault (Bool × Bool) :=
  match c with
  | .standard => test.map fun v => (!fired && v.truthy, false)
  | .watching =>
    if undecided then .ok (true, true)
    else
      match test with
      | .error _ => .ok (true, true)
      | .ok v => if v.isUnreachable then .ok (true, true) else .ok (!fired && v.truthy, false)

end Controller

namespace Chain

variable {α : Type} {m : Type → Type} [Monad m]

/-- What a call does to a chain: the chain after it, and a fault if there was one. -/
abbrev Outcome (α : Type) := Chain α × Option Fault

/-- The fault of a call that comes at the wrong time. -/
def misplaced (message : String) : Fault := Fault.make .controlFlow [("Message", message)]

/-- Runs an arm; one without a test counts as true.  A settled chain evaluates no further tests. -/
def arm (c : Chain α) (test : Option (m (Except Fault Value)))
    (body : m (Except Fault (List α))) : m (Outcome α) := do
  if test.isSome && c.fired && !c.undecided then return (c, none)
  let value ← match test with
    | some t => t
    | none => pure (.ok (.bool true))
  match c.controller.decide value c.fired c.undecided with
  | .error f => return (c, some f)
  | .ok (runs, undecided) =>
    let c := { c with undecided }
    if !runs then return (c, none)
    let c := { c with fired := true }
    match ← body with
    | .ok nodes => return ({ c with output := c.output ++ nodes }, none)
    | .error f => return (c, some f)

/-- Opens a chain. -/
def «if» (c : Chain α) (test : Option (m (Except Fault Value)))
    (body : m (Except Fault (List α))) : m (Outcome α) :=
  match c.stage with
  | .new => arm { c with stage := .opened } test body
  | _ => return (c, some (misplaced "if must open the chain"))

/-- Adds an arm with a test. -/
def elif (c : Chain α) (test : Option (m (Except Fault Value)))
    (body : m (Except Fault (List α))) : m (Outcome α) :=
  match c.stage with
  | .new => return (c, some (misplaced "elif before if"))
  | .last => return (c, some (misplaced "elif after else"))
  | .closed => return (c, some (misplaced "elif after fi"))
  | .opened => arm c test body

/-- Adds the arm of last resort. -/
def «else» (c : Chain α) (body : m (Except Fault (List α))) : m (Outcome α) :=
  match c.stage with
  | .new => return (c, some (misplaced "else before if"))
  | .last => return (c, some (misplaced "second else"))
  | .closed => return (c, some (misplaced "else after fi"))
  | .opened => arm { c with stage := .last } none body

/-- Closes a chain: the output of the arms that ran, or `default` when none did. -/
def fi (c : Chain α) (default : List α) : Chain α × Except Fault (List α) :=
  match c.stage with
  | .new => (c, .error (misplaced "fi before if"))
  | .closed => (c, .error (misplaced "fi called twice"))
  | _ => ({ c with stage := .closed }, .ok (if c.fired then c.output else default))

end Chain

end Trellis
