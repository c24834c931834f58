/-
Lexical containers: the boundaries of a template across which expressions are hoisted.

Containers live in an arena and refer to each other by number; a container's parent has a smaller
number.
-/
import Trellis.Expr.Names

namespace Trellis.Container

/-!
The expression table of a template.

Programs are kept under their canonical text: the first program with a text stands for all later
ones.  A program gets a slot of the table when it is first asked for; the slot is its position.
-/

/-- A program under its canonical text. -/
structure Stored where
  text : String
  program : Program

instance : Inhabited Stored := ⟨"", default⟩

/-- Programs by canonical text, in the order of arrival, and the texts that have slots. -/
structure Table where
  stored : List Stored := []
  slots : List String := []

namespace Table

/-- The program stored under a text. -/
def find? (t : Table) (text : String) : Option Stored := t.stored.find? (·.text == text)

/-- The stored program with the text of `p`; `p` itself is stored if there is none. -/
def intern (t : Table) (p : Program) : Stored × Table :=
  match t.find? p.text with
  | some s => (s, t)
  | none =>
    let s : Stored := ⟨p.text, p⟩
    (s, { t with stored := t.stored ++ [s] })

/-- The stored program with a text, which is read and stored if there is none. -/
def parse (t : Table) (text : String) : Except Fault (Stored × Table) :=
  match t.find? text with
  | some s => .ok (s, t)
  | none => (Program.parse text).map t.intern

/-- The slot of a text. -/
def slot? (t : Table) (text : String) : Option Nat := t.slots.idxOf? text

/-- The slot of a stored program, given out if it has none. -/
def allocate (t : Table) (s : Stored) : Nat × Table :=
  match t.slot? s.text with
  | some i => (i, t)
  | none => (t.slots.length, { t with slots := t.slots ++ [s.text] })

/-- The programs that have slots, in slot order. -/
def programs (t : Table) : List Stored := t.slots.filterMap t.find?

end Table

end Trellis.Container

namespace Trellis

/-- What kind of boundary a container is. -/
inductive Container.Kind where
  | global | component | contentOption | template | conditional | cycle
deriving DecidableEq, Repr

def Container.Kind.name : Container.Kind → String
  | .global => "GLOBAL"
  | .component => "COMPONENT"
  | .contentOption => "CONTENT_OPTION"
  | .template => "TEMPLATE"
  | .conditional => "CONDITIONAL"
  | .cycle => "CYCLE"

/-- Where a program stands. -/
inductive Container.Role where
  | simple | attribute | bind | option | event | float | iterator | scope | regular
  /-- a role that is not known -/
  | unknown (code : Int)
deriving DecidableEq, Repr

def Container.Role.name : Container.Role → String
  | .simple => "SIMPLE"
  | .attribute => "ATTRIBUTE"
  | .bind => "BIND"
  | .option => "OPTION"
  | .event => "EVENT"
  | .float => "FLOAT"
  | .iterator => "ITERATOR"
  | .scope => "SCOPE"
  | .regular => "REGULAR"
  | .unknown _ => "UNKNOWN"

/-- The roles in the order of their codes. -/
def Container.Role.known : List Container.Role :=
  [.simple, .attribute, .bind, .option, .event, .float, .iterator, .scope, .regular]

/-- The role with a code. -/
def Container.Role.ofCode (code : Int) : Container.Role :=
  if code < 0 then .unknown code
  else (Container.Role.known[code.toNat]?).getD (.unknown code)

/-- Whether an entry counts among what its container watches. -/
inductive Container.Operation where
  /-- counts where it stands, and is watched further up -/
  | ignore
  | include_
  | exclude
deriving DecidableEq, Repr

def Container.Operation.name : Container.Operation → String
  | .ignore => "IGNORE"
  | .include_ => "INCLUDE"
  | .exclude => "EXCLUDE"

/-- One registration of a program in a container. -/
structure Container.Entry where
  stored : Container.Stored
  role : Container.Role
  operation : Container.Operation
  /-- a single path split off a larger expression -/
  synthetic : Bool
  /-- the container that the expression stands in -/
  origin : Nat
  /-- the container that evaluates it -/
  processing : Nat

/-- A container: its boundary, its entries, the names that are local to it and the reactive names
recorded at it. -/
structure Container where
  id : Nat
  parent : Option Nat
  kind : Container.Kind
  name : String := ""
  children : List Nat := []
  programs : List Container.Entry := []
  isolated : List String := []
  reactive : List String := []

instance : Inhabited Container := ⟨{ id := 0, parent := none, kind := .global }⟩

/-- All containers of a template, and its expression table. -/
structure Arena where
  containers : Array Container
  table : Container.Table

namespace Arena

/-- An arena with the global container only. -/
def start : Arena := ⟨#[{ id := 0, parent := none, kind := .global }], {}⟩

/-- The container with a number. -/
def get? (a : Arena) (id : Nat) : Option Container := a.containers[id]?

/-- Changes the container with a number. -/
def update (a : Arena) (id : Nat) (f : Container → Container) : Arena :=
  { a with containers := a.containers.modify id f }

/-- Adds a container below another one. -/
def spawn (a : Arena) (parent : Nat) (kind : Container.Kind) (name : String) : Nat × Arena :=
  let id := a.containers.size
  let c : Container := { id, parent := some parent, kind, name }
  let a := a.update parent fun p => { p with children := p.children ++ [id] }
  (id, { a with containers := a.containers.push c })

end Arena

/-- Names that are never reactive. -/
def deniedNames : List String := [
  "arguments", "_options", "_container", "_children", "context", "__spread", "undefined", "rk",
  "debug", "resourceUrl"]

/-- Whether a name is never reactive. -/
def isDenied (name : String) : Bool := deniedNames.contains name

namespace Container

/-- Makes names local to a container. -/
def isolate (c : Container) (names : List String) : Container :=
  names.foldl (fun c n =>
    if n.isEmpty || c.isolated.contains n then c
    else { c with isolated := c.isolated ++ [n] }) c

/-- Records a reactive name at a container. -/
def addReactive (c : Container) (name : String) : Container :=
  if isDenied name || c.reactive.contains name then c
  else { c with reactive := c.reactive ++ [name] }

/-- Whether two entries register one program in one role. -/
def Entry.same (a b : Entry) : Bool := a.stored.text == b.stored.text && a.role == b.role

/-- An existing entry after the same program is registered again: one that does not count begins
to count. -/
def Entry.revive (existing new : Entry) : Entry :=
  if existing.operation = .exclude ∧ new.operation ≠ .exclude then
    { existing with operation := new.operation }
  else existing

/-- Registers an entry; the first entry of the same program in the same role is kept. -/
def acceptEntry (e : Entry) : List Entry → List Entry
  | [] => [e]
  | x :: xs => if x.same e then x.revive e :: xs else x :: acceptEntry e xs

/-- Registers an entry in a container. -/
def accept (c : Container) (e : Entry) : Container :=
  { c with programs := acceptEntry e c.programs }

end Container

end Trellis

/-! Runs of consecutive numbers, written as one number or as first and last. -/

namespace Trellis.Container

/-- The last of the numbers at the front that follow one another, starting after `last`, and the
numbers that are left. -/
def runEnd (last : Int) : List Int → Int × List Int
  | [] => (last, [])
  | x :: xs => if x = last + 1 then runEnd x xs else (last, x :: xs)

theorem length_runEnd (last : Int) (xs : List Int) : (runEnd last xs).2.length ≤ xs.length := by
  induction xs generalizing last with
  | nil => simp [runEnd]
  | cons x xs ih =>
    simp only [runEnd]
    split
    · exact Nat.le_succ_of_le (ih x)
    · simp

/-- A list of numbers as runs: `[n]` for a number alone, `[first, last]` for several. -/
def ranges : List Int → List (List Int)
  | [] => []
  | x :: xs =>
    (if (runEnd x xs).1 = x then [x] else [x, (runEnd x xs).1]) :: ranges (runEnd x xs).2
termination_by xs => xs.length
decreasing_by exact Nat.lt_succ_of_le (length_runEnd x xs)

/-- The numbers from `first` to `last`. -/
def numbersFromTo (first last : Int) : List Int :=
  (List.range (last + 1 - first).toNat).map fun (i : Nat) => first + (i : Int)

/-- The numbers of a run.  Anything but one or two numbers is no run and stands for none. -/
def expandRun : List Int → List Int
  | [x] => [x]
  | [first, last] => numbersFromTo first last
  | _ => []

/-- The numbers of runs. -/
def expand (runs : List (List Int)) : List Int := runs.flatMap expandRun

end Trellis.Container

/-!
Registering programs in containers.

A program registered in a container is hoisted towards the nearest template or the root.  A
container that isolates one of its names stops it; only the static paths in it that do not begin
at an isolated name go on.  The identifiers of a program become reactive at the nearest template
or the root, unless a container on the way isolates them.

Registering may fail, and what was done before the fault stays done.
-/

namespace Trellis.Container

/-- Work on an arena. -/
abbrev Work := ExceptT Fault (StateM Arena)

namespace Work

/-- The container with a number. -/
def container (id : Nat) : Work Container := do
  return ((← get).get? id).getD default

/-- Changes a container. -/
def update (id : Nat) (f : Container → Container) : Work Unit := modify (Arena.update · id f)

/-- Stores a program under its text. -/
def intern (p : Program) : Work Stored := do
  let a ← get
  let (s, table) := a.table.intern p
  set { a with table }
  return s

/-- The stored program with a text. -/
def parse (text : String) : Work Stored := do
  let a ← get
  match a.table.parse text with
  | .error f => throw f
  | .ok (s, table) =>
    set { a with table }
    return s

/-- The slot of a stored program. -/
def allocate (s : Stored) : Work Nat := do
  let a ← get
  let (slot, table) := a.table.allocate s
  set { a with table }
  return slot

/-- Adds a container below another one. -/
def spawn (parent : Nat) (kind : Kind) (name : String) : Work Nat := do
  let a ← get
  let (id, a) := a.spawn parent kind name
  set a
  return id

/-- Whether hoisting ends at a container. -/
def isBoundary (c : Container) : Bool := c.kind == .template || c.parent.isNone

/-- Records a name as reactive at the nearest template or the root, unless a container on the way
isolates it.  `n` bounds the way, on which numbers fall. -/
def hoistName (name : String) : Nat → Nat → Work Unit
  | 0, _ => pure ()
  | n + 1, id => do
    if isDenied name then return
    let c ← container id
    if c.isolated.contains name then return
    if isBoundary c then update id (·.addReactive name)
    else match c.parent with
      | some parent => hoistName name n parent
      | none => pure ()

/-- Records the reactive names of a program registered at a container. -/
def hoistNames (id : Nat) (names : List String) : Work Unit :=
  names.forM fun name => hoistName name (id + 1) id

/-- The paths that a program reads, as programs of their own, without those that begin at a name
in `skip` or at a name that is never reactive. -/
def pieces (s : Stored) (skip : List String) : Work (List Stored) := do
  let found ← s.program.paths.mapM fun path => do
    let piece ← parse path
    match piece.program.single?.bind Expr.path? with
    | some (first :: _) =>
      return if skip.contains first || isDenied first then none else some piece
    | _ => return none
  return found.filterMap fun x => x

/-- Hoists an entry from a container towards the boundary.  `n` bounds the way. -/
def hoist : Nat → Nat → Entry → Work Unit
  | 0, _, _ => pure ()
  | n + 1, id, e => do
    let c ← container id
    if isBoundary c then return
    match c.parent with
    | none => return
    | some parent =>
      if (Node.program e.stored.program).refersTo c.isolated then
        for piece in ← pieces e.stored c.isolated do
          let split : Entry := ⟨piece, e.role, .include_, true, e.origin, parent⟩
          update parent (·.accept split)
          hoist n parent split
      else
        let up : Entry := { e with
          processing := parent
          operation := if e.operation = .ignore then .include_ else e.operation }
        update parent (·.accept up)
        hoist n parent up

/-- Registers an entry where it stands and hoists it. -/
def place (id : Nat) (e : Entry) : Work Unit := do
  update id (·.accept e)
  hoist (id + 1) id e

/-- Registers the expression that controls a loop: its paths are watched at the loop, and its
names are local to it from then on. -/
def registerIterator (id : Nat) (s : Stored) (names : List String) : Work Unit := do
  hoistNames id names
  for name in names do
    update id (·.addReactive name)
  let parts ← pieces s []
  update id (·.isolate names)
  for piece in parts do
    update id (·.accept ⟨piece, .iterator, .include_, true, id, id⟩)
  update id (·.accept ⟨s, .iterator, .exclude, false, id, id⟩)

/-- Registers a program in a container. -/
def register (id : Nat) (p : Program) (role : Role) : Work Unit := do
  let s ← intern p
  let names := s.program.identifiers
  match role with
  | .regular | .attribute | .option | .simple | .float =>
    if names.isEmpty then return
    hoistNames id names
    place id ⟨s, role, .ignore, false, id, id⟩
  | .scope =>
    hoistNames id names
    place id ⟨s, role, .include_, false, id, id⟩
  | .bind =>
    hoistNames id names
    let programs ← match s.program.bindPrograms with
      | .ok ps => pure ps
      | .error f => throw f
    for q in programs do
      let t ← intern q
      place id ⟨t, .bind, .include_, false, id, id⟩
  | .event => hoistNames id names
  | .iterator => registerIterator id s names
  | .unknown code => throw (Fault.make .unknownProgramType [("Type", Text.intText code)])

/-- Merges the container of an inline template into the component container that calls it.
`options` are the names that the call passes. -/
def attach (id template : Nat) (options : List String) : Work Unit := do
  let t ← container template
  let c ← container id
  if t.kind ≠ .template then throw (Fault.make .attachNotTemplate [("Type", t.kind.name)])
  if c.kind ≠ .component then throw (Fault.make .attachNotComponent [("Type", c.kind.name)])
  update id fun c => (c.isolate t.isolated).isolate options
  hoistNames id t.reactive
  for i in List.range t.programs.length do
    match (← container template).programs[i]? with
    | none => pure ()
    | some e =>
      if e.operation ≠ .exclude then
        let again := { e with processing := id }
        update id (·.accept again)
        hoist (id + 1) id again

/-- Whether a container evaluates an entry.  A component evaluates only its own bindings and
scopes, any other container everything that counts. -/
def evaluates (c : Container) (e : Entry) : Bool :=
  if c.kind = .component then e.origin == c.id && (e.role == .bind || e.role == .scope)
  else e.operation ≠ .exclude

/-- Entries without the later ones of the same program. -/
def firstOfEach (es : List Entry) : List Entry :=
  (es.foldl (fun acc e => if acc.any (·.stored.text == e.stored.text) then acc else e :: acc)
    []).reverse

/-- The programs that a container evaluates to find out whether it changed, in the order of their
slots, with these. -/
def watched (id : Nat) : Work (List (Nat × Stored)) := do
  let c ← container id
  let found ← (firstOfEach (c.programs.filter (evaluates c))).mapM fun e => do
    return (← allocate e.stored, e.stored)
  return found.mergeSort fun a b => a.1 ≤ b.1

end Work

end Trellis.Container
