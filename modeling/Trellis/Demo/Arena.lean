/-
Scripts that grow an arena of containers step by step.
-/
import Trellis.Inspect.Basic
import Trellis.Inspect.Container

namespace Trellis.Demo

open Inspect (nat texts)

/-- The kind of a container by its name. -/
def containerKind : String → Container.Kind
  | "COMPONENT" => .component
  | "CONTENT_OPTION" => .contentOption
  | "TEMPLATE" => .template
  | "CONDITIONAL" => .conditional
  | "CYCLE" => .cycle
  | _ => .global

/-- The role of a program by its name, or by its number. -/
def programRole (s : Datum) : Container.Role :=
  match Container.Role.known.find? (·.name == str s "type") with
  | some r => r
  | none => .ofCode (int s "typeNumber")

open Container in
/-- One step on a container. -/
def arenaStep (s : Datum) (id : Nat) : Work Datum := do
  match str s "do" with
  | "spawn" =>
    return .record [("id", nat (← Work.spawn id (containerKind (str s "type")) (str s "name")))]
  | "isolate" =>
    Work.update id (·.isolate (strs s "names"))
    return ok
  | "register" =>
    match Program.parse (str s "text") with
    | .error f => throw f
    | .ok p =>
      Work.register id p (programRole s)
      return ok
  | "hoist" =>
    Work.hoistNames id [str s "name"]
    return ok
  | "attach" =>
    Work.attach id (int s "template").toNat (strs s "options")
    return ok
  | "allocate" =>
    let p ← Work.parse (str s "text")
    return .record [("slot", nat (← Work.allocate p))]
  | "find" =>
    let a ← get
    return .record [("found", .bool (a.table.find? (str s "text")).isSome),
      ("isolated", .bool ((← Work.container id).isolated.contains (str s "text")))]
  | "internals" => return Inspect.watched (← Work.watched id)
  | _ => return .null

/-- What each step of a script answers, and what the arena is after it. -/
def arenaScript (steps : List Datum) : List Datum :=
  script steps Arena.start fun a s =>
    let id := int s "id"
    let known := fun (n : Int) => 0 ≤ n && n < a.containers.size
    if !known id || (str s "do" == "attach" && !known (int s "template")) then
      (a, wrong "no-container")
    else
      let (result, a) := (arenaStep s id.toNat).run a
      (a, .record [("result", Inspect.orFault result), ("table", texts a.table.slots),
        ("containers", Inspect.containers a)])

end Trellis.Demo
