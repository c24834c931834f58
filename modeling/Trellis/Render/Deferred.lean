/-
Results that come in outside of a rendering.
-/
import Trellis.Value.Basic

namespace Trellis

/-- Results by name, in the order in which the names came up first. -/
structure Deferred where
  entries : List (String × Value) := []

namespace Deferred

/-- Keeps a result; one of the same name is replaced where it stands. -/
def put (d : Deferred) (name : String) (v : Value) : Deferred :=
  if d.entries.any (·.1 == name) then
    ⟨d.entries.map fun e => if e.1 == name then (name, v) else e⟩
  else ⟨d.entries ++ [(name, v)]⟩

/-- The result under a name. -/
def get? (d : Deferred) (name : String) : Option Value :=
  (d.entries.find? (·.1 == name)).map (·.2)

/-- The names. -/
def names (d : Deferred) : List String := d.entries.map (·.1)

end Deferred

end Trellis
