/-
Values as they are logged, and what a store holds.
-/
import Trellis.Eval
import Trellis.Inspect.Basic
import Trellis.Log.Event
import Trellis.Store
import Trellis.Value.Json

namespace Trellis

namespace Value

/-- A value as it is logged. -/
def shown (m : Machine) (v : Value) : Run String := do display m ((← get).cells.size + 1) v

/-- A value as a detail of an event. -/
def detail (m : Machine) (name : String) (v : Value) : Run Log.Detail := do
  let json? ← tryCatch (do return some (← v.jsonText m.host)) fun _ => return none
  return ⟨name, ← v.shown m, json?⟩

end Value

/-- The store with another recorded size of an artifact, written from outside.  What is in memory
cannot be reached from there. -/
def Store.tamper (s : Store) (module : String) (size : Int) : Except Fault Store :=
  if s.file?.isNone then .error (.plain "SQL logic error: no such table: wml_artifacts (1)")
  else .ok { s with
    shelf := s.shelf.map fun a => if a.module == module then { a with size } else a }

namespace Inspect

/-- Whether a text begins with a time of the form `2006-01-02T15:04:05Z`. -/
def startsWithTime (cs : List Char) : Bool :=
  let shape := "dddd-dd-ddTdd:dd:ddZ".toList
  let fits := fun (p : Char × Char) => if p.1 == 'd' then p.2.isDigit else p.1 == p.2
  shape.length ≤ cs.length && (shape.zip cs).all fits

/-- A text whose leading time is left out. -/
def hideTime (s : String) : String :=
  if startsWithTime s.toList then "<time>" ++ String.ofList (s.toList.drop 20) else s

/-- A log without its times, which stand at the start of a line or in a field of that name. -/
def timeless (log : String) : String :=
  let mark := "\"timestamp\":\""
  let lines := "\n".intercalate ((Text.splitOnChar log '\n').map hideTime)
  mark.intercalate ((lines.splitOn mark).map hideTime)

/-- An artifact. -/
def artifact (a : Artifact) : Datum := .record [
  ("module", .text a.module), ("hash", .text a.digest), ("data", .text a.data),
  ("size", num a.size), ("compressed", .bool a.packed)]

end Inspect

end Trellis
