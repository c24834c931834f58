/-
Scripts that load modules from a folder and change its files.
-/
import Trellis.Demo.Controls
import Trellis.Inspect.Basic
import Trellis.Demo.Folder
import Trellis.Loader.Basic

/-! Modules that were loaded, as documents. -/

namespace Trellis.Inspect

/-- A template that was loaded as the `k`-th one, and the components that are known. -/
def loaded (t : Template) (k : Nat) (r : Registry) : List (String × Datum) := [
  ("identity", nat k), ("module", .text t.description.module),
  ("dependencies", texts t.description.dependencies),
  ("expressions", nat t.description.expressions.size), ("names", texts r.names)]

/-- A description that was compiled. -/
def compiled (d : Description) : List (String × Datum) := [
  ("module", .text d.module), ("dependencies", texts d.dependencies),
  ("source", .text ((d.root?.bind fun k => (d.bodies[k]?).map (·.source)).getD "")),
  ("symbols", texts d.symbols)]

/-- A template that was checked. -/
def checked (a : Annotated Unit) : Datum := .record [
  ("reactive", texts a.reactive), ("dependencies", texts a.manifest.paths),
  ("templates", texts (a.manifest.templates.map (·.1)))]

end Trellis.Inspect

namespace Trellis.Demo

open Inspect (texts orFault)

/-- What was computed, or the fault instead. -/
def settled (work : Load Datum) : Load Datum := do return orFault (← Loader.attempt work)

/-- A rendering as text, when a step gives data. -/
def rendering (read : Datum → Run Value) (s : Datum) (t : Template) :
    Load (List (String × Datum)) := do
  if !has s "data" then return []
  return [("render", ← settled do
    let data ← Loader.inMemory (read ((s.field? "data").getD .null))
    let ns ← Loader.invoke workshop t { data, style := .text false }
    return .record [("value", .text (Rendered.htmlList false ns))])]

/-- One step; `ids` are the templates that were seen so far. -/
def loadingStep (read : Datum → Run Value) (o : Loader.Options) (ids : List Nat) (s : Datum) :
    Load (List Nat × Datum) := do
  let name := str s "name"
  let path := Path.join [root, name]
  let change := fun (f : Loader.State → Loader.State) => do
    modify f
    return (ids, ok)
  let same := fun (work : Load Datum) => do return (ids, ← settled work)
  match str s "do" with
  | "load" =>
    match ← Loader.attempt (Loader.load o name) with
    | .error f => return (ids, Inspect.fault f)
    | .ok k =>
      let ids := if ids.contains k then ids else ids ++ [k]
      let t ← Loader.template k
      return (ids, .record (Inspect.loaded t (ids.idxOf k) (← get).registry ++
        (← rendering read s t)))
  | "compile" => same do
    let d ← Loader.compile o name (str s "source")
    let t ← ofExcept (Template.ofDescription d o.toolkit)
    return .record (Inspect.compiled d ++ (← rendering read s t))
  | "check" => same do return Inspect.checked (← ofExcept (Loader.check o name (str s "source")))
  | "modules" => same do return texts (← Loader.modules o)
  | "path" => return (ids, .record [("module", .text (o.names.moduleOf name)),
      ("path", .text (o.names.fileOf name))])
  | "invalidate" => same do
    Loader.invalidate o name
    return ok
  | "write" => change fun st => { st with files := st.files.put path (str s "source") }
  | "remove" => change fun st => { st with files := st.files.remove path }
  | "put" => same do
    let digest := if has s "hashOf" then Digest.ofText (str s "hashOf") else str s "hash"
    let store ← ofExcept (((← get).store.getD {}).put name digest (str s "data"))
    modify fun st => { st with store := some store }
    return ok
  | _ => same do return texts (← ofExcept ((← get).store.getD {}).modules)

/-- What each step of a script answers. -/
def loadingScript (read : Datum → Run Value) (o : Loader.Options) (steps : List Datum) :
    Load (List Datum) := do
  let (_, answers) ← steps.foldlM (fun (acc : List Nat × List Datum) s => do
    let (ids, a) ← loadingStep read o acc.1 s
    return (ids, a :: acc.2)) ([], [])
  return answers.reverse

end Trellis.Demo
