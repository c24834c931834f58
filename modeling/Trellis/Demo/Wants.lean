/-
Scripts that note what a template asks for, and load it.
-/
import Trellis.Inspect.Basic
import Trellis.Inspect.Container
import Trellis.Manifest

namespace Trellis.Demo

open Inspect (num texts orFault)

/-- Loads a module from a record of modules. -/
def loadFrom (modules : List (String × Datum)) (path : String) : Except Fault Datum :=
  match modules.find? (·.1 == path) with
  | none => .error (.plain ("no such module " ++ path))
  | some (_, .text "canceled") => .error .cancelled
  | some (_, v) => .ok v

/-- A value that may be there. -/
def found (v : Option Datum) : Datum := .record [("found", .bool v.isSome), ("value", v.getD .null)]

/-- One step; `modules` is what can be loaded, if anything can. -/
def wantsStep (modules : Option (List (String × Datum))) (m : Manifest Datum) (s : Datum) :
    Manifest Datum × Datum :=
  match str s "do" with
  | "dependency" =>
    let m := m.require (str s "name")
    (m, texts m.paths)
  | "request" =>
    match m.pending, modules with
    | [], _ => (m, ok)
    | _, none => (m, orFault (m.noLoader.map fun _ => ok))
    | pending, some ms =>
      let (m, r) := m.request (bool s "cancelled") (pending.map fun p => (p, loadFrom ms p))
      (m, orFault (r.map fun _ => ok))
  | "get" => (m, found (m.loaded? (str s "name")))
  | "translation" =>
    let m := m.translate ⟨str s "type", str s "module", str s "text", str s "context"⟩
    (m, .list (m.translations.map Inspect.translationKey))
  | "template" =>
    match m.define (str s "name") (int s "line") (int s "column") with
    | .ok m => (m, ok)
    | .error f => (m, Inspect.fault f)
  | "templates" =>
    let line := m.templateLine? (str s "name")
    (m, .record [("names", texts (m.templates.map (·.1))), ("has", .bool line.isSome),
      ("line", num (line.getD 0))])
  | "detect" => ({ m with translates := true }, ok)
  | "detected" => (m, .bool m.translates)
  | _ => (m, .null)

/-- What each step of a script answers. -/
def wantsScript (modules : Option Datum) (steps : List Datum) : List Datum :=
  script steps {} (wantsStep (modules.map fieldsOf))

end Trellis.Demo
