/-
What a template asks for: the modules it depends on, the texts it wants translated and the inline
templates it defines.
-/
import Trellis.Fault.Basic

namespace Trellis

/-- A text that a template wants translated. -/
structure TranslationKey where
  type : String
  module : String
  text : String
  context : String
deriving DecidableEq, Repr

/-- What a template asks for.  A dependency has a value once it is loaded. -/
structure Manifest (α : Type) where
  dependencies : List (String × Option α) := []
  translations : List TranslationKey := []
  /-- names of inline templates, with the lines they are defined on -/
  templates : List (String × Int) := []
  /-- translations were seen -/
  translates : Bool := false

namespace Manifest

variable {α : Type}

/-- Adds a dependency; one that is there already stays as it is. -/
def require (m : Manifest α) (path : String) : Manifest α :=
  if m.dependencies.any (·.1 == path) then m
  else { m with dependencies := m.dependencies ++ [(path, none)] }

/-- The dependencies in the order in which they were added. -/
def paths (m : Manifest α) : List String := m.dependencies.map (·.1)

/-- The value of a loaded dependency. -/
def loaded? (m : Manifest α) (path : String) : Option α :=
  (m.dependencies.find? (·.1 == path)).bind (·.2)

/-- The dependencies that are not loaded yet. -/
def pending (m : Manifest α) : List String :=
  (m.dependencies.filter (·.2.isNone)).map (·.1)

/-- Keeps the value of a dependency. -/
def settle (m : Manifest α) (path : String) (value : α) : Manifest α :=
  { m with
    dependencies := m.dependencies.map fun d => if d.1 == path then (path, some value) else d }

/-- The fault of a failed load.  A load that was merely called off, while the whole request was
not, has none. -/
def loadFault? (cancelled : Bool) (path : String) (f : Fault) : Option Fault :=
  if !cancelled && f.isCancelled then none
  else some ((Fault.make .dependencyFailed [("Name", path)]).because f)

/-- One fault for all failed loads, in the order of their texts. -/
def joinFaults (fs : List Fault) : Fault :=
  let sorted := fs.mergeSort fun a b => Text.textLe a.text b.text
  { nature := .plain, message := "\n".intercalate (sorted.map Fault.text), causes := sorted }

/-- What a request for all pending dependencies comes to, given what each load came to: the
successful loads are kept whatever the others did. -/
def request (m : Manifest α) (cancelled : Bool) (outcomes : List (String × Except Fault α)) :
    Manifest α × Except Fault Unit :=
  let step := fun (acc : Manifest α × List Fault) (o : String × Except Fault α) =>
    match o.2 with
    | .ok value => (acc.1.settle o.1 value, acc.2)
    | .error f => (acc.1, acc.2 ++ (loadFault? cancelled o.1 f).toList)
  let (m, faults) := outcomes.foldl step (m, [])
  if cancelled then (m, .error .cancelled)
  else if faults.isEmpty then (m, .ok ())
  else (m, .error (joinFaults faults))

/-- The fault of a request when nothing can be loaded. -/
def noLoader (m : Manifest α) : Except Fault Unit :=
  match m.pending with
  | [] => .ok ()
  | path :: _ => .error (Fault.make .dependencyMissing [("Name", path)])

/-- Adds a text to translate, once. -/
def translate (m : Manifest α) (key : TranslationKey) : Manifest α :=
  if m.translations.contains key then m
  else { m with translations := m.translations ++ [key] }

/-- Defines an inline template, which must not be defined yet. -/
def define (m : Manifest α) (name : String) (line column : Int) : Except Fault (Manifest α) :=
  if m.templates.any (·.1 == name) then
    .error ((Fault.make .duplicateTemplate [("Name", name)]).moved line column)
  else .ok { m with templates := m.templates ++ [(name, line)] }

/-- The line that an inline template is defined on. -/
def templateLine? (m : Manifest α) (name : String) : Option Int :=
  (m.templates.find? (·.1 == name)).map (·.2)

end Manifest

end Trellis
