/-
Loading modules: templates from files, with all that they depend on.

A module is compiled once and kept as long as the text of its file stays the same.  Compiled
templates may also be kept in a store, from which they are taken again while their text has the
same digest.  A module that is loaded may not depend on itself.
-/
import Trellis.Description.Compile
import Trellis.Digest
import Trellis.Log.Event
import Trellis.Files
import Trellis.Loader.Cache
import Trellis.Value.Memory
import Trellis.Render.Template
import Trellis.Store

namespace Trellis.Loader

/-!
Names of modules and the files that they stand for.

The module `wml!Controls/List` is kept in the file `Controls/List.wml` below the root.  Dots
between the steps of a name count as slashes, so that no name leads out of the root.
-/

/-- The ending of files with templates. -/
def fileEnding : String := ".wml"

/-- Where modules are, and how their names start. -/
structure Names where
  root : String
  lead : String := Registry.loaderMark

namespace Names

/-- Names that start in the usual way unless another way is given. -/
def ofLead (root lead : String) : Names :=
  { root, lead := if lead.isEmpty then Registry.loaderMark else lead }

/-- A path as it is below the root, if it is. -/
def belowRoot (n : Names) (path : String) : String :=
  if Path.isRooted path && !n.root.isEmpty then
    match Path.relative? n.root path with
    | some r => if Text.startsWith r ".." then path else r
    | none => path
  else path

/-- The name of a module without its start, spelled with slashes. -/
def steps (n : Names) (name : String) : String := Registry.normalize (Text.dropFront name n.lead)

/-- The name of the module in a file. -/
def moduleOf (n : Names) (path : String) : String :=
  n.lead ++ n.steps (Text.dropBack (n.belowRoot path) fileEnding)

/-- The file of a module. -/
def fileOf (n : Names) (module : String) : String :=
  Path.join [n.root, n.steps module ++ fileEnding]

end Names

end Trellis.Loader

namespace Trellis

namespace Loader

/-- How modules are loaded. -/
structure Options where
  names : Names
  /-- what templates can call on -/
  toolkit : Toolkit := {}
  /-- plain text is to be translated -/
  promoteText : Bool := false
  /-- constants are computed when a template is compiled -/
  folds : Bool := true
  /-- the work was called off -/
  cancelled : Bool := false

/-- The decorators that templates can use. -/
def Options.decorators (o : Options) : List String :=
  if o.toolkit.formats.isSome then StandardDecorator.names else []

/-- All that loading, and what uses what is loaded, reads and changes. -/
structure State where
  memory : Memory := {}
  files : Files := {}
  /-- what can be read from the input -/
  input : String := ""
  store : Option Store := none
  /-- where the templates are that were loaded -/
  cache : Cache Nat := .ofCapacity 0
  registry : Registry := []
  /-- what was written -/
  reports : List Log.Report := []

/-- What was logged. -/
def State.events (s : State) : List Log.Event := s.reports.filterMap (·.event?)

end Loader

/-- Work of the loader. -/
abbrev Load := ExceptT Fault (StateM Loader.State)

namespace Loader

/-- Writes something. -/
def report (r : Log.Report) : Load Unit := modify fun s => { s with reports := s.reports ++ [r] }

/-- Writes text for the user. -/
def say (text : String) : Load Unit := report (.output text)

/-- Work on memory.  The lines that it logs become events. -/
def inMemory {α : Type} (work : Run α) : Load α := do
  let s ← get
  let (r, memory) := work.run s.memory
  let lines := memory.log.toList.map fun line => Log.Report.event (.say [line])
  set { s with memory := { memory with log := #[] }, reports := s.reports ++ lines }
  ExceptT.mk (pure r)

/-- Logs an event. -/
def log (severity : Log.Severity) (message : String) (details : List (String × Datum)) :
    Load Unit :=
  report (.event { severity, message, details := details.map fun (k, d) => .ofDatum k d })

/-- What came of work that may fail. -/
def attempt {α : Type} (work : Load α) : Load (Except Fault α) :=
  ExceptT.mk do return .ok (← work.run)

/-- A fault of the catalog in a file, unless it names one. -/
def inFile (file : String) (f : Fault) : Fault :=
  if file.isEmpty || f.label?.isNone || !f.file.isEmpty then f else f.inFile file

/-- The first number of a document that cannot be written. -/
def unwritable (d : Datum) : Fault :=
  .plain ("json: unsupported value: " ++ ((Json.unwritable? d).map (Text.floatText .general)).getD
    "")

variable (o : Options)

/-- The stored description of a module, if it was built from a text with the given digest. -/
def stored (module digest : String) : Load (Option Description) := do
  let warn := fun (message : String) (f : Fault) => do
    log .warn message [("module", .text module), ("error", .text f.text)]
    return none
  match (← get).store with
  | none => return none
  | some store =>
    match store.lookup module digest with
    | .error f => warn "store lookup failed" f
    | .ok none => return none
    | .ok (some data) =>
      match Description.parse (some o.decorators) data with
      | .error f => warn "discarding stored artifact" f
      | .ok d =>
        log .debug "artifact reused" [("module", .text module)]
        return some d

/-- Keeps the description of a module in the store. -/
def persist (module digest : String) (d : Description) : Load Unit := do
  let s ← get
  match s.store with
  | none => return
  | some store =>
    let kept := match d.document? with
      | some doc => store.put module digest (Json.text true doc)
      | none => .error (unwritable d.document)
    match kept with
    | .ok store => set { s with store := some store, files := store.save s.files }
    | .error f => log .warn "store write failed" [("module", .text module), ("error", .text f.text)]

/-- Loads dependencies, each in its turn; `load` loads a module.  Components of the host need no
file. -/
def require (load : String → Load Nat) (m : Manifest Unit) : Load Unit := do
  let outcomes ← m.pending.mapM fun name => do
    match (← get).registry.find? name with
    | some (.template _) | none => do
      return (name, (← attempt (load name)).map fun _ => ())
    | some _ => return (name, .ok ())
  if outcomes.isEmpty then return
  ExceptT.mk (pure (m.request o.cancelled outcomes).2)

/-- The description of a template, after all that it depends on was loaded. -/
def describe (load : String → Load Nat) (module file source : String) : Load Description := do
  let name := if file.isEmpty then module else file
  let nodes ← ExceptT.mk (pure (Markup.read { file := name, promoteText := o.promoteText } source))
  let a : Annotated Unit ← ExceptT.mk
    (pure ((Annotated.ofNodes module nodes).mapError (inFile file)))
  require o load a.manifest
  let options : Description.Options := { module, decorators := some o.decorators, folds := o.folds }
  let d ← ExceptT.mk (pure ((Description.ofAnnotated options a).mapError (inFile file)))
  log .info "compiled" [("module", .text module),
    ("expressions", .number d.expressions.size.toFloat),
    ("dependencies", .number d.dependencies.length.toFloat)]
  return d

/-- Loads a module whose dependents `chain` lists; modules may depend on each other `depth` deep. -/
def loadTo : Nat → List String → String → Load Nat
  | 0, _, name => throw (.plain ("too many dependencies: " ++ name))
  | depth + 1, chain, name => do
    let module := o.names.moduleOf name
    if chain.contains module then
      throw (Fault.make .circularDependency
        [("Chain", " -> ".intercalate (chain ++ [module]))])
    let file := o.names.fileOf module
    let source ← match (← get).files.read file with
      | .ok source => pure source
      | .error f => throw ((Fault.make .unreadableTemplate [("Path", file)]).because f)
    let digest := Digest.ofText source
    let (hit, cache) := (← get).cache.get module digest
    modify fun s => { s with cache }
    match hit with
    | some at_ => return at_
    | none => do
      let load := loadTo depth (chain ++ [module])
      let d ← match ← stored o module digest with
        | some d => do
          require o load (d.dependencies.foldl Manifest.require {})
          pure d
        | none => do
          let d ← describe o load module file source
          persist module digest d
          pure d
      let t ← ExceptT.mk (pure (Template.ofDescription d o.toolkit))
      let at_ ← inMemory (Memory.newTemplate t)
      modify fun s => { s with
        cache := s.cache.set module digest at_
        registry := s.registry.register module (.template at_) }
      return at_

/-- How many characters all files and artifacts have.  Every dependency is written in one of them,
so no chain of dependencies is longer. -/
def State.size (s : State) : Nat :=
  let texts := (s.files.tree.texts (fun _ => false) []).map (·.2.length)
  let kept := match s.store with
    | some store => store.shelf.map (·.data.length)
    | none => []
  (texts ++ kept).foldl Nat.add 0

/-- Loads a module. -/
def load (name : String) : Load Nat := do loadTo o ((← get).size + 2) [] name

/-- Compiles a template that is in no file; what it depends on is loaded. -/
def compile (name source : String) : Load Description := do
  let fuel := (← get).size + source.length + 2
  describe o (loadTo o fuel []) (o.names.moduleOf name) "" source

/-- Reads and annotates a template, without what it depends on. -/
def check (module source : String) : Except Fault (Annotated Unit) := do
  Annotated.ofNodes module (← Markup.read { file := module, promoteText := o.promoteText } source)

/-- The modules below the root, folder by folder; folders whose name starts with a dot are left
out. -/
def modules : Load (List String) := do
  match (← get).files.below o.names.root (Text.startsWith · ".") with
  | .ok found =>
    return (found.filter fun f => Path.ending f.1 == fileEnding).map fun f => o.names.moduleOf f.1
  | .error f => throw ((Fault.make .unreadableTemplate [("Path", o.names.root)]).because f)

/-- Forgets a module that was loaded. -/
def invalidate (name : String) : Load Unit :=
  modify fun s => { s with cache := s.cache.erase (o.names.moduleOf name) }

/-- A template that was loaded. -/
def template (at_ : Nat) : Load Template := do
  match (← get).memory.templates[at_]? with
  | some t => return t
  | none => throw (.plain "no such template")

/-- Renders a template, which can use all that was loaded. -/
def invoke (w : Workshop) (t : Template) (i : Invocation) : Load (List Rendered) := do
  let registry := some (← get).registry
  inMemory (w.render t { i with registry })

end Loader

end Trellis
