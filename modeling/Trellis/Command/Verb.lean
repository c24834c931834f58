/-
The commands: what can be done with the modules below a root.
-/
import Trellis.Loader.Basic
import Trellis.Locale.Catalog
import Trellis.Settings.Basic
import Trellis.Shell.Basic
import Trellis.Text.Quoted
import Trellis.Text.Search
import Trellis.Value.Memory
import Trellis.Yaml.Decode

/-!
The command line, and what a command works with.

A flag starts with one dash or two.  Its value follows after `=` or as the next argument; a switch
takes a value only after `=`.  Flags end at the first argument that is none, or after `--`.

A command works with the settings, the loader that they ask for, and where it writes to.
-/

namespace Trellis.Command

/-! ### Flags -/

/-- What a flag takes: a text, or whether it is on, with what holds when it is not given. -/
inductive FlagKind where
  | text
  | switch (usual : Bool)
deriving DecidableEq

/-- A flag that can be given. -/
structure Flag where
  name : String
  /-- what it is for -/
  note : String
  kind : FlagKind := .text

/-- The flags of a command. -/
structure FlagSet where
  command : String
  flags : List Flag := []

/-- What is wrong with arguments. -/
inductive FlagTrouble where
  /-- the user asked for help -/
  | help
  | malformed (arg : String)
  | unknown (name : String)
  | noValue (name : String)
  | notBool (name value : String)
deriving DecidableEq

/-- The wording of a trouble. -/
def FlagTrouble.message : FlagTrouble → String
  | .help => "flag: help requested"
  | .malformed arg => "bad flag syntax: " ++ arg
  | .unknown name => "flag provided but not defined: -" ++ name
  | .noValue name => "flag needs an argument: -" ++ name
  | .notBool name value =>
    "invalid boolean value " ++ Text.quote value ++ " for -" ++ name ++ ": parse error"

/-- What was chosen, the last choice first, and the arguments that are no flags. -/
structure Choices where
  texts : List (String × String) := []
  switches : List (String × Bool) := []
  rest : List String := []

namespace Choices

/-- The text that was chosen; empty when there is none. -/
def text (c : Choices) (name : String) : String :=
  ((c.texts.find? (·.1 == name)).map (·.2)).getD ""

/-- Whether a switch is on, when it is not otherwise on. -/
def isOn (c : Choices) (name : String) (usual : Bool) : Bool :=
  ((c.switches.find? (·.1 == name)).map (·.2)).getD usual

end Choices

/-- What an argument is. -/
inductive Argument where
  /-- the mark that ends flags -/
  | stop
  | plain
  | malformed
  | flag (name : String) (value : Option String)

namespace Argument

/-- The name and the value of a flag, parted by the first `=` that is not in front. -/
def ofFlag : List Char → Argument
  | [] => .malformed
  | c :: cs =>
    if c == '-' || c == '=' then .malformed
    else
      let name := String.ofList (c :: cs.takeWhile (· != '='))
      match cs.dropWhile (· != '=') with
      | _ :: value => .flag name (some (String.ofList value))
      | [] => .flag name none

/-- What an argument is. -/
def ofText (arg : String) : Argument :=
  match arg.toList with
  | ['-', '-'] => .stop
  | '-' :: '-' :: cs => ofFlag cs
  | '-' :: c :: cs => ofFlag (c :: cs)
  | _ => .plain

end Argument

/-- The truth value that a text is. -/
def truth? (s : String) : Option Bool :=
  if ["1", "t", "T", "TRUE", "true", "True"].contains s then some true
  else if ["0", "f", "F", "FALSE", "false", "False"].contains s then some false
  else none

namespace Flag

/-- The lines that explain a flag. -/
def usage (f : Flag) : String :=
  let head := match f.kind with
    | .text => "  -" ++ f.name ++ " string"
    | .switch _ => "  -" ++ f.name
  let usual := if f.kind = .switch true then " (default true)" else ""
  head ++ (if head.utf8ByteSize ≤ 4 then "\t" else "\n    \t") ++ f.note ++ usual ++ "\n"

end Flag

namespace FlagSet

/-- What the flag with a name takes. -/
def kind? (f : FlagSet) (name : String) : Option FlagKind :=
  (f.flags.find? (·.name == name)).map (·.kind)

/-- The text that explains all flags, in the order of their names. -/
def usage (f : FlagSet) : String :=
  let sorted := f.flags.mergeSort fun a b => Text.textLe a.name b.name
  "Usage of " ++ f.command ++ ":\n" ++ String.join (sorted.map (·.usage))

/-- Reads arguments onto what was chosen before them. -/
def parseOnto (f : FlagSet) (c : Choices) : List String → Except FlagTrouble Choices
  | [] => .ok c
  | arg :: rest =>
    match Argument.ofText arg with
    | .stop => .ok { c with rest }
    | .plain => .ok { c with rest := arg :: rest }
    | .malformed => .error (.malformed arg)
    | .flag name value =>
      match f.kind? name, value with
      | none, _ => .error (if name == "help" || name == "h" then .help else .unknown name)
      | some (.switch _), none => parseOnto f { c with switches := (name, true) :: c.switches } rest
      | some (.switch _), some v =>
        match truth? v with
        | some b => parseOnto f { c with switches := (name, b) :: c.switches } rest
        | none => .error (.notBool name v)
      | some .text, some v => parseOnto f { c with texts := (name, v) :: c.texts } rest
      | some .text, none =>
        match rest with
        | v :: more => parseOnto f { c with texts := (name, v) :: c.texts } more
        | [] => .error (.noValue name)

/-- Reads arguments. -/
def parse (f : FlagSet) (args : List String) : Except FlagTrouble Choices := f.parseOnto {} args

/-- What is written about a trouble: its wording, and the flags that there are. -/
def complaint (f : FlagSet) (t : FlagTrouble) : String :=
  (if t = .help then "" else t.message ++ "\n") ++ f.usage

end FlagSet

/-! ### What a command works with -/

/-- What a program is started with. -/
structure Start where
  args : List String
  env : String → String := fun _ => ""
  /-- the folder of the user -/
  home : String := ""
  files : Files := {}
  /-- what can be read from the input -/
  input : String := ""
  /-- the time for the log -/
  now : String := ""
  /-- the work was called off -/
  cancelled : Bool := false

/-- What a program leaves behind. -/
structure Outcome where
  output : String := ""
  complaints : String := ""
  fault : Option Fault := none
  files : Files
  /-- the input that was not read -/
  input : String

/-- Reads all of the input. -/
def readInput : Load String := modifyGet fun s => (s.input, { s with input := "" })

/-- Writes a file into a folder, which is made when it is missing. -/
def writeFile (path body : String) : Load Unit := do
  let files ← ofExcept ((← get).files.makeFolder (Path.folder path))
  modify fun s => { s with files }
  let files ← ofExcept (files.write path body)
  modify fun s => { s with files }

/-- What commands work with. -/
structure App where
  settings : Settings
  options : Loader.Options
  /-- the translations of the locale -/
  dictionary : Dictionary

/-- The channel of the log; a file is made ready for it. -/
def logChannel (s : Settings) (files : Files) : Except Fault (Log.Channel × Files) :=
  match s.log.output with
  | "stderr" | "" => .ok (.complaints, files)
  | "stdout" => .ok (.output, files)
  | path => do
    let files ← (files.makeFolder (Path.folder path)).mapError (.about "creating log directory")
    let body := match files.read path with
      | .ok body => body
      | .error _ => ""
    return (.file path, ← (files.write path body).mapError (.about "opening log file"))

/-- Opens the store that settings ask for. -/
def openStore (s : StoreSettings) (cancelled : Bool) : Load Unit := do
  let (store, files) ← ofExcept
    (Store.start (← get).files s.driver s.address.value s.compress)
  if cancelled then throw ((Store.notOpened "sqlite").because .cancelled)
  modify fun st => { st with store := some store, files }
  Loader.log .debug "store opened"
    [("driver", .text s.driver), ("dsn", .text s.address.shown)]

/-- Makes everything ready that settings ask for. -/
def App.start (s : Settings) (cancelled : Bool) : Load App := do
  let zone := (Locale.Zone.ofName? s.zoneName).getD {}
  let formats ← ofExcept (Formats.ofNames s.locale.locale s.locale.currency zone)
  let catalog : Locale.Catalog ← if s.locale.folder.isEmpty then pure []
    else ofExcept (Locale.Catalog.loadFolder [] (← get).files s.locale.folder)
  let (tag, dictionary) ← ofExcept (catalog.serve s.locale.locale)
  Loader.log .debug "translations"
    [("locale", .text tag.text), ("loaded", .list (catalog.locales.map .text))]
  if s.store.enabled then openStore s.store cancelled
  modify fun st => { st with cache := .ofCapacity s.cacheSize }
  return {
    settings := s
    dictionary
    options := {
      names := .ofLead s.root s.modulePrefix
      toolkit := {
        formats := some formats, translate := dictionary.translate
        resourceRoot := s.resourceRoot, logs := true }
      promoteText := s.translateText
      cancelled } }

/-- Reads the arguments of a command; what is wrong with them is complained about. -/
def choices (f : FlagSet) (args : List String) : Load Choices := do
  match f.parse args with
  | .ok c => return c
  | .error t =>
    Loader.report (.complaint (f.complaint t))
    throw (.plain t.message)

end Trellis.Command

namespace Trellis.Memory

/-! Data for templates from YAML documents. -/

mutual
/-- Keeps the value of a document.  Whole numbers count as any other number, except in a table,
which is kept `exact`. -/
def ofYaml (exact : Bool) : Yaml.Value → Run Value
  | .null => return .null
  | .bool b => return .bool b
  | .int n => return if exact then .whole (if n < power 2 63 then .int else .uint64) n
      else .number (Float.ofInt n)
  | .float x => return .number x
  | .time t => return .instant t
  | .text s => return .text s
  | .list items => do newList (← ofYamlItems exact items)
  | .map entries => do newObject (Fields.ofList (← ofYamlFields exact entries))
  | .table entries => do
    return .typedMap .any .any (← alloc (.entries (← ofYamlEntries entries)))

def ofYamlItems (exact : Bool) : List Yaml.Value → Run (List Value)
  | [] => return []
  | d :: ds => do
    let v ← ofYaml exact d
    return v :: (← ofYamlItems exact ds)

def ofYamlFields (exact : Bool) : List (String × Yaml.Value) → Run Fields
  | [] => return []
  | (name, d) :: ds => do
    let v ← ofYaml exact d
    return (name, v) :: (← ofYamlFields exact ds)

def ofYamlEntries : List (Yaml.Value × Yaml.Value) → Run (List (Value × Value))
  | [] => return []
  | (k, d) :: ds => do
    let key ← ofYaml true k
    let v ← ofYaml true d
    return (key, v) :: (← ofYamlEntries ds)
end

/-- Keeps the data of a template. -/
def ofYamlData (fields : List (String × Yaml.Value)) : Run Value := ofYaml false (.map fields)

end Trellis.Memory

namespace Trellis.Command

/-- The version of the program. -/
def version : String := "0.1.0-dev"

/-- What can be done. -/
inductive Verb where
  | compile | render | check | keys | watch | shell
deriving DecidableEq

/-- The name of a command. -/
def Verb.name : Verb → String
  | .compile => "compile"
  | .render => "render"
  | .check => "check"
  | .keys => "keys"
  | .watch => "watch"
  | .shell => "repl"

/-- The command with a name. -/
def Verb.ofName? (name : String) : Option Verb :=
  [Verb.compile, .render, .check, .keys, .watch, .shell].find? (·.name == name)

/-- The flags of a command. -/
def Verb.flags (v : Verb) (s : Settings) : FlagSet where
  command := "wml " ++ v.name
  flags := match v with
    | .compile => [{ name := "out", note := "Write <module>.json files to this directory" }]
    | .render => [
      { name := "data", note := "YAML or JSON file with the template data (- for stdin)" },
      { name := "vdom", note := "Print the node tree instead of HTML"
        kind := .switch (s.generator == "vdom") },
      { name := "dirty", note := "Print the dirty-check values instead of rendering"
        kind := .switch false }]
    | .keys => [{ name := "missing", note := "Only keys without a translation in the locale"
                  kind := .switch false }]
    | _ => []

/-- No host comes with the program. -/
def workshop : Workshop := {}

namespace App

variable (a : App)

/-- The modules that were named, or all of them. -/
def modules (names : List String) : Load (List String) :=
  if names.isEmpty then Loader.modules a.options else return names

/-- Shows what is wrong with a file. -/
def sayFailure (file : String) (f : Fault) : Load Unit :=
  Loader.say (match f.catalogued? with
    | some g => "FAIL " ++ (if g.file.isEmpty then g.inFile file else g).pretty ++ "\n"
    | none => "FAIL " ++ file ++ ": " ++ f.text ++ "\n")

/-- A description for readers. -/
def written (d : Description) : Except Fault String :=
  match d.document? with
  | some doc => .ok (Json.indented true 0 doc ++ "\n")
  | none => .error (Loader.unwritable d.document)

/-- The file for the description of a module. -/
def descriptionFile (folder module : String) : String :=
  let steps := Registry.normalize (Text.dropFront module a.settings.modulePrefix)
  Path.join [folder, steps ++ ".json"]

/-- Shows the descriptions of modules, or writes them to a folder. -/
def compile (c : Choices) : Load Unit := do
  if c.rest.isEmpty then throw (.plain "compile: no modules given")
  for name in c.rest do
    let t ← Loader.template (← Loader.load a.options name)
    let text ← ofExcept (written t.description)
    if (c.text "out").isEmpty then Loader.say text
    else
      let path := a.descriptionFile (c.text "out") t.description.module
      writeFile path text
      Loader.say ("wrote " ++ path ++ "\n")

/-- The data for a template: from a file, from the input for `-`, or none. -/
def readData (path : String) : Load Value := do
  if path.isEmpty then Loader.inMemory (Memory.newObject [])
  else
    let text ← if path == "-" then readInput
      else ofExcept (((← get).files.read path).mapError (.about "reading data"))
    let fields ← ofExcept ((Yaml.parseMap text).mapError (.about ("parsing data " ++ path)))
    Loader.inMemory (Memory.ofYamlData fields)

/-- Shows the watched slots of a template with their values. -/
def sayWatched (t : Template) (data : Value) : Load Unit := do
  for (k, v) in ← Loader.inMemory (t.watchedSlots workshop data) do
    let text ← match v with
      | .unreachable => pure "unreachable"
      | v => Loader.inMemory (v.toText workshop.renderer.machine)
    Loader.say (Text.natText k ++ ": " ++ text ++ "\n")

/-- Renders a module. -/
def render (c : Choices) : Load Unit := do
  match c.rest with
  | [name] =>
    let data ← readData (c.text "data")
    let t ← Loader.template (← Loader.load a.options name)
    if c.isOn "dirty" false then sayWatched t data
    else
      let asNodes := c.isOn "vdom" (a.settings.generator == "vdom")
      let ns ← Loader.invoke workshop t {
        data, style := if asNodes then .tree else .text false
        throws := a.settings.exceptionMode == "throw", logs := true }
      Loader.say (if asNodes then Rendered.outlineList 0 ns else Rendered.htmlList false ns ++ "\n")
  | _ => throw (.plain "render: expected one module")

/-- Checks one module, and says whether it is fine. -/
def checkModule (name : String) : Load Bool := do
  let module := a.options.names.moduleOf name
  let file := a.options.names.fileOf module
  match (← get).files.read file >>= Loader.check a.options module with
  | .ok _ =>
    Loader.say ("ok   " ++ module ++ "\n")
    return true
  | .error f =>
    sayFailure file f
    return false

/-- Reads and annotates modules. -/
def check (c : Choices) : Load Unit := do
  let names ← a.modules c.rest
  let fine ← names.mapM a.checkModule
  let failed := fine.countP (!·)
  if 0 < failed then
    throw (.plain (Text.natText failed ++ " of " ++ Text.natText names.length ++
      " templates failed"))

/-- The translation keys of modules, each once. -/
def translationKeys (names : List String) : Load (List (String × String)) := do
  let keys ← names.mapM fun name => do
    return (← Loader.template (← Loader.load a.options name)).description.translations
  return keys.flatten.foldl (fun acc k => if acc.contains k then acc else acc ++ [k]) []

/-- Shows the outline of a dictionary for the translation keys of modules. -/
def keys (c : Choices) : Load Unit := do
  let keys ← a.translationKeys (← a.modules c.rest)
  let keys := if c.isOn "missing" false then
      keys.filter fun k => a.dictionary.isMissing k.1 k.2
    else keys
  if !keys.isEmpty then Loader.say (Dictionary.outline keys)

/-- Loads all modules and says which cannot be loaded, before changes are watched for. -/
def watch : Load Unit := do
  for name in ← Loader.modules a.options do
    match ← Loader.attempt (Loader.load a.options name) with
    | .ok _ => pure ()
    | .error f => sayFailure (a.options.names.fileOf name) f
  Loader.log .info "watching" [("root", .text a.settings.root)]

/-- Starts the shell, which is never called off. -/
def shell : Load Unit := do
  Shell.run workshop { a.options with cancelled := false } version (← readInput)

/-- Does what a command says. -/
def perform (v : Verb) (args : List String) : Load Unit := do
  if v = .shell then a.shell
  else
    let c ← choices (v.flags a.settings) args
    match v with
    | .compile => a.compile c
    | .render => a.render c
    | .check => a.check c
    | .keys => a.keys c
    | .watch | .shell => a.watch

end App

end Trellis.Command
