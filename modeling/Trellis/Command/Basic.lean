/-
The program: a command line is read, settings are loaded, and a command is run.
-/
import Trellis.Command.Verb

namespace Trellis.Command

/-- The flags that stand before a command. -/
def mainFlags : FlagSet where
  command := "wml"
  flags := [
    { name := "config", note := "Path to config file" },
    { name := "root", note := "Override template directory" },
    { name := "locale", note := "Override locale" },
    { name := "log-level", note := "Override log level" },
    { name := "no-store", note := "Do not use the artifact store", kind := .switch false },
    { name := "version", note := "Show version", kind := .switch false },
    { name := "help", note := "Show help", kind := .switch false }]

/-- What the program says about itself. -/
def usage : String := "\n".intercalate [
  "wml - A compiler for wml view templates",
  "",
  "Usage:",
  "  wml [options] <command> [arguments]",
  "",
  "Commands:",
  "  compile MODULE...      Print the compiled description of modules",
  "  render MODULE          Render a module to HTML",
  "  check [MODULE...]      Parse and annotate modules (default: all)",
  "  keys [MODULE...]       Print translation keys as a YAML dictionary",
  "  watch                  Recompile templates as they change",
  "  repl                   Start an interactive shell",
  "",
  "Options:",
  "  --config PATH      Path to config file (default: auto-detect)",
  "  --root DIR         Override template directory",
  "  --locale TAG       Override locale",
  "  --log-level LEVEL  Override log level",
  "  --no-store         Do not use the artifact store",
  "  --version          Show version",
  "  --help             Show this help",
  "",
  "Config Resolution:",
  "  1. --config flag",
  "  2. WML_CONFIG environment variable",
  "  3. ./wml.yaml",
  "  4. ~/.config/wml/wml.yaml",
  "",
  "Examples:",
  "  wml check                          Check every template under the root",
  "  wml render --data page.yaml Page   Render wml!Page with data",
  "  wml keys --missing                 List untranslated keys of the locale",
  "  wml --root views watch             Rebuild templates under views/",
  "",
  ""]

/-- Settings with what the command line says instead. -/
def overridden (s : Settings) (c : Choices) : Settings :=
  let or := fun (name usual : String) => if (c.text name).isEmpty then usual else c.text name
  { s with
    root := or "root" s.root
    locale := { s.locale with locale := or "locale" s.locale.locale }
    log := { s.log with level := or "log-level" s.log.level }
    store := { s.store with enabled := s.store.enabled && !c.isOn "no-store" false } }

/-- The settings for a command line, and the file that they are from. -/
def settings (p : Start) (c : Choices) : Except Fault (Settings × String) := do
  let (s, path) ← (Settings.load p.files p.env p.home (c.text "config")).mapError
    (.about "loading config")
  return (← (overridden s c).checked.mapError (.about "config validation"), path)

/-- What work with settings leaves behind; the log is written where they say. -/
def outcome (p : Start) (s : Settings) (work : Load Unit) : Outcome :=
  match logChannel s p.files with
  | .error f => { fault := some f, files := p.files, input := p.input }
  | .ok (log, files) =>
    let (r, state) := work.run { files, input := p.input }
    let style := Log.Style.ofNames s.log.level s.log.format p.now
    let on := fun (channel : Log.Channel) => Log.Report.allOn style log channel state.reports
    let files := match log with
      | .file path => state.files.put path (((state.files.read path).toOption.getD "") ++ on log)
      | _ => state.files
    { output := on .output, complaints := on .complaints, files, input := state.input
      fault := match r with
        | .ok () => none
        | .error f => some f }

/-- Runs a command with settings from a file, which may be none. -/
def runVerb (p : Start) (s : Settings) (path : String) (v : Verb) (args : List String) : Outcome :=
  outcome p s do
    let a ← App.start s p.cancelled
    if !path.isEmpty then Loader.log .debug "config loaded" [("path", .text path)]
    a.perform v args

/-- Runs the program. -/
def run (p : Start) : Outcome :=
  let done : Outcome := { files := p.files, input := p.input }
  let failed := fun (f : Fault) => { done with fault := some f }
  match mainFlags.parse p.args with
  | .error t => { failed (.plain t.message) with complaints := mainFlags.complaint t }
  | .ok c =>
    if c.isOn "help" false then { done with output := usage }
    else if c.isOn "version" false then { done with output := "wml version " ++ version ++ "\n" }
    else
      match c.rest with
      | [] => { failed (.plain "no command given") with complaints := usage }
      | name :: args =>
        match Verb.ofName? name with
        | none => failed (.plain ("unknown command " ++ Text.quote name ++ " (see wml --help)"))
        | some v =>
          match settings p c with
          | .error f => failed f
          | .ok (s, path) => runVerb p s path v args

end Trellis.Command

/-! The places that a run of the program looks at, so that they can be read before it starts. -/

namespace Trellis.Command

/-- A file, or the files below a folder that have one of some endings. -/
structure Place where
  path : String
  endings : List String := []

/-- Where settings may be. -/
def settingsPlaces (p : Start) : List Place :=
  let given := match mainFlags.parse p.args with
    | .ok c => c.text "config"
    | .error _ => ""
  let user := Path.join [p.home, ".config", "wml", "wml.yaml"]
  ([given, p.env "WML_CONFIG", "wml.yaml", user].filter (!·.isEmpty)).map fun path => { path }

/-- All that a run may look at, once its settings can be read: templates, dictionaries, the store,
the log, and what its arguments name. -/
def places (p : Start) : List Place :=
  match mainFlags.parse p.args with
  | .error _ => []
  | .ok c =>
    match settings p c with
    | .error _ => []
    | .ok (s, _) =>
      [{ path := s.root, endings := [Loader.fileEnding] },
        { path := s.locale.folder, endings := [".yaml", ".yml"] },
        { path := s.store.address.value }, { path := s.log.output }] ++
        c.rest.map fun path => { path, endings := [".json"] }

/-- The files that are not as they were, with their paths. -/
def changes (before after : Files) : List (String × String) :=
  let texts := fun (f : Files) => f.tree.texts (fun _ => false) []
  let old := texts before
  ((texts after).filter fun (names, body) => !old.contains (names, body)).map fun (names, body) =>
    (Path.ofNames true names, body)

end Trellis.Command
