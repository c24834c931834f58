/-
Settings: where templates are, how they are rendered, and what is kept and logged.
-/
import Trellis.Files
import Trellis.Locale.Tag
import Trellis.Locale.Zone.History
import Trellis.Text.Case
import Trellis.Text.Quoted
import Trellis.Yaml.Decode
import Trellis.Yaml.Writer

namespace Trellis

/-- A text that may have to be kept out of logs. -/
structure Secret where
  value : String
  hidden : Bool := false

namespace Secret

/-- The text as it may be logged. -/
def shown (s : Secret) : String := if s.hidden && !s.value.isEmpty then "[hidden]" else s.value

/-- The tag that marks a text as hidden. -/
def tag : String := "!secret"

/-- The text as a YAML document. -/
def yaml (s : Secret) : String :=
  if s.hidden then Yaml.taggedText tag s.value else (Yaml.Draft.text s.value).write

end Secret

/-- The settings for the store of compiled templates. -/
structure StoreSettings where
  enabled : Bool := false
  driver : String := "sqlite"
  address : Secret := { value := ".wml/cache.db" }
  compress : Bool := true

/-- The settings for locale and translations. -/
structure LocaleSettings where
  locale : String := "en-US"
  /-- the folder with dictionaries -/
  folder : String := ""
  currency : String := "USD"
  timezone : String := "UTC"

/-- The settings for the log. -/
structure LogSettings where
  level : String := "info"
  format : String := "text"
  /-- `stderr`, `stdout` or a file -/
  output : String := "stderr"

/-- All settings. -/
structure Settings where
  /-- the folder in which relative paths start -/
  base : String := ""
  /-- the folder with templates -/
  root : String := "."
  modulePrefix : String := "wml!"
  resourceRoot : String := "/"
  generator : String := "string"
  exceptionMode : String := "log"
  translateText : Bool := false
  locale : LocaleSettings := {}
  store : StoreSettings := {}
  cacheSize : Int := 256
  /-- how long changes are gathered, in nanoseconds -/
  debounce : Int := 100000000
  log : LogSettings := {}

namespace Settings

/-- Settings whose relative paths start in their folder. -/
def resolved (s : Settings) : Settings :=
  let full := fun (p : String) =>
    if p.isEmpty || Path.isRooted p then p else Path.join [s.base, p]
  let address := s.store.address.value
  let inFile := (s.store.driver.isEmpty || s.store.driver == "sqlite") && address != ":memory:"
  let output := s.log.output
  { s with
    root := full s.root
    locale := { s.locale with folder := full s.locale.folder }
    store := { s.store with
      address := { s.store.address with value := if inFile then full address else address } }
    log := { s.log with
      output := if output == "stderr" || output == "stdout" then output else full output } }

/-- What is wrong with settings. -/
def problems (s : Settings) : List String :=
  let need := fun (fine : Bool) (text : String) => if fine then [] else [text]
  need (["vdom", "string"].contains s.generator)
    ("generator: " ++ Text.quote s.generator ++ " (must be vdom or string)") ++
  need (["log", "throw"].contains s.exceptionMode)
    ("exception_mode: " ++ Text.quote s.exceptionMode ++ " (must be log or throw)") ++
  need (s.modulePrefix.isEmpty || Text.endsWith s.modulePrefix "!")
    ("module_prefix: " ++ Text.quote s.modulePrefix ++ " (must end with !)") ++
  need (match Locale.Tag.parse s.locale.locale with
      | .ok _ => true
      | .error _ => false)
    ("i18n.locale: " ++ Text.quote s.locale.locale ++ " is not a BCP 47 tag") ++
  need (Locale.Zone.isName s.locale.timezone)
    ("i18n.timezone: " ++ Text.quote s.locale.timezone) ++
  need (["sqlite", "postgres", "mysql"].contains s.store.driver)
    ("store.driver: " ++ Text.quote s.store.driver ++ " (must be sqlite, postgres or mysql)") ++
  need (!s.store.enabled || !s.store.address.value.isEmpty)
    "store.dsn: required when the store is enabled" ++
  need (0 ≤ s.cacheSize)
    ("cache.size: " ++ Text.intText s.cacheSize ++ " (must not be negative)") ++
  need (0 ≤ s.debounce) "watch.debounce: must not be negative" ++
  need (["json", "text"].contains s.log.format)
    ("logging.format: " ++ Text.quote s.log.format ++ " (must be json or text)") ++
  need (["debug", "info", "warn", "warning", "error"].contains (Text.lower s.log.level))
    ("logging.level: " ++ Text.quote s.log.level)

/-- Settings with which nothing is wrong. -/
def checked (s : Settings) : Except Fault Settings :=
  match s.problems with
  | [] => .ok s
  | ps => .error (Fault.make .invalidConfig [("Reason", "; ".intercalate ps)])

/-- The name of the time zone. -/
def zoneName (s : Settings) : String :=
  if s.locale.timezone.isEmpty then "UTC" else s.locale.timezone

end Settings

end Trellis

/-!
Reading settings from a file.

The file is a YAML map.  What it does not say keeps its default, and so does what it says null
for.  Before it is read, `${NAME}` and `${NAME:-default}` are replaced from the environment.
-/

namespace Trellis.Settings

/-! ## The environment -/

/-- The name and the default of a reference to the environment, after its `${`, and the rest. -/
def reference? (cs : List Char) : Option (String × String × List Char) :=
  let name := cs.takeWhile fun c => c != '\x7d' && c != ':'
  if name.isEmpty then none
  else
    match cs.drop name.length with
    | '\x7d' :: rest => some (String.ofList name, "", rest)
    | ':' :: '-' :: more =>
      let default := more.takeWhile (· != '\x7d')
      match more.drop default.length with
      | _ :: rest => some (String.ofList name, String.ofList default, rest)
      | [] => none
    | _ => none

/-- A text with its references to the environment replaced. -/
def interpolate (env : String → String) : Nat → List Char → List Char
  | 0, cs => cs
  | _ + 1, [] => []
  | n + 1, c :: cs =>
    match c, cs with
    | '$', '\x7b' :: more =>
      match reference? more with
      | some (name, default, rest) =>
        let value := if (env name).isEmpty then default else env name
        value.toList ++ interpolate env n rest
      | none => c :: interpolate env n cs
    | _, _ => c :: interpolate env n cs

/-! ## Durations -/

/-- A unit of time in nanoseconds. -/
def unit? : String → Option Nat
  | "ns" => some 1
  | "us" | "\u00b5s" | "\u03bcs" => some 1000
  | "ms" => some 1000000
  | "s" => some 1000000000
  | "m" => some 60000000000
  | "h" => some 3600000000000
  | _ => none

/-- The number that decimal digits denote. -/
def digits (cs : List Char) : Nat := cs.foldl (fun n c => n * 10 + (c.toNat - 48)) 0

/-- The digits of a fraction: the number that they denote and the power of ten that it is to be
divided by.  Digits that do not fit in 63 bits count for nothing. -/
def fractionDigits : Nat → Float → List Char → Nat × Float
  | x, scale, [] => (x, scale)
  | x, scale, c :: cs =>
    let y := x * 10 + (c.toNat - 48)
    if x > (power 2 63 - 1) / 10 || y > power 2 63 then (x, scale)
      else fractionDigits y (scale * 10) cs

/-- A sum of numbers with units, of at most 64 bits. -/
def units? : Nat → List Char → Option Nat
  | 0, _ => none
  | _ + 1, [] => some 0
  | n + 1, cs => do
    let whole := cs.takeWhile Char.isDigit
    let rest := cs.drop whole.length
    let fraction := match rest with
      | '.' :: more => more.takeWhile Char.isDigit
      | _ => []
    let rest := match rest with
      | '.' :: more => more.drop fraction.length
      | rest => rest
    if whole.isEmpty && fraction.isEmpty then none
    let name := rest.takeWhile fun c => c != '.' && !c.isDigit
    let unit ← unit? (String.ofList name)
    let (parts, scale) := fractionDigits 0 1 fraction
    let part := (Text.truncToInt (Text.wholeFloat parts * (unit.toFloat / scale))).toNat
    let value := digits whole * unit + part
    let total := value + (← units? n (rest.drop name.length))
    if value > power 2 63 || total > power 2 63 then none
    return total

/-- The length of time that a text denotes, in nanoseconds. -/
def duration? (s : String) : Option Int := do
  let (negative, cs) := match s.toList with
    | '-' :: cs => (true, cs)
    | '+' :: cs => (false, cs)
    | cs => (false, cs)
  if cs == ['0'] then return 0
  if cs.isEmpty then none
  let n ← units? (cs.length + 1) cs
  if negative then (if n ≤ power 2 63 then some (-(n : Int)) else none)
  else (if n < power 2 63 then some (n : Int) else none)

/-! ## Fields -/

/-- Reads a field into settings; none when it is of the wrong type. -/
abbrev FieldReader (σ : Type) := Yaml.Node → σ → Option σ

/-- A field with a scalar, which null leaves as it is.  The text of the scalar counts as it is
spelled, unless it spells bytes. -/
def scalar {σ : Type} (set : Yaml.Scalar → String → Yaml.Meaning → σ → Option σ) : FieldReader σ :=
  fun n s =>
    match n.target with
    | .scalar c =>
      match c.meaning? with
      | some .null => some s
      | some m =>
        let spelled := match m with
          | .text t => if c.tag == "!!binary" then t else c.text
          | _ => c.text
        set c spelled m s
      | none => none
    | _ => none

/-- A text; numbers and the like count as they are spelled. -/
def text {σ : Type} (set : String → σ → σ) : FieldReader σ :=
  scalar fun _ t _ s => some (set t s)

/-- A truth value. -/
def bool {σ : Type} (set : Bool → σ → σ) : FieldReader σ :=
  scalar fun _ _ m s =>
    match m with
    | .bool b => some (set b s)
    | .text t =>
      if ["y", "Y", "yes", "on"].contains t then some (set true s)
      else if ["n", "N", "no", "off"].contains t then some (set false s)
      else none
    | _ => none

/-- A whole number of 64 bits.  Fractions are cut off, and a number that is too small counts as the
smallest one. -/
def int {σ : Type} (set : Int → σ → σ) : FieldReader σ :=
  scalar fun _ _ m s =>
    match m with
    | .int n => if n < power 2 63 then some (set n s) else none
    | .float x =>
      if x ≤ 9223372036854775808 then
        let n := if x > -9223372036854775808 then Text.truncToInt x else -(power 2 63)
        some (set (if n < power 2 63 then n else -(power 2 63)) s)
      else none
    | _ => none

/-- A length of time, given as text. -/
def duration {σ : Type} (set : Int → σ → σ) : FieldReader σ :=
  scalar fun _ _ m s =>
    match m with
    | .text t => (duration? t).map fun d => set d s
    | _ => none

/-- A text that may be hidden. -/
def secret {σ : Type} (set : Secret → σ → σ) : FieldReader σ :=
  scalar fun c t _ s => some (set { value := t, hidden := c.tag == Secret.tag } s)

/-- The fields of a map while they are read: the settings so far, and the names that were seen, in
this map or in those that it is merged into. -/
structure Progress (σ : Type) where
  settings : σ
  seen : List String := []

mutual
/-- Reads the entries of a map, each field at most once; entries that are merged come last, and
count for what the map does not say itself. -/
def entries {σ : Type} (fields : List (String × FieldReader σ)) (merging : Bool) :
    List (Yaml.Node × Yaml.Node) → Progress σ → Option (Progress σ)
  | [], p => some p
  | (k, v) :: es, p =>
    if k.isMerge then do
      let p ← entries fields merging es p
      if es.any (·.1.isMerge) then return p
      merged fields v p
    else do
      let (name, _) ← k.text?.run {}
      match name with
      | none => entries fields merging es p
      | some name =>
        let known := fields.find? (·.1 == name)
        if p.seen.contains name then
          if merging || known.isNone then entries fields merging es p else none
        else
          let settings ← match known with
            | some (_, read) => read v p.settings
            | none => some p.settings
          entries fields merging es { settings, seen := name :: p.seen }

/-- Reads the entries of a map that is merged, or of the maps in a list. -/
def merged {σ : Type} (fields : List (String × FieldReader σ)) :
    Yaml.Node → Progress σ → Option (Progress σ)
  | .map es, p | .alias _ (.map es), p =>
    if Yaml.Node.distinctKeys es then entries fields true es p else none
  | .list items, p => mergedAll fields items p
  | _, _ => none

def mergedAll {σ : Type} (fields : List (String × FieldReader σ)) :
    List Yaml.Node → Progress σ → Option (Progress σ)
  | [], p => some p
  | n :: ns, p => do
    if !n.isMap then none
    mergedAll fields ns (← merged fields n p)
end

/-- A map with known fields; other fields are not looked at. -/
def record {σ : Type} (fields : List (String × FieldReader σ)) : FieldReader σ := fun n s =>
  match n.target with
  | .map es =>
    if Yaml.Node.distinctKeys es then (entries fields false es { settings := s }).map (·.settings)
    else none
  | .scalar c =>
    match c.meaning? with
    | some .null => some s
    | _ => none
  | _ => none

/-- A map inside settings. -/
def inside {σ τ : Type} (get : σ → τ) (set : τ → σ → σ) (read : FieldReader τ) : FieldReader σ :=
  fun n s => (read n (get s)).map fun t => set t s

/-- The settings for locale and translations. -/
def localeFields : FieldReader LocaleSettings := record [
  ("locale", text fun v s => { s with locale := v }),
  ("dir", text fun v s => { s with folder := v }),
  ("currency", text fun v s => { s with currency := v }),
  ("timezone", text fun v s => { s with timezone := v })]

/-- The settings for the store. -/
def storeFields : FieldReader StoreSettings := record [
  ("enabled", bool fun v s => { s with enabled := v }),
  ("driver", text fun v s => { s with driver := v }),
  ("dsn", secret fun v s => { s with address := v }),
  ("compress", bool fun v s => { s with compress := v })]

/-- The settings for the log. -/
def logFields : FieldReader LogSettings := record [
  ("level", text fun v s => { s with level := v }),
  ("format", text fun v s => { s with format := v }),
  ("output", text fun v s => { s with output := v })]

/-- All settings. -/
def allFields : FieldReader Settings := record [
  ("root", text fun v s => { s with root := v }),
  ("module_prefix", text fun v s => { s with modulePrefix := v }),
  ("resource_root", text fun v s => { s with resourceRoot := v }),
  ("generator", text fun v s => { s with generator := v }),
  ("exception_mode", text fun v s => { s with exceptionMode := v }),
  ("translate_text", bool fun v s => { s with translateText := v }),
  ("i18n", inside (·.locale) (fun v s => { s with locale := v }) localeFields),
  ("store", inside (·.store) (fun v s => { s with store := v }) storeFields),
  ("cache", record [("size", int fun v s => { s with cacheSize := v })]),
  ("watch", record [("debounce", duration fun v s => { s with debounce := v })]),
  ("logging", inside (·.log) (fun v s => { s with log := v }) logFields)]

/-! ## Files -/

/-- The file with settings: the one that is given, the one that the environment names, the one in
the working folder, or the one of the user.  None of them has to be there. -/
def path? (files : Files) (env : String → String) (home explicit : String) :
    Except Fault (Option String) :=
  let named := env "WML_CONFIG"
  let user := Path.join [home, ".config", "wml", "wml.yaml"]
  if !explicit.isEmpty then
    if files.has explicit then .ok (some explicit)
    else .error (.plain ("config file not found: " ++ explicit))
  else if !named.isEmpty then
    if files.has named then .ok (some named)
    else .error (.plain ("WML_CONFIG file not found: " ++ named))
  else if files.has "wml.yaml" then .ok (some "wml.yaml")
  else if !home.isEmpty && files.has user then .ok (some user)
  else .ok none

/-- Loads settings, and says where they are from; the path is empty when all are defaults. -/
def load (files : Files) (env : String → String) (home explicit : String) :
    Except Fault (Settings × String) := do
  match ← path? files env home explicit with
  | none => return (Settings.resolved { base := files.here }, "")
  | some path =>
    let unreadable := fun (f : Fault) => (Fault.make .unreadableConfig [("Path", path)]).because f
    let body ← (files.read path).mapError unreadable
    let body := String.ofList (interpolate env (body.length + 1) body.toList)
    match (Yaml.parse? body).bind fun n => allFields n {} with
    | none => throw (unreadable Yaml.undecodable)
    | some s =>
      let full := files.full path
      return (← (Settings.resolved { s with base := Path.folder full }).checked, full)

end Trellis.Settings
