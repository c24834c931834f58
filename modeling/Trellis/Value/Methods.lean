/-
What can be asked of instants, of lengths of time and of the other measures; of templates, of the
parts of their descriptions, and of rendered nodes.
-/
import Trellis.Html.Sanitize
import Trellis.Locale.Layout
import Trellis.Value.Property

namespace Trellis

/-! ### Instants and measures -/

namespace Moment

/-- The point in time that lies a number of nanoseconds later. -/
def add (t : Moment) (nanos : Int) : Moment := ofNanos (t.toNanos + nanos)

/-- The nanoseconds since the start of the year 1. -/
def sinceStart (t : Moment) : Int := t.toNanos - Instant.start.moment.toNanos

/-- The nanoseconds from `s` to `t`, as far as 64 bits reach. -/
def span (t s : Moment) : Int := max (-(power 2 63)) (min (power 2 63 - 1) (t.toNanos - s.toNanos))

end Moment

namespace Instant

/-- An instant with the same clock a number of nanoseconds later. -/
def add (t : Instant) (nanos : Int) : Instant := { t with moment := t.moment.add nanos }

/-- The instant at which the clock shows another date at the same time of day.  Months and days that
do not exist are counted on from those that do. -/
def addDate (t : Instant) (years months days : Int) : Instant :=
  let c := t.calendar
  let month := c.month - 1 + months
  let first := Calendar.daysOfDate (c.year + years + month.fdiv 12) ((month.fmod 12).toNat + 1) 1
  let day := first + c.day - 1 + days
  let seconds := day * 86400 + c.hour * 3600 + c.minute * 60 + c.second - t.clock.offset
  { t with moment := { t.moment with seconds } }

/-- The last multiple of a length of time since the start of the year 1. -/
def truncate (t : Instant) (nanos : Int) : Instant :=
  if nanos ≤ 0 then t else t.add (-(t.moment.sinceStart.emod nanos))

/-- The nearest multiple of a length of time since the start of the year 1; of two the later one. -/
def round (t : Instant) (nanos : Int) : Instant :=
  if nanos ≤ 0 then t
  else
    let r := t.moment.sinceStart.emod nanos
    t.add (if r + r < nanos then -r else nanos - r)

/-- The year to which the week of an instant belongs: that of its Thursday. -/
def weekYear (t : Instant) : Int :=
  let c := t.calendar
  let monday : Int := Calendar.daysOfDate c.year c.month c.day - (c.weekday + 6) % 7
  (Calendar.dateOfDays (monday + 3)).1

/-- An instant as an expression that makes it. -/
def code (t : Instant) : String :=
  let c := t.calendar
  let place := if t.clock == {} then "time.UTC"
    else "time.Location(" ++ Text.quote t.clock.name ++ ")"
  let numbers := [c.day, c.hour, c.minute, c.second, t.moment.nanos].map Text.natText
  "time.Date(" ++ Text.intText c.year ++ ", time." ++ Measure.month.text c.month ++ ", " ++
    ", ".intercalate numbers ++ ", " ++ place ++ ")"

end Instant

namespace Value

/-- A method with these parameters. -/
def methodOf (params : List HostType) (run : List Value → Run Value) : HostFunction :=
  ⟨"", .typed params none, fun _ _ args => run args⟩

/-- The whole number at a position of arguments. -/
def wholeAt (args : List Value) (k : Nat) : Int :=
  match args.getD k .undefined with
  | .whole _ n | .measure _ n => n
  | _ => 0

/-- The instant that is the first argument. -/
def instantArg (args : List Value) : Instant :=
  match args.headD .undefined with
  | .instant t => t
  | _ => Instant.start

/-- The bytes that are the first argument, with more after them. -/
def appended (args : List Value) (more : List Nat) : Run Value := do
  match args.headD .undefined with
  | .typedList _ at_ => bytesList ((← Memory.items at_).toList ++ more.map byteValue)
  | _ => bytesList (more.map byteValue)

/-- An instant as documents write it; years beyond 9999 have no such form. -/
def stampBytes (t : Instant) (method : String) (written : String → String) (args : List Value) :
    Run Value :=
  if t.calendar.year < 0 || t.calendar.year > 9999 then
    throw (.plain ("Time." ++ method ++ ": year outside of range [0,9999]"))
  else appended args (bytesOf (written t.stamp))

/-- An instant as bytes: a version, the seconds since the start of the year 1, the nanoseconds, and
the minutes by which the clock is ahead, `-1` for none, with the seconds that are left. -/
def packed (t : Instant) : List Nat :=
  let digits := fun (size : Nat) (n : Int) =>
    (List.range size).reverse.map fun k => ((n / power 256 k) % 256).toNat
  let left := t.clock.offset.tmod 60
  let minutes := if t.clock == {} then -1 else t.clock.offset.tdiv 60
  (if left == 0 then [1] else [2]) ++ digits 8 (t.moment.seconds - Instant.start.moment.seconds) ++
    digits 4 t.moment.nanos ++ digits 2 minutes ++ (if left == 0 then [] else digits 1 left)

/-- A method of an instant.  Of several results the first one counts. -/
def instantMethod? (t : Instant) (name : String) : Option HostFunction :=
  let c := t.calendar
  let give := fun (v : Value) => some (methodOf [] fun _ => return v)
  let count := fun (n : Int) => give (.whole .int n)
  let long := fun (n : Int) => give (.whole .int64 (WholeKind.int64.wrap n))
  let compare := fun (answer : Moment → Value) =>
    some (methodOf [.instant] fun args => return answer (instantArg args).moment)
  let moved := fun (f : Int → Instant) =>
    some (methodOf [.measure .duration] fun args => return .instant (f (wholeAt args 0)))
  let order := fun (u : Moment) => if t.moment.before u then -1 else if u.before t.moment then 1
    else 0
  match name with
  | "Year" | "Date" => count c.year
  | "ISOWeek" => count t.weekYear
  | "Month" => give (.measure .month c.month)
  | "Day" => count c.day
  | "Weekday" => give (.measure .weekday c.weekday)
  | "YearDay" => count c.yearDay
  | "Hour" | "Clock" => count c.hour
  | "Minute" => count c.minute
  | "Second" => count c.second
  | "Nanosecond" => count t.moment.nanos
  | "Unix" => long t.moment.seconds
  | "UnixMilli" => long (t.moment.toNanos.fdiv 1000000)
  | "UnixMicro" => long (t.moment.toNanos.fdiv 1000)
  | "UnixNano" => long t.moment.toNanos
  | "IsZero" => give (.bool (t.moment == Instant.start.moment))
  | "IsDST" => give (.bool false)
  | "UTC" | "Local" => give (.instant t.utc)
  | "Zone" => give (.text t.clock.name)
  | "ZoneBounds" => give (.instant Instant.start)
  | "Location" => give (.clock t.clock)
  | "In" => some (methodOf [.other "*time.Location"] fun args =>
      match args.headD .undefined with
      | .clock k => return .instant ⟨t.moment, k⟩
      | _ => throw (.plain "time: missing Location in call to Time.In"))
  | "String" => give (.text t.text)
  | "GoString" => give (.text t.code)
  | "Format" => some (methodOf [.text] fun args =>
      return .text (Locale.Layout.format (args.headD .undefined).asText t))
  | "AppendFormat" => some (methodOf [bytesType, .text] fun args =>
      appended args (bytesOf (Locale.Layout.format (args.getD 1 .undefined).asText t)))
  | "AppendText" => some (methodOf [bytesType] (stampBytes t name id))
  | "MarshalText" => some (methodOf [] (stampBytes t name id))
  | "MarshalJSON" => some (methodOf [] (stampBytes t name fun s => "\"" ++ s ++ "\""))
  | "AppendBinary" => some (methodOf [bytesType] fun args => appended args (packed t))
  | "MarshalBinary" | "GobEncode" => some (methodOf [] fun args => appended args (packed t))
  | "Before" => compare fun u => .bool (order u == -1)
  | "After" => compare fun u => .bool (order u == 1)
  | "Equal" => compare fun u => .bool (order u == 0)
  | "Compare" => compare fun u => .whole .int (order u)
  | "Sub" => compare fun u => .measure .duration (t.moment.span u)
  | "Add" => moved t.add
  | "Truncate" => moved t.truncate
  | "Round" => moved t.round
  | "AddDate" => some (methodOf [.whole .int, .whole .int, .whole .int] fun args =>
      return .instant (t.addDate (wholeAt args 0) (wholeAt args 1) (wholeAt args 2)))
  | _ => none

/-- A length of time in larger units. -/
def inUnits (n unit : Int) : Value :=
  .number (Float.ofInt (n.tdiv unit) + Float.ofInt (n.tmod unit) / Float.ofInt unit)

/-- A length of time cut to a multiple of another, or rounded to one, halves away from zero. -/
def durationTo (rounds : Bool) (n unit : Int) : Int :=
  if unit ≤ 0 then n
  else
    let r := n.tmod unit
    if !rounds || 2 * r.natAbs < unit then n - r
    else
      let m := if n < 0 then n - r - unit else n - r + unit
      max (-(power 2 63)) (min (power 2 63 - 1) m)

/-- A method of a measure: all can be shown, lengths of time can also be counted and rounded. -/
def measureMethod? (of : Measure) (n : Int) (name : String) : Option HostFunction :=
  let give := fun (v : Value) => some (methodOf [] fun _ => return v)
  match of, name with
  | of, "String" => give (.text (of.text n))
  | .duration, "Hours" => give (inUnits n 3600000000000)
  | .duration, "Minutes" => give (inUnits n 60000000000)
  | .duration, "Seconds" => give (inUnits n 1000000000)
  | .duration, "Milliseconds" => give (.whole .int64 (n.tdiv 1000000))
  | .duration, "Microseconds" => give (.whole .int64 (n.tdiv 1000))
  | .duration, "Nanoseconds" => give (.whole .int64 n)
  | .duration, "Abs" => give (.measure .duration (min n.natAbs (power 2 63 - 1)))
  | .duration, "Truncate" => some (methodOf [.measure .duration] fun args =>
      return .measure .duration (durationTo false n (wholeAt args 0)))
  | .duration, "Round" => some (methodOf [.measure .duration] fun args =>
      return .measure .duration (durationTo true n (wholeAt args 0)))
  | _, _ => none

end Value

end Trellis

namespace Trellis.Value

/-! ### Templates and nodes -/

/-- The text of a field of a record. -/
def textField (at_ : Nat) (name : String) : Run String := do
  return (((← Memory.fields at_).get? name).getD .undefined).asText

/-- The elements of a list in a field of a record. -/
def itemsField (at_ : Nat) (name : String) : Run (List Value) := do
  match (← Memory.fields at_).get? name with
  | some (.typedList _ items) => return (← Memory.items items).toList
  | _ => return []

/-- The elements of a list. -/
def itemsOf : Value → Run (List Value)
  | .list at_ | .typedList _ at_ => do return (← Memory.items at_).toList
  | _ => return []

/-- Where the fields of records are kept. -/
def recordPlaces (vs : List Value) : List Nat :=
  vs.filterMap fun
    | .record _ at_ | .recordRef _ at_ => some at_
    | _ => none

/-- The text of a node and of all below it, followed `depth` deep. -/
def nodeText : Nat → Nat → Run String
  | 0, _ => return ""
  | depth + 1, at_ => do
    match (← Memory.fields at_).get? "Kind" with
    | some (.measure .nodeKind 0) => textField at_ "Text"
    | _ =>
      let children := recordPlaces (← itemsField at_ "Children")
      return String.join (← children.mapM (nodeText depth))

/-- A method of a rendered node. -/
def nodeMethod? (at_ : Nat) (name : String) : Option HostFunction :=
  match name with
  | "TextContent" => some (methodOf [] fun _ => do
      return .text (← nodeText (← get).cells.size at_))
  | "Attr" => some (methodOf [.text] fun args => do
      let attrs ← (recordPlaces (← itemsField at_ "Attrs")).mapM fun a => do
        return (← textField a "Name", ← textField a "Value")
      return .text ((attrs.lookup (args.headD .undefined).asText).getD ""))
  | _ => none

/-- The bodies of a description of a kind, with their names. -/
def bodiesOf (at_ : Nat) (kind : String) : Run (List (String × Value)) := do
  (← itemsField at_ "Bodies").filterMapM fun v => do
    match recordPlaces [v] with
    | [b] =>
      match (← Memory.fields b).get? "Kind" with
      | some (.label _ k) => do
        let called ← textField b "Name"
        return if k == kind then some (called, v) else none
      | _ => return none
    | _ => return none

/-- A method of a description. -/
def descriptionMethod? (at_ : Nat) (name : String) : Option HostFunction :=
  match name with
  | "Root" => some (methodOf [] fun _ => do
      return ((← bodiesOf at_ "ROOT").head?.map (·.2)).getD (.noRecord "runtime.Body"))
  | "Template" => some (methodOf [.text] fun args => do
      let found := (← bodiesOf at_ "TEMPLATE").lookup (args.headD .undefined).asText
      return found.getD (.noRecord "runtime.Body"))
  | "TemplateNames" => some (methodOf [] fun _ => do
      Memory.newTyped .text ((← bodiesOf at_ "TEMPLATE").map fun b => .text b.1))
  | _ => none

/-- A method of what a template calls on, given how functions are called. -/
def toolkitMethod? (m : Machine) (call : Value → Value → List Value → String → Run Value)
    (at_ : Nat) (name : String) : Option HostFunction :=
  let toolkit : Run Toolkit := do
    match (← Memory.fields at_).get? "template" with
    | some (.template t) => return ((← get).templates[t]?.map (·.toolkit)).getD {}
    | _ => return {}
  let first := fun (args : List Value) => (args.headD .undefined).asText
  let path := fun (args : List Value) => do
    return (← itemsOf (args.getD 1 .null)).map (·.asText)
  match name with
  | "ResourceURL" => some (methodOf [.text] fun args => do
      return .text ((← toolkit).resource (first args)))
  | "Translate" => some (methodOf [.text, .text] fun args => do
      return .text ((← toolkit).translate (first args) (args.getD 1 .undefined).asText))
  | "Escape" => some (methodOf [.text] fun args => return .text (Html.escape (first args)))
  | "Get" => some (methodOf [.any, .list .text] fun args => do
      (args.headD .null).follow m.host (← path args))
  | "Set" => some (methodOf [.any, .list .text, .any] fun args => do
      (args.headD .null).setPath m (← path args) (args.getD 2 .null)
      return .undefined)
  | "Call" => some (methodOf [.any, .any, .list .any, .text] fun args => do
      call (args.headD .null) (args.getD 1 .null) (← itemsOf (args.getD 2 .null))
        (args.getD 3 .null).asText)
  | "Decorate" => some (methodOf [.text, .list .any] fun args => do
      m.decorate (← toolkit) (first args) (← itemsOf (args.getD 1 .null)))
  | "Debug" => some ⟨"", .typed [] (some .any), fun _ _ _ => return .undefined⟩
  | "Sanitize" => some (methodOf [.text] fun args => return .raw (Html.sanitize (first args)))
  | _ => none

/-- Rendered nodes: a list of nodes, or the text that they make. -/
def output (style : Style) (ns : List Rendered) : Run Value :=
  match style with
  | .tree => do return .nodes (← Memory.newNodes ns)
  | .text keyed => return .text (Rendered.htmlList keyed ns)

/-- A method of a template. -/
def templateMethod? (m : Machine) (at_ : Nat) (name : String) : Option HostFunction :=
  let run := fun (work : Template → Run Value) => do
    match (← get).templates[at_]? with
    | some t => work t
    | none => return .undefined
  let config : HostType := .other "*runtime.GeneratorConfig"
  let rendering := fun (style : Style) => some (methodOf [.any, config] fun args => run fun t => do
    output style (← m.render t (args.headD .null) style true))
  match name with
  | "RenderString" => rendering (.text false)
  | "RenderVDOM" => rendering .tree
  | "Invoke" =>
    let params : List HostType := [
      .any, .other "map[string]interface \x7b\x7d", .other "*runtime.Context", .bool,
      .other "*runtime.DeferredResults", .bool, config, .text]
    some (methodOf params fun args => run fun t => do
      let on := fun (k : Nat) => (args.getD k .undefined).truthy
      let style := if on 3 then Style.tree else .text (on 5)
      output style (← m.render t (args.headD .null) style ((args.getD 7 .undefined).asText ==
        "throw")))
  | "Render" =>
    let params : List HostType := [
      .other "*runtime.Context", .text, .other "map[string]interface \x7b\x7d"]
    some (methodOf params fun _ => return .undefined)
  | "ReactiveProps" => some (methodOf [] fun _ => run fun t =>
      Memory.newTyped .text (t.description.reactive.map .text))
  | "MarshalJSON" => some (methodOf [] fun _ => run fun t => bytesValue (t.text?.getD ""))
  | "DirtyCheck" => some (methodOf [.any] fun args => run fun t => do
      let slots ← m.watched t (args.headD .null)
      let es := slots.map fun (slot, v) => (Value.whole .int slot, v)
      return .typedMap (.whole .int) .any (← Memory.alloc (.entries es)))
  | _ => none

end Trellis.Value

/-!
Calling functions and methods of the host.
-/

namespace Trellis.Value

/-- The arguments of a typed function, converted.  Arguments beyond the last type are dropped,
missing ones are the zero of their type. -/
def convertArgs (m : Machine) (name : String) (rest : Option HostType) :
    Nat → List HostType → List Value → Run (List Value)
  | _, types, [] => types.mapM zero
  | n, types, v :: vs => do
    let (type, types) := match types with
      | t :: ts => (some t, ts)
      | [] => (rest, [])
    match type with
    | none => convertArgs m name rest (n + 1) types vs
    | some t =>
      let w ← tryCatch (v.convert m t) fun f =>
        throw (Fault.about (name ++ ": argument " ++ Text.natText n) f)
      return w :: (← convertArgs m name rest (n + 1) types vs)

/-- Calls a function of the host. -/
def callHost (m : Machine) (f : HostFunction) (this : Value) (args : List Value) (name : String) :
    Run Value :=
  match f.form with
  | .free => f.run (toText m) this args
  | .typed params rest => do
    f.run (toText m) this (← convertArgs m name rest 1 params args)

/-- The fault of calling what is no function. -/
def notAFunction (name : String) : Fault := Fault.make .notAFunction [("Name", name)]

/-- What a function of the library does. -/
def actionFunction (m : Machine) : Action → HostFunction
  | .fire e => ⟨"", .free, fun _ _ args => m.fire e args⟩
  | .update b => methodOf [.any] fun args => do
      m.update b (args.headD .null)
      return .undefined
  | .decorator at_ name => methodOf [.list .any] fun args => do
      let toolkit := ((← get).templates[at_]?.map (·.toolkit)).getD {}
      m.decorate toolkit name (← itemsOf (args.headD .null))

/-- Calls a value on `this`. -/
def call (m : Machine) (this fn : Value) (args : List Value) (name : String) : Run Value :=
  match fn with
  | .function id =>
    match m.host.functions id with
    | some f => callHost m f this args name
    | none => throw (notAFunction name)
  | .action _ at_ => do
    match (← get).actions[at_]? with
    | some a => callHost m (actionFunction m a) this args name
    | none => throw (notAFunction name)
  | _ => throw (notAFunction name)

/-- A method with a name among methods. -/
def findMethod (ms : List HostMethod) (byReference : Bool) (name : String) : Option HostFunction :=
  (ms.find? fun x => x.name == name && (byReference || !x.byReference)).map (·.function)

/-- The method of a value with a name, but for the case of its first letter. -/
def method? (m : Machine) (owner : Value) (name : String) : Option HostFunction :=
  let name := capitalName name
  match owner with
  | .template at_ => templateMethod? m at_ name
  | .recordRef "runtime.VNode" at_ => nodeMethod? at_ name
  | .recordRef "runtime.Description" at_ => descriptionMethod? at_ name
  | .recordRef "runtime.Methods" at_ => toolkitMethod? m (call m) at_ name
  | .foreign "*logger.nullLogger" =>
    if name == "Log" || name == "LogLine" then
      some ⟨"func(...interface \x7b\x7d)", .typed [] (some .any), fun _ _ _ => return .undefined⟩
    else none
  | .record type _ => findMethod (m.host.recordType type).methods false name
  | .recordRef type _ | .noRecord type => findMethod (m.host.recordType type).methods true name
  | .host type _ => findMethod (m.host.objects type).methods true name
  | .instant t | .instantRef t _ => instantMethod? t name
  | .measure of n => measureMethod? of n name
  | .clock c => if name == "String" then some (methodOf [] fun _ => return .text c.name) else none
  | .unreachable =>
    if name == "String" then some (methodOf [] fun _ => return .text "unreachable") else none
  | .content at_ =>
    match name with
    | "String" => some ⟨"func() string", .typed [] none, fun _ _ _ => do
        return .text (← m.contentText at_)⟩
    | "Invoke" =>
      some ⟨"func(interface \x7b\x7d) ([]*runtime.VNode, error)", .typed [.any] none,
        fun _ _ args => do
          return .nodes (← Memory.newNodes (← m.content at_ (args.headD .null)))⟩
    | _ => none
  | _ => none

/-- Calls what a value has at the end of a path, on its owner there. -/
def callPath (m : Machine) (owner : Value) (full : String) : List String → List Value → Run Value
  | [], _ => return .undefined
  | name :: rest, args => do
    if owner.isNullish then
      throw (Fault.make .readOfNothing [("Value", owner.nothingName), ("Property", name)])
    let next ← owner.property m.host name
    if rest.isEmpty then
      match next, owner.method? m name with
      | .undefined, some f => callHost m f owner args full
      | _, _ => call m owner next args full
    else callPath m next full rest args

/-- Calls the method of a value at a path. -/
def callMethod (m : Machine) (owner : Value) (path : List String) (args : List Value) : Run Value :=
  callPath m owner (".".intercalate path) path args

end Trellis.Value
