/-
Events: log entries that have a severity and named details.

An event is written as one line, either for readers or as JSON.  Details are kept in both written
forms, because what a program logs need not be a document.
-/
import Trellis.Json.Writer
import Trellis.Text.Case

namespace Trellis.Log

/-!
Log lines that are kept: values of one entry are parted by blanks, and an entry either ends its
line or leaves it open for the next one.
-/

/-- The line that shows values. -/
def joined (values : List String) : String := " ".intercalate values

/-- Lines that are complete, and the open one. -/
structure Buffer where
  lines : List String := []
  pending : String := ""

namespace Buffer

/-- Adds to the open line. -/
def add (b : Buffer) (values : List String) : Buffer :=
  { b with pending := b.pending ++ joined values }

/-- Adds to the open line and ends it. -/
def endLine (b : Buffer) (values : List String) : Buffer :=
  { lines := b.lines ++ [b.pending ++ joined values] }

/-- All that was logged. -/
def text (b : Buffer) : String := String.join (b.lines.map (· ++ "\n")) ++ b.pending

end Buffer

/-- How serious an event is, least serious first. -/
inductive Severity where
  | debug | info | warn | error
deriving DecidableEq

namespace Severity

/-- The name of a severity. -/
def name : Severity → String
  | .debug => "debug"
  | .info => "info"
  | .warn => "warn"
  | .error => "error"

/-- The severity that settings name; any other name means `info`. -/
def ofName (s : String) : Severity :=
  match Text.lower s with
  | "debug" => .debug
  | "warn" | "warning" => .warn
  | "error" => .error
  | _ => .info

/-- The place in the order. -/
def rank : Severity → Nat
  | .debug => 0
  | .info => 1
  | .warn => 2
  | .error => 3

end Severity

/-- A named detail: how it reads, and its JSON form if it has one. -/
structure Detail where
  name : String
  shown : String
  json? : Option String

/-- A document as a detail. -/
def Detail.ofDatum (name : String) (d : Datum) : Detail :=
  ⟨name, d.display, if Json.isWritable d then some (Json.text true d) else none⟩

/-- One event.  `stamp` is the time that it says it happened at, if it says one. -/
structure Event where
  severity : Severity
  message : String
  stamp : String := ""
  module : String := ""
  code : String := ""
  details : List Detail := []

namespace Event

/-- An event that says values at severity `info`. -/
def say (values : List String) : Event := { severity := .info, message := joined values }

/-- Details in the order of their names. -/
def sortedDetails (e : Event) : List Detail :=
  e.details.mergeSort fun a b => Text.textLe a.name b.name

/-- An event as a line for readers. -/
def line (e : Event) : String :=
  e.stamp ++ " " ++ Text.upper e.severity.name ++
    (if e.module.isEmpty then "" else " [" ++ e.module ++ "]") ++
    (if e.code.isEmpty then "" else " " ++ e.code) ++ " " ++ e.message ++
    String.join (e.sortedDetails.map fun d => " " ++ d.name ++ "=" ++ d.shown)

/-- An event as JSON; one with a detail that has no JSON form has none. -/
def json? (e : Event) : Option String := do
  let details ← e.sortedDetails.mapM fun d => do
    return Json.stringText true d.name ++ ":" ++ (← d.json?)
  let field := fun (name value : String) => Json.stringText true name ++ ":" ++ value
  let text := fun (name value : String) => field name (Json.stringText true value)
  let fields := [text "timestamp" e.stamp, text "level" e.severity.name,
    text "message" e.message] ++
    (if e.module.isEmpty then [] else [text "module" e.module]) ++
    (if e.code.isEmpty then [] else [text "code" e.code]) ++
    (if details.isEmpty then [] else [field "fields" ("\x7b" ++ ",".intercalate details ++ "\x7d")])
  return "\x7b" ++ ",".intercalate fields ++ "\x7d"

end Event

/-- How events are written: the least severity that counts, whether as JSON, and the time that an
event without one happened at. -/
structure Style where
  least : Severity := .info
  asJson : Bool := false
  now : String := ""

namespace Style

/-- The style that settings name. -/
def ofNames (level format now : String) : Style :=
  { least := .ofName level, asJson := format == "json", now }

/-- Whether an event counts. -/
def admits (s : Style) (e : Event) : Bool := s.least.rank ≤ e.severity.rank

/-- What an event adds to the log. -/
def write (s : Style) (e : Event) : String :=
  if !s.admits e then "" else
    let e := if e.stamp.isEmpty then { e with stamp := s.now } else e
    if s.asJson then
      match e.json? with
      | some t => t ++ "\n"
      | none => ""
    else e.line ++ "\n"

/-- The log of events. -/
def writeAll (s : Style) (es : List Event) : String := String.join (es.map s.write)

end Style

/-!
Reports: what a program writes while it works, in order.

Text for the user, complaints and events of the log are kept together until it is known where the
log goes, so that each channel shows what it is given in the order in which it was written.
-/

/-- Where text can be written to. -/
inductive Channel where
  | output
  | complaints
  | file (path : String)
deriving DecidableEq

/-- One thing that was written. -/
inductive Report where
  | output (text : String)
  | complaint (text : String)
  | event (e : Event)

namespace Report

/-- The event that was written, if it was one. -/
def event? : Report → Option Event
  | .event e => some e
  | _ => none

/-- What a channel shows of a report, when events are written to the channel `log`. -/
def textOn (style : Style) (log channel : Channel) : Report → String
  | .output text => if channel = .output then text else ""
  | .complaint text => if channel = .complaints then text else ""
  | .event e => if channel = log then style.write e else ""

/-- What a channel shows of all reports. -/
def allOn (style : Style) (log channel : Channel) (rs : List Report) : String :=
  String.join (rs.map (textOn style log channel))

end Report

end Trellis.Log
