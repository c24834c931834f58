/-
The catalog of faults: every fault the program knows by a code, with its area, its kind and the
pattern of its message.
-/
import Trellis.Datum

namespace Trellis.Fault

/-- What a fault is about. -/
inductive Area where
  | parse | semantic | container | codegen | runtime | dependency | config | io
  | other (name : String)
deriving DecidableEq, Repr

/-- The name of an area. -/
def Area.name : Area → String
  | .parse => "parse"
  | .semantic => "semantic"
  | .container => "container"
  | .codegen => "codegen"
  | .runtime => "runtime"
  | .dependency => "dependency"
  | .config => "config"
  | .io => "io"
  | .other name => name

/-- The area with a given name. -/
def Area.ofName (name : String) : Area :=
  ([.parse, .semantic, .container, .codegen, .runtime, .dependency, .config, .io].find?
    (·.name == name)).getD (.other name)

/-- The kinds of evaluation failure that callers tell apart. -/
inductive Kind where
  | none | notAFunction | nullProperty | invalidContext
deriving DecidableEq, Repr

/-- The name of a kind; empty for `none`. -/
def Kind.name : Kind → String
  | .none => ""
  | .notAFunction => "not-a-function"
  | .nullProperty => "null-property"
  | .invalidContext => "invalid-context"

/-- A piece of a message pattern: fixed text, or the place of a detail. -/
inductive Piece where
  | lit (text : String)
  | hole (name : String)
deriving DecidableEq, Repr

/-- An entry of the catalog. -/
structure Entry where
  label : String
  area : Area
  kind : Kind
  pattern : List Piece
  hints : List String

/-- The faults of the catalog. -/
inductive Code where
  | expected | unexpectedToken | unterminatedString | badNumber | missingTerminator
  | emptyExpression | unterminatedRegion | segmentNotAllowed | strayClosingTag | unclosedTag
  | missingAttribute | strayElse | badLoop | duplicateTemplate | misplacedContent | badTypedValue
  | bindNotAssignable | bindFrozen | bindDecorated | eventComputed | eventNotCallable
  | eventNotSingle | attachNotTemplate | attachNotComponent | unknownProgramType | unknownNode
  | unknownDecorator | undefinedTemplate | rootCount | notAFunction | readOfNothing
  | poisonedName | controlFlow | unregisteredTemplate | writeToNothing | dependencyFailed
  | dependencyMissing | malformedDescription | unsupportedVersion | unreadableConfig
  | invalidLocale | unknownCurrency | invalidConfig | unreadableDictionary | storeNotOpened
  | storeFailed | corruptArtifact | unreadableTemplate | circularDependency
deriving DecidableEq, Repr

/-- The catalog. -/
def Code.entry : Code → Entry
  | .expected => ⟨"PARSE-0001", .parse, .none,
      [.lit "expected ", .hole "Expected", .lit ", got '", .hole "Got", .lit "'"],
      []⟩
  | .unexpectedToken => ⟨"PARSE-0002", .parse, .none,
      [.lit "unexpected token '", .hole "Token", .lit "'"],
      []⟩
  | .unterminatedString => ⟨"PARSE-0003", .parse, .none,
      [.lit "unterminated string"],
      []⟩
  | .badNumber => ⟨"PARSE-0004", .parse, .none,
      [.lit "invalid number literal: ", .hole "Literal"],
      []⟩
  | .missingTerminator => ⟨"PARSE-0005", .parse, .none,
      [.lit "missing statement terminator before '", .hole "Token", .lit "'"],
      ["separate expressions with ';' or a line break"]⟩
  | .emptyExpression => ⟨"PARSE-0006", .parse, .none,
      [.lit "empty expression"],
      []⟩
  | .unterminatedRegion => ⟨"TEXT-0001", .parse, .none,
      [.lit "unterminated ", .hole "Construct", .lit " in text: ", .hole "Text"],
      []⟩
  | .segmentNotAllowed => ⟨"TEXT-0002", .semantic, .none,
      [.hole "Got", .lit " is not allowed here, expected ", .hole "Expected"],
      []⟩
  | .strayClosingTag => ⟨"MARKUP-0001", .parse, .none,
      [.lit "unexpected closing tag </", .hole "Tag", .lit ">"],
      []⟩
  | .unclosedTag => ⟨"MARKUP-0002", .parse, .none,
      [.lit "tag <", .hole "Tag", .lit "> is not closed"],
      []⟩
  | .missingAttribute => ⟨"MARKUP-0003", .semantic, .none,
      [.lit "<", .hole "Tag", .lit "> requires attribute '", .hole "Attribute", .lit "'"],
      []⟩
  | .strayElse => ⟨"MARKUP-0004", .semantic, .none,
      [.lit "<ws:else> must follow <ws:if> or another <ws:else>"],
      []⟩
  | .badLoop => ⟨"MARKUP-0005", .semantic, .none,
      [.lit "invalid ws:for data: ", .hole "Data"],
      ["index, item in items", "i = 0; i < items.length; i++"]⟩
  | .duplicateTemplate => ⟨"MARKUP-0006", .semantic, .none,
      [.lit "template '", .hole "Name", .lit "' is already defined"],
      []⟩
  | .misplacedContent => ⟨"MARKUP-0007", .semantic, .none,
      [.lit "<", .hole "Tag", .lit "> is only allowed inside a component or partial"],
      []⟩
  | .badTypedValue => ⟨"MARKUP-0008", .semantic, .none,
      [.lit "<ws:", .hole "Type", .lit "> expects ", .hole "Expected"],
      []⟩
  | .bindNotAssignable => ⟨"BIND-0001", .semantic, .none,
      [.lit "binding disallowed (запрещено выполнять bind): \"", .hole "Expression",
        .lit "\" is a ", .hole "Kind", .lit ", not an assignable location"],
      ["bind to an identifier or member path, e.g. bind:value=\"record.title\""]⟩
  | .bindFrozen => ⟨"BIND-0002", .semantic, .none,
      [.lit "binding disallowed (запрещено выполнять bind): \"", .hole "Expression",
        .lit "\" targets the frozen options object"],
      []⟩
  | .bindDecorated => ⟨"BIND-0003", .semantic, .none,
      [.lit "binding disallowed (запрещено выполнять bind): decorators are not allowed in \"",
        .hole "Expression", .lit "\""],
      []⟩
  | .eventComputed => ⟨"EVENT-0001", .semantic, .none,
      [.lit "event handler \"", .hole "Expression",
        .lit "\" must use a static method name, not a computed property"],
      []⟩
  | .eventNotCallable => ⟨"EVENT-0002", .semantic, .none,
      [.lit "event handler \"", .hole "Expression",
        .lit "\" must be a function reference or a call"],
      []⟩
  | .eventNotSingle => ⟨"EVENT-0003", .semantic, .none,
      [.lit "event handler must be a single expression, got ", .hole "Count"],
      []⟩
  | .attachNotTemplate => ⟨"CONTAINER-0001", .container, .none,
      [.lit "cannot attach a ", .hole "Type",
        .lit " container, only TEMPLATE containers can be attached"],
      []⟩
  | .attachNotComponent => ⟨"CONTAINER-0002", .container, .none,
      [.lit "cannot attach to a ", .hole "Type",
        .lit " container, only COMPONENT containers accept templates"],
      []⟩
  | .unknownProgramType => ⟨"CONTAINER-0003", .container, .none,
      [.lit "unknown program type ", .hole "Type"],
      []⟩
  | .unknownNode => ⟨"CODEGEN-0001", .codegen, .none,
      [.lit "unknown node type ", .hole "Type"],
      []⟩
  | .unknownDecorator => ⟨"CODEGEN-0002", .codegen, .none,
      [.lit "unknown decorator '", .hole "Name", .lit "'"],
      []⟩
  | .undefinedTemplate => ⟨"CODEGEN-0003", .codegen, .none,
      [.lit "inline template '", .hole "Name", .lit "' is not defined"],
      []⟩
  | .rootCount => ⟨"CODEGEN-0004", .codegen, .none,
      [.lit "description must contain exactly one root body, found ", .hole "Count"],
      []⟩
  | .notAFunction => ⟨"RUNTIME-0001", .runtime, .notAFunction,
      [.hole "Name", .lit " is not a function"],
      []⟩
  | .readOfNothing => ⟨"RUNTIME-0002", .runtime, .nullProperty,
      [.lit "cannot read properties of ", .hole "Value", .lit " (reading '", .hole "Property",
        .lit "')"],
      []⟩
  | .poisonedName => ⟨"RUNTIME-0003", .runtime, .invalidContext,
      [.lit "invalid internal evaluation context for \"", .hole "Expression", .lit "\""],
      []⟩
  | .controlFlow => ⟨"RUNTIME-0004", .runtime, .none,
      [.lit "control flow: ", .hole "Message"],
      []⟩
  | .unregisteredTemplate => ⟨"RUNTIME-0005", .runtime, .none,
      [.lit "template '", .hole "Name", .lit "' is not registered"],
      []⟩
  | .writeToNothing => ⟨"RUNTIME-0006", .runtime, .nullProperty,
      [.lit "cannot set properties of ", .hole "Value", .lit " (setting '", .hole "Property",
        .lit "')"],
      []⟩
  | .dependencyFailed => ⟨"DEP-0001", .dependency, .none,
      [.lit "failed to load dependency ", .hole "Name"],
      []⟩
  | .dependencyMissing => ⟨"DEP-0002", .dependency, .none,
      [.lit "dependency ", .hole "Name", .lit " not found"],
      []⟩
  | .malformedDescription => ⟨"WIRE-0001", .io, .none,
      [.lit "malformed serialized template: ", .hole "Reason"],
      []⟩
  | .unsupportedVersion => ⟨"WIRE-0002", .io, .none,
      [.lit "unsupported description version ", .hole "Version"],
      []⟩
  | .unreadableConfig => ⟨"CONFIG-0001", .config, .none,
      [.lit "cannot read config ", .hole "Path"],
      []⟩
  | .invalidLocale => ⟨"CONFIG-0002", .config, .none,
      [.lit "invalid locale ", .hole "Locale"],
      ["use a BCP 47 tag such as en-US or de"]⟩
  | .unknownCurrency => ⟨"CONFIG-0003", .config, .none,
      [.lit "unknown currency ", .hole "Code"],
      []⟩
  | .invalidConfig => ⟨"CONFIG-0004", .config, .none,
      [.lit "invalid config: ", .hole "Reason"],
      []⟩
  | .unreadableDictionary => ⟨"I18N-0001", .io, .none,
      [.lit "cannot load dictionary ", .hole "Path"],
      []⟩
  | .storeNotOpened => ⟨"STORE-0001", .io, .none,
      [.lit "cannot open store ", .hole "Driver"],
      ["supported drivers are sqlite, postgres and mysql"]⟩
  | .storeFailed => ⟨"STORE-0002", .io, .none,
      [.lit "store ", .hole "Op", .lit " failed"],
      []⟩
  | .corruptArtifact => ⟨"STORE-0003", .io, .none,
      [.lit "corrupt artifact ", .hole "Module"],
      []⟩
  | .unreadableTemplate => ⟨"COMPILE-0001", .io, .none,
      [.lit "cannot read template ", .hole "Path"],
      []⟩
  | .circularDependency => ⟨"COMPILE-0002", .dependency, .none,
      [.lit "circular dependency ", .hole "Chain"],
      []⟩

/-- Every fault of the catalog. -/
def Code.all : List Code := [
  .expected, .unexpectedToken, .unterminatedString, .badNumber, .missingTerminator,
  .emptyExpression, .unterminatedRegion, .segmentNotAllowed, .strayClosingTag, .unclosedTag,
  .missingAttribute, .strayElse, .badLoop, .duplicateTemplate, .misplacedContent, .badTypedValue,
  .bindNotAssignable, .bindFrozen, .bindDecorated, .eventComputed, .eventNotCallable,
  .eventNotSingle, .attachNotTemplate, .attachNotComponent, .unknownProgramType, .unknownNode,
  .unknownDecorator, .undefinedTemplate, .rootCount, .notAFunction, .readOfNothing,
  .poisonedName, .controlFlow, .unregisteredTemplate, .writeToNothing, .dependencyFailed,
  .dependencyMissing, .malformedDescription, .unsupportedVersion, .unreadableConfig,
  .invalidLocale, .unknownCurrency, .invalidConfig, .unreadableDictionary, .storeNotOpened,
  .storeFailed, .corruptArtifact, .unreadableTemplate, .circularDependency]

/-- The fault with a given label. -/
def Code.ofLabel? (label : String) : Option Code := Code.all.find? (·.entry.label == label)

end Trellis.Fault

/-!
Faults: what goes wrong, where, and because of what.

A fault of the catalog has a code, an area and a kind, and its message is the catalog's pattern
filled with details.  Any other failure is a fault that has a message only.  A fault may have
causes; the first fault of the catalog among a fault and its causes is the one that callers
report (`Fault.catalogued?`).
-/

namespace Trellis

open Fault (Area Kind Code Piece)

/-- The catalog's part of a fault. -/
structure Fault.Label where
  code : String
  area : Area
  kind : Kind := .none
  details : Option (List (String × Datum)) := none

/-- What kind of failure a fault without a code is. -/
inductive Fault.Nature where
  /-- a fault of the catalog -/
  | catalogued (label : Fault.Label)
  /-- any other failure -/
  | plain
  /-- a document that could not be decoded -/
  | undecodable
  /-- the work was called off -/
  | cancelled
  /-- nothing is stored under the name -/
  | notFound

/-- A failure with its place and its causes. -/
structure Fault where
  nature : Fault.Nature
  message : String
  hints : List String := []
  line : Int := 0
  column : Int := 0
  file : String := ""
  causes : List Fault := []

namespace Fault

instance : Inhabited Fault := ⟨⟨.plain, "", [], 0, 0, "", []⟩⟩

/-- The pattern itself, with its holes marked. -/
def Piece.source : Piece → String
  | .lit text => text
  | .hole name => "\x7b\x7b." ++ name ++ "\x7d\x7d"

/-- A piece filled from the details; a detail that is missing or null reads `<no value>`. -/
def Piece.fill (details : List (String × Datum)) : Piece → String
  | .lit text => text
  | .hole name =>
    match (Datum.record details).field? name with
    | none | some .null => "<no value>"
    | some d => d.display

/-- A message pattern filled with details.  Without any details the pattern is shown unfilled. -/
def fillPattern (pattern : List Piece) : Option (List (String × Datum)) → String
  | none => String.join (pattern.map Piece.source)
  | some details => String.join (pattern.map (Piece.fill details))

/-- The fault of the catalog with the given code. -/
def ofCode (code : Code) (details : Option (List (String × Datum))) : Fault :=
  let e := code.entry
  { nature := .catalogued ⟨e.label, e.area, e.kind, details⟩
    message := fillPattern e.pattern details
    hints := e.hints }

/-- The fault with a given label.  An unknown label is a semantic fault whose message is the
detail `message`, or the label. -/
def ofLabel (label : String) (details : Option (List (String × Datum))) : Fault :=
  match Code.ofLabel? label with
  | some code => ofCode code details
  | none =>
    let message := match (details.map Datum.record).bind (Datum.field? "message") with
      | some (.text m) => m
      | _ => label
    { nature := .catalogued ⟨label, .semantic, .none, details⟩, message }

/-- The fault of the catalog with the given code and textual details. -/
def make (code : Code) (details : List (String × String)) : Fault :=
  ofCode code (some (details.map fun (k, v) => (k, .text v)))

/-- A failure that is not of the catalog. -/
def plain (message : String) : Fault := { nature := .plain, message }

/-- A fault outside the catalog that has an area. -/
def ofArea (area : Area) (message : String) : Fault :=
  { nature := .catalogued ⟨"", area, .none, none⟩, message }

/-- The place of a fault as it stands before its message. -/
def placeText (f : Fault) : String :=
  (if f.file.isEmpty then "" else f.file ++ ": ") ++
  (if f.line > 0 then
    "line " ++ Text.intText f.line ++ ", column " ++ Text.intText f.column ++ ": " else "")

/-- Hints, each on an indented line of its own. -/
def hintText (hints : List String) : String := String.join (hints.map ("\n  " ++ ·))

/-- The text of a fault: place, message and hints; of a plain failure only its message. -/
def text (f : Fault) : String :=
  match f.nature with
  | .catalogued _ => f.placeText ++ f.message ++ hintText f.hints
  | _ => f.message

/-- A fault on several lines, headed by what it is about. -/
def pretty (f : Fault) : String :=
  let heading := match f.nature with
    | .catalogued ⟨_, .parse, _, _⟩ => "Syntax error"
    | .catalogued ⟨_, .runtime, _, _⟩ => "Runtime error"
    | _ => "Compile error"
  let at_ := "line " ++ Text.intText f.line ++ ", column " ++ Text.intText f.column
  let place :=
    if !f.file.isEmpty then
      ":\n  in: " ++ f.file ++ (if f.line > 0 then "\n  at: " ++ at_ else "") ++ "\n  "
    else if f.line > 0 then ": " ++ at_ ++ "\n  "
    else ":\n  "
  heading ++ place ++ f.message ++ hintText f.hints

/-- The failure of work that was called off. -/
def cancelled : Fault := { nature := .cancelled, message := "context canceled" }

/-- The same fault at another place. -/
def moved (f : Fault) (line column : Int) : Fault := { f with line, column }

/-- The same fault in a file. -/
def inFile (f : Fault) (file : String) : Fault := { f with file }

/-- `f` with a cause, whose text ends the message. -/
def because (f cause : Fault) : Fault :=
  { f with message := f.message ++ ": " ++ cause.text, causes := [cause] }

/-- A plain failure that says more about another one. -/
def about (lead : String) (cause : Fault) : Fault :=
  { nature := .plain, message := lead ++ ": " ++ cause.text, causes := [cause] }

/-- The label of a fault of the catalog. -/
def label? (f : Fault) : Option Label :=
  match f.nature with
  | .catalogued l => some l
  | _ => none

mutual
/-- The first fault of the catalog among a fault and its causes. -/
def catalogued? : Fault → Option Fault
  | ⟨.catalogued l, m, h, li, co, fi, cs⟩ => some ⟨.catalogued l, m, h, li, co, fi, cs⟩
  | ⟨_, _, _, _, _, _, cs⟩ => cataloguedIn? cs

def cataloguedIn? : List Fault → Option Fault
  | [] => none
  | f :: fs => match catalogued? f with
    | some g => some g
    | none => cataloguedIn? fs
end

mutual
/-- The text of the first undecodable document among a fault and its causes. -/
def undecodable? : Fault → Option String
  | ⟨.undecodable, m, _, _, _, _, _⟩ => some m
  | ⟨_, _, _, _, _, _, cs⟩ => undecodableIn? cs

def undecodableIn? : List Fault → Option String
  | [] => none
  | f :: fs => match undecodable? f with
    | some g => some g
    | none => undecodableIn? fs
end

mutual
/-- Whether a fault says that the work was called off. -/
def isCancelled : Fault → Bool
  | ⟨.cancelled, _, _, _, _, _, _⟩ => true
  | ⟨_, _, _, _, _, _, cs⟩ => isCancelledIn cs

def isCancelledIn : List Fault → Bool
  | [] => false
  | f :: fs => isCancelled f || isCancelledIn fs
end

/-- Whether the fault that callers report has the given code. -/
def hasCode (f : Fault) (code : String) : Bool :=
  match f.catalogued?.bind label? with
  | some l => l.code == code
  | none => false

/-- Whether a fault is a syntax error. -/
def isSyntax (f : Fault) : Bool := f.label?.any (·.area == .parse)

/-- Whether a fault arose in evaluation. -/
def isEvaluation (f : Fault) : Bool := f.label?.any (·.area == .runtime)

end Fault

end Trellis
