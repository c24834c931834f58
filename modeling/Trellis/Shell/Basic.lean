/-
The shell: trying templates out line by line.

What starts with `<` is a template; anything else is an expression and stands for a template that
shows its value.  Both are rendered with the data of the session, which commands change.

The shell goes on reading while a mustache, a parenthesis inside one, a text inside one or an
element is open.  The scan for them reads the input once from left to right.  It keeps counts of
what is open and a mode that says where the next character stands.
-/
import Trellis.Json.Reader
import Trellis.Loader.Basic
import Trellis.Render.Html
import Trellis.Render.Interact
import Trellis.Text.Case
import Trellis.Text.Search
import Trellis.Value.Json
import Trellis.Value.Memory

namespace Trellis.Shell

/-! ### Input that is not finished -/

/-- How many of each are open.  A count is negative when more were closed than opened. -/
structure Open where
  mustaches : Int := 0
  parens : Int := 0
  elements : Int := 0

/-- Whether anything is open. -/
def Open.any (o : Open) : Bool := 0 < o.mustaches || 0 < o.parens || 0 < o.elements

/-- Where the next character stands. -/
inductive Mode where
  | plain
  /-- in a text of an expression, up to the given quote -/
  | quoted (quote : Char)
  /-- after a backslash in such a text -/
  | escaped (quote : Char)
  /-- in a tag; what it holds so far is given from back to front, and the quote of a value -/
  | tag (held : List Char) (quote : Option Char)

/-- Whether a name of an element can start so. -/
def startsName (c : Char) : Bool := c.isAlpha || c == '_'

/-- Whether a character is a quote. -/
def isQuote (c : Char) : Bool := c == '"' || c == '\x27'

/-- Whether the tag with the given inside, from back to front, opens an element that has to be
closed. -/
def opensElement (held : List Char) : Bool :=
  let name := held.reverse.takeWhile fun c => !" \t\n/>".toList.contains c
  held.head? != some '/' && !Rendered.isVoid (Text.lower (String.ofList name))

/-- Whether more input is needed, given what is open and where the input goes on. -/
def scan (o : Open) : Mode → List Char → Bool
  | .tag _ _, [] => true
  | _, [] => o.any
  | .escaped q, _ :: cs => scan o (.quoted q) cs
  | .quoted q, c :: cs =>
    scan o (if c == '\\' then .escaped q else if c == q then .plain else .quoted q) cs
  | .tag held (some q), c :: cs => scan o (.tag (c :: held) (if c == q then none else some q)) cs
  | .tag held none, c :: cs =>
    if isQuote c then scan o (.tag (c :: held) (some c)) cs
    else if c == '>' then
      scan (if opensElement held then { o with elements := o.elements + 1 } else o) .plain cs
    else scan o (.tag (c :: held) none) cs
  | .plain, '\x7b' :: '\x7b' :: cs => scan { o with mustaches := o.mustaches + 1 } .plain cs
  | .plain, '\x7d' :: '\x7d' :: cs => scan { o with mustaches := o.mustaches - 1 } .plain cs
  | .plain, c :: cs =>
    if 0 < o.mustaches then
      if isQuote c then scan o (.quoted c) cs
      else if c == '(' then scan { o with parens := o.parens + 1 } .plain cs
      else if c == ')' then scan { o with parens := o.parens - 1 } .plain cs
      else scan o .plain cs
    else if o.mustaches == 0 && c == '<' then
      match cs with
      | '/' :: d :: _ =>
        scan (if startsName d then { o with elements := o.elements - 1 } else o) .plain cs
      | d :: _ => scan o (if startsName d then .tag [] none else .plain) cs
      | [] => scan o .plain cs
    else scan o .plain cs

/-- Whether input has to go on. -/
def needsMore (input : String) : Bool := scan {} .plain (Text.trim input).toList

end Trellis.Shell

namespace Trellis

/-! ### Sessions -/

/-- The state of a shell. -/
structure Session where
  /-- what templates are rendered with -/
  data : Fields := []
  /-- nodes are shown instead of HTML -/
  asNodes : Bool := false
  /-- compiled bodies are shown -/
  showsBodies : Bool := false

namespace Shell

/-- The module that input is compiled as. -/
def module : String := "Repl"

/-- The words that belong to tags. -/
def tagWords : List String := ["ws:if", "ws:else", "ws:for", "ws:partial", "ws:template"]

/-- All words that input can be completed to. -/
def words : List String := tagWords ++ ["true", "false", "null", "undefined", "rk", "resource"]

/-- The template that input stands for. -/
def source (input : String) : String :=
  let trimmed := Text.trim input
  if Text.startsWith trimmed "<" then input else "\x7b\x7b " ++ trimmed ++ " \x7d\x7d"

/-! ## Output -/

/-- A fault as the shell shows it. -/
def faultText (f : Fault) : String :=
  match f.catalogued? with
  | some g => g.pretty ++ "\n"
  | none => "Error: " ++ f.text ++ "\n"

/-- Does work and shows its fault, if it has one. -/
def showing (work : Load Unit) : Load Unit := do
  match ← Loader.attempt work with
  | .ok () => return
  | .error f => Loader.say (faultText f)

/-- Shows lines. -/
def sayLines (lines : List String) : Load Unit := Loader.say (String.join (lines.map (· ++ "\n")))

/-- At most `n` bytes of a text; the bytes of a character that is cut apart cannot be shown. -/
def takeBytes : Nat → List Char → List Char
  | _, [] => []
  | n, c :: cs =>
    if c.utf8Size ≤ n then c :: takeBytes (n - c.utf8Size) cs
    else List.replicate n Json.replacement

/-- A long text is cut. -/
def shortened (s : String) : String :=
  if 60 < s.utf8ByteSize then String.ofList (takeBytes 57 s.toList) ++ "..." else s

/-- What the shell says about itself. -/
def help : List String := [
  "REPL Commands:",
  "  :help, :h, :?       Show this help",
  "  :data               Show the render data",
  "  :set name <json>    Set a data field (plain text if not JSON)",
  "  :unset name         Remove a data field",
  "  :clear              Clear the render data",
  "  :load Module        Render a template from the root",
  "  :vdom               Toggle VDOM output",
  "  :desc               Toggle printing compiled bodies",
  "  exit, quit          Exit the REPL"]

/-! ## Lines -/

variable (w : Workshop) (o : Loader.Options)

/-- Renders a template with the data of a session. -/
def render (s : Session) (style : Style) (t : Template) : Load (List Rendered) := do
  let data ← Loader.inMemory (Memory.newObject s.data)
  Loader.invoke w t { data, style }

/-- Renders a template as HTML and shows it. -/
def showHtml (s : Session) (t : Template) : Load Unit := do
  Loader.say (Rendered.htmlList false (← render w s (.text false) t) ++ "\n")

/-- Compiles input and shows what it renders. -/
def eval (s : Session) (input : String) : Load Unit := showing do
  let d ← Loader.compile o module (source input)
  if s.showsBodies then sayLines (d.bodies.toList.map (·.source))
  let t ← ofExcept (Template.ofDescription d o.toolkit)
  if s.asNodes then Loader.say (Rendered.outlineList 0 (← render w s .tree t))
  else showHtml w s t

/-- The data of a session, a line for each field. -/
def dataLines (s : Session) : Load (List String) :=
  s.data.mapM fun (name, v) => do
    let json ← Loader.attempt (Loader.inMemory (v.jsonText w.host))
    let text ← match json with
      | .ok text => pure text
      | .error _ => Loader.inMemory (v.toText w.renderer.machine)
    return "  " ++ name ++ " = " ++ shortened text

/-- The value that a text stands for: a document, or the text itself. -/
def valueOf (text : String) : Run Value :=
  let trimmed := Text.trim text
  match (Json.parse? trimmed).bind Json.loose? with
  | some d => Memory.ofDatum d
  | none => return .text trimmed

/-- Obeys a command, which starts with a colon. -/
def command (s : Session) (line : String) : Load Session := do
  let (name, arg) := (Text.cut? line " ").getD (line, "")
  let arg := Text.trim arg
  let tell := fun (s : Session) (text : String) => do
    sayLines [text]
    return s
  match name with
  | ":help" | ":h" | ":?" =>
    sayLines help
    return s
  | ":data" | ":env" =>
    if s.data.isEmpty then tell s "(no data)"
    else
      sayLines (← dataLines w s)
      return s
  | ":set" =>
    match Text.cut? arg " " with
    | some (field, text) =>
      if field.isEmpty then tell s "usage: :set name <json>"
      else
        let v ← Loader.inMemory (valueOf text)
        tell { s with data := s.data.insert field v } "OK"
    | none => tell s "usage: :set name <json>"
  | ":unset" => tell { s with data := s.data.filter (·.1 != arg) } "OK"
  | ":clear" => tell { s with data := [] } "Data cleared"
  | ":load" =>
    if arg.isEmpty then tell s "usage: :load Module"
    else
      showing do showHtml w s (← Loader.template (← Loader.load o arg))
      return s
  | ":vdom" =>
    let s := { s with asNodes := !s.asNodes }
    tell s (if s.asNodes then "VDOM output ON" else "VDOM output OFF (HTML)")
  | ":desc" =>
    let s := { s with showsBodies := !s.showsBodies }
    tell s (if s.showsBodies then "Compiled bodies ON" else "Compiled bodies OFF")
  | _ => tell s ("Unknown command: " ++ line ++ " (type :help for commands)")

/-- Answers one input: a command or a template. -/
def respond (s : Session) (input : String) : Load Session := do
  if Text.startsWith input ":" then command w o s input
  else
    eval w o s input
    return s

/-! ## Completion -/

/-- A line cut after the last character that words are parted by. -/
def lastWord (line : String) : String × String :=
  let isPart := fun (c : Char) => !" \t|<\x7b(".toList.contains c
  let word := (line.toList.reverse.takeWhile isPart).reverse
  (String.ofList (line.toList.take (line.length - word.length)), String.ofList word)

/-- The lines that a line can be completed to, given the components that are known: decorators
after a bar, components after a `<`, or other words. -/
def complete (r : Registry) (line : String) : List String :=
  if Text.isBlankText line || Text.endsWith line " " || Text.endsWith line "\t" then []
  else
    let (head, word) := lastWord line
    let known :=
      if Text.endsWith head "|" then o.decorators
      else if Text.endsWith head "<" then r.names ++ tagWords
      else words
    (Text.sortTexts (known.filter (Text.startsWith · word))).map (head ++ ·)

/-! ## Conversation -/

/-- What the shell shows when it starts. -/
def greeting (version : String) : List String := [
  "",
  "█░█░█ █▀▄▀█ █░░",
  "▀▄▀▄▀ █░▀░█ █▄▄ v " ++ version,
  "",
  "Type 'exit' or Ctrl+D to quit",
  "Type ':help' for REPL commands",
  ""]

/-- Answers lines until they end or one of them ends the conversation; `pending` is input that
has to go on. -/
def converse : List String → Session → String → Load Unit
  | [], _, _ => sayLines ["", "Goodbye!"]
  | line :: rest, s, pending => do
    let trimmed := Text.trim line
    if pending.isEmpty && (trimmed == "exit" || trimmed == "quit") then sayLines ["Goodbye!"]
    else if pending.isEmpty && trimmed.isEmpty then converse rest s ""
    else if pending.isEmpty && Text.startsWith trimmed ":" then
      converse rest (← command w o s trimmed) ""
    else
      let input := if pending.isEmpty then line else pending ++ "\n" ++ line
      if needsMore input then converse rest s input
      else
        eval w o s input
        converse rest s ""

/-- The lines of a text; a line break may have a carriage return before it. -/
def linesOf (text : String) : List String :=
  let strip := fun (s : String) => Text.dropBack s "\r"
  match (Text.splitOnChar text '\n').reverse with
  | last :: ended => (ended.map strip).reverse ++ (if last.isEmpty then [] else [last])
  | [] => []

/-- A whole conversation. -/
def run (version input : String) : Load Unit := do
  sayLines (greeting version)
  converse w o (linesOf input) {} ""

end Shell

end Trellis
