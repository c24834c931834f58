/-
Reading descriptions.

A description that was written down is checked for slots, bodies and watched runs that it does
not have; then every expression is compiled again from its text.
-/
import Trellis.Description.Draft
import Trellis.Text.Search
import Trellis.Text.Decimal

namespace Trellis.Description

namespace Draft

/-- The fault for a number that is out of range. -/
def outOfRange (what : String) (n : Int) : Fault :=
  malformed (what ++ " " ++ Text.intText n ++ " out of range")

/-- Checks a slot of the table. -/
def checkSlot (d : Draft) (n : Int) : Except Fault Unit :=
  if 0 ≤ n && n < d.expressions.length then .ok () else .error (outOfRange "expression" n)

/-- Checks a slot that may be left out. -/
def checkSlot? (d : Draft) (n : Int) : Except Fault Unit :=
  if n == -1 then .ok () else d.checkSlot n

/-- Checks what is watched. -/
def checkWatch (d : Draft) (n : Int) : Except Fault Unit :=
  if -1 ≤ n && n < d.watches.length then .ok () else .error (outOfRange "internals" n)

/-- Checks parts of a text. -/
def checkParts (d : Draft) (ps : List Part) : Except Fault Unit :=
  ps.forM fun p => if p.kind == "expr" then d.checkSlot p.expr else .ok ()

/-- Checks an attribute. -/
def checkAttr (d : Draft) (a : Attr) : Except Fault Unit :=
  if a.kind == "bind" || a.kind == "event" then d.checkSlot a.expr else d.checkParts a.parts

mutual
/-- Checks a typed option. -/
def checkOption (d : Draft) : OptionSpec → Except Fault Unit
  | .mk _ _ ps items properties => do
    d.checkParts ps
    checkOptions d items
    checkOptions d properties

def checkOptions (d : Draft) : List OptionSpec → Except Fault Unit
  | [] => .ok ()
  | o :: os => do
    checkOption d o
    checkOptions d os
end

/-- Checks content that a call passes. -/
def checkContent (d : Draft) (c : ContentRef) : Except Fault Unit :=
  let kind := if c.body < 0 then none else (d.bodies[c.body.toNat]?).join.map (·.kind)
  if kind == some "CONTENT" then .ok ()
  else .error (malformed ("content " ++ Text.quote c.name ++ " points at body " ++
    Text.intText c.body))

mutual
/-- Checks an instruction. -/
def checkInstruction (d : Draft) : Instruction → Except Fault Unit
  | .null => .error (malformed "null instruction")
  | .mk h children arms => do
    d.checkWatch h.watch
    d.checkParts h.parts
    h.attrs.forM d.checkAttr
    checkOptions d h.options
    h.contents.forM d.checkContent
    match h.op with
    | "partial" => if h.mode == "dynamic" then d.checkSlot h.target
    | "if" => checkArms d arms
    | "for" => [h.init, h.test, h.update].forM d.checkSlot?
    | "foreach" => d.checkSlot h.collection
    | _ => pure ()
    checkInstructions d children

def checkInstructions (d : Draft) : List Instruction → Except Fault Unit
  | [] => .ok ()
  | i :: is => do
    checkInstruction d i
    checkInstructions d is

/-- Checks the arms of a condition. -/
def checkArms (d : Draft) : List Arm → Except Fault Unit
  | [] => .ok ()
  | .mk test children watch :: as => do
    d.checkSlot? test
    d.checkWatch watch
    checkInstructions d children
    checkArms d as
end

/-- Checks a description. -/
def check (d : Draft) : Except Fault Unit := do
  if d.version ≠ Description.version then
    throw (Fault.make .unsupportedVersion [("Version", Text.intText d.version)])
  for b in d.bodies do
    match b with
    | none => throw (malformed "null body")
    | some b =>
      d.checkWatch b.watch
      checkInstructions d b.children
  let roots := d.bodies.countP fun b => b.any (·.kind == "ROOT")
  if roots ≠ 1 then throw (Fault.make .rootCount [("Count", Text.natText roots)])
  d.watches.forM fun runs => runs.forM fun run => run.forM d.checkSlot

/-! ## From drafts to descriptions -/

/-- A slot that may be left out. -/
def slot? (n : Int) : Option Nat := if n < 0 then none else some n.toNat

def Part.toPart (p : Part) : Description.Part :=
  match p.kind with
  | "text" => .text p.text
  | "value" => .value p.value
  | "rk" => .translation p.text p.context
  | "expr" => .expr p.expr.toNat p.trusted
  | kind => .other kind

def Attr.toAttr (a : Attr) : Description.Attr :=
  let parts := a.parts.map Part.toPart
  ⟨a.name, match a.kind with
    | "attr" => .markup parts
    | "option" => .option parts
    | "bind" => .bind a.expr.toNat a.binding
    | "event" => .event a.expr.toNat
    | kind => .other kind parts⟩

mutual
def toOption : OptionSpec → Description.OptionSpec
  | .mk name type ps items properties =>
    .mk name (match type with
      | "Array" => .array (toOptions items)
      | "Object" => .object (toOptions properties)
      | type => .scalar type (ps.map Part.toPart))

def toOptions : List OptionSpec → List Description.OptionSpec
  | [] => []
  | o :: os => toOption o :: toOptions os
end

/-- What a component or partial is called with. -/
def Head.call (h : Head) : Call where
  attrs := h.attrs.map Attr.toAttr
  options := toOptions h.options
  contents := h.contents.map fun c => ⟨c.name, c.body.toNat⟩
  watch := slot? h.watch

/-- How a partial finds its template. -/
def Head.toTarget (h : Head) : Target :=
  match h.mode with
  | "inline" => .inline h.name
  | "static" => .static h.name
  | _ => .dynamic h.target h.name

mutual
def toInstruction : Instruction → Description.Instruction
  | .null => .unknown ""
  | .mk h children arms =>
    match h.op with
    | "text" => .text h.key (h.parts.map Part.toPart)
    | "element" =>
      .element h.key h.name (h.attrs.map Attr.toAttr) (toInstructions children) h.void
    | "component" => .component h.key h.name h.call
    | "partial" => .partialCall h.key h.toTarget h.call
    | "if" => .branches h.key (toArms arms)
    | "for" =>
      .loop h.key h.names (slot? h.init) (slot? h.test) (slot? h.update)
        (toInstructions children) (slot? h.watch)
    | "foreach" =>
      .each h.key h.collection.toNat h.index h.iterator (toInstructions children) (slot? h.watch)
    | op => .unknown op

def toInstructions : List Instruction → List Description.Instruction
  | [] => []
  | i :: is => toInstruction i :: toInstructions is

def toArms : List Arm → List Description.Arm
  | [] => []
  | .mk test children watch :: as =>
    .mk (slot? test) (toInstructions children) (slot? watch) :: toArms as
end

def Body.toBody (b : Body) : Description.Body where
  kind := .ofName b.kind
  name := b.name
  source := b.source
  children := toInstructions b.children
  watch := slot? b.watch

/-- Compiles something with the symbols so far. -/
def compiled (c : Code.Compile Code.Fragment) : StateT Symbols (Except Fault) Code.Fragment :=
  fun symbols =>
    match c.run symbols with
    | (.ok f, symbols) => .ok (f, symbols)
    | (.error f, _) => .error f

/-- Compiles an entry of the table again. -/
def recompile (o : Code.Options) (i : Nat) :
    Option Expression → StateT Symbols (Except Fault) Trellis.Expression
  | none => throw (malformed ("expression " ++ Text.natText i ++ " is null"))
  | some e => do
    let p ← match Program.parse e.source with
      | .ok p => pure p
      | .error f => throw ((malformed ("expression " ++ Text.natText i)).because f)
    let value ← compiled (Code.value o "" false p)
    let target ←
      if !e.bind then pure none
      else if value.target.isSome then pure value.target
      else do pure (← compiled (Code.bind o "" p)).target
    let handler ← if e.event then do pure (← compiled (Code.event o p)).handler else pure none
    return {
      source := e.source, body := e.body, flags := .ofCode e.flags.toNat, bind := e.bind
      event := e.event, program := p, target, handler }

/-- The description that a draft stands for; `decorators` are checked as when it was built. -/
def toDescription (d : Draft) (decorators : Option (List String)) : Except Fault Description := do
  d.check
  let symbols : Symbols := d.symbols.foldl (fun t s => (t.intern s).2) {}
  let o : Code.Options := { decorators, interned := true }
  let (expressions, _) ← (d.expressions.zipIdx.mapM fun (e, i) => recompile o i e).run symbols
  return {
    module := d.module, dependencies := d.dependencies
    bodies := (d.bodies.filterMap fun b => b.map Body.toBody).toArray
    reactive := d.reactive, expressions := expressions.toArray, watches := d.watches.toArray
    childNames := d.childNames, translations := d.translations, symbols := d.symbols }

end Draft

/-- Reads the text of a description. -/
def parse (decorators : Option (List String)) (s : String) : Except Fault Description := do
  (← Draft.read s).toDescription decorators

/-- The line that names the body at a position. -/
def line (d : Description) (index : Int) : Except Fault (Option String) :=
  if 0 ≤ index && index < d.bodies.size then
    .ok (d.document?.map fun doc =>
      lineMark ++ Text.intText index ++ "," ++ Json.text true doc)
  else .error (Draft.outOfRange "body" index)

/-- The inside of a line that may be quoted. -/
def unquoted (s : String) : Except Fault String :=
  if Text.startsWith s "\"" then
    match Json.parse? s with
    | some (.text s) => .ok s
    | _ => .error ((malformed "invalid quoted line").because
        { nature := .undecodable, message := "no quoted text" })
  else .ok s

/-- Reads a line: the description and the position of the body that the line names. -/
def parseLine (decorators : Option (List String)) (s : String) :
    Except Fault (Description × Nat) := do
  let s ← unquoted (Text.trim s)
  if !Text.startsWith s lineMark then
    throw (malformed ("missing " ++ Text.dropBack lineMark "," ++ " prefix"))
  match Text.cut? (Text.dropFront s lineMark) "," with
  | none => throw (malformed "missing body index")
  | some (index, payload) =>
    match Text.whole? index with
    | none => throw (malformed ("body index " ++ Text.quote index))
    | some n =>
      let d ← parse decorators payload
      if n < 0 || n ≥ d.bodies.size then throw (Draft.outOfRange "body" n)
      return (d, n.toNat)

/-- Whether a text is a line and no description. -/
def isLine (s : String) : Bool :=
  Text.startsWith (Text.trim s) lineMark || Text.startsWith (Text.trim s) ("\"" ++ lineMark)

end Trellis.Description
