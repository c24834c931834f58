/-
Descriptions as they are written down, before anything is checked: every instruction has all
fields, and slots are any numbers.
-/
import Trellis.Description.Document
import Trellis.Json.Reader

namespace Trellis.Description.Draft

/-- A part of a text. -/
structure Part where
  kind : String := ""
  text : String := ""
  context : String := ""
  value : Datum := .null
  expr : Int := 0
  trusted : Bool := false

/-- An attribute. -/
structure Attr where
  name : String := ""
  kind : String := ""
  parts : List Part := []
  expr : Int := 0
  binding : Option Binding := none

/-- A typed option. -/
inductive OptionSpec where
  | mk (name type : String) (parts : List Part) (items properties : List OptionSpec)

/-- An option of which nothing has been read. -/
def OptionSpec.blank : OptionSpec := .mk "" "" [] [] []

/-- Content that a call passes. -/
structure ContentRef where
  name : String := ""
  body : Int := 0

/-- The fields of an instruction, apart from what stands below it. -/
structure Head where
  op : String := ""
  key : String := ""
  name : String := ""
  parts : List Part := []
  attrs : List Attr := []
  void : Bool := false
  mode : String := ""
  target : Int := 0
  options : List OptionSpec := []
  contents : List ContentRef := []
  init : Int := 0
  test : Int := 0
  update : Int := 0
  collection : Int := 0
  index : String := ""
  iterator : String := ""
  names : List String := []
  watch : Int := 0

mutual
/-- An instruction, or nothing in its place. -/
inductive Instruction where
  | null
  | mk (head : Head) (children : List Instruction) (arms : List Arm)

/-- An arm of a condition. -/
inductive Arm where
  | mk (test : Int) (children : List Instruction) (watch : Int)
end

/-- The head, the children and the arms of an instruction. -/
def Instruction.parts : Instruction → Head × List Instruction × List Arm
  | .null => ({}, [], [])
  | .mk head children arms => (head, children, arms)

/-- A body. -/
structure Body where
  kind : String := ""
  name : String := ""
  source : String := ""
  children : List Instruction := []
  watch : Int := 0

/-- An entry of the table of expressions. -/
structure Expression where
  source : String := ""
  body : String := ""
  flags : Int := 0
  bind : Bool := false
  event : Bool := false

end Draft

/-- A description before it is checked. -/
structure Draft where
  version : Int := 0
  module : String := ""
  dependencies : List String := []
  bodies : List (Option Draft.Body) := []
  reactive : List String := []
  expressions : List (Option Draft.Expression) := []
  watches : List (List (List Int)) := []
  childNames : List String := []
  translations : List (String × String) := []
  symbols : List String := []

namespace Draft

/-! ## Reading

A document is read over what stood in its place before, which is empty at first.  A field that
occurs twice is read twice, the second time over the first: lists item by item, records field by
field.  `null` leaves texts, numbers and records as they are and empties lists.  A field of another
type makes the whole document unreadable. -/

/-- Reads a document over a value. -/
abbrev Over (α : Type) := α → Datum → Option α

/-- A character of a field name as names are compared: case does not matter. -/
def foldChar (c : Char) : Char :=
  if c == 'ſ' then 's' else if c == '\u212a' then 'k' else c.toLower

/-- A text. -/
def text : Over String
  | old, .null => some old
  | _, .text s => some s
  | _, _ => none

/-- A truth value. -/
def bool : Over Bool
  | old, .null => some old
  | _, .bool b => some b
  | _, _ => none

/-- A whole number of 64 bits. -/
def int : Over Int
  | old, .null => some old
  | _, .whole n => if n.natAbs < power 2 63 || n == -(power 2 63) then some n else none
  | _, _ => none

/-- A whole number of 16 bits without sign. -/
def short : Over Int
  | old, .null => some old
  | _, .whole n => if 0 ≤ n && n < 65536 then some n else none
  | _, _ => none

/-- A constant: any document. -/
def constant : Over Datum
  | _, d => Json.loose? d

/-- The items of a list, each over the item that stood at its position. -/
def itemsOver {α : Type} (blank : α) (item : Over α) : List α → List Datum → Option (List α)
  | _, [] => some []
  | old, d :: ds => do
    return (← item (old.headD blank) d) :: (← itemsOver blank item (old.drop 1) ds)

/-- A list; new items start from `blank`. -/
def list {α : Type} (blank : α) (item : Over α) : Over (List α)
  | _, .null => some []
  | old, .list ds => itemsOver blank item old ds
  | _, _ => none

/-- What may be missing. -/
def optional {α : Type} (blank : α) (item : Over α) : Over (Option α)
  | _, .null => some none
  | old, d => (item (old.getD blank) d).map some

/-- A record; `field` says how the field with a name, in lower case, is read. -/
def record {α : Type} (field : String → Over α) : Over α
  | old, .null => some old
  | old, .record fs => fs.foldlM (fun a f => field (f.1.map foldChar) a f.2) old
  | _, _ => none

/-- A field that is not known. -/
def unknown {α : Type} : Over α
  | old, _ => some old

def part : Over Part := record fun
  | "kind" => fun p d => return { p with kind := ← text p.kind d }
  | "text" => fun p d => return { p with text := ← text p.text d }
  | "context" => fun p d => return { p with context := ← text p.context d }
  | "value" => fun p d => return { p with value := ← constant p.value d }
  | "expr" => fun p d => return { p with expr := ← int p.expr d }
  | "unsafe" => fun p d => return { p with trusted := ← bool p.trusted d }
  | _ => unknown

def parts : Over (List Part) := list {} part

def binding : Over Binding := record fun
  | "fieldname" => fun b d => return { b with field := ← text b.field d }
  | "fullpropname" => fun b d => return { b with target := ← text b.target d }
  | "proppath" => fun b d => return { b with path := ← optional [] (list "" text) b.path d }
  | "oneway" => fun b d => return { b with oneWay := ← bool b.oneWay d }
  | "direction" => fun b d => return { b with direction := ← text b.direction d }
  | "hasdefault" => fun b d => return { b with hasDefault := ← bool b.hasDefault d }
  | _ => unknown

/-- A binding of which nothing has been read. -/
def noBinding : Binding where
  field := ""
  target := ""
  path := none
  oneWay := false
  direction := ""
  hasDefault := false

def attr : Over Attr := record fun
  | "name" => fun a d => return { a with name := ← text a.name d }
  | "kind" => fun a d => return { a with kind := ← text a.kind d }
  | "segments" => fun a d => return { a with parts := ← parts a.parts d }
  | "expr" => fun a d => return { a with expr := ← int a.expr d }
  | "binding" => fun a d => return { a with binding := ← optional noBinding binding a.binding d }
  | _ => unknown

def content : Over ContentRef := record fun
  | "name" => fun c d => return { c with name := ← text c.name d }
  | "body" => fun c d => return { c with body := ← int c.body d }
  | _ => unknown

/-- A typed option, read `depth` deep. -/
def option : Nat → Over OptionSpec
  | 0 => fun _ _ => none
  | depth + 1 => record fun
    | "name" =>
      fun (.mk name type ps items props) d => return .mk (← text name d) type ps items props
    | "type" =>
      fun (.mk name type ps items props) d => return .mk name (← text type d) ps items props
    | "segments" => fun (.mk name type ps items props) d =>
      return .mk name type (← parts ps d) items props
    | "items" => fun (.mk name type ps items props) d =>
      return .mk name type ps (← list .blank (option depth) items d) props
    | "properties" => fun (.mk name type ps items props) d =>
      return .mk name type ps items (← list .blank (option depth) props d)
    | _ => unknown

/-- The fields of an instruction, apart from what stands below it, read `depth` deep. -/
def head (depth : Nat) : String → Over Head
  | "op" => fun h d => return { h with op := ← text h.op d }
  | "key" => fun h d => return { h with key := ← text h.key d }
  | "name" => fun h d => return { h with name := ← text h.name d }
  | "segments" => fun h d => return { h with parts := ← parts h.parts d }
  | "attrs" => fun h d => return { h with attrs := ← list {} attr h.attrs d }
  | "void" => fun h d => return { h with void := ← bool h.void d }
  | "mode" => fun h d => return { h with mode := ← text h.mode d }
  | "target" => fun h d => return { h with target := ← int h.target d }
  | "options" => fun h d => return { h with options := ← list .blank (option depth) h.options d }
  | "contents" => fun h d => return { h with contents := ← list {} content h.contents d }
  | "init" => fun h d => return { h with init := ← int h.init d }
  | "test" => fun h d => return { h with test := ← int h.test d }
  | "update" => fun h d => return { h with update := ← int h.update d }
  | "collection" => fun h d => return { h with collection := ← int h.collection d }
  | "index" => fun h d => return { h with index := ← text h.index d }
  | "iterator" => fun h d => return { h with iterator := ← text h.iterator d }
  | "names" => fun h d => return { h with names := ← list "" text h.names d }
  | "internal" => fun h d => return { h with watch := ← int h.watch d }
  | _ => unknown

/-- An arm of a condition, whose instructions `item` reads. -/
def arm (item : Over Instruction) : Over Arm := record fun
  | "test" => fun (.mk test children watch) d => return .mk (← int test d) children watch
  | "children" => fun (.mk test children watch) d =>
    return .mk test (← list .null item children d) watch
  | "internal" => fun (.mk test children watch) d => return .mk test children (← int watch d)
  | _ => unknown

/-- An instruction, read `depth` deep. -/
def instruction : Nat → Over Instruction
  | 0 => fun _ _ => none
  | depth + 1 => fun old d =>
    let field := fun (name : String) (i : Instruction) (d : Datum) =>
      let (h, children, arms) := i.parts
      match name with
      | "children" => do return Instruction.mk h (← list .null (instruction depth) children d) arms
      | "branches" =>
        do return .mk h children (← list (.mk 0 [] 0) (arm (instruction depth)) arms d)
      | name => do return .mk (← head (depth + 1) name h d) children arms
    match d with
    | .null => some .null
    | d =>
      let (h, children, arms) := old.parts
      record field (.mk h children arms) d

def body (depth : Nat) : Over Body := record fun
  | "kind" => fun b d => return { b with kind := ← text b.kind d }
  | "name" => fun b d => return { b with name := ← text b.name d }
  | "source" => fun b d => return { b with source := ← text b.source d }
  | "children" =>
    fun b d => return { b with children := ← list .null (instruction depth) b.children d }
  | "internal" => fun b d => return { b with watch := ← int b.watch d }
  | _ => unknown

def expression : Over Expression := record fun
  | "source" => fun e d => return { e with source := ← text e.source d }
  | "body" => fun e d => return { e with body := ← text e.body d }
  | "flags" => fun e d => return { e with flags := ← short e.flags d }
  | "bind" => fun e d => return { e with bind := ← bool e.bind d }
  | "event" => fun e d => return { e with event := ← bool e.event d }
  | _ => unknown

def translation : Over (String × String) := record fun
  | "text" => fun t d => return (← text t.1 d, t.2)
  | "context" => fun t d => return (t.1, ← text t.2 d)
  | _ => unknown

/-- A description as it is written down. -/
def ofDatum? (whole : Datum) : Option Draft :=
  let texts := list "" text
  let field := fun (name : String) (x : Draft) (d : Datum) => match name with
    | "version" => do return { x with version := ← int x.version d }
    | "module" => do return { x with module := ← text x.module d }
    | "dependencies" => do return { x with dependencies := ← texts x.dependencies d }
    | "bodies" =>
      do return { x with bodies := ← list none (optional {} (body whole.depth)) x.bodies d }
    | "reactiveprops" => do return { x with reactive := ← texts x.reactive d }
    | "expressions" => do
      return { x with expressions := ← list none (optional {} expression) x.expressions d }
    | "internals" => do return { x with watches := ← list [] (list [] (list 0 int)) x.watches d }
    | "childnames" => do return { x with childNames := ← texts x.childNames d }
    | "translationkeys" => do
      return { x with translations := ← list ("", "") translation x.translations d }
    | "symbols" => do return { x with symbols := ← texts x.symbols d }
    | _ => some x
  record field {} whole

/-- What a document is called in the complaint that it is no description. -/
def kindName : Datum → String
  | .null => "null"
  | .bool _ => "bool"
  | .number _ | .whole _ => "number"
  | .text _ => "string"
  | .list _ => "array"
  | .record _ => "object"

/-- Why a text that holds no description holds none. -/
def complaint (s : String) : String :=
  match Json.complaint? s with
  | some c => c
  | none => "json: cannot unmarshal " ++ kindName ((Json.parse? s).getD .null) ++
      " into Go value of type runtime.Description"

/-- Reads the text of a description. -/
def read (s : String) : Except Fault Draft :=
  match (Json.parse? s).bind ofDatum? with
  | some d => .ok d
  | none => .error ((malformed "invalid JSON").because
      { nature := .undecodable, message := complaint s })

end Draft

end Trellis.Description
