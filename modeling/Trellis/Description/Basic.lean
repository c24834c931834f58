/-
Descriptions: compiled templates.

A description has bodies of instructions and one table of expressions that the instructions refer
to by slot.  A slot that an instruction may leave out is optional here and `-1` when written.
-/
import Trellis.Code.Fragment
import Trellis.Datum

namespace Trellis

/-- An entry of the table of expressions. -/
structure Expression where
  /-- the canonical text -/
  source : String
  /-- the compiled text -/
  body : String := ""
  flags : Flags := {}
  /-- it is the target of a binding -/
  bind : Bool := false
  /-- it is the handler of an event -/
  event : Bool := false
  /-- what is evaluated -/
  program : Program
  /-- what is written to -/
  target : Option Expr := none
  /-- what an event calls -/
  handler : Option Handler := none

namespace Description

/-- A part of a text or of an attribute value. -/
inductive Part where
  | text (s : String)
  /-- a constant -/
  | value (d : Datum)
  /-- an expression of the table; a `trusted` one makes markup that is shown as it is -/
  | expr (slot : Nat) (trusted : Bool)
  | translation (text context : String)
  /-- a part of a kind that nobody knows, which shows nothing -/
  | other (kind : String)

/-- What an attribute is. -/
inductive AttrValue where
  /-- an attribute of markup -/
  | markup (parts : List Part)
  /-- an option of a call -/
  | option (parts : List Part)
  | bind (slot : Nat) (binding : Option Binding)
  | event (slot : Nat)
  /-- an attribute of a kind that nobody knows -/
  | other (kind : String) (parts : List Part)

/-- An attribute of an element or a call. -/
structure Attr where
  name : String
  value : AttrValue

mutual
/-- The value of a typed option.  The type of a scalar is a name, since a description may come
from elsewhere. -/
inductive OptionValue where
  | scalar (type : String) (parts : List Part)
  | array (items : List OptionSpec)
  | object (properties : List OptionSpec)

/-- A typed option; an item of an array has no name. -/
inductive OptionSpec where
  | mk (name : String) (value : OptionValue)
end

/-- Content that a call passes: its name and its body. -/
structure ContentRef where
  name : String
  body : Nat
deriving DecidableEq, Repr

/-- How a partial finds its template. -/
inductive Target where
  | inline (name : String)
  | static (name : String)
  /-- by evaluation; the slot of a target whose mode nobody knows is not checked -/
  | dynamic (slot : Int) (name : String)

/-- What a component or partial is called with. -/
structure Call where
  attrs : List Attr := []
  options : List OptionSpec := []
  contents : List ContentRef := []
  /-- what the call watches -/
  watch : Option Nat := none

mutual
/-- An instruction. -/
inductive Instruction where
  | text (key : String) (parts : List Part)
  | element (key name : String) (attrs : List Attr) (children : List Instruction) (void : Bool)
  | component (key name : String) (call : Call)
  | partialCall (key : String) (target : Target) (call : Call)
  | branches (key : String) (arms : List Arm)
  | loop (key : String) (names : List String) (init test update : Option Nat)
    (children : List Instruction) (watch : Option Nat)
  | each (key : String) (collection : Nat) (index iterator : String)
    (children : List Instruction) (watch : Option Nat)
  /-- an instruction that nobody knows -/
  | unknown (op : String)

/-- An arm of a condition; one without a test is the last resort. -/
inductive Arm where
  | mk (test : Option Nat) (children : List Instruction) (watch : Option Nat)
end

instance : Inhabited Instruction := ⟨.unknown ""⟩

/-- What a body is. -/
inductive BodyKind where
  | root | template | content
  | other (name : String)
deriving DecidableEq, Repr

def BodyKind.name : BodyKind → String
  | .root => "ROOT"
  | .template => "TEMPLATE"
  | .content => "CONTENT"
  | .other name => name

def BodyKind.ofName : String → BodyKind
  | "ROOT" => .root
  | "TEMPLATE" => .template
  | "CONTENT" => .content
  | name => .other name

/-- A body of instructions. -/
structure Body where
  kind : BodyKind
  name : String := ""
  /-- a readable form of the body -/
  source : String := ""
  children : List Instruction := []
  watch : Option Nat := none

instance : Inhabited Body := ⟨{ kind := .root }⟩

end Description

/-- A compiled template. -/
structure Description where
  module : String
  dependencies : List String := []
  bodies : Array Description.Body := #[]
  reactive : List String := []
  expressions : Array Expression := #[]
  /-- the slots that are watched, as runs -/
  watches : Array (List (List Int)) := #[]
  childNames : List String := []
  /-- texts and contexts to translate -/
  translations : List (String × String) := []
  symbols : List String := []

namespace Description

/-- The current version of the written form. -/
def version : Nat := 3

/-- The names of the inline templates. -/
def templateNames (d : Description) : List String :=
  (d.bodies.toList.filter (·.kind == .template)).map (·.name)

/-- The number of root bodies. -/
def rootCount (d : Description) : Nat := d.bodies.toList.countP (·.kind == .root)

/-- The position of the last body that satisfies `p`. -/
def lastBody? (d : Description) (p : Body → Bool) : Option Nat :=
  (List.range d.bodies.size).reverse.find? fun i => (d.bodies[i]?).any p

/-- The position of the root body. -/
def root? (d : Description) : Option Nat := d.lastBody? (·.kind == .root)

/-- The position of the body of an inline template. -/
def template? (d : Description) (name : String) : Option Nat :=
  d.lastBody? fun b => b.kind == .template && b.name == name

end Description

end Trellis
