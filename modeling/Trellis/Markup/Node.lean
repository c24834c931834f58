/-
Template trees: elements, components, partials, inline templates, branches and loops.
-/
import Trellis.Segment

namespace Trellis.Markup

/-- What every node has: its key among its siblings, its place, whether it is a top node of its
nearest component body, and the lexical container it belongs to once it is annotated. -/
structure Meta where
  key : String
  line : Nat
  column : Nat
  root : Bool := false
  container : Option Nat := none
deriving DecidableEq, Repr

/-- How an attribute is used. -/
inductive AttrKind where
  /-- an attribute of an element, an option of a component -/
  | plain
  /-- always an attribute -/
  | attribute
  /-- a two-way binding -/
  | bind
  /-- an event handler -/
  | event
deriving DecidableEq, Repr

def AttrKind.name : AttrKind → String
  | .plain => "plain"
  | .attribute => "attr"
  | .bind => "bind"
  | .event => "on"

/-- The value of an attribute: text with expressions, or one program. -/
inductive AttrValue where
  | segments (segments : List Segment)
  | program (p : Program)

/-- An attribute; its name stands without the mark of its kind. -/
structure Attribute where
  name : String
  kind : AttrKind
  raw : String
  value : AttrValue
  line : Nat
  column : Nat

/-- How a partial finds its template: in the same file, by module path, or by evaluation. -/
inductive PartialTarget where
  | inline (name : String)
  | static (path : String)
  | dynamic (target : Program)

/-- The types of scalar values. -/
inductive ScalarType where
  | string | number | boolean | any
deriving DecidableEq, Repr

def ScalarType.name : ScalarType → String
  | .string => "String"
  | .number => "Number"
  | .boolean => "Boolean"
  | .any => "Value"

mutual
/-- A typed option value. -/
inductive TypedValue where
  | scalar (type : ScalarType) (segments : List Segment)
  | array (items : List TypedValue)
  | object (properties : List TypedOption)

/-- A named option with a typed value. -/
inductive TypedOption where
  | mk (info : Meta) (name : String) (value : TypedValue)
end

mutual
/-- A node of a template. -/
inductive Node where
  | text (info : Meta) (segments : List Segment)
  | element (info : Meta) (name : String) (attrs : List Attribute) (children : List Node)
    (void : Bool)
  | component (info : Meta) (name : String) (attrs : List Attribute)
    (options : List TypedOption) (contents : List Content)
  | partialCall (info : Meta) (target : PartialTarget) (attrs : List Attribute)
    (options : List TypedOption) (contents : List Content)
  | template (info : Meta) (name : String) (children : List Node)
  /-- `ws:if` with the `ws:else` branches that follow it -/
  | branches (info : Meta) (test : Program) (children : List Node) (others : List Branch)
  /-- a loop with three clauses; `names` are the identifiers that the clauses assign -/
  | loop (info : Meta) (init : Option Program) (test : Program) (update : Option Program)
    (names : List String) (children : List Node)
  /-- a loop over a collection; an empty `index` is not bound -/
  | each (info : Meta) (index iterator : String) (collection : Program) (children : List Node)

/-- A `ws:else` branch, with its own test unless it is the last resort. -/
inductive Branch where
  | mk (info : Meta) (test : Option Program) (children : List Node)

/-- Content that is passed to a component or partial under a name. -/
inductive Content where
  | mk (info : Meta) (name : String) (children : List Node)
end

instance : Inhabited Node := ⟨.text ⟨"", 0, 0, false, none⟩ []⟩

def TypedOption.info : TypedOption → Meta
  | .mk info _ _ => info

def TypedOption.name : TypedOption → String
  | .mk _ name _ => name

def TypedOption.value : TypedOption → TypedValue
  | .mk _ _ value => value

def Branch.info : Branch → Meta
  | .mk info _ _ => info

def Branch.test : Branch → Option Program
  | .mk _ test _ => test

def Branch.children : Branch → List Node
  | .mk _ _ children => children

def Content.info : Content → Meta
  | .mk info _ _ => info

def Content.name : Content → String
  | .mk _ name _ => name

def Content.children : Content → List Node
  | .mk _ _ children => children

def Node.info : Node → Meta
  | .text info _ | .element info _ _ _ _ | .component info _ _ _ _ | .partialCall info _ _ _ _
  | .template info _ _ | .branches info _ _ _ | .loop info _ _ _ _ _ | .each info _ _ _ _ => info

/-- The identifiers that a loop over a collection binds. -/
def eachNames (index iterator : String) : List String :=
  if index.isEmpty then [iterator] else [index, iterator]

mutual
/-- The keys of a node and its descendants in document order; what stands inside a loop with three
clauses is left out. -/
def Node.keys : Node → List String
  | .text info _ => [info.key]
  | .element info _ _ children _ => info.key :: Node.keysList children
  | .component info _ _ _ contents => info.key :: Content.keysList contents
  | .partialCall info _ _ _ contents => info.key :: Content.keysList contents
  | .template info _ children => info.key :: Node.keysList children
  | .branches info _ children others =>
    info.key :: Node.keysList children ++ Branch.keysList others
  | .loop info _ _ _ _ _ => [info.key]
  | .each info _ _ _ children => info.key :: Node.keysList children

def Node.keysList : List Node → List String
  | [] => []
  | n :: ns => Node.keys n ++ Node.keysList ns

def Branch.keysList : List Branch → List String
  | [] => []
  | .mk info _ children :: bs => info.key :: Node.keysList children ++ Branch.keysList bs

def Content.keysList : List Content → List String
  | [] => []
  | .mk info _ children :: cs => info.key :: Node.keysList children ++ Content.keysList cs
end

end Trellis.Markup
