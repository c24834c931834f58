/-
Walking over programs, and what a program refers to.

The walk visits the children of a node, and all nodes with children before their parents.  Dotted
property names, the names of object properties and the names of decorators are not nodes of the
walk: they are names, not references.
-/
import Trellis.Expr.Basic
import Trellis.Expr.Parser

namespace Trellis

/-- A node of a program. -/
inductive Node where
  | program (p : Program)
  | stmt (s : Stmt)
  | expr (e : Expr)
  /-- the decorators of a pipe together -/
  | chain (span : Span) (decorators : List Decorator)
  | decorator (d : Decorator)

namespace Node

/-- The name of the kind of a node. -/
def kindName : Node → String
  | .program _ => "Program"
  | .stmt (.empty _) => "EmptyStatement"
  | .stmt (.expr _ _) => "ExpressionStatement"
  | .chain _ _ => "DecoratorChainCall"
  | .decorator _ => "DecoratorCall"
  | .expr e =>
    match e with
    | .this _ => "ThisExpression"
    | .ident _ _ => "Identifier"
    | .lit _ _ => "Literal"
    | .array _ _ => "ArrayExpression"
    | .object _ _ => "ObjectExpression"
    | .seq _ _ => "SequenceExpression"
    | .unary _ _ _ => "UnaryExpression"
    | .binary _ _ _ _ => "BinaryExpression"
    | .logical _ _ _ _ => "LogicalExpression"
    | .cond _ _ _ _ => "ConditionalExpression"
    | .assign _ _ _ _ => "AssignmentExpression"
    | .update _ _ _ _ => "UpdateExpression"
    | .call _ _ _ => "CallExpression"
    | .member _ _ _ _ | .index _ _ _ => "MemberExpression"
    | .pipe _ _ _ _ => "DecoratorChainContext"
    | .paren _ _ => "ExpressionBrace"

/-- The canonical text of a node. -/
def text : Node → String
  | .program p => p.text
  | .stmt s => s.text
  | .expr e => e.text
  | .chain _ ds => Decorator.textChain ds
  | .decorator d => d.text

/-- The children of a node, in the order in which they are visited. -/
def children : Node → List Node
  | .program p => p.body.map .stmt
  | .stmt (.empty _) => []
  | .stmt (.expr _ e) => [.expr e]
  | .chain _ ds => ds.map .decorator
  | .decorator d => d.arguments.map .expr
  | .expr e =>
    match e with
    | .this _ | .ident _ _ | .lit _ _ => []
    | .array _ es | .seq _ es => es.map .expr
    | .object _ ps => ps.map fun p => .expr p.value
    | .unary _ _ a => [.expr a]
    | .binary _ _ l r | .logical _ _ l r => [.expr l, .expr r]
    | .cond _ t c a => [.expr t, .expr c, .expr a]
    | .assign _ _ t v => [.expr t, .expr v]
    | .update _ _ _ t => [.expr t]
    | .call _ f args => .expr f :: args.map .expr
    | .member _ o _ _ => [.expr o]
    | .index _ o i => [.expr o, .expr i]
    | .pipe _ entity span ds => [.expr entity, .chain span ds]
    | .paren _ inner => [.expr inner]

end Node

mutual
/-- The nodes of an expression, children before parents. -/
def Expr.nodes : Expr → List Node
  | .this s => [.expr (.this s)]
  | .ident s name => [.expr (.ident s name)]
  | .lit s l => [.expr (.lit s l)]
  | .array s es => Expr.nodesList es ++ [.expr (.array s es)]
  | .object s ps => Property.nodesList ps ++ [.expr (.object s ps)]
  | .seq s es => Expr.nodesList es ++ [.expr (.seq s es)]
  | .unary s op a => Expr.nodes a ++ [.expr (.unary s op a)]
  | .binary s op l r => Expr.nodes l ++ Expr.nodes r ++ [.expr (.binary s op l r)]
  | .logical s op l r => Expr.nodes l ++ Expr.nodes r ++ [.expr (.logical s op l r)]
  | .cond s t c a => Expr.nodes t ++ Expr.nodes c ++ Expr.nodes a ++ [.expr (.cond s t c a)]
  | .assign s op t v => Expr.nodes t ++ Expr.nodes v ++ [.expr (.assign s op t v)]
  | .update s op b t => Expr.nodes t ++ [.expr (.update s op b t)]
  | .call s f args => Expr.nodes f ++ Expr.nodesList args ++ [.expr (.call s f args)]
  | .member s o ns name => Expr.nodes o ++ [.expr (.member s o ns name)]
  | .index s o i => Expr.nodes o ++ Expr.nodes i ++ [.expr (.index s o i)]
  | .pipe s e cs ds =>
    Expr.nodes e ++ Decorator.nodesList ds ++ [.chain cs ds, .expr (.pipe s e cs ds)]
  | .paren s inner => Expr.nodes inner ++ [.expr (.paren s inner)]

def Expr.nodesList : List Expr → List Node
  | [] => []
  | e :: es => Expr.nodes e ++ Expr.nodesList es

def Property.nodes : Property → List Node
  | .mk _ value => Expr.nodes value

def Property.nodesList : List Property → List Node
  | [] => []
  | p :: ps => Property.nodes p ++ Property.nodesList ps

def Decorator.nodes : Decorator → List Node
  | .mk s name args parens => Expr.nodesList args ++ [.decorator (.mk s name args parens)]

def Decorator.nodesList : List Decorator → List Node
  | [] => []
  | d :: ds => Decorator.nodes d ++ Decorator.nodesList ds
end

/-- The nodes of a statement, children before parents. -/
def Stmt.nodes : Stmt → List Node
  | .empty s => [.stmt (.empty s)]
  | .expr s e => e.nodes ++ [.stmt (.expr s e)]

/-- The nodes of a program, children before parents. -/
def Program.nodes (p : Program) : List Node := p.body.flatMap Stmt.nodes ++ [.program p]

/-- The nodes below and including a node, children before parents. -/
def Node.postOrder : Node → List Node
  | .program p => p.nodes
  | .stmt s => s.nodes
  | .expr e => e.nodes
  | .chain span ds => Decorator.nodesList ds ++ [.chain span ds]
  | .decorator d => d.nodes

/-!
What a program refers to: its identifiers, the static paths it reads, the translations it asks for
and the places a binding writes to.
-/

/-- The name of the built-in translation call. -/
def translationFunction : String := "rk"

namespace Node

/-- The name of an identifier node. -/
def ident? : Node → Option String
  | .expr (.ident _ name) => some name
  | _ => none

/-- Whether a node calls the translation function by its bare name. -/
def isTranslationCall : Node → Bool
  | .expr (.call _ (.ident _ name) _) => name == translationFunction
  | _ => false

/-- Whether a node belongs to a pipe. -/
def isDecoration : Node → Bool
  | .chain _ _ | .decorator _ | .expr (.pipe _ _ _ _) => true
  | _ => false

/-- The identifiers below a node, each once, in the order of first occurrence. -/
def identifiers (n : Node) : List String := Text.dedup (n.postOrder.filterMap ident?)

/-- Whether the translation function is called below a node. -/
def callsTranslation (n : Node) : Bool := n.postOrder.any isTranslationCall

/-- Whether one of the names is referred to below a node. -/
def refersTo (names : List String) (n : Node) : Bool :=
  n.postOrder.any fun m => m.ident?.any names.contains

/-- Whether a pipe stands below a node. -/
def hasDecorators (n : Node) : Bool := n.postOrder.any isDecoration

end Node

mutual
/-- The texts of the longest static paths that an expression reads, in order, with repetitions.
An index that is computed ends the path before it; a method is not a path, its object is. -/
def Expr.pathsRead : Expr → List String
  | .ident _ name => [name]
  | .member s o ns name =>
    if (Expr.path? (.member s o ns name)).isSome then [Expr.text (.member s o ns name)]
    else Expr.pathsRead o
  | .index s o i =>
    if (Expr.path? (.index s o i)).isSome then [Expr.text (.index s o i)]
    else Expr.pathsRead o ++ Expr.pathsRead i
  | .call _ (.member _ o _ _) args => Expr.pathsRead o ++ Expr.pathsReadList args
  | .call _ (.index _ o i) args =>
    Expr.pathsRead o ++ Expr.pathsRead i ++ Expr.pathsReadList args
  | .call _ f args => Expr.pathsRead f ++ Expr.pathsReadList args
  | .this _ | .lit _ _ => []
  | .array _ es | .seq _ es => Expr.pathsReadList es
  | .object _ ps => Property.pathsReadList ps
  | .unary _ _ a => Expr.pathsRead a
  | .binary _ _ l r | .logical _ _ l r => Expr.pathsRead l ++ Expr.pathsRead r
  | .cond _ t c a => Expr.pathsRead t ++ Expr.pathsRead c ++ Expr.pathsRead a
  | .assign _ _ t v => Expr.pathsRead t ++ Expr.pathsRead v
  | .update _ _ _ t => Expr.pathsRead t
  | .pipe _ e _ ds => Expr.pathsRead e ++ Decorator.pathsReadList ds
  | .paren _ inner => Expr.pathsRead inner

def Expr.pathsReadList : List Expr → List String
  | [] => []
  | e :: es => Expr.pathsRead e ++ Expr.pathsReadList es

def Property.pathsReadList : List Property → List String
  | [] => []
  | .mk _ value :: ps => Expr.pathsRead value ++ Property.pathsReadList ps

def Decorator.pathsReadList : List Decorator → List String
  | [] => []
  | .mk _ _ args _ :: ds => Expr.pathsReadList args ++ Decorator.pathsReadList ds
end

/-- The texts of the longest static paths that a program reads, each once. -/
def Program.paths (p : Program) : List String := Text.dedup (p.exprs.flatMap Expr.pathsRead)

/-- The identifiers of a program. -/
def Program.identifiers (p : Program) : List String := (Node.program p).identifiers

/-- The programs that writing to an expression needs: the object that is written to, if the
expression is a property, and the expression itself. -/
def Expr.bindPrograms (e : Expr) : Except Fault (List Program) := do
  let full ← Program.parse e.text
  match e.unwrap with
  | .member _ o _ _ | .index _ o _ => return [← Program.parse o.text, full]
  | _ => return [full]

/-- The programs that writing to the only expression of a program needs. -/
def Program.bindPrograms (p : Program) : Except Fault (List Program) :=
  match p.single? with
  | none => .ok []
  | some e => e.bindPrograms

/-- The programs that writing to a statement needs. -/
def Stmt.bindPrograms (s : Stmt) : Except Fault (List Program) :=
  match s.expr? with
  | none => .ok []
  | some e => e.bindPrograms

end Trellis
