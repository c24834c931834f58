/-
Tokens and syntax trees as documents.
-/
import Trellis.Expr.Parser
import Trellis.Expr.Names
import Trellis.Inspect.Basic
import Trellis.Token.Lexeme

namespace Trellis.Inspect

/-- A token. -/
def token (t : Token) : Datum := .record [
  ("type", .text t.kind.name), ("literal", .text t.literal), ("raw", .text t.raw),
  ("line", nat t.line), ("column", nat t.column), ("offset", nat t.offset),
  ("newLine", .bool t.newLine)]

/-- A node: its kind, its place, the token that marks it, and what it has besides. -/
def syntaxNode (kind : String) (s : Span) (mark : String) (more : List (String × Datum)) : Datum :=
  .record ([("kind", .text kind),
    ("loc", .list [nat s.startLine, nat s.startColumn, nat s.endLine, nat s.endColumn]),
    ("token", .text mark)] ++ more)

/-- What a constant has. -/
def literalFields (l : Expr.Literal) : List (String × Datum) :=
  let (type, value) := match l with
    | .string value _ => ("string", .text value)
    | .number raw => ("number", float (Expr.numberValue raw))
    | .bool b => ("boolean", .bool b)
    | .null => ("null", .null)
  [("type", .text type), ("value", value), ("raw", .text l.raw)]

/-- The name of a property. -/
def key : Expr.Key → Datum
  | .word s name => syntaxNode "Identifier" s name [("name", .text name)]
  | .string s value raw => syntaxNode "Literal" s value (literalFields (.string value raw))
  | .number s raw => syntaxNode "Literal" s raw (literalFields (.number raw))

/-- A node of an expression. -/
def exprNode (e : Expr) (more : List (String × Datum)) : Datum :=
  syntaxNode (Node.expr e).kindName e.span e.mark more

mutual
/-- An expression. -/
def expr : Expr → Datum
  | .this s => exprNode (.this s) []
  | .ident s name => exprNode (.ident s name) [("name", .text name)]
  | .lit s l => exprNode (.lit s l) (literalFields l)
  | .array s es => exprNode (.array s es) [("elements", .list (exprs es))]
  | .object s ps => exprNode (.object s ps) [("properties", .list (properties ps))]
  | .seq s es => exprNode (.seq s es) [("expressions", .list (exprs es))]
  | .unary s op a => exprNode (.unary s op a) [("operator", .text op.text), ("argument", expr a)]
  | .binary s op l r =>
    exprNode (.binary s op l r) [("operator", .text op.text), ("left", expr l), ("right", expr r)]
  | .logical s op l r =>
    exprNode (.logical s op l r) [("operator", .text op.text), ("left", expr l), ("right", expr r)]
  | .cond s t c a =>
    exprNode (.cond s t c a) [("test", expr t), ("consequent", expr c), ("alternate", expr a)]
  | .assign s op t v =>
    exprNode (.assign s op t v) [("operator", .text op.text), ("target", expr t), ("value", expr v)]
  | .update s op b t =>
    exprNode (.update s op b t)
      [("operator", .text op.text), ("prefix", .bool b), ("target", expr t)]
  | .call s f args =>
    exprNode (.call s f args) [("callee", expr f), ("arguments", .list (exprs args))]
  | .member s o ns name =>
    exprNode (.member s o ns name) [("object", expr o),
      ("property", syntaxNode "Identifier" ns name [("name", .text name)]),
      ("computed", .bool false), ("static", .text name)]
  | .index s o i =>
    exprNode (.index s o i) ([("object", expr o), ("property", expr i), ("computed", .bool true)] ++
      (match (Expr.index s o i).staticName? with
        | some name => [("static", .text name)]
        | none => []))
  | .pipe s e cs ds =>
    exprNode (.pipe s e cs ds) [("entity", expr e),
      ("chain", syntaxNode "DecoratorChainCall" cs "|" [("entries", .list (decorators ds))])]
  | .paren s inner => exprNode (.paren s inner) [("expression", expr inner)]

def exprs : List Expr → List Datum
  | [] => []
  | e :: es => expr e :: exprs es

def properties : List Property → List Datum
  | [] => []
  | .mk k v :: ps =>
    .record [("key", key k), ("name", .text k.name), ("value", expr v)] :: properties ps

def decorators : List Decorator → List Datum
  | [] => []
  | .mk s name args parens :: ds =>
    syntaxNode "DecoratorCall" s name [("name", .text name), ("arguments", .list (exprs args)),
      ("parens", .bool parens)] :: decorators ds
end

/-- A statement. -/
def stmt : Stmt → Datum
  | .empty s => syntaxNode "EmptyStatement" s ";" []
  | .expr s e => syntaxNode "ExpressionStatement" s e.leading [("expression", expr e)]

/-- A program. -/
def program (p : Program) : Datum :=
  syntaxNode "Program" p.span p.leading
    [("body", .list (p.body.map stmt)), ("reference", num (-1))]

/-- What a text parses to, and whether its canonical text parses again.  The tree is left out on
request. -/
def parsed (text : String) (brief : Bool) : Except Fault Datum := do
  let p ← Program.parse text
  return .record ([("string", .text p.text),
    ("reparse", orFault ((Program.parse p.text).map fun q => .text q.text))] ++
    (if brief then [] else [("ast", program p)]))

/-- Programs, or why there are none. -/
def programs (r : Except Fault (List Program)) : Datum :=
  orFault (r.map fun ps => texts (ps.map Program.text))

/-- What a walk over a program finds. -/
def walked (p : Program) (names : List String) : Datum :=
  let n := Node.program p
  let all := n.postOrder
  let single := p.single?
  .record ([
    ("kinds", texts (all.map Node.kindName)),
    ("hooked", texts (all.map fun m => m.kindName ++ " " ++ m.text)),
    ("identifiers", texts n.identifiers),
    ("paths", texts p.paths),
    ("translation", .bool n.callsTranslation),
    ("contains", .bool (n.refersTo names)),
    ("decorators", .bool n.hasDecorators),
    ("single", optText (single.map Expr.text)),
    ("unwrapped", .text ((single.map fun e => e.unwrap.text).getD "")),
    ("path", ((single.bind Expr.path?).map texts).getD .null),
    ("children", texts ((single.map fun e => (Node.expr e).children.map Node.text).getD [])),
    ("bind", programs p.bindPrograms)] ++
    (match p.body with
      | s :: _ => [("bindStatement", programs s.bindPrograms)]
      | [] => []) ++
    (match single with
      | some e => [("bindExpression", programs e.bindPrograms)]
      | none => []))

end Trellis.Inspect
