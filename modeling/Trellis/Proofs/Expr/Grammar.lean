/-
The trees that reading gives, and their tokens.

Reading climbs precedences: an operand is extended by every operator that binds tighter than the
level at which it is read.  So a tree does not show by its shape alone whether it can be read at a
level: its left parts must be readable at the same level, its right parts at the level of the
operator, and each left part must come to its end before the operator.  `Expr.Fits` says this, with
`Expr.endsAt` for the last condition: nothing inside the expression takes a token of the given kind
that follows it.

`Expr.faces` are the tokens of a tree in the order in which they are written, `Expr.bare` is the
tree without places.
-/
import Trellis.Expr.Parser
import Trellis.Proofs.Token.Scan

namespace Trellis

open Trellis.Expr (Key Literal UnaryOp BinaryOp LogicalOp AssignOp UpdateOp numberValue)
open Token (Kind Face)
open Reading (Level)

/-- The syntax tree of a program: its expressions without places.  Statements that are empty are
not part of it. -/
def Program.tree (p : Program) : List Expr := p.exprs.map Expr.bare

/-! ### The tokens of a tree -/

def Expr.UnaryOp.kind : UnaryOp → Kind
  | .not => .bang
  | .neg => .minus
  | .pos => .plus
  | .typeof => .typeof

def Expr.BinaryOp.kind : BinaryOp → Kind
  | .add => .plus
  | .sub => .minus
  | .mul => .asterisk
  | .div => .slash
  | .mod => .percent
  | .eq => .eq
  | .ne => .notEq
  | .strictEq => .strictEq
  | .strictNe => .strictNotEq
  | .lt => .lt
  | .gt => .gt
  | .le => .lte
  | .ge => .gte

def Expr.LogicalOp.kind : LogicalOp → Kind
  | .and => .and
  | .or => .or

def Expr.AssignOp.kind : AssignOp → Kind
  | .set => .assign
  | .add => .plusAssign
  | .sub => .minusAssign

def Expr.UpdateOp.kind : UpdateOp → Kind
  | .inc => .plusPlus
  | .dec => .minusMinus

/-- The token of a name or a keyword. -/
def Token.Face.word (name : String) : Face := .plain (Kind.ofWord name) name

/-- The token of a string. -/
def Token.Face.string (value raw : String) : Face := ⟨.string, value, raw, false⟩

def Expr.Literal.face : Literal → Face
  | .string value raw => .string value raw
  | .number raw => .plain .number raw
  | .bool true => .plain .true "true"
  | .bool false => .plain .false "false"
  | .null => .plain .null "null"

def Expr.Key.face : Key → Face
  | .word _ name => .word name
  | .string _ value raw => .string value raw
  | .number _ raw => .plain .number raw

mutual
/-- The tokens of an expression as it is written. -/
def Expr.faces : Expr → List Face
  | .this _ => [.plain .this "this"]
  | .ident _ name => [.plain .ident name]
  | .lit _ l => [l.face]
  | .array _ elements =>
    .plain .lbracket "[" :: (Expr.facesList elements ++ [.plain .rbracket "]"])
  | .object _ properties =>
    .plain .lbrace "\x7b" :: (Property.facesList properties ++ [.plain .rbrace "\x7d"])
  | .seq _ items => Expr.facesList items
  | .unary _ op argument => .plain op.kind op.text :: argument.faces
  | .binary _ op left right => left.faces ++ .plain op.kind op.text :: right.faces
  | .logical _ op left right => left.faces ++ .plain op.kind op.text :: right.faces
  | .cond _ test consequent alternate =>
    test.faces ++ .plain .question "?" ::
      (consequent.faces ++ .plain .colon ":" :: alternate.faces)
  | .assign _ op target value => target.faces ++ .plain op.kind op.text :: value.faces
  | .update _ op before target =>
    if before then .plain op.kind op.text :: target.faces
    else target.faces ++ [.plain op.kind op.text]
  | .call _ callee arguments =>
    callee.faces ++ .plain .lparen "(" :: (Expr.facesList arguments ++ [.plain .rparen ")"])
  | .member _ object _ name => object.faces ++ [.plain .dot ".", .word name]
  | .index _ object index =>
    object.faces ++ .plain .lbracket "[" :: (index.faces ++ [.plain .rbracket "]"])
  | .pipe _ entity _ chain => entity.faces ++ .plain .pipe "|" :: Decorator.facesChain chain
  | .paren _ inner => .plain .lparen "(" :: (inner.faces ++ [.plain .rparen ")"])

def Expr.facesList : List Expr → List Face
  | [] => []
  | e :: [] => e.faces
  | e :: f :: rest => e.faces ++ .plain .comma "," :: Expr.facesList (f :: rest)

def Property.facesList : List Property → List Face
  | [] => []
  | p :: [] => Property.faces p
  | p :: q :: rest => Property.faces p ++ .plain .comma "," :: Property.facesList (q :: rest)

def Property.faces : Property → List Face
  | .mk key value => key.face :: .plain .colon ":" :: value.faces

def Decorator.facesChain : List Decorator → List Face
  | [] => []
  | d :: [] => Decorator.faces d
  | d :: e :: rest => Decorator.faces d ++ .plain .pipe "|" :: Decorator.facesChain (e :: rest)

def Decorator.faces : Decorator → List Face
  | .mk _ name arguments parens =>
    if parens then
      .plain .ident name ::
        .plain .lparen "(" :: (Expr.facesList arguments ++ [.plain .rparen ")"])
    else [.plain .ident name]
end

/-- The tokens of expressions with semicolons between them. -/
def Expr.facesLines : List Expr → List Face
  | [] => []
  | e :: [] => e.faces
  | e :: f :: rest => e.faces ++ .plain .semicolon ";" :: Expr.facesLines (f :: rest)

/-! ### Trees that can be read -/

/-- How tightly a token binds that follows an operand. -/
def Token.Kind.rank (k : Kind) : Nat := (Level.ofKind k).rank

/-- Whether the last decorator of a chain has an argument list. -/
def Decorator.lastParens : List Decorator → Bool
  | [] => true
  | d :: [] => d.parens
  | _ :: e :: rest => Decorator.lastParens (e :: rest)

/-- Whether an expression is complete before a token of the given kind: what it reads last does not
take the token. -/
def Expr.endsAt : Expr → Kind → Bool
  | .unary _ _ _, k => k.rank ≤ Level.unary.rank
  | .update _ _ true _, k => k.rank ≤ Level.unary.rank
  | .binary _ op _ _, k => k.rank ≤ op.kind.rank
  | .logical _ op _ _, k => k.rank ≤ op.kind.rank
  | .cond _ _ _ _, k => k.rank ≤ Level.pipe.rank
  | .assign _ _ _ _, k => k.rank ≤ Level.sequence.rank
  | .seq _ _, k => k.rank ≤ Level.lowest.rank
  | .pipe _ _ _ chain, k => k != .pipe && (Decorator.lastParens chain || k != .lparen)
  | _, _ => true

def Expr.Literal.Fits : Literal → Prop
  | .string value raw => (Face.string value raw).Sound
  | .number raw => (Face.plain .number raw).Sound ∧ (numberValue raw).isInf = false
  | _ => True

def Expr.Key.Fits : Key → Prop
  | .word _ name => (Face.word name).Sound
  | .string _ value raw => (Face.string value raw).Sound
  | .number _ raw => (Face.plain .number raw).Sound ∧ (numberValue raw).isInf = false

mutual
/-- Whether an expression is one that can be read where operators bind tighter than rank `r`. -/
def Expr.Fits : Expr → Nat → Prop
  | .this _, _ => True
  | .ident _ name, _ => (Face.plain .ident name).Sound
  | .lit _ l, _ => l.Fits
  | .array _ elements, _ => Expr.FitsAll elements
  | .object _ properties, _ => Property.FitsAll properties
  | .seq _ items, r => r < Level.sequence.rank ∧ Expr.FitsItems items r
  | .unary _ _ argument, _ => argument.Fits Level.unary.rank
  | .binary _ op left right, r =>
    r < op.kind.rank ∧ left.Fits r ∧ left.endsAt op.kind = true ∧ right.Fits op.kind.rank
  | .logical _ op left right, r =>
    r < op.kind.rank ∧ left.Fits r ∧ left.endsAt op.kind = true ∧ right.Fits op.kind.rank
  | .cond _ test consequent alternate, r =>
    r < Level.conditional.rank ∧ test.Fits r ∧ test.endsAt .question = true ∧
      consequent.Fits Level.sequence.rank ∧ alternate.Fits Level.pipe.rank
  | .assign _ _ target value, r =>
    r < Level.assignment.rank ∧ target.Fits r ∧ target.isAssignable = true ∧
      value.Fits Level.sequence.rank
  | .update _ _ before target, r =>
    target.isAssignable = true ∧
      if before then target.Fits Level.unary.rank else r < Level.update.rank ∧ target.Fits r
  | .call _ callee arguments, r =>
    r < Level.call.rank ∧ callee.Fits r ∧ callee.endsAt .lparen = true ∧ Expr.FitsAll arguments
  | .member _ object _ name, r =>
    r < Level.call.rank ∧ object.Fits r ∧ object.endsAt .dot = true ∧ (Face.word name).Sound
  | .index _ object index, r =>
    r < Level.call.rank ∧ object.Fits r ∧ object.endsAt .lbracket = true ∧
      index.Fits Level.lowest.rank
  | .pipe _ entity _ chain, r =>
    r < Level.pipe.rank ∧ entity.Fits r ∧ entity.endsAt .pipe = true ∧ chain ≠ [] ∧
      Decorator.FitsAll chain
  | .paren _ inner, _ => inner.Fits Level.lowest.rank

/-- Expressions between commas. -/
def Expr.FitsAll : List Expr → Prop
  | [] => True
  | e :: rest => e.Fits Level.sequence.rank ∧ Expr.FitsAll rest

/-- The items of a sequence: two at least. -/
def Expr.FitsItems : List Expr → Nat → Prop
  | e :: f :: rest, r => e.Fits r ∧ e.endsAt .comma = true ∧ Expr.FitsAll (f :: rest)
  | _, _ => False

def Property.FitsAll : List Property → Prop
  | [] => True
  | .mk key value :: rest => key.Fits ∧ value.Fits Level.sequence.rank ∧ Property.FitsAll rest

def Decorator.FitsAll : List Decorator → Prop
  | [] => True
  | .mk _ name arguments parens :: rest =>
    (Face.plain .ident name).Sound ∧ Expr.FitsAll arguments ∧
      (parens = false → arguments = []) ∧ Decorator.FitsAll rest
end

end Trellis
