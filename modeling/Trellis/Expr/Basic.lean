/-
The expression language: trees with the place of every node.
-/
import Trellis.Text.Decimal
import Trellis.Text.Search

namespace Trellis

/-- A range of source text, by line and column of its first and last character. -/
structure Span where
  startLine : Nat
  startColumn : Nat
  endLine : Nat
  endColumn : Nat
deriving DecidableEq, Repr

namespace Expr

/-- Operators before an operand. -/
inductive UnaryOp where
  | not | neg | pos | typeof
deriving DecidableEq, Repr

/-- Operators that evaluate both operands. -/
inductive BinaryOp where
  | add | sub | mul | div | mod | eq | ne | strictEq | strictNe | lt | gt | le | ge
deriving DecidableEq, Repr

/-- Operators that may skip the right operand. -/
inductive LogicalOp where
  | and | or
deriving DecidableEq, Repr

/-- Assignments: plain, adding and subtracting. -/
inductive AssignOp where
  | set | add | sub
deriving DecidableEq, Repr

/-- Steps by one. -/
inductive UpdateOp where
  | inc | dec
deriving DecidableEq, Repr

def UnaryOp.text : UnaryOp → String
  | .not => "!"
  | .neg => "-"
  | .pos => "+"
  | .typeof => "typeof"

def BinaryOp.text : BinaryOp → String
  | .add => "+"
  | .sub => "-"
  | .mul => "*"
  | .div => "/"
  | .mod => "%"
  | .eq => "=="
  | .ne => "!="
  | .strictEq => "==="
  | .strictNe => "!=="
  | .lt => "<"
  | .gt => ">"
  | .le => "<="
  | .ge => ">="

def LogicalOp.text : LogicalOp → String
  | .and => "&&"
  | .or => "||"

def AssignOp.text : AssignOp → String
  | .set => "="
  | .add => "+="
  | .sub => "-="

def UpdateOp.text : UpdateOp → String
  | .inc => "++"
  | .dec => "--"

/-- A constant as it was written.  A string keeps its decoded value beside its source text. -/
inductive Literal where
  | string (value raw : String)
  | number (raw : String)
  | bool (b : Bool)
  | null
deriving DecidableEq, Repr

/-- The source text of a constant. -/
def Literal.raw : Literal → String
  | .string _ raw => raw
  | .number raw => raw
  | .bool b => if b then "true" else "false"
  | .null => "null"

/-- The number that decimal digits denote. -/
def digitsValue (ds : List Char) : Nat := ds.foldl (fun n c => 10 * n + (c.toNat - 48)) 0

/-- The decimal that digits with an optional point and exponent denote. -/
def readDecimal (cs : List Char) : Text.Decimal :=
  let isDigit := fun c : Char => '0' ≤ c && c ≤ '9'
  let whole := cs.takeWhile isDigit
  let rest := cs.dropWhile isDigit
  let (fraction, rest) := match rest with
    | '.' :: more => (more.takeWhile isDigit, more.dropWhile isDigit)
    | _ => ([], rest)
  let exponent : Int := match rest with
    | _ :: '-' :: ds => -(digitsValue ds : Int)
    | _ :: '+' :: ds => (digitsValue ds : Int)
    | _ :: ds => (digitsValue ds : Int)
    | [] => 0
  ⟨digitsValue (whole ++ fraction), exponent - fraction.length⟩

/-- The value of a number literal; infinite when it is too large. -/
def numberValue (raw : String) : Float := (readDecimal raw.toList).toFloat

/-- The name of a property in an object literal: a word, a string or a number. -/
inductive Key where
  | word (span : Span) (name : String)
  | string (span : Span) (value raw : String)
  | number (span : Span) (raw : String)
deriving DecidableEq, Repr

/-- The source text of a property name. -/
def Key.text : Key → String
  | .word _ name => name
  | .string _ _ raw => raw
  | .number _ raw => raw

/-- The property that a name stands for. -/
def Key.name : Key → String
  | .word _ name => name
  | .string _ value _ => value
  | .number _ raw => raw

end Expr

open Trellis.Expr in
mutual
/-- An expression. -/
inductive Expr where
  | this (span : Span)
  | ident (span : Span) (name : String)
  | lit (span : Span) (value : Literal)
  | array (span : Span) (elements : List Expr)
  | object (span : Span) (properties : List Property)
  | seq (span : Span) (items : List Expr)
  | unary (span : Span) (op : UnaryOp) (argument : Expr)
  | binary (span : Span) (op : BinaryOp) (left right : Expr)
  | logical (span : Span) (op : LogicalOp) (left right : Expr)
  | cond (span : Span) (test consequent alternate : Expr)
  | assign (span : Span) (op : AssignOp) (target value : Expr)
  /-- `++x` when `before` is set, else `x++` -/
  | update (span : Span) (op : UpdateOp) (before : Bool) (target : Expr)
  | call (span : Span) (callee : Expr) (arguments : List Expr)
  /-- `object.name` -/
  | member (span : Span) (object : Expr) (nameSpan : Span) (name : String)
  /-- `object[index]` -/
  | index (span : Span) (object index : Expr)
  /-- `entity|name|name(arguments)` -/
  | pipe (span : Span) (entity : Expr) (chainSpan : Span) (chain : List Decorator)
  | paren (span : Span) (inner : Expr)

/-- A property of an object literal. -/
inductive Property where
  | mk (key : Key) (value : Expr)

/-- One decorator of a pipe; `parens` says whether an argument list was written. -/
inductive Decorator where
  | mk (span : Span) (name : String) (arguments : List Expr) (parens : Bool)
end

instance : Inhabited Expr := ⟨.this ⟨0, 0, 0, 0⟩⟩

def Property.key : Property → Expr.Key
  | .mk key _ => key

def Property.value : Property → Expr
  | .mk _ value => value

def Decorator.span : Decorator → Span
  | .mk span _ _ _ => span

def Decorator.name : Decorator → String
  | .mk _ name _ _ => name

def Decorator.arguments : Decorator → List Expr
  | .mk _ _ args _ => args

def Decorator.parens : Decorator → Bool
  | .mk _ _ _ parens => parens

namespace Expr

/-- The place of an expression. -/
def span : Expr → Span
  | this s | ident s _ | lit s _ | array s _ | object s _ | seq s _ | unary s _ _
  | binary s _ _ _ | logical s _ _ _ | cond s _ _ _ | assign s _ _ _ | update s _ _ _
  | call s _ _ | member s _ _ _ | index s _ _ | pipe s _ _ _ | paren s _ => s

/-- Whether an expression may stand on the left of an assignment. -/
def isAssignable : Expr → Bool
  | ident _ _ | member _ _ _ _ | index _ _ _ => true
  | _ => false

/-- An expression without the parentheses around it. -/
def unwrap : Expr → Expr
  | paren _ inner => inner.unwrap
  | e => e

/-- The property name that is known without evaluation: a dotted name, or an index that is a
string literal. -/
def staticName? : Expr → Option String
  | member _ _ _ name => some name
  | index _ _ (lit _ (.string value _)) => some value
  | _ => none

/-- The names along a static path: an identifier, or static steps from one. -/
def path? : Expr → Option (List String)
  | ident _ name => some [name]
  | member _ base _ name => (path? base).map (· ++ [name])
  | index _ base (lit _ (.string value _)) => (path? base).map (· ++ [value])
  | _ => none

/-- The text of the token that marks a node: its operator, bracket, name or constant. -/
def mark : Expr → String
  | this _ => "this"
  | ident _ name => name
  | lit _ (.string value _) => value
  | lit _ l => l.raw
  | array _ _ => "["
  | object _ _ => "\x7b"
  | seq _ _ => ","
  | unary _ op _ => op.text
  | binary _ op _ _ => op.text
  | logical _ op _ _ => op.text
  | cond _ _ _ _ => "?"
  | assign _ op _ _ => op.text
  | update _ op _ _ => op.text
  | call _ _ _ => "("
  | member _ _ _ _ => "."
  | index _ _ _ => "["
  | pipe _ _ _ _ => "|"
  | paren _ _ => "("

/-- The text of the first token of an expression. -/
def leading : Expr → String
  | seq s (first :: rest) =>
    have : sizeOf first < sizeOf (seq s (first :: rest)) := by simp; omega
    leading first
  | binary _ _ left _ => leading left
  | logical _ _ left _ => leading left
  | cond _ test _ _ => leading test
  | assign _ _ target _ => leading target
  | update _ op before target => if before then op.text else leading target
  | call _ callee _ => leading callee
  | member _ base _ _ => leading base
  | index _ base _ => leading base
  | pipe _ entity _ _ => leading entity
  | e => e.mark
termination_by e => sizeOf e

end Expr

/-- A statement: nothing between two separators, or an expression. -/
inductive Stmt where
  | empty (span : Span)
  | expr (span : Span) (e : Expr)

/-- A program: statements, with the text they were read from. -/
structure Program where
  body : List Stmt
  span : Span
  source : String

instance : Inhabited Program := ⟨⟨[], ⟨0, 0, 0, 0⟩, ""⟩⟩

/-- The expression of a statement. -/
def Stmt.expr? : Stmt → Option Expr
  | .empty _ => none
  | .expr _ e => some e

/-- The place of a statement. -/
def Stmt.span : Stmt → Span
  | .empty s | .expr s _ => s

/-- The text of the first token of a statement. -/
def Stmt.leading : Stmt → String
  | .empty _ => ";"
  | .expr _ e => e.leading

/-- The expressions of a program. -/
def Program.exprs (p : Program) : List Expr := p.body.filterMap Stmt.expr?

/-- The only expression of a program, if it has exactly one. -/
def Program.single? (p : Program) : Option Expr :=
  match p.exprs with
  | [e] => some e
  | _ => none

end Trellis

/-!
The canonical text of expressions and programs.  Two programs with one canonical text are treated
as the same program.
-/

namespace Trellis

mutual
/-- The canonical text of an expression. -/
def Expr.text : Expr → String
  | .this _ => "this"
  | .ident _ name => name
  | .lit _ l => l.raw
  | .array _ elements => "[" ++ Expr.textList elements ++ "]"
  | .object _ properties => "\x7b" ++ Property.textList properties ++ "\x7d"
  | .seq _ items => Expr.textList items
  | .unary _ .typeof argument => "typeof " ++ Expr.text argument
  | .unary _ op argument => op.text ++ Expr.text argument
  | .binary _ op left right => Expr.text left ++ " " ++ op.text ++ " " ++ Expr.text right
  | .logical _ op left right => Expr.text left ++ " " ++ op.text ++ " " ++ Expr.text right
  | .cond _ test consequent alternate =>
    Expr.text test ++ " ? " ++ Expr.text consequent ++ " : " ++ Expr.text alternate
  | .assign _ op target value => Expr.text target ++ " " ++ op.text ++ " " ++ Expr.text value
  | .update _ op before target =>
    if before then op.text ++ Expr.text target else Expr.text target ++ op.text
  | .call _ callee arguments => Expr.text callee ++ "(" ++ Expr.textList arguments ++ ")"
  | .member _ object _ name => Expr.text object ++ "." ++ name
  | .index _ object index => Expr.text object ++ "[" ++ Expr.text index ++ "]"
  | .pipe _ entity _ chain => Expr.text entity ++ "|" ++ Decorator.textChain chain
  | .paren _ inner => "(" ++ Expr.text inner ++ ")"

/-- Expressions with commas between them. -/
def Expr.textList : List Expr → String
  | [] => ""
  | e :: [] => Expr.text e
  | e :: f :: rest => Expr.text e ++ ", " ++ Expr.textList (f :: rest)

/-- Properties with commas between them. -/
def Property.textList : List Property → String
  | [] => ""
  | p :: [] => Property.text p
  | p :: q :: rest => Property.text p ++ ", " ++ Property.textList (q :: rest)

def Property.text : Property → String
  | .mk key value => key.text ++ ": " ++ Expr.text value

/-- Decorators with bars between them. -/
def Decorator.textChain : List Decorator → String
  | [] => ""
  | d :: [] => Decorator.text d
  | d :: e :: rest => Decorator.text d ++ "|" ++ Decorator.textChain (e :: rest)

def Decorator.text : Decorator → String
  | .mk _ name arguments parens =>
    if parens then name ++ "(" ++ Expr.textList arguments ++ ")" else name
end

/-- The canonical text of a statement. -/
def Stmt.text : Stmt → String
  | .empty _ => ""
  | .expr _ e => e.text

/-- The canonical text of a program: its expressions, separated by semicolons. -/
def Program.text (p : Program) : String := "; ".intercalate (p.exprs.map Expr.text)

/-- The text of the first token of a program. -/
def Program.leading (p : Program) : String := (p.body.head?.map Stmt.leading).getD ""

/-- The place of nothing. -/
def Span.nowhere : Span := ⟨0, 0, 0, 0⟩

/-! ### Trees without places -/

def Expr.Key.bare : Expr.Key → Expr.Key
  | .word _ name => .word .nowhere name
  | .string _ value raw => .string .nowhere value raw
  | .number _ raw => .number .nowhere raw

mutual
/-- An expression without the places of its parts. -/
def Expr.bare : Expr → Expr
  | .this _ => .this .nowhere
  | .ident _ name => .ident .nowhere name
  | .lit _ l => .lit .nowhere l
  | .array _ elements => .array .nowhere (Expr.bareList elements)
  | .object _ properties => .object .nowhere (Property.bareList properties)
  | .seq _ items => .seq .nowhere (Expr.bareList items)
  | .unary _ op argument => .unary .nowhere op argument.bare
  | .binary _ op left right => .binary .nowhere op left.bare right.bare
  | .logical _ op left right => .logical .nowhere op left.bare right.bare
  | .cond _ test consequent alternate =>
    .cond .nowhere test.bare consequent.bare alternate.bare
  | .assign _ op target value => .assign .nowhere op target.bare value.bare
  | .update _ op before target => .update .nowhere op before target.bare
  | .call _ callee arguments => .call .nowhere callee.bare (Expr.bareList arguments)
  | .member _ object _ name => .member .nowhere object.bare .nowhere name
  | .index _ object index => .index .nowhere object.bare index.bare
  | .pipe _ entity _ chain => .pipe .nowhere entity.bare .nowhere (Decorator.bareList chain)
  | .paren _ inner => .paren .nowhere inner.bare

def Expr.bareList : List Expr → List Expr
  | [] => []
  | e :: rest => e.bare :: Expr.bareList rest

def Property.bareList : List Property → List Property
  | [] => []
  | .mk key value :: rest => .mk key.bare value.bare :: Property.bareList rest

def Decorator.bareList : List Decorator → List Decorator
  | [] => []
  | .mk _ name arguments parens :: rest =>
    .mk .nowhere name (Expr.bareList arguments) parens :: Decorator.bareList rest
end

end Trellis
