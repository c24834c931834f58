/-
Reading programs.

Expressions are read by precedence climbing: `Reading.expr p` reads an operand and then extends it
by every operator that binds tighter than `p`.  Reading stops at the first fault.

The functions are bounded by a number that `Program.parse` computes from the number of tokens;
every call takes one, and between two calls of `expr` at one place there are never more than four.
-/
import Trellis.Expr.Basic
import Trellis.Fault.Basic
import Trellis.Token.Lexeme

namespace Trellis

open Trellis.Expr

/-- The tokens being read: the current one and those that follow it. -/
structure Feed where
  current : Token
  rest : List Token

/-- Reading may fail, and moves along the tokens. -/
abbrev Reading := StateT Feed (Except Fault)

namespace Reading

/-- How tightly operators bind, from loosest to tightest. -/
inductive Level where
  | lowest | sequence | assignment | pipe | conditional | or | and | equality | relation
  | sum | product | unary | update | call
deriving DecidableEq, Repr

/-- The rank of a level. -/
def Level.rank : Level → Nat
  | .lowest => 1
  | .sequence => 2
  | .assignment => 3
  | .pipe => 4
  | .conditional => 5
  | .or => 6
  | .and => 7
  | .equality => 8
  | .relation => 9
  | .sum => 10
  | .product => 11
  | .unary => 12
  | .update => 13
  | .call => 14

/-- The level of a token that follows an operand. -/
def Level.ofKind : Token.Kind → Level
  | .comma => .sequence
  | .assign | .plusAssign | .minusAssign => .assignment
  | .pipe => .pipe
  | .question => .conditional
  | .or => .or
  | .and => .and
  | .eq | .notEq | .strictEq | .strictNotEq => .equality
  | .lt | .gt | .lte | .gte => .relation
  | .plus | .minus => .sum
  | .slash | .asterisk | .percent => .product
  | .plusPlus | .minusMinus => .update
  | .lparen | .lbracket | .dot => .call
  | _ => .lowest

/-- The operator that a token stands for between two operands. -/
def binaryOp? : Token.Kind → Option BinaryOp
  | .plus => some .add
  | .minus => some .sub
  | .asterisk => some .mul
  | .slash => some .div
  | .percent => some .mod
  | .eq => some .eq
  | .notEq => some .ne
  | .strictEq => some .strictEq
  | .strictNotEq => some .strictNe
  | .lt => some .lt
  | .gt => some .gt
  | .lte => some .le
  | .gte => some .ge
  | _ => none

/-- The current token. -/
def current : Reading Token := return (← get).current

/-- The token after the current one; at the end of the input that is the end again. -/
def peek : Reading Token := do
  let f ← get
  return f.rest.head?.getD f.current

/-- Moves to the next token. -/
def advance : Reading Unit := modify fun f =>
  match f.rest with
  | [] => f
  | t :: ts => ⟨t, ts⟩

/-- Fails at a token. -/
def failAt {α : Type} (t : Token) (code : Fault.Code) (details : List (String × String)) :
    Reading α :=
  throw ((Fault.make code details).moved t.line t.column)

/-- Fails because something else was expected. -/
def expected {α : Type} (t : Token) (what got : String) : Reading α :=
  failAt t .expected [("Expected", what), ("Got", got)]

/-- Moves to the next token, which must be of the given kind. -/
def expect (kind : Token.Kind) (what : String) : Reading Unit := do
  let t ← peek
  if t.kind = kind then advance else expected t what t.shown

/-- Fails because no expression starts with a token. -/
def noOperand {α : Type} (t : Token) : Reading α :=
  let opensString := match t.raw.toList with
    | c :: _ => c == '"' || c == '\''
    | [] => false
  if t.kind == .illegal && opensString then
    throw ((Fault.ofCode .unterminatedString none).moved t.line t.column)
  else if t.kind = .eof then expected t "expression" "end of input"
  else failAt t .unexpectedToken [("Token", t.shown)]

/-- The span from a place to the end of the current token. -/
def spanFrom (line column : Nat) : Reading Span := do
  let t ← current
  return ⟨line, column, t.line, t.column + max 1 t.raw.utf8ByteSize - 1⟩

/-- The span from a token to the end of the current token. -/
def spanOf (start : Token) : Reading Span := spanFrom start.line start.column

/-- The span from an expression to the end of the current token. -/
def spanAfter (first : Expr) : Reading Span := spanFrom first.span.startLine first.span.startColumn

/-- The number literal of the current token, which must be finite. -/
def number (t : Token) : Reading String :=
  if (numberValue t.literal).isInf then failAt t .badNumber [("Literal", t.literal)]
  else pure t.literal

/-- Fails when no bound is left; `Program.parse` starts with enough. -/
def exhausted {α : Type} : Reading α := throw (.plain "expression is nested too deeply")

/-- The name of a property of an object literal at the current token. -/
def key : Reading Key := do
  let t ← current
  if t.kind.isWord then return .word (← spanOf t) t.literal
  else match t.kind with
    | .string => return .string (← spanOf t) t.literal t.raw
    | .number => return .number (← spanOf t) (← number t)
    | _ => expected t "property name" t.shown

/-- Checks that an expression may be assigned to. -/
def assignable (t : Token) (what : String) (e : Expr) : Reading Unit :=
  if e.isAssignable then pure () else expected t what e.text

mutual

/-- Reads an expression whose operators bind tighter than `level`. -/
def expr : Nat → Level → Reading Expr
  | 0, _ => exhausted
  | n + 1, level => do operators n level (← operand n)

/-- Extends an expression by the operators that follow it and bind tighter than `level`. -/
def operators : Nat → Level → Expr → Reading Expr
  | 0, _, _ => exhausted
  | n + 1, level, left => do
    let t ← peek
    let splits := (t.kind = .plusPlus ∨ t.kind = .minusMinus) ∧ t.newLine
    if level.rank < (Level.ofKind t.kind).rank ∧ ¬ splits then
      advance
      operators n level (← extend n left)
    else return left

/-- Reads an operand at the current token. -/
def operand : Nat → Reading Expr
  | 0 => exhausted
  | n + 1 => do
    let t ← current
    match t.kind with
    | .ident => return .ident (← spanOf t) t.literal
    | .number => return .lit (← spanOf t) (.number (← number t))
    | .string => return .lit (← spanOf t) (.string t.literal t.raw)
    | .true => return .lit (← spanOf t) (.bool true)
    | .false => return .lit (← spanOf t) (.bool false)
    | .null => return .lit (← spanOf t) .null
    | .this => return .this (← spanOf t)
    | .bang => unary n t .not
    | .minus => unary n t .neg
    | .plus => unary n t .pos
    | .typeof => unary n t .typeof
    | .plusPlus => updateBefore n t .inc
    | .minusMinus => updateBefore n t .dec
    | .lparen =>
      advance
      let inner ← expr n .lowest
      expect .rparen "')'"
      return .paren (← spanOf t) inner
    | .lbracket =>
      let elements ← list n .rbracket "']'"
      return .array (← spanOf t) elements
    | .lbrace =>
      let properties ← properties n
      return .object (← spanOf t) properties
    | _ => noOperand t

/-- Reads the operand of a unary operator. -/
def unary : Nat → Token → UnaryOp → Reading Expr
  | 0, _, _ => exhausted
  | n + 1, t, op => do
    advance
    let argument ← expr n .unary
    return .unary (← spanOf t) op argument

/-- Reads the target of `++` or `--` written before it. -/
def updateBefore : Nat → Token → UpdateOp → Reading Expr
  | 0, _, _ => exhausted
  | n + 1, t, op => do
    advance
    let target ← expr n .unary
    assignable t "assignable operand" target
    return .update (← spanOf t) op true target

/-- Extends an expression by the operator at the current token. -/
def extend : Nat → Expr → Reading Expr
  | 0, _ => exhausted
  | n + 1, left => do
    let t ← current
    match t.kind with
    | .and => logical n t .and left
    | .or => logical n t .or left
    | .question =>
      advance
      let consequent ← expr n .sequence
      expect .colon "':'"
      advance
      let alternate ← expr n .pipe
      return .cond (← spanAfter left) left consequent alternate
    | .pipe =>
      let chain ← chain n
      let chainSpan ← match chain with
        | d :: _ => spanFrom d.span.startLine d.span.startColumn
        | [] => spanOf t
      return .pipe (← spanAfter left) left chainSpan chain
    | .comma =>
      let items ← sequence n
      return .seq (← spanAfter left) (left :: items)
    | .assign => assignment n t .set left
    | .plusAssign => assignment n t .add left
    | .minusAssign => assignment n t .sub left
    | .plusPlus =>
      assignable t "assignable operand" left
      return .update (← spanAfter left) .inc false left
    | .minusMinus =>
      assignable t "assignable operand" left
      return .update (← spanAfter left) .dec false left
    | .lparen =>
      let arguments ← list n .rparen "')'"
      return .call (← spanAfter left) left arguments
    | .lbracket =>
      advance
      let index ← expr n .lowest
      expect .rbracket "']'"
      return .index (← spanAfter left) left index
    | .dot =>
      advance
      let name ← current
      if name.kind.isWord then
        let nameSpan ← spanOf name
        return .member (← spanAfter left) left nameSpan name.literal
      else expected name "property name" name.shown
    | kind =>
      match binaryOp? kind with
      | some op =>
        advance
        let right ← expr n (Level.ofKind kind)
        return .binary (← spanAfter left) op left right
      | none => noOperand t

/-- Reads the right operand of `&&` or `||`. -/
def logical : Nat → Token → LogicalOp → Expr → Reading Expr
  | 0, _, _, _ => exhausted
  | n + 1, t, op, left => do
    advance
    let right ← expr n (Level.ofKind t.kind)
    return .logical (← spanAfter left) op left right

/-- Reads the value of an assignment. -/
def assignment : Nat → Token → AssignOp → Expr → Reading Expr
  | 0, _, _, _ => exhausted
  | n + 1, t, op, target => do
    assignable t "assignable target" target
    advance
    let value ← expr n .sequence
    return .assign (← spanAfter target) op target value

/-- Reads the items after a comma. -/
def sequence : Nat → Reading (List Expr)
  | 0 => exhausted
  | n + 1 => do
    advance
    let next ← expr n .sequence
    if (← peek).kind = .comma then
      advance
      return next :: (← sequence n)
    else return [next]

/-- Reads the decorators after a bar. -/
def chain : Nat → Reading (List Decorator)
  | 0 => exhausted
  | n + 1 => do
    expect .ident "decorator name"
    let name ← current
    let parens := (← peek).kind = .lparen
    let arguments ← if parens then do
        advance
        list n .rparen "')'"
      else pure []
    let d := Decorator.mk (← spanOf name) name.literal arguments parens
    if (← peek).kind = .pipe then
      advance
      return d :: (← chain n)
    else return [d]

/-- Reads expressions between commas up to the closing token; the current token is the opening
one. -/
def list : Nat → Token.Kind → String → Reading (List Expr)
  | 0, _, _ => exhausted
  | n + 1, close, what => do
    if (← peek).kind = close then
      advance
      return []
    else
      let items ← items n
      expect close what
      return items

/-- Reads one expression, and one more after every comma. -/
def items : Nat → Reading (List Expr)
  | 0 => exhausted
  | n + 1 => do
    advance
    let first ← expr n .sequence
    if (← peek).kind = .comma then
      advance
      return first :: (← items n)
    else return [first]

/-- Reads the properties of an object literal up to its closing brace. -/
def properties : Nat → Reading (List Property)
  | 0 => exhausted
  | n + 1 => do
    if (← peek).kind = .rbrace then
      advance
      return []
    else
      advance
      let k ← key
      expect .colon "':'"
      advance
      let value ← expr n .sequence
      let p := Property.mk k value
      let t ← peek
      if t.kind = .comma then
        advance
        return p :: (← properties n)
      else if t.kind = .rbrace then return p :: (← properties n)
      else expected t "'\x7d'" t.shown

end

/-- Reads a statement at the current token.  Its terminator may be missing before a closing brace,
at the end of the input and at a line break. -/
def statement (n : Nat) : Reading Stmt := do
  let first ← current
  if first.kind = .semicolon then return .empty (← spanOf first)
  else
    let e ← expr n .lowest
    let span ← spanOf first
    let t ← peek
    if t.kind = .semicolon then
      advance
      return .expr span e
    else if t.kind = .illegal then noOperand t
    else if t.kind = .eof ∨ t.kind = .rbrace ∨ t.newLine then return .expr span e
    else failAt t .missingTerminator [("Token", t.shown)]

/-- Reads statements up to the end of the input. -/
def statements (n : Nat) : Nat → Reading (List Stmt)
  | 0 => exhausted
  | m + 1 => do
    if (← current).kind = .eof then return []
    else
      let s ← statement n
      advance
      return s :: (← statements n m)

end Reading

/-- The token that ends an empty input. -/
def Token.atEnd : Token := ⟨.eof, "", "", 1, 0, 0, false⟩

/-- Reads a program. -/
def Program.parse (source : String) : Except Fault Program := do
  let tokens := Token.all source
  let feed : Feed := match tokens with
    | [] => ⟨Token.atEnd, []⟩
    | t :: ts => ⟨t, ts⟩
  let n := 4 * tokens.length + 8
  let (body, after) ← (Reading.statements n (tokens.length + 1)).run feed
  let start := feed.current
  let last := after.current
  let span : Span := ⟨start.line, start.column, last.line,
    last.column + max 1 last.raw.utf8ByteSize - 1⟩
  return ⟨body, span, source⟩

end Trellis
