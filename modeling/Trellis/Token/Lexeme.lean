/-
Tokens of the expression language, lexemes, and the tokens of a text with their places.

A lexeme is the token at the front of a list of characters, without its place.  `Lexeme.next` looks
at the characters only.  It takes none exactly at the end of the input, which is the end of the list
or a NUL character.  A cursor stands on a character.  A line feed belongs to the line that it opens,
at column zero, so that the first character after it has column one.
-/
import Trellis.Text.Ranges

namespace Trellis

/-- The kinds of token. -/
inductive Token.Kind where
  | illegal | eof | ident | number | string
  | assign | plus | minus | bang | asterisk | slash | percent
  | lt | gt | lte | gte | eq | notEq | strictEq | strictNotEq
  | and | or | pipe | question | plusPlus | minusMinus | plusAssign | minusAssign
  | comma | semicolon | colon | dot | dotDotDot
  | lparen | rparen | lbrace | rbrace | lbracket | rbracket
  | true | false | null | this | typeof
deriving DecidableEq, Repr

namespace Token.Kind

/-- The name of a kind of token. -/
def name : Kind → String
  | illegal => "ILLEGAL"
  | eof => "EOF"
  | ident => "IDENT"
  | number => "NUMBER"
  | string => "STRING"
  | assign => "ASSIGN"
  | plus => "PLUS"
  | minus => "MINUS"
  | bang => "BANG"
  | asterisk => "ASTERISK"
  | slash => "SLASH"
  | percent => "PERCENT"
  | lt => "LT"
  | gt => "GT"
  | lte => "LTE"
  | gte => "GTE"
  | eq => "EQ"
  | notEq => "NOT_EQ"
  | strictEq => "STRICT_EQ"
  | strictNotEq => "STRICT_NOT_EQ"
  | and => "AND"
  | or => "OR"
  | pipe => "PIPE"
  | question => "QUESTION"
  | plusPlus => "PLUSPLUS"
  | minusMinus => "MINUSMINUS"
  | plusAssign => "PLUS_ASSIGN"
  | minusAssign => "MINUS_ASSIGN"
  | comma => "COMMA"
  | semicolon => "SEMICOLON"
  | colon => "COLON"
  | dot => "DOT"
  | dotDotDot => "DOTDOTDOT"
  | lparen => "LPAREN"
  | rparen => "RPAREN"
  | lbrace => "LBRACE"
  | rbrace => "RBRACE"
  | lbracket => "LBRACKET"
  | rbracket => "RBRACKET"
  | true => "TRUE"
  | false => "FALSE"
  | null => "NULL"
  | this => "THIS"
  | typeof => "TYPEOF"

/-- The kind of a word: one of the five keywords, or an identifier. -/
def ofWord (word : String) : Kind :=
  if word == "true" then true
  else if word == "false" then false
  else if word == "null" then null
  else if word == "this" then this
  else if word == "typeof" then typeof
  else ident

/-- Whether a token of this kind may stand where a property name is wanted. -/
def isWord : Kind → Bool
  | ident | true | false | null | this | typeof => Bool.true
  | _ => Bool.false

end Token.Kind

/-- A token and its place.  `literal` is the decoded text of a string and the source text of any
other token; `raw` is the source text.  Lines and columns count characters from one, `offset`
counts bytes from zero. -/
structure Token where
  kind : Token.Kind
  literal : String
  raw : String
  line : Nat
  column : Nat
  offset : Nat
  /-- a line break separates the token from the one before -/
  newLine : Bool
deriving DecidableEq, Repr

namespace Token

/-- A token as it is shown in traces. -/
def display (t : Token) : String :=
  "\x7bType: " ++ t.kind.name ++ ", Literal: " ++ t.literal ++ ", Line: " ++ toString t.line ++
  ", Column: " ++ toString t.column ++ "\x7d"

/-- The text of a token in messages. -/
def shown (t : Token) : String := if t.kind = .eof then "end of input" else t.raw

/-- A character that can start an identifier. -/
def isWordStart (c : Char) : Bool := c == '_' || c == '$' || Text.isLetter c

/-- An ASCII digit. -/
def isDigit (c : Char) : Bool := '0' ≤ c && c ≤ '9'

/-- A character that can continue an identifier. -/
def isWordChar (c : Char) : Bool := isWordStart c || isDigit c

/-- Whether the characters after the first continue an identifier; here digits of every script
count. -/
def isNameRest (cs : List Char) : Bool :=
  cs.all fun c => isWordStart c || Text.isDecimalDigit c

/-- Whether a text is a single valid identifier. -/
def isIdentifier (s : String) : Bool :=
  match s.toList with
  | [] => false
  | c :: cs => isWordStart c && isNameRest cs && Kind.ofWord s == .ident

end Token

end Trellis

namespace Trellis.Token

/-- What stands at the front of the input: a kind, the decoded text and the number of characters
it takes. -/
structure Lexeme where
  kind : Kind
  literal : List Char
  size : Nat
deriving DecidableEq, Repr

/-- A blank between tokens. -/
def isGap (c : Char) : Bool :=
  c == ' ' || c == '\t' || c == '\n' || c == '\r' || c == '\u00a0'

/-- The number of leading digits. -/
def digitCount (cs : List Char) : Nat := (cs.takeWhile isDigit).length

/-- The number of characters of a fraction at the front: a point with at least one digit. -/
def fractionSize : List Char → Nat
  | '.' :: cs => if digitCount cs == 0 then 0 else 1 + digitCount cs
  | _ => 0

/-- The number of characters of an exponent at the front: `e` or `E`, a sign if any, digits. -/
def exponentSize : List Char → Nat
  | e :: cs =>
    if e == 'e' || e == 'E' then
      match cs with
      | s :: ds =>
        if s == '+' || s == '-' then
          if digitCount ds == 0 then 0 else 2 + digitCount ds
        else if digitCount cs == 0 then 0 else 1 + digitCount cs
      | [] => 0
    else 0
  | [] => 0

/-- The number of characters of a number at the front. -/
def numberSize (cs : List Char) : Nat :=
  let whole := digitCount cs
  let fraction := fractionSize (cs.drop whole)
  whole + fraction + exponentSize (cs.drop (whole + fraction))

/-- The character that a backslash and `c` stand for in a string. -/
def unescape (c : Char) : Char :=
  if c == 'n' then '\n' else if c == 't' then '\t' else if c == 'r' then '\r' else c

/-- The inside of a string up to its closing quote: the decoded text, the number of characters
with the quote, and whether the quote was there. -/
def stringBody (quote : Char) : List Char → List Char × Nat × Bool
  | [] => ([], 0, false)
  | c :: cs =>
    if c == quote then ([], 1, true)
    else if c == '\x00' then ([], 0, false)
    else if c == '\\' then
      match cs with
      | [] => ([], 1, false)
      | d :: ds =>
        if d == '\x00' then ([], 1, false)
        else
          let (text, n, closed) := stringBody quote ds
          (unescape d :: text, n + 2, closed)
    else
      let (text, n, closed) := stringBody quote cs
      (c :: text, n + 1, closed)

/-- The operator or delimiter at the front. -/
def punctuation? : List Char → Option (Kind × Nat)
  | '=' :: '=' :: '=' :: _ => some (.strictEq, 3)
  | '=' :: '=' :: _ => some (.eq, 2)
  | '=' :: _ => some (.assign, 1)
  | '!' :: '=' :: '=' :: _ => some (.strictNotEq, 3)
  | '!' :: '=' :: _ => some (.notEq, 2)
  | '!' :: _ => some (.bang, 1)
  | '+' :: '+' :: _ => some (.plusPlus, 2)
  | '+' :: '=' :: _ => some (.plusAssign, 2)
  | '+' :: _ => some (.plus, 1)
  | '-' :: '-' :: _ => some (.minusMinus, 2)
  | '-' :: '=' :: _ => some (.minusAssign, 2)
  | '-' :: _ => some (.minus, 1)
  | '*' :: _ => some (.asterisk, 1)
  | '/' :: _ => some (.slash, 1)
  | '%' :: _ => some (.percent, 1)
  | '<' :: '=' :: _ => some (.lte, 2)
  | '<' :: _ => some (.lt, 1)
  | '>' :: '=' :: _ => some (.gte, 2)
  | '>' :: _ => some (.gt, 1)
  | '&' :: '&' :: _ => some (.and, 2)
  | '&' :: _ => some (.illegal, 1)
  | '|' :: '|' :: _ => some (.or, 2)
  | '|' :: _ => some (.pipe, 1)
  | '?' :: _ => some (.question, 1)
  | ',' :: _ => some (.comma, 1)
  | ';' :: _ => some (.semicolon, 1)
  | ':' :: _ => some (.colon, 1)
  | '.' :: '.' :: '.' :: _ => some (.dotDotDot, 3)
  | '.' :: d :: _ => if isDigit d then none else some (.dot, 1)
  | '.' :: [] => some (.dot, 1)
  | '(' :: _ => some (.lparen, 1)
  | ')' :: _ => some (.rparen, 1)
  | '\x7b' :: _ => some (.lbrace, 1)
  | '\x7d' :: _ => some (.rbrace, 1)
  | '[' :: _ => some (.lbracket, 1)
  | ']' :: _ => some (.rbracket, 1)
  | _ => none

/-- The lexeme at the front of the input. -/
def Lexeme.next : List Char → Lexeme
  | [] => ⟨.eof, [], 0⟩
  | c :: cs =>
    if c == '\x00' then ⟨.eof, [], 0⟩
    else
      match punctuation? (c :: cs) with
      | some (kind, size) => ⟨kind, (c :: cs).take size, size⟩
      | none =>
        if c == '"' || c == '\'' then
          let (text, n, closed) := stringBody c cs
          ⟨if closed then .string else .illegal, text, n + 1⟩
        else if isDigit c || c == '.' then
          let n := numberSize (c :: cs)
          ⟨.number, (c :: cs).take n, n⟩
        else if isWordStart c then
          let word := c :: cs.takeWhile isWordChar
          ⟨Kind.ofWord (String.ofList word), word, word.length⟩
        else ⟨.illegal, [c], 1⟩

end Trellis.Token

/-! ### Tokens with their places -/

namespace Trellis.Token

/-- A position in a text: the characters from the current one on, and its place. -/
structure Cursor where
  rest : List Char
  line : Nat
  column : Nat
  offset : Nat
deriving DecidableEq, Repr

namespace Cursor

/-- Stands on the first character of `rest`, coming from the given place.  At the end of the text
the place stays that of the last character. -/
def enter (rest : List Char) (line column offset : Nat) : Cursor :=
  match rest with
  | [] => ⟨[], line, column, offset⟩
  | c :: _ =>
    if c == '\n' then ⟨rest, line + 1, 0, offset⟩ else ⟨rest, line, column + 1, offset⟩

/-- Stands on the first character of a text. -/
def start (s : List Char) : Cursor := enter s 1 0 0

/-- Stands on the next character. -/
def step (c : Cursor) : Cursor :=
  match c.rest with
  | [] => c
  | ch :: cs => enter cs c.line c.column (c.offset + ch.utf8Size)

/-- Moves on by `n` characters. -/
def steps : Nat → Cursor → Cursor
  | 0, c => c
  | n + 1, c => steps n c.step

theorem rest_enter (rest : List Char) (line column offset : Nat) :
    (enter rest line column offset).rest = rest := by
  cases rest with
  | nil => rfl
  | cons c cs => simp only [enter]; split <;> rfl

theorem rest_step (c : Cursor) : c.step.rest = c.rest.drop 1 := by
  unfold step
  split
  · next h => simp [h]
  · next h => simp [h, rest_enter]

theorem rest_steps (n : Nat) (c : Cursor) : (steps n c).rest = c.rest.drop n := by
  induction n generalizing c with
  | zero => rfl
  | succ n ih => simp only [steps, ih, rest_step, List.drop_drop, Nat.add_comm]

/-- Moves over blanks; also says whether a line feed was among them. -/
def skipGap (c : Cursor) : Cursor × Bool :=
  let gap := c.rest.takeWhile isGap
  (steps gap.length c, gap.contains '\n')

/-- The token at or after a position, and the position after it. -/
def next (c : Cursor) : Token × Cursor :=
  let (here, newLine) := c.skipGap
  let lexeme := Lexeme.next here.rest
  let raw := String.ofList (here.rest.take lexeme.size)
  (⟨lexeme.kind, String.ofList lexeme.literal, raw, here.line, here.column, here.offset, newLine⟩,
    steps lexeme.size here)

/-- The tokens from a position on, closed by the end of input.  `fuel` bounds their number. -/
def tokens : Nat → Cursor → List Token
  | 0, _ => []
  | fuel + 1, c =>
    let (t, after) := c.next
    if t.kind = .eof then [t] else t :: tokens fuel after

end Cursor

/-- The tokens of a text, closed by the end of input.  There is at most one for each character. -/
def all (s : String) : List Token := Cursor.tokens (s.length + 1) (Cursor.start s.toList)

end Trellis.Token
