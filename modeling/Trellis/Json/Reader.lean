/-
Reading JSON text into documents.

The reader is strict: one value, with blanks around it and nothing else.  A record with two fields
of one name keeps both; the last one counts.
-/
import Trellis.Datum
import Trellis.Expr.Basic
import Trellis.Text.Quoted

namespace Trellis.Json

/-- What is left of the input after a value. -/
abbrev Rest := List Char

/-- A blank between the tokens of a JSON text. -/
def isBlank (c : Char) : Bool := c == ' ' || c == '\t' || c == '\n' || c == '\r'

/-- The input without leading blanks. -/
def skip (cs : List Char) : List Char := cs.dropWhile isBlank

/-- The value of a hexadecimal digit. -/
def hexValue? (c : Char) : Option Nat :=
  if '0' ≤ c && c ≤ '9' then some (c.toNat - 48)
  else if 'a' ≤ c && c ≤ 'f' then some (c.toNat - 87)
  else if 'A' ≤ c && c ≤ 'F' then some (c.toNat - 55)
  else none

/-- The number that four hexadecimal digits denote. -/
def unit? (a b c d : Char) : Option Nat := do
  return (((← hexValue? a) * 16 + (← hexValue? b)) * 16 + (← hexValue? c)) * 16 + (← hexValue? d)

/-- The replacement for halves of characters that stand alone. -/
def replacement : Char := '\ufffd'

/-- Whether a number is a first surrogate half. -/
def isHighHalf (n : Nat) : Bool := 0xD800 ≤ n && n < 0xDC00

/-- Whether a number is a second surrogate half. -/
def isLowHalf (n : Nat) : Bool := 0xDC00 ≤ n && n < 0xE000

/-- The character that two surrogate halves denote. -/
def ofSurrogates (hi lo : Nat) : Char := Char.ofNat (0x10000 + (hi - 0xD800) * 1024 + (lo - 0xDC00))

/-- The character that a letter behind a backslash denotes. -/
def escaped? : Char → Option Char
  | '"' => some '"'
  | '\\' => some '\\'
  | '/' => some '/'
  | 'b' => some '\x08'
  | 'f' => some '\x0c'
  | 'n' => some '\n'
  | 'r' => some '\r'
  | 't' => some '\t'
  | _ => none

/-- Characters in front of the inside of a string. -/
def push (cs : List Char) (r : Option (List Char × Rest)) : Option (List Char × Rest) :=
  r.map fun (text, after) => (cs ++ text, after)

/-- What a first surrogate half becomes whose second half is missing. -/
def lone : Option Nat → List Char
  | some _ => [replacement]
  | none => []

/-- The inside of a string up to its closing quote, `hi` being a first surrogate half in front of
it. -/
def stringBody (hi : Option Nat) : List Char → Option (List Char × Rest)
  | [] => none
  | '"' :: rest => some (lone hi, rest)
  | '\\' :: 'u' :: a :: b :: c :: d :: rest =>
    match unit? a b c d with
    | none => none
    | some u =>
      match (if isLowHalf u then hi else none) with
      | some h => push [ofSurrogates h u] (stringBody none rest)
      | none =>
        if isHighHalf u then push (lone hi) (stringBody (some u) rest)
        else push (lone hi ++ [if isLowHalf u then replacement else Char.ofNat u])
          (stringBody none rest)
  | '\\' :: c :: rest =>
    match escaped? c with
    | some d => push (lone hi ++ [d]) (stringBody none rest)
    | none => none
  | c :: rest => if c.toNat < 32 then none else push (lone hi ++ [c]) (stringBody none rest)

/-- The digits at the front, of which there must be one. -/
def digits? (cs : List Char) : Option (List Char × Rest) :=
  let ds := cs.takeWhile fun c => '0' ≤ c && c ≤ '9'
  if ds.isEmpty then none else some (ds, cs.drop ds.length)

/-- The digits of a number up to its point, of which there is a zero only alone. -/
def wholeChars? : List Char → Option (List Char × Rest)
  | '0' :: rest => some (['0'], rest)
  | cs => digits? cs

/-- The digits of a number behind its point, if it has one. -/
def fractionChars? : List Char → Option (List Char × Rest)
  | '.' :: more => (digits? more).map fun (ds, after) => ('.' :: ds, after)
  | cs => some ([], cs)

/-- The exponent of a number, if it has one. -/
def exponentChars? : List Char → Option (List Char × Rest)
  | [] => some ([], [])
  | e :: more =>
    if e == 'e' || e == 'E' then
      match more with
      | s :: ds =>
        if s == '+' || s == '-' then
          (digits? ds).map fun (ds, after) => ('e' :: s :: ds, after)
        else (digits? more).map fun (ds, after) => ('e' :: ds, after)
      | [] => none
    else some ([], e :: more)

/-- The unsigned number text at the front. -/
def numberChars? (cs : List Char) : Option (List Char × Rest) := do
  let (whole, rest) ← wholeChars? cs
  let (fraction, rest) ← fractionChars? rest
  let (exponent, rest) ← exponentChars? rest
  return (whole ++ fraction ++ exponent, rest)

/-- A number.  One of digits only is whole, unless it is a zero with a sign; one that is too large
for double precision is infinite. -/
def number? (cs : List Char) : Option (Datum × Rest) := do
  let (negative, body) := match cs with
    | '-' :: rest => (true, rest)
    | _ => (false, cs)
  let (ds, rest) ← numberChars? body
  if ds.all Char.isDigit && !(negative && ds == ['0']) then
    let n : Int := Expr.digitsValue ds
    return (.whole (if negative then -n else n), rest)
  else
    let x := (Expr.readDecimal ds).toFloat
    return (.number (if negative then -x else x), rest)

mutual
/-- A value at the front. -/
def value : Nat → List Char → Option (Datum × Rest)
  | 0, _ => none
  | n + 1, cs =>
    match skip cs with
    | 'n' :: 'u' :: 'l' :: 'l' :: rest => some (.null, rest)
    | 't' :: 'r' :: 'u' :: 'e' :: rest => some (.bool true, rest)
    | 'f' :: 'a' :: 'l' :: 's' :: 'e' :: rest => some (.bool false, rest)
    | '"' :: rest =>
      (stringBody none rest).map fun (s, after) => (.text (String.ofList s), after)
    | '[' :: rest =>
      match skip rest with
      | ']' :: after => some (.list [], after)
      | _ => (items n rest).map fun (ds, after) => (.list ds, after)
    | '\x7b' :: rest =>
      match skip rest with
      | '\x7d' :: after => some (.record [], after)
      | _ => (fields n rest).map fun (fs, after) => (.record fs, after)
    | other => number? other

/-- The items of a list up to its closing bracket. -/
def items : Nat → List Char → Option (List Datum × Rest)
  | 0, _ => none
  | n + 1, cs =>
    match value n cs with
    | none => none
    | some (d, rest) =>
      match skip rest with
      | ',' :: more => (items n more).map fun (ds, after) => (d :: ds, after)
      | ']' :: after => some ([d], after)
      | _ => none

/-- The fields of a record up to its closing brace. -/
def fields : Nat → List Char → Option (List (String × Datum) × Rest)
  | 0, _ => none
  | n + 1, cs =>
    match skip cs with
    | '"' :: rest =>
      match stringBody none rest with
      | none => none
      | some (name, rest) =>
        match skip rest with
        | ':' :: more =>
          match value n more with
          | none => none
          | some (d, rest) =>
            let f := (String.ofList name, d)
            match skip rest with
            | ',' :: more => (fields n more).map fun (fs, after) => (f :: fs, after)
            | '\x7d' :: after => some ([f], after)
            | _ => none
        | _ => none
    | _ => none
end

/-- How deep lists and records of a JSON text may stand in each other. -/
def maxNesting : Nat := 10000

/-- The document that a text denotes, if it is one JSON value that is not nested too deeply. -/
def parse? (s : String) : Option Datum :=
  let cs := s.toList
  match value (cs.length + 2) cs with
  | some (d, rest) => if (skip rest).isEmpty && d.nesting ≤ maxNesting then some d else none
  | none => none

mutual
/-- A document whose numbers are all of double precision; none if one of them is too large. -/
def loose? : Datum → Option Datum
  | .whole n =>
    let x := Text.wholeFloat n
    if x.isInf then none else some (.number x)
  | .number x => if x.isInf then none else some (.number x)
  | .list ds => (looseItems? ds).map .list
  | .record fs => (looseFields? fs).map .record
  | d => some d

def looseItems? : List Datum → Option (List Datum)
  | [] => some []
  | d :: ds => do return (← loose? d) :: (← looseItems? ds)

def looseFields? : List (String × Datum) → Option (List (String × Datum))
  | [] => some []
  | (name, d) :: fs => do return (name, ← loose? d) :: (← looseFields? fs)
end

/-!
What is wrong with a text that is no JSON value: the first character that cannot stand where it
stands, a bracket inside too many others, or that the text ends too early.
-/

/-- What is left of the input, or the complaint. -/
abbrev Scan := Except String (List Char)

/-- A character in quotes; one outside ASCII is known by the first byte of its encoding. -/
def charText (c : Char) : String :=
  if c == '\x27' then "'\\''"
  else if c == '"' then "'\"'"
  else
    let first := Char.ofNat (((String.ofList [c]).toUTF8.toList.headD 0).toNat)
    "'" ++ String.ofList (Text.escapeChar first) ++ "'"

def tooShort : String := "unexpected end of JSON input"

/-- The complaint about a character. -/
def wrongChar (c : Char) (place : String) : String :=
  "invalid character " ++ charText c ++ " " ++ place

/-- The rest after the character that must come next. -/
def wanted (place : String) (fits : Char → Bool) : List Char → Scan
  | [] => .error tooShort
  | c :: cs => if fits c then .ok cs else .error (wrongChar c place)

/-- Four hexadecimal digits. -/
def scanUnit (cs : List Char) : Scan := do
  let hex := wanted "in \\u hexadecimal character escape" fun c => (hexValue? c).isSome
  hex (← hex (← hex (← hex cs)))

/-- The inside of a string and its closing quote. -/
def scanString : List Char → Scan
  | [] => .error tooShort
  | '"' :: cs => .ok cs
  | '\\' :: 'u' :: a :: b :: c :: d :: cs => do
    let _ ← scanUnit [a, b, c, d]
    scanString cs
  | '\\' :: 'u' :: cs => scanUnit cs
  | '\\' :: c :: cs => do
    let _ ← wanted "in string escape code" (fun c => "\"\\/bfnrt".toList.contains c) [c]
    scanString cs
  | ['\\'] => .error tooShort
  | c :: cs => if c.toNat < 32 then .error (wrongChar c "in string literal") else scanString cs

/-- One digit and those after it. -/
def scanDigits (place : String) (cs : List Char) : Scan := do
  return (← wanted place Char.isDigit cs).dropWhile Char.isDigit

/-- A number, after its sign. -/
def scanNumber (cs : List Char) : Scan := do
  let rest ← match cs with
    | '0' :: rest => .ok rest
    | cs => scanDigits "in numeric literal" cs
  let rest ← match rest with
    | '.' :: more => scanDigits "after decimal point in numeric literal" more
    | rest => .ok rest
  match rest with
  | 'e' :: more | 'E' :: more =>
    let more := match more with
      | '+' :: ds | '-' :: ds => ds
      | ds => ds
    scanDigits "in exponent of numeric literal" more
  | rest => .ok rest

/-- A word, letter by letter. -/
def scanWord (word : String) : List Char → List Char → Scan
  | [], cs => .ok cs
  | w :: ws, cs => do
    let place := "in literal " ++ word ++ " (expecting " ++ charText w ++ ")"
    scanWord word ws (← wanted place (· == w) cs)

/-- A bracket or brace inside `level` others. -/
def opening (level : Nat) (c : Char) : Except String Unit :=
  if level < maxNesting then .ok () else .error (wrongChar c "exceeded max depth")

mutual

/-- A value inside `level` lists and records. -/
def scanValue (level : Nat) : Nat → List Char → Scan
  | 0, _ => .error tooShort
  | n + 1, cs =>
    match skip cs with
    | [] => .error tooShort
    | '\x7b' :: rest => do
      opening level '\x7b'
      match skip rest with
      | '\x7d' :: after => .ok after
      | rest => scanFields (level + 1) n rest
    | '[' :: rest => do
      opening level '['
      match skip rest with
      | ']' :: after => .ok after
      | rest => scanItems (level + 1) n rest
    | '"' :: rest => scanString rest
    | '-' :: rest => scanNumber rest
    | 't' :: rest => scanWord "true" "rue".toList rest
    | 'f' :: rest => scanWord "false" "alse".toList rest
    | 'n' :: rest => scanWord "null" "ull".toList rest
    | c :: rest =>
      if c.isDigit then scanNumber (c :: rest)
      else .error (wrongChar c "looking for beginning of value")

/-- The items of a list and its closing bracket. -/
def scanItems (level : Nat) : Nat → List Char → Scan
  | 0, _ => .error tooShort
  | n + 1, cs => do
    match skip (← scanValue level n cs) with
    | ',' :: more => scanItems level n more
    | ']' :: after => .ok after
    | rest => wanted "after array element" (fun _ => false) rest

/-- The fields of a record and its closing brace. -/
def scanFields (level : Nat) : Nat → List Char → Scan
  | 0, _ => .error tooShort
  | n + 1, cs => do
    let rest ← wanted "looking for beginning of object key string" (· == '"') (skip cs)
    let rest ← scanString rest
    let rest ← wanted "after object key" (· == ':') (skip rest)
    match skip (← scanValue level n rest) with
    | ',' :: more => scanFields level n more
    | '\x7d' :: after => .ok after
    | rest => wanted "after object key:value pair" (fun _ => false) rest

end

/-- The complaint about a text, if there is one. -/
def complaint? (s : String) : Option String :=
  let cs := s.toList
  match scanValue 0 (cs.length + 2) cs with
  | .error e => some e
  | .ok rest =>
    match skip rest with
    | [] => none
    | c :: _ => some (wrongChar c "after top-level value")

end Trellis.Json
