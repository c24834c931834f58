/-
Writing YAML documents: maps of texts, nested to any depth.

A text is written without quotes where it reads back as the same text, in quotes otherwise, and
over several lines when it has line breaks.  Keys are sorted the way people sort them: numbers
inside them by their value.
-/
import Trellis.Text.Ranges
import Trellis.Text.Quoted
import Trellis.Yaml.Reader

namespace Trellis.Yaml

/-- A document to be written. -/
inductive Draft where
  | text (s : String)
  | map (entries : List (String × Draft))

namespace Write

/-! ## Texts -/

/-- Words that older readers take for truth values. -/
def oldBools : List String := [
  "y", "Y", "yes", "Yes", "YES", "on", "On", "ON",
  "n", "N", "no", "No", "NO", "off", "Off", "OFF"]

/-- Whether digits, maybe with underscores, start with a digit. -/
def isDigits (cs : List Char) : Bool :=
  match cs with
  | c :: cs => c.isDigit && cs.all fun d => d.isDigit || d == '_'
  | [] => false

/-- A number up to 59, of one or two digits. -/
def isSixtieth : List Char → Bool
  | [a] => a.isDigit
  | [a, b] => '0' ≤ a && a ≤ '5' && b.isDigit
  | _ => false

/-- Whether older readers take a text for a number in base 60. -/
def isBase60 (s : String) : Bool :=
  let cs := match s.toList with
    | '-' :: cs | '+' :: cs => cs
    | cs => cs
  match Text.splitChars ':' cs with
  | first :: more =>
    match more.reverse with
    | [] => false
    | last :: middle =>
      let whole := last.takeWhile (· != '.')
      let fraction := last.dropWhile (· != '.')
      isDigits first && middle.all isSixtieth && isSixtieth whole &&
        (fraction.drop 1).all fun c => c.isDigit || c == '_'
  | [] => false

/-- Whether a text without quotes would be read as that text. -/
def readsAsText (s : String) : Bool :=
  (match Scalar.plainMeaning s with
    | .text _ => true
    | _ => false) && !isBase60 s && !oldBools.contains s

/-- Characters that can be written as they are. -/
def isPrintable (c : Char) : Bool :=
  let n := c.toNat
  n == 10 || (32 ≤ n && n ≤ 126) || (0xA0 ≤ n && n ≤ 0xFFFD && n != 0xFEFF)

def isBreak (c : Char) : Bool :=
  c == '\n' || c == '\r' || c == '\u0085' || c == '\u2028' || c == '\u2029'

/-- Whether a text holds a mark that means something inside a block. -/
def hasMarks (cs : List Char) : Bool :=
  let inside := fun (white : Bool) (c : Char) (cs : List Char) =>
    (c == ':' && (cs.isEmpty || (cs.head?.any isBlank))) || (c == '#' && white)
  let rec scan (white : Bool) : List Char → Bool
    | [] => false
    | c :: cs => inside white c cs || scan (isBlank c || isBreak c) cs
  let leads := match cs with
    | c :: rest => "#,[]\x7b\x7d&*!|>\x27\"%@\x60".toList.contains c ||
        ("?:-".toList.contains c && (rest.isEmpty || rest.head?.any isBlank))
    | [] => false
  leads || (Text.dropPiece? "---".toList cs).isSome || (Text.dropPiece? "...".toList cs).isSome ||
    scan false cs

/-- Whether a break stands next to a blank: after it, or before it. -/
def breakThenBlank : List Char → Bool
  | a :: b :: cs => (isBreak a && b == ' ') || breakThenBlank (b :: cs)
  | _ => false

def blankThenBreak : List Char → Bool
  | a :: b :: cs => (a == ' ' && isBreak b) || blankThenBreak (b :: cs)
  | _ => false

/-- How a text is written. -/
inductive Form where
  | plain | single | double | literal
deriving DecidableEq

/-- The form of a text.  A key that stands before its colon is on one line; a text with a tag of
its own may be spelled like anything. -/
def form (isKey tagged : Bool) (s : String) : Form :=
  let cs := s.toList
  let special := cs.any fun c => c != '\t' && !isPrintable c
  let tabs := cs.contains '\t'
  let breaks := cs.any isBreak
  let edges := cs.head? == some ' ' || cs.getLast? == some ' '
  let mustDouble := special || tabs || blankThenBreak cs || breakThenBlank cs
  if cs.contains '\n' then
    if isKey || special || blankThenBreak cs || cs.getLast? == some ' ' then .double else .literal
  else if (!tagged && !readsAsText s) || mustDouble || breaks then .double
  else if edges || hasMarks cs then .single
  else .plain

/-- A character inside double quotes. -/
def escaped (c : Char) : List Char :=
  match c with
  | '\x00' => ['\\', '0']
  | '\x07' => ['\\', 'a']
  | '\x08' => ['\\', 'b']
  | '\t' => ['\\', 't']
  | '\n' => ['\\', 'n']
  | '\x0b' => ['\\', 'v']
  | '\x0c' => ['\\', 'f']
  | '\r' => ['\\', 'r']
  | '\x1b' => ['\\', 'e']
  | '"' => ['\\', '"']
  | '\\' => ['\\', '\\']
  | '\u0085' => ['\\', 'N']
  | '\u2028' => ['\\', 'L']
  | '\u2029' => ['\\', 'P']
  | c =>
    let n := c.toNat
    let hex := fun (width : Nat) => (Text.hexDigits width n).map Char.toUpper
    if isPrintable c then [c]
    else if n ≤ 0xFF then '\\' :: 'x' :: hex 2
    else if n ≤ 0xFFFF then '\\' :: 'u' :: hex 4
    else '\\' :: 'U' :: hex 8

def doubleQuoted (s : String) : String :=
  "\"" ++ String.ofList (s.toList.flatMap escaped) ++ "\""

def singleQuoted (s : String) : String := "'" ++ Text.replaceAll s "'" "''" ++ "'"

/-- `n` blanks. -/
def indentation (n : Nat) : String := String.ofList (List.replicate n ' ')

/-- The head of a text over several lines: whether it starts with a blank, and how it ends. -/
def literalHead (cs : List Char) : String :=
  let start := if cs.head?.any (fun c => c == ' ' || isBreak c) then "4" else ""
  let chomp := match cs.reverse with
    | a :: b :: _ => if !isBreak a then "-" else if isBreak b then "+" else ""
    | [a] => if isBreak a then "+" else "-"
    | [] => "-"
  "|" ++ start ++ chomp

/-- The lines of a text over several lines, each on a line of its own; empty ones stay empty, and
one at the start is not written. -/
def literalLines (indent : Nat) (s : String) : String :=
  let lines := match Text.splitOnChar s '\n' with
    | first :: more => if first.isEmpty then more else first :: more
    | [] => []
  let lines := match lines.reverse with
    | last :: before => if last.isEmpty then before.reverse else lines
    | [] => []
  String.join (lines.map fun l => "\n" ++ (if l.isEmpty then "" else indentation indent ++ l))

/-- A text in a form, whose further lines stand at an indentation. -/
def inForm (indent : Nat) (s : String) : Form → String
  | .plain => s
  | .single => singleQuoted s
  | .double => doubleQuoted s
  | .literal => literalHead s.toList ++ literalLines indent s

/-- A text as a value; a line ends it. -/
def text (indent : Nat) (s : String) : String := inForm indent s (form false false s) ++ "\n"

/-- A text as a key that stands before its colon. -/
def key (s : String) : String := inForm 0 s (form true false s)

/-! ## The order of keys -/

/-- The number that leading digits denote, after `n`, and how many digits there are. -/
def leadingNumber (n : Nat) : List Char → Nat × Nat
  | c :: cs =>
    if Text.isDecimalDigit c then
      let (m, k) := leadingNumber (n * 10 + (c.toNat - 48)) cs
      (m, k + 1)
    else (n, 0)
  | [] => (n, 0)

/-- Whether the digits right before a place, last one first, have one that is not zero. -/
def nonZeroBefore : List Char → Bool
  | c :: cs => Text.isDecimalDigit c && (c != '0' || nonZeroBefore cs)
  | [] => false

/-- Whether a key stands before another.  `before` is what they have in common, last character
first. -/
def keyLess (before : List Char) : List Char → List Char → Bool
  | a :: as, b :: bs =>
    if a == b then keyLess (a :: before) as bs
    else
      let la := Text.isLetter a
      let lb := Text.isLetter b
      if la && lb then a < b
      else if la || lb then
        if before.head?.any Text.isDecimalDigit then la else lb
      else
        let start := if (a == '0' || b == '0') && nonZeroBefore before then 1 else 0
        let (m, j) := leadingNumber start (a :: as)
        let (n, k) := leadingNumber start (b :: bs)
        if m != n then m < n else if j != k then j < k else a < b
  | [], _ :: _ => true
  | _, [] => false

/-- Entries in the order of their keys. -/
def sorted {α : Type} (entries : List (String × α)) : List (String × α) :=
  entries.mergeSort fun a b => !keyLess [] b.1.toList a.1.toList

/-! ## Documents -/

/-- Whether a key stands before its colon. -/
def isSimpleKey (s : String) : Bool := !s.toList.any isBreak && s.utf8ByteSize ≤ 128

/-- What follows a colon that stands on a line of its own: lines that would come below it start
beside it. -/
def besides (indent : Nat) (body : String) : String :=
  let below := "\n" ++ indentation (indent + 4)
  if Text.startsWith body below then "   " ++ Text.dropFront body below else body

mutual
/-- What follows a colon: a text on the same line, a map on lines of its own. -/
def draft (indent : Nat) : Draft → String
  | .text s => " " ++ text indent s
  | .map [] => " \x7b\x7d\n"
  | .map (e :: es) => "\n" ++ String.join ((sorted (entries indent (e :: es))).map (·.2))

/-- The lines of each entry of a map at an indentation, with its key. -/
def entries (indent : Nat) : List (String × Draft) → List (String × String)
  | [] => []
  | (k, d) :: es =>
    let lead := indentation indent
    let body := draft (indent + 4) d
    (k, if isSimpleKey k then lead ++ key k ++ ":" ++ body
      else lead ++ "? " ++ text (indent + 4) k ++ lead ++ ":" ++ besides indent body) ::
        entries indent es
end

end Write

/-- A text with a tag as a document. -/
def taggedText (tag s : String) : String :=
  let body := Write.inForm 4 s (Write.form false true s)
  tag ++ (if body.isEmpty then "" else " " ++ body) ++ "\n"

/-- A document as text. -/
def Draft.write : Draft → String
  | .text s => Write.text 4 s
  | .map [] => "\x7b\x7d\n"
  | .map es => String.join ((Write.sorted (Write.entries 0 es)).map (·.2))

end Trellis.Yaml
