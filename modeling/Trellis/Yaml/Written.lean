/-
Places in the text of a YAML document, and the texts of scalars as they are written: plain, in
quotes, or as a block of lines.

A place knows what is left of the text and where it stands; reading goes on from a place and fails
where the text is no document.  All line breaks are one character: those that count as the same have
been made the same before.

Blanks and breaks between two parts of a text are folded: a single break stands for a blank, and of
several breaks the first is dropped.
-/
import Trellis.Json.Reader
import Trellis.Text.Search

namespace Trellis.Yaml

/-! ### Places -/

/-- A blank within a line. -/
def isBlank (c : Char) : Bool := c == ' ' || c == '\t'

/-- A line break. -/
def isBreak (c : Char) : Bool := c == '\n' || c == '\u2028' || c == '\u2029'

/-- A blank or a break. -/
def isWhite (c : Char) : Bool := isBlank c || isBreak c

/-- A character of a name. -/
def isNameChar (c : Char) : Bool := c.isAlphanum || c == '_' || c == '-'

/-- Whether a word ends here. -/
def endsWord : List Char → Bool
  | [] => true
  | c :: _ => isWhite c

/-- Whether a line ends here. -/
def endsLine : List Char → Bool
  | [] => true
  | c :: _ => isBreak c

/-- Whether the mark of a document's start or end stands at the front of a line. -/
def isBound : List Char → Bool
  | '-' :: '-' :: '-' :: rest | '.' :: '.' :: '.' :: rest => endsWord rest
  | _ => false

/-- A place in a text. -/
structure Place where
  rest : List Char
  /-- characters before it -/
  index : Nat := 0
  line : Nat := 0
  /-- characters before it in its line -/
  column : Nat := 0
  /-- nothing but blanks stands between the start of its line and it, and a line was passed -/
  fresh : Bool := false

namespace Place

/-- The place `n` characters further on in the same line. -/
def advance (p : Place) (n : Nat) : Place :=
  { p with
    rest := p.rest.drop n, index := p.index + n, column := p.column + n
    fresh := p.fresh && (p.rest.take n).all isBlank }

/-- The start of the next line. -/
def nextLine (p : Place) : Place :=
  { p with
    rest := p.rest.drop 1, index := p.index + 1, line := p.line + 1, column := 0, fresh := true }

/-- Whether a mark between documents stands here. -/
def atBound (p : Place) : Bool := p.column == 0 && isBound p.rest

end Place

/-- Reading from a place. -/
abbrev Scan := StateT Place Option

namespace Scan

/-- What is left of the text. -/
def rest : Scan (List Char) := do return (← get).rest

/-- Goes on by `n` characters. -/
def advance (n : Nat) : Scan Unit := modify (·.advance n)

/-- Goes on over a line break. -/
def nextLine : Scan Unit := modify Place.nextLine

/-- Goes on while a test holds, within a line. -/
def takeWhile (test : Char → Bool) : Scan (List Char) := do
  let cs := (← rest).takeWhile test
  advance cs.length
  return cs

/-- Goes on over blanks. -/
def blanks : Scan Unit := do
  let _ ← takeWhile isBlank

/-- Goes on to the end of the line. -/
def toLineEnd : Scan Unit := do
  let _ ← takeWhile fun c => !isBreak c

/-- A character that must come next. -/
def expect (c : Char) : Scan Unit := do
  if (← rest).head? == some c then advance 1 else failure

end Scan

/-! ### Scalars -/

/-- The blanks and breaks between two parts of a text. -/
structure Gap where
  /-- blanks before the first break -/
  blanks : List Char := []
  /-- the first break -/
  first : Option Char := none
  /-- later breaks -/
  more : List Char := []
  /-- a break was passed -/
  broken : Bool := false

/-- What a gap stands for. -/
def Gap.text (g : Gap) : List Char :=
  if !g.broken then g.blanks
  else
    match g.first with
    | some '\n' => if g.more.isEmpty then [' '] else g.more
    | some c => c :: g.more
    | none => g.more

namespace Scan

/-- The blanks and breaks that follow.  After a break, no tab may stand left of the column
`floor`. -/
def gapTo (floor : Int) : Nat → Gap → Scan Gap
  | 0, g => return g
  | n + 1, g => do
    let p ← get
    match p.rest with
    | [] => return g
    | c :: _ =>
      if isBlank c then
        if g.broken && c == '\t' && (p.column : Int) < floor then failure
        advance 1
        gapTo floor n (if g.broken then g else { g with blanks := g.blanks ++ [c] })
      else if isBreak c then
        nextLine
        gapTo floor n (if g.broken then { g with more := g.more ++ [c] }
          else { g with blanks := [], first := some c, broken := true })
      else return g

/-- The blanks and breaks that follow; `broken` says that a break came before. -/
def gap (floor : Int) (broken : Bool) : Scan Gap := do
  gapTo floor ((← rest).length + 1) { broken }

/-! ## Plain texts -/

/-- Marks that end a plain text within brackets. -/
def isFlowMark (c : Char) : Bool := ",?[]\x7b\x7d".toList.contains c

/-- The part of a plain text up to the next blank or mark. -/
def plainPart (flow : Bool) : List Char → List Char
  | [] => []
  | c :: cs =>
    if isWhite c || (c == ':' && endsWord cs) || (flow && isFlowMark c) then []
    else c :: plainPart flow cs

/-- A plain text after `text` and a gap, and whether a break was passed at its end. -/
def plainTo (flow : Bool) (floor : Int) : Nat → List Char → Gap → Scan (List Char × Bool)
  | 0, text, g => return (text, g.broken)
  | n + 1, text, g => do
    let p ← get
    let part := plainPart flow p.rest
    if p.atBound || p.rest.head? == some '#' || part.isEmpty then return (text, g.broken)
    advance part.length
    let text := text ++ g.text ++ part
    if !(← rest).head?.any isWhite then return (text, false)
    let g ← gap floor false
    if !flow && ((← get).column : Int) < floor then return (text, g.broken)
    plainTo flow floor n text g

/-- A plain text, whose lines stand no further left than the column `floor`, and whether a break
was passed at its end. -/
def plain (flow : Bool) (floor : Int) : Scan (List Char × Bool) := do
  plainTo flow floor ((← rest).length + 1) [] {}

/-! ## Texts in quotes -/

/-- The character that an escape of one letter stands for. -/
def escape? : Char → Option Char
  | '0' => some '\x00'
  | 'a' => some '\x07'
  | 'b' => some '\x08'
  | 't' | '\t' => some '\t'
  | 'n' => some '\n'
  | 'v' => some '\x0b'
  | 'f' => some '\x0c'
  | 'r' => some '\r'
  | 'e' => some '\x1b'
  | ' ' => some ' '
  | '"' => some '"'
  | '\x27' => some '\x27'
  | '/' => some '/'
  | '\\' => some '\\'
  | 'N' => some '\u0085'
  | '_' => some '\u00a0'
  | 'L' => some '\u2028'
  | 'P' => some '\u2029'
  | _ => none

/-- How many digits an escape has. -/
def escapeWidth? : Char → Option Nat
  | 'x' => some 2
  | 'u' => some 4
  | 'U' => some 8
  | _ => none

/-- The character with a number given by hexadecimal digits. -/
def coded? (width : Nat) (cs : List Char) : Option Char := do
  let digits := cs.take width
  if digits.length < width then none
  let n ← digits.foldlM (fun n c => (Json.hexValue? c).map (n * 16 + ·)) 0
  if (0xD800 ≤ n && n < 0xE000) || n > 0x10FFFF then none
  some (Char.ofNat n)

/-- The part of a text in single quotes up to the next blank or quote, and how many characters it
takes. -/
def singlePart : List Char → List Char × Nat
  | '\x27' :: '\x27' :: cs =>
    let (s, n) := singlePart cs
    ('\x27' :: s, n + 2)
  | c :: cs =>
    if c == '\x27' || isWhite c then ([], 0)
    else
      let (s, n) := singlePart cs
      (c :: s, n + 1)
  | [] => ([], 0)

/-- The part of a text in double quotes up to the next blank, quote or escaped break. -/
def doublePart : Nat → List Char → Option (List Char × Nat)
  | 0, _ | _, [] => some ([], 0)
  | n + 1, c :: cs =>
    let put := fun (d : Char) (width : Nat) =>
      (doublePart n (cs.drop (width - 1))).map fun (s, k) => (d :: s, k + width)
    if c == '"' || isWhite c then some ([], 0)
    else if c != '\\' then put c 1
    else
      match cs with
      | [] => none
      | e :: more =>
        if isBreak e then some ([], 0)
        else
          match escape? e, escapeWidth? e with
          | some d, _ => put d 2
          | none, some width => (coded? width more).bind fun d => put d (width + 2)
          | none, none => none

/-- A text in quotes after its first quote. -/
def quotedTo (quote : Char) : Nat → List Char → Scan (List Char)
  | 0, _ => failure
  | n + 1, text => do
    let p ← get
    if p.atBound || p.rest.isEmpty then failure
    let found := if quote == '"' then doublePart (p.rest.length + 1) p.rest
      else some (singlePart p.rest)
    match found with
    | none => failure
    | some (part, width) =>
      advance width
      let escaped := (← rest).head? == some '\\'
      if escaped then
        advance 1
        nextLine
      if (← rest).head? == some quote then
        advance 1
        return text ++ part
      let g ← gap 0 escaped
      quotedTo quote n (text ++ part ++ g.text)

/-- A text in quotes. -/
def quoted : Scan (List Char) := do
  match ← rest with
  | quote :: cs =>
    advance 1
    quotedTo quote (cs.length + 1) []
  | [] => failure

/-! ## Blocks of lines -/

/-- How a block of lines ends: without its last break, with it, or with all breaks that follow. -/
inductive Ending where
  | strip | clip | keep
deriving DecidableEq, Repr

/-- The mark that says how a block ends. -/
def ending? : Scan (Option Ending) := do
  match (← rest).head? with
  | some '+' => do
    advance 1
    return some .keep
  | some '-' => do
    advance 1
    return some .strip
  | _ => return none

/-- The digit that says how far a block is indented. -/
def indent? : Scan (Option Nat) := do
  match (← rest).head? with
  | some c =>
    if c == '0' then failure
    else if c.isDigit then do
      advance 1
      return some (c.toNat - 48)
    else return none
  | none => return none

/-- The indentation and the empty lines before a line of a block.  An indentation of zero is still
to be found out; `deepest` is the deepest column so far. -/
def emptyLines (indent : Nat) : Nat → Nat → List Char → Scan (List Char × Nat)
  | 0, deepest, breaks => return (breaks, deepest)
  | n + 1, deepest, breaks => do
    let p ← get
    let spaces := (p.rest.takeWhile (· == ' ')).length
    advance (if indent == 0 then spaces else min spaces (indent - p.column))
    let p ← get
    let deepest := max deepest p.column
    match p.rest with
    | c :: _ =>
      if c == '\t' && (indent == 0 || p.column < indent) then failure
      else if isBreak c then do
        nextLine
        emptyLines indent n deepest (breaks ++ [c])
      else return (breaks, deepest)
    | [] => return (breaks, deepest)

/-- The lines of a block: the text so far, the break that ends its last line, the breaks after it,
and whether the last line began with a blank. -/
def blockLines (literal : Bool) (indent : Nat) :
    Nat → List Char → List Char → List Char → Bool → Scan (List Char × List Char × List Char)
  | 0, text, last, breaks, _ => return (text, last, breaks)
  | n + 1, text, last, breaks, deep => do
    let p ← get
    if p.column != indent || p.rest.isEmpty then return (text, last, breaks)
    let blank := p.rest.head?.any isBlank
    let joint := if !literal && !deep && !blank && last.head? == some '\n' then
        (if breaks.isEmpty then [' '] else [])
      else last
    let line ← takeWhile fun c => !isBreak c
    let text := text ++ joint ++ breaks ++ line
    let last := (← rest).take 1
    if !last.isEmpty then nextLine
    let (breaks, _) ← emptyLines indent ((← rest).length + 1) 0 []
    blockLines literal indent n text last breaks blank

/-- A block of lines within a block whose entries stand at the column `outer`. -/
def block (outer : Int) : Scan (List Char) := do
  let literal := (← rest).head? == some '|'
  advance 1
  let chomp ← ending?
  let given ← indent?
  let chomp ← if chomp.isNone && given.isSome then ending? else pure chomp
  blanks
  if (← rest).head? == some '#' then toLineEnd
  if !endsLine (← rest) then failure
  if !(← rest).isEmpty then nextLine
  let fuel := (← rest).length + 1
  let asked := (given.map fun n => n + outer.toNat).getD 0
  let (breaks, deepest) ← emptyLines asked fuel 0 []
  let indent := if asked > 0 then asked else max (max deepest (outer + 1).toNat) 1
  let (text, last, breaks) ← blockLines literal indent fuel [] [] breaks false
  match chomp.getD .clip with
  | .strip => return text
  | .clip => return text ++ last
  | .keep => return text ++ last ++ breaks

end Scan

end Trellis.Yaml
