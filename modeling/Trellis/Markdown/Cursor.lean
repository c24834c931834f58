/-
Characters in Markdown: blanks and punctuation, backslashes that take away the meaning of the
punctuation after them, and references that stand for characters.

Punctuation and symbols are the code points of the general categories `P` and `S` of Unicode 17.0.
-/
import Trellis.Html.Escape
import Trellis.Text.Ranges

namespace Trellis.Text

/-! ### Punctuation and symbols -/

/-- The code points of categories `P` (punctuation) and `S` (symbols) beyond ASCII. -/
def punctuationRuns : List CaseRun := caseRuns
  "161-169 171-172 174-177 180 182-184 187 191 215 247 706-709 722-735 741-747 749 751-767 885 894
   900-901 903 1014 1154 1370-1375 1417-1418 1421-1423 1470 1472 1475 1478 1523-1524 1542-1551 1563
   1565-1567 1642-1645 1748 1758 1769 1789-1790 1792-1805 2038-2041 2046-2047 2096-2110 2142 2184
   2404-2405 2416 2546-2547 2554-2555 2557 2678 2800-2801 2928 3059-3066 3191 3199 3204 3407 3449
   3572 3647 3663 3674-3675 3841-3863 3866-3871 3892-3896/2 3898-3901 3973 4030-4037 4039-4044
   4046-4058 4170-4175 4254-4255 4347 4960-4968 5008-5017 5120 5741-5742 5787-5788 5867-5869
   5941-5942 6100-6102 6104-6107 6144-6154 6464 6468-6469 6622-6655 6686-6687 6816-6822 6824-6829
   6990-6991 7002-7018 7028-7039 7164-7167 7227-7231 7294-7295 7360-7367 7379 8125 8127-8129
   8141-8143 8157-8159 8173-8175 8189-8190 8208-8231 8240-8286 8314-8318 8330-8334 8352-8385
   8448-8449 8451-8454 8456-8457 8468 8470-8472 8478-8483 8485-8489/2 8494 8506-8507 8512-8516
   8522-8525 8527 8586-8587 8592-9257 9280-9290 9372-9449 9472-10101 10132-11123 11126-11263
   11493-11498 11513-11516 11518-11519 11632 11776-11822 11824-11869 11904-11929 11931-12019
   12032-12245 12272-12287 12289-12292 12296-12320 12336 12342-12343 12349-12351 12443-12444 12448
   12539 12688-12689 12694-12703 12736-12773 12783 12800-12830 12842-12871 12880 12896-12927
   12938-12976 12992-13311 19904-19967 42128-42182 42238-42239 42509-42511 42611 42622 42738-42743
   42752-42774 42784-42785 42889-42890 43048-43051 43062-43065 43124-43127 43214-43215 43256-43258
   43260 43310-43311 43359 43457-43469 43486-43487 43612-43615 43639-43641 43742-43743 43760-43761
   43867 43882-43883 44011 64297 64434-64466 64830-64847 64912-64913 64968-64975 65020-65023
   65040-65049 65072-65106 65108-65126 65128-65131 65281-65295 65306-65312 65339-65344 65371-65381
   65504-65510 65512-65518 65532-65533 65792-65794 65847-65855 65913-65929 65932-65934 65936-65948
   65952 66000-66044 66463 66512 66927 67671 67703-67704 67871 67903 68176-68184 68223 68296
   68336-68342 68409-68415 68505-68508 68974 69006-69007 69293 69328-69336 69461-69465 69510-69513
   69703-69709 69819-69820 69822-69825 69952-69955 70004-70005 70085-70088 70093 70107 70109-70111
   70200-70205 70313 70612-70613 70615-70616 70731-70735 70746-70747 70749 70854 71105-71127
   71233-71235 71264-71276 71353 71484-71487 71739 72004-72006 72162 72255-72262 72346-72348
   72350-72354 72448-72457 72673 72769-72773 72816-72817 73463-73464 73539-73551 73685-73713 73727
   74864-74868 77809-77810 92782-92783 92917 92983-92991 92996-92997 93549-93551 93847-93850 94178
   113820 113823 117760-117999 118010-118012 118016-118451 118458-118480 118496-118512
   118608-118723 118784-119029 119040-119078 119081-119140 119146-119148 119171-119172
   119180-119209 119214-119274 119296-119361 119365 119552-119638 120513 120539 120571 120597
   120629 120655 120687 120713 120745 120771 120832-121343 121399-121402 121453-121460
   121462-121475 121477-121483 123215 123647 124415 125278-125279 126124 126128 126254
   126704-126705 126976-127019 127024-127123 127136-127150 127153-127167 127169-127183
   127185-127221 127245-127405 127462-127490 127504-127547 127552-127560 127568-127569
   127584-127589 127744-128728 128732-128748 128752-128764 128768-128985 128992-129003 129008
   129024-129035 129040-129095 129104-129113 129120-129159 129168-129197 129200-129211
   129216-129217 129232-129240 129280-129623 129632-129645 129648-129660 129664-129674
   129678-129734 129736 129741-129756 129759-129770 129775-129784 129792-129938 129940-130031
   130042"

/-- A punctuation mark or a symbol of any script. -/
def isPunctuation (c : Char) : Bool :=
  if c.toNat < 128 then inRanges [(33, 47), (58, 64), (91, 96), (123, 126)] c.toNat
  else inRuns punctuationRuns c.toNat

end Trellis.Text

namespace Trellis.Markdown

/-! ### Characters of Markdown -/

/-- A punctuation character of ASCII. -/
def isPunct (c : Char) : Bool :=
  let n := c.toNat
  (33 ≤ n && n ≤ 47) || (58 ≤ n && n ≤ 64) || (91 ≤ n && n ≤ 96) || (123 ≤ n && n ≤ 126)

/-- A blank of ASCII. -/
def isSpace (c : Char) : Bool := c == ' ' || (9 ≤ c.toNat && c.toNat ≤ 13)

/-- Whether a line holds blanks only. -/
def isBlankLine (cs : List Char) : Bool := cs.all isSpace

/-- A line without the blanks at its end. -/
def trimEnd (cs : List Char) : List Char := (cs.reverse.dropWhile isSpace).reverse

/-- The character with a number; numbers that have none give U+FFFD. -/
def charOfNumber (n : Nat) : Char :=
  if n == 0 || n > 0x10FFFF || (0xD800 ≤ n && n ≤ 0xDFFF) then '\ufffd' else Char.ofNat n

/-- The number that digits write in base ten or sixteen. -/
def numberOf (hex : Bool) (ds : List Char) : Nat :=
  ds.foldl (fun n c => n * (if hex then 16 else 10) + (Html.digitValue? hex c).getD 0) 0

/-- The digits of a reference by number, after `&#`: whether they are hexadecimal, the digits, and
what follows the semicolon. -/
def numberReference? (cs : List Char) : Option (Bool × List Char × List Char) :=
  let hex := cs.head?.any fun c => c == 'x' || c == 'X'
  let body := if hex then cs.drop 1 else cs
  let isDigit := fun c => (Html.digitValue? hex c).isSome
  let digits := body.takeWhile isDigit
  match body.dropWhile isDigit with
  | ';' :: rest => if digits.isEmpty then none else some (hex, digits, rest)
  | _ => none

/-- What a reference by name stands for, after `&`, and what follows the semicolon. -/
def nameReference? (cs : List Char) : Option (List Char × List Char) :=
  match cs.dropWhile Char.isAlphanum with
  | ';' :: rest =>
    (Html.reference? (String.ofList (cs.takeWhile Char.isAlphanum) ++ ";")).map
      fun s => (s.toList, rest)
  | _ => none

/-- What a reference in text stands for, after `&`, and the rest.  A number has at most seven
digits, or six hexadecimal ones. -/
def reference? (cs : List Char) : Option (List Char × List Char) :=
  match cs with
  | '#' :: more =>
    (numberReference? more).bind fun (hex, digits, rest) =>
      if digits.length > (if hex then 6 else 7) then none
      else some ([charOfNumber (numberOf hex digits)], rest)
  | _ => nameReference? cs

/-- The characters that text stands for. -/
def resolve : Nat → List Char → List Char
  | 0, cs => cs
  | _ + 1, [] => []
  | n + 1, '\\' :: c :: cs =>
    if isPunct c then c :: resolve n cs else '\\' :: resolve n (c :: cs)
  | n + 1, '&' :: cs =>
    match reference? cs with
    | some (text, rest) => text ++ resolve n rest
    | none => '&' :: resolve n cs
  | n + 1, c :: cs => (if c.toNat == 0 then '\ufffd' else c) :: resolve n cs

/-- The four characters that have a meaning in HTML are written as references. -/
def escapeChar (c : Char) : List Char :=
  match c with
  | '&' => "&amp;".toList
  | '<' => "&lt;".toList
  | '>' => "&gt;".toList
  | '"' => "&quot;".toList
  | c => [c]

/-- Characters as HTML that stands for them. -/
def escaped (cs : List Char) : String := String.ofList (cs.flatMap escapeChar)

/-- Text as HTML that stands for what the text stands for. -/
def written (cs : List Char) : String := escaped (resolve (cs.length + 1) cs)

end Trellis.Markdown

/-!
Lines and places in them.

A tab reaches to the next column that is a multiple of four.  A block that takes some columns of a
tab leaves the others behind; they are the *padding* of the place where the next block begins.
-/

namespace Trellis.Markdown

/-- A line of text in a block, with the character that stands before it in the document. -/
structure Line where
  before : Char := '\n'
  text : List Char
deriving DecidableEq, Repr

/-- A line without the blanks at its front. -/
def Line.trimStart (l : Line) : Line :=
  let blanks := l.text.takeWhile isSpace
  ⟨blanks.getLast?.getD l.before, l.text.dropWhile isSpace⟩

/-- A line without the blanks at its end. -/
def Line.trimEnd (l : Line) : Line := ⟨l.before, Markdown.trimEnd l.text⟩

/-! ## Columns -/

/-- How many columns a tab at a column takes. -/
def tabWidth (column : Nat) : Nat := 4 - column % 4

/-- The column after characters that begin at a column. -/
def columnAfter (column : Nat) (cs : List Char) : Nat :=
  cs.foldl (fun n c => n + (if c == '\t' then tabWidth n else 1)) column

/-- How far a line that begins at a column is indented: in columns and in characters. -/
def indentOf : Nat → List Char → Nat × Nat
  | column, c :: cs =>
    if c == ' ' || c == '\t' then
      let w := if c == '\t' then tabWidth column else 1
      let (width, count) := indentOf (column + w) cs
      (w + width, count + 1)
    else (0, 0)
  | _, [] => (0, 0)

/-- Passes over blanks until `width` columns have been passed.  The first `padding` characters of
the line are such as a block before left behind. -/
def indentRun (column width : Nat) : Nat → Nat → List Char → Nat × Nat
  | padding + 1, w, _ :: cs =>
    let (w, count) := indentRun column width padding (w + 1) cs
    (w, count + 1)
  | 0, w, c :: cs =>
    if w < width && (c == '\t' || c == ' ') then
      let (w, count) := indentRun column width 0
        (w + (if c == '\t' then tabWidth (column + w) else 1)) cs
      (w, count + 1)
    else (w, 0)
  | _, w, [] => (w, 0)

/-- The characters of an indent of `width` columns, and the columns that are left of the last one.
-/
def indentEnd? (column padding width : Nat) (cs : List Char) : Option (Nat × Nat) :=
  if width == 0 then some (0, padding)
  else
    let (w, count) := indentRun column width padding 0 cs
    if w ≥ width then some (count - padding, w - width) else none

/-! ## Places -/

/-- A place in a line of the document. -/
structure Cursor where
  /-- the characters before it, the last one first -/
  passed : List Char := []
  /-- columns of a tab before it that no block has taken -/
  padding : Nat := 0
  rest : List Char

namespace Cursor

def column (c : Cursor) : Nat := columnAfter 0 c.passed.reverse - c.padding

/-- What is left of the line, with blanks for the columns left behind. -/
def view (c : Cursor) : List Char := List.replicate c.padding ' ' ++ c.rest

def isBlank (c : Cursor) : Bool := isBlankLine c.rest

/-- How far the rest is indented: in columns and in characters. -/
def indent (c : Cursor) : Nat × Nat := indentOf c.column c.view

/-- Passes over characters, those left behind first. -/
def advance (c : Cursor) (n : Nat) : Cursor :=
  let fromPadding := min n c.padding
  let n := n - fromPadding
  { passed := (c.rest.take n).reverse ++ c.passed, padding := c.padding - fromPadding
    rest := c.rest.drop n }

/-- Passes over characters and leaves columns of the last one behind. -/
def advanceTo (c : Cursor) (n padding : Nat) : Cursor :=
  let c := c.advance n
  { c with padding := max padding c.padding }

/-- The end of the line. -/
def toEnd (c : Cursor) : Cursor :=
  let n := (c.rest.takeWhile (· != '\n')).length
  { (c.advance (c.padding + n)) with padding := 0 }

/-- The rest of the line as a line of a block. -/
def line (c : Cursor) : Line := ⟨c.passed.headD '\n', c.rest⟩

/-- The line of code that begins `skip` characters after the place, after `padding` blanks.  A tab
none of whose columns has been taken stays a tab. -/
def codeLine (c : Cursor) (skip padding indent : Nat) : List Char :=
  let whole := padding != 0 && c.column + indent == columnAfter 0 (c.passed.drop 1).reverse
  let passed := (c.rest.take skip).reverse ++ c.passed
  let rest := c.rest.drop skip
  if whole then (passed.head?.map (· :: rest)).getD rest else List.replicate padding ' ' ++ rest

/-- A blank line of code without `width` columns at its front; a tab counts four. -/
def blankCodeLine (width : Int) : List Char → List Char
  | c :: d :: cs =>
    if width ≤ 0 || !(c == ' ' || c == '\t') then List.replicate (-width).toNat ' ' ++ c :: d :: cs
    else blankCodeLine (width - (if c == '\t' then 4 else 1)) (d :: cs)
  | cs => List.replicate (-width).toNat ' ' ++ cs

end Cursor

/-! ## Places in running text -/

/-- A place in the lines of a block. -/
structure Scan where
  /-- how many lines have been passed -/
  number : Nat := 0
  before : Char := '\n'
  /-- what is left of the line -/
  line : List Char
  more : List Line := []

namespace Scan

/-- The beginning of lines. -/
def ofLines : List Line → Scan
  | [] => { line := [] }
  | l :: ls => { line := l.text, more := ls }

/-- What is left of the text. -/
def rest (s : Scan) : List Char := s.line ++ s.more.flatMap (·.text)

def nextLine (s : Scan) : Scan :=
  match s.more with
  | l :: ls => ⟨s.number + 1, l.before, l.text, ls⟩
  | [] => ⟨s.number + 1, s.before, [], []⟩

/-- Passes over characters. -/
def advance : Nat → Scan → Scan
  | 0, s => s
  | n + 1, s =>
    match s.line with
    | [] => s
    | c :: cs =>
      advance n (if cs.isEmpty && !s.more.isEmpty then s.nextLine
        else { s with before := c, line := cs })

/-- Passes over blanks and line ends. -/
def skipSpaces (s : Scan) : Scan := s.advance (s.rest.takeWhile isSpace).length

/-- How the search for a closing mark in a line ends. -/
inductive Closing where
  /-- the characters before the mark -/
  | closed (inner : List Char)
  /-- an opening mark comes first -/
  | reopened
  | missing

/-- Searches a line for a closing mark without a backslash before it. -/
def closing (opener closer : Char) (inner : List Char) : List Char → Closing
  | '\\' :: c :: cs =>
    if isPunct c then closing opener closer (c :: '\\' :: inner) cs
    else closing opener closer ('\\' :: inner) (c :: cs)
  | c :: cs =>
    if c == closer then .closed inner.reverse
    else if c == opener then .reopened
    else closing opener closer (c :: inner) cs
  | [] => .missing

/-- Searches lines for a closing mark: the text before it, and the place after it.  The search stops
in front of a line with an opening mark. -/
def closureIn (opener closer : Char) (inner : List Char) (s : Scan) :
    List Line → Option (List Char) × Scan
  | [] =>
    match closing opener closer [] s.line with
    | .closed piece => (some (inner ++ piece), s.advance (piece.length + 1))
    | .reopened => (none, s)
    | .missing => (none, s.nextLine)
  | _ :: more =>
    match closing opener closer [] s.line with
    | .closed piece => (some (inner ++ piece), s.advance (piece.length + 1))
    | .reopened => (none, s)
    | .missing => closureIn opener closer (inner ++ s.line) s.nextLine more

def closure (s : Scan) (opener closer : Char) : Option (List Char) × Scan :=
  closureIn opener closer [] s s.more

end Scan

end Trellis.Markdown
