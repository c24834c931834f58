/-
The tree of tags of a template, before its tags are given a meaning.

Tags are read from the masked template: the source with every expression and translation replaced by
a placeholder, so that a reader of tags never looks inside them.  A placeholder is a number between
two private characters, followed by one mark for each line feed of the region it stands for; so the
masked text has the lines of the source.
-/
import Trellis.Html.Token
import Trellis.Segment
import Trellis.Text.Case

namespace Trellis.Markup

/-! ### Masked templates -/

/-- The character that opens a placeholder. -/
def maskOpen : Char := '\ue000'

/-- The character that closes a placeholder. -/
def maskClose : Char := '\ue001'

/-- The character that stands for a line feed of a region. -/
def maskLine : Char := '\ue002'

/-- A masked text and the regions that its placeholders stand for. -/
structure Masked where
  text : List Char
  regions : List (List Char)

/-- The placeholder with a number, for a region. -/
def placeholder (index : Nat) (region : List Char) : List Char :=
  maskOpen :: (toString index).toList ++ maskClose :: List.replicate (region.count '\n') maskLine

/-- Masks a source, numbering regions from `index`.  A region that is never closed is text. -/
def maskFrom : Nat → Nat → List Char → List Char × List (List Char)
  | 0, _, cs => (cs, [])
  | _ + 1, _, [] => ([], [])
  | n + 1, index, c :: cs =>
    let plain := fun (_ : Unit) =>
      let (text, regions) := maskFrom n index cs
      (c :: text, regions)
    match Region.opens? (c :: cs) with
    | none => plain ()
    | some (region, inner) =>
      match region.body? inner with
      | none => plain ()
      | some (inside, rest) =>
        let whole := region.opening ++ inside ++ region.closing
        let (text, regions) := maskFrom n (index + 1) rest
        (placeholder index whole ++ text, whole :: regions)

/-- Masks a source. -/
def mask (source : String) : Masked :=
  let cs := source.toList
  let (text, regions) := maskFrom (cs.length + 1) 0 cs
  ⟨text, regions⟩

/-- A placeholder at the front: its digits and the rest after its line marks. -/
def placeholder? : List Char → Option (List Char × List Char)
  | [] => none
  | c :: cs =>
    if c == maskOpen then
      let digits := cs.takeWhile Char.isDigit
      match cs.dropWhile Char.isDigit with
      | d :: rest =>
        if d == maskClose && !digits.isEmpty then some (digits, rest.dropWhile (· == maskLine))
        else none
      | [] => none
    else none

/-- Puts regions back for placeholders.  A number without a region stays as it is. -/
def unmaskChars (regions : List (List Char)) : Nat → List Char → List Char
  | 0, cs => cs
  | _ + 1, [] => []
  | n + 1, c :: cs =>
    match placeholder? (c :: cs) with
    | none => c :: unmaskChars regions n cs
    | some (digits, rest) =>
      let kept := (c :: cs).take ((c :: cs).length - rest.length)
      (regions.getD (Expr.digitsValue digits) kept) ++ unmaskChars regions n rest

/-- Puts regions back for placeholders. -/
def Masked.unmask (m : Masked) (s : String) : String :=
  if s.toList.contains maskOpen then
    String.ofList (unmaskChars m.regions (s.length + 1) s.toList)
  else s

/-- A place in the masked text: what is left of the text from the character in which the place lies,
how many bytes of that are before the place, and the line and column, in bytes, of that character.
-/
structure Spot where
  rest : List Char
  inside : Nat := 0
  line : Nat := 1
  column : Nat := 1

/-- The place `offset` bytes into a text that begins at a line and a column.  The line counts the
line ends up to it, and the column how far it is from the last of them. -/
def walk : List Char → Nat → Nat → Nat → Spot
  | [], offset, line, column => ⟨[], offset, line, column⟩
  | c :: cs, offset, line, column =>
    if offset < c.utf8Size then ⟨c :: cs, offset, line, column⟩
    else if c == '\n' || c == maskLine then walk cs (offset - c.utf8Size) (line + 1) 1
    else walk cs (offset - c.utf8Size) line (column + c.utf8Size)

/-- The place some bytes further on. -/
def Spot.forward (s : Spot) (bytes : Nat) : Spot := walk s.rest (s.inside + bytes) s.line s.column

/-! ### Tags -/

/-- An attribute of a tag, with its regions put back. -/
structure TagAttr where
  name : String
  value : String
  line : Nat
  column : Nat
deriving DecidableEq, Repr

/-- Text, or a tag with its attributes and what stands inside it. -/
inductive Tag where
  | text (line column : Nat) (value : String)
  | element (line column : Nat) (name : String) (attrs : List TagAttr) (children : List Tag)

instance : Inhabited Tag := ⟨.text 0 0 ""⟩

/-- The name of a tag; empty for text. -/
def Tag.name : Tag → String
  | .text _ _ _ => ""
  | .element _ _ name _ _ => name

def Tag.line : Tag → Nat
  | .text line _ _ => line
  | .element line _ _ _ _ => line

def Tag.column : Tag → Nat
  | .text _ column _ => column
  | .element _ column _ _ _ => column

/-- What stands inside a tag. -/
def Tag.children : Tag → List Tag
  | .text _ _ _ => []
  | .element _ _ _ _ children => children

/-- Text that holds blanks only. -/
def Tag.isBlank : Tag → Bool
  | .text _ _ value => Text.isBlankText value
  | .element _ _ _ _ _ => false

/-- The elements that have no content and no end tag. -/
def voidElements : List String := [
  "area", "base", "br", "col", "embed", "hr", "img", "input", "link", "meta", "param", "source",
  "track", "wbr"]

/-- Whether a tag name is one of an element without content, in any case. -/
def isVoid (name : String) : Bool := voidElements.contains (Text.lower name)

/-- The length of a list of characters in bytes. -/
def byteSize (cs : List Char) : Nat := cs.foldl (fun n c => n + c.utf8Size) 0

/-- The attributes in the source of a start tag after its name; `start` is the byte position of
`cs` in the tag. -/
def scanAttrs (m : Masked) (line column : Nat) : Nat → Nat → List Char → List TagAttr
  | 0, _, _ => []
  | n + 1, start, cs =>
    let gap := cs.takeWhile fun c => Html.isTagSpace c || c == '/'
    let start := start + byteSize gap
    match cs.drop gap.length with
    | [] => []
    | body =>
      let name := body.takeWhile fun c => !(Html.isTagSpace c || c == '=' || c == '/')
      let rest := Html.skipSpace (body.drop name.length)
      let (value, rest) := match rest with
        | '=' :: more =>
          match Html.skipSpace more with
          | [] => ([], [])
          | q :: inner =>
            if q == '"' || q == '\'' then
              let value := inner.takeWhile (· != q)
              (value, inner.drop (value.length + 1))
            else
              let value := (q :: inner).takeWhile (!Html.isTagSpace ·)
              (value, (q :: inner).drop value.length)
        | _ => ([], rest)
      let after := scanAttrs m line column n
        (start + byteSize (body.take (body.length - rest.length))) rest
      if name.isEmpty then after
      else
        ⟨String.ofList name, m.unmask (Html.unescape false (String.ofList value)), line,
          column + 1 + start⟩ :: after

/-- The name and attributes in the source of a start tag, in the case they were written in. -/
def scanTag (m : Masked) (line column : Nat) (source : List Char) : String × List TagAttr :=
  let s := Text.dropBack (Text.dropBack (Text.dropFront (String.ofList source) "<") ">") "/"
  let cs := s.toList
  let name := cs.takeWhile fun c => !(Html.isTagSpace c || c == '/')
  (String.ofList name,
    scanAttrs m line column (cs.length + 1) (byteSize name) (cs.drop name.length))

/-- An open tag; what it holds is listed last first. -/
structure OpenTag where
  name : String
  attrs : List TagAttr
  line : Nat
  column : Nat
  held : List Tag

/-- Adds a tag to what an open tag holds; text joins the text before it. -/
def OpenTag.push (o : OpenTag) (t : Tag) : OpenTag :=
  match t, o.held with
  | .text _ _ more, .text line column value :: rest =>
    { o with held := .text line column (value ++ more) :: rest }
  | t, held => { o with held := t :: held }

/-- The tag that an open tag becomes when it is closed. -/
def OpenTag.close (o : OpenTag) : Tag := .element o.line o.column o.name o.attrs o.held.reverse

/-- The open tags, innermost first, and outside them the roots, last one first. -/
structure Outline where
  open_ : List OpenTag
  roots : OpenTag

/-- Adds a tag at the innermost open place. -/
def Outline.push (o : Outline) (t : Tag) : Outline :=
  match o.open_ with
  | [] => { o with roots := o.roots.push t }
  | top :: rest => { o with open_ := top.push t :: rest }

/-- Fails because a tag is still open. -/
def OpenTag.unclosed {α : Type} (o : OpenTag) : Except Fault α :=
  .error ((Fault.make .unclosedTag [("Tag", o.name)]).moved o.line o.column)

/-- The name in the source of an end tag. -/
def endTagName (source : List Char) : String :=
  Text.trim (Text.dropBack (Text.dropFront (String.ofList source) "</") ">")

/-- Takes in one token, which begins at the given place. -/
def Outline.take (m : Masked) (o : Outline) (line column : Nat) (t : Html.Token) :
    Except Fault Outline :=
  match t.kind with
  | .text =>
    .ok (o.push (.text line column (m.unmask (Html.unescape false (String.ofList t.source)))))
  | .startTag =>
    let (name, attrs) := scanTag m line column t.source
    if isVoid name then .ok (o.push (.element line column name attrs []))
    else .ok { o with open_ := ⟨name, attrs, line, column, []⟩ :: o.open_ }
  | .selfClosing =>
    let (name, attrs) := scanTag m line column t.source
    .ok (o.push (.element line column name attrs []))
  | .endTag =>
    let name := endTagName t.source
    if isVoid name then .ok o
    else if !(o.open_.any (·.name == name)) then
      .error ((Fault.make .strayClosingTag [("Tag", name)]).moved line column)
    else
      match o.open_ with
      | [] => .ok o
      | top :: rest =>
        if top.name == name then .ok (Outline.push { o with open_ := rest } top.close)
        else top.unclosed
  | .comment | .doctype => .ok o

/-- Takes in tokens, the first of which begins at a place. -/
def Outline.takeAll (m : Masked) : Spot → Outline → List Html.Token → Except Fault Outline
  | _, o, [] => .ok o
  | s, o, t :: ts => do
    let o ← o.take m s.line (s.column + s.inside) t
    Outline.takeAll m (s.forward (byteSize t.source)) o ts

/-- The tree of tags of a masked source. -/
def Masked.tags (m : Masked) : Except Fault (List Tag) := do
  let o ← Outline.takeAll m { rest := m.text } ⟨[], ⟨"#root", [], 0, 0, []⟩⟩ (Html.tokenize m.text)
  match o.open_ with
  | [] => return o.roots.held.reverse
  | top :: _ => top.unclosed

end Trellis.Markup
