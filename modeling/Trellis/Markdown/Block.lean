/-
The blocks of a Markdown document.

The document is read line by line.  The blocks that are open form a stack.  A line goes through
those that it continues, from the outermost inwards; where it stops it may begin new blocks, which
close the ones that it did not reach, or go on with a paragraph.
-/
import Trellis.Markdown.Cursor
import Trellis.Markdown.Link
import Trellis.Markdown.Tag
import Trellis.Text.Decimal
import Trellis.Text.Search

/-!
Tables in Markdown: rows of cells between bars, under a line of dashes that says where the text of
each column stands.
-/

namespace Trellis.Markdown

/-- Where the text of a table's column stands. -/
inductive Alignment where
  | none | left | right | center
deriving DecidableEq, Repr

/-- A cell of a table. -/
structure Cell where
  alignment : Alignment := .none
  line : Line := { text := [] }

structure Table where
  header : List Cell
  rows : List (List Cell)

/-- The alignment that a cell of dashes and colons asks for. -/
def alignment? (cell : List Char) : Option Alignment :=
  let cell := trimEnd (cell.dropWhile isSpace)
  let left := cell.head? == some ':'
  let inner := if left then cell.drop 1 else cell
  let right := inner.getLast? == some ':'
  let dashes := if right then inner.dropLast else inner
  if dashes.isEmpty || !dashes.all (· == '-') then none
  else some (match left, right with
    | true, true => .center
    | true, false => .left
    | false, true => .right
    | false, false => .none)

/-- The alignments of the line between the head of a table and its rows. -/
def alignments? (line : List Char) : Option (List Alignment) :=
  if (indentOf 0 line).1 > 3 || line.all (· == '-') ||
      !line.all (fun c => isSpace c || c == '-' || c == '|' || c == ':') then none
  else
    let cells := Text.splitChars '|' line
    let cells := if cells.head?.any isBlankLine then cells.drop 1 else cells
    let cells := if cells.getLast?.any isBlankLine then cells.dropLast else cells
    if cells.isEmpty then none else cells.mapM alignment?

/-- The cells of a row, after the character `last` of it and those of a cell in reverse order.  A
bar with a backslash before it is text. -/
def cellsFrom (last : Char) (cell : List Char) : List Char → List (List Char)
  | [] => [cell.reverse]
  | c :: cs =>
    if c == '|' && last != '\\' then
      cell.reverse :: (if cs.isEmpty then [] else cellsFrom c [] cs)
    else cellsFrom c (c :: cell) cs

/-- The texts of the cells in a line; bars at its ends divide nothing. -/
def cellsOf (line : List Char) : List (List Char) :=
  let line := trimEnd (line.dropWhile isSpace)
  let body := if line.getLast? == some '|' then line.dropLast else line
  let body := if line.head? == some '|' then body.drop 1 else body
  if body.isEmpty then [] else cellsFrom '|' [] body

/-- A row under alignments.  Cells that are missing have none. -/
def rowOf (alignments : List Alignment) (line : List Char) : List Cell :=
  let texts := (cellsOf line).map fun t => trimEnd (t.dropWhile isSpace)
  let cells := texts.zipIdx.map fun (text, k) => Cell.mk (alignments.getD k .none) { text }
  cells ++ List.replicate (alignments.length - cells.length) { alignment := .none }

/-- The table in the lines of a paragraph, with the lines before it. -/
def tableIn? : List Line → Option (List Line × Table)
  | head :: dashes :: rows =>
    match alignments? dashes.text with
    | some alignments =>
      let header := rowOf alignments head.text
      if header.length == alignments.length then
        some ([], ⟨header, rows.map fun r => (rowOf alignments r.text).take alignments.length⟩)
      else none
    | none => (tableIn? (dashes :: rows)).map fun (before, t) => (head :: before, t)
  | _ => none

end Trellis.Markdown

namespace Trellis.Markdown

/-- A block of a document. -/
inductive Block where
  | paragraph (lines : List Line)
  /-- text that is no paragraph of its own -/
  | plain (lines : List Line)
  | heading (level : Nat) (anchor : String) (lines : List Line)
  | rule
  | quote (blocks : List Block)
  | code (language : Option (List Char)) (text : List Char)
  /-- raw markup, which is not passed on; `closed` when a line of its own ends it -/
  | markup (closed : Bool)
  /-- a list, with its first number if it is numbered -/
  | list (start : Option Nat) (items : List (List Block))
  | table (t : Table)

/-- A mark before an item of a list. -/
structure ListMark where
  /-- the bullet, or what follows the number -/
  char : Char
  start : Option Nat
  /-- how many blanks stand before it -/
  indent : Nat
  /-- where it ends -/
  stop : Nat

/-- The fence around code. -/
structure Fence where
  char : Char
  size : Nat
  indent : Nat
  info : Option (List Char)

/-- A block that is open.  Lines stand in reverse order. -/
inductive Open where
  | document
  | quote
  | list (mark : ListMark)
  /-- an item whose text is indented by so many columns -/
  | item (offset : Nat)
  | paragraph (lines : List Line)
  | heading (level : Nat) (lines : List Line)
  | rule
  | fence (f : Fence) (lines : List (List Char))
  | indented (lines : List (List Char))
  /-- the first line is kept while it is the only one -/
  | markup (ends : MarkupEnd) (first : Option (List Char)) (closed : Bool)

/-- Blocks in an open one, the last one first, each with whether a blank line stands before it. -/
abbrev Spaced := List (Bool × Block)

/-- An open block and what it holds. -/
structure Frame where
  block : Open
  blankBefore : Bool := false
  blocks : Spaced := []
  /-- the items of a list, the last one first, each with whether a blank line stands before it -/
  items : List (Bool × Spaced) := []

/-- Whether a line that came to the open block at a level was blank. -/
structure Visit where
  number : Nat
  level : Nat
  blank : Bool

/-- What has been read of a document. -/
structure Reading where
  /-- the open blocks, the innermost first; the last is the document -/
  frames : List Frame := [{ block := .document }]
  /-- the number of the line -/
  number : Nat := 0
  /-- the last visit comes first -/
  visits : List Visit := []
  /-- blank lines follow the beginning of an item that holds nothing -/
  hollowItem : Bool := false
  /-- the line begins an item of a list that is open -/
  nextItem : Bool := false
  references : References := []
  /-- the names that headings have been given -/
  anchors : List String := []

/-! ## Closing blocks -/

/-- The first of a name and its numbered forms that is not taken. -/
def freeName (taken : List String) (name : String) : Nat → Nat → String
  | 0, k => name ++ "-" ++ Text.natText k
  | n + 1, k =>
    let candidate := name ++ "-" ++ Text.natText k
    if taken.contains candidate then freeName taken name n (k + 1) else candidate

/-- A name for a heading: letters and digits of its last line in lower case, with dashes for
blanks. -/
def anchorOf (taken : List String) (lines : List Line) : String :=
  let text := ((lines.getLast?.map (·.text)).getD [])
  let cs := (trimEnd (text.dropWhile isSpace)).filterMap fun c =>
    if c.isAlphanum then some c.toLower
    else if isSpace c || c == '-' || c == '_' then some '-'
    else none
  let name := if cs.isEmpty then "heading" else String.ofList cs
  if taken.contains name then freeName taken name taken.length 1 else name

/-- Lines of code as one text. -/
def codeOf (lines : List (List Char)) : List Char :=
  lines.flatMap fun l => if l.getLast? == some '\n' || l.isEmpty then l else l ++ ['\n']

/-- The lines of a paragraph without blanks at the front of each and at the end. -/
def paragraphLines (lines : List Line) : List Line :=
  match (lines.map Line.trimStart).reverse with
  | last :: before => (last.trimEnd :: before).reverse
  | [] => []

/-- The items of a list that is closed.  In a tight list, which has no blank line between items or
between the blocks of one, paragraphs are plain text. -/
def closedItems (items : List (Bool × Spaced)) : List (List Block) :=
  let loose := items.dropLast.any (·.1) || items.any fun i => i.2.dropLast.any (·.1)
  let plain := fun (b : Block) =>
    match b with
    | .paragraph lines => if loose then b else .plain lines
    | b => b
  items.reverse.map fun i => i.2.reverse.map fun b => plain b.2

/-- What becomes of a paragraph: its definitions are taken off, and a table may follow what is
left. -/
structure Ending where
  references : References
  /-- no line is left -/
  defined : Bool
  lines : List Line
  table : Option Table

def endParagraph (refs : References) (lines : List Line) : Ending :=
  let (references, lines) := takeDefinitions refs lines
  if lines.isEmpty then { references, defined := true, lines, table := none }
  else match tableIn? lines with
    | some (before, t) =>
      let kept := match before.reverse with
        | last :: more => (⟨last.before, last.text.dropLast⟩ :: more).reverse
        | [] => []
      { references, defined := false, lines := kept, table := some t }
    | none => { references, defined := false, lines, table := none }

namespace Reading

/-- Adds closed blocks to the innermost open one. -/
def add (r : Reading) (blocks : Spaced) : Reading :=
  match r.frames with
  | f :: more => { r with frames := { f with blocks := blocks.reverse ++ f.blocks } :: more }
  | [] => r

/-- Closes the innermost block. -/
def closeFrame (r : Reading) : Reading :=
  match r.frames with
  | f :: parent :: more =>
    let outer := { r with frames := parent :: more }
    let hold := fun (b : Block) => outer.add [(f.blankBefore, b)]
    match f.block with
    | .document => r
    | .quote => hold (.quote (f.blocks.reverse.map (·.2)))
    | .list mark => hold (.list mark.start (closedItems f.items))
    | .item _ =>
      { r with
        frames := { parent with items := (f.blankBefore, f.blocks) :: parent.items } :: more }
    | .paragraph lines =>
      let e := endParagraph r.references lines.reverse
      let outer := { outer with references := e.references }
      let text := if e.defined then [(f.blankBefore, Block.plain [])]
        else if e.lines.isEmpty then []
        else [(f.blankBefore, .paragraph (paragraphLines e.lines))]
      outer.add (text ++ e.table.toList.map fun t => (false, .table t))
    | .heading level lines =>
      let lines := lines.reverse
      let name := anchorOf r.anchors lines
      { hold (.heading level name lines) with anchors := name :: r.anchors }
    | .rule => hold .rule
    | .fence f lines => hold (.code (f.info.map (·.takeWhile (· != ' '))) (codeOf lines.reverse))
    | .indented lines => hold (.code none (codeOf (lines.dropWhile isBlankLine).reverse))
    | .markup _ _ closed => hold (.markup closed)
  | _ => r

/-- Closes blocks until `depth` are open. -/
def closeTo (r : Reading) (depth : Nat) : Reading :=
  (List.range (r.frames.length - depth)).foldl (fun r _ => r.closeFrame) r

/-- Puts a block on the stack. -/
def push (r : Reading) (b : Open) (blank : Bool) : Reading :=
  { r with frames := { block := b, blankBefore := blank } :: r.frames }

/-- Replaces the innermost block. -/
def update (r : Reading) (b : Open) : Reading :=
  match r.frames with
  | f :: more => { r with frames := { f with block := b } :: more }
  | [] => r

def innermost (r : Reading) : Open := (r.frames.head?.map (·.block)).getD .document

def inParagraph (r : Reading) : Bool :=
  match r.innermost with
  | .paragraph _ => true
  | _ => false

end Reading

/-! ## The beginnings of blocks -/

/-- A rule: three or more of one mark, with blanks between them. -/
def isRule (column : Nat) (cs : List Char) : Bool :=
  let marks := cs.filter fun c => !isSpace c
  (indentOf column cs).1 ≤ 3 &&
  match marks with
  | c :: _ => (c == '*' || c == '-' || c == '_') && marks.length ≥ 3 && marks.all (· == c)
  | [] => false

/-- The lines of a heading that begins with number signs at a place, and its level. -/
def heading? (c : Cursor) (offset : Nat) : Option (Nat × List Line) :=
  let line := c.view
  let body := line.drop offset
  let level := (body.takeWhile (· == '#')).length
  let rest := body.drop level
  if level == 0 || level > 6 then none
  else if rest.isEmpty then some (level, [])
  else if !rest.head?.any isSpace then none
  else
    let front := line.length - (rest.dropWhile isSpace).length
    let text := trimEnd (line.drop front)
    let open_ := Text.trimRightChars (· == '#') text
    let text := if open_.length == text.length then text
      else if open_.isEmpty || open_.getLast?.any isSpace then open_
      else text
    some (level, if text.all (· == '#') then [] else [{ text }])

/-- The level of the heading that an underline makes of a paragraph. -/
def underline? (line : List Char) : Option Nat :=
  let body := line.dropWhile (· == ' ')
  let marks := trimEnd body
  if line.length - body.length > 3 || marks.isEmpty then none
  else if marks.all (· == '=') then some 1
  else if marks.all (· == '-') then some 2
  else none

/-- The beginning of a fence. -/
def fence? (line : List Char) (offset : Nat) : Option Fence :=
  match line.drop offset with
  | c :: rest =>
    let size := 1 + (rest.takeWhile (· == c)).length
    let after := line.drop (offset + size)
    let info := if after.length > 1 then trimEnd (after.dropWhile isSpace) else []
    if (c != '\x60' && c != '~') || size < 3 || (c == '\x60' && info.contains '\x60') then none
    else some ⟨c, size, offset, if info.isEmpty then none else some info⟩
  | [] => none

/-- The mark of a list item at the front of a line, after at most three blanks. -/
def listMark? (line : List Char) : Option ListMark :=
  let indent := (line.takeWhile (· == ' ')).length
  let body := line.drop indent
  let follows := fun (n : Nat) =>
    match body.drop n with
    | [] => true
    | c :: _ => c == '\n' || c == ' ' || c == '\t'
  match body with
  | c :: _ =>
    if indent > 3 then none
    else if c == '-' || c == '+' || c == '*' then
      if follows 1 then some ⟨c, none, indent, indent + 1⟩ else none
    else
      let ds := body.takeWhile Char.isDigit
      match body.drop ds.length with
      | d :: _ =>
        if !ds.isEmpty && ds.length ≤ 9 && (d == '.' || d == ')') && follows (ds.length + 1) then
          some ⟨d, some (numberOf false ds), indent, indent + ds.length + 1⟩
        else none
      | [] => none
  | [] => none

/-- Passes over the mark of a quotation and one blank after it. -/
def quote? (c : Cursor) : Option Cursor :=
  let (width, count) := c.indent
  match c.view.drop count with
  | '>' :: rest =>
    if width > 3 then none
    else
      let c := c.advance (count + 1)
      match rest with
      | ' ' :: _ => some (c.advanceTo 1 0)
      | '\t' :: _ => some (c.advanceTo 1 (tabWidth c.column - 1))
      | _ => some c
  | _ => none

/-- How far the text of an item stands from its mark; in an item that begins with code, one column.
-/
def itemGap (mark : ListMark) (line : List Char) : Nat :=
  let rest := line.drop mark.stop
  let width := (indentOf mark.stop rest).1
  if isBlankLine rest || width > 4 then 1 else width

/-- The kinds of blocks that a line may begin. -/
inductive Starter where
  | underline | rule | list | item | heading | fence | quote | markup | indented | paragraph
deriving DecidableEq

/-- The blocks that may begin with a character, in the order in which they are tried. -/
def starters (c : Option Char) : List Starter :=
  let own := match c with
    | some '=' => [Starter.underline]
    | some '-' => [.underline, .rule, .list, .item]
    | some '*' => [.rule, .list, .item]
    | some '_' => [.rule]
    | some '+' => [.list, .item]
    | some '#' => [.heading]
    | some '\x60' | some '~' => [.fence]
    | some '>' => [.quote]
    | some '<' => [.markup]
    | some c => if c.isDigit then [.list, .item] else []
    | none => []
  own ++ [.indented, .paragraph]

/-- Where new blocks may begin. -/
structure Place where
  /-- how many open blocks the line continues -/
  depth : Nat
  /-- a blank line stands before the line -/
  blank : Bool
  /-- no block has begun on the line -/
  first : Bool := true
  /-- the innermost open block is a paragraph, with which the line may go on -/
  lazy : Bool

/-- What comes of trying to begin a block. -/
inductive Try where
  | failed (r : Reading)
  /-- a block begins; `some` with what is left of the line when it may hold blocks -/
  | begun (r : Reading) (b : Open) (rest : Option Cursor)
  /-- an underline of the paragraph -/
  | underlined (level : Nat)

/-- Tries to begin a block of a kind in a line with `offset` blanks at its front. -/
def tryStart (r : Reading) (p : Place) (c : Cursor) (offset : Option Nat) (kind : Starter) : Try :=
  let line := c.view
  let failed := Try.failed r
  let ownParagraph := p.first && r.inParagraph && r.frames.length == p.depth + 1
  let leaf := fun (b : Option Open) =>
    match b with
    | some b => Try.begun r b none
    | none => failed
  match kind with
  | .underline =>
    match if ownParagraph then underline? line else none with
    | some level => .underlined level
    | none => failed
  | .rule => if isRule c.column line then leaf (some .rule) else failed
  | .heading => leaf ((offset.bind (heading? c)).map fun (level, lines) => .heading level lines)
  | .fence => leaf ((offset.bind (fence? line)).map fun f => .fence f [])
  | .markup =>
    leaf (offset.bind fun _ => (markupBlock? r.inParagraph line).map fun ends =>
      .markup ends (some line) false)
  | .quote =>
    match quote? c with
    | some rest => .begun r .quote (some rest)
    | none => failed
  | .list =>
    let inList := match r.innermost with
      | .list _ => true
      | _ => false
    if inList || r.nextItem then .failed { r with nextItem := false }
    else match listMark? line with
      | none => failed
      | some mark =>
        if ownParagraph && (mark.start.any (· != 1) || isBlankLine (line.drop mark.stop)) then
          failed
        else .begun { r with hollowItem := false } (.list mark) (some c)
  | .item =>
    let inList := match (r.frames.drop (r.frames.length - p.depth)).head?.map (·.block) with
      | some (.list _) => true
      | _ => false
    match if inList then listMark? line else none with
    | none => failed
    | some mark =>
      let r := { r with hollowItem := false }
      let gap := itemGap mark line
      let rest := line.drop mark.stop
      if isBlankLine rest then .begun r (.item (mark.stop + gap)) none
      else
        let (count, padding) := (indentEnd? mark.stop 0 gap rest).getD (0, 0)
        .begun r (.item (mark.stop + gap)) (some (c.advanceTo (mark.stop + count) padding))
  | .indented =>
    match if isBlankLine line then none else indentEnd? c.column 0 4 line with
    | some (count, padding) =>
      let c := c.advanceTo count padding
      leaf (some (.indented [c.codeLine 0 c.padding 0]))
    | none => failed
  | .paragraph =>
    let l := c.line.trimStart
    if l.text.isEmpty then failed else leaf (some (.paragraph [l]))

/-- The first block that begins in a line. -/
def firstStart (r : Reading) (p : Place) (c : Cursor) (width : Nat) (offset : Option Nat) :
    List Starter → Try
  | [] => .failed r
  | kind :: more =>
    let waits := p.lazy && p.first && (kind == .indented || kind == .paragraph)
    if waits || (width > 3 && kind != .indented) then firstStart r p c width offset more
    else match tryStart r p c offset kind with
      | .failed r => firstStart r p c width offset more
      | found => found

/-- A line that begins no block goes on with a paragraph or closes what it did not reach. -/
def endStarts (r : Reading) (p : Place) (c : Cursor) : Reading :=
  if !p.first then r
  else match p.lazy, r.innermost with
    | true, .paragraph lines =>
      if c.rest.isEmpty || c.isBlank then r.closeTo p.depth
        else r.update (.paragraph (c.line :: lines))
    | _, _ => r.closeTo p.depth

/-- Begins the blocks of a line. -/
def beginBlocks : Nat → Reading → Place → Cursor → Reading
  | 0, r, _, _ => r
  | n + 1, r, p, c =>
    let line := c.view
    let (width, count) := c.indent
    let offset := if width ≥ line.length then none else some count
    if line.isEmpty || line.head? == some '\n' then endStarts r p c
    else match firstStart r p c width offset (starters (line.drop count).head?) with
      | .failed r => endStarts r p c
      | .begun r b rest =>
        let r := ((if p.first then r.closeTo p.depth else r)).push b p.blank
        match rest with
        | some c => beginBlocks n r { p with first := false, depth := r.frames.length } c
        | none => r
      | .underlined level =>
        match r.frames with
        | { block := .paragraph lines, blankBefore, .. } :: outer =>
          let e := endParagraph r.references (paragraphLines lines.reverse)
          let table := e.table.toList.map fun t => (false, Block.table t)
          let r := { r with frames := outer, references := e.references }
          if e.defined then beginBlocks n (r.add [(blankBefore, .plain [])])
            { p with lazy := false } c
          else if e.lines.isEmpty then beginBlocks n (r.add table) { p with lazy := false } c
          else (r.add table).push (.heading level e.lines.reverse) blankBefore
        | _ => r

/-! ## Lines -/

/-- How a line meets an open block. -/
inductive Meeting where
  | closes
  /-- the block holds the rest of the line -/
  | goesInto (rest : Cursor)
  /-- the line belongs to the block -/
  | joins (b : Open)

/-- A line meets the fence around code. -/
def meetFence (f : Fence) (lines : List (List Char)) (c : Cursor) : Meeting × Cursor :=
  let line := c.view
  let (width, count) := c.indent
  let run := ((line.drop count).takeWhile (· == f.char)).length
  if width < 4 && run ≥ f.size && isBlankLine (line.drop (count + run)) then (.closes, c.toEnd)
  else
    let (skip, padding) := match indentEnd? c.column c.padding f.indent line with
      | some found => found
      | none =>
        let blanks := (line.takeWhile fun c => c == ' ' || c == '\t').length
        (if (line.drop blanks).head?.any (· != '\n') then blanks else 0, 0)
    (.joins (.fence f (c.codeLine skip padding f.indent :: lines)), c)

/-- A line meets a block of markup. -/
def meetMarkup (ends : MarkupEnd) (first : Option (List Char)) (c : Cursor) :
    Meeting × Cursor × Bool :=
  let joins := Meeting.joins (.markup ends none false)
  match ends with
  | .blankLine => if c.isBlank then (.closes, c, false) else (joins, c, false)
  | _ =>
    if first.any fun l => ends.isIn l then (.closes, c, false)
    else if ends.isIn c.view then (.closes, c.toEnd, true)
    else (joins, c, false)

/-- A line that is not blank meets a list whose last item begins at a column. -/
def listGoesOn (r : Reading) (mark : ListMark) (offset : Nat) (hollow : Bool) (c : Cursor) : Bool :=
  let line := c.view
  let width := c.indent.1
  let further := !(hollow && width < offset) && !r.hollowItem
  if width < offset || hollow then
    match if width < 4 then listMark? line else none with
    | some m =>
      m.char == mark.char && m.start.isSome == mark.start.isSome &&
        !isRule 0 (line.drop (m.stop - 1))
    | none => hollow && further
  else further

/-- A line that is not blank meets an item of a list. -/
def meetItem (r : Reading) (offset : Nat) (hollow : Bool) (c : Cursor) : Meeting × Reading :=
  let width := c.indent.1
  let hollow := hollow && r.hollowItem
  if (hollow || width < offset) && width < 4 && (listMark? c.view).isSome then
    (.closes, { r with nextItem := true })
  else if width < offset && width < 4 && !hollow then (.closes, r)
  else
    let (count, padding) := (indentEnd? c.column 0 offset c.view).getD (0, 0)
    (.goesInto (c.advanceTo count padding), r)

/-- A line meets the open block at the head of `frames`, outermost first. -/
def meet (r : Reading) (frames : List Frame) (c : Cursor) : Meeting × Reading × Cursor :=
  let joins := fun (b : Open) => (Meeting.joins b, r, c)
  match frames with
  | [] => (.closes, r, c)
  | f :: inner =>
    match f.block with
    | .document => (.goesInto c, r, c)
    | .quote =>
      match quote? c with
      | some rest => (.goesInto rest, r, c)
      | none => (.closes, r, c)
    | .list mark =>
      let offset := match inner.head?.map (·.block) with
        | some (.item offset) => offset
        | _ => 0
      let hollow := inner.length == 1 && inner.all (·.blocks.isEmpty)
      if c.isBlank then (.goesInto c, { r with hollowItem := r.hollowItem || hollow }, c)
      else if listGoesOn r mark offset hollow c then (.goesInto c, r, c)
      else (.closes, r, c)
    | .item offset =>
      if c.isBlank then (.goesInto c.toEnd, r, c)
      else
        let (m, r) := meetItem r offset (inner.isEmpty && f.blocks.isEmpty) c
        (m, r, c)
    | .fence f lines =>
      let (m, c) := meetFence f lines c
      (m, r, c)
    | .indented lines =>
      if c.isBlank then
        joins (.indented ((if c.padding ≥ 4 then List.replicate (c.padding - 4) ' ' ++ c.rest
          else Cursor.blankCodeLine (4 - c.padding) c.rest) :: lines))
      else match indentEnd? c.column 0 4 c.view with
        | some (count, padding) =>
          let c := c.advanceTo count padding
          joins (.indented (c.codeLine 0 c.padding 0 :: lines))
        | none => (.closes, r, c)
    | .markup ends first _ =>
      let (m, c, closed) := meetMarkup ends first c
      (m, if closed then r.update (.markup ends none true) else r, c)
    | .paragraph _ | .heading _ _ | .rule => (.closes, r, c)

/-- Whether the line before was blank where it came to a level. -/
def blankAbove (number level : Nat) : List Visit → Bool
  | [] => false
  | v :: rest =>
    if v.number + 1 == number && v.level ≤ level then v.blank
    else if v.number + 1 < number then false
    else blankAbove number level rest

/-- Whether a blank line stands before the line at a level. -/
def Reading.blankBefore (r : Reading) (level : Nat) : Bool :=
  r.visits.isEmpty || blankAbove r.number level (r.visits.drop level)

/-- Brings a line to the open blocks, outermost first.  The line goes as far as it continues them.
-/
def visit (level : Nat) (r : Reading) (c : Cursor) : List Frame → Reading
  | [] => r
  | f :: inner =>
    let r := { r with visits := ⟨r.number, level, isBlankLine c.rest⟩ :: r.visits }
    let start := fun (r : Reading) (level : Nat) (c : Cursor) =>
      beginBlocks (c.rest.length + c.padding + 3) r
        { depth := level + 1, blank := r.blankBefore level, lazy := r.inParagraph } c
    match meet r (f :: inner) c with
    | (.closes, r, c) => start r level c
    | (.joins b, r, _) => r.update b
    | (.goesInto c, r, _) =>
      if inner.isEmpty then start r (level + 1) c else visit (level + 1) r c inner

/-- Reads a line. -/
def readLine (r : Reading) (line : List Char) : Reading :=
  let c : Cursor := { rest := line }
  let r := match r.frames.reverse.drop 1 with
    | [] =>
      if isBlankLine line then { r with visits := [] }
      else
        beginBlocks (line.length + 3) r { depth := 1, blank := r.blankBefore 0, lazy := false } c
    | opened => visit 0 r c opened
  { r with number := r.number + 1 }

/-- The lines of a text, each with its end. -/
def linesOf (cs : List Char) : List (List Char) :=
  let (lines, last) := cs.foldl (fun (lines, line) c =>
    if c == '\n' then (((c :: line).reverse) :: lines, []) else (lines, c :: line)) ([], [])
  (if last.isEmpty then lines else last.reverse :: lines).reverse

/-- Reads a document: its blocks and its references. -/
def readBlocks (s : String) : List Block × References :=
  let r := ((linesOf s.toList).foldl readLine {}).closeTo 1
  ((r.frames.flatMap (·.blocks)).reverse.map (·.2), r.references)

end Trellis.Markdown
