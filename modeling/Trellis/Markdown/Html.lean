/-
Markdown as HTML.  Raw markup is left out, and so are addresses that could run a script.

The text is read as CommonMark with tables, task lists, strikethrough and bare addresses.  The
theorems use nothing of it but that the HTML is a function of the text.
-/
import Trellis.Markdown.Block
import Trellis.Markdown.Inline

namespace Trellis.Markdown

/-- An attribute for the title of a link. -/
def titleText (t : Target) : String :=
  match t.title with
  | some title => " title=\"" ++ written title ++ "\""
  | none => ""

/-- What stands for raw markup. -/
def omitted : String := "<!-- raw HTML omitted -->"

/-- Code in running text; line ends are blanks. -/
def codeHtml (cs : List Char) : String := escaped (cs.map fun c => if c == '\n' then ' ' else c)

namespace Inline

mutual

/-- The text as the document writes it, as images show it when they are missing. -/
def raw : Inline → List Char
  | .text cs | .code cs => cs
  | .emphasis items | .strong items | .deleted items => rawList items
  | .link _ items | .image _ items => rawList items
  | .address _ label => label
  | .softBreak | .hardBreak | .markup | .task _ => []

def rawList : List Inline → List Char
  | [] => []
  | i :: is => raw i ++ rawList is

end

mutual

def html : Inline → String
  | .text cs => written cs
  | .softBreak => "\n"
  | .hardBreak => "<br>\n"
  | .code cs => "<code>" ++ codeHtml cs ++ "</code>"
  | .emphasis items => "<em>" ++ htmlList items ++ "</em>"
  | .strong items => "<strong>" ++ htmlList items ++ "</strong>"
  | .deleted items => "<del>" ++ htmlList items ++ "</del>"
  | .link t items =>
    "<a href=\"" ++ targetHtml t.address ++ "\"" ++ titleText t ++ ">" ++ htmlList items ++ "</a>"
  | .image t items =>
    "<img src=\"" ++ targetHtml t.address ++ "\" alt=\"" ++ escaped (rawList items) ++ "\"" ++
      titleText t ++ ">"
  | .address lead label =>
    "<a href=\"" ++ addressHtml (lead.toList ++ label) ++ "\">" ++ escaped label ++ "</a>"
  | .markup => omitted
  | .task done =>
    "<input " ++ (if done then "checked=\"\" " else "") ++ "disabled=\"\" type=\"checkbox\"> "

def htmlList : List Inline → String
  | [] => ""
  | i :: is => html i ++ htmlList is

end

end Inline

/-- Lines of running text as HTML; at the front of an item they may begin with the box of a task. -/
def linesHtml (refs : References) (inItem : Bool) (lines : List Line) : String :=
  Inline.htmlList (Inline.read { references := refs, inItem } lines)

/-- A cell of a table. -/
def cellHtml (refs : References) (name : String) (c : Cell) : String :=
  let style := match c.alignment with
    | .none => ""
    | .left => " style=\"text-align:left\""
    | .right => " style=\"text-align:right\""
    | .center => " style=\"text-align:center\""
  let inner := Inline.htmlList (Inline.read { references := refs, inCell := true } [c.line])
  "<" ++ name ++ style ++ ">" ++ inner ++ "</" ++ name ++ ">\n"

/-- A row of a table. -/
def rowHtml (refs : References) (name : String) (cells : List Cell) : String :=
  "<tr>\n" ++ String.join (cells.map (cellHtml refs name)) ++ "</tr>\n"

def tableHtml (refs : References) (t : Table) : String :=
  "<table>\n<thead>\n" ++ rowHtml refs "th" t.header ++ "</thead>\n" ++
    (if t.rows.isEmpty then "" else
      "<tbody>\n" ++ String.join (t.rows.map (rowHtml refs "td")) ++ "</tbody>\n") ++
    "</table>\n"

namespace Block

mutual

/-- A block as HTML; `inItem` when it is the first in an item of a list. -/
def html (refs : References) (inItem : Bool) : Block → String
  | .paragraph lines => "<p>" ++ linesHtml refs inItem lines ++ "</p>\n"
  | .plain lines => linesHtml refs inItem lines
  | .heading level anchor lines =>
    let tag := "h" ++ Text.natText level
    "<" ++ tag ++ " id=\"" ++ anchor ++ "\">" ++ linesHtml refs inItem lines ++ "</" ++ tag ++ ">\n"
  | .rule => "<hr>\n"
  | .quote blocks => "<blockquote>\n" ++ htmlList refs false blocks ++ "</blockquote>\n"
  | .code language text =>
    let lead := match language with
      | some name => " class=\"language-" ++ written name ++ "\""
      | none => ""
    "<pre><code" ++ lead ++ ">" ++ escaped text ++ "</code></pre>\n"
  | .markup closed => omitted ++ "\n" ++ (if closed then omitted ++ "\n" else "")
  | .list start items =>
    let (first, last) := match start with
      | none => ("<ul>", "</ul>")
      | some 1 => ("<ol>", "</ol>")
      | some n => ("<ol start=\"" ++ Text.natText n ++ "\">", "</ol>")
    first ++ "\n" ++ itemsHtml refs items ++ last ++ "\n"
  | .table t => tableHtml refs t

/-- Blocks after each other.  Plain text ends with its line if another block follows. -/
def htmlList (refs : References) (inItem : Bool) : List Block → String
  | [] => ""
  | b :: bs =>
    let ending := match b with
      | .plain lines => if bs.isEmpty || lines.isEmpty then "" else "\n"
      | _ => ""
    html refs inItem b ++ ending ++ htmlList refs false bs

def itemsHtml (refs : References) : List (List Block) → String
  | [] => ""
  | item :: items =>
    let lead := match item with
      | [] => ""
      | .plain _ :: _ => ""
      | _ => "\n"
    "<li>" ++ lead ++ htmlList refs true item ++ "</li>\n" ++ itemsHtml refs items

end

end Block

/-- A document as HTML. -/
def html (s : String) : String :=
  let (blocks, refs) := readBlocks s
  Block.htmlList refs false blocks

end Trellis.Markdown
