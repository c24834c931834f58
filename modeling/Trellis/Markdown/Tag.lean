/-
Raw markup in Markdown: tags, comments, instructions, declarations and sections of character data.
-/
import Trellis.Markdown.Cursor
import Trellis.Text.Search

namespace Trellis.Markdown

/-- The rest after a piece of text. -/
def after? (piece : String) (cs : List Char) : Option (List Char) := Text.dropPiece? piece.toList cs

/-- The rest after the first occurrence of a piece of text. -/
def past? (piece : String) (cs : List Char) : Option (List Char) :=
  (Text.cutChars piece.toList cs).map (·.2)

/-- A blank inside a tag. -/
def isTagSpace (c : Char) : Bool := c == ' ' || c == '\t' || c == '\r' || c == '\n'

/-- The rest after a quoted or bare value of an attribute. -/
def attributeValue? (cs : List Char) : Option (List Char) :=
  match cs with
  | '"' :: rest => past? "\"" rest
  | '\x27' :: rest => past? "\x27" rest
  | _ =>
    let isBare := fun (c : Char) => c.toNat > 32 && !"\"\x27=<>\x60".toList.contains c
    if cs.head?.any isBare then some (cs.dropWhile isBare) else none

/-- The rest after an attribute and the blanks before it. -/
def attribute? (cs : List Char) : Option (List Char) :=
  match cs.dropWhile isTagSpace with
  | c :: more =>
    if cs.head?.any isTagSpace && (c.isAlpha || c == '_' || c == ':') then
      let after := more.dropWhile fun c => c.isAlphanum || "_:.-".toList.contains c
      match after.dropWhile isTagSpace with
      | '=' :: value => some ((attributeValue? (value.dropWhile isTagSpace)).getD after)
      | _ => some after
    else none
  | [] => none

/-- The rest after as many attributes as follow. -/
def afterAttributes : Nat → List Char → List Char
  | 0, cs => cs
  | n + 1, cs =>
    match attribute? cs with
    | some rest => afterAttributes n rest
    | none => cs

/-- The name of an element and the rest. -/
def tagName? (cs : List Char) : Option (List Char × List Char) :=
  let isName := fun (c : Char) => c.isAlphanum || c == '-'
  if cs.head?.any Char.isAlpha then some (cs.takeWhile isName, cs.dropWhile isName) else none

/-- The rest after `>` or `/>`. -/
def tagClose? (cs : List Char) : Option (List Char) :=
  match cs with
  | '>' :: rest => some rest
  | '/' :: '>' :: rest => some rest
  | _ => none

/-- The rest after an opening tag, after `<`. -/
def openTag? (cs : List Char) : Option (List Char) :=
  (tagName? cs).bind fun (_, rest) =>
    tagClose? ((afterAttributes (rest.length + 1) rest).dropWhile isTagSpace)

/-- The rest after a closing tag, after `</`. -/
def closeTag? (cs : List Char) : Option (List Char) :=
  (tagName? cs).bind fun (_, rest) =>
    match rest.dropWhile isTagSpace with
    | '>' :: after => some after
    | _ => none

/-- The rest after raw markup in running text. -/
def rawMarkup? (cs : List Char) : Option (List Char) :=
  match cs with
  | '<' :: '/' :: rest => closeTag? rest
  | '<' :: '?' :: _ => past? "?>" cs
  | '<' :: '!' :: rest =>
    match rest with
    | '-' :: '-' :: body =>
      after? ">" body <|> after? "->" body <|> past? "-->" body
    | c :: _ =>
      if 'A' ≤ c && c ≤ 'Z' then past? ">" cs
      else if (after? "[CDATA[" rest).isSome then past? "]]>" cs
      else none
    | [] => none
  | '<' :: rest => openTag? rest
  | _ => none

/-! ## Blocks of markup -/

/-- What a block of markup ends with. -/
inductive MarkupEnd where
  /-- a closing tag of an element whose text is no markup -/
  | rawText
  | piece (p : String)
  | blankLine

/-- The names of elements that begin a block of markup. -/
def blockNames : List String := Text.words
  "address article aside base basefont blockquote body caption center col colgroup dd details dialog
   dir div dl dt fieldset figcaption figure footer form frame frameset h1 h2 h3 h4 h5 h6 head header
   hr html iframe legend li link main menu menuitem meta nav noframes ol optgroup option p param
   search section summary table tbody td tfoot th thead title tr track ul"

/-- The elements whose text is no markup. -/
def rawTextNames : List String := ["script", "pre", "style", "textarea"]

/-- Whether the rest of a line after the name of an element lets it begin a block. -/
def beginsBlock (isGap : Char → Bool) (rest : List Char) : Bool :=
  rest.isEmpty || rest == ['\n'] || rest == ['\r', '\n'] || rest.head?.any isGap ||
    (tagClose? rest).isSome

/-- Whether a line holds one whole tag, after its name. -/
def isWholeTag (rest : List Char) : Bool :=
  match tagClose? ((afterAttributes (rest.length + 1) rest).dropWhile (· == ' ')) with
  | some after =>
    let after := after.dropWhile (· == ' ')
    after.isEmpty || after == ['\n'] || after == ['\r', '\n']
  | none => false

/-- What ends the block of markup that begins with a tag, after `<`. -/
def tagBlock? (inParagraph : Bool) (rest : List Char) : Option MarkupEnd := do
  let closing := rest.head? == some '/'
  let body := if closing then (rest.drop 1).dropWhile (· == ' ') else rest
  let (name, after) ← tagName? body
  let lower := String.ofList (name.map Char.toLower)
  let bare := closing && body.length + 1 == rest.length
  let attributes := (afterAttributes (after.length + 1) after).length != after.length
  let verbatim := ["script", "style", "pre"].contains lower
  if blockNames.contains lower && (isWholeTag after || beginsBlock (· == ' ') after) then
    return .blankLine
  else if isWholeTag after && !inParagraph && !(bare && attributes) && !verbatim then
    return .blankLine
  else none

/-- What ends the block of markup that begins with a line, which has at most three blanks at its
front. -/
def markupBlock? (inParagraph : Bool) (line : List Char) : Option MarkupEnd :=
  match line.dropWhile (· == ' ') with
  | '<' :: rest =>
    let isGap := fun (c : Char) => isTagSpace c || c.toNat == 12
    let raw := (tagName? rest).any fun (name, after) =>
      rawTextNames.contains (String.ofList (name.map Char.toLower)) && beginsBlock isGap after
    if raw then some .rawText
    else if (after? "!--" rest).isSome then some (.piece "-->")
    else if (after? "?" rest).isSome then some (.piece "?>")
    else if rest.head? == some '!' && (rest.drop 1).head?.any (fun c => 'A' ≤ c && c ≤ 'Z') then
      some (.piece ">")
    else if (after? "![CDATA[" rest).isSome then some (.piece "]]>")
    else tagBlock? inParagraph rest
  | _ => none

/-- Whether a line holds what ends a block of markup. -/
def MarkupEnd.isIn (line : List Char) : MarkupEnd → Bool
  | .rawText => rawTextNames.any fun n => (past? ("</" ++ n ++ ">") (line.map Char.toLower)).isSome
  | .piece p => (past? p line).isSome
  | .blankLine => isBlankLine line

end Trellis.Markdown
