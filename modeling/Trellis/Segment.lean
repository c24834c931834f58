/-
Text with expressions and translations in it.

In raw text an expression stands between double braces and a translation between a brace and a
bracket.  A region ends at its first closing pair; inside an expression, quoted strings hide
closing pairs.  `Segment.split` cuts a text into segments, and `Segment.join` puts it together
again.
-/
import Trellis.Expr.Names
import Trellis.Text.Search

namespace Trellis

/-- The two kinds of region in raw text. -/
inductive Region where
  | expression | translation
deriving DecidableEq, Repr

namespace Region

/-- The region that a text opens, and what follows its opening pair. -/
def opens? : List Char → Option (Region × List Char)
  | '\x7b' :: '\x7b' :: rest => some (.expression, rest)
  | '\x7b' :: '[' :: rest => some (.translation, rest)
  | _ => none

/-- The inside of an expression up to its closing pair, and the rest after the pair.  `quote` is
the open string's quote, `escaped` says that a backslash stands before. -/
def expressionBody : Option Char → Bool → List Char → Option (List Char × List Char)
  | _, _, [] => none
  | some q, escaped, c :: cs =>
    let (quote, escaped) :=
      if escaped then (some q, false)
      else if c == '\\' then (some q, true)
      else if c == q then (none, false)
      else (some q, false)
    (expressionBody quote escaped cs).map fun (inside, rest) => (c :: inside, rest)
  | none, _, c :: cs =>
    if c == '\'' || c == '"' then
      (expressionBody (some c) false cs).map fun (inside, rest) => (c :: inside, rest)
    else
      match c, cs with
      | '\x7d', '\x7d' :: rest => some ([], rest)
      | _, _ => (expressionBody none false cs).map fun (inside, rest) => (c :: inside, rest)

/-- The inside of a translation up to its closing pair, and the rest after the pair. -/
def translationBody : List Char → Option (List Char × List Char)
  | [] => none
  | ']' :: '\x7d' :: rest => some ([], rest)
  | c :: cs => (translationBody cs).map fun (inside, rest) => (c :: inside, rest)

/-- The inside of a region after its opening pair, and the rest after its closing pair. -/
def body? : Region → List Char → Option (List Char × List Char)
  | .expression, cs => expressionBody none false cs
  | .translation, cs => translationBody cs

/-- The characters that open a region. -/
def opening : Region → List Char
  | .expression => ['\x7b', '\x7b']
  | .translation => ['\x7b', '[']

/-- The characters that close a region. -/
def closing : Region → List Char
  | .expression => ['\x7d', '\x7d']
  | .translation => [']', '\x7d']

/-- The name of a kind of region. -/
def name : Region → String
  | .expression => "expression"
  | .translation => "translation"

/-- A piece of raw text: plain characters, a closed region with its inside, or a region that is
never closed with all that follows its opening. -/
inductive Piece where
  | plain (text : List Char)
  | closed (region : Region) (inside : List Char)
  | unclosed (region : Region) (rest : List Char)

/-- Plain text in front of other pieces. -/
def consPlain (text : List Char) (ps : List Piece) : List Piece :=
  if text.isEmpty then ps else .plain text :: ps

/-- The pieces of raw text; `plain` holds the plain characters read so far, last one first. -/
def pieces : Nat → List Char → List Char → List Piece
  | 0, plain, _ => consPlain plain.reverse []
  | _ + 1, plain, [] => consPlain plain.reverse []
  | n + 1, plain, c :: cs =>
    match opens? (c :: cs) with
    | none => pieces n (c :: plain) cs
    | some (region, inner) =>
      consPlain plain.reverse <|
        match region.body? inner with
        | some (inside, rest) => .closed region inside :: pieces n [] rest
        | none => [.unclosed region inner]

/-- The pieces of raw text. -/
def split (cs : List Char) : List Piece := pieces (cs.length + 1) [] cs

end Region

/-- What a segment holds. -/
inductive Segment.Content where
  /-- plain text; `space` marks blanks split off a promoted translation -/
  | text (value : String) (space : Bool)
  /-- an expression with its untrimmed source -/
  | expression (source : String) (program : Program)
  /-- a text to translate in a context; `raw` is its source, empty when it was promoted -/
  | translation (text context raw : String) (promoted : Bool)

/-- A segment of text and its key. -/
structure Segment where
  key : String
  content : Segment.Content

namespace Segment

/-- Which kinds of segment a place accepts. -/
structure Allowed where
  text : Bool := true
  expression : Bool := true
  translation : Bool := true
deriving DecidableEq, Repr

/-- The accepted kinds in words. -/
def Allowed.describe (a : Allowed) : String :=
  let names := (if a.text then ["text"] else []) ++ (if a.expression then ["expression"] else []) ++
    (if a.translation then ["translation"] else [])
  if names.isEmpty then "nothing" else " or ".intercalate names

/-- How raw text is cut into segments. -/
structure Options where
  allowed : Allowed := {}
  /-- a text that is words only becomes a translation -/
  promoteText : Bool := false
  keyStem : String := ""
  /-- how expressions are read -/
  parse : String → Except Fault Program := Program.parse
  line : Int := 0
  column : Int := 0

/-- The translation that stands between its brackets: `context@@text` or `text`. -/
def Content.ofTranslation (raw : String) : Content :=
  match Text.cut? raw "@@" with
  | some (context, words) => .translation (Text.trim words) (Text.trim context) raw false
  | none => .translation (Text.trim raw) "" raw false

/-- The expression that stands between its braces.  A fault in it is moved to the line of the text
that it stands in. -/
def Content.ofExpression (o : Options) (source : String) : Except Fault Content :=
  if Text.isBlankText source then
    .error ((Fault.ofCode .emptyExpression none).moved o.line o.column)
  else
    match o.parse source with
    | .ok program => .ok (.expression source program)
    | .error f =>
      .error (if f.line > 0 && o.line > 0 then f.moved (o.line + f.line - 1) f.column else f)

/-- The content of a piece of raw text. -/
def Content.ofPiece (o : Options) : Region.Piece → Except Fault Content
  | .plain cs => .ok (.text (String.ofList cs) false)
  | .closed .expression inside => Content.ofExpression o (String.ofList inside)
  | .closed .translation inside => .ok (Content.ofTranslation (String.ofList inside))
  | .unclosed region rest =>
    .error ((Fault.make .unterminatedRegion [("Construct", region.name),
      ("Text", String.ofList (region.opening ++ rest))]).moved o.line o.column)

/-- Whether a place accepts a content.  Blanks are accepted everywhere. -/
def Allowed.accepts (a : Allowed) : Content → Bool
  | .text value _ => a.text || Text.isBlankText value
  | .expression _ _ => a.expression
  | .translation _ _ _ _ => a.translation

/-- The name of the kind of a content. -/
def Content.kindName : Content → String
  | .text _ _ => "text"
  | .expression _ _ => "expression"
  | .translation _ _ _ _ => "translation"

/-- Fails when a place does not accept a content. -/
def Content.check (o : Options) (c : Content) : Except Fault Unit :=
  if o.allowed.accepts c then .ok ()
  else .error ((Fault.make .segmentNotAllowed
    [("Got", c.kindName), ("Expected", o.allowed.describe)]).moved o.line o.column)

/-- Whether a text reads as words that one would translate. -/
def isTranslatable (s : String) : Bool := s.toList.any Text.isLetter

/-- A text as a translation, with the blanks around it kept as text. -/
def promote (value : String) : List Content :=
  let cs := value.toList
  let leading := cs.takeWhile Text.isBlank
  let rest := cs.dropWhile Text.isBlank
  let core := Text.trimRightChars Text.isBlank rest
  let trailing := rest.drop core.length
  (if leading.isEmpty then [] else [.text (String.ofList leading) true]) ++
  [.translation (String.ofList core) "" "" true] ++
  (if trailing.isEmpty then [] else [.text (String.ofList trailing) true])

/-- The contents after promotion, of which there is always one. -/
def settle (o : Options) (cs : List Content) : List Content :=
  match cs with
  | [] => [.text "" false]
  | [.text value _] =>
    if o.promoteText && isTranslatable value then promote value else cs
  | _ => cs

/-- Numbers contents: each key is the stem, the position and an underscore. -/
def number (stem : String) (cs : List Content) : List Segment :=
  cs.zipIdx.map fun (c, i) => ⟨stem ++ toString i ++ "_", c⟩

/-- The segments of raw text. -/
def split (o : Options) (raw : String) : Except Fault (List Segment) := do
  let contents ← (Region.split raw.toList).mapM (Content.ofPiece o)
  contents.forM (Content.check o)
  return number o.keyStem (settle o contents)

/-- The source text of a content. -/
def Content.source : Content → String
  | .text value _ => value
  | .expression source _ => "\x7b\x7b" ++ source ++ "\x7d\x7d"
  | .translation words _ raw promoted => if promoted then words else "\x7b[" ++ raw ++ "]\x7d"

/-- The raw text that segments were cut from. -/
def join (segments : List Segment) : String := String.join (segments.map (·.content.source))

/-- Whether a segment is a translation or asks for one. -/
def Content.translates : Content → Bool
  | .text _ _ => false
  | .expression _ p => (Node.program p).callsTranslation
  | .translation _ _ _ _ => true

/-- Whether one of the segments is a translation or asks for one. -/
def hasTranslations (segments : List Segment) : Bool := segments.any (·.content.translates)

/-- Whether a content is plain text. -/
def Content.isText : Content → Bool
  | .text _ _ => true
  | _ => false

/-- Whether segments hold plain text only. -/
def isStatic (segments : List Segment) : Bool := segments.all (·.content.isText)

/-- The only expression of segments that hold nothing else but blanks. -/
def single? (segments : List Segment) : Option (String × Program) :=
  let step := fun (acc : Option (Option (String × Program))) (s : Segment) =>
    match acc, s.content with
    | some none, .expression source p => some (some (source, p))
    | some found, .text value _ => if Text.isBlankText value then some found else none
    | _, _ => none
  (segments.foldl step (some none)).join

end Segment

end Trellis
