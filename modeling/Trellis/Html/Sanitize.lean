/-
Markup without what could run scripts: some elements with all they hold, handler attributes, and
script addresses.
-/
import Trellis.Html.Token
import Trellis.Text.Search
import Trellis.Text.Case

namespace Trellis.Html

/-- The names of elements that are dropped with all they hold. -/
def dropped : List String := ["script", "style", "iframe", "object", "embed"]

def isDropped (name : String) : Bool := dropped.contains name

/-- The line ends of a text made uniform. -/
def uniformLines : List Char → List Char
  | '\r' :: '\n' :: cs => '\n' :: uniformLines cs
  | '\r' :: cs => '\n' :: uniformLines cs
  | c :: cs => c :: uniformLines cs
  | [] => []

/-- A text in lower case, as far as ASCII goes. -/
def asciiLower (cs : List Char) : String := String.ofList (cs.map Char.toLower)

namespace Token

/-- The name of a tag. -/
def tagName (t : Token) : String := asciiLower t.name

/-- The attributes of a tag: names in lower case, values with their references replaced. -/
def attributes (t : Token) : List (String × String) :=
  t.attrs.map fun a =>
    (asciiLower a.name, unescape true (String.ofList (uniformLines a.value)))

/-- The text of a text token. -/
def content (t : Token) : String :=
  let cs := uniformLines t.source
  let cs := if t.clean then cs.map fun c => if c.toNat == 0 then '\ufffd' else c else cs
  if t.raw then String.ofList cs else unescape false (String.ofList cs)

/-- What a document type declaration declares. -/
def declared (t : Token) : String :=
  let body := skipSpace (uniformLines (t.source.drop 9))
  String.ofList (if body.getLast? == some '>' then body.dropLast else body)

/-- A tag written anew. -/
def tagText (t : Token) (attrs : List (String × String)) : String :=
  t.tagName ++ String.join (attrs.map fun a => " " ++ a.1 ++ "=\"" ++ escape a.2 ++ "\"")

end Token

/-- Whether an attribute can do no harm. -/
def isSafeAttr (a : String × String) : Bool :=
  let name := Text.lower a.1
  !Text.startsWith name "on" &&
    !(["href", "src", "action"].contains name &&
      Text.startsWith (Text.lower (Text.trim a.2)) "javascript:")

/-- A token written anew, without harmful attributes. -/
def Token.safeText (t : Token) : String :=
  match t.kind with
  | .text => escape t.content
  | .startTag => "<" ++ t.tagText (t.attributes.filter isSafeAttr) ++ ">"
  | .selfClosing => "<" ++ t.tagText (t.attributes.filter isSafeAttr) ++ "/>"
  | .endTag => "</" ++ t.tagText [] ++ ">"
  | .doctype => "<!DOCTYPE " ++ escape t.declared ++ ">"
  | .comment => ""

/-- The texts that are kept of tokens, `depth` dropped elements being open. -/
def keptTexts : Nat → List Token → List String
  | _, [] => []
  | depth, t :: ts =>
    match t.kind, isDropped t.tagName with
    | .startTag, true => keptTexts (depth + 1) ts
    | .endTag, true => keptTexts (depth - 1) ts
    | .selfClosing, true => keptTexts depth ts
    | .comment, _ => keptTexts depth ts
    | _, _ => if depth > 0 then keptTexts depth ts else t.safeText :: keptTexts depth ts

/-- Markup without what could run scripts. -/
def sanitize (source : String) : String := String.join (keptTexts 0 (tokenize source.toList))

end Trellis.Html
