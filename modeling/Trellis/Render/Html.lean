/-
Rendered nodes as HTML text.
-/
import Trellis.Html.Escape
import Trellis.Value.Memory

namespace Trellis.Rendered

/-- Elements without content and closing tag. -/
def isVoid (tag : String) : Bool :=
  ["area", "base", "br", "col", "embed", "hr", "img", "input", "link", "meta", "source", "track",
    "wbr"].contains tag

/-- An attribute with a blank before it. -/
def attrText (a : String × String) : String := " " ++ a.1 ++ "=\"" ++ Html.escape a.2 ++ "\""

/-- The opening tag of an element; a `keyed` one shows its key. -/
def openTag (keyed : Bool) (key tag : String) (attrs : List (String × String)) : String :=
  "<" ++ tag ++ String.join (attrs.map attrText) ++
    (if keyed && !key.isEmpty then attrText ("key", key) else "") ++ ">"

mutual
/-- The pieces of a node as HTML.  What a control made stands in its place. -/
def pieces (keyed : Bool) : Rendered → List String
  | .text _ s raw _ => [if raw then s else Html.escape s]
  | .element key tag attrs _ children _ =>
    openTag keyed key tag attrs ::
      (if isVoid tag then [] else piecesList keyed children ++ ["</" ++ tag ++ ">"])
  | .control _ _ _ _ _ _ children _ => piecesList keyed children

def piecesList (keyed : Bool) : List Rendered → List String
  | [] => []
  | n :: ns => pieces keyed n ++ piecesList keyed ns
end

/-- Nodes as HTML. -/
def htmlList (keyed : Bool) (ns : List Rendered) : String := String.join (piecesList keyed ns)

/-- Marks a node as made by a loop. -/
def inLoop : Rendered → Rendered
  | .text key s raw _ => .text key s raw true
  | .element key tag attrs events children _ => .element key tag attrs events children true
  | .control key name options attrs bindings events children _ =>
    .control key name options attrs bindings events children true

mutual
/-- The text of a node and of all below it. -/
def textContent : Rendered → String
  | .text _ s _ _ => s
  | .element _ _ _ _ children _ => textContents children
  | .control _ _ _ _ _ _ children _ => textContents children

def textContents : List Rendered → String
  | [] => ""
  | n :: ns => textContent n ++ textContents ns
end

end Trellis.Rendered
