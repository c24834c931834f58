/-
What can be done with rendered nodes: firing their events, writing through their bindings,
rendering the content they were given.
-/
import Trellis.Eval
import Trellis.Value.Methods

namespace Trellis

/-- Fires an event.  The arguments of the event come before those of the template. -/
def RenderedEvent.fire (m : Machine) (e : RenderedEvent) (args : List Value) : Run Value := do
  match e.handler with
  | none => throw (Fault.make .notAFunction [("Name", e.source)])
  | some h =>
    let owner ← match h.owner with
      | some owner => Eval.expr m e.env owner
      | none => pure e.env.caller
    let more ← Eval.exprs m e.env h.args
    owner.callMethod m [h.name] (args ++ more)

/-- Writes a value through a binding. -/
def RenderedBinding.update (m : Machine) (b : RenderedBinding) (v : Value) : Run Unit :=
  match b.target with
  | some target => Eval.write m b.env target v
  | none => throw (Fault.make .writeToNothing [("Value", "undefined"), ("Property", b.name)])

namespace Rendered

/-- A node's own events. -/
def events : Rendered → List RenderedEvent
  | .text _ _ _ _ => []
  | .element _ _ _ es _ _ => es
  | .control _ _ _ _ _ es _ _ => es

/-- A node's own bindings. -/
def bindings : Rendered → List RenderedBinding
  | .control _ _ _ _ bs _ _ _ => bs
  | _ => []

/-- The content that a node was given, by where it is kept. -/
def contents : Rendered → List Nat
  | .control _ _ options _ _ _ _ _ => options.filterMap fun f =>
      match f.2 with
      | .content at_ => some at_
      | _ => none
  | _ => []

mutual
/-- A node and all below it, in document order. -/
def preOrder : Rendered → List Rendered
  | .text key s raw loop => [.text key s raw loop]
  | .element key tag attrs es children loop =>
    .element key tag attrs es children loop :: preOrderList children
  | .control key name options attrs bs es children loop =>
    .control key name options attrs bs es children loop :: preOrderList children

def preOrderList : List Rendered → List Rendered
  | [] => []
  | n :: ns => preOrder n ++ preOrderList ns
end

/-- A node without what stands below it, as one line. -/
def headLine : Rendered → String
  | .text key s raw _ => "text " ++ Text.quote s ++ (if raw then " raw" else "") ++ keyText key
  | .element key tag attrs es _ _ =>
    "<" ++ tag ++ ">" ++ String.join (attrs.map fun a => " " ++ a.1 ++ "=" ++ Text.quote a.2) ++
      String.join (es.map fun e =>
        " on:" ++ e.name ++ "=" ++ (e.handler.map (·.name)).getD "") ++ keyText key
  | .control key name _ _ _ _ _ _ => "control " ++ name ++ keyText key
where
  keyText (key : String) : String := if key.isEmpty then "" else " key=" ++ key

/-- The line of a node, indented. -/
def outlineHead (depth : Nat) (n : Rendered) : String :=
  String.ofList (List.replicate (2 * depth) ' ') ++ n.headLine ++ "\n"

mutual
/-- A node and all below it, one line each, indented by depth. -/
def outline (depth : Nat) : Rendered → String
  | .text key s raw loop => outlineHead depth (.text key s raw loop)
  | .element key tag attrs es children loop =>
    outlineHead depth (.element key tag attrs es [] loop) ++ outlineList (depth + 1) children
  | .control key name options attrs bs es children loop =>
    outlineHead depth (.control key name options attrs bs es [] loop) ++
      outlineList (depth + 1) children

def outlineList (depth : Nat) : List Rendered → String
  | [] => ""
  | n :: ns => outline depth n ++ outlineList depth ns
end

end Rendered

end Trellis
