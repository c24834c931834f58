/-
Segments, template trees and their containers as documents.
-/
import Trellis.Annotated
import Trellis.Container.Basic
import Trellis.Inspect.Basic
import Trellis.Markup.Node

namespace Trellis.Inspect

/-- A segment of text. -/
def segment (s : Segment) : Datum :=
  let more := match s.content with
    | .text value space => [("kind", .text "text"), ("value", .text value), ("space", .bool space)]
    | .expression source p =>
      [("kind", .text "expression"), ("source", .text source), ("program", .text p.text)]
    | .translation text context raw promoted =>
      [("kind", .text "translation"), ("text", .text text), ("context", .text context),
        ("raw", .text raw), ("promoted", .bool promoted)]
  .record (("key", .text s.key) :: more)

def segments (ss : List Segment) : Datum := .list (ss.map segment)

/-- What a text is split into. -/
def splitText (o : Segment.Options) (text : String) : Except Fault Datum := do
  let ss ← Segment.split o text
  return .record [("segments", segments ss), ("join", .text (Segment.join ss)),
    ("translations", .bool (Segment.hasTranslations ss)), ("static", .bool (Segment.isStatic ss)),
    ("single", optText ((Segment.single? ss).map (·.1))),
    ("translatable", .bool (Segment.isTranslatable text))]

/-- The text of a program, or null. -/
def programText (p : Option Program) : Datum := optText (p.map Program.text)

open Markup

/-- What every node has. -/
def info (m : Markup.Meta) : List (String × Datum) := [
  ("key", .text m.key), ("line", nat m.line), ("column", nat m.column), ("root", .bool m.root),
  ("container", optNat m.container)]

/-- An attribute. -/
def attrOf (a : Attribute) : Datum := .record [
  ("name", .text a.name), ("kind", .text a.kind.name), ("raw", .text a.raw),
  ("line", nat a.line), ("column", nat a.column),
  match a.value with
  | .program p => ("program", .text p.text)
  | .segments ss => ("segments", segments ss)]

def attributes (as : List Attribute) : Datum := .list (as.map attrOf)

mutual
/-- A typed value. -/
def typedValue : TypedValue → Datum
  | .scalar t ss => .record [("type", .text t.name), ("segments", segments ss)]
  | .array items => .record [("type", .text "Array"), ("items", .list (typedValues items))]
  | .object ps => .record [("type", .text "Object"), ("properties", .list (typedOptions ps))]

def typedValues : List TypedValue → List Datum
  | [] => []
  | v :: vs => typedValue v :: typedValues vs

/-- Typed options. -/
def typedOptions : List TypedOption → List Datum
  | [] => []
  | .mk i name v :: os =>
    .record (info i ++ [("name", .text name), ("value", typedValue v)]) :: typedOptions os
end

/-- How a partial finds its template: the mode, a name, an expression. -/
def target : PartialTarget → List (String × Datum)
  | .inline name =>
    [("mode", .text "inline"), ("template", .text name), ("expression", .null)]
  | .static path => [("mode", .text "static"), ("template", .text path), ("expression", .null)]
  | .dynamic p =>
    [("mode", .text "dynamic"), ("template", .text ""), ("expression", .text p.text)]

/-- A node of a kind. -/
def markupNode (kind : String) (i : Markup.Meta) (more : List (String × Datum)) : Datum :=
  .record (("node", .text kind) :: info i ++ more)

mutual
/-- A node of a template. -/
def node : Markup.Node → Datum
  | .text i ss => markupNode "text" i [("segments", segments ss)]
  | .element i name attrs children void =>
    markupNode "element" i [("name", .text name), ("attrs", attributes attrs),
      ("children", .list (nodes children)), ("void", .bool void)]
  | .component i name attrs options cs =>
    markupNode "component" i [("name", .text name), ("attrs", attributes attrs),
      ("options", .list (typedOptions options)), ("contents", .list (contents cs))]
  | .partialCall i t attrs options cs =>
    markupNode "partial" i (target t ++ [("attrs", attributes attrs),
      ("options", .list (typedOptions options)), ("contents", .list (contents cs))])
  | .template i name children =>
    markupNode "template" i [("name", .text name), ("children", .list (nodes children))]
  | .branches i test children others =>
    markupNode "if" i ([("test", .text test.text), ("children", .list (nodes children))] ++
      branches others)
  | .loop i init test update names children =>
    markupNode "for" i [("init", programText init), ("test", .text test.text),
      ("update", programText update), ("names", texts names), ("children", .list (nodes children))]
  | .each i index iterator collection children =>
    markupNode "foreach" i [("index", .text index), ("iterator", .text iterator),
      ("collection", .text collection.text), ("names", texts (eachNames index iterator)),
      ("children", .list (nodes children))]

def nodes : List Markup.Node → List Datum
  | [] => []
  | n :: ns => node n :: nodes ns

/-- The other branches of a condition, each inside the one before it. -/
def branches : List Branch → List (String × Datum)
  | [] => []
  | .mk i test children :: bs =>
    [("else", markupNode "else" i ([("test", programText test),
      ("children", .list (nodes children))] ++ branches bs))]

def contents : List Content → List Datum
  | [] => []
  | .mk i name children :: cs =>
    markupNode "content" i [("name", .text name), ("children", .list (nodes children))] ::
      contents cs
end

end Trellis.Inspect

namespace Trellis.Inspect

open Container (Entry Stored)

/-- A registration of a program. -/
def entry (e : Entry) : Datum := .record [
  ("program", .text e.stored.text), ("type", .text e.role.name),
  ("operation", .text e.operation.name), ("synthetic", .bool e.synthetic),
  ("origin", nat e.origin), ("processing", nat e.processing)]

/-- What a container has. -/
def containerFields (c : Container) : List (String × Datum) := [
  ("id", nat c.id), ("parent", optNat c.parent), ("type", .text c.kind.name),
  ("name", .text c.name), ("children", .list (c.children.map nat)),
  ("isolated", texts c.isolated), ("reactive", texts c.reactive),
  ("programs", .list (c.programs.map entry))]

def ints (xs : List Int) : Datum := .list (xs.map num)

/-- What a container watches: programs, slots, and the slots as runs. -/
def watched (ws : List (Nat × Stored)) : Datum :=
  let slots := ws.map fun w => (w.1 : Int)
  .record [("programs", texts (ws.map (·.2.text))), ("slots", ints slots),
    ("ranges", .list ((Container.ranges slots).map ints))]

/-- All containers of an arena. -/
def containers (a : Arena) : Datum :=
  .list (a.containers.toList.map fun c => .record (containerFields c))

/-- A text to translate. -/
def translationKey (k : TranslationKey) : Datum := texts [k.type, k.module, k.text, k.context]

/-- An annotated template; its nodes are left out unless the `tree` is wanted. -/
def annotated (a : Annotated Unit) (tree : Bool) : Datum :=
  let step := fun (acc : Arena × List Datum) (c : Container) =>
    match (Container.Work.watched c.id).run acc.1 with
    | (.ok ws, arena) =>
      (arena, .record (containerFields c ++ [("internals", watched ws)]) :: acc.2)
    | (.error _, arena) => (arena, acc.2)
  let (arena, cs) := a.arena.containers.toList.foldl step (a.arena, [])
  .record ([
    ("containers", .list cs.reverse), ("table", texts arena.table.slots),
    ("childNames", texts a.childNames), ("reactive", texts a.reactive),
    ("templates", texts (a.templates.map (·.1))),
    ("templateContainers", .record (a.templates.map fun (n, t) => (n, nat t))),
    ("translations", .bool a.manifest.translates),
    ("dependencies", texts a.manifest.paths),
    ("keys", .list (a.manifest.translations.map translationKey))] ++
    (if tree then [("nodes", .list (nodes a.nodes))] else []))

end Trellis.Inspect
