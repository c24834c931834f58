/-
The written form of descriptions: a document, and the line that names one of its bodies.

Fields that say nothing are left out.  What has no children, no dependencies or no path is `null`
there.
-/
import Trellis.Description.Basic
import Trellis.Json.Writer

namespace Trellis.Description

namespace Document

/-- A whole number. -/
def int (n : Int) : Datum := .whole n

/-- A slot, or `-1`. -/
def slot? : Option Nat → Datum
  | some i => int i
  | none => int (-1)

/-- Texts. -/
def texts (xs : List String) : Datum := .list (xs.map .text)

/-- A list that is `null` when it is empty. -/
def listOrNull : List Datum → Datum
  | [] => .null
  | xs => .list xs

/-- A field that is left out when its text is empty. -/
def textField (name s : String) : List (String × Datum) :=
  if s.isEmpty then [] else [(name, .text s)]

/-- A field that is left out when its list is empty. -/
def listField (name : String) (xs : List Datum) : List (String × Datum) :=
  if xs.isEmpty then [] else [(name, .list xs)]

/-- A field that is left out when its number is zero. -/
def intField (name : String) (n : Int) : List (String × Datum) :=
  if n == 0 then [] else [(name, int n)]

/-- A field that is left out when it is false. -/
def flagField (name : String) (b : Bool) : List (String × Datum) :=
  if b then [(name, .bool true)] else []

/-- The number of a slot that may be left out. -/
def slotNumber : Option Nat → Int
  | some i => i
  | none => -1

/-- A part of a text. -/
def part : Part → Datum
  | .text s => .record ([("kind", .text "text")] ++ textField "text" s ++ [("value", .null)])
  | .value d => .record [("kind", .text "value"), ("value", d)]
  | .expr i trusted =>
    .record ([("kind", .text "expr"), ("value", .null)] ++ intField "expr" i ++
      flagField "unsafe" trusted)
  | .translation text context =>
    .record ([("kind", .text "rk")] ++ textField "text" text ++ textField "context" context ++
      [("value", .null)])
  | .other kind => .record [("kind", .text kind), ("value", .null)]

/-- What a binding is about. -/
def binding (b : Binding) : Datum := .record [
  ("fieldName", .text b.field), ("fullPropName", .text b.target),
  ("propPath", (b.path.map texts).getD .null), ("oneWay", .bool b.oneWay),
  ("direction", .text b.direction), ("hasDefault", .bool b.hasDefault)]

/-- An attribute. -/
def attr (a : Attr) : Datum :=
  .record (("name", .text a.name) :: match a.value with
    | .markup ps => ("kind", .text "attr") :: listField "segments" (ps.map part)
    | .option ps => ("kind", .text "option") :: listField "segments" (ps.map part)
    | .bind i b =>
      ("kind", .text "bind") :: intField "expr" i ++
        (b.map fun b => ("binding", binding b)).toList
    | .event i => ("kind", .text "event") :: intField "expr" i
    | .other kind ps => ("kind", .text kind) :: listField "segments" (ps.map part))

mutual
/-- The fields of the value of a typed option. -/
def optionFields : OptionValue → List (String × Datum)
  | .scalar type ps => ("type", .text type) :: listField "segments" (ps.map part)
  | .array items => ("type", .text "Array") :: listField "items" (options items)
  | .object properties => ("type", .text "Object") :: listField "properties" (options properties)

/-- A typed option. -/
def option : OptionSpec → Datum
  | .mk name v => .record (textField "name" name ++ optionFields v)

def options : List OptionSpec → List Datum
  | [] => []
  | o :: os => option o :: options os
end

/-- Content that a call passes. -/
def content (c : ContentRef) : Datum := .record [("name", .text c.name), ("body", int c.body)]

/-- How a partial finds its template: its name, the mode and the slot. -/
def target : Target → String × String × Int
  | .inline name => (name, "inline", -1)
  | .static name => (name, "static", -1)
  | .dynamic i name => (name, "dynamic", i)

/-- The fields of every instruction that come first. -/
def head (op key name : String) : List (String × Datum) :=
  [("op", .text op), ("key", .text key)] ++ textField "name" name

mutual
/-- An instruction. -/
def instruction : Instruction → Datum
  | .text key ps =>
    .record (head "text" key "" ++ listField "segments" (ps.map part) ++ [("internal", int (-1))])
  | .element key name as children void =>
    .record (head "element" key name ++ listField "attrs" (as.map attr) ++
      listField "children" (instructions children) ++ flagField "void" void ++
      [("internal", int (-1))])
  | .component key name c =>
    .record (head "component" key name ++ listField "attrs" (c.attrs.map attr) ++
      listField "options" (options c.options) ++ listField "contents" (c.contents.map content) ++
      [("internal", slot? c.watch)])
  | .partialCall key t c =>
    .record (head "partial" key (target t).1 ++ listField "attrs" (c.attrs.map attr) ++
      [("mode", .text (target t).2.1)] ++ intField "target" (target t).2.2 ++
      listField "options" (options c.options) ++ listField "contents" (c.contents.map content) ++
      [("internal", slot? c.watch)])
  | .branches key as =>
    .record (head "if" key "" ++ listField "branches" (arms as) ++ [("internal", int (-1))])
  | .loop key names init test update children watch =>
    .record (head "for" key "" ++ listField "children" (instructions children) ++
      intField "init" (slotNumber init) ++ intField "test" (slotNumber test) ++
      intField "update" (slotNumber update) ++ listField "names" (names.map .text) ++
      [("internal", slot? watch)])
  | .each key collection index iterator children watch =>
    .record (head "foreach" key "" ++ listField "children" (instructions children) ++
      intField "collection" collection ++ textField "index" index ++
      textField "iterator" iterator ++ [("internal", slot? watch)])
  | .unknown op => .record (head op "" "" ++ [("internal", int (-1))])

def instructions : List Instruction → List Datum
  | [] => []
  | i :: is => instruction i :: instructions is

/-- The arms of a condition. -/
def arms : List Arm → List Datum
  | [] => []
  | .mk test children watch :: as =>
    .record [("test", slot? test), ("children", listOrNull (instructions children)),
      ("internal", slot? watch)] :: arms as
end

/-- A body. -/
def body (b : Body) : Datum :=
  .record ([("kind", .text b.kind.name)] ++ textField "name" b.name ++
    textField "source" b.source ++
    [("children", listOrNull (instructions b.children)), ("internal", slot? b.watch)])

/-- An entry of the table of expressions. -/
def expression (e : Expression) : Datum :=
  .record ([("source", .text e.source), ("body", .text e.body), ("flags", int e.flags.code)] ++
    flagField "bind" e.bind ++ flagField "event" e.event)

/-- A text to translate. -/
def translation (t : String × String) : Datum :=
  .record ([("text", .text t.1)] ++ textField "context" t.2)

/-- Runs of slots. -/
def runs (rs : List (List Int)) : Datum := .list (rs.map fun r => .list (r.map int))

end Document

open Document in
/-- A description as a document. -/
def document (d : Description) : Datum :=
  .record ([("version", int version), ("module", .text d.module),
    ("dependencies", listOrNull (d.dependencies.map .text)),
    ("bodies", .list (d.bodies.toList.map body))] ++
    listField "reactiveProps" (d.reactive.map .text) ++
    listField "expressions" (d.expressions.toList.map expression) ++
    listField "internals" (d.watches.toList.map runs) ++
    listField "childNames" (d.childNames.map .text) ++
    listField "translationKeys" (d.translations.map translation) ++
    listField "symbols" (d.symbols.map .text))

/-- The document of a description; there is none when a constant in it cannot be written. -/
def document? (d : Description) : Option Datum :=
  if Json.isWritable d.document then some d.document else none

/-- What a line that names a body starts with. -/
def lineMark : String := "CONTENT_OPTION,"

/-- The fault for a written form that is not one, with the reason. -/
def malformed (reason : String) : Fault := Fault.make .malformedDescription [("Reason", reason)]

end Trellis.Description
