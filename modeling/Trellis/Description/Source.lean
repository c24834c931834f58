/-
Bodies as readable text, in terms of the primitives.

The text is there to be read; nothing reads it back.
-/
import Trellis.Description.Basic
import Trellis.Json.Writer

namespace Trellis.Description

/-! The primitives in whose terms a body is shown. -/

/-- What a body is made of. -/
inductive Primitive where
  | escape | text | raw | tag | control | partialCall | template | inline | scope | expression
  | content | test | otherTest | otherwise | finish | loop | each | join
deriving DecidableEq, Repr

namespace Primitive

/-- The short name and the full name of a primitive. -/
def names : Primitive → String × String
  | .escape => ("e", "Escape")
  | .text => ("t", "CreateText")
  | .raw => ("r", "CreateRaw")
  | .tag => ("h", "CreateTag")
  | .control => ("c", "CreateControl")
  | .partialCall => ("p", "Partial")
  | .template => ("tpl", "Template")
  | .inline => ("i", "Inline")
  | .scope => ("sc", "Scope")
  | .expression => ("v", "Expression")
  | .content => ("co", "ContentOption")
  | .test => ("if", "If")
  | .otherTest => ("ei", "Elif")
  | .otherwise => ("el", "Else")
  | .finish => ("fi", "Fi")
  | .loop => ("f", "For")
  | .each => ("fe", "Foreach")
  | .join => ("j", "Join")

/-- All primitives. -/
def all : List Primitive := [
  .escape, .text, .raw, .tag, .control, .partialCall, .template, .inline, .scope, .expression,
  .content, .test, .otherTest, .otherwise, .finish, .loop, .each, .join]

/-- How a primitive is referred to. -/
def reference (p : Primitive) : String := "G." ++ p.names.1

/-- How a primitive that continues another one is referred to. -/
def continuation (p : Primitive) : String := "." ++ p.names.1

end Primitive

namespace Source

/-- A slot of the table of expressions, or `null`. -/
def slot (i : Int) : String := if i == -1 then "null" else "E[" ++ Text.intText i ++ "]"

/-- A slot that may be left out. -/
def slot? : Option Nat → String
  | some i => slot i
  | none => slot (-1)

/-- The call of a primitive. -/
def call (p : Primitive) (args : List String) : String :=
  p.reference ++ "(" ++ ", ".intercalate args ++ ")"

/-- A part of a text.  A constant that cannot be written is left out. -/
def part : Part → String
  | .text s => Text.quote s
  | .value d => if Json.isWritable d then Json.text true d else ""
  | .translation text context =>
    Helper.translate.reference ++ "(" ++ Text.quote text ++ ", " ++ Text.quote context ++ ")"
  | .expr i _ => call .expression [slot i]
  | .other _ => ""

/-- A text made of parts. -/
def parts : List Part → String
  | [] => Text.quote ""
  | ps => " + ".intercalate (ps.map part)

/-- An attribute under its kind and name. -/
def attr (a : Attr) : String :=
  let (kind, v) := match a.value with
    | .markup ps => ("attr", parts ps)
    | .option ps => ("option", parts ps)
    | .bind i _ => ("bind", call .scope [slot i])
    | .event i => ("event", slot i)
    | .other kind ps => (kind, parts ps)
  Text.quote (kind ++ ":" ++ a.name) ++ ": " ++ v

/-- The attributes of an element or a call. -/
def attrs (as : List Attr) : String := "\x7b" ++ ", ".intercalate (as.map attr) ++ "\x7d"

mutual
/-- The value of a typed option. -/
def optionValue : OptionValue → String
  | .scalar _ ps => parts ps
  | .array items => "[" ++ ", ".intercalate (options items) ++ "]"
  | .object properties => "\x7b" ++ ", ".intercalate (options properties) ++ "\x7d"

/-- A typed option under its name, if it has one. -/
def option : OptionSpec → String
  | .mk name v => if name.isEmpty then optionValue v else Text.quote name ++ ": " ++ optionValue v

def options : List OptionSpec → List String
  | [] => []
  | o :: os => option o :: options os
end

/-- Content that a call passes. -/
def content (c : ContentRef) : String :=
  call .content [Text.quote c.name, "B[" ++ Text.natText c.body ++ "]"]

/-- A call with what it passes. -/
def callText (p : Primitive) (target key : String) (c : Call) : String :=
  call p ([target, Text.quote key, attrs c.attrs] ++ options c.options ++ c.contents.map content)

/-- The call of a partial. -/
def partialText (key : String) (c : Call) : Target → String
  | .inline name => callText .inline (Text.quote name) key c
  | .static name => callText .partialCall (Text.quote name) key c
  | .dynamic i _ => callText .partialCall (slot i) key c

/-- How an arm of a condition begins. -/
def armHead (first : Bool) (test : Option Nat) : String :=
  if first then Primitive.test.reference ++ "(" ++ slot? test ++ ", "
  else match test with
    | none => Primitive.otherwise.continuation ++ "("
    | some i => Primitive.otherTest.continuation ++ "(" ++ slot i ++ ", "

mutual
/-- An instruction. -/
def instruction : Instruction → String
  | .text key ps => call .text [parts ps, Text.quote key]
  | .element key name as children _ =>
    call .tag [Text.quote name, Text.quote key, attrs as, block children]
  | .component key name c => callText .control (Text.quote name) key c
  | .partialCall key target c => partialText key c target
  | .branches _ as => arms true as ++ Primitive.finish.continuation ++ "()"
  | .loop _ _ init test update children _ =>
    call .loop [slot? init, slot? test, slot? update, block children]
  | .each _ collection index iterator children _ =>
    call .each [slot collection, Text.quote index, Text.quote iterator, block children]
  | .unknown _ => ""
termination_by i => 2 * sizeOf i

/-- Instructions between brackets. -/
def block (is : List Instruction) : String := "[" ++ ", ".intercalate (instructions is) ++ "]"
termination_by 2 * sizeOf is + 1

def instructions : List Instruction → List String
  | [] => []
  | i :: is => instruction i :: instructions is
termination_by is => 2 * sizeOf is

/-- The arms of a condition. -/
def arms (first : Bool) : List Arm → String
  | [] => ""
  | .mk test children _ :: as => armHead first test ++ block children ++ ")" ++ arms false as
termination_by as => 2 * sizeOf as
end

end Source

/-- A body as readable text. -/
def Body.text (b : Body) : String :=
  let head := match b.kind with
    | .root => Primitive.template.reference ++ "(null, function(d, a, c)"
    | .template => Primitive.template.reference ++ "(" ++ Text.quote b.name ++ ", function(d, a, c)"
    | _ => Primitive.content.reference ++ "(" ++ Text.quote b.name ++ ", function(d, c)"
  head ++ "\x7b return " ++ Source.call .join [Source.block b.children] ++ "; \x7d)"

end Trellis.Description
