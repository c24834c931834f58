/-
Compiled expressions: the text in which an expression is kept in a description, what it depends
on, and whether it is constant.

The text uses short names: `d`, `c` and `f` for the data, the context and the caller, `M.g`,
`M.sp`, … for the helpers, `S[i]` for a string constant.  It is there to be read; evaluation works
on the expression itself.
-/
import Trellis.Expr.Names
import Trellis.Fault.Closest
import Trellis.Text.Decimal
import Trellis.Text.Quoted

/-! What a compiled expression depends on besides the data it reads. -/

namespace Trellis

/-- What an expression depends on. -/
structure Flags where
  /-- it reads `this` -/
  self : Bool := false
  /-- it calls a function by its bare name -/
  caller : Bool := false
  /-- it reads the ambient context -/
  context : Bool := false
  /-- it reads the named children -/
  children : Bool := false
  /-- it uses a helper -/
  helpers : Bool := false
  /-- it asks for a translation -/
  translation : Bool := false
  /-- it logs what it sees -/
  debug : Bool := false
  /-- it makes text that is not escaped -/
  rawText : Bool := false
deriving DecidableEq, Repr

namespace Flags

/-- What two expressions depend on together. -/
def union (a b : Flags) : Flags where
  self := a.self || b.self
  caller := a.caller || b.caller
  context := a.context || b.context
  children := a.children || b.children
  helpers := a.helpers || b.helpers
  translation := a.translation || b.translation
  debug := a.debug || b.debug
  rawText := a.rawText || b.rawText

instance : Union Flags := ⟨union⟩

/-- What several expressions depend on together. -/
def unions (fs : List Flags) : Flags := fs.foldl (· ∪ ·) {}

/-- The flags in the order of their bits, with their names. -/
def bits (f : Flags) : List (Bool × String) := [
  (f.self, "self"), (f.caller, "funcContext"), (f.context, "context"), (f.children, "children"),
  (f.helpers, "methods"), (f.translation, "translation"), (f.debug, "debug"),
  (f.rawText, "unsafeHTML")]

/-- The flags as a number, the first flag being the lowest bit. -/
def code (f : Flags) : Nat := f.bits.foldr (fun b n => 2 * n + (if b.1 then 1 else 0)) 0

/-- The flags with a given number. -/
def ofCode (n : Nat) : Flags :=
  ⟨n.testBit 0, n.testBit 1, n.testBit 2, n.testBit 3, n.testBit 4, n.testBit 5, n.testBit 6,
    n.testBit 7⟩

/-- The names of the flags that are set. -/
def text (f : Flags) : String :=
  match f.bits.filterMap fun b => if b.1 then some b.2 else none with
  | [] => "none"
  | names => "|".intercalate names

/-- Whether an expression needs more than the data, so that it is kept as a function. -/
def isStructural (f : Flags) : Bool :=
  f.self || f.caller || f.context || f.children || f.helpers || f.translation || f.debug

/-- What an expression that is compiled on its own and referred to passes on. -/
def carried (f : Flags) : Flags := { translation := f.translation, debug := f.debug }

end Flags

end Trellis

namespace Trellis

/-! String constants, kept once each. -/

/-- The string constants of a template; a constant is known by its position. -/
structure Symbols where
  values : List String := []
deriving DecidableEq, Repr

namespace Symbols

/-- The position of a string, which is added if it is new. -/
def intern (t : Symbols) (s : String) : Nat × Symbols :=
  match t.values.idxOf? s with
  | some i => (i, t)
  | none => (t.values.length, ⟨t.values ++ [s]⟩)

/-- How the string at a position is referred to. -/
def reference (i : Nat) : String := "S[" ++ Text.natText i ++ "]"

end Symbols

/-- The helpers that compiled texts refer to. -/
inductive Helper where
  | sanitize | get | set | decorate | call | callMethod | resource | translate | debug
deriving DecidableEq, Repr

namespace Helper

/-- The short name and the full name of a helper. -/
def names : Helper → String × String
  | .sanitize => ("s", "Sanitize")
  | .get => ("g", "Get")
  | .set => ("sp", "Set")
  | .decorate => ("d", "Decorate")
  | .call => ("c", "Call")
  | .callMethod => ("c2", "Call2")
  | .resource => ("u", "ResourceURL")
  | .translate => ("rk", "Translate")
  | .debug => ("dg", "Debug")

/-- All helpers. -/
def all : List Helper :=
  [.sanitize, .get, .set, .decorate, .call, .callMethod, .resource, .translate, .debug]

/-- How a helper is referred to. -/
def reference (h : Helper) : String := "M." ++ h.names.1

end Helper

/-- The functions that an expression may call without anyone defining them. -/
inductive Intrinsic where
  | translate | debug | rawText | resource
deriving DecidableEq, Repr

namespace Intrinsic

def name : Intrinsic → String
  | .translate => translationFunction
  | .debug => "debug"
  | .rawText => "__setHTMLUnsafe"
  | .resource => "resourceUrl"

/-- The intrinsic function with a name. -/
def ofName? (name : String) : Option Intrinsic :=
  [translate, debug, rawText, resource].find? (·.name == name)

end Intrinsic

/-- Decorators that mark a binding and change no value. -/
def isBindingMark (name : String) : Bool := name == "bind" || name == "mutable"

namespace Code

/-- How expressions are compiled: which decorators there are, when that is checked, and whether
string constants are kept in the table of symbols. -/
structure Options where
  decorators : Option (List String) := none
  interned : Bool := false

/-- The compiled form of an expression. -/
structure Piece where
  text : String
  flags : Flags := {}
  constant : Bool := false

/-- The compiled form of what can be assigned to. -/
inductive Place where
  | name (name : String)
  | property (owner key : Piece)

/-- Compiling adds symbols, also where it fails. -/
abbrev Compile := ExceptT Fault (StateM Symbols)

/-- The fault for a decorator that nobody knows. -/
def unknownDecorator (name : String) (span : Span) (known : List String) : Fault :=
  ((Fault.make .unknownDecorator [("Name", name)]).moved span.startLine span.startColumn).suggesting
    name known

/-- The fault for an expression where none of its kind may stand. -/
def unknownNode (e : Expr) : Fault :=
  (Fault.make .unknownNode [("Type", (Node.expr e).kindName)]).moved e.span.startLine
    e.span.startColumn

/-- Texts joined between brackets. -/
def bracketed (texts : List String) : String := "[" ++ ", ".intercalate texts ++ "]"

/-- A path between brackets. -/
def pathText (path : List String) : String := bracketed (path.map Text.quote)

/-- The call of a helper. -/
def helperCall (h : Helper) (args : List String) : String :=
  h.reference ++ "(" ++ ", ".intercalate args ++ ")"

/-- What a list of expressions depends on. -/
def flagsOf (ps : List Piece) : Flags := Flags.unions (ps.map (·.flags))

/-- The texts of compiled expressions. -/
def textsOf (ps : List Piece) : List String := ps.map (·.text)

/-- A fixed property name as a key. -/
def fixedKey (name : String) : Piece := { text := Text.quote name, constant := true }

/-- A name that is read. -/
def identifier (name : String) : Piece :=
  match name with
  | "undefined" => { text := "undefined", constant := true }
  | "context" => { text := "c.context", flags := { context := true } }
  | "_children" => { text := "c.children", flags := { children := true } }
  | _ => { text := helperCall .get ["d", pathText [name]] }

/-- A fixed path that is read.  The ambient context and the named children have roots of their
own. -/
def dataPath (path : List String) : Piece :=
  match path with
  | "context" :: rest =>
    { text := helperCall .get ["c.context", pathText rest], flags := { context := true } }
  | "_children" :: rest =>
    { text := helperCall .get ["c.children", pathText rest], flags := { children := true } }
  | _ => { text := helperCall .get ["d", pathText path] }

/-- A property that is read. -/
def propertyPiece (owner key : Piece) : Piece :=
  { text := helperCall .get [owner.text, bracketed [key.text]], flags := owner.flags ∪ key.flags }

/-- The names along a fixed path from `this`. -/
def thisPath? : Expr → Option (List String)
  | .member _ (.this _) _ name => some [name]
  | .index _ (.this _) (.lit _ (.string name _)) => some [name]
  | .member _ base _ name => (thisPath? base).map (· ++ [name])
  | .index _ base (.lit _ (.string name _)) => (thisPath? base).map (· ++ [name])
  | _ => none

/-- A fixed path from the data or from `this` that is read. -/
def pathPiece? (e : Expr) : Option Piece :=
  match e.path? with
  | some path => some (dataPath path)
  | none =>
    (thisPath? e).map fun path =>
      { text := helperCall .get ["this", pathText path], flags := { self := true } }

/-- The call of an intrinsic function. -/
def intrinsicCall (i : Intrinsic) (args : List Piece) : Piece :=
  let flags := flagsOf args
  match i with
  | .translate =>
    { text := helperCall .translate (textsOf args), flags := flags ∪ { translation := true } }
  | .debug => { text := helperCall .debug ["d"], flags := flags ∪ { debug := true } }
  | .rawText =>
    { text := i.name ++ "(" ++ ", ".intercalate (textsOf args) ++ ")"
      flags := flags ∪ { rawText := true } }
  | .resource =>
    { text := helperCall .resource (textsOf args), flags := flags ∪ { helpers := true } }

/-- The call of a function by its name. -/
def bareCall (name : String) (args : List Piece) : Piece :=
  match Intrinsic.ofName? name with
  | some i => intrinsicCall i args
  | none =>
    let fn := identifier name
    { text := helperCall .call ["f", fn.text, bracketed (textsOf args)]
      flags := fn.flags ∪ flagsOf args ∪ { caller := true } }

/-- The call of what an owner has under a key. -/
def methodCall (owner key : Piece) (args : List Piece) : Piece :=
  { text := helperCall .callMethod [owner.text, bracketed [key.text], bracketed (textsOf args)]
    flags := owner.flags ∪ key.flags ∪ flagsOf args ∪ { helpers := true } }

/-- The call of a computed function. -/
def valueCall (fn : Piece) (args : List Piece) : Piece :=
  { text := helperCall .call ["undefined", fn.text, bracketed (textsOf args)]
    flags := fn.flags ∪ flagsOf args ∪ { helpers := true } }

/-- A value that goes through a decorator. -/
def decorated (name : String) (value : Piece) (args : List Piece) : Piece :=
  { text := helperCall .decorate [Text.quote name, bracketed (value.text :: textsOf args)]
    flags := value.flags ∪ flagsOf args ∪ { helpers := true } }

/-- The text of writing to a place, `v` standing for what is written. -/
def Place.setter : Place → String
  | .name n => helperCall .set ["d", pathText [n], "v"]
  | .property owner key => helperCall .set [owner.text, bracketed [key.text], "v"]

/-- What writing to a place depends on. -/
def Place.flags : Place → Flags
  | .name _ => {}
  | .property owner key => owner.flags ∪ key.flags ∪ { helpers := true }

/-- The first `v` that ends an argument list replaced by a text. -/
def fillSetter (setter value : String) : String :=
  match Text.cut? setter ", v)" with
  | some (before, after) => before ++ ", " ++ value ++ ")" ++ after
  | none => setter

/-- Several expressions, of which the last gives the value. -/
def sequence (separator : String) (items : List Piece) : Piece :=
  { text := separator.intercalate (textsOf items)
    flags := flagsOf items
    constant := items.all (·.constant) }

/-- A constant. -/
def literal (o : Options) : Expr.Literal → Compile Piece
  | .string value _ => do
    if o.interned then
      let (i, symbols) := (← get).intern value
      set symbols
      return { text := Symbols.reference i, constant := true }
    else return { text := Text.quote value, constant := true }
  | l => return { text := l.raw, constant := true }

mutual
/-- Compiles an expression; a `bare` one stands without the parentheses around it. -/
def expr (o : Options) (bare : Bool) : Expr → Compile Piece
  | .lit _ l => literal o l
  | .this _ => return { text := "this", flags := { self := true } }
  | .ident _ name => return identifier name
  | .member s base ns name =>
    match pathPiece? (.member s base ns name) with
    | some p => return p
    | none => return propertyPiece (← expr o false base) (fixedKey name)
  | .index s base (.lit ls l) =>
    match pathPiece? (.index s base (.lit ls l)), l with
    | some p, _ => return p
    | none, .string name _ => return propertyPiece (← expr o false base) (fixedKey name)
    | none, l => return propertyPiece (← expr o false base) (← literal o l)
  | .index _ base key => return propertyPiece (← expr o false base) (← expr o false key)
  | .call _ callee args => do
    let args ← exprs o args
    if callee.unwrap.isAssignable then
      match ← place o callee with
      | .name name => return bareCall name args
      | .property owner key => return methodCall owner key args
    else return valueCall (← expr o true callee) args
  | .pipe _ entity _ chain => do decorators o (← expr o false entity) chain
  | .array _ elements => do
    let items ← exprs o elements
    return { sequence ", " items with text := bracketed (textsOf items) }
  | .object _ properties => do
    let items ← object o properties
    return {
      text := "\x7b" ++ ", ".intercalate (items.map fun i => Text.quote i.1 ++ ": " ++ i.2.text)
        ++ "\x7d"
      flags := flagsOf (items.map (·.2))
      constant := items.all (·.2.constant) }
  | .seq _ items => do
    let p := sequence ", " (← exprs o items)
    return { p with text := "(" ++ p.text ++ ")" }
  | .unary _ op argument => do
    let p ← expr o false argument
    return { p with text := op.text ++ (if op == .typeof then " " else "") ++ p.text }
  | .binary _ op left right => do
    return sequence (" " ++ op.text ++ " ") [← expr o false left, ← expr o false right]
  | .logical _ op left right => do
    return sequence (" " ++ op.text ++ " ") [← expr o false left, ← expr o false right]
  | .cond _ test consequent alternate => do
    let t ← expr o false test
    let c ← expr o false consequent
    let a ← expr o false alternate
    return { sequence "" [t, c, a] with text := t.text ++ " ? " ++ c.text ++ " : " ++ a.text }
  | .paren _ inner => do
    let p ← expr o bare inner
    return if bare then p else { p with text := "(" ++ p.text ++ ")" }
  | .assign _ _ target value => do
    let p ← place o target
    let v ← expr o false value
    return { text := fillSetter p.setter v.text, flags := p.flags ∪ v.flags }
  | .update s op before target => do
    let p ← place o target
    return { text := (Expr.update s op before target).text, flags := p.flags }

def exprs (o : Options) : List Expr → Compile (List Piece)
  | [] => return []
  | e :: es => return (← expr o false e) :: (← exprs o es)

/-- Compiles the properties of an object. -/
def object (o : Options) : List Property → Compile (List (String × Piece))
  | [] => return []
  | .mk key value :: ps => return (key.name, ← expr o false value) :: (← object o ps)

/-- Sends a value through decorators, from left to right. -/
def decorators (o : Options) (value : Piece) : List Decorator → Compile Piece
  | [] => return value
  | .mk at_ name args _ :: ds => do
    if isBindingMark name then decorators o value ds
    else
      match o.decorators with
      | some known =>
        if !known.contains name then throw (unknownDecorator name at_ known)
      | none => pure ()
      decorators o (decorated name value (← exprs o args)) ds

/-- Compiles what can be assigned to: a name or a property. -/
def place (o : Options) : Expr → Compile Place
  | .ident _ name => return .name name
  | .member _ base _ name => return .property (← expr o false base) (fixedKey name)
  | .index _ base (.lit _ (.string name _)) =>
    return .property (← expr o false base) (fixedKey name)
  | .index _ base key => return .property (← expr o false base) (← expr o false key)
  | .paren _ inner => place o inner
  | e => throw (unknownNode e)
end

/-- Compiles a program; its value is that of its last expression. -/
def program (o : Options) (p : Program) : Compile Piece :=
  match p.exprs with
  | [] => return { text := "undefined", constant := true }
  | [e] => expr o false e
  | es => return sequence "; " (← exprs o es)

end Code

end Trellis
