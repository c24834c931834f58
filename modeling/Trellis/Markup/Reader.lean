/-
From tags to template nodes.

Tags whose name begins with `ws:` are directives, a capitalised name or a path is a component, and
everything else is an element.  Keys count siblings: the key of a node is the key of its parent
followed by its position and an underscore.
-/
import Trellis.Markup.Node
import Trellis.Markup.Tag

namespace Trellis.Markup

/-- How a template is read. -/
structure ReadOptions where
  /-- the file that faults are attached to -/
  file : String := ""
  /-- plain text becomes a translation -/
  promoteText : Bool := false

/-- A fault of the catalog at a tag. -/
def Tag.fault (t : Tag) (code : Fault.Code) (details : List (String × String)) : Fault :=
  (Fault.make code details).moved t.line t.column

/-- A fault of the catalog at an attribute. -/
def TagAttr.fault (a : TagAttr) (code : Fault.Code) (details : List (String × String)) : Fault :=
  (Fault.make code details).moved a.line a.column

/-- The directives that may stand anywhere. -/
def directives : List String := ["ws:if", "ws:else", "ws:for", "ws:template", "ws:partial"]

/-- The type of a scalar value tag. -/
def scalarTag? (name : String) : Option ScalarType :=
  match name with
  | "ws:String" => some .string
  | "ws:Number" => some .number
  | "ws:Boolean" => some .boolean
  | "ws:Value" => some .any
  | _ => none

/-- Whether a tag holds a typed value. -/
def isValueTag (name : String) : Bool :=
  (scalarTag? name).isSome || name == "ws:Array" || name == "ws:Object"

/-- Whether a tag names a component: it is a path, or begins with a capital letter. -/
def isComponentName (name : String) : Bool :=
  if Text.startsWith name "ws:" then false
  else if name.toList.any fun c => c == '.' || c == '/' then true
  else (name.toList.head?.map Text.isUpperLetter).getD false

/-- The attribute of a tag with a given name. -/
def Tag.attr? (t : Tag) (name : String) : Option TagAttr :=
  match t with
  | .text _ _ _ => none
  | .element _ _ _ attrs _ => attrs.find? (·.name == name)

/-- The attributes of a tag. -/
def Tag.attrs : Tag → List TagAttr
  | .text _ _ _ => []
  | .element _ _ _ attrs _ => attrs

/-- The attribute of a tag that must be there and not be blank. -/
def Tag.required (t : Tag) (name : String) : Except Fault TagAttr :=
  match t.attr? name with
  | some a =>
    if Text.isBlankText a.value then
      .error (t.fault .missingAttribute [("Tag", t.name), ("Attribute", name)])
    else .ok a
  | none => .error (t.fault .missingAttribute [("Tag", t.name), ("Attribute", name)])

/-- A text without the double braces around it. -/
def dropBraces (s : String) : String :=
  if Text.startsWith s "\x7b\x7b" && Text.endsWith s "\x7d\x7d" then
    String.ofList ((s.toList.drop 2).take (s.length - 4))
  else s

/-- The program in an attribute, with or without braces around it.  Faults are reported at the
attribute. -/
def TagAttr.program (a : TagAttr) : Except Fault Program :=
  let source := dropBraces (Text.trim a.value)
  if Text.isBlankText source then
    .error ((Fault.ofCode .emptyExpression none).moved a.line a.column)
  else
    match Program.parse source with
    | .ok p => .ok p
    | .error f => .error (f.moved a.line a.column)

/-- The kind of an attribute and its name without the mark of its kind. -/
def attrKind (name : String) : AttrKind × String :=
  if Text.startsWith name "attr:" then (.attribute, Text.dropFront name "attr:")
  else if Text.startsWith name "bind:" then (.bind, Text.dropFront name "bind:")
  else if Text.startsWith name "on:" then (.event, Text.dropFront name "on:")
  else (.plain, name)

/-- The attribute that a tag's attribute stands for. -/
def TagAttr.read (a : TagAttr) : Except Fault Attribute := do
  let (kind, name) := attrKind a.name
  let value ← match kind with
    | .bind | .event => do pure (AttrValue.program (← a.program))
    | .plain | .attribute => do
      let o : Segment.Options := { line := a.line, column := a.column }
      pure (AttrValue.segments (← Segment.split o a.value))
  return ⟨name, kind, a.value, value, a.line, a.column⟩

/-- A blank of a loop header. -/
def isHeaderBlank (c : Char) : Bool :=
  c == ' ' || c == '\t' || c == '\n' || c == '\r' || c == '\x0c'

/-- An ASCII identifier at the front, and the rest. -/
def headerName? : List Char → Option (List Char × List Char)
  | [] => none
  | c :: cs =>
    if c.isAlpha || c == '_' || c == '$' then
      let more := cs.takeWhile fun c => c.isAlphanum || c == '_' || c == '$'
      some (c :: more, cs.drop more.length)
    else none

/-- What follows the word `in` with blanks on both sides. -/
def afterIn? (cs : List Char) : Option (List Char) :=
  match cs with
  | [] => none
  | c :: _ =>
    if isHeaderBlank c then
      match cs.dropWhile isHeaderBlank with
      | 'i' :: 'n' :: rest =>
        match rest with
        | b :: _ =>
          if isHeaderBlank b then
            match rest.dropWhile isHeaderBlank with
            | [] => none
            | body => some body
          else none
        | [] => none
      | _ => none
    else none

/-- The header `item in collection` or `index, item in collection`: index, item, collection. -/
def eachHeader? (cs : List Char) : Option (String × String × String) :=
  match headerName? (cs.dropWhile isHeaderBlank) with
  | none => none
  | some (first, rest) =>
    match rest.dropWhile isHeaderBlank with
    | ',' :: more =>
      match headerName? (more.dropWhile isHeaderBlank) with
      | none => none
      | some (second, rest) =>
        (afterIn? rest).map fun body =>
          (String.ofList first, String.ofList second, String.ofList body)
    | _ => (afterIn? rest).map fun body => ("", String.ofList first, String.ofList body)

/-- The clauses between the semicolons that stand outside quoted strings. -/
def clauses : Option Char → Bool → List Char → List (List Char)
  | _, _, [] => [[]]
  | quote, escaped, c :: cs =>
    let push := fun (rest : List (List Char)) =>
      match rest with
      | [] => [[c]]
      | w :: ws => (c :: w) :: ws
    match quote with
    | some q =>
      if escaped then push (clauses quote false cs)
      else if c == '\\' then push (clauses quote true cs)
      else if c == q then push (clauses none false cs)
      else push (clauses quote false cs)
    | none =>
      if c == '\'' || c == '"' then push (clauses (some c) false cs)
      else if c == ';' then [] :: clauses none false cs
      else push (clauses none false cs)

/-- The identifier that a node assigns, if it is an assignment to a bare name. -/
def assignedName? : Trellis.Node → Option String
  | .expr (.assign _ _ (.ident _ name) _) => some name
  | .expr (.update _ _ _ (.ident _ name)) => some name
  | _ => none

/-- The identifiers that programs assign. -/
def assignedNames (ps : List Program) : List String :=
  Text.dedup (ps.flatMap fun p => p.nodes.filterMap assignedName?)

/-- The header of a loop: over a collection, or with three clauses. -/
inductive LoopHeader where
  | each (index iterator : String) (collection : Program)
  | clauses (init : Option Program) (test : Program) (update : Option Program)

/-- The loop that a header stands for. -/
def LoopHeader.node (info : Meta) (children : List Node) : LoopHeader → Node
  | .each index iterator collection => .each info index iterator collection children
  | .clauses init test update =>
    .loop info init test update (assignedNames (init.toList ++ update.toList)) children

/-- The program of a clause; a blank clause has none. -/
def TagAttr.clause (a : TagAttr) (cs : List Char) : Except Fault (Option Program) :=
  if cs.all Text.isBlank then .ok none
  else (TagAttr.program { a with value := String.ofList cs }).map some

/-- The header of a `ws:for` tag. -/
def Tag.loopHeader (t : Tag) : Except Fault LoopHeader := do
  let data ← t.required "data"
  let source := Text.trim (dropBraces (Text.trim data.value))
  match eachHeader? source.toList with
  | some (index, iterator, body) =>
    return .each index iterator (← TagAttr.program { data with value := body })
  | none =>
    match clauses none false source.toList with
    | [first, second, third] =>
      let init ← data.clause first
      let test ← data.clause second
      let update ← data.clause third
      match test with
      | none => throw (data.fault .badLoop [("Data", data.value)])
      | some test => return .clauses init test update
    | _ => throw (data.fault .badLoop [("Data", data.value)])

/-- The siblings read so far, last one first, and whether a `ws:else` may follow. -/
structure Siblings where
  nodes : List Node := []
  afterIf : Bool := false

/-- The key of the next sibling. -/
def Siblings.nextKey (s : Siblings) (stem : String) : String :=
  stem ++ toString s.nodes.length ++ "_"

/-- Adds a branch to the last `ws:if`; `none` when that has its last branch already. -/
def addBranch? (b : Branch) : List Node → Option (List Node)
  | [] => none
  | .branches info test children others :: rest =>
    if others.any (·.test.isNone) then none
    else some (.branches info test children (others ++ [b]) :: rest)
  | n :: rest => (addBranch? b rest).map (n :: ·)

/-- The only child of a tag that is not blank, if it is a typed value. -/
def onlyValue? (t : Tag) : Option Tag :=
  match t.children.filter (!·.isBlank) with
  | [child] => if isValueTag child.name then some child else none
  | _ => none

/-- A typed value.  `n` bounds the depth of tags. -/
def readValue : Nat → Tag → String → Except Fault TypedValue
  | 0, _, _ => .error (.plain "markup is nested too deeply")
  | n + 1, t, key =>
    match scalarTag? t.name with
    | some type => do
      let texts ← t.children.mapM fun child =>
        match child with
        | .text _ _ value => Except.ok value
        | .element _ _ _ _ _ => .error (child.fault .badTypedValue
            [("Type", type.name), ("Expected", "text content")])
      let joined := String.join texts
      let value := if type = .string then joined else Text.trim joined
      let o : Segment.Options := { keyStem := key, line := t.line, column := t.column }
      return .scalar type (← Segment.split o value)
    | none =>
      let children := t.children.filter (!·.isBlank)
      if t.name == "ws:Array" then do
        let items ← children.zipIdx.mapM fun (child, i) =>
          if isValueTag child.name then readValue n child (key ++ toString i ++ "_")
          else .error (child.fault .badTypedValue
            [("Type", "Array"), ("Expected", "typed values such as <ws:String>")])
        return .array items
      else do
        let properties ← children.mapM fun child =>
          match onlyValue? child with
          | some typed =>
            if Text.startsWith child.name "ws:" then do
              let name := Text.dropFront child.name "ws:"
              let inner ← readValue n typed (key ++ name ++ "_")
              return TypedOption.mk ⟨key ++ name ++ "_", child.line, child.column, false, none⟩
                name inner
            else .error (child.fault .badTypedValue
              [("Type", "Object"), ("Expected", "named options holding typed values")])
          | none => .error (child.fault .badTypedValue
              [("Type", "Object"), ("Expected", "named options holding typed values")])
        return .object properties

/-- Options and contents read so far from the body of a component, and the tags that belong to its
nameless content. -/
structure ComponentBody where
  options : List TypedOption := []
  contents : List Content := []
  loose : List Tag := []

mutual
/-- The nodes of sibling tags.  Blanks that only format the source are dropped. -/
def readList (o : ReadOptions) : Nat → List Tag → String → Except Fault (List Node)
  | 0, _, _ => .error (.plain "markup is nested too deeply")
  | n + 1, tags, stem => do
    let last := tags.length - 1
    let step := fun (s : Siblings) (item : Tag × Nat) => do
      let (t, i) := item
      let formatting := match t with
        | .text _ _ value => t.isBlank && (value.contains '\n' || i == 0 || i == last)
        | .element _ _ _ _ _ => false
      if formatting then pure s
      else if t.name == "ws:else" then
        if !s.afterIf then
          throw ((Fault.ofCode .strayElse none).moved t.line t.column)
        else
          let b ← readBranch o n t (s.nextKey stem)
          match addBranch? b s.nodes with
          | some nodes => pure { s with nodes }
          | none => throw ((Fault.ofCode .strayElse none).moved t.line t.column)
      else
        let node ← readNode o n t (s.nextKey stem)
        let afterIf := match node with
          | .branches _ _ _ _ => true
          | _ => if t.isBlank then s.afterIf else false
        pure ⟨node :: s.nodes, afterIf⟩
    let s ← tags.zipIdx.foldlM step {}
    return s.nodes.reverse

/-- A `ws:else` branch. -/
def readBranch (o : ReadOptions) : Nat → Tag → String → Except Fault Branch
  | 0, _, _ => .error (.plain "markup is nested too deeply")
  | n + 1, t, key => do
    let test ← match t.attr? "data" with
      | some a => do pure (some (← a.program))
      | none => pure none
    let children ← readList o n t.children key
    return .mk ⟨key, t.line, t.column, false, none⟩ test children

/-- The node of a tag. -/
def readNode (o : ReadOptions) : Nat → Tag → String → Except Fault Node
  | 0, _, _ => .error (.plain "markup is nested too deeply")
  | n + 1, t, key => do
    let info : Meta := ⟨key, t.line, t.column, false, none⟩
    match t with
    | .text line column value =>
      let so : Segment.Options :=
        { promoteText := o.promoteText, keyStem := key, line := line, column := column }
      return .text info (← Segment.split so value)
    | .element _ _ name _ children =>
      if name == "ws:if" then
        let data ← t.required "data"
        let test ← data.program
        return .branches info test (← readList o n children key) []
      else if name == "ws:for" then readLoop o n t key
      else if name == "ws:template" then
        let a ← t.required "name"
        return .template info (Text.trim a.value) (← readList o n children key)
      else if name == "ws:partial" then
        let a ← t.required "template"
        let value := Text.trim a.value
        let target ←
          if Text.hasPiece value "\x7b\x7b" then do pure (PartialTarget.dynamic (← a.program))
          else if value.toList.any fun c => c == '!' || c == '/' || c == '.' then
            pure (PartialTarget.static value)
          else pure (PartialTarget.inline value)
        let attrs ← (t.attrs.filter (·.name != "template")).mapM TagAttr.read
        let (options, contents) ← readBody o n t key
        return .partialCall info target attrs options contents
      else if Text.startsWith name "ws:" then
        throw (t.fault .misplacedContent [("Tag", name)])
      else if isComponentName name then
        let attrs ← t.attrs.mapM TagAttr.read
        let (options, contents) ← readBody o n t key
        return .component info name attrs options contents
      else
        let attrs ← t.attrs.mapM TagAttr.read
        return .element info name attrs (← readList o n children key) (isVoid name)

/-- A `ws:for` loop, over a collection or with three clauses. -/
def readLoop (o : ReadOptions) : Nat → Tag → String → Except Fault Node
  | 0, _, _ => .error (.plain "markup is nested too deeply")
  | n + 1, t, key => do
    let header ← t.loopHeader
    return header.node ⟨key, t.line, t.column, false, none⟩ (← readList o n t.children key)

/-- The typed options and contents of a component.  What is no option is its nameless content. -/
def readBody (o : ReadOptions) :
    Nat → Tag → String → Except Fault (List TypedOption × List Content)
  | 0, _, _ => .error (.plain "markup is nested too deeply")
  | n + 1, t, key => do
    let step := fun (b : ComponentBody) (child : Tag) => do
      if !(Text.startsWith child.name "ws:") || directives.contains child.name then
        pure { b with loose := b.loose ++ [child] }
      else
        let name := Text.dropFront child.name "ws:"
        let info : Meta := ⟨key ++ name ++ "_", child.line, child.column, false, none⟩
        match onlyValue? child with
        | some typed =>
          let value ← readValue n typed info.key
          pure { b with options := b.options ++ [.mk info name value] }
        | none =>
          let children ← readList o n child.children info.key
          pure { b with contents := b.contents ++ [.mk info name children] }
    let b ← t.children.foldlM step {}
    if b.loose.any (!·.isBlank) then
      let info : Meta := ⟨key ++ "content_", t.line, t.column, false, none⟩
      let children ← readList o n b.loose info.key
      return (b.options, b.contents ++ [.mk info "content" children])
    else return (b.options, b.contents)
end

/-- The nodes of a template. -/
def read (o : ReadOptions) (source : String) : Except Fault (List Node) :=
  let m := mask source
  let nodes := do
    let tags ← m.tags
    readList o (4 * m.text.length + 8) tags ""
  nodes.mapError fun f => if o.file.isEmpty then f else f.inFile o.file

end Trellis.Markup
