/-
Reading YAML documents.

The nodes of the first document are made from its tokens; what follows the document is not looked
at.  A node may be given a name, under which it stands in other places as well.

The theorems take what is read as it is, and use how the value of a document is taken as entries.
-/
import Trellis.Yaml.Scalar
import Trellis.Yaml.Token

namespace Trellis.Yaml

/-- What is known while nodes are made: the tokens, the nodes with a name (the last one first, those
that are not complete yet without a node), and what the handles of tags stand for. -/
structure Reading where
  tokens : Tokens
  anchors : List (String × Option Node) := []
  handles : List (String × String) := []

/-- Reading, which fails on what is no document. -/
abbrev Read := StateT Reading Option

namespace Read

def peek : Read Token := fun r =>
  (Tokens.Fetch.peek.run r.tokens).map fun (token, tokens) => (token, { r with tokens })

def take : Read Unit := fun r =>
  (Tokens.Fetch.take.run r.tokens).map fun (_, tokens) => ((), { r with tokens })

/-- Takes a token and looks at the next one. -/
def next : Read Token := do
  take
  peek

/-! ## Tags and names -/

/-- The short form of a tag. -/
def shortTag (s : String) : String :=
  let long := "tag:yaml.org,2002:"
  if Text.startsWith s long then "!!" ++ Text.dropFront s long else s

/-- The tag with a handle, whose meaning must be known. -/
def fullTag (handle suffix : String) : Read String := do
  if handle.isEmpty then return shortTag suffix
  match (← get).handles.find? (·.1 == handle) with
  | some (_, lead) => return shortTag (lead ++ suffix)
  | none => failure

/-- What stands before a node: its tag and its name. -/
structure Properties where
  tag : String := ""
  anchor : String := ""

/-- The properties before a node, at most one of each kind. -/
def properties : Read Properties := do
  match ← peek with
  | .anchor anchor =>
    match ← next with
    | .tag handle suffix => do
      take
      return { tag := ← fullTag handle suffix, anchor }
    | _ => return { anchor }
  | .tag handle suffix =>
    match ← next with
    | .anchor anchor => do
      take
      return { tag := ← fullTag handle suffix, anchor }
    | _ => return { tag := ← fullTag handle suffix }
  | _ => return {}

/-- Keeps a complete node under its name. -/
def keep (p : Properties) (n : Node) : Read Node := do
  if !p.anchor.isEmpty then
    modify fun r => { r with anchors := (p.anchor, some n) :: r.anchors }
  return n

/-- Makes a node that has its name from its start on. -/
def named (p : Properties) (make : Read Node) : Read Node := do
  if p.anchor.isEmpty then make
  else do
    let before := (← get).anchors.length
    modify fun r => { r with anchors := (p.anchor, none) :: r.anchors }
    let n ← make
    modify fun r =>
      { r with anchors := r.anchors.set (r.anchors.length - 1 - before) (p.anchor, some n) }
    return n

/-- The node with a name. -/
def reference (name : String) : Read Node := do
  match (← get).anchors.find? (·.1 == name) with
  | some (_, some n) => return .alias name n
  | some (_, none) => return .within name
  | none => failure

/-! ## Nodes -/

mutual
/-- A node.  Lists and maps of blocks are allowed when `block` says so, and items at the column of
their key when `level` does. -/
def node : Nat → Bool → Bool → Read Node
  | 0, _, _ => failure
  | n + 1, block, level => do
    match ← peek with
    | .alias name => do
      take
      reference name
    | _ =>
      let p ← properties
      match ← peek with
      | .scalar text isPlain => do
        take
        keep p (.scalar ⟨text, isPlain, p.tag⟩)
      | .flowListStart => do
        take
        named p (return .list (← flowItems n true))
      | .flowMapStart => do
        take
        named p (return .map (← flowEntries n true))
      | token =>
        if token == .item && level then named p (return .list (← levelItems n))
        else if token == .blockListStart && block then do
          take
          named p (return .list (← blockItems n))
        else if token == .blockMapStart && block then do
          take
          named p (return .map (← blockEntries n))
        else if p.tag.isEmpty && p.anchor.isEmpty then failure
        else keep p (.scalar ⟨"", true, p.tag⟩)

/-- A node of a block, or nothing where one of the given tokens stands. -/
def nodeUnless : Nat → Bool → Bool → List Token → Read Node
  | 0, _, _, _ => failure
  | n + 1, block, level, ends => do
    if ends.contains (← peek) then return .null else node n block level

/-- The items of a list and the end of its block. -/
def blockItems : Nat → Read (List Node)
  | 0 => failure
  | n + 1 => do
    match ← peek with
    | .item => do
      take
      let first ← nodeUnless n true false [.item, .blockEnd]
      return first :: (← blockItems n)
    | .blockEnd => do
      take
      return []
    | _ => failure

/-- The items of a list that stands at the column of its key. -/
def levelItems : Nat → Read (List Node)
  | 0 => failure
  | n + 1 => do
    match ← peek with
    | .item => do
      take
      let first ← nodeUnless n true false [.item, .key, .value, .blockEnd]
      return first :: (← levelItems n)
    | _ => return []

/-- The entries of a map and the end of its block. -/
def blockEntries : Nat → Read (List (Node × Node))
  | 0 => failure
  | n + 1 => do
    match ← peek with
    | .key => do
      take
      let key ← nodeUnless n true true [.key, .value, .blockEnd]
      let value ← if (← peek) == .value then do
          take
          nodeUnless n true true [.key, .value, .blockEnd]
        else pure .null
      return (key, value) :: (← blockEntries n)
    | .blockEnd => do
      take
      return []
    | _ => failure

/-- The items of a list in brackets, with the comma before them unless it is the first. -/
def flowItems : Nat → Bool → Read (List Node)
  | 0, _ => failure
  | n + 1, first => do
    let token ← peek
    let token ← if first || token == .flowListEnd then pure token
      else if token == .comma then next
      else failure
    match token with
    | .flowListEnd => do
      take
      return []
    | .key => do
      take
      let entry ← flowPair n
      return .map [entry] :: (← flowItems n false)
    | _ => do
      let item ← node n false false
      return item :: (← flowItems n false)

/-- The only entry of a map that is an item of a list.  The token after a missing key is passed
over. -/
def flowPair : Nat → Read (Node × Node)
  | 0 => failure
  | n + 1 => do
    let key ← if [.value, .comma, .flowListEnd].contains (← peek) then do
        take
        pure .null
      else node n false false
    let value ← if (← peek) == .value then do
        take
        nodeUnless n false false [.comma, .flowListEnd]
      else pure .null
    return (key, value)

/-- The entries of a map in brackets, with the comma before them unless it is the first. -/
def flowEntries : Nat → Bool → Read (List (Node × Node))
  | 0, _ => failure
  | n + 1, first => do
    let token ← peek
    let token ← if first || token == .flowMapEnd then pure token
      else if token == .comma then next
      else failure
    match token with
    | .flowMapEnd => do
      take
      return []
    | .key => do
      take
      let key ← nodeUnless n false false [.value, .comma, .flowMapEnd]
      let value ← if (← peek) == .value then do
          take
          nodeUnless n false false [.comma, .flowMapEnd]
        else pure .null
      return (key, value) :: (← flowEntries n false)
    | _ => do
      let key ← node n false false
      return (key, .null) :: (← flowEntries n false)
end

/-! ## Documents -/

/-- The directives before a document: at most one version, and what handles stand for. -/
def directives : Nat → Bool → Read Unit
  | 0, _ => failure
  | n + 1, versioned => do
    match ← peek with
    | .version major minor => do
      if versioned || major != 1 || minor != 1 then failure
      take
      directives n true
    | .handle name lead => do
      if (← get).handles.any (·.1 == name) then failure
      modify fun r => { r with handles := r.handles ++ [(name, lead)] }
      take
      directives n versioned
    | _ => return ()

/-- The handles that are known without a directive. -/
def standardHandles : Read Unit :=
  modify fun r => { r with handles := r.handles ++ [("!", "!"), ("!!", "tag:yaml.org,2002:")] }

/-- The first document; nothing when there is none. -/
def document (fuel : Nat) : Read Node := do
  match ← peek with
  | .streamEnd => return .null
  | .version _ _ | .handle _ _ | .documentStart => do
    directives fuel false
    standardHandles
    if (← peek) != .documentStart then failure
    let root ← match ← next with
      | .version _ _ | .handle _ _ | .documentStart | .documentEnd | .streamEnd => pure .null
      | _ => node fuel true false
    let _ ← peek
    return root
  | _ => do
    standardHandles
    let root ← node fuel true false
    let _ ← peek
    return root

end Read

/-- Whether a character may stand in a document. -/
def isReadable (c : Char) : Bool :=
  let n := c.toNat
  n == 9 || n == 10 || n == 13 || (32 ≤ n && n ≤ 126) || n == 0x85 ||
    (0xA0 ≤ n && n != 0xFFFE && n != 0xFFFF)

/-- Line breaks that count as the same are made the same. -/
def plainBreaks : List Char → List Char
  | '\r' :: '\n' :: cs => '\n' :: plainBreaks cs
  | c :: cs => (if c == '\r' || c == '\u0085' then '\n' else c) :: plainBreaks cs
  | [] => []

/-- A text without a mark of the byte order at its front. -/
def dropMark : List Char → List Char
  | '\ufeff' :: cs => cs
  | cs => cs

/-- Reads the first document of a text; none when it is none. -/
def parse? (s : String) : Option Node := do
  let cs := dropMark s.toList
  if !cs.all isReadable then none
  let rest := dropMark (plainBreaks cs)
  let (root, _) ← (Read.document (4 * rest.length + 16)).run { tokens := { place := { rest } } }
  return root

end Trellis.Yaml
