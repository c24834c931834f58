/-
Tokens of YAML documents.

Tokens are found one after the other.  A text at the start of a line may turn out to be the key of
a map only when the colon after it is found; until then its place in the queue is remembered as
that of a possible key, and the tokens that begin a map and a key are put in there later.  Blocks
are made of the columns at which their entries stand.
-/
import Trellis.Yaml.Written

namespace Trellis.Yaml

/-- A token. -/
inductive Token where
  /-- a directive that says the version of the format -/
  | version (major minor : Nat)
  /-- a directive that says what a handle before a tag stands for -/
  | handle (name lead : String)
  | documentStart | documentEnd
  | blockListStart | blockMapStart | blockEnd
  | flowListStart | flowListEnd | flowMapStart | flowMapEnd
  /-- a comma between brackets -/
  | comma
  /-- the mark of an item in a block -/
  | item
  | key | value
  | alias (name : String)
  | anchor (name : String)
  | tag (handle suffix : String)
  | scalar (text : String) (isPlain : Bool)
  | streamEnd
deriving DecidableEq, Repr

/-- The place of a token that may be a key. -/
structure MaybeKey where
  /-- the number of the token -/
  number : Nat
  /-- nothing but a key may stand there -/
  required : Bool
  index : Nat
  line : Nat
  column : Nat

/-- The tokens of a text, as far as they have been found. -/
structure Tokens where
  place : Place
  /-- found and not taken yet -/
  queue : List Token := []
  /-- how many have been taken -/
  taken : Nat := 0
  /-- the possible key at each depth of brackets, the innermost first -/
  keys : List (Option MaybeKey) := [none]
  /-- a key may start here -/
  keyAllowed : Bool := true
  /-- the column of the entries of the current block -/
  indent : Int := -1
  /-- those of the blocks around it -/
  indents : List Int := []

namespace Tokens

/-- Reading tokens. -/
abbrev Fetch := StateT Tokens Option

/-- How many brackets are open. -/
def depth (t : Tokens) : Nat := t.keys.length - 1

/-- Whether the tokens stand between brackets. -/
def inFlow (t : Tokens) : Bool := t.depth > 0

/-- The possible key within the innermost brackets. -/
def key? (t : Tokens) : Option MaybeKey := (t.keys.headD none)

def setKey (t : Tokens) (k : Option MaybeKey) : Tokens := { t with keys := k :: t.keys.drop 1 }

/-- Adds a token at the end. -/
def push (t : Tokens) (token : Token) : Tokens := { t with queue := t.queue ++ [token] }

/-- Adds a token before the token with a number. -/
def insert (t : Tokens) (number : Nat) (token : Token) : Tokens :=
  { t with queue := t.queue.insertIdx (number - t.taken) token }

/-- Whether a possible key is too far back to be one: it stands in an earlier line, or more than
1024 characters before. -/
def isPast (t : Tokens) (k : MaybeKey) : Bool :=
  k.line < t.place.line || k.index + 1024 < t.place.index

namespace Fetch

/-- Reads from the place. -/
def scan {α : Type} (s : Scan α) : Fetch α := fun t =>
  (s.run t.place).map fun (a, place) => (a, { t with place })

/-- There is no possible key any more; one that was required is missed. -/
def dropKey : Fetch Unit := do
  if (← get).key?.any (·.required) then failure
  modify (·.setKey none)

/-- A key may start at the place, if keys are allowed. -/
def noteKey : Fetch Unit := do
  let t ← get
  if t.keyAllowed then
    dropKey
    modify (·.setKey (some {
      number := t.taken + t.queue.length
      required := !t.inFlow && t.indent == t.place.column
      index := t.place.index, line := t.place.line, column := t.place.column }))

def allowKeys (allowed : Bool) : Fetch Unit := modify fun t => { t with keyAllowed := allowed }

/-- Begins a block at a column if it is deeper than the current one. -/
def openBlock (column : Nat) (put : Tokens → Tokens) : Fetch Unit :=
  modify fun t =>
    if t.inFlow || (column : Int) ≤ t.indent then t
    else { put t with indents := t.indent :: t.indents, indent := column }

/-- Ends the blocks that are deeper than a column. -/
def closeBlocks (column : Int) : Fetch Unit :=
  modify fun t => if t.inFlow then t else close t.indents t
where
  close : List Int → Tokens → Tokens
    | [], t => t
    | outer :: more, t =>
      if t.indent > column then
        close more { t.push .blockEnd with indent := outer, indents := more }
      else t

/-! ## Blanks and comments -/

/-- How far a further comment lies behind the lines that follow a comment. -/
def nextComment? : Nat → List Char → Option Nat
  | passed, c :: cs =>
    if isWhite c then nextComment? (passed + 1) cs
    else if c == '#' then some passed else none
  | _, [] => none

/-- Goes on over `n` characters of any lines. -/
def passOver : Nat → Scan Unit
  | 0 => return ()
  | n + 1 => do
    match (← Scan.rest).head? with
    | some c => if isBreak c then Scan.nextLine else Scan.advance 1
    | none => return ()
    passOver n

/-- Goes on over a comment and further comments below it, up to the end of the last one's line. -/
def comments : Nat → Scan Unit
  | 0 => return ()
  | n + 1 => do
    Scan.toLineEnd
    match nextComment? 0 (← Scan.rest) with
    | some passed =>
      if passed < 512 then do
        passOver passed
        comments n
    | none => return ()

/-- Goes on to the next token.  A tab may not stand where a key may start in a block. -/
def toToken : Nat → Fetch Unit
  | 0 => return ()
  | n + 1 => do
    let t ← get
    let tabs := t.inFlow || !t.keyAllowed
    let _ ← scan (Scan.takeWhile fun c => c == ' ' || (tabs && c == '\t'))
    let rest := (← get).place.rest
    if rest.head? == some '#' then scan (comments (rest.length + 1))
    if (← get).place.rest.head?.any isBreak then
      scan Scan.nextLine
      if !t.inFlow then allowKeys true
      toToken n

/-- Goes on over a comment behind a token in its line. -/
def lineComment : Fetch Unit := do
  let p := (← get).place
  let blanks := (p.rest.takeWhile isBlank).length
  if !p.fresh && blanks < 512 && (p.rest.drop blanks).head? == some '#' then scan Scan.toLineEnd

/-! ## Tags and directives -/

/-- A character of a tag. -/
def isTagChar (c : Char) : Bool := isNameChar c || ";/?:@&=+$,.!~*\x27()[]%".toList.contains c

/-- The bytes of a tag, in which `%` and two digits stand for a byte. -/
def tagBytes : Nat → List Char → Option (List UInt8)
  | 0, _ | _, [] => some []
  | n + 1, '%' :: a :: b :: cs => do
    let byte := (← Json.hexValue? a) * 16 + (← Json.hexValue? b)
    return byte.toUInt8 :: (← tagBytes n cs)
  | n + 1, c :: cs =>
    if c == '%' then none
    else (tagBytes n cs).map ((String.singleton c).toUTF8.toList ++ ·)

/-- The characters of a tag, of which `front` have been read. -/
def tagText (front : List Char) : Scan String := do
  let cs ← Scan.takeWhile isTagChar
  match tagBytes (cs.length + 1) cs with
  | some bytes =>
    match String.fromUTF8? (ByteArray.mk bytes.toArray) with
    | some s => return String.ofList front ++ s
    | none => failure
  | none => failure

/-- The handle at the front of a tag: a mark, maybe a name, and maybe a second mark. -/
def tagHandle : Scan (List Char) := do
  Scan.expect '!'
  let name ← Scan.takeWhile isNameChar
  if (← Scan.rest).head? == some '!' then do
    Scan.advance 1
    return '!' :: name ++ ['!']
  else return '!' :: name

/-- A tag, up to the end of a word. -/
def tag : Scan Token := do
  let token ← match ← Scan.rest with
    | _ :: '<' :: _ => do
      Scan.advance 2
      let uri ← tagText []
      if uri.isEmpty then failure
      Scan.expect '>'
      pure (Token.tag "" uri)
    | _ => do
      let handle ← tagHandle
      if handle.length > 1 && handle.getLast? == some '!' then do
        let suffix ← tagText []
        if suffix.isEmpty then failure
        pure (Token.tag (String.ofList handle) suffix)
      else do
        let suffix ← tagText (handle.drop 1)
        pure (if suffix.isEmpty then Token.tag "" "!" else Token.tag "!" suffix)
  if endsWord (← Scan.rest) then return token else failure

/-- A number of one or two digits. -/
def shortNumber : Scan Nat := do
  let ds ← Scan.takeWhile Char.isDigit
  if ds.isEmpty || ds.length > 2 then failure
  return ds.foldl (fun n c => n * 10 + (c.toNat - 48)) 0

/-- A directive with its line. -/
def directive : Scan Token := do
  Scan.advance 1
  let name ← Scan.takeWhile isNameChar
  if !endsWord (← Scan.rest) then failure
  Scan.blanks
  let token ← match String.ofList name with
    | "YAML" => do
      let major ← shortNumber
      Scan.expect '.'
      pure (Token.version major (← shortNumber))
    | "TAG" => do
      let handle ← tagHandle
      if handle.length > 1 && handle.getLast? != some '!' then failure
      if !(← Scan.rest).head?.any isBlank then failure
      Scan.blanks
      let lead ← tagText []
      if lead.isEmpty || !endsWord (← Scan.rest) then failure
      pure (Token.handle (String.ofList handle) lead)
    | _ => failure
  Scan.blanks
  if (← Scan.rest).head? == some '#' then Scan.toLineEnd
  if !endsLine (← Scan.rest) then failure
  if !(← Scan.rest).isEmpty then Scan.nextLine
  return token

/-- The name of a node after its mark. -/
def nodeName : Scan String := do
  Scan.advance 1
  let cs ← Scan.takeWhile isNameChar
  let rest ← Scan.rest
  if cs.isEmpty || !(endsWord rest || rest.head?.any fun c => "?:,]\x7d%@\x60".toList.contains c)
  then failure
  return String.ofList cs

/-! ## Tokens -/

/-- A token of `width` characters that cannot be a key. -/
def mark (token : Token) (width : Nat) : Fetch Unit := do
  scan (Scan.advance width)
  modify (·.push token)

/-- The end of the text, as if a new line began there. -/
def streamEnd : Fetch Unit := do
  modify fun t =>
    if t.place.column == 0 then t
    else { t with place := { t.place with column := 0, line := t.place.line + 1 } }
  closeBlocks (-1)
  dropKey
  allowKeys false
  modify (·.push .streamEnd)

/-- A directive or a mark between documents. -/
def atMargin (token : Fetch Unit) : Fetch Unit := do
  closeBlocks (-1)
  dropKey
  allowKeys false
  token

/-- An opening bracket. -/
def openFlow (token : Token) : Fetch Unit := do
  noteKey
  modify fun t => { t with keys := none :: t.keys }
  allowKeys true
  mark token 1

/-- A closing bracket. -/
def closeFlow (token : Token) : Fetch Unit := do
  dropKey
  modify fun t => if t.inFlow then { t with keys := t.keys.drop 1 } else t
  allowKeys false
  mark token 1

def comma : Fetch Unit := do
  dropKey
  allowKeys true
  mark .comma 1

/-- The mark of an item. -/
def item : Fetch Unit := do
  let t ← get
  if !t.inFlow then
    if !t.keyAllowed then failure
    openBlock t.place.column (·.push .blockListStart)
  dropKey
  allowKeys true
  mark .item 1

/-- The mark before a key. -/
def keyMark : Fetch Unit := do
  let t ← get
  if !t.inFlow then
    if !t.keyAllowed then failure
    openBlock t.place.column (·.push .blockMapStart)
  dropKey
  allowKeys (!t.inFlow)
  mark .key 1

/-- The colon before a value: what may be a key before it is one. -/
def valueMark : Fetch Unit := do
  let t ← get
  if t.key?.any (fun k => t.isPast k && k.required) then failure
  match t.key?.filter (!t.isPast ·) with
  | some k =>
    modify (·.insert k.number .key)
    openBlock k.column (·.insert k.number .blockMapStart)
    modify (·.setKey none)
    allowKeys false
  | none =>
    modify (·.setKey none)
    if !t.inFlow then
      if !t.keyAllowed then failure
      openBlock t.place.column (·.push .blockMapStart)
    allowKeys (!t.inFlow)
  mark .value 1

/-- A token that may be a key. -/
def maybeKey (read : Scan Token) : Fetch Unit := do
  noteKey
  allowKeys false
  let token ← scan read
  modify (·.push token)

/-- A block of lines. -/
def blockText : Fetch Unit := do
  dropKey
  allowKeys true
  let cs ← scan (Scan.block (← get).indent)
  modify (·.push (.scalar (String.ofList cs) false))

/-- A plain text; after a line break a key may follow it. -/
def plainText : Fetch Unit := do
  noteKey
  allowKeys false
  let t ← get
  let (cs, broken) ← scan (Scan.plain t.inFlow (t.indent + 1))
  if broken then allowKeys true
  modify (·.push (.scalar (String.ofList cs) true))

/-- Whether a plain text can start here. -/
def startsPlain (flow : Bool) : List Char → Bool
  | [] => false
  | c :: cs =>
    if c == '-' then !(cs.head?.any isBlank)
    else if c == '?' || c == ':' then !flow && !endsWord cs
    else !isWhite c && !",[]\x7b\x7d#&*!|>\x27\"%@\x60".toList.contains c

/-- The token at the place. -/
def token : Fetch Unit := do
  let t ← get
  let word := fun (cs : List Char) => t.inFlow || endsWord cs
  match t.place.rest with
  | [] => streamEnd
  | c :: cs =>
    if t.place.column == 0 && c == '%' then
      atMargin do
        let d ← scan directive
        modify (·.push d)
    else if t.place.atBound then atMargin (mark (if c == '-' then .documentStart else .documentEnd)
      3)
    else do
      match c with
      | '[' => openFlow .flowListStart
      | '\x7b' => openFlow .flowMapStart
      | ']' => closeFlow .flowListEnd
      | '\x7d' => closeFlow .flowMapEnd
      | ',' => comma
      | '*' => maybeKey (do return .alias (← nodeName))
      | '&' => maybeKey (do return .anchor (← nodeName))
      | '!' => maybeKey tag
      | '"' | '\x27' => maybeKey (do return .scalar (String.ofList (← Scan.quoted)) false)
      | _ =>
        if c == '-' && endsWord cs then item
        else if c == '?' && word cs then keyMark
        else if c == ':' && word cs then valueMark
        else if (c == '|' || c == '>') && !t.inFlow then blockText
        else if startsPlain t.inFlow (c :: cs) then plainText
        else failure
      if (← get).queue.getLast? != some .item then lineComment

/-- Finds one more token. -/
def more : Fetch Unit := do
  toToken ((← get).place.rest.length + 1)
  closeBlocks (← get).place.column
  token

/-- Finds tokens until what the first one is cannot change any more. -/
def settle : Nat → Fetch Unit
  | 0 => failure
  | n + 1 => do
    let t ← get
    let first := t.keys.find? fun k => k.any (·.number == t.taken)
    if t.queue.length < 3 then do
      more
      settle n
    else
      match first.join with
      | none => return ()
      | some k =>
        if !t.isPast k then do
          more
          settle n
        else if k.required then failure

/-- The next token, which stays the next one. -/
def peek : Fetch Token := do
  settle ((← get).place.rest.length + 5)
  match (← get).queue with
  | token :: _ => return token
  | [] => failure

/-- Takes the next token. -/
def take : Fetch Unit := modify fun t => { t with queue := t.queue.drop 1, taken := t.taken + 1 }

end Fetch

end Tokens

end Trellis.Yaml
