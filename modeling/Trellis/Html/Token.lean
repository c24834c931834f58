/-
HTML as a sequence of tokens.

Each token carries the source text it was read from, so that the sources of the tokens make up the
text again, up to an unfinished tag at its end.  After the start tag of an element that holds raw
text, everything up to its end tag is one text token.

These are the tokens of the HTML standard's tokenizer as far as sanitizing needs them.  The theorems
use that the sources make up the text, and which tags the tokens are.
-/
import Trellis.Html.Escape

namespace Trellis.Html

/-- The kinds of token. -/
inductive TokenKind where
  | text | startTag | selfClosing | endTag | comment | doctype
deriving DecidableEq, Repr

/-- An attribute as it was written. -/
structure RawAttr where
  name : List Char
  value : List Char
  /-- an unquoted value that ends the tag -/
  endsTag : Bool
deriving DecidableEq, Repr

/-- A token: its source text and, of a tag, its name and attributes as they were written. -/
structure Token where
  kind : TokenKind
  source : List Char
  name : List Char := []
  attrs : List RawAttr := []
  /-- text in which references are not replaced -/
  raw : Bool := false
  /-- text in which NUL characters are replaced -/
  clean : Bool := false
deriving Repr

/-- A blank inside a tag. -/
def isTagSpace (c : Char) : Bool := c == ' ' || c == '\n' || c == '\r' || c == '\t' || c == '\x0c'

/-- A letter that can start a tag name. -/
def isTagLetter (c : Char) : Bool := ('a' ≤ c && c ≤ 'z') || ('A' ≤ c && c ≤ 'Z')

/-- The input without leading blanks of a tag. -/
def skipSpace (cs : List Char) : List Char := cs.dropWhile isTagSpace

/-- Splits a list at the first element that satisfies `p`. -/
def spanUntil (p : Char → Bool) (cs : List Char) : List Char × List Char :=
  (cs.takeWhile (!p ·), cs.dropWhile (!p ·))

/-- The value of an attribute after its name, and the rest; `none` when the input ends. -/
def attrValue? (cs : List Char) : Option (List Char × Bool × List Char) :=
  match skipSpace cs with
  | [] => none
  | '/' :: rest => some ([], false, rest)
  | '=' :: rest =>
    match skipSpace rest with
    | [] => none
    | q :: more =>
      if q == '>' then some ([], false, q :: more)
      else if q == '"' || q == '\'' then
        let (value, after) := spanUntil (· == q) more
        match after with
        | [] => none
        | _ :: after => some (value, false, after)
      else
        let (value, after) := spanUntil (fun c => isTagSpace c || c == '>') more
        match after with
        | [] => none
        | '>' :: _ => some (q :: value, true, after)
        | _ :: after => some (q :: value, false, after)
  | other => some ([], false, other)

/-- The attributes of a tag and what follows its closing bracket; `none` when the input ends. -/
def attrs? : Nat → List Char → Option (List RawAttr × List Char)
  | 0, _ => none
  | n + 1, cs =>
    match skipSpace cs with
    | [] => none
    | '>' :: rest => some ([], rest)
    | c :: more =>
      let stop := fun c => isTagSpace c || c == '=' || c == '/' || c == '>'
      let (name, rest) :=
        if c == '=' then
          let (tail, rest) := spanUntil stop more
          (c :: tail, rest)
        else spanUntil stop (c :: more)
      if rest.isEmpty then none
      else
        match attrValue? rest with
        | none => none
        | some (value, endsTag, after) =>
          match attrs? n after with
          | none => none
          | some (as, final) =>
            some (if name.isEmpty then as else ⟨name, value, endsTag⟩ :: as, final)

/-- The name and attributes of a tag from its first letter on, and what follows the tag. -/
def tag? (cs : List Char) : Option (List Char × List RawAttr × List Char) :=
  let (name, rest) := spanUntil (fun c => isTagSpace c || c == '/' || c == '>') cs
  match rest with
  | [] => none
  | _ =>
    match attrs? (rest.length + 1) rest with
    | none => none
    | some (as, after) => some (name, as, after)

/-- What follows a comment, of which the opening dashes have been read. -/
def afterComment : Nat → Bool → List Char → List Char
  | _, _, [] => []
  | dashes, beginning, c :: cs =>
    if c == '-' then afterComment (dashes + 1) beginning cs
    else if c == '>' && (dashes ≥ 2 || beginning) then cs
    else if c == '!' && dashes ≥ 2 then
      match cs with
      | [] => []
      | '>' :: rest => rest
      | '-' :: rest => afterComment 1 false rest
      | _ :: rest => afterComment 0 false rest
    else afterComment 0 false cs

/-- What follows the next closing bracket. -/
def afterAngle (cs : List Char) : List Char := (cs.dropWhile (· != '>')).drop 1

/-- Letters compared without regard to case. -/
def sameLetter (a b : Char) : Bool := a.toLower == b.toLower

/-- The rest after `word`, in any case, at the front. -/
def dropWord? : List Char → List Char → Option (List Char)
  | [], cs => some cs
  | _ :: _, [] => none
  | w :: ws, c :: cs => if sameLetter w c then dropWord? ws cs else none

/-- Whether `name` and an end of a name stand at the front. -/
def isEndOf (name cs : List Char) : Bool :=
  match dropWord? name cs with
  | some (c :: _) => isTagSpace c || c == '/' || c == '>'
  | _ => false

/-- Raw text up to the end tag of `name`. -/
def rawText (name : List Char) : List Char → List Char × List Char
  | [] => ([], [])
  | '<' :: '/' :: cs =>
    if isEndOf name cs then ([], '<' :: '/' :: cs)
    else
      let (text, rest) := rawText name cs
      ('<' :: '/' :: text, rest)
  | c :: cs =>
    let (text, rest) := rawText name cs
    (c :: text, rest)

/-- How deep the comments in a script hide its end tag. -/
inductive ScriptState where
  | plain | escaped | escapedDash | escapedDashDash | double | doubleDash | doubleDashDash
deriving DecidableEq, Repr

/-- The state after a character in an escaped part. -/
def ScriptState.onChar (dash dashDash base : ScriptState) (s : ScriptState) (c : Char) :
    ScriptState :=
  if c == '-' then (if s == dash || s == dashDash then dashDash else dash)
  else if c == '>' && s == dashDash then .plain
  else base

/-- The name of the element whose raw text has rules of its own. -/
def scriptName : List Char := "script".toList

/-- The length of the text of a script up to its end tag. -/
def scriptLength : Nat → ScriptState → List Char → Nat
  | 0, _, _ => 0
  | _ + 1, _, [] => 0
  | n + 1, .plain, cs =>
    match cs with
    | '<' :: '/' :: rest => if isEndOf scriptName rest then 0 else 2 + scriptLength n .plain rest
    | '<' :: '!' :: '-' :: '-' :: rest => 4 + scriptLength n .escapedDashDash rest
    | _ :: rest => 1 + scriptLength n .plain rest
    | [] => 0
  | n + 1, s, c :: cs =>
    if s == .escaped || s == .escapedDash || s == .escapedDashDash then
      if c == '<' then
        match cs with
        | '/' :: rest => if isEndOf scriptName rest then 0 else 2 + scriptLength n .escaped rest
        | d :: _ =>
          if isTagLetter d then
            if isEndOf scriptName cs then 8 + scriptLength n .double (cs.drop 7)
            else 1 + scriptLength n .escaped cs
          else 1 + scriptLength n .plain cs
        | [] => 1
      else 1 + scriptLength n (ScriptState.onChar .escapedDash .escapedDashDash .escaped s c) cs
    else
      if c == '<' then
        match cs with
        | '/' :: rest =>
          if isEndOf scriptName rest then 9 + scriptLength n .escaped (rest.drop 7)
          else 2 + scriptLength n .double rest
        | _ => 1 + scriptLength n .double cs
      else 1 + scriptLength n (ScriptState.onChar .doubleDash .doubleDashDash .double s c) cs

/-- The elements whose content is raw text. -/
def rawElements : List String := [
  "iframe", "noembed", "noframes", "noscript", "plaintext", "script", "style", "textarea",
  "title", "xmp"]

/-- Whether a tag, comment or declaration begins here. -/
def opensMarkup : List Char → Bool
  | '<' :: c :: _ => isTagLetter c || c == '/' || c == '!' || c == '?'
  | _ => false

/-- Text up to where markup begins. -/
def plainText : List Char → List Char × List Char
  | [] => ([], [])
  | c :: cs =>
    if opensMarkup (c :: cs) then ([], c :: cs)
    else
      let (text, rest) := plainText cs
      (c :: text, rest)

/-- The token for a declaration, of which `<!` has been read. -/
def declaration (all cs : List Char) : Token × List Char :=
  let upTo := fun (kind : TokenKind) (rest : List Char) =>
    (⟨kind, all.take (all.length - rest.length), [], [], false, false⟩, rest)
  match cs with
  | '-' :: '-' :: body => upTo .comment (afterComment 0 true body)
  | _ :: _ :: _ =>
    match dropWord? "doctype".toList cs with
    | some rest => upTo .doctype (afterAngle (skipSpace rest))
    | none => upTo .comment (afterAngle cs)
  | _ => upTo .comment []

/-- The token at the front and the rest, where markup begins; `none` when a tag is unfinished. -/
def markupToken? (all : List Char) : Option (Token × List Char) :=
  let source := fun (rest : List Char) => all.take (all.length - rest.length)
  match all with
  | '<' :: '/' :: [] => some (⟨.text, all, [], [], false, false⟩, [])
  | '<' :: '/' :: c :: cs =>
    if c == '>' then some (⟨.comment, source cs, [], [], false, false⟩, cs)
    else if isTagLetter c then
      (tag? (c :: cs)).map fun (name, _, rest) =>
        (⟨.endTag, source rest, name, [], false, false⟩, rest)
    else
      let rest := afterAngle (c :: cs)
      some (⟨.comment, source rest, [], [], false, false⟩, rest)
  | '<' :: '!' :: cs => some (declaration all cs)
  | '<' :: '?' :: cs =>
    let rest := afterAngle cs
    some (⟨.comment, source rest, [], [], false, false⟩, rest)
  | '<' :: cs =>
    (tag? cs).map fun (name, as, rest) =>
      let src := source rest
      let slash := src.reverse.drop 1 |>.head? |> (· == some '/')
      let inValue := (as.getLast?.map RawAttr.endsTag).getD false
      (⟨if slash && !inValue then .selfClosing else .startTag, src, name, as, false, false⟩, rest)
  | _ => none

/-- The name of the raw text element that a token opens. -/
def opensRaw? (t : Token) : Option String :=
  if t.kind = .startTag ∨ t.kind = .selfClosing then
    let name := String.ofList (t.name.map Char.toLower)
    if rawElements.contains name then some name else none
  else none

/-- The raw text of an element, and the rest. -/
def elementText (name : String) (cs : List Char) : List Char × List Char :=
  if name == "plaintext" then (cs, [])
  else if name == "script" then
    let n := scriptLength (cs.length + 1) .plain cs
    (cs.take n, cs.drop n)
  else rawText name.toList cs

/-- The tokens of a text; `inside` names the raw text element that has just been opened. -/
def tokens : Nat → Option String → List Char → List Token
  | 0, _, _ => []
  | n + 1, some name, cs =>
    let (text, rest) := elementText name cs
    if text.isEmpty then tokens n none cs
    else
      let raw := name != "textarea" && name != "title"
      ⟨.text, text, [], [], raw, true⟩ :: tokens n none rest
  | n + 1, none, cs =>
    if cs.isEmpty then []
    else
      let (text, rest) := plainText cs
      if !text.isEmpty then ⟨.text, text, [], [], false, false⟩ :: tokens n none rest
      else
        match markupToken? cs with
        | none => []
        | some (t, after) => t :: tokens n (opensRaw? t) after

/-- The tokens of a text. -/
def tokenize (cs : List Char) : List Token := tokens (2 * cs.length + 2) none cs

end Trellis.Html
