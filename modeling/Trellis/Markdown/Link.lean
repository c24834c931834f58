/-
Where links lead: targets and titles in parentheses after their text, labels in brackets, and the
definitions that give labels their targets.
-/
import Trellis.Markdown.Cursor
import Trellis.Text.Search
import Trellis.Text.Case

namespace Trellis.Markdown

/-- Where a link leads, as the document writes it. -/
structure Target where
  address : List Char := []
  title : Option (List Char) := none
deriving DecidableEq, Repr

/-- The references of a document by their labels. -/
abbrev References := List (List Char × Target)

/-- Labels that differ in case and in blanks only are the same. -/
def normalLabel (cs : List Char) : List Char :=
  List.intercalate [' '] (Text.fieldsOf isSpace (Text.fold cs))

/-- The target of a label. -/
def References.find? (refs : References) (label : List Char) : Option Target :=
  refs.lookup (normalLabel label)

/-- The first definition of a label counts. -/
def References.add (refs : References) (label : List Char) (t : Target) : References :=
  if (refs.find? label).isSome then refs else refs ++ [(normalLabel label, t)]

/-! ## Targets -/

/-- How many characters stand before the first closing angle bracket of a line. -/
def angleLength? : List Char → Option Nat
  | '\\' :: c :: cs =>
    if isPunct c then (angleLength? cs).map (· + 2) else (angleLength? (c :: cs)).map (· + 1)
  | c :: cs => if c == '>' then some 0 else (angleLength? cs).map (· + 1)
  | [] => none

/-- How long an address without brackets is: it ends at a blank or at a parenthesis that it did not
open. -/
def bareLength : Nat → List Char → Nat
  | depth, '\\' :: c :: cs =>
    if isPunct c then bareLength depth cs + 2 else bareLength depth (c :: cs) + 1
  | depth, c :: cs =>
    if isSpace c then 0
    else if c == '(' then bareLength (depth + 1) cs + 1
    else if c == ')' then
      match depth with
      | 0 => 0
      | depth + 1 => bareLength depth cs + 1
    else bareLength depth cs + 1
  | _, [] => 0

/-- The address of a link. -/
def address? (s : Scan) : Option (List Char × Scan) :=
  let s := s.skipSpaces
  match s.line with
  | '<' :: rest => (angleLength? rest).map fun n => (rest.take n, s.advance (n + 2))
  | line =>
    let n := bareLength 0 line
    if n == 0 then none else some (line.take n, s.advance n)

/-- The mark that ends a title that begins with a mark. -/
def titleEnd? (c : Char) : Option Char :=
  if c == '"' || c == '\x27' then some c else if c == '(' then some ')' else none

/-- A title in quotes or parentheses. -/
def title? (s : Scan) : Option (List Char × Scan) := do
  let opener ← s.line.head?
  let closer ← titleEnd? opener
  let (title, s) := (s.advance 1).closure opener closer
  return (← title, s)

/-- The rest after a closing parenthesis. -/
def closed? (s : Scan) : Option Scan :=
  if s.line.head? == some ')' then some (s.advance 1) else none

/-- The target of a link in the parentheses after its text, from the first of them. -/
def inlineTarget? (s : Scan) : Option (Target × Scan) :=
  let s := (s.advance 1).skipSpaces
  match closed? s with
  | some s => some ({}, s)
  | none => do
    let (address, s) ← address? s
    let s := s.skipSpaces
    match closed? s with
    | some s => return (⟨address, none⟩, s)
    | none =>
      let (title, s) ← title? s
      let s ← closed? s.skipSpaces
      return (⟨address, some title⟩, s)

/-! ## Definitions -/

/-- A definition of a label in the lines of a paragraph. -/
structure Definition where
  label : List Char
  target : Target
  /-- its first line -/
  first : Nat
  /-- the line after its last one -/
  stop : Nat

/-- A definition at a place, and the place after it.  A title on a line of its own that other text
follows leaves that line in the paragraph. -/
def definition? (s : Scan) : Option (Definition × Scan) := do
  let s := s.skipSpaces
  let first := s.number
  if s.line.head? != some '[' then none
  let (label, s) := (s.advance 1).closure '[' ']'
  let label ← label
  if isBlankLine label || s.line.head? != some ':' then none
  let (address, s) ← address? (s.advance 1)
  let alone := isBlankLine s.line
  let stop := s.number
  let after := s.skipSpaces
  let define := fun (title : Option (List Char)) (stop : Nat) (s : Scan) =>
    some (⟨label, ⟨address, title⟩, first, stop⟩, s)
  match after.line.head?.bind fun c => (titleEnd? c).map (c, ·) with
  | none => if alone then define none (stop + 1) after else none
  | some (opener, closer) =>
    if !s.line.head?.any isSpace then none
    else match (after.advance 1).closure opener closer with
      | (none, s) => if alone then define none (stop + 1) s.nextLine else none
      | (some title, s) =>
        if isBlankLine s.line then define (some title) (s.number + 1) s
        else if alone then define (some title) (max stop (first + 1)) s
        else none

/-- The definitions at the front of a text. -/
def definitions : Nat → Scan → List Definition
  | 0, _ => []
  | n + 1, s =>
    match definition? s with
    | some (d, s) => d :: definitions n s
    | none => []

/-- Takes the definitions off the front of a paragraph. -/
def takeDefinitions (refs : References) (lines : List Line) : References × List Line :=
  let found := definitions (lines.length + 1) (Scan.ofLines lines)
  let kept := lines.zipIdx.filter fun (_, k) => !found.any fun d => d.first ≤ k && k < d.stop
  (found.foldl (fun refs d => refs.add d.label d.target) refs, kept.map (·.1))

end Trellis.Markdown
