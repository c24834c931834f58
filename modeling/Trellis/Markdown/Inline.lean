/-
Running text in Markdown: emphasis, code, links, images, breaks and addresses.

The text is read once from the left into pieces.  Runs of `*`, `_` and `~` and opening brackets are
kept as such; a closing bracket that ends a link takes the pieces of its text off the stack.  In the
end runs that close are matched with those that open.
-/
import Trellis.Markdown.Address
import Trellis.Markdown.Link
import Trellis.Markdown.Cursor

namespace Trellis.Markdown

/-- Running text. -/
inductive Inline where
  /-- text as the document writes it -/
  | text (cs : List Char)
  | softBreak
  | hardBreak
  | code (cs : List Char)
  | emphasis (items : List Inline)
  | strong (items : List Inline)
  | deleted (items : List Inline)
  | link (target : Target) (items : List Inline)
  | image (target : Target) (items : List Inline)
  /-- an address that is its own text, after what it lacks to lead somewhere -/
  | address (lead : String) (label : List Char)
  /-- raw markup, which is not passed on -/
  | markup
  /-- the box of a task -/
  | task (done : Bool)

namespace Inline

mutual

/-- Whether there is a link in running text. -/
def hasLink : Inline → Bool
  | .link _ _ => true
  | .emphasis items | .strong items | .deleted items | .image _ items => anyLink items
  | _ => false

def anyLink : List Inline → Bool
  | [] => false
  | i :: is => hasLink i || anyLink is

end

end Inline

/-- What is left of a run of marks. -/
structure Marks where
  char : Char
  count : Nat
  /-- how many there were -/
  whole : Nat
  opens : Bool
  closes : Bool

/-- A piece of running text while it is read. -/
inductive Piece where
  | done (i : Inline)
  | marks (m : Marks)
  /-- an opening bracket, and what follows it -/
  | bracket (image : Bool) (rest : List Char)

namespace Piece

/-- Marks that did not match are text. -/
def settled : Piece → Inline
  | .done i => i
  | .marks m => .text (List.replicate m.count m.char)
  | .bracket image _ => .text (if image then ['!', '['] else ['['])

def hasLink : Piece → Bool
  | .done i => i.hasLink
  | _ => false

def isBracket : Piece → Bool
  | .bracket _ _ => true
  | _ => false

end Piece

/-! ## Emphasis -/

/-- A run of marks between two characters. -/
def Marks.ofRun (c : Char) (count : Nat) (before after : Char) : Marks :=
  let left := !Text.isBlank after &&
    (!Text.isPunctuation after || Text.isBlank before || Text.isPunctuation before)
  let right := !Text.isBlank before &&
    (!Text.isPunctuation before || Text.isBlank after || Text.isPunctuation after)
  if c == '_' then
    { char := c, count, whole := count, opens := left && (!right || Text.isPunctuation before)
      closes := right && (!left || Text.isPunctuation after) }
  else { char := c, count, whole := count, opens := left, closes := right }

/-- Whether a run opens what another closes, and how many marks of each that uses. -/
def Marks.match? (opener closer : Marks) : Option Nat :=
  if opener.char != closer.char || !opener.opens || opener.count == 0 then none
  else if (opener.closes || closer.opens) &&
      (opener.whole + closer.whole) % 3 == 0 && closer.whole % 3 != 0 then none
  else some (if opener.count ≥ 2 && closer.count ≥ 2 then 2 else 1)

/-- The pieces after the last one that opens what `closer` closes, that one, and the pieces before
it, on a stack. -/
def openerOf? (closer : Marks) : List Piece → Option (List Piece × Marks × Nat × List Piece)
  | [] => none
  | p :: rest =>
    let further := (openerOf? closer rest).map fun (inner, m) => (p :: inner, m)
    match p with
    | .marks m =>
      match m.match? closer with
      | some used => some ([], m, used, rest)
      | none => further
    | _ => further

/-- What marks enclose. -/
def enclose (c : Char) (used : Nat) (items : List Inline) : Inline :=
  if c == '~' then .deleted items else if used == 2 then .strong items else .emphasis items

/-- Puts a run of marks on the stack, after it has closed all that it can. -/
def closeMarks : Nat → List Piece → Marks → List Piece
  | 0, stack, m => .marks m :: stack
  | n + 1, stack, m =>
    if m.count == 0 then stack
    else if !m.closes then .marks m :: stack
    else match openerOf? m stack with
      | none => .marks m :: stack
      | some (inner, opener, used, rest) =>
        let node := enclose m.char used (inner.reverse.map Piece.settled)
        let left := { opener with count := opener.count - used }
        let rest := if left.count == 0 then rest else .marks left :: rest
        closeMarks n (.done node :: rest) { m with count := m.count - used }

/-- Matches the runs of marks among pieces. -/
def settle (pieces : List Piece) : List Inline :=
  let step := fun (stack : List Piece) (p : Piece) =>
    match p with
    | .marks m => closeMarks (m.count + 1) stack m
    | p => p :: stack
  (pieces.foldl step []).reverse.map Piece.settled

/-! ## Code -/

/-- The code up to a run of as many backticks. -/
def codeTo? (ticks : Nat) : Nat → List Char → Option (List Char)
  | 0, _ => none
  | _ + 1, [] => none
  | n + 1, c :: cs =>
    if c == '\x60' then
      let run := (c :: cs).takeWhile (· == '\x60')
      if run.length == ticks then some []
      else (codeTo? ticks n ((c :: cs).dropWhile (· == '\x60'))).map (run ++ ·)
    else (codeTo? ticks n cs).map (c :: ·)

/-- A blank or a line end at both ends of code is left out, unless there are blanks only. -/
def codeText (cs : List Char) : List Char :=
  let isEdge := fun (c : Char) => c == ' ' || c == '\n'
  if cs.head?.any isEdge && cs.getLast?.any isEdge && !isBlankLine cs then (cs.drop 1).dropLast
  else cs

/-- In a cell of a table bars in code have a backslash before them. -/
def barText : List Char → List Char
  | '\\' :: '|' :: cs => '|' :: barText cs
  | c :: cs => c :: barText cs
  | [] => []

/-! ## Brackets -/

/-- The last open bracket on a stack with the pieces after it, in their order, and those before
it. -/
def lastBracket? : List Piece → List Piece →
    Option (List Piece × (Bool × List Char) × List Piece)
  | inner, .bracket image rest :: more => some (inner, (image, rest), more)
  | inner, p :: more => lastBracket? (p :: inner) more
  | _, [] => none

/-- The target of a label of at most 999 bytes. -/
def labelTarget? (refs : References) (label : List Char) : Option Target :=
  if (String.ofList label).utf8ByteSize > 999 then none else refs.find? label

/-- The target that follows a closing bracket, and the place after it; `label` is what the brackets
hold. -/
def targetAfter? (refs : References) (label : List Char) (s : Scan) : Option (Target × Scan) :=
  let short := fun (_ : Unit) => (labelTarget? refs label).map (·, s)
  match s.line with
  | '(' :: _ => inlineTarget? s <|> short ()
  | '[' :: _ =>
    match (s.advance 1).closure '[' ']' with
    | (some other, after) =>
      (labelTarget? refs (if isBlankLine other then label else other)).map (·, after)
    | (none, _) => short ()
  | _ => short ()

/-- Reads a closing bracket: the new stack, and the place after the link that it ends. -/
def closeBracket (refs : References) (stack : List Piece) (s : Scan) :
    List Piece × Option Scan :=
  match lastBracket? [] stack with
  | none => (stack, none)
  | some (inner, (image, start), before) =>
    let failed := (inner.reverse ++ .done (Piece.bracket image start).settled :: before, none)
    let label := start.take (start.length - s.rest.length)
    if !image && inner.any Piece.hasLink then failed
    else match targetAfter? refs label (s.advance 1) with
      | none => failed
      | some (t, after) =>
        let node := if image then Inline.image t (settle inner) else .link t (settle inner)
        (.done node :: before, some after)

/-! ## Reading -/

/-- What surrounds running text. -/
structure Surroundings where
  references : References
  /-- the text begins an item of a list, so it may begin with the box of a task -/
  inItem : Bool := false
  /-- the text is a cell of a table -/
  inCell : Bool := false

/-- How a line ends. -/
inductive LineBreak where
  | none
  | soft
  | hard
  /-- with a backslash, before which blanks stay -/
  | visible
deriving DecidableEq

/-- How a line ends, and the length of what stands before that. -/
def lineBreak (line : List Char) : Nat × LineBreak :=
  let n := line.length
  let escape := fun (rest : List Char) (size : Nat) =>
    if rest.head? == some '\\' then (n, LineBreak.soft) else (n - size, .visible)
  match line.reverse with
  | '\n' :: '\\' :: rest => escape rest 2
  | '\n' :: '\r' :: '\\' :: rest => escape rest 3
  | '\n' :: ' ' :: ' ' :: _ => (n - 3, .hard)
  | '\n' :: '\r' :: ' ' :: ' ' :: _ => (n - 4, .hard)
  | '\n' :: _ => (n, .soft)
  | _ => (n, .none)

/-- The box of a task at the front of a line: whether it is done, and its length. -/
def task? (line : List Char) : Option (Bool × Nat) :=
  let isGap := fun (c : Char) => isSpace c && c.toNat != 11
  match line with
  | '[' :: c :: ']' :: rest =>
    if isGap c || c == 'x' || c == 'X' then some (!isGap c, 3 + (rest.takeWhile isGap).length)
    else none
  | _ => none

/-- Reads an address in running text, after a mark that may stand before it. -/
def readAddress (stack : List Piece) (s : Scan) : List Piece × Option Scan :=
  let lead := s.line.take 1
  let marked := lead.any fun c => " *_~(".toList.contains c
  if stack.any Piece.isBracket then (stack, none)
  else match looseAddress? (if marked then s.line.drop 1 else s.line) with
    | none => (stack, none)
    | some (label, scheme) =>
      let stack := if marked then .done (.text lead) :: stack else stack
      (.done (.address scheme label) :: stack,
        some (s.advance (label.length + (if marked then 1 else 0))))

/-- Reads an address or raw markup in angle brackets. -/
def readAngle (stack : List Piece) (s : Scan) : List Piece × Option Scan :=
  match autolink? (s.line.drop 1) with
  | some (label, mail) =>
    let named := mail && Text.startsWith (Text.lower (String.ofList label)) "mailto:"
    (.done (.address (if mail && !named then "mailto:" else "") label) :: stack,
      some (s.advance (label.length + 2)))
  | none =>
    match rawMarkup? s.rest with
    | some rest => (.done .markup :: stack, some (s.advance (s.rest.length - rest.length)))
    | none => (stack, none)

/-- Reads what begins with a mark: the new stack, and the place after it if there is such a thing.
-/
def readMark (around : Surroundings) (mark : Char) (stack : List Piece) (s : Scan) :
    List Piece × Option Scan :=
  let run := (s.line.takeWhile (· == mark)).length
  let marks := fun (_ : Unit) =>
    let after := (s.line.drop run).headD ' '
    (.marks (Marks.ofRun mark run s.before after) :: stack, some (s.advance run))
  match mark with
  | '\x60' =>
    let rest := s.rest.drop run
    match codeTo? run (rest.length + 1) rest with
    | some code =>
      let text := codeText code
      (.done (.code (if around.inCell then barText text else text)) :: stack,
        some (s.advance (run + code.length + run)))
    | none => (.done (.text (List.replicate run mark)) :: stack, some (s.advance run))
  | '!' =>
    if s.line[1]? == some '[' then
      (.bracket true (s.rest.drop 2) :: stack, some (s.advance 2))
    else (stack, none)
  | '[' =>
    match if around.inItem && stack.isEmpty then task? s.line else none with
    | some (done, n) => (.done (.task done) :: stack, some (s.advance n))
    | none => (.bracket false (s.rest.drop 1) :: stack, some (s.advance 1))
  | ']' => closeBracket around.references stack s
  | '<' => readAngle stack s
  | '*' | '_' => marks ()
  | '~' => if run ≤ 2 && s.before != '~' then marks () else readAddress stack s
  | ' ' | '(' => readAddress stack s
  | _ => (stack, none)

/-- The marks that something may begin with; a blank stands for all blanks and for the front of a
line. -/
def isMark (c : Char) : Bool := "\x60![]<*_~ (".toList.contains c

/-- What is known while a line is read. -/
structure Walk where
  stack : List Piece
  /-- the last character was a backslash -/
  escaped : Bool
  /-- the text that has not been put on the stack, the last character first -/
  pending : List Char := []
  /-- at the front of the line or after a piece -/
  fresh : Bool := true
  /-- how many characters stand before the line's end -/
  left : Nat
  ending : LineBreak

/-- Begins to read what is left of a line. -/
def Walk.begin (stack : List Piece) (escaped : Bool) (s : Scan) : Walk :=
  let (left, ending) := lineBreak s.line
  { stack, escaped, left, ending }

/-- The stack at the end of a line. -/
def Walk.finish (w : Walk) : List Piece :=
  let text := if w.ending == .visible then w.pending else w.pending.dropWhile isSpace
  let stack := if text.isEmpty then w.stack else .done (.text text.reverse) :: w.stack
  match w.ending with
  | .none => stack
  | .soft => .done .softBreak :: stack
  | .hard | .visible => .done .hardBreak :: stack

/-- Reads running text into pieces, the last one first. -/
def pieces (around : Surroundings) : Nat → Walk → Scan → List Piece
  | 0, w, _ => w.finish
  | n + 1, w, s =>
    let ended := fun (_ : Unit) =>
      let next := s.nextLine
      if next.line.isEmpty then w.finish
      else pieces around n (Walk.begin w.finish w.escaped next) next
    match w.left, s.line with
    | left + 1, c :: _ =>
      if c == '\n' then ended ()
      else
        let space := isSpace c && c != '\r'
        let mark := if space || (w.fresh && !isPunct c) then ' ' else c
        let tries := ((isPunct c && !w.escaped) || space || w.fresh) && isMark mark
        let stack := if tries && !w.pending.isEmpty then
            .done (.text w.pending.reverse) :: w.stack
          else w.stack
        let pending := if tries then [] else w.pending
        match if tries then readMark around mark stack s else (stack, none) with
        | (stack, some after) =>
          if after.line.isEmpty then stack
          else pieces around n (Walk.begin stack w.escaped after) after
        | (stack, none) =>
          pieces around n
            { w with stack, pending := c :: pending, fresh := false, left,
                     escaped := c == '\\' && !w.escaped }
            (s.advance 1)
    | _, _ => ended ()

/-- Reads running text. -/
def Inline.read (around : Surroundings) (lines : List Line) : List Inline :=
  let s := Scan.ofLines lines
  if s.line.isEmpty then []
  else settle (pieces around (2 * s.rest.length + 2) (Walk.begin [] false s) s).reverse

end Trellis.Markdown
