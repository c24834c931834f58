/-
Spelling suggestions: of a list of names, the one that differs least from what was written.

Distances are counted on the bytes of the names in lower case.  The table of distances is kept one
row at a time.
-/
import Trellis.Fault.Basic
import Trellis.Text.Case

namespace Trellis.Fault

/-- The bytes of a text. -/
def bytesOf (s : String) : List UInt8 := s.toUTF8.toList

/-- The next row of the distance table: `diag` and `above` run along the row before, `left` is the
entry just made. -/
def nextRow (x : UInt8) : List UInt8 → Nat → Nat → List Nat → List Nat
  | [], _, _, _ => []
  | _ :: _, _, _, [] => []
  | y :: ys, diag, left, above :: rest =>
    let cost := if x == y then 0 else 1
    let here := min (min (above + 1) (left + 1)) (diag + cost)
    here :: nextRow x ys above here rest

/-- The row of the distance table for a list one longer. -/
def extendRow (b : List UInt8) (row : List Nat) (x : UInt8) : List Nat :=
  match row with
  | [] => []
  | first :: rest => (first + 1) :: nextRow x b first (first + 1) rest

/-- The number of single-byte insertions, removals and replacements between two lists. -/
def editDistance (a b : List UInt8) : Nat :=
  ((a.foldl (extendRow b) (List.range (b.length + 1))).getLast?).getD 0

/-- The greatest distance at which a name is suggested: one for up to three bytes, two for up to
six, three beyond. -/
def threshold (length : Nat) : Nat := if length < 4 then 1 else if length < 7 then 2 else 3

/-- The first of the candidates with the least distance, with that distance. -/
def nearest (input : List UInt8) : List String → Option (String × Nat)
  | [] => none
  | c :: cs =>
    let d := editDistance input (bytesOf (Text.lower c))
    match nearest input cs with
    | none => some (c, d)
    | some (best, least) => if least < d then some (best, least) else some (c, d)

/-- The candidate closest to `input`, or the empty text when none is close or one is equal. -/
def closest (input : String) (candidates : List String) : String :=
  if input.isEmpty then ""
  else
    match nearest (bytesOf (Text.lower input)) (Text.sortTexts candidates) with
    | none => ""
    | some (best, d) => if d == 0 || threshold input.utf8ByteSize < d then "" else best

/-- `f` with a hint when one of the candidates is close to `input`. -/
def suggesting (f : Fault) (input : String) (candidates : List String) : Fault :=
  match closest input candidates with
  | "" => f
  | best => { f with hints := f.hints ++ ["Did you mean `" ++ best ++ "`?"] }

end Trellis.Fault
