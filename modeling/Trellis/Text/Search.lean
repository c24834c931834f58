/-
Searching and cutting texts: the first occurrence of a piece, what stands before and after it,
replacement of every occurrence.  Everything is stated on lists of characters.
-/

namespace Trellis.Text

/-- `some rest` when `cs` begins with `piece` and `rest` follows it. -/
def dropPiece? : List Char → List Char → Option (List Char)
  | [], cs => some cs
  | _ :: _, [] => none
  | p :: ps, c :: cs => if p == c then dropPiece? ps cs else none

/-- The part of `cs` before the first occurrence of `piece`, and the part after it. -/
def cutChars (piece : List Char) : List Char → Option (List Char × List Char)
  | [] => if piece.isEmpty then some ([], []) else none
  | c :: cs =>
    match dropPiece? piece (c :: cs) with
    | some rest => some ([], rest)
    | none => (cutChars piece cs).map fun (before, after) => (c :: before, after)

/-- The text before the first occurrence of `piece`, and the text after it. -/
def cut? (s piece : String) : Option (String × String) :=
  (cutChars piece.toList s.toList).map fun (a, b) => (String.ofList a, String.ofList b)

/-- Whether `piece` occurs in `s`. -/
def hasPiece (s piece : String) : Bool := (cutChars piece.toList s.toList).isSome

/-- Whether `s` begins with `piece`. -/
def startsWith (s piece : String) : Bool := (dropPiece? piece.toList s.toList).isSome

/-- Whether `s` ends with `piece`. -/
def endsWith (s piece : String) : Bool :=
  (dropPiece? piece.toList.reverse s.toList.reverse).isSome

/-- `s` without `piece` at its front, when it is there. -/
def dropFront (s piece : String) : String :=
  match dropPiece? piece.toList s.toList with
  | some rest => String.ofList rest
  | none => s

/-- `s` without `piece` at its end, when it is there. -/
def dropBack (s piece : String) : String :=
  match dropPiece? piece.toList.reverse s.toList.reverse with
  | some rest => String.ofList rest.reverse
  | none => s

/-- The pieces between the occurrences of a separator character. -/
def splitChars (sep : Char) : List Char → List (List Char)
  | [] => [[]]
  | c :: cs =>
    match splitChars sep cs with
    | [] => [[c]]
    | w :: ws => if c == sep then [] :: w :: ws else (c :: w) :: ws

/-- The texts between the occurrences of a separator character; one more than there are
separators. -/
def splitOnChar (s : String) (sep : Char) : List String :=
  (splitChars sep s.toList).map String.ofList

/-- Every occurrence of the non-empty `piece` replaced, from the left and without overlap. -/
def replaceChars (piece new : List Char) : Nat → List Char → List Char
  | 0, cs => cs
  | fuel + 1, cs =>
    match cutChars piece cs with
    | none => cs
    | some (before, after) => before ++ new ++ replaceChars piece new fuel after

/-- Every occurrence of the non-empty `piece` replaced by `new`. -/
def replaceAll (s piece new : String) : String :=
  String.ofList (replaceChars piece.toList new.toList s.length s.toList)

/-- The number of times `c` occurs. -/
def countChar (s : String) (c : Char) : Nat := s.toList.countP (· == c)

/-- Texts in the order of their code points, which is also the order of their bytes. -/
def textLe (a b : String) : Bool := !(b < a)

/-- A list of texts in ascending order. -/
def sortTexts (xs : List String) : List String := xs.mergeSort textLe

/-- A list without the later copies of its elements. -/
def dedup (xs : List String) : List String :=
  (xs.foldl (fun acc x => if acc.contains x then acc else x :: acc) []).reverse

end Trellis.Text

/-! Blanks at the ends of a text, and splitting a text at blanks. -/

namespace Trellis.Text

/-- A blank: the characters with the Unicode property `White_Space`. -/
def isBlank (c : Char) : Bool :=
  let n := c.toNat
  (9 ≤ n && n ≤ 13) || n == 32 || n == 0x85 || n == 0xA0 || n == 0x1680 ||
  (0x2000 ≤ n && n ≤ 0x200A) || n == 0x2028 || n == 0x2029 || n == 0x202F || n == 0x205F ||
  n == 0x3000

/-- The list without the leading elements that satisfy `p`. -/
def trimLeftChars (p : Char → Bool) (cs : List Char) : List Char := cs.dropWhile p

/-- The list without the trailing elements that satisfy `p`. -/
def trimRightChars (p : Char → Bool) (cs : List Char) : List Char :=
  (cs.reverse.dropWhile p).reverse

/-- A text without blanks at either end. -/
def trim (s : String) : String :=
  String.ofList (trimRightChars isBlank (trimLeftChars isBlank s.toList))

/-- Whether a text holds blanks only. -/
def isBlankText (s : String) : Bool := s.toList.all isBlank

/-- The maximal runs of characters that do not satisfy `p`. -/
def fieldsOf (p : Char → Bool) (cs : List Char) : List (List Char) :=
  let step := fun (c : Char) (acc : List (List Char) × List Char) =>
    if p c then (if acc.2.isEmpty then acc.1 else acc.2 :: acc.1, []) else (acc.1, c :: acc.2)
  let (words, last) := cs.foldr step ([], [])
  if last.isEmpty then words else last :: words

/-- The words of a text: its maximal runs of characters that are not blanks. -/
def words (s : String) : List String := (fieldsOf isBlank s.toList).map String.ofList

end Trellis.Text
