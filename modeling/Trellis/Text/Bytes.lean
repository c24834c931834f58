/-
Texts as bytes in UTF-8.

Where a text is cut between bytes, a byte is held as the character of the same number, so that the
functions on characters apply.
-/
import Trellis.Text.Quoted
import Trellis.Text.Search

namespace Trellis.Text

/-- The character at the front of bytes in UTF-8, and how many bytes it takes; none when the bytes
are not those of a character. -/
def utf8Char? (bytes : List Nat) : Option (Char × Nat) :=
  let more := fun (n : Nat) (low start : Nat) =>
    let tail := (bytes.drop 1).take n
    let code := tail.foldl (fun k b => k * 64 + b % 64) start
    if tail.length == n && tail.all (fun b => 128 ≤ b && b < 192) && low ≤ code &&
      code ≤ 0x10FFFF &&
      !(0xD800 ≤ code && code < 0xE000) then some (Char.ofNat code, n + 1) else none
  match bytes with
  | [] => none
  | b :: _ =>
    if b < 128 then some (Char.ofNat b, 1)
    else if b < 192 then none
    else if b < 224 then more 1 0x80 (b - 192)
    else if b < 240 then more 2 0x800 (b - 224)
    else if b < 248 then more 3 0x10000 (b - 240)
    else none

/-- The text that bytes in UTF-8 stand for; a byte that belongs to no character is replaced. -/
def ofUtf8 : Nat → List Nat → List Char
  | 0, _ | _, [] => []
  | n + 1, b :: bs =>
    match utf8Char? (b :: bs) with
    | some (c, width) => c :: ofUtf8 n ((b :: bs).drop width)
    | none => '\ufffd' :: ofUtf8 n bs

/-- The bytes of a text, each as the character of its number. -/
def byteChars (s : String) : List Char := s.toUTF8.toList.map fun b => Char.ofNat b.toNat

/-- The character at the front of bytes and how many bytes it takes.  A byte that belongs to no
character counts as one that is replaced. -/
def frontChar (bytes : List Char) : Char × Nat :=
  (utf8Char? ((bytes.take 4).map Char.toNat)).getD ('\ufffd', 1)

/-- The text that bytes stand for. -/
def ofByteChars (bytes : List Char) : String :=
  String.ofList (ofUtf8 bytes.length (bytes.map Char.toNat))

/-- Bytes between double quotes, where one that belongs to no character is written by its number. -/
def quoteBytes (bytes : List Char) : String :=
  String.ofList ('"' :: inside bytes.length (bytes.map Char.toNat) ++ ['"'])
where
  inside : Nat → List Nat → List Char
    | 0, _ | _, [] => []
    | n + 1, b :: bs =>
      match utf8Char? (b :: bs) with
      | some (c, width) => escapeChar c ++ inside n ((b :: bs).drop width)
      | none => '\\' :: 'x' :: hexDigits 2 b ++ inside n bs

end Trellis.Text

/-!
Bytes written as text: four characters of an alphabet of 64 stand for three bytes, and an equals
sign stands for a character that is missing in the last group.
-/

namespace Trellis.Text

/-- The value of a character of the alphabet. -/
def sextet? (c : Char) : Option Nat :=
  if 'A' ≤ c && c ≤ 'Z' then some (c.toNat - 65)
  else if 'a' ≤ c && c ≤ 'z' then some (c.toNat - 71)
  else if '0' ≤ c && c ≤ '9' then some (c.toNat + 4)
  else if c == '+' then some 62
  else if c == '/' then some 63
  else none

/-- The character of the alphabet with a value. -/
def sextetChar (n : Nat) : Char :=
  if n < 26 then Char.ofNat (n + 65)
  else if n < 52 then Char.ofNat (n + 71)
  else if n < 62 then Char.ofNat (n - 4)
  else if n == 62 then '+'
  else '/'

/-- Bytes in groups of four characters. -/
def base64Chars : List Nat → List Char
  | [] => []
  | [a] => [sextetChar (a / 4), sextetChar (a % 4 * 16), '=', '=']
  | [a, b] =>
    [sextetChar (a / 4), sextetChar (a % 4 * 16 + b / 16), sextetChar (b % 16 * 4), '=']
  | a :: b :: c :: rest =>
    sextetChar (a / 4) :: sextetChar (a % 4 * 16 + b / 16) :: sextetChar (b % 16 * 4 + c / 64) ::
      sextetChar (c % 64) :: base64Chars rest

/-- The bytes of groups of four characters. -/
def base64Bytes? : List Char → Option (List Nat)
  | [] => some []
  | [a, b, '=', '='] => do
    let (x, y) := (← sextet? a, ← sextet? b)
    return [x * 4 + y / 16]
  | [a, b, c, '='] => do
    let (x, y, z) := (← sextet? a, ← sextet? b, ← sextet? c)
    return [x * 4 + y / 16, y % 16 * 16 + z / 4]
  | a :: b :: c :: d :: rest => do
    let (x, y, z, w) := (← sextet? a, ← sextet? b, ← sextet? c, ← sextet? d)
    return [x * 4 + y / 16, y % 16 * 16 + z / 4, z % 4 * 64 + w] ++ (← base64Bytes? rest)
  | _ => none

/-- The text whose bytes are written in base 64; line breaks in between do not count. -/
def base64? (s : String) : Option String := do
  let bytes ← base64Bytes? (s.toList.filter fun c => c != '\n' && c != '\r')
  return String.ofList (ofUtf8 (bytes.length + 1) bytes)

end Trellis.Text
