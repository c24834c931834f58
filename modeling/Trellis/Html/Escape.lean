/-
Escaping text for HTML, and reading character references back.
-/
import Trellis.Html.Reference
import Trellis.Text.Decimal
import Trellis.Text.Search

namespace Trellis.Html

/-- One character of text or of an attribute value, with the five characters that mean something
to a reader of HTML written as references, and so the carriage return, which a reader would drop. -/
def escapeChar (c : Char) : List Char :=
  if c == '&' then "&amp;".toList
  else if c == '\'' then "&#39;".toList
  else if c == '<' then "&lt;".toList
  else if c == '>' then "&gt;".toList
  else if c == '"' then "&#34;".toList
  else if c == '\r' then "&#13;".toList
  else [c]

/-- Text escaped for HTML. -/
def escape (s : String) : String := String.ofList (s.toList.flatMap escapeChar)

/-- What the numeric references 128 to 159 stand for: the characters of code page 1252. -/
def codePage : List Nat := [
  0x20AC, 0x81, 0x201A, 0x0192, 0x201E, 0x2026, 0x2020, 0x2021, 0x02C6, 0x2030, 0x0160, 0x2039,
  0x0152, 0x8D, 0x017D, 0x8F, 0x90, 0x2018, 0x2019, 0x201C, 0x201D, 0x2022, 0x2013, 0x2014,
  0x02DC, 0x2122, 0x0161, 0x203A, 0x0153, 0x9D, 0x017E, 0x0178]

/-- The character of a numeric reference.  Numbers that are no character give U+FFFD. -/
def numericChar (x : Int) : Char :=
  if 0x80 ≤ x && x ≤ 0x9F then Char.ofNat (codePage.getD (x - 0x80).toNat 0xFFFD)
  else if x ≤ 0 || (0xD800 ≤ x && x ≤ 0xDFFF) || x > 0x10FFFF then '\ufffd'
  else Char.ofNat x.toNat

/-- The value of a digit in base ten or sixteen. -/
def digitValue? (hex : Bool) (c : Char) : Option Nat :=
  if '0' ≤ c && c ≤ '9' then some (c.toNat - 48)
  else if hex && 'a' ≤ c && c ≤ 'f' then some (c.toNat - 87)
  else if hex && 'A' ≤ c && c ≤ 'F' then some (c.toNat - 55)
  else none

/-- The number at the front, kept in 32 bits with a sign. -/
def referenceNumber (hex : Bool) : List Char → Int → Int × List Char
  | [], x => (x, [])
  | c :: cs, x =>
    match digitValue? hex c with
    | some d => referenceNumber hex cs (((if hex then 16 else 10) * x + d).bmod (power 2 32))
    | none => (x, c :: cs)

/-- A numeric reference after `&#`: its character and the rest. -/
def numericReference? (cs : List Char) : Option (Char × List Char) :=
  let (hex, body) := match cs with
    | c :: rest => if c == 'x' || c == 'X' then (true, rest) else (false, cs)
    | [] => (false, [])
  let (x, after) := referenceNumber hex body 0
  let closed := match after with
    | ';' :: _ => true
    | _ => false
  let used := cs.length - after.length + (if closed then 1 else 0)
  if cs.length < 2 || used < 2 then none
  else some (numericChar x, if closed then after.drop 1 else after)

/-- A letter or digit of ASCII. -/
def isNameChar (c : Char) : Bool := c.isAlphanum

/-- The longest reference without semicolon that begins `name`, of at most `size` characters. -/
def shortReference? (name : List Char) : Nat → Option (String × Nat)
  | 0 | 1 => none
  | n + 2 =>
    match reference? (String.ofList (name.take (n + 2))) with
    | some s => some (s, n + 2)
    | none => shortReference? name (n + 1)

/-- What stands for the characters after `&`, and the rest.  In an attribute a name without
semicolon before `=` is text, and so is one that only begins with a reference. -/
def namedReference (inAttribute : Bool) (cs : List Char) : List Char × List Char :=
  let word := cs.takeWhile isNameChar
  let rest := cs.dropWhile isNameChar
  let (name, rest, closed) := match rest with
    | ';' :: more => (word ++ [';'], more, true)
    | _ => (word, rest, false)
  let asText := ('&' :: name, rest)
  if name.isEmpty then asText
  else if inAttribute && !closed && rest.head? == some '=' then asText
  else
    match reference? (String.ofList name) with
    | some s => (s.toList, rest)
    | none =>
      if inAttribute then asText
      else
        match shortReference? name (min (name.length - 1) 6) with
        | some (s, n) => (s.toList, name.drop n ++ rest)
        | none => asText

/-- Text with its character references replaced. -/
def unescapeChars (inAttribute : Bool) : Nat → List Char → List Char
  | 0, cs => cs
  | _ + 1, [] => []
  | n + 1, c :: cs =>
    if c == '&' then
      match cs with
      | [] => ['&']
      | '#' :: more =>
        match numericReference? more with
        | some (ch, rest) => ch :: unescapeChars inAttribute n rest
        | none => '&' :: unescapeChars inAttribute n cs
      | _ =>
        let (text, rest) := namedReference inAttribute cs
        text ++ unescapeChars inAttribute n rest
    else c :: unescapeChars inAttribute n cs

/-- Text with its character references replaced. -/
def unescape (inAttribute : Bool) (s : String) : String :=
  if Text.hasPiece s "&" then
    String.ofList (unescapeChars inAttribute (s.length + 1) s.toList)
  else s

end Trellis.Html
