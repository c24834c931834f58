/-
Addresses in Markdown: in angle brackets, in running text, and as HTML writes them.
-/
import Trellis.Markdown.Tag
import Trellis.Text.Case

namespace Trellis.Markdown

/-! ## Mail addresses -/

/-- A character of the part of a mail address before `@`. -/
def isMailChar (c : Char) : Bool :=
  c.isAlphanum || ".!#$%&\x27*+/=?^_\x60\x7b|\x7d~-".toList.contains c

/-- How long the part of a host name at the front is: letters, digits and dashes, at most 63, with
no dash at either end. -/
def hostPartLength (cs : List Char) : Nat :=
  let run := (cs.takeWhile fun c => c.isAlphanum || c == '-').take 63
  if run.head?.any Char.isAlphanum then
    (run.reverse.dropWhile (· == '-')).length
  else 0

/-- How long the host name at the front is. -/
def hostNameLength : Nat → List Char → Nat
  | 0, _ => 0
  | n + 1, cs =>
    let part := hostPartLength cs
    match cs.drop part with
    | '.' :: more =>
      let further := hostNameLength n more
      if part == 0 then 0 else if further == 0 then part else part + 1 + further
    | _ => part

/-- How long the mail address at the front of a text is. -/
def mailLength? (cs : List Char) : Option Nat :=
  let name := cs.takeWhile isMailChar
  match cs.drop name.length with
  | '@' :: host =>
    let n := hostNameLength (host.length + 1) host
    if name.isEmpty || n == 0 then none else some (name.length + 1 + n)
  | _ => none

/-! ## Addresses in angle brackets -/

/-- A character of the scheme of an address. -/
def isSchemeChar (c : Char) : Bool := c.isAlphanum || c == '+' || c == '.' || c == '-'

/-- How long the address with a scheme at the front of a text is. -/
def schemeLength? (cs : List Char) : Option Nat :=
  let scheme := cs.takeWhile isSchemeChar
  match cs.drop scheme.length with
  | ':' :: rest =>
    if scheme.head?.any Char.isAlpha && 2 ≤ scheme.length && scheme.length ≤ 33 then
      some (scheme.length + 1 +
        (rest.takeWhile fun c => c.toNat > 32 && c != '<' && c != '>').length)
    else none
  | _ => none

/-- An address in angle brackets, after the first of them; `true` when it is a mail address. -/
def autolink? (cs : List Char) : Option (List Char × Bool) :=
  let found := match mailLength? cs with
    | some n => some (n, true)
    | none => (schemeLength? cs).map fun n => (n, false)
  found.bind fun (n, mail) => if cs[n]? == some '>' then some (cs.take n, mail) else none

/-! ## Addresses in running text -/

/-- The characters of host names and of what may stand around them. -/
def isHostChar (c : Char) : Bool := c.isAlphanum || "-@:%._+~#=".toList.contains c

/-- The characters of paths; a dollar sign only after a scheme. -/
def isPathChar (dollar : Bool) (c : Char) : Bool :=
  c.isAlphanum || "-@:%_+.~#!?&/=();,\x27\">^\x7b\x7d[]\x60".toList.contains c ||
    (dollar && c == '$')

/-- The longest front of `host`, of at most `n` characters before its last dot, that ends in a dot
and small letters. -/
def hostLength? (host : List Char) : Nat → Option Nat
  | 0 => none
  | n + 1 =>
    let ending := (host.drop (n + 2)).takeWhile fun c => 'a' ≤ c && c ≤ 'z'
    if host[n + 1]? == some '.' && !ending.isEmpty then some (n + 2 + ending.length)
    else hostLength? host n

/-- How long the address at the front of a text is, which begins with `lead`. -/
def addressFrom? (lead : String) (hasScheme : Bool) (cs : List Char) : Option Nat :=
  (after? lead cs).bind fun body =>
    let host := body.takeWhile isHostChar
    (hostLength? host (min host.length 256)).map fun n =>
      let port := match body.drop n with
        | ':' :: more =>
          let ds := more.takeWhile Char.isDigit
          if ds.isEmpty || !hasScheme then 0 else ds.length + 1
        | _ => 0
      let n := n + port
      let path := match body.drop n with
        | c :: more =>
          if c == '/' || c == '?' ||
            c == '#' then 1 + (more.takeWhile (isPathChar hasScheme)).length
          else 0
        | [] => 0
      lead.length + n + path

/-- How much of an address is left when a dot, closing parentheses that it did not open or a
character reference at its end are taken off. -/
def trimmedLength (address : List Char) : Nat :=
  match address.getLast? with
  | some '.' => address.length - 1
  | some ')' => address.length - (address.count ')' - address.count '(')
  | some ';' =>
    let front := (address.dropLast.reverse.dropWhile Char.isAlphanum).reverse
    if front.length < address.length - 1 && front.getLast? == some '&' then front.length - 1
    else address.length
  | _ => address.length

/-- The front of an address without marks that belong to the sentence around it. -/
def withoutMarks (address : List Char) : List Char :=
  match address with
  | c :: rest => c :: Text.trimRightChars (fun c => "?!.,:*_~".toList.contains c) rest
  | [] => []

/-- How long the mail address at the front of running text is: its host has a dot. -/
def looseMailLength? (cs : List Char) : Option Nat :=
  if cs.head?.any isPunct then none
  else (mailLength? cs).bind fun n =>
    let host := ((cs.take (n - 1)).dropWhile (· != '@'))
    if !host.contains '.' || (cs[n]?).any (fun c => c == '-' || c == '_') then none else some n

/-- An address at the front of running text, and what it lacks to lead somewhere. -/
def looseAddress? (cs : List Char) : Option (List Char × String) :=
  let url := ["http://", "https://", "ftp://"].findSome? fun lead => addressFrom? lead true cs
  let found := match url with
    | some n => some (trimmedLength (cs.take n), "")
    | none =>
      match addressFrom? "www." false cs with
      | some n => some (trimmedLength (cs.take n), "http://")
      | none => (looseMailLength? cs).map fun n => (n, "mailto:")
  found.map fun (n, lead) => (withoutMarks (cs.take n), lead)

/-! ## Addresses in HTML -/

/-- The characters that addresses hold as they are. -/
def isAddressChar (c : Char) : Bool :=
  c.isAlphanum || "!#$&\x27()*+,-./:;=?@_~".toList.contains c

/-- Two hexadecimal digits for a byte. -/
def percentByte (b : UInt8) : List Char :=
  let digit := fun (n : Nat) => "0123456789ABCDEF".toList.getD n '0'
  ['%', digit (b.toNat / 16), digit (b.toNat % 16)]

/-- The characters of an address that has to encode them. -/
def percentChar (c : Char) : List Char := (String.ofList [c]).toUTF8.toList.flatMap percentByte

/-- An address with its other characters encoded.  After `%` and a hexadecimal digit two characters
stay as they are. -/
def encodeAddress : List Char → List Char
  | '%' :: a :: b :: cs =>
    if (Html.digitValue? true a).isSome then '%' :: a :: b :: encodeAddress cs
    else percentChar '%' ++ encodeAddress (a :: b :: cs)
  | c :: cs => (if isAddressChar c then [c] else percentChar c) ++ encodeAddress cs
  | [] => []
termination_by cs => cs.length

/-- Backslashes before punctuation are taken away. -/
def withoutBackslashes : List Char → List Char
  | '\\' :: c :: cs =>
    if isPunct c then c :: withoutBackslashes cs else '\\' :: withoutBackslashes (c :: cs)
  | c :: cs => c :: withoutBackslashes cs
  | [] => []
termination_by cs => cs.length

/-- The number of a reference in an address: decimal digits after a zero are octal. -/
def addressNumber (hex : Bool) (ds : List Char) : Nat :=
  match hex, ds with
  | false, '0' :: more =>
    if more.all fun c => '0' ≤ c && c ≤ '7' then
      more.foldl (fun n c => n * 8 + (c.toNat - 48)) 0
    else 0
  | _, _ => numberOf hex ds

/-- References by number are replaced. -/
def withNumbers : Nat → List Char → List Char
  | 0, cs => cs
  | n + 1, '&' :: '#' :: cs =>
    match numberReference? cs with
    | some (hex, digits, rest) =>
      if !hex && digits.length > 7 then '&' :: withNumbers n ('#' :: cs)
      else charOfNumber (addressNumber hex digits) :: withNumbers n rest
    | none => '&' :: withNumbers n ('#' :: cs)
  | n + 1, c :: cs => c :: withNumbers n cs
  | _ + 1, [] => []

/-- References by name are replaced. -/
def withNames : Nat → List Char → List Char
  | 0, cs => cs
  | n + 1, '&' :: cs =>
    match nameReference? cs with
    | some (text, rest) => text ++ withNames n rest
    | none => '&' :: withNames n cs
  | n + 1, c :: cs => c :: withNames n cs
  | _ + 1, [] => []

/-- An address as an attribute of an element. -/
def addressHtml (address : List Char) : String := escaped (encodeAddress address)

/-- The address that the text of a link's target stands for. -/
def resolvedAddress (cs : List Char) : List Char :=
  let cs := withoutBackslashes cs
  let cs := withNumbers (cs.length + 1) cs
  withNames (cs.length + 1) cs

/-- An address that could run a script. -/
def isDangerous (cs : List Char) : Bool :=
  let lower := Text.lower (String.ofList cs)
  if Text.startsWith lower "data:image/" then
    let kinds := ["png;", "gif;", "jpeg;", "webp;", "svg+xml;"]
    kinds.all fun kind => !Text.startsWith lower ("data:image/" ++ kind)
  else ["javascript:", "vbscript:", "file:", "data:"].any (Text.startsWith lower)

/-- The target of a link as HTML; one that could run a script is left out. -/
def targetHtml (cs : List Char) : String :=
  if isDangerous cs then "" else addressHtml (resolvedAddress cs)

end Trellis.Markdown
