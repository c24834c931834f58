/-
Messages: translations in which places stand in braces after a dollar sign.

A place names something that is put in.  Names alone are not known to any dictionary, so a message
with one is refused; a name with a number in round brackets asks for a phrase, and as there are no
phrases its name is shown.
-/
import Trellis.Fault.Basic
import Trellis.Text.Decimal
import Trellis.Text.Quoted
import Trellis.Text.Search

/-! Dictionaries: translations of texts, each possibly within a context. -/

namespace Trellis

/-- Translations by key. -/
abbrev Dictionary := List (String × String)

namespace Dictionary

/-- What stands between a context and a text in a key. -/
def separator : String := "@@"

/-- The key of a text within a context. -/
def key (text context : String) : String :=
  if context.isEmpty then text else context ++ separator ++ text

/-- The translation under a key. -/
def find? (d : Dictionary) (key : String) : Option String :=
  (List.find? (fun e => e.1 == key) d).map (·.2)

/-- The translation of a text: within the context, else without it, else the text itself. -/
def translate (d : Dictionary) (text context : String) : String :=
  match d.find? (key text context) with
  | some s => s
  | none => if context.isEmpty then text else (d.find? text).getD text

/-- Whether a text has no translation. -/
def isMissing (d : Dictionary) (text context : String) : Bool :=
  (d.find? (key text context)).isNone && (d.find? text).isNone

end Dictionary

end Trellis

namespace Trellis

namespace Message

/-- A part of a message. -/
inductive Part where
  | text (s : String)
  /-- a name alone -/
  | name (s : String)
  /-- a name with a number -/
  | phrase (name : String)
  /-- something that is not written as it should be -/
  | spoiled (why : String)
deriving DecidableEq, Repr

/-- The place that stands in braces. -/
def place (inside : String) : Part :=
  let inside := Text.trim inside
  match Text.cut? inside "(" with
  | none => .name inside
  | some (name, more) =>
    match Text.cut? more ")" with
    | none => .spoiled "catmsg: missing ')'"
    | some (number, _) =>
      let number := Text.trim number
      if !number.isEmpty && number.toList.all (fun c => '0' ≤ c && c ≤ '9') &&
          (number.toNat?.getD 0) < power 2 32 then .phrase name
      else .spoiled ("catmsg: invalid number " ++ Text.quote number)

/-- The parts of a message.  There are fewer of them than `fuel`. -/
def parts : Nat → String → List Part
  | 0, s => [.text s]
  | fuel + 1, s =>
    match Text.cut? s "$\x7b" with
    | none => [.text s]
    | some (before, more) =>
      match Text.cut? more "\x7d" with
      | none => [.text before, .spoiled "catmsg: missing '\x7d'"]
      | some (inside, after) => .text before :: place inside :: parts fuel after

/-- What is wrong with a message: the last part that is spoiled, else the first name. -/
def problem? (ps : List Part) : Option String :=
  let spoiled := ps.filterMap fun
    | .spoiled why => some why
    | _ => none
  let names := ps.filterMap fun
    | .name s => some ("unknown var " ++ Text.quote s)
    | _ => none
  spoiled.getLast? <|> names.head?

/-- What is shown of a part. -/
def Part.shown : Part → String
  | .text s | .name s | .phrase s => s
  | .spoiled _ => ""

/-- The text that is shown for a message, if nothing is wrong with it.  Percent signs are told
doubled. -/
def shown (s : String) : Except Fault String :=
  match problem? (parts s.length (Text.replaceAll s "%" "%%")) with
  | some why => .error (.plain why)
  | none => .ok (String.join ((parts s.length s).map Part.shown))

end Message

namespace Dictionary

/-- The dictionary of what is shown for each message. -/
def shown (d : Dictionary) : Except Fault Dictionary :=
  d.mapM fun (key, s) => do return (key, ← Message.shown s)

end Dictionary

end Trellis
