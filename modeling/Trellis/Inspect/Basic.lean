/-
Documents that show what the library computed, and documents that describe what to try: the parts
that all of them share.  Where one of the latter is read, a field that is missing or of another type
reads as empty.
-/
import Trellis.Fault.Basic
import Trellis.Value.Basic

namespace Trellis.Inspect

/-- A whole number. -/
def num (n : Int) : Datum := .whole n

/-- A natural number. -/
def nat (n : Nat) : Datum := num n

/-- A list of texts. -/
def texts (xs : List String) : Datum := .list (xs.map .text)

/-- A text, or null. -/
def optText : Option String → Datum
  | some s => .text s
  | none => .null

/-- A position, with `-1` for none. -/
def optNat : Option Nat → Datum
  | some n => nat n
  | none => num (-1)

/-- A record of one field and more, of which an empty text is left out. -/
def unlessEmpty (name s : String) : List (String × Datum) :=
  if s.isEmpty then [] else [(name, .text s)]

/-- The text of a fault, with what a decoder complained about left out. -/
def faultText (f : Fault) : String :=
  match f.undecodable? with
  | some complaint =>
    match Text.cut? f.text complaint with
    | some (before, after) => before ++ "<cause>" ++ after
    | none => f.text
  | none => f.text

/-- A fault: its code, its text, its area and its kind. -/
def fault (f : Fault) : Datum :=
  match f.catalogued?.bind Fault.label? with
  | some l =>
    .record ([("error", .text l.code), ("message", .text (faultText f)),
      ("class", .text l.area.name)] ++ unlessEmpty "kind" l.kind.name)
  | none => .record [("error", .text "error"), ("message", .text (faultText f))]

/-- All that a fault of the catalog says. -/
def faultDetails (f : Fault) : Datum :=
  match f.label? with
  | none => .null
  | some l =>
    .record ([("class", .text l.area.name), ("code", .text l.code)] ++
      unlessEmpty "kind" l.kind.name ++ [("message", .text f.message)] ++
      (if f.hints.isEmpty then [] else [("hints", texts f.hints)]) ++
      [("line", num f.line), ("column", num f.column)] ++ unlessEmpty "file" f.file ++
      (match l.details with
        | some (d :: ds) => [("data", .record (d :: ds))]
        | _ => []))

/-- What was computed, or the fault instead. -/
def orFault : Except Fault Datum → Datum
  | .ok d => d
  | .error f => fault f

/-- A number; one that is no small whole number is tagged and written out. -/
def float (x : Float) : Datum :=
  if x.floor == x && x.abs ≤ 9007199254740992 && !(x == 0 && Text.isNegative x) then .number x
  else .record [("$t", .text "num"), ("v", .text (Text.floatText .general x))]

end Trellis.Inspect

/-! ### What to try -/

namespace Trellis.Demo

/-- The text that a document is. -/
def textOf : Datum → String
  | .text s => s
  | _ => ""

/-- The truth value that a document is. -/
def boolOf : Datum → Bool
  | .bool b => b
  | _ => false

/-- The whole number that a document is, cut toward zero to what 64 bits hold. -/
def intOf : Datum → Int
  | .number x => WholeKind.int.ofFloat x
  | .whole n => WholeKind.int.ofFloat (Text.wholeFloat n)
  | _ => 0

/-- The items of a list. -/
def itemsOf : Datum → List Datum
  | .list xs => xs
  | _ => []

/-- The fields of a record in the order of their names. -/
def fieldsOf : Datum → List (String × Datum)
  | .record fs => Datum.sortedFields fs
  | _ => []

/-- Whether there is a field. -/
def has (i : Datum) (k : String) : Bool := (i.field? k).isSome

/-- A field as `read` reads it. -/
def fieldAs {α : Type} (read : Datum → α) (i : Datum) (k : String) : α :=
  read ((i.field? k).getD .null)

def str : Datum → String → String := fieldAs textOf
def bool : Datum → String → Bool := fieldAs boolOf
def int : Datum → String → Int := fieldAs intOf
def list : Datum → String → List Datum := fieldAs itemsOf
def object : Datum → String → List (String × Datum) := fieldAs fieldsOf
def strs (i : Datum) (k : String) : List String := (list i k).map textOf

/-- The answer of a step that answers nothing. -/
def ok : Datum := .record [("ok", .bool true)]

/-- The answer that something is wrong. -/
def wrong (what : String) : Datum := .record [("error", .text what)]

/-- The answers of steps that follow each other. -/
def script {σ : Type} (steps : List Datum) (start : σ) (step : σ → Datum → σ × Datum) :
    List Datum :=
  let go := fun (acc : σ × List Datum) (s : Datum) =>
    let (state, answer) := step acc.1 s
    (state, answer :: acc.2)
  (steps.foldl go (start, [])).2.reverse

end Trellis.Demo
