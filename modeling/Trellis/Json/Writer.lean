/-
Documents as JSON text.
-/
import Trellis.Datum
import Trellis.Text.Quoted

namespace Trellis.Json

/-- One character of a JSON string.  Characters that matter inside a page (`<`, `>`, `&`) are
written as escapes when `guarded` is set; the two Unicode line separators always are. -/
def escapeChar (guarded : Bool) (c : Char) : List Char :=
  let n := c.toNat
  if c == '"' then ['\\', '"']
  else if c == '\\' then ['\\', '\\']
  else if n == 8 then ['\\', 'b']
  else if n == 12 then ['\\', 'f']
  else if n == 10 then ['\\', 'n']
  else if n == 13 then ['\\', 'r']
  else if n == 9 then ['\\', 't']
  else if n < 32 || n == 0x2028 || n == 0x2029 then '\\' :: 'u' :: Text.hexDigits 4 n
  else if guarded && (c == '<' || c == '>' || c == '&') then '\\' :: 'u' :: Text.hexDigits 4 n
  else [c]

/-- A JSON string. -/
def stringText (guarded : Bool) (s : String) : String :=
  String.ofList ('"' :: s.toList.flatMap (escapeChar guarded) ++ ['"'])

/-- A JSON number. -/
def numberText (x : Float) : String := Text.floatText .document x

mutual
/-- A document as compact JSON; the fields of a record keep their order. -/
def text (guarded : Bool) : Datum → String
  | .null => "null"
  | .bool b => if b then "true" else "false"
  | .number x => numberText x
  | .whole n => Text.intText n
  | .text s => stringText guarded s
  | .list items => "[" ++ ",".intercalate (itemTexts guarded items) ++ "]"
  | .record fields => "\x7b" ++ ",".intercalate (fieldTexts guarded fields) ++ "\x7d"

def itemTexts (guarded : Bool) : List Datum → List String
  | [] => []
  | d :: rest => text guarded d :: itemTexts guarded rest

def fieldTexts (guarded : Bool) : List (String × Datum) → List String
  | [] => []
  | (name, d) :: rest =>
    (stringText guarded name ++ ":" ++ text guarded d) :: fieldTexts guarded rest
end

/-- `depth` steps of indentation, two blanks each. -/
def indentation (depth : Nat) : String := String.ofList (List.replicate (2 * depth) ' ')

mutual
/-- A document as JSON over several lines.  Empty lists and records stay on one line. -/
def indented (guarded : Bool) (depth : Nat) : Datum → String
  | .list [] => "[]"
  | .record [] => "\x7b\x7d"
  | .list items =>
    let lead := "\n" ++ indentation (depth + 1)
    "[" ++ ",".intercalate ((indentedItems guarded (depth + 1) items).map (lead ++ ·)) ++
      "\n" ++ indentation depth ++ "]"
  | .record fields =>
    let lead := "\n" ++ indentation (depth + 1)
    "\x7b" ++ ",".intercalate ((indentedFields guarded (depth + 1) fields).map (lead ++ ·)) ++
      "\n" ++ indentation depth ++ "\x7d"
  | .null => "null"
  | .bool b => if b then "true" else "false"
  | .number x => numberText x
  | .whole n => Text.intText n
  | .text s => stringText guarded s

def indentedItems (guarded : Bool) (depth : Nat) : List Datum → List String
  | [] => []
  | d :: rest => indented guarded depth d :: indentedItems guarded depth rest

def indentedFields (guarded : Bool) (depth : Nat) : List (String × Datum) → List String
  | [] => []
  | (name, d) :: rest =>
    (stringText guarded name ++ ": " ++ indented guarded depth d) ::
      indentedFields guarded depth rest
end

mutual
/-- Whether every number of a document is finite, so that the document can be written. -/
def isWritable : Datum → Bool
  | .number x => !x.isNaN && !x.isInf
  | .list items => areWritable items
  | .record fields => fieldsWritable fields
  | _ => true

def areWritable : List Datum → Bool
  | [] => true
  | d :: rest => isWritable d && areWritable rest

def fieldsWritable : List (String × Datum) → Bool
  | [] => true
  | (_, d) :: rest => isWritable d && fieldsWritable rest
end

mutual
/-- The first number of a document that is not finite. -/
def unwritable? : Datum → Option Float
  | .number x => if x.isNaN || x.isInf then some x else none
  | .list items => unwritableItem? items
  | .record fields => unwritableField? fields
  | _ => none

def unwritableItem? : List Datum → Option Float
  | [] => none
  | d :: rest => (unwritable? d).or (unwritableItem? rest)

def unwritableField? : List (String × Datum) → Option Float
  | [] => none
  | (_, d) :: rest => (unwritable? d).or (unwritableField? rest)
end

end Trellis.Json
