/-
Documents: the tree-shaped data that faults carry, that dictionaries and settings are read into
and that descriptions are written as.
-/
import Trellis.Text.Decimal
import Trellis.Text.Search

namespace Trellis

/-- A document: a scalar, a list, or a record of named fields. -/
inductive Datum where
  | null
  | bool (b : Bool)
  | number (x : Float)
  /-- a whole number, of any size -/
  | whole (n : Int)
  | text (s : String)
  | list (items : List Datum)
  | record (fields : List (String × Datum))
deriving Inhabited

namespace Datum

/-- The field of a record, if there is one; of several fields with one name the last counts. -/
def field? (name : String) : Datum → Option Datum
  | .record fields => (fields.reverse.find? (·.1 == name)).map (·.2)
  | _ => none

/-- The fields of a record in the order of their names; of several with one name the last. -/
def sortedFields {α : Type} (fields : List (String × α)) : List (String × α) :=
  let latest := fields.foldr (fun f acc => if acc.any (·.1 == f.1) then acc else f :: acc) []
  latest.mergeSort fun a b => Text.textLe a.1 b.1

mutual
/-- How deep a document is. -/
def depth : Datum → Nat
  | .list items => depthList items + 1
  | .record fields => depthFields fields + 1
  | _ => 1

def depthList : List Datum → Nat
  | [] => 0
  | d :: ds => max d.depth (depthList ds)

def depthFields : List (String × Datum) → Nat
  | [] => 0
  | (_, d) :: ds => max d.depth (depthFields ds)
end

mutual
/-- How deep lists and records stand in each other. -/
def nesting : Datum → Nat
  | .list items => nestingList items + 1
  | .record fields => nestingFields fields + 1
  | _ => 0

def nestingList : List Datum → Nat
  | [] => 0
  | d :: ds => max d.nesting (nestingList ds)

def nestingFields : List (String × Datum) → Nat
  | [] => 0
  | (_, d) :: ds => max d.nesting (nestingFields ds)
end

mutual
/-- A document as it is shown in messages and log lines. -/
def display : Datum → String
  | .null => "<nil>"
  | .bool b => if b then "true" else "false"
  | .number x => Text.floatText .general x
  | .whole n => Text.intText n
  | .text s => s
  | .list items => "[" ++ " ".intercalate (displayItems items) ++ "]"
  | .record fields => "map[" ++ " ".intercalate (displayFields fields) ++ "]"

def displayItems : List Datum → List String
  | [] => []
  | d :: rest => display d :: displayItems rest

def displayFields : List (String × Datum) → List String
  | [] => []
  | (name, d) :: rest => (name ++ ":" ++ display d) :: displayFields rest
end

end Datum

end Trellis
