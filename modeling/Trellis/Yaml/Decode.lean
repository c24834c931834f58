/-
The values that YAML documents stand for.

The keys of a map must differ as they are written.  A map whose keys are all texts is a map of
names; any other map is a table.  An entry with the key `<<` merges another map, whose entries count
where the map has none itself.  A document in which almost all is repeated by name is refused, since
its value may be far larger than its text.
-/
import Trellis.Fault.Basic
import Trellis.Yaml.Reader

namespace Trellis.Yaml

/-- The value of a document. -/
inductive Value where
  | null
  | bool (b : Bool)
  | int (n : Int)
  | float (x : Float)
  | time (t : Instant)
  | text (s : String)
  | list (items : List Value)
  | map (entries : List (String × Value))
  | table (entries : List (Value × Value))

/-- The value of a scalar. -/
def Meaning.value : Meaning → Value
  | .null => .null
  | .bool b => .bool b
  | .int n => .int n
  | .float x => .float x
  | .time t => .time t
  | .text s => .text s

namespace Value

/-- The type of a value as it is shown in messages. -/
def typeName : Value → String
  | .null => "<nil>"
  | .bool _ => "bool"
  | .int n => if n < 9223372036854775808 then "int" else "uint64"
  | .float _ => "float64"
  | .time _ => "time.Time"
  | .text _ => "string"
  | .list _ => "[]interface \x7b\x7d"
  | .map _ => "map[string]interface \x7b\x7d"
  | .table _ => "map[interface \x7b\x7d]interface \x7b\x7d"

/-- Whether two values are the same key. -/
def sameKey : Value → Value → Bool
  | .null, .null => true
  | .bool a, .bool b => a == b
  | .int a, .int b => a == b
  | .float a, .float b => a == b
  | .time a, .time b => a == b
  | .text a, .text b => a == b
  | _, _ => false

/-- Whether a value cannot be a key. -/
def isCompound : Value → Bool
  | .list _ | .map _ | .table _ => true
  | _ => false

end Value

/-- How many nodes were looked at, and how many of them inside a node that is given by its name. -/
structure Tally where
  all : Nat := 0
  repeated : Nat := 0

/-- Decoding, which fails where a node does not fit. -/
abbrev Decode := StateT Tally Option

/-- Counts a node. -/
def Decode.count (repeated : Bool) : Decode Unit := do
  modify fun t => ⟨t.all + 1, if repeated then t.repeated + 1 else t.repeated⟩
  let t ← get
  let allowed : Float := if t.all ≤ 400000 then 0.99
    else if t.all ≥ 4000000 then 0.10
    else 0.99 - 0.89 * ((t.all - 400000).toFloat / 3600000)
  if t.repeated > 100 && t.all > 1000 && t.repeated.toFloat / t.all.toFloat > allowed then failure

namespace Node

/-- The node that a name stands for. -/
def target : Node → Node
  | .alias _ n => n
  | n => n

/-- What keys are compared by: their kind and their text. -/
def keyText : Node → Nat × String
  | .scalar s => (0, s.text)
  | .list _ => (1, "")
  | .map _ => (2, "")
  | .alias name _ | .within name => (3, name)

/-- Whether a key merges another map. -/
def isMerge : Node → Bool
  | .scalar s => s.isMerge
  | _ => false

/-- Whether all keys of entries differ. -/
def distinctKeys : List (Node × Node) → Bool
  | [] => true
  | (k, _) :: es => !es.any (fun e => e.1.keyText == k.keyText) && distinctKeys es

/-- Whether a key is a text. -/
def isTextKey (n : Node) : Bool :=
  match n.target with
  | .scalar s =>
    s.isMerge || (match s.tag with
      | "" | "!" | "!!str" => (match s.meaning? with
        | some (.text _) => true
        | _ => false)
      | _ => false)
  | _ => false

/-- Whether a node is a map, given as such or by its name. -/
def isMap (n : Node) : Bool :=
  match n.target with
  | .map _ => true
  | _ => false

/-- The text of a scalar where a text is wanted; nothing for null. -/
def text? (n : Node) : Decode (Option String) :=
  match n.target with
  | .scalar s =>
    match s.meaning? with
    | some .null => return none
    | some (.text t) => return some (if s.tag == "!!binary" then t else s.text)
    | some _ => return some s.text
    | none => failure
  | _ => failure

end Node

/-- A map while its entries are decoded. -/
structure Filling where
  /-- in the order in which the keys came -/
  entries : List (Value × Value) := []
  /-- the keys that merged entries must not have, while entries are merged -/
  taken : Option (List Value) := none

namespace Filling

/-- Adds an entry, which replaces one with the same key. -/
def put (f : Filling) (key value : Value) : Filling :=
  if f.entries.any (·.1.sameKey key) then
    { f with entries := f.entries.map fun e => if e.1.sameKey key then (key, value) else e }
  else { f with entries := f.entries ++ [(key, value)] }

/-- Whether a key is not to be merged. -/
def refuses (f : Filling) (key : Value) : Bool := f.taken.any fun ks => ks.any (·.sameKey key)

/-- Remembers a key that was merged. -/
def take (f : Filling) (key : Value) : Filling := { f with taken := f.taken.map (key :: ·) }

end Filling

namespace Node

mutual
/-- The value of a node; `repeated` says that it is inside a node that is given by its name. -/
def value (repeated : Bool) : Node → Decode Value
  | .scalar s => do
    Decode.count repeated
    match s.meaning? with
    | some m => return m.value
    | none => failure
  | .alias _ n => do
    Decode.count repeated
    value true n
  | .within _ => failure
  | .list items => do
    Decode.count repeated
    return .list (← values repeated items)
  | .map es => do
    Decode.count repeated
    if !distinctKeys es then failure
    let named := es.all (·.1.isTextKey)
    let f ← fill repeated named es {}
    if named then
      return .map (f.entries.filterMap fun
        | (.text name, v) => some (name, v)
        | _ => none)
    else return .table f.entries

def values (repeated : Bool) : List Node → Decode (List Value)
  | [] => return []
  | n :: ns => do
    let v ← value repeated n
    return v :: (← values repeated ns)

/-- Decodes entries into a map, whose keys are texts if it is `named`; merged entries come last. -/
def fill (repeated named : Bool) : List (Node × Node) → Filling → Decode Filling
  | [], f => return f
  | (k, v) :: es, f => do
    if k.isMerge then do
      let f ← fill repeated named es f
      if es.any (·.1.isMerge) then return f
      let outer := f.taken
      let f := if outer.isNone then { f with taken := some (f.entries.map (·.1)) } else f
      return { (← merge repeated named v f) with taken := outer }
    else do
      let key ← if named then do
          Decode.count repeated
          pure ((← k.text?).map Value.text)
        else do
          pure (some (← value repeated k))
      match key with
      | none => fill repeated named es f
      | some key =>
        if f.refuses key then fill repeated named es f
        else do
          if key.isCompound then failure
          let v ← value repeated v
          fill repeated named es ((f.take key).put key v)

/-- Decodes the entries of a merged map, or of the maps in a list, of which the first counts most.
-/
def merge (repeated named : Bool) : Node → Filling → Decode Filling
  | .map es, f => do
    Decode.count repeated
    if !distinctKeys es then failure
    fill repeated named es f
  | .alias _ (.map es), f => do
    Decode.count true
    if !distinctKeys es then failure
    fill true named es f
  | .list items, f => mergeAll repeated named items f
  | _, _ => failure

def mergeAll (repeated named : Bool) : List Node → Filling → Decode Filling
  | [], f => return f
  | n :: ns, f => do
    if !n.isMap then failure
    let f ← merge repeated named n f
    mergeAll repeated named ns f
end

/-- The entries of a map whose keys are names; entries without a name are dropped. -/
def fields? : Node → Option (List (String × Value))
  | .map es => do
    if !distinctKeys es then none
    let (f, _) ← (fill false true es {}).run {}
    return f.entries.filterMap fun
      | (.text name, v) => some (name, v)
      | _ => none
  | .scalar s =>
    match s.meaning? with
    | some .null => some []
    | _ => none
  | _ => none

end Node

/-- The fault of a text that is not the document that is wanted. -/
def undecodable : Fault := { nature := .undecodable, message := "yaml: unmarshal errors" }

/-- Reads a map of names; an empty document is an empty map. -/
def parseMap (s : String) : Except Fault (List (String × Value)) :=
  match (parse? s).bind Node.fields? with
  | some fields => .ok fields
  | none => .error undecodable

end Trellis.Yaml
