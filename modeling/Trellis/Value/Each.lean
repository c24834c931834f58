/-
Walking over collections.
-/
import Trellis.Value.Property

namespace Trellis

/-- The families of values that can be walked over. -/
inductive Walkable where
  /-- an object of the host that walks over itself -/
  | recordSet
  | array
  | object
  /-- a whole number: so many steps -/
  | count
deriving DecidableEq, Repr

def Walkable.name : Walkable → String
  | .recordSet => "recordset"
  | .array => "array"
  | .object => "object"
  | .count => "int"

namespace Value

/-- The family that a value belongs to. -/
def walkable? (h : Host) : Value → Option Walkable
  | .host type _ => if (h.objects type).each?.isSome then some .recordSet else some .object
  | .list _ | .typedList _ _ | .nodes _ => some .array
  | .object _ | .options _ | .record _ _ | .recordRef _ _ | .typedMap .text _ _ | .content _
  | .template _ | .instant _ | .instantRef _ _ | .clock _ | .unreachable => some .object
  | .number x => if x ≥ 0 && x.floor == x then some .count else none
  | .single x => if x ≥ 0 && x.floor == x then some .count else none
  | .whole _ n | .measure _ n => if n ≥ 0 then some .count else none
  | _ => none

/-- The entries of a value that is no number: positions of a list, names of an object in their
order.  Each comes with a way to read the element, which is read when its turn comes. -/
def entries (m : Machine) (v : Value) : Run (List (Value × Run Value)) := do
  let positions := fun (n : Nat) (read : Nat → Run Value) =>
    (List.range n).map fun i => (Value.number i.toFloat, read i)
  match v with
  | .host type at_ =>
    match (m.host.objects type).each? with
    | some each =>
      let xs := (← each (← Memory.inner at_)).toArray
      return positions xs.size fun i => return xs[i]?.getD .undefined
    | none => return []
  | .list at_ | .typedList _ at_ =>
    return positions (← Memory.items at_).size fun i => do
      return (← Memory.items at_)[i]?.getD .undefined
  | .nodes at_ =>
    return positions ((← get).rendered[at_]?.getD []).length fun i =>
      v.property m.host (Text.natText i)
  | _ =>
    return (Text.sortTexts (← v.keys m)).map fun k => (.text k, v.property m.host k)

/-- Walks over entries until `step` says to stop. -/
def walkEntries {σ : Type} (step : σ → Value → Value → Run (σ × Bool)) :
    σ → List (Value × Run Value) → Run σ
  | s, [] => return s
  | s, (key, read) :: rest => do
    let (s, more) ← step s key (← read)
    if more then walkEntries step s rest else return s

/-- Walks over `n` numbers from `i` on until `step` says to stop. -/
def walkCount {σ : Type} (step : σ → Value → Value → Run (σ × Bool)) : σ → Nat → Nat → Run σ
  | s, _, 0 => return s
  | s, i, n + 1 => do
    let x := Value.number i.toFloat
    let (s, more) ← step s x x
    if more then walkCount step s (i + 1) n else return s

/-- Walks over a value until `step` says to stop.  What belongs to no family has no entries. -/
def walk {σ : Type} (m : Machine) (v : Value) (init : σ)
    (step : σ → Value → Value → Run (σ × Bool)) : Run σ := do
  match v.walkable? m.host with
  | none => return init
  | some .count => walkCount step init 0 (WholeKind.int.ofFloat v.toNumber).toNat
  | some _ => walkEntries step init (← v.entries m)

end Value

end Trellis
