/-
Data, and scopes above which there is data.

JSON data consists of primitives, lists and objects.  A name leads from a list or an object to a
value (`Eval.child`), and names lead on (`Eval.descend`); this is what asking for properties comes
to (`Eval.follow_on`).  Writing a property changes one cell: under the name the new value is found
there, and under each other name what was found before (`Eval.child_withField`,
`Eval.child_withItem`).  Of a list several names may lead to one element, for a position may be
written with a sign or with zeros in front; what is compared is the canonical decimal
(`Eval.canonical`).

A scope is on the ground if the scopes from it upwards are there and forbid no names, and the data
above them is an object (`Eval.Grounded`).  There each name leads to a value, the nearest that it is
bound to or else the field of the data (`Eval.look`, `Eval.Grounded.name_on`).  Writing a name goes
to the scope that binds it (`Eval.assignIn_bound`) or to the data (`Eval.assignIn_free`).
-/
import Trellis.Proofs.Eval.Steps

namespace Trellis

open Run

/-- Whether a value is one of those that JSON data consists of. -/
def Value.isData : Value → Bool
  | .list _ | .object _ => true
  | v => v.isPrimitive

/-- The cell that a list or an object is kept in. -/
def Value.cell? : Value → Option Nat
  | .list at_ | .object at_ => some at_
  | _ => none

namespace Fields

variable {fs : Fields} {name x : String} {v : Value}

lemma get?_cons (f : String × Value) (fs : Fields) (x : String) :
    get? (f :: fs) x = if f.1 = x then some f.2 else fs.get? x := by
  rw [get?, get?, List.find?_cons]
  by_cases hx : f.1 = x
  · rw [if_pos hx, beq_iff_eq.2 hx]
    rfl
  · rw [if_neg hx, beq_eq_false_iff_ne.2 hx]

/-- Of what is put under a name one finds it there, and what else there was. -/
lemma get?_insert (name : String) (v : Value) (fs : Fields) (x : String) :
    (insert name v fs).get? x = if name = x then some v else fs.get? x := by
  induction fs with
  | nil => exact get?_cons (name, v) [] x
  | cons f fs ih =>
    rw [insert]
    split
    · next heq =>
      rw [get?_cons, get?_cons, eq_of_beq heq]
      split <;> rfl
    · split
      · rw [get?_cons]
      · next hne _ =>
        rw [get?_cons, get?_cons, ih]
        split
        · next hx => rw [if_neg fun heq => hne (beq_iff_eq.2 (hx.trans heq.symm))]
        · rfl

end Fields

namespace Eval

variable {mem mem' : Memory} {v : Value} {name : String}

/-! ### Reading -/

/-- The elements that memory has somewhere. -/
def itemsAt (mem : Memory) (at_ : Nat) : Array Value :=
  match mem.cells[at_]? with
  | some (.items xs) => xs
  | _ => #[]

lemma items_on (mem : Memory) (at_ : Nat) : (Memory.items at_).on mem = (.ok (itemsAt mem at_),
    mem) := by
  rw [Memory.items, Memory.cell?, bind_assoc, on_bind (on_get mem), pure_bind, itemsAt]
  rcases mem.cells[at_]? with _ | c
  · rfl
  · cases c <;> rfl

/-- The property of data that a name stands for. -/
def child (mem : Memory) (v : Value) (name : String) : Value :=
  match v with
  | .object at_ => ((fieldsAt mem at_).get? name).getD .undefined
  | .list at_ =>
    if name == "length" then .number (itemsAt mem at_).size.toFloat
    else ((position? name (itemsAt mem at_).size).bind ((itemsAt mem at_)[·]?)).getD .undefined
  | .text s => Value.textProperty s name
  | _ => .undefined

/-- What data leads to. -/
def descend (mem : Memory) (v : Value) (names : List String) : Value := names.foldl (child mem) v

/-- Asking data for a property changes nothing. -/
lemma property_on (h : Host) (hv : v.isData) (name : String) :
    (v.property h name).on mem = (.ok (child mem v name), mem) := by
  cases v with
  | object at_ => exact on_bind (fields_on mem at_) _
  | list at_ =>
    rw [Value.property, Value.listProperty, on_bind (items_on mem at_), child]
    split <;> rfl
  | null | undefined | bool _ | number _ | single _ | whole _ _ | measure _ _ | text _ | raw _ =>
    rfl
  | _ => cases hv

lemma descend_undefined (names : List String) : descend mem .undefined names = .undefined := by
  induction names with
  | nil => rfl
  | cons _ _ ih => exact ih

/-- What is data on the way is followed without a change. -/
lemma follow_on (h : Host) {names : List String}
    (hdata : ∀ front x back, names = front ++ x :: back → (descend mem v front).isData) :
    (v.follow h names).on mem = (.ok (descend mem v names), mem) := by
  induction names generalizing v with
  | nil => rfl
  | cons name names ih =>
    rw [Value.follow]
    split
    · next hnullish =>
      have hchild : child mem v name = .undefined := by
        cases v with
        | null | undefined => rfl
        | _ => cases hnullish
      rw [on_pure, descend, List.foldl_cons, hchild]
      exact congrArg (fun u => (Except.ok u, mem)) (descend_undefined names).symm
    · have hv : v.isData := hdata [] name names rfl
      rw [on_bind (property_on h hv name)]
      exact ih fun front x back heq => hdata (name :: front) x back (heq ▸ rfl)

lemma descend_snoc (v : Value) (names : List String) (x : String) :
    descend mem v (names ++ [x]) = child mem (descend mem v names) x := by
  rw [descend, List.foldl_append]
  rfl

/-- What data has under a name depends on its cell. -/
lemma child_congr (h : ∀ i, v.cell? = some i → mem'.cells[i]? = mem.cells[i]?) (x : String) :
    child mem' v x = child mem v x := by
  cases v with
  | object i => rw [child, child, fieldsAt, fieldsAt, h i rfl]
  | list i => rw [child, child, itemsAt, itemsAt, h i rfl]
  | _ => rfl

lemma fieldsAt_congr {i : Nat} (h : mem'.cells[i]? = mem.cells[i]?) :
    fieldsAt mem' i = fieldsAt mem i := by
  rw [fieldsAt, fieldsAt, h]

/-! ### What is kept -/

/-- Memory keeps data: lists where there are elements, and objects where there are fields. -/
inductive Kept (mem : Memory) : Value → Prop
  | primitive {v : Value} : v.isPrimitive → Kept mem v
  | list {i : Nat} {xs : Array Value} : mem.cells[i]? = some (.items xs) → Kept mem (.list i)
  | object {i : Nat} {fs : Fields} : mem.cells[i]? = some (.fields fs) → Kept mem (.object i)

lemma Kept.isData (h : Kept mem v) : v.isData := by
  cases h with
  | primitive hv =>
    cases v with
    | list _ | object _ => rfl
    | _ => exact hv
  | list _ | object _ => rfl

lemma cell?_of_isPrimitive (h : v.isPrimitive) : v.cell? = none := by
  cases v with
  | list _ | object _ => cases h
  | _ => rfl

/-- What is kept in one cell is one list or one object. -/
lemma Kept.eq_of_cell {u w : Value} {i : Nat} (hu : Kept mem u) (hw : Kept mem w)
    (hui : u.cell? = some i) (hwi : w.cell? = some i) : u = w := by
  cases hu with
  | primitive hprimitive => rw [cell?_of_isPrimitive hprimitive] at hui; cases hui
  | @list j xs hu =>
    cases hw with
    | primitive hprimitive => rw [cell?_of_isPrimitive hprimitive] at hwi; cases hwi
    | @list k _ _ => exact congrArg Value.list (Option.some.inj (hui.trans hwi.symm))
    | @object k _ hw =>
      obtain rfl : j = k := Option.some.inj (hui.trans hwi.symm)
      cases hu.symm.trans hw
  | @object j fs hu =>
    cases hw with
    | primitive hprimitive => rw [cell?_of_isPrimitive hprimitive] at hwi; cases hwi
    | @object k _ _ => exact congrArg Value.object (Option.some.inj (hui.trans hwi.symm))
    | @list k _ hw =>
      obtain rfl : j = k := Option.some.inj (hui.trans hwi.symm)
      cases hu.symm.trans hw

/-! ### Writing -/

/-- A step as it is compared with others: one into a list is written as a canonical decimal. -/
def canonical (v : Value) (name : String) : String :=
  match v, Text.whole? name with
  | .list _, some (.ofNat i) => Text.natText i
  | _, _ => name

/-- Memory with a field of an object written. -/
def withField (mem : Memory) (at_ : Nat) (name : String) (v : Value) : Memory :=
  { mem with
    cells := mem.cells.setIfInBounds at_ (.fields (Fields.insert name v (fieldsAt mem at_))) }

lemma setProperty_object (m : Machine) (at_ : Nat) (name : String) (v : Value) :
    (Value.setProperty m (.object at_) name v).on mem = (.ok (), withField mem at_ name v) :=
  on_bind (fields_on mem at_) _

lemma cells_put_ne {i j : Nat} (h : i ≠ j) (c : Cell) : (mem.cells.setIfInBounds i c)[j]? =
    mem.cells[j]? :=
  Array.getElem?_setIfInBounds_ne h

lemma fieldsAt_withField {i : Nat} {fs : Fields} (h : mem.cells[i]? = some (.fields fs))
    (name : String) (v : Value) :
    fieldsAt (withField mem i name v) i = Fields.insert name v (fieldsAt mem i) := by
  obtain ⟨hi, -⟩ := Array.getElem?_eq_some_iff.1 h
  rw [withField, fieldsAt]
  dsimp only
  rw [Array.getElem?_setIfInBounds_self_of_lt hi]

lemma child_withField {i : Nat} {fs : Fields} (hfs : mem.cells[i]? = some (.fields fs))
    (name : String) (v : Value) :
    child (withField mem i name v) (.object i) name = v ∧ ∀ x, x ≠ name →
      child (withField mem i name v) (.object i) x = child mem (.object i) x := by
  constructor
  · rw [child, fieldsAt_withField hfs, Fields.get?_insert, if_pos rfl]
    rfl
  · intro x hx
    rw [child, child, fieldsAt_withField hfs, Fields.get?_insert, if_neg (Ne.symm hx)]

/-- Memory with an element of a list written. -/
def withItem (mem : Memory) (at_ k : Nat) (v : Value) : Memory :=
  { mem with cells := mem.cells.setIfInBounds at_ (.items ((itemsAt mem at_).setIfInBounds k v)) }

lemma itemsAt_withItem {i : Nat} {xs : Array Value} (h : mem.cells[i]? = some (.items xs)) (k : Nat)
    (v : Value) :
    itemsAt (withItem mem i k v) i = (itemsAt mem i).setIfInBounds k v := by
  obtain ⟨hi, -⟩ := Array.getElem?_eq_some_iff.1 h
  rw [withItem, itemsAt]
  dsimp only
  rw [Array.getElem?_setIfInBounds_self_of_lt hi]

/-- A position is below the size, and its name is compared as its number. -/
lemma position?_eq {size i : Nat} (hname : position? name size = some i) :
    i < size ∧ name ≠ "length" ∧ ∀ at_, canonical (.list at_) name = Text.natText i := by
  have hlength : name ≠ "length" := by
    rintro rfl
    cases hname
  rw [position?] at hname
  split at hname
  · next j hj =>
    split at hname
    · next hlt =>
      cases hname
      refine ⟨hlt, hlength, fun at_ => ?_⟩
      unfold canonical
      rw [hj]
    · cases hname
  · cases hname

/-- Of a list an element of which was written one finds that element there, and what else there was.
-/
lemma child_withItem {i k : Nat} {xs : Array Value} (hxs : mem.cells[i]? = some (.items xs))
    (hk : position? name (itemsAt mem i).size = some k) (v : Value) :
    child (withItem mem i k v) (.list i) name = v ∧
    ∀ x, canonical (.list i) x ≠ canonical (.list i) name →
      child (withItem mem i k v) (.list i) x = child mem (.list i) x := by
  obtain ⟨hlt, hlength, hstep⟩ := position?_eq hk
  have hsize : (itemsAt (withItem mem i k v) i).size = (itemsAt mem i).size := by
    rw [itemsAt_withItem hxs, Array.size_setIfInBounds]
  constructor
  · rw [child, if_neg fun h => hlength (eq_of_beq h), hsize, hk, itemsAt_withItem hxs,
      Option.bind_some,
      Array.getElem?_setIfInBounds_self_of_lt hlt]
    rfl
  · intro x hx
    rw [child, child, hsize, itemsAt_withItem hxs]
    split
    · rfl
    · cases hj : position? x (itemsAt mem i).size with
      | none => rfl
      | some j =>
        have hne : k ≠ j := fun heq => hx (by rw [(position?_eq hj).2.2, hstep, heq])
        rw [Option.bind_some, Option.bind_some, Array.getElem?_setIfInBounds_ne hne]

lemma setPath_single (m : Machine) (u : Value) (name : String) (v : Value) : u.setPath m [name] v =
    if u.isNullish then throw (Fault.make .writeToNothing [("Value", u.nothingName),
    ("Property", name)])
    else u.setProperty m name v := by
  cases u <;> rfl

/-- What is no list and no object has no properties that can be written. -/
lemma setPath_primitive (m : Machine) {u : Value} (hu : u.isPrimitive) (name : String) (v : Value) :
    ∃ f, (u.setPath m [name] v).on mem = (.error f, mem) := by
  rw [setPath_single]
  split
  · exact ⟨_, rfl⟩
  · cases u with
    | null | undefined | bool _ | number _ | single _ | whole _ _ | measure _ _ | text _ | raw _ =>
      exact ⟨_, rfl⟩
    | _ => cases hu

lemma setPath_list (mem : Memory) (m : Machine) (i : Nat) (name : String) (v : Value) :
    (position? name (itemsAt mem i).size = none ∧ ∃ f, ((Value.list i).setPath m [name] v).on mem =
    (.error f, mem)) ∨
      ∃ k, position? name (itemsAt mem i).size = some k ∧
        ((Value.list i).setPath m [name] v).on mem = (.ok (), withItem mem i k v) := by
  have hset : (Value.setProperty m (.list i) name v).on mem = _ := on_bind (items_on mem i) _
  have hpath : (Value.list i).setPath m [name] v = Value.setProperty m (.list i) name v :=
    setPath_single m _ name v
  rw [hpath]
  cases hk : position? name (itemsAt mem i).size with
  | none =>
    rw [hk] at hset
    exact .inl ⟨rfl, _, hset⟩
  | some k =>
    rw [hk] at hset
    exact .inr ⟨k, rfl, hset⟩

variable {w : Value} {at_ d : Nat}

/-! ### Looking names up -/

/-- A scope by its number. -/
def scopeAt (a : Array Scope) (i : Nat) : Scope := a[i]?.getD {}

/-- The scopes from one upwards. -/
def above (a : Array Scope) : Nat → Nat → List (Nat × Scope)
  | 0, at_ => [(at_, scopeAt a at_)]
  | fuel + 1, at_ => (at_, scopeAt a at_) ::
    match (scopeAt a at_).parent with
    | some up => above a fuel up
    | none => []

lemma chain_above (fuel at_ : Nat) (mem : Memory) :
    (Scope.chain fuel at_).on mem = (.ok (above mem.scopes fuel at_), mem) := by
  induction fuel generalizing at_ with
  | zero => rfl
  | succ fuel ih =>
    have hscope : (Memory.scope at_).on mem = (.ok (scopeAt mem.scopes at_), mem) := rfl
    rw [Scope.chain, on_bind hscope, above]
    cases (scopeAt mem.scopes at_).parent with
    | none => rfl
    | some up => exact on_bind (ih up) _

/-- The value of a name in the first of several scopes that has one. -/
def bound? (name : String) (ss : List (Nat × Scope)) : Option Value := ss.findSome? fun e =>
    e.2.vars.get? name

/-- The scopes from one upwards are there and forbid no names, and the data above them is an object.
-/
structure Grounded (mem : Memory) (at_ d : Nat) : Prop where
  present : ∀ e ∈ above mem.scopes at_ at_, e.1 < mem.scopes.size
  legible : ∀ e ∈ above mem.scopes at_ at_, e.2.poisoned = []
  top : (above mem.scopes at_ at_).getLast?.map (·.2.data) = some (.object d)

/-- The value of a name in a scope, or else in the data above it. -/
def look (mem : Memory) (at_ d : Nat) (name : String) : Value :=
  ((bound? name (above mem.scopes at_ at_)).or ((fieldsAt mem d).get? name)).getD .undefined

lemma find_legible {s : Scope} (hs : s.poisoned = []) (name : String) :
    s.find name = match s.vars.get? name with
      | some v => .bound v
      | none => .absent := by
  rw [Scope.find, hs]
  rfl

lemma lookupIn_on (h : Host) {ss : List (Nat × Scope)} {d : Nat}
    (hlegible : ∀ e ∈ ss, e.2.poisoned = [])
    (htop : ss.getLast?.map (·.2.data) = some (.object d)) (name : String) :
    (Scope.lookupIn h name ss).on mem =
      (.ok (((bound? name ss).or ((fieldsAt mem d).get? name)).getD .undefined), mem) := by
  induction ss with
  | nil => cases htop
  | cons e rest ih =>
    obtain ⟨hs, hrest⟩ := List.forall_mem_cons.1 hlegible
    rw [Scope.lookupIn.eq_def]
    dsimp only
    rw [find_legible hs, bound?, List.findSome?_cons]
    cases e.2.vars.get? name with
    | some v => rfl
    | none =>
      cases rest with
      | nil =>
        have hdata : e.2.data = .object d := Option.some.inj htop
        rw [hdata]
        exact on_bind (fields_on mem d) _
      | cons e' rest => exact ih hrest htop

/-- In a scope on the ground a name is looked up without a change. -/
lemma Grounded.name_on {at_ d : Nat} (h : Grounded mem at_ d) (m : Machine) {env : Env}
    (henv : env.scope = some at_)
    (x : String) : (Eval.name m env x).on mem = (.ok (look mem at_ d x), mem) := by
  rw [Eval.name, henv]
  dsimp only
  rw [Scope.lookup, on_bind (chain_above at_ at_ mem)]
  exact lookupIn_on m.host h.legible h.top x

/-! ### Writing names -/

section

variable {a : Array Scope} {f : Scope → Scope} {i : Nat}

/-- What a change of one scope makes of several. -/
def changedAt (i : Nat) (f : Scope → Scope) (e : Nat × Scope) : Nat × Scope :=
  if e.1 = i then (i, f e.2) else e

lemma scopeAt_modify (hi : i < a.size) (j : Nat) : (j, scopeAt (a.modify i f) j) = changedAt i f
    (j, scopeAt a j) := by
  rw [changedAt, scopeAt, scopeAt, Array.getElem?_modify]
  by_cases hj : i = j
  · subst hj
    rw [if_pos rfl, if_pos rfl, Array.getElem?_eq_getElem hi]
    rfl
  · rw [if_neg hj, if_neg (Ne.symm hj)]

/-- The scopes from one upwards, when one of all scopes has changed. -/
lemma above_modify (hf : ∀ s, (f s).parent = s.parent) (hi : i < a.size) (fuel at_ : Nat) :
    above (a.modify i f) fuel at_ = (above a fuel at_).map (changedAt i f) := by
  have hparent : ∀ j, (scopeAt (a.modify i f) j).parent = (scopeAt a j).parent := by
    intro j
    rw [show scopeAt (a.modify i f) j = (changedAt i f (j, scopeAt a j)).2 from congrArg Prod.snd
      (scopeAt_modify hi j),
      changedAt]
    split
    · exact hf _
    · rfl
  induction fuel generalizing at_ with
  | zero => exact congrArg (fun e => [e]) (scopeAt_modify hi at_)
  | succ fuel ih =>
    rw [above, above, List.map_cons, scopeAt_modify hi, hparent]
    cases (scopeAt a at_).parent with
    | none => rfl
    | some up => exact congrArg (_ :: ·) (ih up)

lemma above_mem {fuel at_ : Nat} {e : Nat × Scope} (he : e ∈ above a fuel at_) :
    e.2 = scopeAt a e.1 := by
  induction fuel generalizing at_ with
  | zero => rw [List.mem_singleton.1 he]
  | succ fuel ih =>
    rw [above] at he
    obtain rfl | he := List.mem_cons.1 he
    · rfl
    · split at he
      · exact ih he
      · exact absurd he List.not_mem_nil

/-- Binding a name in a scope. -/
def bindVar (name : String) (v : Value) (s : Scope) : Scope :=
  { s with vars := Fields.insert name v s.vars }

/-- Memory with a name bound in a scope. -/
def withName (mem : Memory) (i : Nat) (name : String) (v : Value) : Memory :=
  { mem with scopes := mem.scopes.modify i (bindVar name v) }

lemma changed_vars (name : String) (v : Value) (i : Nat) (e : Nat × Scope) (x : String) :
    (changedAt i (bindVar name v) e).2.vars.get? x =
      if e.1 = i ∧ name = x then some v else e.2.vars.get? x := by
  rw [changedAt]
  by_cases hi : e.1 = i
  · rw [if_pos hi]
    refine (Fields.get?_insert name v e.2.vars x).trans ?_
    by_cases hx : name = x
    · rw [if_pos hx, if_pos ⟨hi, hx⟩]
    · rw [if_neg hx, if_neg fun h => hx h.2]
  · rw [if_neg hi, if_neg fun h => hi h.1]

end

section

variable {m : Machine} {e e' : Nat × Scope} {rest ss : List (Nat × Scope)}

lemma assignIn_here (hs : e.2.poisoned = []) (hvar : e.2.vars.get? name = some w) (v : Value) :
    Scope.assignIn m name v (e :: rest) =
    (do Memory.updateScope e.1 (bindVar name v); return true) := by
  rw [Scope.assignIn.eq_def]
  dsimp only
  rw [find_legible hs, hvar]
  rfl

lemma assignIn_up (hs : e.2.poisoned = []) (hvar : e.2.vars.get? name = none) (v : Value) :
    Scope.assignIn m name v (e :: e' :: rest) = Scope.assignIn m name v (e' :: rest) := by
  rw [Scope.assignIn.eq_def]
  dsimp only
  rw [find_legible hs, hvar]

lemma assignIn_top (hs : e.2.poisoned = []) (hvar : e.2.vars.get? name = none) (v : Value) :
    Scope.assignIn m name v [e] = Scope.writeData m e.2.data name v := by
  rw [Scope.assignIn.eq_def]
  dsimp only
  rw [find_legible hs, hvar]

/-- A name that is bound is written in the first scope that binds it. -/
lemma assignIn_bound (v : Value) (hlegible : ∀ e ∈ ss, e.2.poisoned = [])
    (hss : ∀ e ∈ ss, e.2 = scopeAt mem.scopes e.1) (hbound : bound? name ss = some w) :
    ∃ e ∈ ss, (e.2.vars.get? name).isSome ∧
      (Scope.assignIn m name v ss).on mem = (.ok true, withName mem e.1 name v) ∧
      bound? name (ss.map (changedAt e.1 (bindVar name v))) = some v := by
  induction ss with
  | nil => cases hbound
  | cons e rest ih =>
    obtain ⟨hs, hrest⟩ := List.forall_mem_cons.1 hlegible
    obtain ⟨hself, hssrest⟩ := List.forall_mem_cons.1 hss
    rw [bound?, List.findSome?_cons] at hbound
    cases hvar : e.2.vars.get? name with
    | some u =>
      refine ⟨e, List.mem_cons_self, by rw [hvar]; rfl, ?_, ?_⟩
      · rw [assignIn_here hs hvar]
        rfl
      · rw [List.map_cons, bound?, List.findSome?_cons, changed_vars, if_pos ⟨rfl, rfl⟩]
    | none =>
      rw [hvar] at hbound
      obtain ⟨e', he', hsome, hrun, hfound⟩ := ih hrest hssrest hbound
      refine ⟨e', List.mem_cons_of_mem _ he', hsome, ?_, ?_⟩
      · cases rest with
        | nil => exact absurd he' List.not_mem_nil
        | cons _ _ =>
          rw [assignIn_up hs hvar]
          exact hrun
      · -- the scope in front is another one, since it does not bind the name
        have hne : ¬ (e.1 = e'.1 ∧ name = name) := by
          rintro ⟨heq, -⟩
          rw [hself, heq, ← hssrest e' he'] at hvar
          rw [hvar] at hsome
          cases hsome
        rw [List.map_cons, bound?, List.findSome?_cons, changed_vars, if_neg hne, hvar]
        exact hfound

/-- A name that is not bound is written to the data. -/
lemma assignIn_free (v : Value) (hlegible : ∀ e ∈ ss, e.2.poisoned = [])
    (htop : ss.getLast?.map (·.2.data) = some (.object d)) (hbound : bound? name ss = none) :
    (Scope.assignIn m name v ss).on mem = (.ok true, withField mem d name v) := by
  induction ss with
  | nil => cases htop
  | cons e rest ih =>
    obtain ⟨hs, hrest⟩ := List.forall_mem_cons.1 hlegible
    rw [bound?, List.findSome?_cons] at hbound
    cases hvar : e.2.vars.get? name with
    | some u =>
      rw [hvar] at hbound
      cases hbound
    | none =>
      rw [hvar] at hbound
      cases rest with
      | nil =>
        have hdata : e.2.data = .object d := Option.some.inj htop
        have hput : (do Value.setProperty m (.object d) name v; return true : Run Bool).on mem =
            (.ok true, withField mem d name v) := on_bind (setProperty_object m d name v) _
        rw [assignIn_top hs hvar, hdata, Scope.writeData, on_tryCatch, hput]
        exact fun h => Value.noConfusion h
      | cons e' rest =>
        rw [assignIn_up hs hvar]
        exact ih hrest htop hbound

lemma assign_on (hrun : (Scope.assignIn m root v (above mem.scopes at_ at_)).on mem =
    (.ok true, mem')) :
    (Scope.assign m at_ root v).on mem = (.ok (), mem') := by
  rw [Scope.assign, on_bind (chain_above at_ at_ mem), on_bind hrun]
  rfl

lemma above_withName {i : Nat} (hi : i < mem.scopes.size) (name : String) (v : Value) :
    above (withName mem i name v).scopes at_ at_ = (above mem.scopes at_ at_).map
    (changedAt i (bindVar name v)) :=
  above_modify (f := bindVar name v) (fun _ => rfl) hi at_ at_

/-- A scope on the ground stays there when a name is bound. -/
lemma Grounded.withName (h : Grounded mem at_ d) {i : Nat} (hi : i < mem.scopes.size)
    (name : String) (v : Value) :
    Grounded (withName mem i name v) at_ d := by
  have hkeeps : ∀ e : Nat × Scope, (changedAt i (bindVar name v) e).1 = e.1 ∧
      (changedAt i (bindVar name v) e).2.poisoned = e.2.poisoned ∧
      (changedAt i (bindVar name v) e).2.data = e.2.data := by
    intro e
    rw [changedAt]
    split
    · next heq => exact ⟨heq.symm, rfl, rfl⟩
    · exact ⟨rfl, rfl, rfl⟩
  refine ⟨fun e he => ?_, fun e he => ?_, ?_⟩
  · rw [above_withName hi] at he
    obtain ⟨e', he', rfl⟩ := List.mem_map.1 he
    rw [(hkeeps e').1, Eval.withName, Array.size_modify]
    exact h.present e' he'
  · rw [above_withName hi] at he
    obtain ⟨e', he', rfl⟩ := List.mem_map.1 he
    rw [(hkeeps e').2.1]
    exact h.legible e' he'
  · rw [above_withName hi, List.getLast?_map, Option.map_map]
    refine Eq.trans (congrArg (fun g => Option.map g _) ?_) h.top
    exact funext fun e => (hkeeps e).2.2

end

end Eval

end Trellis
