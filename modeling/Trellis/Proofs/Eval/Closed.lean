/-
Closed expressions.

A closed expression is put together from constants.  What it evaluates to does not depend on what it
is evaluated in, except for the places where its lists and objects are kept; `Closed` is the value
without these places.  `Closed.Holds` says that a value stands for it in memory: an element of a
list is kept before the list, so a text of a list never runs out of depth.  Every operand makes
lists and objects of its own, so two operands are never the same one; this is what equality needs.
-/
import Trellis.Eval
import Trellis.Proofs.Value.Run

namespace Trellis

/-- What a closed expression evaluates to, but for the places of lists and objects. -/
inductive Closed where
  | null | undefined
  | bool (b : Bool)
  | number (x : Float)
  | text (s : String)
  | list (items : List Closed)
  | object

namespace Closed

/-- The value that is kept at a place; a primitive one is the same everywhere. -/
def value (at_ : Nat) : Closed → Value
  | .null => .null
  | .undefined => .undefined
  | .bool b => .bool b
  | .number x => .number x
  | .text s => .text s
  | .list _ => .list at_
  | .object => .object at_

/-- Whether a value has no place. -/
def isPrimitive : Closed → Bool
  | .list _ | .object => false
  | _ => true

mutual
/-- A value as text. -/
def shown : Closed → String
  | .bool b => if b then "true" else "false"
  | .number x => numberText x
  | .text s => s
  | .list items => ",".intercalate (shownAll items)
  | .object => "[object Object]"
  | _ => ""

def shownAll : List Closed → List String
  | [] => []
  | c :: cs => c.shown :: shownAll cs
end

mutual
/-- A value stands for `c`, and its place is below `n`. -/
def Holds (cells : Array Cell) : Closed → Nat → Value → Prop
  | .list items, n, v =>
    ∃ at_ < n, ∃ xs : Array Value,
      v = .list at_ ∧ cells[at_]? = some (.items xs) ∧ HoldsAll cells items at_ xs.toList
  | .object, n, v => ∃ at_ < n, v = .object at_
  | c, _, v => v = c.value 0

/-- Values stand for `cs`, and their places are below `n`. -/
def HoldsAll (cells : Array Cell) : List Closed → Nat → List Value → Prop
  | [], _, vs => vs = []
  | c :: cs, n, vs => ∃ w ws, vs = w :: ws ∧ Holds cells c n w ∧ HoldsAll cells cs n ws
end

variable {cells more : Array Cell} {c d : Closed} {cs : List Closed} {n k : Nat} {v w : Value}
  {vs : List Value} {op : Expr.UnaryOp} {m : Memory}

/-! ### What holds of a value wherever it is kept -/

lemma truthy_value (c : Closed) (n : Nat) : (c.value n).truthy = (c.value 0).truthy := by
  cases c <;> rfl

lemma toNumber_value (c : Closed) (n : Nat) : (c.value n).toNumber = (c.value 0).toNumber := by
  cases c <;> rfl

lemma isPrimitive_value (c : Closed) (n : Nat) : (c.value n).isPrimitive = c.isPrimitive := by
  cases c <;> rfl

lemma value_of_isPrimitive (h : c.isPrimitive) (n : Nat) : c.value n = c.value 0 := by
  cases c <;> first | rfl | cases h

/-! ### Places -/

/-- A value whose place is below `n` has no place from `n` on. -/
lemma Holds.exists_value_ne (h : c.Holds cells n v) (hnk : n ≤ k) : ∃ at_ ≠ k, v = c.value at_ := by
  cases c with
  | list items =>
    obtain ⟨at_, hat, _, rfl, _⟩ := h
    exact ⟨at_, by omega, rfl⟩
  | object =>
    obtain ⟨at_, hat, rfl⟩ := h
    exact ⟨at_, by omega, rfl⟩
  | _ => exact ⟨k + 1, by omega, h⟩

lemma holds_of_isPrimitive (h : c.isPrimitive) : c.Holds cells n (c.value 0) := by
  cases c <;> first | rfl | cases h

mutual
/-- A value goes on standing for `c` when more is kept. -/
lemma Holds.mono : ∀ {c : Closed} {n k : Nat} {v : Value}, c.Holds cells n v → n ≤ k →
    c.Holds (cells ++ more) k v
  | .list items, n, k, v, h, hnk => by
    obtain ⟨at_, hat, xs, rfl, hcell, hall⟩ := h
    have hsize : at_ < cells.size := (Array.getElem?_eq_some_iff.1 hcell).1
    refine ⟨at_, by omega, xs, rfl, ?_, hall.mono (Nat.le_refl _)⟩
    rw [Array.getElem?_append_left hsize, hcell]
  | .object, n, k, v, h, hnk => by
    obtain ⟨at_, hat, rfl⟩ := h
    exact ⟨at_, by omega, rfl⟩
  | .null, _, _, _, h, _ | .undefined, _, _, _, h, _ | .bool _, _, _, _, h, _
  | .number _, _, _, _, h, _ | .text _, _, _, _, h, _ => h

lemma HoldsAll.mono : ∀ {cs : List Closed} {n k : Nat} {vs : List Value},
    HoldsAll cells cs n vs → n ≤ k → HoldsAll (cells ++ more) cs k vs
  | [], _, _, _, h, _ => h
  | _ :: _, _, _, _, h, hnk => by
    obtain ⟨w, ws, rfl, hw, hws⟩ := h
    exact ⟨w, ws, rfl, hw.mono hnk, hws.mono hnk⟩
end

lemma HoldsAll.length_eq (h : HoldsAll cells cs n vs) : vs.length = cs.length := by
  induction cs generalizing vs with
  | nil =>
    obtain rfl := h
    rfl
  | cons c cs ih =>
    obtain ⟨w, ws, rfl, _, hws⟩ := h
    rw [List.length_cons, List.length_cons, ih hws]

/-! ### Texts -/

mutual
/-- As many steps as there are places below the value suffice for its text. -/
lemma Holds.textTo (machine : Machine) : ∀ {c : Closed} {n fuel : Nat} {v : Value},
    c.Holds m.cells n v → n ≤ fuel → (v.textTo machine fuel).on m = (.ok c.shown, m)
  | .list items, n, fuel, v, h, hfuel => by
    obtain ⟨at_, hat, xs, rfl, hcell, hall⟩ := h
    obtain ⟨depth, rfl⟩ : ∃ depth, fuel = depth + 1 := ⟨fuel - 1, by omega⟩
    have hitems : (Memory.items at_).on m = (.ok xs, m) := by
      have hread : (Memory.cell? at_).on m = (.ok m.cells[at_]?, m) := rfl
      rw [Memory.items, Run.on_bind hread, hcell]
      rfl
    have htexts := hall.textTo machine (show at_ ≤ depth by omega)
    rw [Value.textTo, Run.on_bind hitems, Run.on_bind htexts]
    rfl
  | .object, n, fuel, v, h, _ => by
    obtain ⟨at_, _, rfl⟩ := h
    cases fuel <;> rfl
  | .null, _, fuel, _, h, _ | .undefined, _, fuel, _, h, _ => by
    obtain rfl := h
    cases fuel <;> rfl
  | .bool b, _, fuel, _, h, _ | .number x, _, fuel, _, h, _ | .text s, _, fuel, _, h, _ => by
    obtain rfl := h
    cases fuel <;> rfl

lemma HoldsAll.textTo (machine : Machine) : ∀ {cs : List Closed} {n fuel : Nat} {vs : List Value},
    HoldsAll m.cells cs n vs → n ≤ fuel →
      (vs.mapM (Value.textTo machine fuel)).on m = (.ok (shownAll cs), m)
  | [], _, _, _, h, _ => by
    obtain rfl := h
    rfl
  | _ :: _, _, _, _, h, hfuel => by
    obtain ⟨w, ws, rfl, hw, hws⟩ := h
    rw [List.mapM_cons, Run.on_bind (hw.textTo machine hfuel),
      Run.on_bind (hws.textTo machine hfuel)]
    rfl
end

lemma Holds.toText (machine : Machine) (h : c.Holds m.cells m.cells.size v) :
    (v.toText machine).on m = (.ok c.shown, m) :=
  h.textTo machine (Nat.le_succ _)

/-! ### Operators -/

/-- What an operator before an operand gives. -/
def unary (op : Expr.UnaryOp) (c : Closed) : Closed :=
  match op with
  | .not => .bool (!(c.value 0).truthy)
  | .neg => .number (-(c.value 0).toNumber)
  | .pos => .number (c.value 0).toNumber
  | .typeof => .text (c.value 0).typeof

/-- Equality without conversion, of two values that were made apart. -/
def strictEq : Closed → Closed → Bool
  | .null, .null | .undefined, .undefined => true
  | .bool x, .bool y => x == y
  | .number x, .number y => x == y
  | .text x, .text y => x == y
  | .list xs, .list ys => xs.isEmpty && ys.isEmpty
  | _, _ => false

/-- Equality with conversion, of two values that were made apart. -/
def looseEq (c d : Closed) : Bool :=
  let a := c.value 0
  let b := d.value 0
  if a.isNullish || b.isNullish then a.isNullish && b.isNullish
  else if strictEq c d then true
  else if a.isPrimitive && b.isPrimitive && !(a.isTextual && b.isTextual) then
    a.toNumber == b.toNumber
  else false

/-- What an operator between two operands gives. -/
def binary (op : Expr.BinaryOp) (c d : Closed) : Closed :=
  let a := c.value 0
  let b := d.value 0
  match op with
  | .add =>
    if a.isTextual || b.isTextual || !a.isPrimitive ||
      !b.isPrimitive then .text (c.shown ++ d.shown)
    else .number (a.toNumber + b.toNumber)
  | .sub => .number (a.toNumber - b.toNumber)
  | .mul => .number (a.toNumber * b.toNumber)
  | .div => .number (a.toNumber / b.toNumber)
  | .mod => .number (floatMod a.toNumber b.toNumber)
  | .eq => .bool (looseEq c d)
  | .ne => .bool (!looseEq c d)
  | .strictEq => .bool (strictEq c d)
  | .strictNe => .bool (!strictEq c d)
  | .lt => .bool (a.less b (· < ·) (· < ·))
  | .gt => .bool (a.less b (· > ·) (· > ·))
  | .le => .bool (a.less b (fun x y => !(y < x)) (· ≤ ·))
  | .ge => .bool (a.less b (fun x y => !(x < y)) (· ≥ ·))

lemma unary_value (op : Expr.UnaryOp) (c : Closed) (n : Nat) :
    (c.value n).unary op = (c.unary op).value 0 := by
  cases op <;> cases c <;> rfl

lemma isPrimitive_unary (op : Expr.UnaryOp) (c : Closed) : (c.unary op).isPrimitive = true := by
  cases op <;> rfl

lemma isPrimitive_binary (op : Expr.BinaryOp) (c d : Closed) : (binary op c d).isPrimitive =
    true := by
  cases op with
  | add =>
    simp only [binary]
    split <;> rfl
  | _ => rfl

lemma isEmpty_items {items : List Closed} {at_ : Nat} {xs : Array Value}
    (hcell : m.cells[at_]? = some (.items xs)) (hall : HoldsAll m.cells items at_ xs.toList) :
    (Memory.items at_).on m = (.ok xs, m) ∧ xs.isEmpty = items.isEmpty := by
  have hread : (Memory.cell? at_).on m = (.ok m.cells[at_]?, m) := rfl
  refine ⟨by rw [Memory.items, Run.on_bind hread, hcell]; rfl, ?_⟩
  have hlength : xs.size = items.length := by simpa using hall.length_eq
  cases items <;> simp_all [Array.isEmpty]

/-- Operands that are kept at different places are compared as what they stand for. -/
lemma strictEq_on {i j : Nat} (hc : c.Holds m.cells n (c.value i))
    (hd : d.Holds m.cells k (d.value j))
    (hij : i ≠ j) : ((c.value i).strictEq (d.value j)).on m = (.ok (strictEq c d), m) := by
  have hne : (i == j) = false := by simpa using hij
  cases c with
  | list xs =>
    cases d with
    | list ys =>
      obtain ⟨_, _, vs, ⟨⟩, hcell, hall⟩ := hc
      obtain ⟨_, _, ws, ⟨⟩, hcell', hall'⟩ := hd
      obtain ⟨hleft, hempty⟩ := isEmpty_items hcell hall
      obtain ⟨hright, hempty'⟩ := isEmpty_items hcell' hall'
      have hboth : (Value.bothEmpty i j).on m = (.ok (vs.isEmpty && ws.isEmpty), m) := by
        rw [Value.bothEmpty, Run.on_bind hleft, Run.on_bind hright]
        rfl
      simp only [value, Value.strictEq, hne, Bool.false_or]
      rw [Run.on_bind hboth, hempty, hempty']
      rfl
    | _ => rfl
  | object =>
    cases d with
    | object =>
      simp only [value, Value.strictEq, hne]
      rfl
    | _ => rfl
  | _ => cases d <;> rfl

lemma looseEq_on {i j : Nat} (hc : c.Holds m.cells n (c.value i))
    (hd : d.Holds m.cells k (d.value j))
    (hij : i ≠ j) : ((c.value i).looseEq (d.value j)).on m = (.ok (looseEq c d), m) := by
  have hstrict := strictEq_on hc hd hij
  have hnullish : ∀ (c : Closed) (n : Nat), (c.value n).isNullish = (c.value 0).isNullish := by
    intro c n
    cases c <;> rfl
  have htextual : ∀ (c : Closed) (n : Nat), (c.value n).isTextual = (c.value 0).isTextual := by
    intro c n
    cases c <;> rfl
  have hprimitive : ∀ (c : Closed) (n : Nat), (c.value n).isPrimitive =
      (c.value 0).isPrimitive := by
    intro c n
    cases c <;> rfl
  rw [Value.looseEq, looseEq, hnullish c i, hnullish d j]
  split
  · rfl
  · rw [Run.on_bind hstrict, hprimitive c i, hprimitive d j, htextual c i, htextual d j,
      toNumber_value c i, toNumber_value d j]
    cases strictEq c d with
    | true => rfl
    | false =>
      simp only [Bool.false_eq_true, if_false]
      split <;> rfl

lemma add_on (machine : Machine) {i j : Nat} (hc : c.Holds m.cells m.cells.size (c.value i))
    (hd : d.Holds m.cells m.cells.size (d.value j)) :
    (Value.add machine (c.value i) (d.value j)).on m = (.ok ((binary .add c d).value 0), m) := by
  have hkinds : ((c.value i).isTextual || (d.value j).isTextual || !(c.value i).isPrimitive ||
      !(d.value j).isPrimitive) = ((c.value 0).isTextual || (d.value 0).isTextual ||
      !(c.value 0).isPrimitive || !(d.value 0).isPrimitive) := by
    cases c <;> cases d <;> rfl
  rw [Value.add, hkinds, binary, toNumber_value c i, toNumber_value d j]
  split
  · rw [Run.on_bind (hc.toText machine), Run.on_bind (hd.toText machine)]
    rfl
  · rfl

lemma binary_on (machine : Machine) (op : Expr.BinaryOp) {i j : Nat}
    (hc : c.Holds m.cells m.cells.size (c.value i)) (hd : d.Holds m.cells m.cells.size (d.value j))
    (hij : i ≠ j) :
    (Value.binary machine op (c.value i) (d.value j)).on m = (.ok ((binary op c d).value 0),
    m) := by
  have hless : ∀ texts numbers,
      (c.value i).less (d.value j) texts numbers = (c.value 0).less (d.value 0) texts numbers := by
    intro texts numbers
    cases c <;> cases d <;> rfl
  cases op with
  | add => exact add_on machine hc hd
  | eq | ne =>
    rw [Value.binary, Run.on_bind (looseEq_on hc hd hij)]
    rfl
  | strictEq | strictNe =>
    rw [Value.binary, Run.on_bind (strictEq_on hc hd hij)]
    rfl
  | lt | gt | le | ge =>
    rw [Value.binary, hless]
    rfl
  | sub | mul | div | mod =>
    rw [Value.binary, toNumber_value c i, toNumber_value d j]
    rfl

/-! ### Evaluation -/

/-- What a constant stands for. -/
def ofLiteral : Expr.Literal → Closed
  | .string value _ => .text value
  | .number raw => .number (Expr.numberValue raw)
  | .bool b => .bool b
  | .null => .null

lemma isPrimitive_ofLiteral (l : Expr.Literal) : (ofLiteral l).isPrimitive = true := by
  cases l <;> rfl

lemma literal_eq (l : Expr.Literal) : Eval.literal l = (ofLiteral l).value 0 := by
  cases l <;> rfl

end Closed

mutual
/-- What a closed expression evaluates to. -/
def Expr.closed : Expr → Closed
  | .lit _ l => .ofLiteral l
  | .pipe _ entity _ _ => Expr.closed entity
  | .array _ es => .list (Expr.allClosed es)
  | .object _ _ => .object
  | .seq _ es => Expr.lastClosed .undefined es
  | .unary _ op e => .unary op (Expr.closed e)
  | .binary _ op l r => .binary op (Expr.closed l) (Expr.closed r)
  | .logical _ op l r =>
    if ((Expr.closed l).value 0).truthy != (op == .and) then Expr.closed l else Expr.closed r
  | .cond _ t c a => if ((Expr.closed t).value 0).truthy then Expr.closed c else Expr.closed a
  | .paren _ e => Expr.closed e
  | _ => .undefined

def Expr.allClosed : List Expr → List Closed
  | [] => []
  | e :: es => Expr.closed e :: Expr.allClosed es

/-- What the last of several closed expressions evaluates to. -/
def Expr.lastClosed (last : Closed) : List Expr → Closed
  | [] => last
  | e :: es => Expr.lastClosed (Expr.closed e) es
end

/-- Work on `m` only keeps new lists and objects, and its value stands for `c` and is kept from `lo`
on. -/
def Closed.GivesAt (w : Run Value) (c : Closed) (lo : Nat) (m : Memory) : Prop :=
  ∃ (more : Array Cell) (at_ : Nat),
    w.on m = (.ok (c.value at_), { m with cells := m.cells ++ more }) ∧
      c.Holds (m.cells ++ more) (m.cells ++ more).size (c.value at_) ∧ lo ≤ at_

/-- Work only keeps new lists and objects, and its value stands for `c` and is one of them. -/
def Closed.Gives (w : Run Value) (c : Closed) : Prop :=
  ∀ m : Memory, GivesAt w c m.cells.size m

/-- Work only keeps new lists and objects, and its values stand for `cs`. -/
def Closed.GivesAll (w : Run (List Value)) (cs : List Closed) : Prop :=
  ∀ m : Memory, ∃ (more : Array Cell) (vs : List Value),
    w.on m = (.ok vs, { m with cells := m.cells ++ more }) ∧
      HoldsAll (m.cells ++ more) cs (m.cells ++ more).size vs

namespace Closed

variable {c d : Closed} {cs : List Closed} {w : Run Value} {ws : Run (List Value)} {lo : Nat}
  {m : Memory} {f : Value → Run Value}

lemma givesAt_value {at_ : Nat} (hat : lo ≤ at_) (h : c.Holds m.cells m.cells.size (c.value at_)) :
    GivesAt (pure (c.value at_)) c lo m :=
  ⟨#[], at_, by rw [Array.append_empty]; rfl, by rwa [Array.append_empty], hat⟩

lemma givesAt_pure (h : c.isPrimitive) : GivesAt (pure (c.value 0)) c lo m := by
  rw [← value_of_isPrimitive h lo]
  refine givesAt_value (Nat.le_refl _) ?_
  rw [value_of_isPrimitive h lo]
  exact holds_of_isPrimitive h

lemma GivesAt.mono (h : GivesAt w c n m) (hn : lo ≤ n) : GivesAt w c lo m := by
  obtain ⟨more, at_, hrun, hholds, hat⟩ := h
  exact ⟨more, at_, hrun, hholds, Nat.le_trans hn hat⟩

/-- Work that goes on from a value. -/
lemma Gives.bind (hw : Gives w c)
    (hf : ∀ (m' : Memory) (at_ : Nat), (∃ more, m'.cells = m.cells ++ more) → m.cells.size ≤ at_ →
      c.Holds m'.cells m'.cells.size (c.value at_) → GivesAt (f (c.value at_)) d lo m') :
    GivesAt (w >>= f) d lo m := by
  obtain ⟨more, at_, hrun, hholds, hat⟩ := hw m
  obtain ⟨rest, at', hrun', hholds', hat'⟩ :=
    hf { m with cells := m.cells ++ more } at_ ⟨more, rfl⟩ hat hholds
  refine ⟨more ++ rest, at', ?_, ?_, hat'⟩
  · rw [Run.on_bind hrun, hrun', Array.append_assoc]
  · rwa [← Array.append_assoc]

end Closed

namespace Eval

open Closed

variable (machine : Machine) (env : Env)

/-- Binding marks change no value. -/
lemma decorators_marks (v : Value) {chain : List Decorator}
    (h : ∀ d ∈ chain, isBindingMark d.name) : decorators machine env v chain = pure v := by
  induction chain with
  | nil => rfl
  | cons d ds ih =>
    obtain ⟨span, name, args, parens⟩ := d
    have hmark : isBindingMark name := h _ List.mem_cons_self
    rw [decorators, if_pos hmark]
    exact ih fun d hd => h d (List.mem_cons_of_mem _ hd)

/-- A new list holds the values that it is made of. -/
lemma newList_on {m : Memory} {cs : List Closed} {vs : List Value}
    (h : HoldsAll m.cells cs m.cells.size vs) :
    GivesAt (Memory.newList vs) (.list cs) m.cells.size m := by
  refine ⟨#[.items vs.toArray], m.cells.size, ?_, ?_, Nat.le_refl _⟩
  · rfl
  · refine ⟨m.cells.size, by simp, vs.toArray, rfl, ?_, ?_⟩
    · rw [Array.getElem?_append_right (Nat.le_refl _), Nat.sub_self]
      rfl
    · exact h.mono (Nat.le_refl _)

lemma binary_closed {op : Expr.BinaryOp} {c d : Closed} {m : Memory} {lo i j n : Nat}
    (hc : c.Holds m.cells n (c.value i)) (hd : d.Holds m.cells m.cells.size (d.value j))
    (hn : n ≤ j) (hm : n ≤ m.cells.size) :
    GivesAt (Value.binary machine op (c.value i) (d.value j)) (.binary op c d) lo m := by
  obtain ⟨i', hne, hi⟩ := hc.exists_value_ne hn
  have hc' : c.Holds m.cells m.cells.size (c.value i') := by
    have hgrown : c.Holds (m.cells ++ #[]) m.cells.size (c.value i) := hc.mono hm
    rwa [Array.append_empty, hi] at hgrown
  have hprimitive : (Closed.binary op c d).isPrimitive := isPrimitive_binary op c d
  rw [hi]
  refine ⟨#[], lo, ?_, ?_, Nat.le_refl _⟩
  · rw [binary_on machine op hc' hd hne, value_of_isPrimitive hprimitive lo, Array.append_empty]
  · rw [value_of_isPrimitive hprimitive]
    exact holds_of_isPrimitive hprimitive

mutual
/-- A closed expression evaluates to what it stands for, in every environment and memory. -/
theorem expr_closed : ∀ e : Expr, e.isClosed → Gives (expr machine env e) e.closed
  | .lit _ l, _ => by
    intro m
    rw [expr, literal_eq]
    exact givesAt_pure (isPrimitive_ofLiteral l)
  | .ident _ name, h => by
    intro m
    obtain rfl : name = "undefined" := by simpa [Expr.isClosed] using h
    exact givesAt_pure (c := .undefined) rfl
  | .pipe _ entity _ chain, h => by
    intro m
    simp only [Expr.isClosed, Bool.and_eq_true, List.all_eq_true] at h
    refine (expr_closed entity h.1).bind fun m' at_ _ hat hholds => ?_
    rw [decorators_marks machine env _ h.2]
    exact givesAt_value hat hholds
  | .array _ es, h => by
    intro m
    obtain ⟨more, vs, hrun, hall⟩ := exprs_closed es h m
    obtain ⟨rest, at_, hrun', hholds, hat⟩ :=
      newList_on (m := { m with cells := m.cells ++ more }) hall
    refine ⟨more ++ rest, at_, ?_, ?_, ?_⟩
    · rw [expr, Run.on_bind hrun, hrun', Array.append_assoc]
      rfl
    · rwa [← Array.append_assoc]
    · rw [Array.size_append] at hat
      omega
  | .object _ ps, h => by
    intro m
    obtain ⟨more, fs, hrun⟩ := object_closed ps h [] m
    refine ⟨more ++ #[.fields fs], (m.cells ++ more).size, ?_, ?_, by simp⟩
    · rw [expr, Run.on_bind hrun, ← Array.append_assoc]
      rfl
    · exact ⟨_, by simp, rfl⟩
  | .seq _ es, h => by
    intro m
    exact sequence_closed es h .undefined m.cells.size (Nat.le_refl _) (Nat.le_refl _) rfl
  | .unary _ op e, h => by
    intro m
    refine (expr_closed e h).bind fun m' at_ _ _ _ => ?_
    rw [unary_value]
    exact givesAt_pure (isPrimitive_unary op _)
  | .binary _ op l r, h => by
    intro m
    simp only [Expr.isClosed, Bool.and_eq_true] at h
    refine (expr_closed l h.1).bind fun m' i _ _ hl => ?_
    refine (expr_closed r h.2).bind fun m'' j hgrown hj hr => ?_
    obtain ⟨more, hcells⟩ := hgrown
    refine binary_closed machine (n := m'.cells.size) ?_ hr hj ?_
    · rw [hcells]
      exact hl.mono (Nat.le_refl _)
    · rw [hcells, Array.size_append]
      omega
  | .logical _ op l r, h => by
    intro m
    simp only [Expr.isClosed, Bool.and_eq_true] at h
    refine (expr_closed l h.1).bind fun m' i hgrown hi hl => ?_
    obtain ⟨more, hcells⟩ := hgrown
    rw [truthy_value, Expr.closed]
    split
    · exact givesAt_value hi hl
    · refine (expr_closed r h.2 m').mono ?_
      rw [hcells, Array.size_append]
      omega
  | .cond _ t c a, h => by
    intro m
    simp only [Expr.isClosed, Bool.and_eq_true] at h
    refine (expr_closed t h.1.1).bind fun m' i hgrown _ _ => ?_
    obtain ⟨more, hcells⟩ := hgrown
    have hsize : m.cells.size ≤ m'.cells.size := by
      rw [hcells, Array.size_append]
      omega
    rw [truthy_value, Expr.closed]
    split
    · exact (expr_closed c h.1.2 m').mono hsize
    · exact (expr_closed a h.2 m').mono hsize
  | .paren _ e, h => expr_closed e h

theorem exprs_closed : ∀ es : List Expr, Expr.areClosed es →
    GivesAll (exprs machine env es) (Expr.allClosed es)
  | [], _ => fun m => ⟨#[], [], by rw [Array.append_empty]; rfl, rfl⟩
  | e :: es, h => by
    intro m
    simp only [Expr.areClosed, Bool.and_eq_true] at h
    obtain ⟨more, at_, hrun, hholds, _⟩ := expr_closed e h.1 m
    obtain ⟨rest, vs, hrun', hall⟩ := exprs_closed es h.2 { m with cells := m.cells ++ more }
    refine ⟨more ++ rest, e.closed.value at_ :: vs, ?_, ?_⟩
    · rw [exprs, Run.on_bind hrun, Run.on_bind hrun', Array.append_assoc]
      rfl
    · rw [← Array.append_assoc]
      refine ⟨_, vs, rfl, hholds.mono ?_, hall⟩
      simp only [Array.size_append]
      omega

theorem object_closed : ∀ ps : List Property, Property.areClosed ps → ∀ (fs : Fields) (m : Memory),
    ∃ (more : Array Cell) (fs' : Fields),
      (object machine env ps fs).on m = (.ok fs', { m with cells := m.cells ++ more })
  | [], _, fs, m => ⟨#[], fs, by rw [Array.append_empty]; rfl⟩
  | .mk key value :: ps, h, fs, m => by
    simp only [Property.areClosed, Bool.and_eq_true] at h
    obtain ⟨more, at_, hrun, _, _⟩ := expr_closed value h.1 m
    obtain ⟨rest, fs', hrun'⟩ := object_closed ps h.2 (Fields.insert key.name _ fs)
      { m with cells := m.cells ++ more }
    refine ⟨more ++ rest, fs', ?_⟩
    rw [object, Run.on_bind hrun, hrun', Array.append_assoc]

theorem sequence_closed : ∀ es : List Expr, Expr.areClosed es → ∀ (last : Closed) (at_ : Nat)
    {lo : Nat} {m : Memory}, lo ≤ at_ → lo ≤ m.cells.size →
      last.Holds m.cells m.cells.size (last.value at_) →
      GivesAt (sequence machine env (last.value at_) es) (Expr.lastClosed last es) lo m
  | [], _, last, at_, _, _, hat, _, hholds => givesAt_value hat hholds
  | e :: es, h, _, _, _, m, _, hlo, _ => by
    simp only [Expr.areClosed, Bool.and_eq_true] at h
    refine (expr_closed e h.1).bind fun m' at' hgrown hat' hholds' => ?_
    obtain ⟨more, hcells⟩ := hgrown
    refine sequence_closed es h.2 e.closed at' (Nat.le_trans hlo hat') ?_ hholds'
    rw [hcells, Array.size_append]
    omega
end

end Eval

/-- What a closed program evaluates to: what its last expression does. -/
def Program.closed (p : Program) : Closed := Expr.lastClosed .undefined p.exprs

namespace Eval

variable (machine : Machine) (env : Env) {p : Program}

lemma program_on {m m' : Memory} {v : Value}
    (hrun : (sequence machine env .undefined p.exprs).on m = (.ok v, m')) :
    (program machine env p).on m =
      (.ok v, if Expr.areClosed p.exprs && v.isPrimitive then { m' with cells := m.cells }
      else m') := by
  rw [program, Run.on_bind (Run.on_get m)]
  refine (Run.on_bind hrun _).trans ?_
  split <;> rfl

/-- A closed program with a primitive value does nothing else than giving it. -/
theorem program_eq_pure (h : Expr.areClosed p.exprs) (hprimitive : p.closed.isPrimitive) :
    program machine env p = pure (p.closed.value 0) := by
  refine Run.ext fun m => ?_
  obtain ⟨more, at_, hrun, _, _⟩ :=
    sequence_closed machine env p.exprs h .undefined 0 (Nat.le_refl _) (Nat.zero_le _)
      (show Closed.Holds m.cells .undefined m.cells.size .undefined from rfl)
  rw [program_on machine env hrun, h, ← Program.closed, Closed.isPrimitive_value, hprimitive,
    Closed.value_of_isPrimitive hprimitive]
  rfl

/-- A closed program evaluates to what it stands for, in every environment and memory. -/
theorem program_closed (h : Expr.areClosed p.exprs) :
    Closed.Gives (program machine env p) p.closed := by
  intro m
  by_cases hprimitive : p.closed.isPrimitive
  · rw [program_eq_pure machine env h hprimitive]
    exact Closed.givesAt_pure hprimitive
  · obtain ⟨more, at_, hrun, hholds, hat⟩ :=
      sequence_closed machine env p.exprs h .undefined m.cells.size (Nat.le_refl _) (Nat.le_refl _)
        (show Closed.Holds m.cells .undefined m.cells.size .undefined from rfl)
    refine ⟨more, at_, ?_, hholds, hat⟩
    rw [program_on machine env hrun, ← Program.closed, Closed.isPrimitive_value,
      Bool.eq_false_iff.mpr hprimitive, Bool.and_false]
    rfl

end Eval

end Trellis
