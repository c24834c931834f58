/-
A snapshot of a scope.

A scope and those it is below say something about a name: the nearest that binds or forbids it
decides, and if there is none, the data at the top does (`Scope.nearest`).  Looking a name up stops
there (`Scope.lookupIn_rests`).  Flattening goes the other way: it starts with the data and lays one
scope after the other over it, the nearest last (`Scope.flattened_rests`).

Scopes over null or an object grow by calls (`Scope.Call`, `Scope.after`): children, definitions,
names that are forbidden, and assignments, of which some go to the object at the top.  After any
calls each scope leads to the one at the top (`Scope.Stands`), so that the two ways meet: flattening
is a snapshot of looking up (`Scope.flatten_iff_lookup`).
-/
import Trellis.Proofs.Eval.Data

namespace Trellis

open Run Eval

namespace Fields

variable {fs gs : Fields} {name : String} {v : Value}

/-- Fields in the order of their names, of which there is each once. -/
def Ordered (fs : Fields) : Prop := fs.Pairwise fun f g => f.1 < g.1

lemma mem_insert {f : String × Value} (hf : f ∈ insert name v fs) : f = (name, v) ∨ f ∈ fs := by
  induction fs with
  | nil => exact .inl (List.mem_singleton.1 hf)
  | cons g fs ih =>
    rw [insert] at hf
    split at hf
    · obtain rfl | hf := List.mem_cons.1 hf
      · exact .inl rfl
      · exact .inr (List.mem_cons_of_mem _ hf)
    · split at hf
      · obtain rfl | hf := List.mem_cons.1 hf
        · exact .inl rfl
        · exact .inr hf
      · obtain rfl | hf := List.mem_cons.1 hf
        · exact .inr List.mem_cons_self
        · exact (ih hf).imp_right (List.mem_cons_of_mem _)

lemma Ordered.insert (h : fs.Ordered) (name : String) (v : Value) : (insert name v fs).Ordered := by
  induction fs with
  | nil => exact List.pairwise_singleton _ _
  | cons g fs ih =>
    obtain ⟨hg, hfs⟩ := List.pairwise_cons.1 h
    rw [Fields.insert]
    split
    · next heq => exact List.pairwise_cons.2 ⟨fun f hf => eq_of_beq heq ▸ hg f hf, hfs⟩
    · next hne =>
      split
      · next hlt =>
        refine List.pairwise_cons.2 ⟨fun f hf => ?_, h⟩
        obtain rfl | hf := List.mem_cons.1 hf
        · exact hlt
        · exact String.lt_trans hlt (hg f hf)
      · next hnlt =>
        have hlt : g.1 < name := Std.lt_of_le_of_ne (String.not_lt.1 hnlt) fun heq =>
          hne (beq_iff_eq.2 heq)
        refine List.pairwise_cons.2 ⟨fun f hf => ?_, ih hfs⟩
        obtain rfl | hf := mem_insert hf
        · exact hlt
        · exact hg f hf

lemma Ordered.foldl_insert (h : fs.Ordered) (gs : Fields) :
    (gs.foldl (fun acc f => Fields.insert f.1 f.2 acc) fs).Ordered := by
  induction gs generalizing fs with
  | nil => exact h
  | cons g gs ih => exact ih (h.insert g.1 g.2)

lemma mem_of_get? (h : fs.get? name = some v) : (name, v) ∈ fs := by
  obtain ⟨f, hf, rfl⟩ := Option.map_eq_some_iff.1 h
  have heq : f.1 = name := eq_of_beq (List.find?_some hf :)
  exact heq ▸ List.mem_of_find?_eq_some hf

lemma Ordered.get?_eq_some_iff (h : fs.Ordered) : fs.get? name = some v ↔ (name, v) ∈ fs := by
  refine ⟨mem_of_get?, fun hmem => ?_⟩
  induction fs with
  | nil => exact absurd hmem List.not_mem_nil
  | cons g fs ih =>
    obtain ⟨hg, hfs⟩ := List.pairwise_cons.1 h
    rw [get?_cons]
    obtain rfl | hmem := List.mem_cons.1 hmem
    · exact if_pos rfl
    · have hlt : g.1 < name := hg _ hmem
      rw [if_neg fun heq : g.1 = name => String.lt_irrefl name (heq ▸ hlt)]
      exact ih hfs hmem

/-- Of fields put over others one finds those on top first. -/
lemma Ordered.get?_foldl_insert (hgs : gs.Ordered) (fs : Fields) (x : String) :
    get? (gs.foldl (fun acc f => Fields.insert f.1 f.2 acc) fs) x = (get? gs x).or (get? fs x) := by
  induction gs generalizing fs with
  | nil => rfl
  | cons g gs ih =>
    obtain ⟨hg, hgs⟩ := List.pairwise_cons.1 hgs
    rw [List.foldl_cons, ih hgs, get?_insert, get?_cons]
    by_cases hx : g.1 = x
    · -- no later one has the name again
      have hnone : get? gs x = none := by
        refine Option.eq_none_iff_forall_not_mem.2 fun v hv => ?_
        have hlt : g.1 < x := hg _ (mem_of_get? hv)
        exact String.lt_irrefl x (hx ▸ hlt)
      rw [if_pos hx, if_pos hx, hnone]
      rfl
    · rw [if_neg hx, if_neg hx]

lemma get?_filter (p : String → Bool) (fs : Fields) (x : String) :
    get? (fs.filter fun f => p f.1) x = if p x then fs.get? x else none := by
  induction fs with
  | nil => exact (ite_self none).symm
  | cons f fs ih =>
    rw [List.filter_cons]
    by_cases hx : f.1 = x
    · subst hx
      split
      · rw [get?_cons, get?_cons, if_pos rfl, if_pos rfl]
      · next hp => rw [ih, if_neg hp]
    · rw [get?_cons, if_neg hx]
      split
      · rw [get?_cons, if_neg hx, ih]
      · exact ih

end Fields

namespace Scope

variable {m : Machine} {mem : Memory} {data : Value} {name : String} {root at_ : Nat}
  {e : Nat × Scope} {ss : List (Nat × Scope)}

/-! ### What scopes say about a name -/

/-- The fields of the data at the top: those of an object. -/
def topFields (mem : Memory) : Value → Fields
  | .object i => fieldsAt mem i
  | _ => []

/-- What scopes and the fields above them say about a name: the nearest scope that says something
does, or else the fields do. -/
def nearest (top : Fields) (name : String) : List (Nat × Scope) → Finding
  | [] => (top.get? name).elim .absent .bound
  | e :: ss =>
    match e.2.find name with
    | .absent => nearest top name ss
    | .bound v => .bound v
    | .poisoned => .poisoned

/-- What looking a name up comes to. -/
def Finding.answer (name : String) : Finding → Except Fault Value
  | .bound v => .ok v
  | .poisoned => .error (poisonedName name)
  | .absent => .ok .undefined

/-- What a snapshot has under a name. -/
def Finding.value? : Finding → Option Value
  | .bound v => some v
  | _ => none

lemma find_of_mem (h : name ∈ e.2.poisoned) : e.2.find name = .poisoned := by
  rw [find, if_pos (List.contains_iff_mem.2 h)]

lemma find_of_get? (h : e.2.vars.get? name ≠ none) : e.2.find name ≠ .absent := by
  rw [find]
  split
  · exact fun habsent => Finding.noConfusion habsent
  · split
    · exact fun habsent => Finding.noConfusion habsent
    · next hnone => exact absurd hnone h

lemma mem_poisoned_of_find (h : e.2.find name = .poisoned) : name ∈ e.2.poisoned := by
  rw [find] at h
  split at h
  · next hin => exact List.contains_iff_mem.1 hin
  · split at h <;> cases h

/-- If nothing is said about a name, no scope says anything, and there is no field of that name. -/
lemma nearest_absent {top : Fields} (h : nearest top name ss = .absent) :
    (∀ e ∈ ss, e.2.find name = .absent) ∧ top.get? name = none := by
  induction ss with
  | nil =>
    refine ⟨fun e he => absurd he List.not_mem_nil, ?_⟩
    rw [nearest] at h
    cases hget : top.get? name with
    | none => rfl
    | some v => rw [hget] at h; cases h
  | cons e ss ih =>
    rw [nearest] at h
    cases hfind : e.2.find name with
    | absent =>
      rw [hfind] at h
      exact ⟨List.forall_mem_cons.2 ⟨hfind, (ih h).1⟩, (ih h).2⟩
    | bound v => rw [hfind] at h; cases h
    | poisoned => rw [hfind] at h; cases h

/-- A name is forbidden by one of the scopes. -/
lemma nearest_poisoned {top : Fields} (h : nearest top name ss = .poisoned) :
    ∃ e ∈ ss, name ∈ e.2.poisoned := by
  induction ss with
  | nil =>
    rw [nearest] at h
    cases hget : top.get? name with
    | none => rw [hget] at h; cases h
    | some v => rw [hget] at h; cases h
  | cons e ss ih =>
    rw [nearest] at h
    cases hfind : e.2.find name with
    | absent =>
      rw [hfind] at h
      obtain ⟨e', he', hmem⟩ := ih h
      exact ⟨e', List.mem_cons_of_mem _ he', hmem⟩
    | bound v => rw [hfind] at h; cases h
    | poisoned => exact ⟨e, List.mem_cons_self, mem_poisoned_of_find hfind⟩

/-- A name that is bound is so by a scope or is that of a field. -/
lemma nearest_bound {top : Fields} {v : Value} (h : nearest top name ss = .bound v) :
    (∃ e ∈ ss, e.2.vars.get? name ≠ none) ∨ top.get? name ≠ none := by
  induction ss with
  | nil =>
    rw [nearest] at h
    cases hget : top.get? name with
    | none => rw [hget] at h; cases h
    | some u => exact .inr (Option.some_ne_none u)
  | cons e ss ih =>
    rw [nearest] at h
    cases hfind : e.2.find name with
    | absent =>
      rw [hfind] at h
      refine (ih h).imp_left ?_
      rintro ⟨e', he', hget⟩
      exact ⟨e', List.mem_cons_of_mem _ he', hget⟩
    | bound u =>
      refine .inl ⟨e, List.mem_cons_self, fun hnone => ?_⟩
      rw [find, hnone] at hfind
      split at hfind <;> cases hfind
    | poisoned => rw [hfind] at h; cases h

/-! ### Both ways along scopes -/

/-- Scopes from one up to the one at the top, over data; each keeps its names in order. -/
inductive Rests (data : Value) : List (Nat × Scope) → Prop
  | top {e : Nat × Scope} : e.2.vars.Ordered → e.2.parent = none → e.2.data = data → Rests data [e]
  | under {e e' : Nat × Scope} {ss : List (Nat × Scope)} : e.2.vars.Ordered → e.2.parent ≠ none →
    Rests data (e' :: ss) → Rests data (e :: e' :: ss)

/-- Null, or an object. -/
def IsPlain (data : Value) : Prop := data = .null ∨ ∃ i, data = .object i

lemma lookupIn_rests (hdata : IsPlain data) (h : Rests data ss) (host : Host) (name : String) :
    (lookupIn host name ss).on mem = ((nearest (topFields mem data) name ss).answer name, mem) := by
  induction h with
  | @top e _ _ htop =>
    rw [lookupIn.eq_def, nearest, nearest]
    dsimp only
    cases e.2.find name with
    | bound v | poisoned => rfl
    | absent =>
      rw [htop]
      obtain rfl | ⟨i, rfl⟩ := hdata
      · rfl
      · refine (on_bind (fields_on mem i) _).trans ?_
        change (Except.ok (((fieldsAt mem i).get? name).getD .undefined), mem) = _
        rw [topFields]
        cases (fieldsAt mem i).get? name <;> rfl
  | @under e e' ss _ _ _ ih =>
    rw [lookupIn.eq_def, nearest]
    dsimp only
    cases e.2.find name with
    | bound v | poisoned => rfl
    | absent => exact ih

/-- What a scope makes of the fields above it. -/
def laid (s : Scope) (fs : Fields) : Fields :=
  (s.vars.foldl (fun acc f => Fields.insert f.1 f.2 acc) fs).filter fun f =>
    !s.poisoned.contains f.1

lemma ordered_laid {fs : Fields} (h : fs.Ordered) (s : Scope) : (laid s fs).Ordered :=
  (h.foldl_insert s.vars).filter _

lemma get?_laid {s : Scope} (hs : s.vars.Ordered) (fs : Fields) (name : String) :
    (laid s fs).get? name = match s.find name with
      | .absent => fs.get? name
      | .bound v => some v
      | .poisoned => none := by
  rw [laid, Fields.get?_filter (fun x => !s.poisoned.contains x), hs.get?_foldl_insert, find]
  cases s.poisoned.contains name with
  | true => rfl
  | false =>
    cases s.vars.get? name with
    | none => rfl
    | some v => rfl

/-- Laying the data at the top over nothing: there is what the data has under its names. -/
lemma foldlM_keys_on (m : Machine) (mem : Memory) (i : Nat) (names : List String) {acc : Fields}
    (hacc : acc.Ordered) :
    ∃ fs : Fields, (names.foldlM
    (fun acc k => do return Fields.insert k (← (Value.object i).property m.host k) acc)
        acc : Run Fields).on mem = (.ok fs, mem) ∧ fs.Ordered ∧
      ∀ x, fs.get? x = if x ∈ names then some (Eval.child mem (.object i) x) else acc.get? x := by
  induction names generalizing acc with
  | nil => exact ⟨acc, rfl, hacc, fun x => (if_neg List.not_mem_nil).symm⟩
  | cons k names ih =>
    obtain ⟨fs, hrun, hordered, hget⟩ := ih (hacc.insert k (Eval.child mem (.object i) k))
    refine ⟨fs, ?_, hordered, fun x => ?_⟩
    · rw [List.foldlM_cons]
      exact (on_bind ((on_bind (property_on m.host rfl k) _).trans rfl) _).trans hrun
    · rw [hget, Fields.get?_insert]
      by_cases hx : x ∈ names
      · -- if the name comes again, it has the same value again
        rw [if_pos hx, if_pos (List.mem_cons_of_mem k hx)]
      · rw [if_neg hx]
        by_cases hk : k = x
        · rw [if_pos hk, if_pos (hk ▸ List.mem_cons_self), hk]
        · rw [if_neg hk, if_neg fun hmem => (List.mem_cons.1 hmem).elim (fun h => hk h.symm) hx]

lemma keys_on (i : Nat) : (Value.keys m (.object i)).on mem = (.ok ((fieldsAt mem i).map (·.1)),
    mem) :=
  on_bind (fields_on mem i) _

/-- A name is a name of fields when there is a value under it. -/
lemma child_of_get? (i : Nat) (x : String) :
    (if x ∈ (fieldsAt mem i).map (·.1) then some (Eval.child mem (.object i) x) else none) =
    (fieldsAt mem i).get? x := by
  cases hget : (fieldsAt mem i).get? x with
  | some v => rw [if_pos (List.mem_map_of_mem (Fields.mem_of_get? hget)), Eval.child, hget]; rfl
  | none =>
    refine if_neg fun hmem => ?_
    obtain ⟨f, hf, rfl⟩ := List.mem_map.1 hmem
    exact absurd (beq_self_eq_true f.1) (List.find?_eq_none.1 (Option.map_eq_none_iff.1 hget) f hf)

lemma layer_under {s : Scope} (hs : s.parent ≠ none) (acc : Fields) :
    (layer m acc s).on mem = (.ok (laid s acc), mem) := by
  rw [layer]
  cases hparent : s.parent with
  | none => exact absurd hparent hs
  | some up => rfl

/-- At the top a scope is laid over the fields of the data. -/
lemma layer_top (m : Machine) (mem : Memory) (hdata : IsPlain data) {s : Scope}
    (hparent : s.parent = none) (hs : s.data = data) :
    ∃ fs : Fields, (layer m [] s).on mem = (.ok (laid s fs), mem) ∧ fs.Ordered ∧
      ∀ name, fs.get? name = (topFields mem data).get? name := by
  rw [layer, hparent, hs]
  obtain rfl | ⟨i, rfl⟩ := hdata
  · exact ⟨[], rfl, List.Pairwise.nil, fun name => rfl⟩
  · obtain ⟨fs, hrun, hordered, hget⟩ :=
      foldlM_keys_on m mem i ((fieldsAt mem i).map (·.1)) List.Pairwise.nil
    refine ⟨fs, ?_, hordered, fun name => (hget name).trans (child_of_get? i name)⟩
    exact (on_bind (keys_on i) _).trans (on_bind hrun _)

/-- Flattening along scopes gives under each name what the nearest of them says. -/
lemma flattened_rests (m : Machine) (mem : Memory) (hdata : IsPlain data) (h : Rests data ss) :
    ∃ fs : Fields, (ss.reverse.foldlM (fun acc (e : Nat × Scope) => layer m acc e.2)
    [] : Run Fields).on mem =
        (.ok fs, mem) ∧ fs.Ordered ∧
      ∀ name, fs.get? name = (nearest (topFields mem data) name ss).value? := by
  induction h with
  | @top e hvars hparent htop =>
    obtain ⟨fs, hrun, hordered, hget⟩ := layer_top m mem hdata hparent htop
    refine ⟨laid e.2 fs, on_bind hrun _, ordered_laid hordered e.2, fun name => ?_⟩
    rw [get?_laid hvars, hget, nearest, nearest]
    cases e.2.find name with
    | bound v | poisoned => rfl
    | absent => cases (topFields mem data).get? name <;> rfl
  | @under e e' ss hvars hparent _ ih =>
    obtain ⟨fs, hrun, hordered, hget⟩ := ih
    refine ⟨laid e.2 fs, ?_, ordered_laid hordered e.2, fun name => ?_⟩
    · -- from the top on, the nearest scope comes last
      rw [List.reverse_cons, List.foldlM_append, on_bind hrun]
      exact on_bind (layer_under hparent fs) _
    · rw [get?_laid hvars, nearest, hget]
      cases e.2.find name with
      | bound v | poisoned | absent => rfl

/-! ### Calls on scopes -/

/-- A call on a scope. -/
inductive Call where
  | child (at_ : Nat)
  | define (at_ : Nat) (name : String) (v : Value)
  | poison (at_ : Nat) (names : List String)
  | assign (at_ : Nat) (name : String) (v : Value)

/-- The scope that a call is on. -/
def Call.scope : Call → Nat
  | .child at_ | .define at_ _ _ | .poison at_ _ | .assign at_ _ _ => at_

/-- What a call does. -/
def Call.work (m : Machine) : Call → Run Unit
  | .child at_ => do let _ ← Scope.child at_; return
  | .define at_ name v => Scope.define at_ name v
  | .poison at_ names => Scope.poison at_ names
  | .assign at_ name v => Scope.assign m at_ name v

/-- Memory after a call, also after one that failed.  There are no calls on scopes other than those
below the scope `root`, and on it. -/
def call (m : Machine) (root : Nat) (mem : Memory) (c : Call) : Memory :=
  if root ≤ c.scope ∧ c.scope < mem.scopes.size then ((c.work m).on mem).2 else mem

/-- Memory after a scope over data was made, and after calls on it and on scopes below it. -/
def after (m : Machine) (mem : Memory) (data : Value) (calls : List Call) : Memory :=
  calls.foldl (call m mem.scopes.size) ((Memory.newScope { data := data }).on mem).2

/-- A scope keeps its names in order.  It is the scope `root` and has the data, or its parent comes
before it, but not before the scope `root`. -/
structure Proper (root : Nat) (data : Value) (i : Nat) (s : Scope) : Prop where
  ordered : s.vars.Ordered
  linked : (i = root ∧ s.parent = none ∧ s.data = data) ∨ ∃ up, s.parent = some up ∧ root ≤ up ∧
    up < i

/-- From the scope `root` on all scopes are proper. -/
structure Stands (root : Nat) (data : Value) (mem : Memory) : Prop where
  there : root < mem.scopes.size
  proper : ∀ i, root ≤ i → i < mem.scopes.size → Proper root data i (scopeAt mem.scopes i)

namespace Stands

lemma of_scopes {mem' : Memory} (h : Stands root data mem) (hscopes : mem'.scopes = mem.scopes) :
    Stands root data mem' := by
  refine ⟨?_, ?_⟩
  · rw [hscopes]
    exact h.there
  · rw [hscopes]
    exact h.proper

/-- The scopes from one upwards rest on the data. -/
lemma rests (h : Stands root data mem) {fuel : Nat} (hroot : root ≤ at_)
    (hat : at_ < mem.scopes.size)
    (hfuel : at_ ≤ root + fuel) : Rests data (above mem.scopes fuel at_) := by
  induction fuel generalizing at_ with
  | zero =>
    obtain ⟨hordered, ⟨-, hparent, hdata⟩ | ⟨up, -, hup, hlt⟩⟩ := h.proper at_ hroot hat
    · exact .top hordered hparent hdata
    · omega
  | succ fuel ih =>
    obtain ⟨hordered, ⟨-, hparent, hdata⟩ | ⟨up, hparent, hup, hlt⟩⟩ := h.proper at_ hroot hat
    · rw [above, hparent]
      exact .top hordered hparent hdata
    · have hrests := ih hup (hlt.trans hat) (by omega)
      rw [above, hparent]
      dsimp only
      cases hss : above mem.scopes fuel up with
      | nil => rw [hss] at hrests; cases hrests
      | cons e ss => exact .under hordered (hparent ▸ Option.some_ne_none up) (hss ▸ hrests)

/-- A change of a scope that keeps its names in order, its parent and its data. -/
lemma modify (h : Stands root data mem) (i : Nat) {f : Scope → Scope}
    (hf : ∀ s : Scope, s.vars.Ordered → (f s).vars.Ordered ∧ (f s).parent = s.parent ∧
    (f s).data = s.data) :
    Stands root data { mem with scopes := mem.scopes.modify i f } := by
  refine ⟨by rw [Array.size_modify]; exact h.there, fun j hroot hj => ?_⟩
  rw [Array.size_modify] at hj
  obtain ⟨hordered, hlinked⟩ := h.proper j hroot hj
  have hview : scopeAt (mem.scopes.modify i f) j =
      if i = j then f (scopeAt mem.scopes j) else scopeAt mem.scopes j := by
    rw [scopeAt, scopeAt, Array.getElem?_modify, Array.getElem?_eq_getElem hj]
    split <;> rfl
  dsimp only
  rw [hview]
  split
  · obtain ⟨hordered', hparent, hdata⟩ := hf _ hordered
    exact ⟨hordered', by rw [hparent, hdata]; exact hlinked⟩
  · exact ⟨hordered, hlinked⟩

lemma bind (h : Stands root data mem) (i : Nat) (name : String) (v : Value) :
    Stands root data (withName mem i name v) :=
  h.modify i fun _ hs => ⟨hs.insert name v, rfl, rfl⟩

/-- A scope below one that stands. -/
lemma push (h : Stands root data mem) (hroot : root ≤ at_) (hat : at_ < mem.scopes.size) :
    Stands root data { mem with scopes := mem.scopes.push { parent := some at_ } } := by
  refine ⟨by rw [Array.size_push]; exact h.there.trans (Nat.lt_succ_self _), fun i hi hlt => ?_⟩
  rw [Array.size_push] at hlt
  dsimp only
  rw [scopeAt, Array.getElem?_push]
  split
  · next heq => exact ⟨List.Pairwise.nil, .inr ⟨at_, rfl, hroot, heq ▸ hat⟩⟩
  · next hne => exact h.proper i hi (Nat.lt_of_le_of_ne (Nat.le_of_lt_succ hlt) hne)

/-- A name is written to one of the scopes or to the data at the top. -/
lemma assignIn (h : Stands root data mem) (hdata : IsPlain data) (hss : Rests data ss)
    (name : String) (v : Value) :
    Stands root data ((Scope.assignIn m name v ss).on mem).2 := by
  induction hss with
  | @top e _ _ htop =>
    rw [Scope.assignIn.eq_def]
    dsimp only
    cases e.2.find name with
    | poisoned => exact h
    | bound _ => exact h.bind e.1 name v
    | absent =>
      rw [htop]
      obtain rfl | ⟨i, rfl⟩ := hdata
      · exact h
      · have hput : (do Value.setProperty m (.object i) name v; return true : Run Bool).on mem =
            (.ok true, withField mem i name v) := on_bind (setProperty_object m i name v) _
        rw [writeData, on_tryCatch, hput]
        · exact h.of_scopes rfl
        · exact fun hnull => Value.noConfusion hnull
  | @under e e' ss _ _ _ ih =>
    rw [Scope.assignIn.eq_def]
    dsimp only
    cases e.2.find name with
    | poisoned => exact h
    | bound _ => exact h.bind e.1 name v
    | absent => exact ih

lemma assign (h : Stands root data mem) (hdata : IsPlain data) (hroot : root ≤ at_)
    (hat : at_ < mem.scopes.size)
    (name : String) (v : Value) : Stands root data ((Scope.assign m at_ name v).on mem).2 := by
  have hput := h.assignIn (m := m) hdata (h.rests hroot hat (Nat.le_add_left at_ root)) name v
  rw [Scope.assign, on_bind (chain_above at_ at_ mem)]
  rcases hrun : (Scope.assignIn m name v (above mem.scopes at_ at_)).on mem with ⟨r, mem'⟩
  rw [hrun] at hput
  cases r with
  | error f =>
    rw [on_bind_error hrun]
    exact hput
  | ok done =>
    rw [on_bind hrun]
    cases done with
    | true => exact hput
    -- a name that is nowhere is bound where it was assigned
    | false => exact hput.bind at_ name v

/-- Every call keeps the scopes standing. -/
lemma call (h : Stands root data mem) (hdata : IsPlain data) (c : Call) :
    Stands root data (call m root mem c) := by
  rw [Scope.call]
  split
  · next hscope =>
    obtain ⟨hroot, hat⟩ := hscope
    cases c with
    | child at_ => exact h.push hroot hat
    | define at_ name v => exact h.modify at_ fun _ hs => ⟨hs.insert name v, rfl, rfl⟩
    | poison at_ names => exact h.modify at_ fun _ hs => ⟨hs.filter _, rfl, rfl⟩
    | assign at_ name v => exact h.assign hdata hroot hat name v
  · exact h

end Stands

lemma stands_new (mem : Memory) (data : Value) :
    Stands mem.scopes.size data ((Memory.newScope { data := data }).on mem).2 := by
  refine ⟨?_, fun i hi hlt => ?_⟩
  · exact Nat.lt_of_lt_of_eq (Nat.lt_succ_self _) (Array.size_push _).symm
  · have hsize : i < mem.scopes.size + 1 := Nat.lt_of_lt_of_eq hlt (Array.size_push _)
    obtain rfl : i = mem.scopes.size := by omega
    change Proper _ data _ (scopeAt (mem.scopes.push { data := data }) _)
    rw [scopeAt, Array.getElem?_push, if_pos rfl]
    exact ⟨List.Pairwise.nil, .inl ⟨rfl, rfl, rfl⟩⟩

lemma stands_after (m : Machine) (mem : Memory) (hdata : IsPlain data) (calls : List Call) :
    Stands mem.scopes.size data (after m mem data calls) :=
  List.foldlRecOn calls _ (stands_new mem data) fun _ h c _ => h.call hdata c

/-! ### The snapshot -/

/-- A name that a scope from one upwards binds, or that the data above them has. -/
def Names (mem : Memory) (data : Value) (at_ : Nat) (name : String) : Prop :=
  (∃ e ∈ above mem.scopes at_ at_, e.2.vars.get? name ≠ none) ∨
    (topFields mem data).get? name ≠ none

/-- A name that a scope from one upwards forbids. -/
def Forbids (mem : Memory) (at_ : Nat) (name : String) : Prop :=
  ∃ e ∈ above mem.scopes at_ at_, name ∈ e.2.poisoned

/-- **Flattening is a snapshot of looking up.** Take a scope over null or an object, any calls on it
and on scopes below it, and any of these scopes.  Flattening it gives fields and changes nothing.  A
name has a value there exactly if looking it up gives that value and the name is bound or is that of
a field of the data; a name that is forbidden is missing exactly if looking it up fails, and it
fails as names do that are not in scope. -/
theorem flatten_iff_lookup (m : Machine) (mem : Memory) (data : Value) (hdata : IsPlain data)
    (calls : List Call)
    (at_ : Nat) (hroot : mem.scopes.size ≤ at_) (hat : at_ < (after m mem data calls).scopes.size) :
    ∃ fs : Fields, (flatten m at_).on (after m mem data calls) = (.ok fs, after m mem data calls) ∧
    ∀ name,
      (∀ v, (name, v) ∈ fs ↔
        (lookup m.host at_ name).on (after m mem data calls) = (.ok v, after m mem data calls) ∧
          Names (after m mem data calls) data at_ name) ∧
      ((fs.get? name = none ∧ Forbids (after m mem data calls) at_ name) ↔
        ∃ f, (lookup m.host at_ name).on (after m mem data calls) =
        (.error f, after m mem data calls) ∧
          f.hasCode "RUNTIME-0003") := by
  have hstands := stands_after m mem hdata calls
  generalize after m mem data calls = mem' at hat hstands ⊢
  have hrests := hstands.rests hroot hat (Nat.le_add_left at_ _)
  obtain ⟨fs, hrun, hordered, hget⟩ := flattened_rests m mem' hdata hrests
  refine ⟨fs, ?_, fun name => ?_⟩
  · rw [flatten, on_bind (chain_above at_ at_ mem')]
    exact hrun
  · have hlookup : (lookup m.host at_ name).on mem' =
        ((nearest (topFields mem' data) name (above mem'.scopes at_ at_)).answer name, mem') := by
      rw [lookup, on_bind (chain_above at_ at_ mem'), lookupIn_rests hdata hrests]
    rw [hlookup, hget]
    simp only [← hordered.get?_eq_some_iff, hget]
    cases hfound : nearest (topFields mem' data) name (above mem'.scopes at_ at_) with
    | bound u =>
      have hnames : Names mem' data at_ name := nearest_bound hfound
      refine ⟨fun v => ?_, iff_of_false (fun hnone => Option.some_ne_none u hnone.1) ?_⟩
      · simp [Finding.value?, Finding.answer, hnames]
      · rintro ⟨f, herror, -⟩
        cases herror
    | poisoned =>
      refine ⟨fun v => iff_of_false (Option.some_ne_none v).symm ?_,
        iff_of_true ⟨rfl, nearest_poisoned hfound⟩ ⟨poisonedName name, rfl, rfl⟩⟩
      rintro ⟨hok, -⟩
      cases hok
    | absent =>
      obtain ⟨hfind, hnone⟩ := nearest_absent hfound
      refine ⟨fun v => iff_of_false (Option.some_ne_none v).symm ?_, iff_of_false ?_ ?_⟩
      · rintro ⟨-, ⟨e, he, hget⟩ | hget⟩
        · exact find_of_get? hget (hfind e he)
        · exact hget hnone
      · rintro ⟨-, e, he, hmem⟩
        have hpoisoned := find_of_mem hmem
        rw [hfind e he] at hpoisoned
        cases hpoisoned
      · rintro ⟨f, herror, -⟩
        cases herror

/-- Below a scope over an object one name is forbidden, and another one is written, which goes to
the object. -/
theorem flatten_forbidden : let mem : Memory := { cells := #[.fields [("a", .text "x")]] }
    let calls : List Call := [.child 0, .poison 1 ["b"], .assign 1 "a" (.text "z")]
    let mem' : Memory := { cells := #[.fields [("a", .text "z")]],
                           scopes := #[{ data := .object 0 },
                             { parent := some 0, poisoned := ["b"] }] }
    after bareMachine mem (.object 0) calls = mem' ∧ IsPlain (.object 0) ∧ mem.scopes.size ≤ 1 ∧
      1 < mem'.scopes.size ∧
      ∃ fs : Fields, (flatten bareMachine 1).on mem' = (.ok fs, mem') ∧ fs.get? "b" = none ∧
          ("a", .text "z") ∈ fs := by
  intro mem calls mem'
  have hafter : after bareMachine mem (.object 0) calls = mem' := rfl
  have hplain : IsPlain (.object 0) := .inr ⟨0, rfl⟩
  obtain ⟨fs, hrun, hnames⟩ :=
    flatten_iff_lookup bareMachine mem (.object 0) hplain calls 1 (by decide) (by decide)
  rw [hafter] at hrun hnames
  have ha : Names mem' (.object 0) 1 "a" := .inr (Option.ne_none_iff_exists'.2 ⟨.text "z", rfl⟩)
  exact ⟨hafter, hplain, by decide, by decide, fs, hrun,
    ((hnames "b").2.2 ⟨poisonedName "b", rfl, rfl⟩).1,
    ((hnames "a").1 (.text "z")).2 ⟨rfl, ha⟩⟩

end Scope

end Trellis
