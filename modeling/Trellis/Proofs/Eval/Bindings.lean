/-
Bindings.

A binding reads a fixed path and writes to it.  Seen from a scope on the ground a path leads to a
value (`Eval.reach`), and where all that paths lead to is data that shares nothing (`Eval.Planted`),
a write puts one value in one place: the path leads to it afterwards, and a path that does not
extend it leads where it led before (`Eval.Puts`).  So a binding reads back what it wrote, and
nothing else changes (`Eval.bind_reads_back`).
-/
import Mathlib.Data.List.Induction
import Trellis.Proofs.Code.Fragment
import Trellis.Proofs.Eval.Data
import Trellis.Render.Interact

namespace Trellis

open Run

namespace Eval

variable {mem mem' : Memory} {v : Value} {name root : String} {at_ d : Nat}
  {front p q rest : List String}

/-! ### Paths -/

/-- What a path from a scope leads to; the empty path leads to the data above it. -/
def reach (mem : Memory) (at_ d : Nat) : List String → Value
  | [] => .object d
  | root :: rest => descend mem (look mem at_ d root) rest

/-- Steps from a value as they are compared with others. -/
def spellFrom (mem : Memory) : Value → List String → List String
  | _, [] => []
  | v, name :: rest => canonical v name :: spellFrom mem (child mem v name) rest

/-- A path from a scope as it is compared with others. -/
def spelling (mem : Memory) (at_ d : Nat) : List String → List String
  | [] => []
  | root :: rest => root :: spellFrom mem (look mem at_ d root) rest

lemma spellFrom_snoc (v : Value) (names : List String) (x : String) :
    spellFrom mem v (names ++ [x]) = spellFrom mem v names ++
    [canonical (descend mem v names) x] := by
  induction names generalizing v with
  | nil => rfl
  | cons name names ih => exact congrArg (canonical v name :: ·) (ih (child mem v name))

lemma reach_snoc (hp : p ≠ []) (x : String) :
    reach mem at_ d (p ++ [x]) = child mem (reach mem at_ d p) x := by
  cases p with
  | nil => exact absurd rfl hp
  | cons root rest => exact descend_snoc _ rest x

lemma spelling_snoc (hp : p ≠ []) (x : String) :
    spelling mem at_ d (p ++ [x]) = spelling mem at_ d p ++ [canonical (reach mem at_ d p) x] := by
  cases p with
  | nil => exact absurd rfl hp
  | cons root rest => exact congrArg (root :: ·) (spellFrom_snoc _ rest x)

lemma spelling_eq_nil : spelling mem at_ d p = [] ↔ p = [] := by
  cases p <;> simp [spelling]

lemma length_spelling (p : List String) : (spelling mem at_ d p).length = p.length := by
  have hfrom : ∀ (names : List String) (v : Value), (spellFrom mem v names).length =
      names.length := by
    intro names
    induction names with
    | nil => exact fun _ => rfl
    | cons name names ih => exact fun v => congrArg (· + 1) (ih (child mem v name))
  cases p with
  | nil => rfl
  | cons root rest => exact congrArg (· + 1) (hfrom rest _)

lemma spelling_front (p q : List String) : spelling mem at_ d p <+: spelling mem at_ d
    (p ++ q) := by
  induction q using List.reverseRecOn with
  | nil => simp
  | append_singleton q x ih =>
    rw [← List.append_assoc]
    cases hpq : p ++ q with
    | nil =>
      rw [(List.append_eq_nil_iff.1 hpq).1]
      exact List.nil_prefix
    | cons root rest =>
      rw [← hpq, spelling_snoc (by rw [hpq]; exact List.cons_ne_nil root rest)]
      exact ih.trans (List.prefix_append _ _)

/-- The names of a scope lead to trees that share nothing: all that a path leads to is data, and two
paths to one list or object are one, but for how steps into lists are written.  The data above the
scope is an object that none of its names leads to. -/
structure Planted (mem : Memory) (at_ d : Nat) : Prop extends Grounded mem at_ d where
  kept : ∀ p, Kept mem (reach mem at_ d p)
  unshared : ∀ p q i, (reach mem at_ d p).cell? = some i → (reach mem at_ d q).cell? = some i →
    spelling mem at_ d p = spelling mem at_ d q

lemma Planted.fields_top (h : Planted mem at_ d) : ∃ fs, mem.cells[d]? = some (.fields fs) := by
  cases h.kept [] with
  | primitive hprimitive => cases hprimitive
  | object hfields => exact ⟨_, hfields⟩

/-- Only the empty path leads to the data above a scope. -/
lemma Planted.cell_ne_top (h : Planted mem at_ d) (hfront : front ≠ []) :
    (reach mem at_ d front).cell? ≠ some d :=
  fun hcell => hfront (spelling_eq_nil.1 (h.unshared front [] d hcell rfl))

/-- Two paths to one cell lead to the same and are one path, but for how steps into lists are
written. -/
lemma Planted.same {p q : List String} {i : Nat} (h : Planted mem at_ d)
    (hp : (reach mem at_ d p).cell? = some i) (hq : (reach mem at_ d q).cell? = some i) :
    reach mem at_ d p = reach mem at_ d q ∧ spelling mem at_ d p = spelling mem at_ d q :=
  ⟨(h.kept p).eq_of_cell (h.kept q) hp hq, h.unshared p q i hp hq⟩

lemma singleton_ne_snoc {x : String} (hfront : front ≠ []) : front ++ [x] ≠ [root] := by
  intro heq
  exact hfront (List.append_eq_singleton_iff.1 heq |>.elim (·.1) fun h =>
    absurd h.2 (List.cons_ne_nil _ _))

/-! ### Putting a value -/

/-- A memory after a value was put where a path leads to: the path leads to the value, all others
lead on as before, and cells that no path leads to are as they were. -/
structure Puts (mem : Memory) (at_ d : Nat) (p : List String) (v : Value) (mem' : Memory) :
    Prop where
  grounded : Grounded mem' at_ d
  look : ∀ x, look mem' at_ d x = if p = [x] then v else Eval.look mem at_ d x
  self : ∀ front x, front ≠ [] → p = front ++ [x] → child mem' (reach mem at_ d front) x = v
  other : ∀ q x, q ≠ [] → spelling mem at_ d (q ++ [x]) ≠ spelling mem at_ d p →
    child mem' (reach mem at_ d q) x = child mem (reach mem at_ d q) x
  cells : ∀ i, (∀ q, (reach mem at_ d q).cell? ≠ some i) → mem'.cells[i]? = mem.cells[i]?

/-- A path that does not extend the one where the value was put leads to what it led to before. -/
lemma Puts.reach_other (h : Puts mem at_ d p v mem')
    (hq : ¬ spelling mem at_ d p <+: spelling mem at_ d q) :
    reach mem' at_ d q = reach mem at_ d q := by
  induction q using List.reverseRecOn with
  | nil => rfl
  | append_singleton q x ih =>
    have hne : spelling mem at_ d (q ++ [x]) ≠ spelling mem at_ d p :=
      fun heq => hq (heq ▸ List.prefix_refl _)
    by_cases hnil : q = []
    · subst hnil
      have hp : p ≠ [x] := fun hp => hne (congrArg _ hp.symm)
      exact (h.look x).trans (if_neg hp)
    · rw [reach_snoc hnil, reach_snoc hnil, ih fun hstarts =>
        hq (hstarts.trans (spelling_front q [x]))]
      exact h.other q x hnil hne

/-- The path where the value was put leads to it. -/
lemma Puts.reach_self (h : Puts mem at_ d p v mem') (hp : p ≠ []) : reach mem' at_ d p = v := by
  obtain ⟨front, x, rfl⟩ : ∃ front x, p = front ++ [x] :=
    ⟨_, _, (List.dropLast_append_getLast hp).symm⟩
  by_cases hnil : front = []
  · subst hnil
    exact (h.look x).trans (if_pos rfl)
  · have hshorter : ¬ spelling mem at_ d (front ++ [x]) <+: spelling mem at_ d front := by
      rw [spelling_snoc hnil]
      intro hstarts
      have hle := hstarts.length_le
      rw [List.length_append, List.length_singleton] at hle
      omega
    rw [reach_snoc hnil, h.reach_other hshorter]
    exact h.self front x hnil rfl

/-! ### Writing -/

section

variable {m : Machine}

/-- Binding a name that is bound puts the value where the name leads to. -/
lemma puts_bound (h : Planted mem at_ d) {w : Value}
    (hbound : bound? root (above mem.scopes at_ at_) = some w) :
    ∃ mem', (Scope.assign m at_ root v).on mem = (.ok (), mem') ∧ Puts mem at_ d [root] v mem' := by
  obtain ⟨e, he, -, hrun, hfound⟩ :=
    assignIn_bound (m := m) v h.legible (fun e he => above_mem he) hbound
  have hi := h.present e he
  refine ⟨_, assign_on hrun, h.toGrounded.withName hi root v, fun x => ?_, fun front x hfront heq =>
    ?_,
    fun _ _ _ _ => rfl, fun _ _ => rfl⟩
  · rw [look, above_withName hi]
    by_cases hx : root = x
    · subst hx
      rw [hfound, if_pos rfl]
      rfl
    · have hother : bound? x ((above mem.scopes at_ at_).map (changedAt e.1 (bindVar root v))) =
          bound? x (above mem.scopes at_ at_) := by
        rw [bound?, List.findSome?_map]
        refine congrArg (List.findSome? · _) (funext fun e' => ?_)
        exact (changed_vars root v e.1 e' x).trans (if_neg fun hboth => hx hboth.2)
      rw [hother, if_neg fun heq => hx (List.cons.inj heq).1]
      rfl
  · exact absurd heq.symm (singleton_ne_snoc hfront)

/-- Writing a name that is not bound puts the value where the name leads to, which is into the data.
-/
lemma puts_free (h : Planted mem at_ d) (hbound : bound? root (above mem.scopes at_ at_) = none) :
    ∃ mem', (Scope.assign m at_ root v).on mem = (.ok (), mem') ∧ Puts mem at_ d [root] v mem' := by
  obtain ⟨fs, hfs⟩ := h.fields_top
  refine ⟨_, assign_on (assignIn_free v h.legible h.top hbound), ⟨h.present, h.legible, h.top⟩,
    fun x => ?_,
    fun front x hfront heq => ?_, fun q x hq _ => ?_, fun i hi => ?_⟩
  · change ((bound? x (above mem.scopes at_ at_)).or
      ((fieldsAt (withField mem d root v) d).get? x)).getD _ = _
    rw [fieldsAt_withField hfs, Fields.get?_insert]
    by_cases hx : root = x
    · subst hx
      rw [hbound, if_pos rfl, if_pos rfl]
      rfl
    · rw [if_neg hx, if_neg fun heq => hx (List.cons.inj heq).1]
      rfl
  · exact absurd heq.symm (singleton_ne_snoc hfront)
  · refine child_congr (fun i hi => cells_put_ne ?_ _) x
    rintro rfl
    exact h.cell_ne_top hq hi
  · exact cells_put_ne (fun heq => hi [] (congrArg some heq)) _

/-- Changing the cell of what a path leads to puts a value one step further, if it is found there
and everything else in the cell stays as it was. -/
lemma puts_cell (h : Planted mem at_ d) (hfront : front ≠ []) {i : Nat}
    (hcell : (reach mem at_ d front).cell? = some i)
    {c : Cell} {name : String} (hmem' : mem' = { mem with cells := mem.cells.setIfInBounds i c })
    (hself : child mem' (reach mem at_ d front) name = v)
    (hother : ∀ x, canonical (reach mem at_ d front) x ≠ canonical (reach mem at_ d front) name →
      child mem' (reach mem at_ d front) x = child mem (reach mem at_ d front) x) :
    Puts mem at_ d (front ++ [name]) v mem' := by
  have hne : ∀ j, i ≠ j → mem'.cells[j]? = mem.cells[j]? := fun j hj => by
    rw [hmem']
    exact cells_put_ne hj c
  have hscopes : mem'.scopes = mem.scopes := by rw [hmem']
  refine ⟨?_, fun x => ?_, fun front' x hfront' heq => ?_, fun q x hq hspelling => ?_, fun j hj =>
    ?_⟩
  · exact ⟨hscopes ▸ h.present, hscopes ▸ h.legible, hscopes ▸ h.top⟩
  · have htop : mem'.cells[d]? = mem.cells[d]? := hne d fun heq =>
      h.cell_ne_top hfront (heq ▸ hcell)
    rw [if_neg (singleton_ne_snoc hfront), look, look, hscopes, fieldsAt_congr htop]
  · obtain ⟨rfl, hx⟩ := List.append_inj' heq rfl
    rw [← (List.cons.inj hx).1]
    exact hself
  · by_cases hq' : (reach mem at_ d q).cell? = some i
    · obtain ⟨hreach, hsame⟩ := h.same hq' hcell
      rw [hreach]
      refine hother x fun hstep => hspelling ?_
      rw [spelling_snoc hq, spelling_snoc hfront, hsame, hreach, hstep]
    · exact child_congr (fun j hj => hne j fun heq => hq' (heq ▸ hj)) x
  · exact hne j fun heq => hj front (heq ▸ hcell)

/-- Writing a property of what a path leads to puts the value there, or fails and changes nothing.
-/
lemma puts_property (h : Planted mem at_ d) (hfront : front ≠ []) (m : Machine) (name : String)
    (v : Value) :
    (∃ f, ((reach mem at_ d front).setPath m [name] v).on mem = (.error f, mem)) ∨
      ∃ mem', ((reach mem at_ d front).setPath m [name] v).on mem = (.ok (), mem') ∧
        Puts mem at_ d (front ++ [name]) v mem' := by
  obtain ⟨u, hu⟩ : ∃ u, reach mem at_ d front = u := ⟨_, rfl⟩
  have hkept := h.kept front
  have hcell : ∀ i, u.cell? = some i → (reach mem at_ d front).cell? = some i := fun i hi => hu ▸ hi
  rw [hu] at hkept
  cases hkept with
  | primitive hprimitive => exact .inl (hu ▸ setPath_primitive m hprimitive name v)
  | @object i fs hfs =>
    obtain ⟨hself, hother⟩ := child_withField hfs name v
    have hrun : ((Value.object i).setPath m [name] v).on mem = (.ok (), withField mem i name v) :=
      setProperty_object m i name v
    refine .inr ⟨_, hu ▸ hrun, puts_cell h hfront (hcell i rfl) rfl ?_ ?_⟩
    · rw [hu]
      exact hself
    · rw [hu]
      exact fun x hx => hother x fun heq => hx (congrArg _ heq)
  | @list i xs hxs =>
    obtain ⟨-, f, hf⟩ | ⟨k, hk, hrun⟩ := setPath_list mem m i name v
    · exact .inl ⟨f, hu ▸ hf⟩
    · obtain ⟨hself, hother⟩ := child_withItem hxs hk v
      refine .inr ⟨_, hu ▸ hrun, puts_cell h hfront (hcell i rfl) rfl ?_ ?_⟩
      · rw [hu]
        exact hself
      · rw [hu]
        exact hother

end

/-! ### Fixed paths -/

section

variable {m : Machine} {env : Env} {mem' : Memory} {at_ d : Nat} {e t : Expr} {root : String}
  {rest p : List String}

lemma path?_ne_nil (hpath : e.path? = some p) : p ≠ [] :=
  (Steps.of_path hpath : Steps bareMachine {} {} e p).ne_nil

/-- A fixed path is a name, or a step further on a fixed path. -/
lemma path?_cases (hpath : e.path? = some p) :
    (∃ s x, e = .ident s x ∧ p = [x]) ∨ ∃ base front x, base.path? = some front ∧ p = front ++ [x] ∧
      ((∃ s ns, e = .member s base ns x) ∨
      ∃ s ls raw, e = .index s base (.lit ls (.string x raw))) := by
  fun_induction Expr.path? e generalizing p with
  | case1 s x => exact .inl ⟨s, x, rfl, (Option.some.inj hpath).symm⟩
  | case2 s base ns x =>
    obtain ⟨front, hfront, hp⟩ := Option.map_eq_some_iff.1 hpath
    exact .inr ⟨base, front, x, hfront, hp.symm, .inl ⟨s, ns, rfl⟩⟩
  | case3 s base ls x raw =>
    obtain ⟨front, hfront, hp⟩ := Option.map_eq_some_iff.1 hpath
    exact .inr ⟨base, front, x, hfront, hp.symm, .inr ⟨s, ls, raw, rfl⟩⟩
  | case4 => cases hpath

/-- A fixed path of several steps is read as a path. -/
lemma expr_path {first : String} (hpath : e.path? = some (root :: first :: rest)) :
    expr m env e = path m env (root :: first :: rest) := by
  obtain ⟨s, x, -, hp⟩ | ⟨base, front, x, -, -, ⟨s, ns, rfl⟩ | ⟨s, ls, raw, rfl⟩⟩ :=
    path?_cases hpath
  · cases hp
  · rw [expr, hpath]
  · rw [expr, hpath]

lemma ident_of_path (hpath : e.path? = some [root]) : ∃ s, e = .ident s root := by
  obtain ⟨s, x, rfl, hp⟩ | ⟨base, front, x, hfront, hp, -⟩ := path?_cases hpath
  · cases hp
    exact ⟨s, rfl⟩
  · exact absurd hp.symm (singleton_ne_snoc (path?_ne_nil hfront))

/-- A name that stands for what it is bound to is looked up, and what follows it is followed. -/
lemma expr_static (hpath : e.path? = some (root :: rest)) (hcontext : root ≠ "context")
    (hchildren : root ≠ "_children") (hundefined : root = "undefined" → rest ≠ []) :
    expr m env e = Eval.name m env root >>= fun v => v.follow m.host rest := by
  cases rest with
  | nil =>
    obtain ⟨s, rfl⟩ := ident_of_path hpath
    have hfollow : (Eval.name m env root >>= fun v => v.follow m.host []) = Eval.name m env root :=
      bind_pure _
    rw [expr, hfollow, identifier.eq_def]
    split
    · exact absurd rfl (hundefined rfl)
    · exact absurd rfl hcontext
    · exact absurd rfl hchildren
    · rfl
  | cons first rest => rw [expr_path hpath, path_name hcontext hchildren]

/-- In a scope on the ground a fixed path leads to what its steps lead to, if it is data on the way.
-/
lemma Grounded.static_on (h : Grounded mem at_ d) (henv : env.scope = some at_)
    (hpath : e.path? = some (root :: rest))
    (hcontext : root ≠ "context") (hchildren : root ≠ "_children")
    (hundefined : root = "undefined" → rest ≠ [])
    (hdata : ∀ front x back, rest = front ++ x :: back → (reach mem at_ d (root :: front)).isData) :
    (expr m env e).on mem = (.ok (reach mem at_ d (root :: rest)), mem) := by
  rw [expr_static hpath hcontext hchildren hundefined, on_bind (h.name_on m henv root)]
  exact follow_on m.host hdata

/-- A property at the end of a fixed path is written to what the rest of the path leads to. -/
lemma write_property {base : Expr} {x : String} (ht : (∃ s ns, t = .member s base ns x) ∨
      ∃ s ls raw, t = .index s base (.lit ls (.string x raw))) (v : Value) :
    write m env t v = expr m env base >>= fun owner => owner.setPath m [x] v := by
  obtain ⟨s, ns, rfl⟩ | ⟨s, ls, raw, rfl⟩ := ht
  · rw [write]
  · rw [write]
    refine bind_congr fun owner => ?_
    rw [expr, pure_bind]
    rfl

/-- Writing to a fixed path puts the value there, or fails and changes nothing. -/
lemma puts_static (h : Planted mem at_ d) (henv : env.scope = some at_)
    (hpath : t.path? = some (root :: rest))
    (hcontext : root ≠ "context") (hchildren : root ≠ "_children") (hundefined : root ≠ "undefined")
    (v : Value) :
    (∃ f, (write m env t v).on mem = (.error f, mem)) ∨
      ∃ mem', (write m env t v).on mem = (.ok (), mem') ∧ Puts mem at_ d (root :: rest) v mem' := by
  obtain ⟨s, x, rfl, hp⟩ | ⟨base, front, x, hfront, hp, hstep⟩ := path?_cases hpath
  · cases hp
    rw [write, assignName, henv]
    cases hbound : bound? root (above mem.scopes at_ at_) with
    | some w => exact .inr (puts_bound h hbound)
    | none => exact .inr (puts_free h hbound)
  · have hne := path?_ne_nil hfront
    obtain ⟨rest', rfl⟩ : ∃ rest', front = root :: rest' := by
      cases front with
      | nil => exact absurd rfl hne
      | cons root' rest' => exact ⟨rest', by rw [(List.cons.inj hp).1]⟩
    have howner : (expr m env base).on mem = (.ok (reach mem at_ d (root :: rest')), mem) :=
      h.static_on henv hfront hcontext hchildren (fun heq => absurd heq hundefined)
          fun front _ _ _ =>
        (h.kept (root :: front)).isData
    rw [write_property hstep, on_bind howner, hp]
    exact puts_property h hne m x v

/-! ### Other roots -/

/-- The objects from which a path is read that does not start with a name. -/
def otherRoots (env : Env) : List String → List Nat
  | "context" :: _ => env.ambient.filterMap id
  | "_children" :: _ => env.children.toList
  | _ => []

/-- An object that leads to data only, and to nothing that a scope leads to. -/
structure Beside (mem : Memory) (at_ d i : Nat) : Prop where
  data : ∀ names, (descend mem (.object i) names).isData
  apart : ∀ names j, (descend mem (.object i) names).cell? = some j →
    ∀ q, (reach mem at_ d q).cell? ≠ some j

/-- What stands beside a scope leads on as before. -/
lemma Puts.descend_beside (h : Puts mem at_ d p v mem') {i : Nat} (hi : Beside mem at_ d i)
    (names : List String) :
    descend mem' (.object i) names = descend mem (.object i) names := by
  induction names using List.reverseRecOn with
  | nil => rfl
  | append_singleton names x ih =>
    rw [descend_snoc, descend_snoc, ih]
    exact child_congr (fun j hj => h.cells j (hi.apart names j hj)) x

/-- What an object beside a scope has under a name is followed to the same before and after. -/
lemma Puts.follow_beside (h : Puts mem at_ d p v mem') {i : Nat} (hi : Beside mem at_ d i)
    (host : Host) (first : String) (rest : List String) :
    ((child mem (.object i) first).follow host rest).on mem =
    (.ok (descend mem (.object i) (first :: rest)), mem) ∧
      ((child mem (.object i) first).follow host rest).on mem' =
        (.ok (descend mem (.object i) (first :: rest)), mem') := by
  have hself : ∀ names, descend mem (child mem (.object i) first) names =
      descend mem (.object i) (first :: names) := fun _ => rfl
  have hafter : ∀ names, descend mem' (child mem (.object i) first) names =
      descend mem (.object i) (first :: names) := by
    intro names
    have hchild : child mem' (.object i) first = child mem (.object i) first :=
      h.descend_beside hi [first]
    rw [← hchild]
    exact h.descend_beside hi (first :: names)
  rw [← hself]
  refine ⟨follow_on host fun front _ _ _ => ?_, ?_⟩
  · rw [hself]
    exact hi.data _
  · rw [hself, ← hafter]
    refine follow_on host fun front _ _ _ => ?_
    rw [hafter]
    exact hi.data _

lemma Beside.fieldsAt_eq {i : Nat} (hi : Beside mem at_ d i) (h : Puts mem at_ d p v mem') :
    fieldsAt mem' i = fieldsAt mem i :=
  fieldsAt_congr (h.cells i (hi.apart [] i rfl))

/-- A path from the ambient contexts leads on as before. -/
lemma Puts.context_on (h : Puts mem at_ d p v mem') (m : Machine) (first : String)
    (rest : List String)
    (hbeside : ∀ i ∈ otherRoots env ("context" :: first :: rest), Beside mem at_ d i) :
    ∃ u, (path m env ("context" :: first :: rest)).on mem = (.ok u, mem) ∧
      (path m env ("context" :: first :: rest)).on mem' = (.ok u, mem') := by
  have hheld : env.ambient.findSome? (held? mem' first) = env.ambient.findSome?
      (held? mem first) := by
    have hsame : ∀ context ∈ env.ambient, held? mem' first context = held? mem first context := by
      intro context hcontext
      cases context with
      | none => rfl
      | some i =>
        have hi : Beside mem at_ d i := hbeside i (List.mem_filterMap.2 ⟨some i, hcontext, rfl⟩)
        exact congrArg (Fields.get? · first) (hi.fieldsAt_eq h)
    rw [← List.head?_filterMap, ← List.head?_filterMap, List.filterMap_congr hsame]
  have hbefore := ambientName_on first env.ambient mem
  have hafter := ambientName_on first env.ambient mem'
  rw [hheld] at hafter
  rw [path, on_bind hbefore, on_bind hafter]
  cases hfound : env.ambient.findSome? (held? mem first) with
  | none =>
    rw [Option.getD_none, Value.follow_undefined]
    exact ⟨_, rfl, rfl⟩
  | some w =>
    obtain ⟨context, hcontext, hw⟩ := List.exists_of_findSome?_eq_some hfound
    obtain ⟨i, rfl, hget⟩ := Option.bind_eq_some_iff.1 hw
    have hchild : w = child mem (.object i) first := by
      rw [child, hget]
      rfl
    rw [Option.getD_some, hchild]
    exact ⟨_, h.follow_beside (hbeside i (List.mem_filterMap.2 ⟨_, hcontext, rfl⟩)) m.host
      first rest⟩

/-- So does a path from the named children. -/
lemma Puts.children_on (h : Puts mem at_ d p v mem') (m : Machine) (first : String)
    (rest : List String)
    (hbeside : ∀ i ∈ otherRoots env ("_children" :: first :: rest), Beside mem at_ d i) :
    ∃ u, (path m env ("_children" :: first :: rest)).on mem = (.ok u, mem) ∧
      (path m env ("_children" :: first :: rest)).on mem' = (.ok u, mem') := by
  rw [path, childName]
  cases hchildren : env.children with
  | none =>
    dsimp only
    rw [pure_bind, Value.follow_undefined]
    exact ⟨_, rfl, rfl⟩
  | some i =>
    have hi : Beside mem at_ d i :=
      hbeside i (by rw [otherRoots, hchildren]; exact List.mem_singleton_self i)
    dsimp only
    rw [bind_assoc, on_bind (fields_on mem i), on_bind (fields_on mem' i), hi.fieldsAt_eq h,
      pure_bind]
    exact ⟨_, h.follow_beside hi m.host first rest⟩

/-- A fixed path that does not extend the one where a value was put is read as before. -/
lemma Puts.static_on (h : Puts mem at_ d p v mem') (hplanted : Planted mem at_ d) (m : Machine)
    (henv : env.scope = some at_) {q : List String} (hq : e.path? = some q)
    (hapart : ¬ spelling mem at_ d p <+: spelling mem at_ d q)
    (hbeside : ∀ i ∈ otherRoots env q, Beside mem at_ d i) :
    ∃ u, (expr m env e).on mem = (.ok u, mem) ∧ (expr m env e).on mem' = (.ok u, mem') := by
  obtain ⟨root, rest, rfl⟩ := List.exists_cons_of_ne_nil (path?_ne_nil hq)
  by_cases halone : rest = [] ∧ root ∈ ["context", "_children", "undefined"]
  · -- a root with a meaning of its own does not look at memory
    obtain ⟨rfl, hroot⟩ := halone
    obtain ⟨s, rfl⟩ := ident_of_path hq
    simp only [List.mem_cons, List.not_mem_nil, or_false] at hroot
    obtain rfl | rfl | rfl := hroot <;> exact ⟨_, rfl, rfl⟩
  · by_cases hcontext : root = "context"
    · subst hcontext
      cases rest with
      | nil => exact absurd ⟨rfl, List.mem_cons_self⟩ halone
      | cons first rest =>
        rw [expr_path hq]
        exact h.context_on m first rest hbeside
    · by_cases hchildren : root = "_children"
      · subst hchildren
        cases rest with
        | nil => exact absurd ⟨rfl, List.mem_cons_of_mem _ List.mem_cons_self⟩ halone
        | cons first rest =>
          rw [expr_path hq]
          exact h.children_on m first rest hbeside
      · have hundefined : root = "undefined" → rest ≠ [] := by
          rintro rfl rfl
          exact halone ⟨rfl, by decide⟩
        refine ⟨reach mem at_ d (root :: rest), ?_, ?_⟩
        · exact hplanted.static_on henv hq hcontext hchildren hundefined fun front _ _ _ =>
            (hplanted.kept (root :: front)).isData
        · rw [← h.reach_other hapart]
          refine h.grounded.static_on henv hq hcontext hchildren hundefined
            fun front x back hrest => ?_
          have hfront : ¬ spelling mem at_ d p <+: spelling mem at_ d (root :: front) :=
              fun hstarts =>
            hapart (hstarts.trans (hrest ▸ spelling_front (root :: front) (x :: back)))
          rw [h.reach_other hfront]
          exact (hplanted.kept (root :: front)).isData

/-- A fixed path where a value was put is read as that value. -/
lemma Puts.static_self (h : Puts mem at_ d (root :: rest) v mem') (hplanted : Planted mem at_ d)
    (m : Machine) (henv : env.scope = some at_) (hpath : t.path? = some (root :: rest))
    (hcontext : root ≠ "context")
    (hchildren : root ≠ "_children") (hundefined : root ≠ "undefined") :
    (expr m env t).on mem' = (.ok v, mem') := by
  rw [h.grounded.static_on henv hpath hcontext hchildren (fun heq => absurd heq hundefined) ?_,
    h.reach_self (List.cons_ne_nil _ _)]
  intro front x back hrest
  have hfront : ¬ spelling mem at_ d (root :: rest) <+: spelling mem at_ d (root :: front) := by
    intro hstarts
    have hle := hstarts.length_le
    rw [length_spelling, length_spelling, hrest, List.length_cons, List.length_cons,
      List.length_append,
      List.length_cons] at hle
    omega
  rw [h.reach_other hfront]
  exact (hplanted.kept (root :: front)).isData

end

/-! ### Bindings -/

section

variable {m : Machine} {env : Env} {p : Program} {e : Expr} {root : String} {rest : List String}

/-- A program of one expression that is not closed does what that does. -/
lemma program_single (hexprs : p.exprs = [e]) (hclosed : e.isClosed = false) :
    program m env p = expr m env e := by
  have hareClosed : Expr.areClosed [e] = false := by rw [Expr.areClosed, hclosed, Bool.false_and]
  refine Run.ext fun mem => ?_
  rw [program, on_bind (on_get mem), hexprs, hareClosed]
  simp only [sequence, Bool.false_and, Bool.false_eq_true, if_false, bind_pure]

lemma exprs_of_single (h : p.single? = some e) : p.exprs = [e] := by
  rw [Program.single?] at h
  split at h
  · next hexprs => rw [hexprs, Option.some.inj h]
  · cases h

lemma isClosed_unwrap (e : Expr) : e.unwrap.isClosed = e.isClosed := by
  fun_induction Expr.unwrap e with
  | case1 s inner ih => rw [ih, Expr.isClosed]
  | case2 => rfl

lemma isClosed_static (hpath : e.path? = some (root :: rest)) (hundefined : root ≠ "undefined") :
    e.isClosed = false := by
  obtain ⟨s, x, rfl, hp⟩ | ⟨base, front, x, -, -, ⟨s, ns, rfl⟩ | ⟨s, ls, raw, rfl⟩⟩ :=
    path?_cases hpath
  · cases hp
    exact beq_eq_false_iff_ne.2 hundefined
  · rfl
  · rfl

/-- **Bindings.** What a binding with a fixed path wrote it reads back, and every other fixed path
that does not extend it is read as before; if it failed to write, nothing has changed.  Steps into
lists are compared as canonical decimals.  The scope must lead to data that shares nothing and must
not forbid a name; for a path from `context` or `_children` that holds of what these lead to, too.
-/
theorem bind_reads_back {o : Code.Options} {field : String} {symbols : Symbols} {f : Code.Fragment}
    (hbind : ((Code.bind o field p).run.run symbols).1 = .ok f) {b : RenderedBinding}
    (htarget : b.target = f.target) (hpath : f.target.bind Expr.path? = some (root :: rest))
    (hroot : root ∉ ["context", "_children", "undefined"])
    {mem : Memory} {at_ d : Nat} (hscope : b.env.scope = some at_) (hplanted : Planted mem at_ d)
    (m : Machine) (v : Value) :
    (∀ mem', (b.update m v).on mem = (.ok (), mem') →
      (program m b.env p).on mem' = (.ok v, mem') ∧
      ∀ e q, e.path? = some q → ¬ spelling mem at_ d (root :: rest) <+: spelling mem at_ d q →
        (∀ i ∈ otherRoots b.env q, Beside mem at_ d i) →
        ∃ u, (expr m b.env e).on mem = (.ok u, mem) ∧ (expr m b.env e).on mem' = (.ok u, mem')) ∧
    ∀ fault mem', (b.update m v).on mem = (.error fault, mem') → mem' = mem := by
  simp only [List.mem_cons, List.not_mem_nil, or_false, not_or] at hroot
  obtain ⟨hcontext, hchildren, hundefined⟩ := hroot
  obtain ⟨t, ht, hpath⟩ := Option.bind_eq_some_iff.1 hpath
  have hfragment : f.target = p.single?.map Expr.unwrap :=
    (Code.yields_bindTarget o p field symbols f hbind).target
  obtain ⟨e, he, rfl⟩ := Option.map_eq_some_iff.1 (hfragment.symm.trans ht)
  have hprogram : program m b.env p = expr m b.env e.unwrap := by
    have hclosed : e.isClosed = false := isClosed_unwrap e ▸ isClosed_static hpath hundefined
    rw [program_single (exprs_of_single he) hclosed, expr_unwrap]
  have hupdate : b.update m v = write m b.env e.unwrap v := by
    rw [RenderedBinding.update, htarget, ht]
  rw [hupdate]
  obtain ⟨fault, hfault⟩ | ⟨mem₁, hwrite, hputs⟩ :=
    puts_static (m := m) hplanted hscope hpath hcontext hchildren hundefined v
  · rw [hfault]
    refine ⟨fun _ hok => ?_, fun _ _ herror => (Prod.mk.inj herror).2.symm⟩
    cases (Prod.mk.inj hok).1
  · rw [hwrite]
    constructor
    · intro mem' hok
      obtain rfl : mem₁ = mem' := (Prod.mk.inj hok).2
      rw [hprogram]
      exact ⟨hputs.static_self hplanted m hscope hpath hcontext hchildren hundefined,
          fun _ _ hq hapart hbeside =>
        hputs.static_on hplanted m hscope hq hapart hbeside⟩
    · intro _ _ herror
      cases (Prod.mk.inj herror).1

end

/-- Data with an object and a text, and below it a scope with a name of its own. -/
def plantedMemory : Memory where
  cells := #[.fields [("a", .object 1), ("c", .text "y")], .fields [("b", .text "x")]]
  scopes := #[{ data := .object 0 }, { parent := some 0, vars := [("row", .text "r")] }]

lemma descend_primitive {mem : Memory} {v : Value} (hv : v.isPrimitive) (names : List String) :
    (descend mem v names).isPrimitive := by
  have hchild : ∀ {u : Value} (x : String), u.isPrimitive → (child mem u x).isPrimitive := by
    intro u x hu
    cases u with
    | list _ | object _ => cases hu
    | text s =>
      rw [child, Value.textProperty]
      split
      · rfl
      · split <;> rfl
    | _ => rfl
  induction names generalizing v with
  | nil => exact hv
  | cons x names ih => exact ih (hchild x hv)

lemma look_plantedMemory (x : String) : look plantedMemory 1 0 x = if "row" = x then .text "r" else
    if "a" = x then .object 1 else if "c" = x then .text "y" else .undefined := by
  have hbound : bound? x (above plantedMemory.scopes 1 1) = if "row" = x then some (.text "r")
      else none := by
    rw [show above plantedMemory.scopes 1 1 =
      [(1, { parent := some 0, vars := [("row", .text "r")] }),
        (0, { data := .object 0 })] from rfl,
      bound?, List.findSome?_cons, List.findSome?_cons, Fields.get?_cons]
    by_cases hx : "row" = x
    · rw [if_pos hx, if_pos hx]
    · rw [if_neg hx, if_neg hx]
      rfl
  have hfields : fieldsAt plantedMemory 0 = [("a", .object 1), ("c", .text "y")] := rfl
  rw [look, hbound, hfields, Fields.get?_cons, Fields.get?_cons]
  split
  · rfl
  · split
    · rfl
    · split <;> rfl

/-- Two paths lead to objects, the empty one and `a`. -/
lemma reach_plantedMemory (p : List String) : p = [] ∨ p = ["a"] ∨
    (reach plantedMemory 1 0 p).isPrimitive := by
  cases p with
  | nil => exact .inl rfl
  | cons root rest =>
    rw [reach, look_plantedMemory]
    split
    · exact .inr (.inr (descend_primitive rfl rest))
    · split
      · next ha =>
        subst ha
        cases rest with
        | nil => exact .inr (.inl rfl)
        | cons x rest =>
          have hfields : fieldsAt plantedMemory 1 = [("b", .text "x")] := rfl
          have hchild : (child plantedMemory (.object 1) x).isPrimitive := by
            rw [child, hfields, Fields.get?_cons]
            split <;> rfl
          exact .inr (.inr (descend_primitive hchild rest))
      · split <;> exact .inr (.inr (descend_primitive rfl rest))

/-- What the names of the scope lead to shares nothing. -/
lemma planted_plantedMemory : Planted plantedMemory 1 0 where
  present := by decide
  legible := by decide
  top := rfl
  kept p := by
    obtain rfl | rfl | hprimitive := reach_plantedMemory p
    · exact .object rfl
    · exact .object rfl
    · exact .primitive hprimitive
  unshared p q i hp hq := by
    have hcells : ∀ r, (reach plantedMemory 1 0 r).cell? = some i → r = if i = 0 then []
        else ["a"] := by
      intro r hr
      obtain rfl | rfl | hprimitive := reach_plantedMemory r
      · cases hr
        rfl
      · cases hr
        rfl
      · rw [cell?_of_isPrimitive hprimitive] at hr
        cases hr
    rw [hcells p hp, hcells q hq]

/-- A binding of `a.b` writes a field of an object; the field is read back, and `c` and `row` are as
before. -/
theorem bind_reads_back_field : let p : Program := ⟨[.expr here (atOnce "a")], here, ""⟩
    let b : RenderedBinding :=
      { binding := {}, name := "value", target := some (atOnce "a"), env := { scope := some 1 } }
    let after := withField plantedMemory 1 "b" (.text "z")
    (b.update bareMachine (.text "z")).on plantedMemory = (.ok (), after) ∧
      (program bareMachine b.env p).on after = (.ok (.text "z"), after) ∧
      ∀ x ∈ ["c", "row"], ∃ u, (expr bareMachine b.env (.ident here x)).on plantedMemory =
        (.ok u, plantedMemory) ∧
        (expr bareMachine b.env (.ident here x)).on after = (.ok u, after) := by
  intro p b after
  have hbind : ∃ f, ((Code.bind {} "value" p).run.run {}).1 = .ok f ∧
    f.target = some (atOnce "a") := ⟨_, rfl, rfl⟩
  obtain ⟨f, hf, htarget⟩ := hbind
  have hpath : f.target.bind Expr.path? = some ["a", "b"] := by rw [htarget]; rfl
  have hreads := (bind_reads_back hf (b :=
    b) htarget.symm hpath (by decide) rfl planted_plantedMemory bareMachine
    (.text "z")).1 after rfl
  refine ⟨rfl, hreads.1, fun x hx => hreads.2 _ [x] rfl ?_ fun i hi => ?_⟩
  · simp only [List.mem_cons, List.not_mem_nil, or_false] at hx
    obtain rfl | rfl := hx <;> decide
  · simp only [List.mem_cons, List.not_mem_nil, or_false] at hx
    obtain rfl | rfl := hx <;> exact absurd hi List.not_mem_nil

end Eval

end Trellis
