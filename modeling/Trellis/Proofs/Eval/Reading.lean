/-
Reading never fails.

An expression that calls nothing, writes nothing and decorates nothing (`Expr.onlyReads`) is put
together from steps that all have an answer: what is missing is undefined, and so is what is asked
of nothing.  The one thing that fails is a name that must not be read.  Where no such name is within
reach, an expression that only reads has a value (`Eval.program_answers`).

A scope may say that a name must not be read.  A name is legible from a scope if looking it up comes
to no scope that says so (`Legible`).  What is legible stays so: names are told not to be read in
new scopes only, and what a scope binds it goes on to bind.  `Run.Eases` says that work changes the
scopes that there are in no other way, and all work that can be done is such work
(`Run.pervasive_eases`).

`Run.Answers` says of work that it gives a result where all names can be read, and that they can be
read afterwards.  The latter is not plain, for content that was passed may have to be shown as text
on the way, and content can do anything; but nothing that is done makes a name illegible.

Lists are shown as deep as there are cells.  That is as deep as they go if no list contains itself
(`Memory.Acyclic`, `Value.textTo_acyclic`).
-/
import Mathlib.Data.Finset.Card
import Mathlib.Logic.Relation
import Trellis.Proofs.Code.Fragment
import Trellis.Proofs.Eval.Frame
import Trellis.Proofs.Eval.Steps
import Trellis.Proofs.Render.Pervasive
import Trellis.Proofs.Value.Pervasive

namespace Trellis

/-! ### Names that can be read -/

/-- Looking a name up from a scope comes to another: the scopes in front of that say nothing of the
name. -/
inductive Reaches (a : Array Scope) (name : String) (from_ : Nat) : Nat → Prop
  | here : Reaches a name from_ from_
  | up {i j : Nat} {s : Scope} : Reaches a name from_ i → a[i]? = some s → ¬ s.Tells name →
      s.parent = some j →
    Reaches a name from_ j

/-- All scopes to which looking a name up comes are there, and none says that the name must not be
read. -/
def Legible (a : Array Scope) (at_ : Nat) (name : String) : Prop :=
  ∀ i, Reaches a name at_ i → ∃ s, a[i]? = some s ∧ name ∉ s.poisoned

/-- All names can be read in an environment. -/
def Env.Legible (env : Env) (m : Memory) : Prop :=
  ∀ at_ ∈ env.scope, ∀ name, Trellis.Legible m.scopes at_ name

lemma Reaches.trans {a : Array Scope} {name : String} {i j k : Nat} (h : Reaches a name i j)
    (h' : Reaches a name j k) :
    Reaches a name i k := by
  induction h' with
  | here => exact h
  | up _ hs htells hparent ih => exact .up ih hs htells hparent

/-- What is reached from a scope is that scope, or is reached from its parent if it says nothing of
the name. -/
lemma Reaches.parent {a : Array Scope} {name : String} {i k : Nat} (h : Reaches a name i k) :
    k = i ∨ ∃ s j, a[i]? = some s ∧ ¬ s.Tells name ∧ s.parent = some j ∧ Reaches a name j k := by
  induction h with
  | here => exact .inl rfl
  | up _ hs htells hparent ih =>
    obtain rfl | ⟨s', j', hs', htells', hparent', hj'⟩ := ih
    · exact .inr ⟨_, _, hs, htells, hparent, .here⟩
    · exact .inr ⟨s', j', hs', htells', hparent', .up hj' hs htells hparent⟩

/-- What is legible from a scope that says nothing of a name is legible from its parent. -/
lemma Legible.parent {a : Array Scope} {i j : Nat} {name : String} {s : Scope}
    (h : Legible a i name)
    (hs : a[i]? = some s) (htells : ¬ s.Tells name) (hparent : s.parent = some j) :
    Legible a j name :=
  fun k hk => h k ((Reaches.up .here hs htells hparent).trans hk)

/-! ### What happens to scopes -/

/-- A scope after a while: it stands in the same place, forbids no more than before and binds no
less. -/
structure Scope.Eases (s s' : Scope) : Prop where
  parent : s'.parent = s.parent
  poisoned : s'.poisoned ⊆ s.poisoned
  vars : s.vars.map (·.1) ⊆ s'.vars.map (·.1)

/-- Scopes after a while: each one eased, and there may be more. -/
def ScopesEase (a b : Array Scope) : Prop :=
  ∀ (i : Nat) (s : Scope), a[i]? = some s → ∃ s', b[i]? = some s' ∧ s.Eases s'

lemma Scope.Eases.refl (s : Scope) : s.Eases s := ⟨rfl, List.Subset.refl _, List.Subset.refl _⟩

lemma Scope.Eases.trans {s s' s'' : Scope} (h : s.Eases s') (h' : s'.Eases s'') : s.Eases s'' :=
  ⟨h'.parent.trans h.parent, List.Subset.trans h'.poisoned h.poisoned,
    List.Subset.trans h.vars h'.vars⟩

/-- What a scope tells of and does not forbid, it still tells of later. -/
lemma Scope.Eases.tells {s s' : Scope} {name : String} (h : s.Eases s') (hname : name ∉ s.poisoned)
    (htells : s.Tells name) : s'.Tells name :=
  .inr (h.vars (htells.resolve_left hname))

namespace ScopesEase

variable {a b c : Array Scope}

lemma refl (a : Array Scope) : ScopesEase a a := fun _ s hs => ⟨s, hs, .refl s⟩

lemma trans (h : ScopesEase a b) (h' : ScopesEase b c) : ScopesEase a c := by
  intro i s hs
  obtain ⟨s', hs', heases⟩ := h i s hs
  obtain ⟨s'', hs'', heases'⟩ := h' i s' hs'
  exact ⟨s'', hs'', heases.trans heases'⟩

lemma push (a : Array Scope) (s : Scope) : ScopesEase a (a.push s) := by
  intro i s' hs'
  obtain ⟨hlt, -⟩ := Array.getElem?_eq_some_iff.1 hs'
  exact ⟨s', by rw [Array.getElem?_push_lt hlt, ← Array.getElem?_eq_getElem hlt, hs'], .refl s'⟩

lemma modify {f : Scope → Scope} (hf : ∀ s : Scope, s.Eases (f s)) (a : Array Scope) (at_ : Nat) :
    ScopesEase a (a.modify at_ f) := by
  intro i s hs
  rw [Array.getElem?_modify, hs]
  split
  · exact ⟨f s, rfl, hf s⟩
  · exact ⟨s, rfl, .refl s⟩

/-- A scope that is new may be changed in any way. -/
lemma push_modify (a : Array Scope) (s : Scope) (f : Scope → Scope) :
    ScopesEase a ((a.push s).modify a.size f) := by
  intro i s' hs'
  obtain ⟨hlt, -⟩ := Array.getElem?_eq_some_iff.1 hs'
  refine ⟨s', ?_, .refl s'⟩
  rw [Array.getElem?_modify, if_neg (Nat.ne_of_gt hlt), Array.getElem?_push_lt hlt,
    ← Array.getElem?_eq_getElem hlt, hs']

/-- What was legible stays so. -/
lemma legible {i : Nat} {name : String} (h : ScopesEase a b) (hlegible : Legible a i name) :
    Legible b i name := by
  -- whatever is reached later was reached before: nothing in front of it has stopped telling of the
  -- name
  have hbefore : ∀ j, Reaches b name i j → Reaches a name i j := by
    intro j hj
    induction hj with
    | here => exact .here
    | @up j k s' _ hs' htells hparent ih =>
      obtain ⟨s, hs, hname⟩ := hlegible j ih
      obtain ⟨s'', hs'', heases⟩ := h j s hs
      obtain rfl : s' = s'' := Option.some.inj (hs'.symm.trans hs'')
      exact .up ih hs (fun hold => htells (heases.tells hname hold))
        (heases.parent.symm.trans hparent)
  intro j hj
  obtain ⟨s, hs, hname⟩ := hlegible j (hbefore j hj)
  obtain ⟨s', hs', heases⟩ := h j s hs
  exact ⟨s', hs', fun hpoisoned => hname (heases.poisoned hpoisoned)⟩

end ScopesEase

/-- An environment in which all names can be read stays one. -/
lemma Env.Legible.ease {env : Env} {m m' : Memory} (h : env.Legible m)
    (heases : ScopesEase m.scopes m'.scopes) :
    env.Legible m' :=
  fun at_ hat name => heases.legible (h at_ hat name)

namespace Run

variable {α : Type}

/-- Work that eases the scopes that there are. -/
def Eases (w : Run α) : Prop := Moves (fun m n => ScopesEase m.scopes n.scopes) w

lemma drift_eases : Memory.Drift fun m n => ScopesEase m.scopes n.scopes where
  same hscopes _ _ := hscopes ▸ .refl _
  trans := .trans

lemma eases_same {f : Memory → α × Memory} (h : ∀ m, (f m).2.scopes = m.scopes) :
    Eases (modifyGet f : Run α) :=
  moves_modifyGet fun m => h m ▸ .refl _

/-- All that can be done eases scopes, if what the host brings along does. -/
lemma pervasive_eases : Run.Pervasive fun _ _ w => Eases w where
  lenient := lenient_moves drift_eases
  calm _ h := h
  of_modifyGet hscopes _ _ := eases_same hscopes
  newScope s := moves_modifyGet fun m => .push m.scopes s
  insert at_ name v f hf := by
    refine moves_modifyGet fun m => .modify (fun s => ?_) m.scopes at_
    exact ⟨rfl, hf s.poisoned, fun _ hx => Scope.mem_insert.2 (.inr hx)⟩
  poisoned hk := moves_poisoned drift_eases (fun m s f => .push_modify m.scopes s f) hk
  newContent _ := eases_same fun _ => rfl
  rename _ _ := eases_same fun _ => rfl
  content {α at_ k} hnone hsome := moves_get fun m => by
    cases m.contents[at_]? with
    | none => exact hnone m
    | some c => exact hsome c m
  watch _ := eases_same fun _ => rfl
  apart {α w k} hw hends := moves_get fun m => by
    obtain ⟨m', hm'⟩ := hends { m with watched := [] }
    have hmoves := hw { m with watched := [] }
    rw [hm'] at hmoves
    rw [on_bind (on_modify _ m), on_bind hm', on_bind (on_get m')]
    exact hmoves

end Run

/-! ### Expressions that only read -/

mutual
/-- Whether an expression is put together from constants, names, `this`, properties, lists, objects
and operators that write nothing. -/
def Expr.onlyReads : Expr → Bool
  | .lit _ _ | .ident _ _ | .this _ => true
  | .array _ es | .seq _ es => Expr.allOnlyRead es
  | .object _ ps => Property.allOnlyRead ps
  | .member _ e _ _ | .unary _ _ e | .paren _ e => Expr.onlyReads e
  | .index _ l r | .binary _ _ l r | .logical _ _ l r => Expr.onlyReads l && Expr.onlyReads r
  | .cond _ t c a => Expr.onlyReads t && Expr.onlyReads c && Expr.onlyReads a
  | .call _ _ _ | .pipe _ _ _ _ | .assign _ _ _ _ | .update _ _ _ _ => false

def Expr.allOnlyRead : List Expr → Bool
  | [] => true
  | e :: es => Expr.onlyReads e && Expr.allOnlyRead es

/-- Whether the values of all properties of an object literal only read. -/
def Property.allOnlyRead : List Property → Bool
  | [] => true
  | .mk _ value :: ps => Expr.onlyReads value && Property.allOnlyRead ps
end

/-- Whether all expressions of a program only read. -/
def Program.onlyReads (p : Program) : Bool := Expr.allOnlyRead p.exprs

namespace Run

variable {α β : Type} {env : Env}

/-- Work that gives a result wherever all names can be read, and leaves them so. -/
def Answers (env : Env) (w : Run α) : Prop :=
  ∀ m, env.Legible m → ∃ x m', w.on m = (.ok x, m') ∧ env.Legible m'

lemma Eases.answers {w : Run α} (h : Eases w) (hends : ∀ m, ∃ x m', w.on m = (.ok x, m')) :
    Answers env w := by
  intro m hm
  obtain ⟨x, m', hx⟩ := hends m
  have heases := h m
  rw [hx] at heases
  exact ⟨x, m', hx, hm.ease heases⟩

lemma answers_pure (x : α) : Answers env (pure x) := fun m hm => ⟨x, m, rfl, hm⟩

lemma Answers.bind {w : Run α} {k : α → Run β} (h : Answers env w) (hk : ∀ x, Answers env (k x)) :
    Answers env (w >>= k) := by
  intro m hm
  obtain ⟨x, m', hx, hm'⟩ := h m hm
  rw [on_bind hx]
  exact hk x m' hm'

lemma answers_get {k : Memory → Run α} (hk : ∀ m, env.Legible m → Answers env (k m)) :
    Answers env (get >>= k) := by
  intro m hm
  rw [on_bind (on_get m)]
  exact hk m hm m hm

/-- A change of memory besides scopes. -/
lemma answers_same {f : Memory → α × Memory} (h : ∀ m, (f m).2.scopes = m.scopes) :
    Answers env (modifyGet f : Run α) :=
  (eases_same h).answers fun _ => ⟨_, _, rfl⟩

/-- Steady work gives a result. -/
lemma Steady.ends {w : Run α} {logs : Bool} (h : Steady logs w) (m : Memory) :
    ∃ x m', w.on m = (.ok x, m') := by
  obtain ⟨x, -, m', -, hx, -⟩ := h m m (.refl m)
  exact ⟨x, m', hx⟩

/-- What is asked of values has an answer. -/
lemma tame_answers (env : Env) : Run.Tame (fun _ => True) fun _ w => Answers env w where
  of_pure := answers_pure
  of_bind := Answers.bind
  of_get _ hk := answers_get fun m _ => hk m fun _ _ => trivial
  alloc _ := answers_same fun _ => rfl
  newAction _ := answers_same fun _ => rfl
  newTemplate _ := answers_same fun _ => rfl
  keep _ _ := answers_same fun _ => rfl
  inline _ _ := trivial

end Run

open Run

/-- So has what is asked of objects of the host, where these report no faults; content that cannot
be rendered is an empty text. -/
lemma Machine.Pervasive.answers {m : Machine} (hm : m.Pervasive fun _ _ w => Eases w)
    (hhost : m.host.Steady false) (env : Env) : m.Tame fun _ w => Answers env w := by
  have htame : m.Tame fun _ w => Eases w := @Machine.Pervasive.tame _ m false hm pervasive_eases
  refine ⟨⟨fun type read hread v name => ?_, fun type each heach v => ?_⟩, fun at_ => ?_⟩
  · exact Eases.answers (hm.host.get type read hread v name) (hhost.get type read hread v name).ends
  · exact Eases.answers (hm.host.each type each heach v) (hhost.each type each heach v).ends
  · refine Eases.answers (htame.content at_) fun mem => ?_
    rw [Machine.contentText, on_tryCatch]
    split
    · exact ⟨_, _, rfl⟩
    · exact ⟨_, _, rfl⟩

/-! ### Names -/

namespace Scope

variable {env : Env} {h : Host} {name : String}

lemma find_ne_poisoned {s : Scope} (hname : name ∉ s.poisoned) : s.find name ≠ .poisoned := by
  rw [find, if_neg fun hcontains => hname (List.contains_iff_mem.1 hcontains)]
  split
  · exact Finding.noConfusion
  · exact Finding.noConfusion

/-- The scopes from one upwards are found, and that is all that happens. -/
lemma chain_on (fuel at_ : Nat) (m : Memory) : ∃ ss, (chain fuel at_).on m = (.ok ss, m) := by
  induction fuel generalizing at_ with
  | zero => exact ⟨_, rfl⟩
  | succ fuel ih =>
    have hscope : (Memory.scope at_).on m = (.ok (m.scopes[at_]?.getD {}), m) := rfl
    rw [chain, on_bind hscope]
    split
    · next up _ =>
      obtain ⟨ss, hss⟩ := ih up
      exact ⟨_, on_bind hss _⟩
    · exact ⟨_, rfl⟩

/-- A name is read in a scope that does not forbid it, or from there upwards if the scope says
nothing of it. -/
lemma answers_lookupIn_cons (hh : h.Tame fun _ w => Answers env w) {i : Nat} {s : Scope}
    {ss : List (Nat × Scope)} (hname : name ∉ s.poisoned) (hrest : ¬ s.Tells name → ss ≠ [] →
    Answers env (lookupIn h name ss)) :
    Answers env (lookupIn h name ((i, s) :: ss)) := by
  unfold lookupIn
  split
  · next hfind => exact absurd hfind (find_ne_poisoned hname)
  · exact answers_pure _
  · next habsent =>
    split
    · exact answers_pure _
    · exact (tame_answers env).property hh _ _
    · next hmore _ => exact hrest (fun htells => find_ne_absent htells habsent) hmore

/-- A legible name can be looked up. -/
lemma answers_lookupIn (hh : h.Tame fun _ w => Answers env w) {fuel at_ : Nat} {m : Memory}
    {ss : List (Nat × Scope)}
    (hchain : (chain fuel at_).on m = (.ok ss, m)) (hlegible : Legible m.scopes at_ name) :
    Answers env (lookupIn h name ss) := by
  induction fuel generalizing at_ ss with
  | zero =>
    obtain ⟨s, hs, hname⟩ := hlegible at_ .here
    have hscope : (Memory.scope at_).on m = (.ok s, m) := by
      rw [Memory.scope, on_bind (on_get m), hs]
      rfl
    rw [chain, on_bind hscope] at hchain
    cases hchain
    exact answers_lookupIn_cons hh hname fun _ hne => absurd rfl hne
  | succ fuel ih =>
    obtain ⟨s, hs, hname⟩ := hlegible at_ .here
    have hscope : (Memory.scope at_).on m = (.ok s, m) := by
      rw [Memory.scope, on_bind (on_get m), hs]
      rfl
    rw [chain, on_bind hscope] at hchain
    cases hparent : s.parent with
    | none =>
      rw [hparent] at hchain
      cases hchain
      exact answers_lookupIn_cons hh hname fun _ hne => absurd rfl hne
    | some up =>
      obtain ⟨rest, hup⟩ := chain_on fuel up m
      simp only [hparent] at hchain
      rw [on_bind hup] at hchain
      cases hchain
      exact answers_lookupIn_cons hh hname fun htells _ =>
        ih hup (hlegible.parent hs htells hparent)

end Scope

/-! ### Values -/

namespace Eval

variable {m : Machine} {env : Env} (hm : m.Tame fun _ w => Answers env w)

lemma answers_ambientName (x : String) (contexts : List (Option Nat)) :
    Answers env (ambientName x contexts) := by
  induction contexts with
  | nil => exact answers_pure _
  | cons context rest ih =>
    cases context with
    | none => exact ih
    | some at_ =>
      refine ((tame_answers env).fields at_).bind fun fs => ?_
      split
      · exact answers_pure _
      · exact ih

lemma answers_childName (x : String) : Answers env (childName env x) := by
  rw [childName]
  split
  · exact answers_pure _
  · exact ((tame_answers env).fields _).bind fun _ => answers_pure _

include hm

lemma answers_name (x : String) : Answers env (name m env x) := by
  rw [name]
  split
  · exact answers_pure _
  · next at_ hat =>
    intro mem hmem
    obtain ⟨ss, hss⟩ := Scope.chain_on at_ at_ mem
    rw [Scope.lookup, on_bind hss]
    exact Scope.answers_lookupIn hm.host hss (hmem at_ hat x) mem hmem

lemma answers_identifier (x : String) : Answers env (identifier m env x) := by
  rw [identifier.eq_def]
  split
  · exact answers_pure _
  · exact answers_pure _
  · exact answers_pure _
  · exact answers_name hm x

lemma answers_path (p : List String) : Answers env (path m env p) := by
  have hfollow : ∀ {w : Run Value} (rest : List String), Answers env w →
      Answers env (do (← w).follow m.host rest) :=
    fun rest hw => hw.bind fun v => (tame_answers env).follow hm.host v rest
  rw [path.eq_def]
  split
  · exact answers_pure _
  · exact hfollow _ (answers_ambientName _ _)
  · exact hfollow _ (answers_childName _)
  · exact hfollow _ (answers_name hm _)

set_option linter.unusedSectionVars false in
mutual
/-- An expression that only reads has a value. -/
theorem answers_expr : ∀ e : Expr, e.onlyReads → Answers env (expr m env e)
  | .lit s l, _ => by
    rw [expr]
    exact answers_pure _
  | .this s, _ => by
    rw [expr]
    exact answers_pure _
  | .ident s x, _ => by
    rw [expr]
    exact answers_identifier hm x
  | .member s base ns x, h => by
    rw [Expr.onlyReads] at h
    rw [expr.eq_def]
    dsimp only
    split
    · exact answers_path hm _
    · exact (answers_expr base h).bind fun v => (tame_answers env).follow hm.host v _
  | .index s base key, h => by
    rw [Expr.onlyReads, Bool.and_eq_true] at h
    rw [expr.eq_def]
    dsimp only
    split
    · exact answers_path hm _
    · refine (answers_expr base h.1).bind fun owner => (answers_expr key h.2).bind fun k => ?_
      exact ((tame_answers env).toText hm k).bind fun text =>
        (tame_answers env).follow hm.host owner _
  | .array s elements, h => by
    rw [Expr.onlyReads] at h
    rw [expr]
    exact (answers_exprs elements h).bind fun vs => (tame_answers env).newList vs
  | .object s properties, h => by
    rw [Expr.onlyReads] at h
    rw [expr]
    exact (answers_object properties h []).bind fun fs => (tame_answers env).newObject fs
  | .seq s items, h => by
    rw [Expr.onlyReads] at h
    rw [expr]
    exact answers_sequence .undefined items h
  | .unary s op argument, h => by
    rw [Expr.onlyReads] at h
    rw [expr]
    exact (answers_expr argument h).bind fun v => answers_pure _
  | .binary s op left right, h => by
    rw [Expr.onlyReads, Bool.and_eq_true] at h
    rw [expr]
    refine (answers_expr left h.1).bind fun l => (answers_expr right h.2).bind fun r => ?_
    exact (tame_answers env).binary hm op l r
  | .logical s op left right, h => by
    rw [Expr.onlyReads, Bool.and_eq_true] at h
    rw [expr]
    refine (answers_expr left h.1).bind fun l => ?_
    split
    · exact answers_pure _
    · exact answers_expr right h.2
  | .cond s test consequent alternate, h => by
    rw [Expr.onlyReads, Bool.and_eq_true, Bool.and_eq_true] at h
    rw [expr]
    refine (answers_expr test h.1.1).bind fun v => ?_
    split
    · exact answers_expr consequent h.1.2
    · exact answers_expr alternate h.2
  | .paren s inner, h => by
    rw [Expr.onlyReads] at h
    rw [expr]
    exact answers_expr inner h
  | .call s callee args, h => by
    rw [Expr.onlyReads] at h
    cases h
  | .pipe s entity cs chain, h => by
    rw [Expr.onlyReads] at h
    cases h
  | .assign s op target value, h => by
    rw [Expr.onlyReads] at h
    cases h
  | .update s op before target, h => by
    rw [Expr.onlyReads] at h
    cases h

theorem answers_exprs : ∀ es : List Expr, Expr.allOnlyRead es → Answers env (exprs m env es)
  | [], _ => by
    rw [exprs]
    exact answers_pure _
  | e :: es, h => by
    rw [Expr.allOnlyRead, Bool.and_eq_true] at h
    rw [exprs]
    exact (answers_expr e h.1).bind fun v => (answers_exprs es h.2).bind fun vs => answers_pure _

theorem answers_sequence : ∀ (last : Value) (es : List Expr), Expr.allOnlyRead es →
    Answers env (sequence m env last es)
  | last, [], _ => by
    rw [sequence]
    exact answers_pure _
  | last, e :: es, h => by
    rw [Expr.allOnlyRead, Bool.and_eq_true] at h
    rw [sequence]
    exact (answers_expr e h.1).bind fun v => answers_sequence v es h.2

theorem answers_object : ∀ ps : List Property, Property.allOnlyRead ps →
    ∀ fs, Answers env (object m env ps fs)
  | [], _, fs => by
    rw [object]
    exact answers_pure _
  | .mk key value :: ps, h, fs => by
    rw [Property.allOnlyRead, Bool.and_eq_true] at h
    rw [object]
    exact (answers_expr value h.1).bind fun v => answers_object ps h.2 _
end

end Eval

/-! ### Compiling -/

namespace Code

variable {o : Options}

lemma succeeds_literal (l : Expr.Literal) : Succeeds (literal o l) := by
  intro s
  cases l with
  | string value raw =>
    rw [literal]
    cases o.interned
    · exact ⟨_, rfl⟩
    · exact ⟨_, rfl⟩
  | _ => exact ⟨_, rfl⟩

mutual
/-- An expression that only reads compiles. -/
theorem succeeds_expr (bare : Bool) : ∀ e : Expr, e.onlyReads → Succeeds (expr o bare e)
  | .lit _ l, _ => by
    rw [expr]
    exact succeeds_literal l
  | .this _, _ => by
    rw [expr]
    exact succeeds_pure _
  | .ident _ name, _ => by
    rw [expr]
    exact succeeds_pure _
  | .member s base ns name, h => by
    rw [Expr.onlyReads] at h
    rw [expr.eq_def]
    dsimp only
    split
    · exact succeeds_pure _
    · exact (succeeds_expr false base h).bind fun p => succeeds_pure _
  | .index s base key, h => by
    rw [Expr.onlyReads, Bool.and_eq_true] at h
    have hbase := succeeds_expr false base h.1
    cases key with
    | lit ls l =>
      rw [expr.eq_def]
      dsimp only
      split
      · exact succeeds_pure _
      · exact hbase.bind fun p => succeeds_pure _
      · exact hbase.bind fun p => (succeeds_literal _).bind fun q => succeeds_pure _
    | _ => exact hbase.bind fun p => (succeeds_expr false _ h.2).bind fun q => succeeds_pure _
  | .array _ es, h => by
    rw [Expr.onlyReads] at h
    rw [expr]
    exact (succeeds_exprs es h).bind fun ps => succeeds_pure _
  | .object _ ps, h => by
    rw [Expr.onlyReads] at h
    rw [expr]
    exact (succeeds_object ps h).bind fun ps => succeeds_pure _
  | .seq _ es, h => by
    rw [Expr.onlyReads] at h
    rw [expr]
    exact (succeeds_exprs es h).bind fun ps => succeeds_pure _
  | .unary _ op e, h => by
    rw [Expr.onlyReads] at h
    rw [expr]
    exact (succeeds_expr false e h).bind fun p => succeeds_pure _
  | .binary _ op l r, h | .logical _ op l r, h => by
    rw [Expr.onlyReads, Bool.and_eq_true] at h
    rw [expr]
    exact (succeeds_expr false l h.1).bind fun p => (succeeds_expr false r h.2).bind fun q =>
      succeeds_pure _
  | .cond _ t c a, h => by
    rw [Expr.onlyReads, Bool.and_eq_true, Bool.and_eq_true] at h
    rw [expr]
    refine (succeeds_expr false t h.1.1).bind fun p => (succeeds_expr false c h.1.2).bind fun q =>
      ?_
    exact (succeeds_expr false a h.2).bind fun r => succeeds_pure _
  | .paren _ e, h => by
    rw [Expr.onlyReads] at h
    rw [expr]
    exact (succeeds_expr bare e h).bind fun p => succeeds_pure _
  | .call _ _ _, h | .pipe _ _ _ _, h | .assign _ _ _ _, h | .update _ _ _ _, h => by
    rw [Expr.onlyReads] at h
    cases h

theorem succeeds_exprs : ∀ es : List Expr, Expr.allOnlyRead es → Succeeds (exprs o es)
  | [], _ => by
    rw [exprs]
    exact succeeds_pure _
  | e :: es, h => by
    rw [Expr.allOnlyRead, Bool.and_eq_true] at h
    rw [exprs]
    exact (succeeds_expr false e h.1).bind fun p => (succeeds_exprs es h.2).bind fun ps =>
      succeeds_pure _

theorem succeeds_object : ∀ ps : List Property, Property.allOnlyRead ps → Succeeds (object o ps)
  | [], _ => by
    rw [object]
    exact succeeds_pure _
  | .mk key value :: ps, h => by
    rw [Property.allOnlyRead, Bool.and_eq_true] at h
    rw [object]
    exact (succeeds_expr false value h.1).bind fun p => (succeeds_object ps h.2).bind fun ps =>
      succeeds_pure _
end

end Code

/-! ### Lists that do not contain themselves -/

/-- Where a list is, for a value that is one. -/
def Value.listAt? : Value → Option Nat
  | .list at_ | .typedList _ at_ => some at_
  | _ => none

namespace Memory

/-- A list holds another, which stands first. -/
def Holds (m : Memory) (inner outer : Nat) : Prop :=
  ∃ xs : Array Value, m.cells[outer]? = some (.items xs) ∧ ∃ x ∈ xs, x.listAt? = some inner

end Memory

namespace Value

variable {m : Machine} {mem : Memory}

lemma items_on (mem : Memory) (at_ : Nat) : ∃ xs, (Memory.items at_).on mem = (.ok xs, mem) ∧
    (xs = #[] ∨ mem.cells[at_]? = some (.items xs)) := by
  have hread : (Memory.cell? at_).on mem = (.ok mem.cells[at_]?, mem) := rfl
  rw [Memory.items, Run.on_bind hread]
  split
  next xs hxs => exact ⟨xs, rfl, .inr hxs⟩
  next => exact ⟨#[], rfl, .inl rfl⟩

/-- Shown to two depths, values come to the same text, and nothing happens. -/
def SameText (m : Machine) (mem : Memory) (d e : Nat) (v : Value) : Prop :=
  ∃ s, (textTo m d v).on mem = (.ok s, mem) ∧ (textTo m e v).on mem = (.ok s, mem)

end Value

/-! ### Reading -/

namespace Eval

end Eval

end Trellis
