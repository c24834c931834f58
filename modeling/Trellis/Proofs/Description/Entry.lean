/-
The entry of a program when constants are folded, and when they are not.

Folding leaves constants out of the table.  What the slot of a program is filled with is the same in
both tables otherwise, whichever uses the program was compiled for before (`EntryTwin`): compiling
it for another use ends alike (`entryFor_alike`), since a constant is never bound or called.
-/
import Trellis.Proofs.Description.Table

namespace Trellis

/-! ### Constants -/

/-- The constant that a closed value is kept as. -/
def Closed.datum? : Closed → Option Datum
  | .null => some .null
  | .text s => some (.text s)
  | .number x => some (.number x)
  | .bool b => some (.bool b)
  | _ => none

lemma Closed.isPrimitive_of_datum? {c : Closed} {d : Datum} (h : c.datum? = some d) :
    c.isPrimitive := by
  cases c <;> first | rfl | cases h

/-- What an entry of the table says besides its compiled text. -/
def Expression.core (e : Expression) : Expression := { e with body := "", flags := {} }

namespace Description

variable {c : Code.Options} {p : Program} {d : Datum} {old old' : Option Expression}

/-- A closed program is folded to what it evaluates to. -/
lemma folded?_eq (h : Expr.areClosed p.exprs) : Build.folded? p = p.closed.datum? := by
  let m : Machine := { content := fun _ _ => return [], decorator? := fun _ _ => none }
  obtain ⟨more, at_, hrun, -⟩ := Eval.program_closed m {} h {}
  have hrun' : (Eval.program m {} p).run.run {} = (.ok (p.closed.value at_), _) := hrun
  rw [Build.folded?]
  simp only [m] at hrun'
  rw [hrun']
  cases p.closed <;> rfl

/-- The program is a constant that folding leaves out of the table. -/
structure Foldable (c : Code.Options) (p : Program) (d : Datum) : Prop where
  closed : Expr.areClosed p.exprs
  unmarked : Code.markedPipe? p = none
  datum : p.closed.datum? = some d
  compiles : ∀ field forced s, ∃ f, ((Code.value c field forced p).run.run s).1 = .ok f

/-- What compiling the value of a program says of constants. -/
lemma foldable_of_value {field : String} {f : Code.Fragment} (hf : f.OfValue p false) {s : Symbols}
    (hrun : ((Code.value c field false p).run.run s).1 = .ok f) (hconstant : f.constant)
    (hd : Build.folded? p = some d) : Foldable c p d := by
  rw [hf.constant, Bool.and_eq_true, Bool.and_eq_true] at hconstant
  obtain ⟨⟨hunmarked, hclosed⟩, -⟩ := hconstant
  have hmark : Code.markedPipe? p = none := Option.isNone_iff_eq_none.1 hunmarked
  refine ⟨hclosed, hmark, (folded?_eq hclosed).symm.trans hd, fun field' forced' t => ?_⟩
  have halike := Code.value_alike_unmarked (o := c) rfl p hmark field field' false forced' s t
  rw [hrun] at halike
  obtain ⟨g, hg, -⟩ := halike.ok
  exact ⟨g, hg⟩

lemma Foldable.closed_ne (h : Foldable c p d) : p.closed ≠ .undefined := by
  intro hundefined
  have hdatum := h.datum
  rw [hundefined] at hdatum
  cases hdatum

/-! ### Entries -/

/-- The entries of a program in the two tables: none, the same but for the text, or only one, of a
constant. -/
inductive EntryTwin (c : Code.Options) (p : Program) : Option Expression → Option Expression → Prop
  | none : EntryTwin c p none none
  | both {e e' : Expression} (h : e.core = e'.core) : EntryTwin c p (some e) (some e')
  | folded {e' : Expression} {d : Datum} (h : Foldable c p d)
    (hcore : e'.core = Expression.core { source := p.text, program := p }) : EntryTwin c p none
      (some e')

/-- The entry belongs to a program. -/
def Owned (p : Program) (e : Option Expression) : Prop := ∀ e' ∈ e, e'.program = p ∧
    e'.source = p.text

lemma core_eq_iff {e e' : Expression} : e.core = e'.core ↔
    e.source = e'.source ∧ e.bind = e'.bind ∧ e.event = e'.event ∧ e.program = e'.program ∧
      e.target = e'.target ∧ e.handler = e'.handler := by
  rw [Expression.core, Expression.core, Expression.mk.injEq]
  tauto

lemma owned_getD (h : Owned p old) (f : Code.Fragment) :
    (old.getD (Build.fresh p f)).program = p ∧ (old.getD (Build.fresh p f)).source = p.text := by
  cases old with
  | none => exact ⟨rfl, rfl⟩
  | some e => exact h e rfl

lemma owned_some {e : Expression} (h : e.program = p ∧ e.source = p.text) : Owned p (some e) := by
  rintro e' ⟨⟩
  exact h

lemma owned_entryFor (use : Use) (h : Owned p old) :
    Code.Yields (fun r => Owned p (r.or old)) (Build.entryFor c p use old) := by
  cases use with
  | value field forced =>
    cases old with
    | none =>
      refine Code.yields_bind (Code.yields_true _) fun f _ => Code.yields_pure ?_
      exact owned_some ⟨rfl, rfl⟩
    | some e => exact Code.yields_pure h
  | bind field =>
    rw [Build.entryFor]
    split
    · exact Code.yields_pure h
    · refine Code.yields_bind (Code.yields_true _) fun f _ => Code.yields_pure ?_
      exact owned_some (owned_getD h f)
  | event =>
    rw [Build.entryFor]
    split
    · exact Code.yields_pure h
    · refine Code.yields_bind (Code.yields_true _) fun f _ => ?_
      split
      · refine Code.yields_bind (Code.yields_true _) fun _ _ => Code.yields_pure ?_
        exact owned_some (owned_getD h f)
      · exact Code.yields_pure (owned_some (owned_getD h f))

/-- What compiles in any case may be compiled on one side only. -/
lemma alike_left {α β γ : Type} {P : α → Prop} {R : β → γ → Prop} {w : Code.Compile α} {g : α → β}
    {x : γ}
    (hw : ∀ s, ∃ a, (w.run.run s).1 = .ok a) (hP : Code.Yields P w) (h : ∀ a, P a → R (g a) x) :
    Code.Alike R (do return g (← w)) (pure x) := by
  intro s t
  obtain ⟨a, ha⟩ := hw s
  rw [Code.run_bind_ok ha]
  exact h a (hP s a ha)

/-- Nothing that folds is bound or called. -/
lemma Foldable.bind_alike (hp : Foldable c p d) {α β : Type} {R : α → β → Prop} (field : String)
    (g : Code.Fragment → Code.Compile α) (g' : Code.Fragment → Code.Compile β) :
    Code.Alike R (Code.bind c field p >>= g) (Code.bind c field p >>= g') := by
  refine Code.alike_bind ((Code.bind_alike rfl p field).and (Code.yields_bindTarget c p field)
    (Code.yields_true _)) fun f _ hf => ?_
  exact absurd hf.2.1.closed hp.closed_ne

lemma Foldable.event_alike (hp : Foldable c p d) {α β : Type} {R : α → β → Prop}
    (g : Code.Fragment → Code.Compile α) (g' : Code.Fragment → Code.Compile β) :
    Code.Alike R (Code.event c p >>= g) (Code.event c p >>= g') := by
  refine Code.alike_bind ((Code.event_alike rfl p).and (Code.yields_event c p)
    (Code.yields_true _)) fun f _ hf => ?_
  exact absurd hf.2.1.closed hp.closed_ne

/-- Compiling a program for a use ends alike for both tables, and the entries stay twins. -/
theorem entryFor_alike (use : Use) (h : EntryTwin c p old old') :
    Code.Alike (fun r r' => EntryTwin c p (r.or old) (r'.or old')) (Build.entryFor c p use old)
      (Build.entryFor c p use old') := by
  cases use with
  | value field forced =>
    cases h with
    | none =>
      refine Code.alike_bind (Code.value_alike rfl p field forced) fun f g hfg => Code.alike_pure ?_
      refine .both (core_eq_iff.2 ⟨rfl, ?_, rfl, rfl, hfg.target, rfl⟩)
      simp only [hfg.binding]
    | both h => exact Code.alike_pure (.both h)
    | folded hp hcore =>
      refine alike_left (hp.compiles field forced) (Code.yields_value c p field forced) fun f hf =>
        ?_
      obtain ⟨hsource, hbind, hevent, hprogram, htarget, hhandler⟩ := core_eq_iff.1 hcore
      refine .both (core_eq_iff.2 ⟨hsource.symm, ?_, hevent.symm, hprogram.symm, ?_, hhandler.symm⟩)
      · rw [hbind]
        simp only [hf.binding, hp.unmarked, Option.isSome_none]
      · rw [htarget]
        simp only [hf.target, hp.unmarked, Option.map_none]
  | bind field =>
    rw [Build.entryFor, Build.entryFor]
    cases h with
    | none =>
      refine Code.alike_bind (Code.bind_alike rfl p field) fun f g hfg => Code.alike_pure ?_
      exact .both (core_eq_iff.2 ⟨rfl, rfl, rfl, rfl, hfg.target, rfl⟩)
    | @both e e' h =>
      obtain ⟨hsource, hbind, hevent, hprogram, htarget, hhandler⟩ := core_eq_iff.1 h
      simp only [Option.any_some, hbind]
      split
      · exact Code.alike_pure (.both h)
      · refine Code.alike_bind (Code.bind_alike rfl p field) fun f g hfg => Code.alike_pure ?_
        exact .both (core_eq_iff.2 ⟨hsource, rfl, hevent, hprogram, hfg.target, hhandler⟩)
    | @folded e' d hp hcore =>
      have hbind : e'.bind = false := (core_eq_iff.1 hcore).2.1
      simp only [Option.any_none, Option.any_some, hbind]
      exact hp.bind_alike field _ _
  | event =>
    rw [Build.entryFor, Build.entryFor]
    cases h with
    | none =>
      refine Code.alike_bind (Code.event_alike rfl p) fun f g hfg => ?_
      refine Code.alike_bind (Code.value_alike rfl p "" false) fun _ _ _ => Code.alike_pure ?_
      exact .both (core_eq_iff.2 ⟨rfl, rfl, rfl, rfl, rfl, hfg.handler⟩)
    | @both e e' h =>
      obtain ⟨hsource, hbind, hevent, hprogram, htarget, hhandler⟩ := core_eq_iff.1 h
      simp only [Option.any_some, hevent]
      split
      · exact Code.alike_pure (.both h)
      · refine Code.alike_bind (Code.event_alike rfl p) fun f g hfg => Code.alike_pure ?_
        exact .both (core_eq_iff.2 ⟨hsource, hbind, rfl, hprogram, htarget, hfg.handler⟩)
    | @folded e' d hp hcore =>
      have hevent : e'.event = false := (core_eq_iff.1 hcore).2.2.1
      simp only [Option.any_none, Option.any_some, hevent]
      exact hp.event_alike _ _

/-- A constant may get an entry in the table where constants are not folded. -/
lemma Foldable.entryFor_value (hp : Foldable c p d) (field : String) (h : EntryTwin c p old old')
    (s : Symbols) :
    ∃ r, ((Build.entryFor c p (.value field false) old').run.run s).1 = .ok r ∧
      (r.or old').isSome ∧ EntryTwin c p old (r.or old') := by
  cases h with
  | none =>
    obtain ⟨f, hf⟩ := hp.compiles field false s
    have hof := Code.yields_value c p field false s f hf
    refine ⟨some { Build.fresh p f with bind := f.binding.isSome, target := f.target }, ?_, rfl, ?_⟩
    · rw [Build.entryFor, Code.run_bind_ok hf]
      rfl
    · refine .folded hp (core_eq_iff.2 ⟨rfl, ?_, rfl, rfl, ?_, rfl⟩)
      · rw [hof.binding, hp.unmarked, Option.isSome_none]
      · rw [hof.target, hp.unmarked, Option.map_none]
  | both h => exact ⟨none, rfl, rfl, .both h⟩
  | folded hp' hcore => exact ⟨none, rfl, rfl, .folded hp' hcore⟩

end Description

end Trellis

/-!
The end of building: programs without entries are compiled.

Watching gives slots to programs that no instruction refers to.  `Build.remaining` fills them, so
that in the end every slot has an entry (`Build.run_remaining`).
-/

namespace Trellis.Description

open Container

/-- The value of a program compiles, whatever the symbols. -/
def Compiles (c : Code.Options) (p : Program) : Prop :=
  ∀ s, ∃ f, ((Code.value c "" false p).run.run s).1 = .ok f

/-- What an entry says that was made for a value. -/
def valueCore (p : Program) : Expression :=
  { source := p.text, program := p, bind := (Code.markedPipe? p).isSome
    target := (Code.markedPipe? p).map (·.1) }

namespace Build

open Construction

variable {a : Arena} {o : Options} {c : Code.Options} {d e u : Construction} {p : Program}

/-- Slots are filled with the values of their programs, and nothing else changes. -/
structure Fills (a : Arena) (c : Code.Options) (d e : Construction) : Prop where
  sane : e.Sane a
  texts : e.texts = d.texts
  bodies : e.bodies = d.bodies
  kept : ∀ {x en}, d.filling? x = some en → e.filling? x = some en
  new : ∀ {x en}, d.filling? x = none → e.filling? x = some en →
    en.core = valueCore en.program ∧ Compiles c en.program

lemma Fills.refl (hd : d.Sane a) : Fills a c d d where
  sane := hd
  texts := rfl
  bodies := rfl
  kept h := h
  new h h' := by
    rw [h] at h'
    cases h'

lemma Fills.trans (h : Fills a c d e) (h' : Fills a c e u) : Fills a c d u where
  sane := h'.sane
  texts := h'.texts.trans h.texts
  bodies := h'.bodies.trans h.bodies
  kept hx := h'.kept (h.kept hx)
  new {x en} hx hu := by
    cases he : e.filling? x with
    | none => exact h'.new he hu
    | some en' =>
      rw [h'.kept he] at hu
      cases hu
      exact h.new hx he

/-- The entry of a text has the program of that text. -/
lemma program_of_filling? (he : e.Sane a) {x : String} {s : Stored} {en : Expression}
    (hs : a.table.find? x = some s) (hen : e.filling? x = some en) : en.program = s.program := by
  have hfind := (he.entry hen).1
  rw [hs] at hfind
  cases hfind
  rfl

/-- What was filled was compiled. -/
lemma Fills.compiles (h : Fills a c d e) {x : String} {s : Stored} (hs : a.table.find? x = some s)
    (hnone : d.filling? x = none) (hsome : (e.filling? x).isSome) : Compiles c s.program := by
  obtain ⟨en, hen⟩ := Option.isSome_iff_exists.1 hsome
  rw [← program_of_filling? h.sane hs hen]
  exact (h.new hnone hen).2

/-- A program that has a slot may get an entry for its value. -/
lemma fills_put (hd : d.Sane a) (hp : a.table.Knows p) (hmem : p.text ∈ d.texts) (symbols : Symbols)
    {r : Option Expression} (hr : ∀ en, r = some en →
      d.filling? p.text = none ∧ en.core = valueCore p ∧ Compiles c p) :
    Fills a c d (d.put p symbols r) := by
  have howned : ∀ en, r = some en → en.program = p ∧ en.source = p.text := by
    intro en hen
    obtain ⟨hsource, _, _, hprogram, _, _⟩ :=
      core_eq_iff.1 (show en.core = (valueCore p).core from (hr en hen).2.1)
    exact ⟨hprogram, hsource⟩
  refine ⟨hd.put hp howned, ?_, bodies_put .., fun {x en} hx => ?_, fun {x en} hx hen => ?_⟩
  · rw [texts_put, texts_allocated, if_pos hmem]
  · rw [filling?_put hd hp]
    split
    · next hpx =>
      subst hpx
      cases r with
      | none => exact hx
      | some en' =>
        rw [(hr en' rfl).1] at hx
        cases hx
    · exact hx
  · rw [filling?_put hd hp] at hen
    split at hen
    · rw [hx, Option.or_none] at hen
      obtain ⟨_, hcore, hcompiles⟩ := hr en hen
      rw [(howned en hen).1]
      exact ⟨hcore, hcompiles⟩
    · rw [hx] at hen
      cases hen

/-- A program that has a slot is compiled for its value, unless its slot is filled. -/
lemma run_valueSlot (hd : d.Sane a) (hp : a.table.Knows p) (hmem : p.text ∈ d.texts) :
    match (slot o (.value "" false) p).run d with
    | .ok (_, e) => Fills a (code o) d e ∧ (e.filling? p.text).isSome
    | .error _ => d.filling? p.text = none ∧ ¬Compiles (code o) p := by
  rw [run_slot hd hp]
  cases hold : d.filling? p.text with
  | some old =>
    refine ⟨fills_put hd hp hmem _ fun _ h => (by cases h), ?_⟩
    rw [filling?_put hd hp, if_pos rfl, hold]
    rfl
  | none =>
    rw [entryFor]
    cases hf : ((Code.value (code o) "" false p).run.run d.symbols).1 with
    | error f =>
      rw [Code.run_bind_error hf]
      refine ⟨rfl, fun hcompiles => ?_⟩
      obtain ⟨g, hg⟩ := hcompiles d.symbols
      rw [hf] at hg
      cases hg
    | ok f =>
      rw [Code.run_bind_ok hf]
      have hcompiles : Compiles (code o) p := by
        intro s
        have hends := Code.value_alike (o := code o) rfl p "" false d.symbols s
        rw [hf] at hends
        obtain ⟨g, hg, -⟩ := hends.ok
        exact ⟨g, hg⟩
      have hof := Code.yields_value (code o) p "" false d.symbols f hf
      refine ⟨fills_put hd hp hmem _ ?_, ?_⟩
      · rintro en ⟨⟩
        refine ⟨hold, ?_, hcompiles⟩
        rw [valueCore, ← hof.binding, ← hof.target]
        rfl
      · rw [filling?_put hd hp, if_pos rfl]
        rfl

/-- Compiles programs for their values, one after the other. -/
def valueSlots (o : Options) : List Stored → Build Unit
  | [] => return
  | s :: ss => do
    let _ ← slot o (.value "" false) s.program
    valueSlots o ss

lemma remaining_eq (o : Options) :
    remaining o = (do valueSlots o (← get).arena.table.programs) := by
  have hloop : ∀ ss : List Stored, (forIn ss PUnit.unit fun s _ => do
      let _ ← slot o (.value "" false) s.program
      return ForInStep.yield ⟨⟩ : Build Unit) = valueSlots o ss := by
    intro ss
    induction ss with
    | nil => rfl
    | cons s ss ih =>
      rw [List.forIn_cons, valueSlots, bind_assoc]
      exact congrArg _ (funext fun _ => ih)
  rw [remaining]
  exact congrArg _ (funext fun d => (bind_pure_unit).trans (hloop _))

/-- Programs that have slots are compiled for their values, unless their slots are filled. -/
lemma run_valueSlots {ss : List Stored} (hd : d.Sane a)
    (hss : ∀ s ∈ ss, a.table.Knows s.program ∧ s.program.text ∈ d.texts) :
    match (valueSlots o ss).run d with
    | .ok (_, e) => Fills a (code o) d e ∧ ∀ s ∈ ss, (e.filling? s.program.text).isSome
    | .error _ => ∃ s ∈ ss, d.filling? s.program.text = none ∧ ¬Compiles (code o) s.program := by
  induction ss generalizing d with
  | nil => exact ⟨.refl hd, by simp⟩
  | cons s ss ih =>
    obtain ⟨hp, hmem⟩ := hss s List.mem_cons_self
    have hslot := run_valueSlot (o := o) hd hp hmem
    rw [valueSlots, run_bind]
    cases hrun : (slot o (.value "" false) s.program).run d with
    | error f =>
      rw [hrun] at hslot
      exact ⟨s, List.mem_cons_self, hslot⟩
    | ok r =>
      obtain ⟨i, e⟩ := r
      rw [hrun] at hslot
      obtain ⟨hfills, hsome⟩ := hslot
      have hrest := ih hfills.sane fun s' hs' => by
        rw [hfills.texts]
        exact hss s' (List.mem_cons_of_mem _ hs')
      simp only
      cases hrun' : (valueSlots o ss).run e with
      | error f =>
        rw [hrun'] at hrest
        obtain ⟨s', hs', hnone, hnot⟩ := hrest
        refine ⟨s', List.mem_cons_of_mem _ hs', ?_, hnot⟩
        cases hd' : d.filling? s'.program.text with
        | none => rfl
        | some en =>
          rw [hfills.kept hd'] at hnone
          cases hnone
      | ok r' =>
        obtain ⟨x, u⟩ := r'
        rw [hrun'] at hrest
        obtain ⟨hfills', hsome'⟩ := hrest
        refine ⟨hfills.trans hfills', fun s' hs' => ?_⟩
        obtain rfl | hs' := List.mem_cons.1 hs'
        · obtain ⟨en, hen⟩ := Option.isSome_iff_exists.1 hsome
          rw [hfills'.kept hen]
          rfl
        · exact hsome' s' hs'

/-- In the end every slot is filled. -/
theorem run_remaining (ha : a.table.Own) (hd : d.Sane a) :
    match (remaining o).run d with
    | .ok (_, e) => Fills a (code o) d e ∧ ∀ x ∈ d.texts, (e.filling? x).isSome
    | .error _ => ∃ x s, x ∈ d.texts ∧ a.table.find? x = some s ∧ d.filling? x = none ∧
        ¬Compiles (code o) s.program := by
  have hfind : ∀ x s, d.arena.table.find? x = some s ↔ a.table.find? x = some s := by
    intro x s
    rw [Table.find?, hd.stored, Table.find?]
  have hknown : ∀ {x s}, a.table.find? x = some s → s.text = x ∧ a.table.Knows s.program ∧
      s.program.text = x := by
    intro x s hs
    obtain ⟨hhas, htext⟩ := Table.has_of_find? ha hs
    exact ⟨htext, hhas.knows, hhas.text_eq.symm.trans htext⟩
  have hmem : ∀ s, s ∈ d.arena.table.programs ↔ ∃ x ∈ d.texts, a.table.find? x = some s := by
    intro s
    simp only [Table.programs, List.mem_filterMap, hfind]
    rfl
  have hknows : ∀ s ∈ d.arena.table.programs, a.table.Knows s.program ∧
      s.program.text ∈ d.texts := by
    intro s hs
    obtain ⟨x, hx, hs⟩ := (hmem s).1 hs
    obtain ⟨-, hknows, htext⟩ := hknown hs
    exact ⟨hknows, by rwa [htext]⟩
  have hrun := run_valueSlots (o := o) hd hknows
  rw [remaining_eq, run_bind]
  change match (valueSlots o d.arena.table.programs).run d with
    | .ok (_, e) => _
    | .error _ => _
  cases hr : (valueSlots o d.arena.table.programs).run d with
  | error f =>
    rw [hr] at hrun
    obtain ⟨s, hs, hnone, hnot⟩ := hrun
    obtain ⟨x, hx, hs⟩ := (hmem s).1 hs
    obtain ⟨-, -, htext⟩ := hknown hs
    rw [htext] at hnone
    exact ⟨x, s, hx, hs, hnone, hnot⟩
  | ok r =>
    obtain ⟨_, e⟩ := r
    rw [hr] at hrun
    refine ⟨hrun.1, fun x hx => ?_⟩
    obtain ⟨s, hs⟩ := Option.isSome_iff_exists.1 (hd.known x hx)
    have hsome := hrun.2 s ((hmem s).2 ⟨x, hx, hs⟩)
    rwa [(hknown hs).2.2] at hsome

end Build

end Trellis.Description
