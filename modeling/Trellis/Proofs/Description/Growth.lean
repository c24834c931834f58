/-
What building keeps, and what it only adds to.

A construction is sound when its entries can do what they say they do, when what is watched stands
in the order of existing slots, and when the root is its first body (`Construction.Sound`).
Building never takes anything back: slots keep their texts, entries get more uses, and bodies stay
where they are (`Construction.Grows`).  Compiling a program for a use and asking what a container
watches keep to both (`Build.run_slot_grows`, `Build.run_watch_grows`).
-/
import Trellis.Proofs.Container.Drift
import Trellis.Proofs.Container.Ranges
import Trellis.Proofs.Description.Fold

namespace Trellis.Description

open Container

variable {a : Arena} {o : Options} {c : Code.Options} {p : Program} {old : Option Expression}

/-! ### Entries -/

/-- An entry can do what it says: call a handler, write through a binding.  It writes to and calls
what its program says, and its program can be compiled again for what the entry is used for. -/
structure Able (c : Code.Options) (e : Expression) : Prop where
  event : e.event = true → e.handler.isSome
  bind : e.bind = true → e.target.isSome
  marked : (Code.markedPipe? e.program).isSome → e.bind = true
  value : Compiles c e.program
  target : e.target = if e.bind then
    ((Code.markedPipe? e.program).map (·.1)).or (e.program.single?.map Expr.unwrap) else none
  handler : e.handler = if e.event then
    e.program.single?.bind fun e => (Code.handlerOf e.unwrap).toOption else none
  writes : e.bind = true → Code.markedPipe? e.program = none →
    Code.Succeeds (Code.bind c "" e.program)
  calls : e.event = true → Code.Succeeds (Code.event c e.program)

/-- An entry can be used in a way.  A pipe with a binding mark is bound even if it is compiled for
its value. -/
def Use.Served (e : Expression) : Use → Prop
  | .value _ _ => (Code.markedPipe? e.program).isSome → e.bind = true
  | .bind _ => e.bind = true
  | .event => e.event = true

/-- An entry has the uses of another, and the same program. -/
structure Extends (e e' : Expression) : Prop where
  program : e'.program = e.program
  bind : e.bind = true → e'.bind = true
  event : e.event = true → e'.event = true

lemma Extends.refl (e : Expression) : Extends e e := ⟨rfl, id, id⟩

lemma Extends.trans {e e' e'' : Expression} (h : Extends e e') (h' : Extends e' e'') :
    Extends e e'' :=
  ⟨h'.program.trans h.program, h'.bind ∘ h.bind, h'.event ∘ h.event⟩

lemma Extends.served {e e' : Expression} (h : Extends e e') {use : Use} (hserved : use.Served e) :
    use.Served e' := by
  cases use with
  | value field forced =>
    intro hmarked
    rw [h.program] at hmarked
    exact h.bind (hserved hmarked)
  | bind field => exact h.bind hserved
  | event => exact h.event hserved

/-- The target of a binding can be written to. -/
lemma yields_bind_target (c : Code.Options) (field : String) (p : Program) :
    Code.Yields (fun f => f.target.isSome) (Code.bind c field p) := by
  rw [Code.bind]
  split
  · refine Code.yields_bind (Code.yields_true _) fun b _ => Code.yields_bind (Code.yields_true _)
      fun v _ => ?_
    exact Code.yields_bind (Code.yields_true _) fun l _ => Code.yields_pure rfl
  · exact Code.yields_throw _

/-- The handler of an event can be called, and the program is no pipe. -/
lemma yields_event_handler (c : Code.Options) (p : Program) :
    Code.Yields (fun f => f.handler.isSome ∧ Code.markedPipe? p = none) (Code.event c p) := by
  rw [Code.event]
  split
  · next e he =>
    refine Code.yields_bind (Code.yields_except _) fun h hh => ?_
    have hunmarked : Code.markedPipe? p = none := by
      have hsingle : p.single?.map Expr.unwrap = some e.unwrap := by rw [Program.single?, he]; rfl
      rw [Code.markedPipe?, hsingle]
      cases he : e.unwrap with
      | pipe s entity args chain =>
        rw [he] at hh
        cases hh
      | _ => rfl
    dsimp only
    split
    all_goals exact Code.yields_bind (Code.yields_true _) fun v _ =>
      Code.yields_bind (Code.yields_true _) fun ps _ => Code.yields_pure ⟨rfl, hunmarked⟩
  · exact Code.yields_throw _

/-- An entry that is new for its value. -/
lemma able_fresh {f : Code.Fragment} {forced : Bool} (hf : f.OfValue p forced)
    (hvalue : Compiles c p) :
    Able c { Build.fresh p f with bind := f.binding.isSome, target := f.target } where
  event h := nomatch h
  bind hbind := by
    change f.target.isSome
    rw [hf.target, Option.isSome_map, ← hf.binding]
    exact hbind
  marked hmarked := hf.binding.trans hmarked
  value := hvalue
  target := by
    change f.target = if f.binding.isSome then
      ((Code.markedPipe? p).map (·.1)).or (p.single?.map Expr.unwrap) else none
    rw [hf.target, hf.binding]
    cases Code.markedPipe? p <;> rfl
  handler := rfl
  writes hbind hunmarked := by
    have hbound : f.binding.isSome = true := hbind
    change Code.markedPipe? p = none at hunmarked
    rw [hf.binding, hunmarked] at hbound
    cases hbound
  calls h := nomatch h

/-- An entry that can do what it says apart from being bound is bound from now on. -/
lemma Able.bound {e : Expression} {f : Code.Fragment}
    (h : Able c { e with bind := false, target := none })
    (hf : f.OfBind e.program) (hsome : f.target.isSome) (hunmarked : Code.markedPipe? e.program =
      none)
    (hbind : Code.Succeeds (Code.bind c "" e.program)) :
        Able c { e with bind := true, target := f.target } where
  event := h.event
  bind _ := hsome
  marked _ := rfl
  value := h.value
  target := by
    change f.target = ((Code.markedPipe? e.program).map (·.1)).or
      (e.program.single?.map Expr.unwrap)
    rw [hf.target, hunmarked]
    rfl
  handler := h.handler
  writes _ _ := hbind
  calls := h.calls

/-- An entry that can do what it says is called from now on. -/
lemma Able.called {e : Expression} {f : Code.Fragment} (h : Able c e) (hf : f.OfEvent e.program)
    (hsome : f.handler.isSome) (hevent : Code.Succeeds (Code.event c e.program)) :
    Able c { e with event := true, handler := f.handler } where
  event _ := hsome
  bind := h.bind
  marked := h.marked
  value := h.value
  target := h.target
  handler := hf.handler
  writes := h.writes
  calls _ := hevent

/-- An entry without uses can do nothing. -/
lemma able_unused {f : Code.Fragment} (hunmarked : Code.markedPipe? p = none)
    (hvalue : Compiles c p) :
    Able c (Build.fresh p f) where
  event h := nomatch h
  bind h := nomatch h
  marked h := by
    change (Code.markedPipe? p).isSome = true at h
    rw [hunmarked] at h
    cases h
  value := hvalue
  target := rfl
  handler := rfl
  writes h := nomatch h
  calls h := nomatch h

/-- Compiling leaves an entry that can be used for what it is compiled for, and for all that the
entry before could be used for. -/
def Serves (c : Code.Options) (use : Use) (old : Option Expression) (p : Program)
    (e : Option Expression) : Prop :=
  ∃ e', e = some e' ∧ (e'.program = p ∧ e'.source = p.text) ∧ Able c e' ∧ use.Served e' ∧
    ∀ e₀ ∈ old, Extends e₀ e'

lemma serves_kept {use : Use} {e : Expression} (howned : e.program = p ∧ e.source = p.text)
    (hable : Able c e) (hserved : use.Served e) : Serves c use (some e) p (some e) := by
  refine ⟨e, rfl, howned, hable, hserved, ?_⟩
  rintro e₀ ⟨⟩
  exact .refl e

theorem serves_entryFor (use : Use) (howned : Owned p old) (hold : ∀ e ∈ old, Able c e) :
    Code.Yields (fun r => Serves c use old p (r.or old)) (Build.entryFor c p use old) := by
  cases use with
  | value field forced =>
    cases old with
    | some e => exact Code.yields_pure (serves_kept (howned e rfl) (hold e rfl) (hold e rfl).marked)
    | none =>
      have hcompiles := (Code.value_alike_use (o := c) p field "" forced false).succeeds
      refine Code.yields_bind ((Code.yields_value c p field forced).and hcompiles) fun f hboth => ?_
      obtain ⟨hf, hvalue⟩ := hboth
      have hable := able_fresh hf hvalue
      exact Code.yields_pure ⟨_, rfl, ⟨rfl, rfl⟩, hable, hable.marked, fun _ h =>
        (Option.not_mem_none _ h).elim⟩
  | bind field =>
    have hbind := (((Code.yields_bindTarget c p field).and (yields_bind_target c field p)).and
      (Code.yields_bind_value (o := c) p field)).and (Code.bind_alike_field (o :=
        c) p field "").succeeds
    rw [Build.entryFor]
    cases old with
    | none =>
      refine Code.yields_bind hbind fun f hall => Code.yields_pure ?_
      obtain ⟨⟨⟨hf, hsome⟩, hvalue, hunmarked⟩, hagain⟩ := hall
      have hable : Able c { Build.fresh p f with bind := true, target := f.target } :=
        Able.bound (e := Build.fresh p f) (able_unused hunmarked hvalue) hf hsome hunmarked hagain
      exact ⟨_, rfl, ⟨rfl, rfl⟩, hable, rfl, fun _ h => (Option.not_mem_none _ h).elim⟩
    | some e =>
      have hable := hold e rfl
      obtain ⟨rfl, htext⟩ := howned e rfl
      rw [Option.any_some]
      split
      · next hbound => exact Code.yields_pure (serves_kept ⟨rfl, htext⟩ hable hbound)
      · next hunbound =>
        refine Code.yields_bind hbind fun f hall => Code.yields_pure ?_
        obtain ⟨⟨⟨hf, hsome⟩, -, hunmarked⟩, hagain⟩ := hall
        have hbefore : Able c { e with bind := false, target := none } := by
          have hfalse : e.bind = false := Bool.eq_false_iff.2 hunbound
          have hnone : e.target = none := by rw [hable.target, hfalse]; rfl
          rwa [← hfalse, ← hnone]
        refine ⟨_, rfl, ⟨rfl, htext⟩, hbefore.bound hf hsome hunmarked hagain, rfl, ?_⟩
        rintro e₀ ⟨⟩
        exact ⟨rfl, fun _ => rfl, id⟩
  | event =>
    have hevent := ((Code.yields_event c p).and (yields_event_handler c p)).and
      (Code.event_alike (o := c) rfl p).succeeds
    rw [Build.entryFor]
    cases old with
    | none =>
      refine Code.yields_bind hevent fun f hall => ?_
      obtain ⟨⟨hf, hsome, hunmarked⟩, hagain⟩ := hall
      have hcompiles := (Code.value_alike_use (o := c) p "" "" false false).succeeds
      refine Code.yields_bind hcompiles fun _ hvalue => Code.yields_pure ?_
      have hable : Able c { Build.fresh p f with event := true, handler := f.handler } :=
        Able.called (e := Build.fresh p f) (able_unused hunmarked hvalue) hf hsome hagain
      exact ⟨_, rfl, ⟨rfl, rfl⟩, hable, rfl, fun _ h => (Option.not_mem_none _ h).elim⟩
    | some e =>
      have hable := hold e rfl
      obtain ⟨rfl, htext⟩ := howned e rfl
      rw [Option.any_some]
      split
      · next hcalled => exact Code.yields_pure (serves_kept ⟨rfl, htext⟩ hable hcalled)
      · refine Code.yields_bind hevent fun f hall => Code.yields_pure ?_
        obtain ⟨⟨hf, hsome, -⟩, hagain⟩ := hall
        refine ⟨_, rfl, ⟨rfl, htext⟩, hable.called hf hsome hagain, rfl, ?_⟩
        rintro e₀ ⟨⟩
        exact ⟨rfl, id, fun _ => rfl⟩

/-! ### Constructions -/

/-- Runs stand for slots below `n` in increasing order. -/
structure RunsFit (n : Nat) (runs : List (List Int)) : Prop where
  increasing : (expand runs).Pairwise (· < ·)
  slot : ∀ i ∈ expand runs, 0 ≤ i ∧ i < n
  written : ∀ run ∈ runs, ∀ i ∈ run, 0 ≤ i ∧ i < n

lemma RunsFit.mono {n m : Nat} {runs : List (List Int)} (h : RunsFit n runs) (hle : n ≤ m) :
    RunsFit m runs where
  increasing := h.increasing
  slot i hi := ⟨(h.slot i hi).1, by have := (h.slot i hi).2; omega⟩
  written run hrun i hi :=
    ⟨(h.written run hrun i hi).1, by have := (h.written run hrun i hi).2; omega⟩

/-- The runs of increasing slots. -/
lemma runsFit_ranges {n : Nat} {slots : List Nat} (hincreasing : slots.Pairwise (· < ·))
    (hlt : ∀ i ∈ slots, i < n) :
    RunsFit n (ranges (slots.map Int.ofNat)) := by
  have hslot : ∀ i ∈ slots.map Int.ofNat, 0 ≤ i ∧ i < n := by
    intro i hi
    obtain ⟨j, hj, rfl⟩ := List.mem_map.1 hi
    have := hlt j hj
    exact ⟨Int.natCast_nonneg j, Int.ofNat_lt.2 this⟩
  refine ⟨?_, ?_, fun run hrun i hi => hslot i (mem_of_mem_ranges hrun hi)⟩
  · rw [expand_ranges, List.pairwise_map]
    exact hincreasing.imp fun h => Int.ofNat_lt.2 h
  · rw [expand_ranges]
    exact hslot

namespace Construction

variable {d e u : Construction} {x : String}

/-- What holds of a construction at all times. -/
structure Sound (a : Arena) (c : Code.Options) (d : Construction) : Prop where
  sane : d.Sane a
  able : ∀ {x e}, d.filling? x = some e → Able c e
  runs : ∀ runs ∈ d.watches, RunsFit d.texts.length runs
  watcher : ∀ r ∈ d.watchers, ∀ w ∈ r.2, w < d.watches.size
  root : Rooted d.bodies

/-- What is added to a construction, nothing being taken back. -/
structure Grows (d e : Construction) : Prop where
  texts : d.texts <+: e.texts
  entry : ∀ {x en}, d.filling? x = some en → ∃ en', e.filling? x = some en' ∧ Extends en en'
  watches : d.watches.size ≤ e.watches.size
  body : ∀ {k : Nat} {b : Body}, d.bodies[k]? = some b → ∃ b', e.bodies[k]? = some b' ∧
    b'.kind = b.kind

lemma Grows.refl (d : Construction) : d.Grows d where
  texts := List.prefix_rfl
  entry h := ⟨_, h, .refl _⟩
  watches := Nat.le_refl _
  body h := ⟨_, h, rfl⟩

lemma Grows.trans (h : d.Grows e) (h' : e.Grows u) : d.Grows u where
  texts := h.texts.trans h'.texts
  entry hx := by
    obtain ⟨en, hen, hextends⟩ := h.entry hx
    obtain ⟨en', hen', hextends'⟩ := h'.entry hen
    exact ⟨en', hen', hextends.trans hextends'⟩
  watches := Nat.le_trans h.watches h'.watches
  body hb := by
    obtain ⟨b, hb, hkind⟩ := h.body hb
    obtain ⟨b', hb', hkind'⟩ := h'.body hb
    exact ⟨b', hb', hkind'.trans hkind⟩

lemma Grows.size (h : d.Grows e) : d.bodies.size ≤ e.bodies.size := by
  by_contra hlt
  have hi : e.bodies.size < d.bodies.size := Nat.lt_of_not_le hlt
  obtain ⟨b, hb, -⟩ := h.body (Array.getElem?_eq_getElem hi)
  rw [Array.getElem?_eq_none (Nat.le_refl _)] at hb
  cases hb

/-- Slots and entries are the same. -/
lemma Sound.congr (h : d.Sound a c) (harena : e.arena = d.arena)
    (hexpressions : e.expressions = d.expressions)
    (hruns : ∀ runs ∈ e.watches, RunsFit d.texts.length runs)
    (hwatcher : ∀ r ∈ e.watchers, ∀ w ∈ r.2, w < e.watches.size) (hroot : Rooted e.bodies) :
    e.Sound a c := by
  have htexts : e.texts = d.texts := by rw [texts, harena, texts]
  have hfilling : ∀ x, e.filling? x = d.filling? x := fun x => by
    rw [filling?, filling?, htexts, hexpressions]
  refine ⟨h.sane.congr harena hexpressions, fun {x en} hen => ?_, ?_, hwatcher, hroot⟩
  · rw [hfilling] at hen
    exact h.able hen
  · rwa [htexts]

lemma Grows.of_eq (harena : e.arena = d.arena) (hexpressions : e.expressions = d.expressions)
    (hwatches : d.watches.size ≤ e.watches.size)
    (hbody : ∀ {k : Nat} {b : Body}, d.bodies[k]? = some b → ∃ b', e.bodies[k]? = some b' ∧
    b'.kind = b.kind) : d.Grows e := by
  have htexts : e.texts = d.texts := by rw [Construction.texts, harena, Construction.texts]
  refine ⟨htexts ▸ List.prefix_rfl, fun {x en} hen => ⟨en, ?_, .refl en⟩, hwatches, hbody⟩
  rw [filling?, htexts, hexpressions]
  exact hen

lemma watches_put (d : Construction) (p : Program) (symbols : Symbols) (r : Option Expression) :
    (d.put p symbols r).watches = d.watches := by
  cases r <;> rfl

/-- A program that is put into the table, to be used in some way. -/
lemma Sound.put {use : Use} (h : d.Sound a c) (hp : a.table.Knows p) (symbols : Symbols)
    {r : Option Expression}
    (hserves : Serves c use (d.filling? p.text) p (r.or (d.filling? p.text))) :
    (d.put p symbols r).Sound a c ∧ d.Grows (d.put p symbols r) ∧
      ∃ e, (d.put p symbols r).filling? p.text = some e ∧ e.program = p ∧ use.Served e := by
  obtain ⟨e, he, howned, hable, hserved, hextends⟩ := hserves
  have hfilling : ∀ y, (d.put p symbols r).filling? y = if p.text = y then some e
      else d.filling? y := by
    intro y
    rw [filling?_put h.sane hp]
    split
    · next hy => rw [← hy, he]
    · rfl
  have hsane : (d.put p symbols r).Sane a :=
    sane_put h.sane hp (by rw [he]; exact owned_some howned) symbols
  refine ⟨⟨hsane, fun {x en} hen => ?_, fun runs hruns => ?_, ?_, ?_⟩,
    ⟨prefix_put .., fun {x en} hen => ?_, ?_, fun {k b} hb => ?_⟩, e, ?_, howned.1, hserved⟩
  · rw [hfilling] at hen
    split at hen
    · cases hen
      exact hable
    · exact h.able hen
  · rw [watches_put] at hruns
    exact (h.runs runs hruns).mono (prefix_put ..).length_le
  · rw [watchers_put, watches_put]
    exact h.watcher
  · rw [bodies_put]
    exact h.root
  · rw [hfilling]
    split
    · next hx =>
      subst hx
      exact ⟨e, rfl, hextends en hen⟩
    · exact ⟨en, hen, .refl en⟩
  · exact Nat.le_of_eq (congrArg Array.size (watches_put d p symbols r)).symm
  · rw [bodies_put]
    exact ⟨b, hb, rfl⟩
  · rw [hfilling, if_pos rfl]

/-- A stored program gets a slot. -/
lemma Sound.allocated (h : d.Sound a c) {s : Stored} (hs : (a.table.find? s.text).isSome) :
    (d.allocated s).Sound a c where
  sane := h.sane.allocated hs
  able hen := by
    rw [filling?_allocated h.sane] at hen
    exact h.able hen
  runs runs hruns := (h.runs runs hruns).mono (prefix_allocated d s).length_le
  watcher := h.watcher
  root := h.root

lemma Sound.grows_allocated (h : d.Sound a c) (s : Stored) : d.Grows (d.allocated s) where
  texts := prefix_allocated d s
  entry hen := by
    rw [filling?_allocated h.sane]
    exact ⟨_, hen, .refl _⟩
  watches := Nat.le_refl _
  body hb := ⟨_, hb, rfl⟩

/-- Stored programs get slots. -/
lemma Sound.allocatedAll {es : List Entry} (h : d.Sound a c)
    (hes : ∀ e ∈ es, a.table.Has e.stored) :
    (Build.allocatedAll d es).Sound a c ∧ d.Grows (Build.allocatedAll d es) := by
  induction es generalizing d with
  | nil => exact ⟨h, .refl d⟩
  | cons e es ih =>
    have hknown : (a.table.find? e.stored.text).isSome := by
      rw [(hes e List.mem_cons_self).find?]
      rfl
    obtain ⟨hsound, hgrows⟩ := ih (h.allocated hknown) fun e' he' =>
      hes e' (List.mem_cons_of_mem _ he')
    exact ⟨hsound, (h.grows_allocated e.stored).trans hgrows⟩

end Construction

namespace Build

open Construction

variable {d e : Construction}

/-- Compiling a known program for a use gives it a slot and an entry that can be used so. -/
theorem run_slot_grows (hd : d.Sound a (code o)) (hp : a.table.Knows p) (use : Use) {i : Nat}
    (hrun : (slot o use p).run d = .ok (i, e)) : e.Sound a (code o) ∧ d.Grows e ∧
    e.bodies = d.bodies ∧
      e.texts[i]? = some p.text ∧ ∃ en, e.filling? p.text = some en ∧ en.program = p ∧
      use.Served en := by
  rw [run_slot hd.sane hp] at hrun
  have hserves := serves_entryFor (c := code o) use (hd.sane.owned hp) (fun en hen =>
    hd.able hen) d.symbols
  cases hr : ((entryFor (code o) p use (d.filling? p.text)).run.run d.symbols).1 with
  | error f =>
    rw [hr] at hrun
    cases hrun
  | ok r =>
    rw [hr] at hrun
    cases hrun
    obtain ⟨hsound, hgrows, hentry⟩ := hd.put hp _ (hserves r hr)
    exact ⟨hsound, hgrows, bodies_put .., getElem?_texts_put .., hentry⟩

/-- What is kept of a container that is asked for the first time: its slots as runs, if it has any.
-/
def watchedFrom (d : Construction) (id : Nat) (slots : List Nat) : Option Nat × Construction :=
  if slots.isEmpty then (none, { d with watchers := (id, none) :: d.watchers })
  else (some d.watches.size, { d with
    watches := d.watches.push (ranges (slots.map Int.ofNat))
    watchers := (id, some d.watches.size) :: d.watchers })

lemma run_watch_slots {id : Nat} {w : Container} (h : d.watchers.find? (·.1 == id) = none)
    (hget : d.arena.get? id = some w) : ∃ slots : List Nat, slots.Pairwise (· < ·) ∧
      (∀ i ∈ slots, i < (allocatedAll d (watchedEntries w)).texts.length) ∧
      (watch (some id)).run d = .ok (watchedFrom (allocatedAll d (watchedEntries w)) id slots) := by
  refine ⟨(Work.inOrder (allocatedAll d (watchedEntries w)).arena.table w).map (·.1),
    Work.pairwise_inOrder _ w, fun i hi => ?_, ?_⟩
  · obtain ⟨r, hr, rfl⟩ := List.mem_map.1 hi
    exact (List.getElem?_eq_some_iff.1 (getElem?_of_idxOf? (Work.mem_inOrder hr).1)).1
  rw [watch, StateT.run_bind, StateT.run_get, pure_bind]
  simp only [h, hget, Option.isNone_some, Bool.false_eq_true, if_false]
  rw [run_bind, run_work, on_watched hget]
  simp only
  rw [← allocatedAll_eq]
  rfl

lemma watchedFrom_grows (hd : d.Sound a c) (id : Nat) {slots : List Nat}
    (hincreasing : slots.Pairwise (· < ·))
    (hlt : ∀ i ∈ slots, i < d.texts.length) : (watchedFrom d id slots).2.Sound a c ∧
      d.Grows (watchedFrom d id slots).2 ∧ (watchedFrom d id slots).2.bodies = d.bodies ∧
      ∀ k ∈ (watchedFrom d id slots).1, k < (watchedFrom d id slots).2.watches.size := by
  rw [watchedFrom]
  split
  · refine ⟨hd.congr rfl rfl hd.runs ?_ hd.root, .of_eq rfl rfl (Nat.le_refl _) fun hb =>
      ⟨_, hb, rfl⟩, rfl, nofun⟩
    intro r hr k hk
    obtain rfl | hr := List.mem_cons.1 hr
    · cases hk
    · exact hd.watcher r hr k hk
  · have hsize : (d.watches.push (ranges (slots.map Int.ofNat))).size = d.watches.size + 1 :=
      Array.size_push ..
    refine ⟨hd.congr rfl rfl ?_ ?_ hd.root, .of_eq rfl rfl ?_ fun hb => ⟨_, hb, rfl⟩, rfl, ?_⟩
    · intro runs hruns
      obtain hruns | rfl := Array.mem_push.1 hruns
      · exact hd.runs runs hruns
      · exact runsFit_ranges hincreasing hlt
    · intro r hr k hk
      dsimp only
      obtain rfl | hr := List.mem_cons.1 hr
      · cases hk
        omega
      · have := hd.watcher r hr k hk
        omega
    · dsimp only
      omega
    · rintro k ⟨⟩
      dsimp only
      omega

/-- Asking what a container watches gives existing runs, if any. -/
theorem run_watch_grows (ha : a.Held a.table) (hd : d.Sound a c) {container : Option Nat}
    {w : Option Nat} (hrun : (watch container).run d = .ok (w, e)) :
    e.Sound a c ∧ d.Grows e ∧ e.bodies = d.bodies ∧ ∀ k ∈ w, k < e.watches.size := by
  cases container with
  | none =>
    cases hrun
    exact ⟨hd, .refl d, rfl, nofun⟩
  | some id =>
    cases hfind : d.watchers.find? (·.1 == id) with
    | some r =>
      rw [run_watch_known hfind] at hrun
      cases hrun
      exact ⟨hd, .refl d, rfl, hd.watcher r (List.mem_of_find?_eq_some hfind)⟩
    | none =>
      cases hget : d.arena.get? id with
      | none =>
        rw [run_watch_missing hfind hget] at hrun
        cases hrun
        exact ⟨hd, .refl d, rfl, nofun⟩
      | some c =>
        obtain ⟨slots, hincreasing, hlt, hslots⟩ := run_watch_slots hfind hget
        rw [hslots] at hrun
        have hes : ∀ en ∈ watchedEntries c, a.table.Has en.stored := by
          rw [Arena.get?, hd.sane.containers] at hget
          exact fun en hen => ha.programs hget en (mem_of_mem_watchedEntries hen)
        obtain ⟨hsound, hgrows⟩ := hd.allocatedAll hes
        obtain ⟨hsound', hgrows', hbodies, hwatch⟩ := watchedFrom_grows hsound id hincreasing hlt
        rw [Except.ok.inj hrun] at hsound' hgrows' hbodies hwatch
        exact ⟨hsound', hgrows.trans hgrows', hbodies.trans (bodies_allocatedAll d _), hwatch⟩

end Build

end Trellis.Description
