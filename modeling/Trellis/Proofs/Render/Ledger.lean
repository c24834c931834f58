/-
The values of watched slots.

Watching goes through a template once, and evaluates the slots that containers list on the way.  A
slot may be listed many times, in different scopes: what once could not be evaluated stays
unreachable, and otherwise the last evaluation counts (`Template.watchedSlots_settled`).

To say so, watching is written down a second time, as work that keeps a ledger of what it does
(`Audit`): of each slot that a container lists, and of each evaluation with what it came to.  Apart
from the ledger, such work does what watching does (`Run.Audited`), and at the end the watched slots
are what the ledger says (`Ledger.Settles`).  This is carried through all that an instruction does;
loops are gone through once (`Render.loop_watching`).

Evaluating a slot may do anything but watch: content was not written while watching, for watching
calls nothing (`Memory.Idle`), and a template that is asked for its watched slots on the way keeps
those apart.
-/
import Trellis.Proofs.Render.Frame
import Trellis.Proofs.Render.Pervasive
import Trellis.Proofs.Render.Loops

namespace Trellis

open Run

/-! ### Work that is not watching -/

/-- No content was written while watching. -/
def Memory.Idle (m : Memory) : Prop := ∀ c ∈ m.contents, c.context.watching = false

/-- From idle memory, work comes to idle memory, with the same watched slots unless it is watching.
-/
def Memory.Calm (watching : Bool) (m n : Memory) : Prop :=
  m.Idle → n.Idle ∧ (watching = false → n.watched = m.watched)

namespace Run

variable {α : Type}

/-- Work that leaves memory idle, and watched slots alone unless it is watching. -/
def Calm (watching : Bool) (w : Run α) : Prop := Moves (Memory.Calm watching) w

lemma drift_calm (watching : Bool) : Memory.Drift (Memory.Calm watching) where
  same _ hcontents hwatched hidle := ⟨by rwa [Memory.Idle, hcontents], fun _ => hwatched⟩
  trans h h' hidle := by
    obtain ⟨hidle', hwatched⟩ := h hidle
    obtain ⟨hidle'', hwatched'⟩ := h' hidle'
    exact ⟨hidle'', fun hnot => (hwatched' hnot).trans (hwatched hnot)⟩

/-- All that can be done is calm, if what the host brings along is. -/
lemma pervasive_calm : Run.Pervasive fun watching _ w => Calm watching w where
  lenient := lenient_moves (drift_calm _)
  calm watching h m hidle := by
    obtain ⟨hidle', hwatched⟩ := h m hidle
    exact ⟨hidle', fun _ => hwatched rfl⟩
  of_modifyGet hscopes hcontents hwatched := moves_modifyGet fun m =>
    (drift_calm false).same (hscopes m) (hcontents m) (hwatched m)
  newScope s := moves_modifyGet fun m hidle => ⟨hidle, fun _ => rfl⟩
  insert at_ name v f hf := moves_modifyGet fun m hidle => ⟨hidle, fun _ => rfl⟩
  poisoned hk := moves_poisoned (drift_calm _) (fun m s f hidle => ⟨hidle, fun _ => rfl⟩) hk
  newContent {c} hc := moves_modifyGet fun m hidle => by
    refine ⟨fun c' hc' => ?_, fun _ => rfl⟩
    obtain hc' | rfl := Array.mem_push.1 hc'
    · exact hidle c' hc'
    · exact hc
  rename at_ name := moves_modifyGet fun m hidle => by
    refine ⟨fun c' hc' => ?_, fun _ => rfl⟩
    obtain ⟨i, hi⟩ := Array.mem_iff_getElem?.1 hc'
    rw [Array.getElem?_modify] at hi
    split at hi
    · obtain ⟨c, hc, rfl⟩ := Option.map_eq_some_iff.1 hi
      exact hidle c (Array.mem_of_getElem? hc)
    · exact hidle c' (Array.mem_of_getElem? hi)
  content {α at_ k} hnone hsome := moves_get fun m hidle => by
    cases hc : m.contents[at_]? with
    | none => exact hnone m hidle
    | some c => exact (hidle c (Array.mem_of_getElem? hc)) ▸ hsome c m hidle
  watch f := moves_modifyGet fun m hidle => ⟨hidle, fun hwatching => by cases hwatching⟩
  apart {α w k} hw hends := moves_get fun m hidle => by
    obtain ⟨m', hm'⟩ := hends { m with watched := [] }
    have hcalm := hw { m with watched := [] } hidle
    rw [hm'] at hcalm
    rw [on_bind (on_modify _ m), on_bind hm', on_bind (on_get m')]
    exact ⟨hcalm.1, fun _ => rfl⟩

end Run

/-! ### Ledgers -/

/-- What watching does: the slots that containers list, and the evaluations of slots with what they
come to, in their order. -/
structure Ledger where
  listed : List Nat := []
  attempts : List (Nat × Except Fault Value) := []

namespace Ledger

/-- A slot is listed. -/
def list (book : Ledger) (slot : Nat) : Ledger := { book with listed := book.listed ++ [slot] }

/-- A slot is evaluated. -/
def enter (book : Ledger) (slot : Nat) (outcome : Except Fault Value) : Ledger :=
  { book with attempts := book.attempts ++ [(slot, outcome)] }

/-- What the evaluations of a slot come to, in their order. -/
def outcomes (book : Ledger) (slot : Nat) : List (Except Fault Value) :=
  (book.attempts.filter (·.1 == slot)).map (·.2)

/-- The value of a slot after an evaluation. -/
def valueOf : Except Fault Value → Value
  | .ok v => v
  | .error _ => .unreachable

/-- Watched slots are what a ledger says: each slot that is listed has one value, and no other slot
has any.  It is unreachable exactly if an evaluation of the slot failed or came to what is
unreachable, and otherwise what the last evaluation came to. -/
structure Settles (book : Ledger) (watched : List (Nat × Value)) : Prop where
  nodup : (watched.map (·.1)).Nodup
  listed : ∀ slot, slot ∈ watched.map (·.1) ↔ slot ∈ book.listed
  unreachable : ∀ slot v, (slot, v) ∈ watched →
    (v = .unreachable ↔ (∃ f, .error f ∈ book.outcomes slot) ∨
      .ok .unreachable ∈ book.outcomes slot)
  last : ∀ slot v, (slot, v) ∈ watched → v ≠ .unreachable →
    (book.outcomes slot).getLast? = some (.ok v)
  attempted : ∀ slot, book.outcomes slot ≠ [] → slot ∈ book.listed

variable {book : Ledger} {watched : List (Nat × Value)} {slot : Nat}

lemma outcomes_list (book : Ledger) (slot slot' : Nat) : (book.list slot).outcomes slot' =
    book.outcomes slot' := rfl

lemma outcomes_enter (book : Ledger) (slot : Nat) (o : Except Fault Value) :
    (book.enter slot o).outcomes slot = book.outcomes slot ++ [o] := by
  simp [outcomes, enter]

lemma outcomes_enter_ne (book : Ledger) {slot slot' : Nat} (o : Except Fault Value)
    (h : slot' ≠ slot) :
    (book.enter slot o).outcomes slot' = book.outcomes slot' := by
  simp [outcomes, enter, Ne.symm h]

lemma settles_nil : Settles {} [] where
  nodup := List.nodup_nil
  listed _ := Iff.rfl
  unreachable _ _ h := absurd h List.not_mem_nil
  last _ _ h := absurd h List.not_mem_nil
  attempted _ h := absurd rfl h

/-- A slot that has a value may be listed again. -/
lemma Settles.list (h : book.Settles watched) (hslot : slot ∈ watched.map (·.1)) :
    (book.list slot).Settles watched where
  nodup := h.nodup
  listed slot' := by
    rw [h.listed, Ledger.list, List.mem_append, List.mem_singleton]
    refine ⟨.inl, ?_⟩
    rintro (hlisted | rfl)
    · exact hlisted
    · exact (h.listed _).1 hslot
  unreachable := h.unreachable
  last := h.last
  attempted slot' hslot' := List.mem_append_left _ (h.attempted slot' hslot')

/-- A slot that is not unreachable is evaluated again. -/
lemma Settles.enter (h : book.Settles watched) (hslot : ∀ v, (slot, v) ∈ watched → v ≠ .unreachable)
    (o : Except Fault Value) :
    ((book.list slot).enter slot o).Settles ((slot, valueOf o) :: watched.filter
    (·.1 != slot)) := by
  -- so far no evaluation of the slot has failed
  have hbefore : ¬ ((∃ f, .error f ∈ book.outcomes slot) ∨
      .ok .unreachable ∈ book.outcomes slot) := by
    intro hfailed
    have hlisted : slot ∈ book.listed := by
      refine h.attempted slot fun hnil => ?_
      rw [hnil] at hfailed
      simp at hfailed
    obtain ⟨e, he, rfl⟩ := List.mem_map.1 ((h.listed slot).2 hlisted)
    exact hslot e.2 he ((h.unreachable e.1 e.2 he).2 hfailed)
  have hrest : ∀ slot' v, (slot', v) ∈ watched.filter (·.1 != slot) → (slot', v) ∈ watched ∧
      slot' ≠ slot := by
    intro slot' v hmem
    obtain ⟨hmem, hne⟩ := List.mem_filter.1 hmem
    exact ⟨hmem, by simpa using hne⟩
  constructor
  case nodup =>
    refine List.nodup_cons.2 ⟨fun hmem => ?_, h.nodup.sublist (List.filter_sublist.map _)⟩
    obtain ⟨e, he, heq⟩ := List.mem_map.1 hmem
    exact (hrest e.1 e.2 he).2 heq
  case listed =>
    intro slot'
    rw [List.map_cons, List.mem_cons, Ledger.enter, Ledger.list, List.mem_append,
      List.mem_singleton, ← h.listed]
    by_cases heq : slot' = slot
    · simp only [heq, true_or, or_true]
    · simp [heq]
  case unreachable =>
    intro slot' v hmem
    obtain hnew | hmem := List.mem_cons.1 hmem
    · cases hnew
      rw [outcomes_enter, outcomes_list]
      cases o with
      | error f =>
        exact iff_of_true rfl (.inl ⟨f, List.mem_append_right _ (List.mem_singleton_self _)⟩)
      | ok v =>
        refine ⟨fun hv => .inr
          (List.mem_append_right _ (List.mem_singleton.2 (congrArg _ hv.symm))), ?_⟩
        rintro (⟨f, hf⟩ | hok)
        · obtain hf | hf := List.mem_append.1 hf
          · exact absurd (.inl ⟨f, hf⟩) hbefore
          · cases List.mem_singleton.1 hf
        · obtain hok | hok := List.mem_append.1 hok
          · exact absurd (.inr hok) hbefore
          · exact (Except.ok.inj (List.mem_singleton.1 hok)).symm
    · obtain ⟨hmem, hne⟩ := hrest slot' v hmem
      rw [outcomes_enter_ne _ _ hne, outcomes_list]
      exact h.unreachable slot' v hmem
  case last =>
    intro slot' v hmem hv
    obtain hnew | hmem := List.mem_cons.1 hmem
    · cases hnew
      cases o with
      | error f => exact absurd rfl hv
      | ok v => rw [outcomes_enter, List.getLast?_concat, valueOf]
    · obtain ⟨hmem, hne⟩ := hrest slot' v hmem
      rw [outcomes_enter_ne _ _ hne, outcomes_list]
      exact h.last slot' v hmem hv
  case attempted =>
    intro slot' hslot'
    by_cases heq : slot' = slot
    · exact List.mem_append_right _ (List.mem_singleton.2 heq)
    · rw [outcomes_enter_ne _ _ heq, outcomes_list] at hslot'
      exact List.mem_append_left _ (h.attempted slot' hslot')

/-- The order of the slots does not matter. -/
lemma Settles.perm {found : List (Nat × Value)} (h : book.Settles watched)
    (hperm : found.Perm watched) :
    book.Settles found where
  nodup := (hperm.map _).nodup_iff.2 h.nodup
  listed slot := (hperm.map _).mem_iff.trans (h.listed slot)
  unreachable slot v hmem := h.unreachable slot v (hperm.mem_iff.1 hmem)
  last slot v hmem := h.last slot v (hperm.mem_iff.1 hmem)
  attempted := h.attempted

/-- The value of a slot is found under its number. -/
lemma Settles.find_eq (h : book.Settles watched) {v : Value} (hmem : (slot, v) ∈ watched) :
    watched.find? (·.1 == slot) = some (slot, v) := by
  have hnodup := h.nodup
  clear h
  induction watched with
  | nil => exact absurd hmem List.not_mem_nil
  | cons e es ih =>
    obtain ⟨hhead, hrest⟩ := List.nodup_cons.1 hnodup
    obtain rfl | hmem := List.mem_cons.1 hmem
    · exact List.find?_cons_of_pos (beq_self_eq_true slot)
    · have hslot : slot ∈ es.map (·.1) := List.mem_map_of_mem (f := (·.1)) hmem
      have hne : ¬(e.1 == slot) = true := by
        intro heq
        obtain rfl := eq_of_beq heq
        exact hhead hslot
      rw [List.find?_cons_of_neg (p := fun e : Nat × Value => e.1 == slot) hne]
      exact ih hmem hrest

end Ledger

/-! ### Work that keeps a ledger -/

/-- Work on memory that keeps a ledger. -/
abbrev Audit := ExceptT Fault (StateM (Memory × Ledger))

/-- Work of which the ledger says nothing. -/
def Run.unlisted {α : Type} (w : Run α) : Audit α := ExceptT.mk fun s =>
    ((w.on s.1).1, (w.on s.1).2, s.2)

namespace Audit

open Render Description

variable {α β : Type}

/-- What work comes to, and memory and the ledger after it. -/
def on (w : Audit α) (m : Memory) (book : Ledger) : Except Fault α × Memory × Ledger :=
  (ExceptT.run w).run (m, book)

section

variable (t : Template) (r : Renderer) (sub : Context → Nat → Audit (List Rendered))

/-- What evaluating a slot comes to. -/
def attempt (c : Context) (slot : Nat) : Run (Except Fault Value) :=
  tryCatch (do return .ok (← eval t r c slot)) fun f => return .error f

/-- Lists a slot, and evaluates it unless it is unreachable already. -/
def visit (c : Context) (slot : Nat) : Audit Unit := do
  modify fun s => (s.1, s.2.list slot)
  let seen := (← get).1.watched.find? (·.1 == slot)
  unless seen.any fun s => s.2.isUnreachable do
    let outcome ← (attempt t r c slot).unlisted
    modify fun s => ({ s.1 with
      watched := (slot, Ledger.valueOf outcome) :: s.1.watched.filter (·.1 != slot) },
        s.2.enter slot outcome)

/-- Goes through the slots that a container watches. -/
def collect (c : Context) (watch : Option Nat) : Audit Unit := do
  for slot in Container.expand ((watch.bind fun i => t.description.watches[i]?).getD []) do
    visit t r c slot.toNat

/-- Goes through the content that a call passes. -/
def watchContents (c : Context) (call : Call) : Audit Unit := do
  for ref in call.contents do
    let inner ← (outside c [ref.name]).unlisted
    let _ ← sub inner ref.body

/-- A call, which calls nothing. -/
def calling (c : Context) (call : Call) : Audit (List Rendered) := do
  collect t r c call.watch
  watchContents sub c call
  return []

/-- Goes through the body of a loop once. -/
def once (entry : Run (Context × Bool)) (body : Context → Audit (List Rendered)) :
    Audit (List Rendered) := do
  let e ← entry.unlisted
  return onceNodes e.2 (← body e.1)

/-- Goes through an arm of a condition if it may be the one that runs. -/
def arm (c : Context) (first : Bool) (slot : Option Nat) (body : Audit (List Rendered))
    (chain : Chain Rendered) :
    Audit (Chain Rendered) := do
  let body : Audit (Except Fault (List Rendered)) := do return .ok (← body)
  let (chain, f) ← match first, slot with
    | true, slot => chain.«if» (slot.map fun slot => (test t r c slot).unlisted) body
    | false, none => chain.«else» body
    | false, some slot => chain.elif (some (test t r c slot).unlisted) body
  match f with
  | some f => throw f
  | none => return chain

mutual
/-- Goes through an instruction. -/
def instruction (c : Context) : Instruction → Audit (List Rendered)
  | .text _ _ => return []
  | .element _ _ _ children _ => do
    let _ ← instructions c children
    return []
  | .component _ _ call | .partialCall _ _ call => calling t r sub c call
  | .branches _ as => do
    match (← arms c true { controller := .watching } as).fi [] with
    | (_, .ok nodes) => return nodes
    | (_, .error f) => throw f
  | .loop _ names init test _ children watch =>
    once (loopEntry t r c names init test) fun inner => do
      collect t r inner watch
      instructions inner children
  | .each _ collection index iterator children watch =>
    once (eachEntry t r c collection index iterator) fun inner => do
      collect t r inner watch
      instructions inner children
  | .unknown op => throw (Fault.make .unknownNode [("Type", op)])

/-- Goes through instructions. -/
def instructions (c : Context) : List Instruction → Audit (List Rendered)
  | [] => return []
  | i :: is => return (← instruction c i) ++ (← instructions c is)

/-- Goes through the arms of a condition. -/
def arms (c : Context) (first : Bool) (chain : Chain Rendered) : List Arm → Audit (Chain Rendered)
  | [] => return chain
  | .mk slot children watch :: as => do
    let chain ← arm t r c first slot (do
      collect t r c watch
      instructions c children) chain
    arms c false chain as
end

/-- Goes through a body. -/
def body (c : Context) (at_ : Nat) : Audit (List Rendered) := do
  match t.description.bodies[at_]? with
  | none => return []
  | some b =>
    collect t r c b.watch
    instructions t r sub c b.children

end

/-- Goes through a body and those that it comes to, which may be `depth` deep. -/
def bodyTo (w : Workshop) (start : Template) : Nat → Context → Nat → Audit (List Rendered)
  | 0, _, _ => throw (Fault.plain "templates are nested too deeply")
  | depth + 1, c, at_ =>
    body (c.template start) (w.rendererWith (w.bodyTo start depth)) (bodyTo w start depth) c at_

/-- The watched slots of a template with their values for data. -/
def watchedSlots (w : Workshop) (t : Template) (data : Value) : Audit (List (Nat × Value)) := do
  let before := (← get).1.watched
  modify fun s => ({ s.1 with watched := [] }, s.2)
  let c ← (Invocation.context { data, throws := false } (.kept t true)).unlisted
  tryCatch (do let _ ← bodyTo w default (w.depth + 1) c t.body) fun _ => return
  let found := (← get).1.watched
  modify fun s => ({ s.1 with watched := before }, s.2)
  return found.mergeSort fun a b => a.1 ≤ b.1

end Audit

/-! ### Watching and its ledger -/

/-- Where the watched slots are what a ledger says, the one work does what the other does that keeps
the ledger, and the watched slots are what the ledger says afterwards. -/
def Run.Audited {α : Type} (w : Run α) (w' : Audit α) : Prop :=
  ∀ m book, m.Idle → book.Settles m.watched → ∃ x m' book', w.on m = (x, m') ∧
    w'.on m book = (x, m', book') ∧
    m'.Idle ∧ book'.Settles m'.watched

namespace Audit

variable {α β : Type} {m m' : Memory} {book book' : Ledger}

lemma on_bind {w : Audit α} {x : α} (h : w.on m book = (.ok x, m', book')) (k : α → Audit β) :
    (w >>= k).on m book = (k x).on m' book' := by
  change (ExceptT.bindCont k (w.on m book).1).run (w.on m book).2 = _
  rw [h]
  rfl

lemma on_bind_error {w : Audit α} {f : Fault} (h : w.on m book = (.error f, m', book'))
    (k : α → Audit β) :
    (w >>= k).on m book = (.error f, m', book') := by
  change (ExceptT.bindCont k (w.on m book).1).run (w.on m book).2 = _
  rw [h]
  rfl

lemma on_get (m : Memory) (book : Ledger) : (get : Audit (Memory × Ledger)).on m book =
    (.ok (m, book), m, book) := rfl

lemma on_modify (f : Memory × Ledger → Memory × Ledger) (m : Memory) (book : Ledger) :
    (modify f : Audit Unit).on m book = (.ok (), f (m, book)) := rfl

lemma on_unlisted {w : Run α} {x : Except Fault α} (h : w.on m = (x, m')) (book : Ledger) :
    w.unlisted.on m book = (x, m', book) := by
  change ((w.on m).1, (w.on m).2, book) = _
  rw [h]

lemma on_tryCatch (w : Audit α) (g : Fault → Audit α) (m : Memory) (book : Ledger) :
    (tryCatch w g).on m book = match w.on m book with
      | (.ok x, m', book') => (.ok x, m', book')
      | (.error f, m', book') => (g f).on m' book' := by
  simp only [on, tryCatch, tryCatchThe, MonadExceptOf.tryCatch, ExceptT.tryCatch, ExceptT.run,
    ExceptT.mk, StateT.run,
    bind, StateT.bind]
  rcases w (m, book) with ⟨r, m', book'⟩
  cases r <;> rfl

end Audit

namespace Run

variable {α β : Type} {Q : α → Prop}

lemma audited_pure (x : α) : Audited (pure x) (pure x) := fun m book hidle hsettles =>
  ⟨.ok x, m, book, rfl, rfl, hidle, hsettles⟩

lemma audited_throw (f : Fault) : Audited (throw f : Run α) (throw f) :=
  fun m book hidle hsettles =>
  ⟨.error f, m, book, rfl, rfl, hidle, hsettles⟩

/-- What follows is looked at for the results that there can be. -/
lemma Audited.bind {w : Run α} {w' : Audit α} {k : α → Run β} {k' : α → Audit β} (h : Audited w w')
    (hgives : Gives Q w)
    (hk : ∀ x, Q x → Audited (k x) (k' x)) : Audited (w >>= k) (w' >>= k') := by
  intro m book hidle hsettles
  obtain ⟨x, m', book', hx, hx', hidle', hsettles'⟩ := h m book hidle hsettles
  cases x with
  | error f =>
    exact ⟨.error f, m', book', on_bind_error hx k, Audit.on_bind_error hx' k', hidle', hsettles'⟩
  | ok x =>
    rw [on_bind hx, Audit.on_bind hx']
    exact hk x (hgives m x m' hx) m' book' hidle' hsettles'

lemma audited_bind {w : Run α} {w' : Audit α} {k : α → Run β} {k' : α → Audit β} (h : Audited w w')
    (hk : ∀ x, Audited (k x) (k' x)) : Audited (w >>= k) (w' >>= k') :=
  h.bind (Q := fun _ => True) (fun _ _ _ _ => trivial) fun x _ => hk x

/-- Calm work is not in the ledger. -/
lemma Calm.audited {w : Run α} (h : Calm false w) : Audited w w.unlisted := by
  intro m book hidle hsettles
  obtain ⟨x, m', hx⟩ : ∃ x m', w.on m = (x, m') := ⟨_, _, rfl⟩
  obtain ⟨hidle', hwatched⟩ := h m hidle
  rw [hx] at hidle' hwatched
  exact ⟨x, m', book, hx, Audit.on_unlisted hx book, hidle', (hwatched rfl) ▸ hsettles⟩

lemma audited_forIn {xs : List α} {f : α → PUnit → Run (ForInStep PUnit)}
    {f' : α → PUnit → Audit (ForInStep PUnit)}
    (h : ∀ x, Audited (f x ⟨⟩) (f' x ⟨⟩)) : Audited (forIn xs ⟨⟩ f) (forIn xs ⟨⟩ f') := by
  induction xs with
  | nil => exact audited_pure _
  | cons x xs ih =>
    rw [List.forIn_cons, List.forIn_cons]
    refine audited_bind (h x) fun step => ?_
    cases step with
    | done s => exact audited_pure s
    | yield s => exact ih

end Run

namespace Render

open Description

variable {w : Workshop} {t : Template} {r : Renderer} {c : Context}

/-- A slot that is unreachable is listed and left alone. -/
lemma visit_seen {m : Memory} {book : Ledger} {slot : Nat}
    (h : (m.watched.find? (·.1 == slot)).any fun s => s.2.isUnreachable) :
    (Audit.visit t r c slot).on m book = (.ok (), m, book.list slot) := by
  rw [Audit.visit, Audit.on_bind (Audit.on_modify _ m book), Audit.on_bind (Audit.on_get m _),
    if_pos h]
  rfl

/-- Another slot is evaluated. -/
lemma visit_unseen {m m' : Memory} {book : Ledger} {slot : Nat} {x : Except Fault Value}
    (h : ¬(m.watched.find? (·.1 == slot)).any fun s => s.2.isUnreachable)
    (hx : (eval t r c slot).on m = (x, m')) :
    (Audit.visit t r c slot).on m book =
      (.ok (), { m' with watched := (slot, Ledger.valueOf x) :: m'.watched.filter (·.1 != slot) },
        (book.list slot).enter slot x) := by
  have hattempt : (Audit.attempt t r c slot).on m = (.ok x, m') := by
    rw [Audit.attempt, Run.on_tryCatch]
    cases x with
    | ok v =>
      rw [on_bind hx]
      rfl
    | error f =>
      rw [on_bind_error hx]
      rfl
  rw [Audit.visit, Audit.on_bind (Audit.on_modify _ m book), Audit.on_bind (Audit.on_get m _),
    if_neg h,
    Audit.on_bind (Audit.on_unlisted hattempt _)]
  rfl

section

variable (hr : r.Pervasive fun watching _ w => Calm watching w) (hc : c.watching = true)

include hr hc

lemma audited_collect (watch : Option Nat) : Audited (collect t r c watch)
    (Audit.collect t r c watch) := by
  rw [collect, Audit.collect, hc]
  refine audited_bind (audited_forIn fun slot m book hidle hsettles => ?_) fun _ => audited_pure _
  dsimp only
  by_cases hseen : (m.watched.find? (·.1 == slot.toNat)).any fun s => s.2.isUnreachable
  · rw [on_bind (on_get m), if_pos hseen, Audit.on_bind (visit_seen hseen)]
    obtain ⟨e, he, -⟩ := (Option.any_eq_true _ _).1 hseen
    have hslot : slot.toNat ∈ m.watched.map (·.1) := by
      have hkey := List.find?_some (p := fun e : Nat × Value => e.1 == slot.toNat) he
      exact List.mem_map.2 ⟨e, List.mem_of_find?_eq_some he, eq_of_beq hkey⟩
    exact ⟨_, m, _, rfl, rfl, hidle, hsettles.list hslot⟩
  · obtain ⟨x, m', hx⟩ : ∃ x m', (eval t r c slot.toNat).on m = (x, m') := ⟨_, _, rfl⟩
    obtain ⟨hidle', hwatched⟩ := pervasive_calm.eval (t := t) (c := c) hr slot.toNat m hidle
    rw [hx] at hidle' hwatched
    have htried : (tryCatch (eval t r c slot.toNat) fun _ => return Value.unreachable).on m =
        (.ok (Ledger.valueOf x), m') := by
      rw [on_tryCatch, hx]
      cases x <;> rfl
    rw [on_bind (on_get m), if_neg hseen, on_bind htried, on_bind (on_modify _ m'),
      Audit.on_bind (visit_unseen hseen hx)]
    refine ⟨_, _, _, rfl, rfl, hidle', ?_⟩
    rw [hwatched rfl]
    refine hsettles.enter (fun v hmem hv => hseen ?_) x
    rw [hsettles.find_eq hmem, hv]
    rfl

/-! ### Conditions -/

omit hc in
/-- A test is evaluated, and comes to a value or a fault. -/
lemma calm_test (slot : Nat) : Calm false (test t r c slot) := by
  refine pervasive_calm.of_tryCatch ?_ fun _ => pervasive_calm.of_pure _
  exact pervasive_calm.of_ite_bind (pervasive_calm.eval hr slot)
      (pervasive_calm.containEval hr slot) fun _ =>
    pervasive_calm.of_pure _

omit hc in
lemma audited_chainArm (chain : Chain Rendered) (slot : Option Nat)
    {body : Run (Except Fault (List Rendered))}
    {body' : Audit (Except Fault (List Rendered))} (hbody : Audited body body') :
    Audited (chain.arm (slot.map (test t r c)) body)
      (chain.arm (slot.map fun slot => (test t r c slot).unlisted) body') := by
  have hdecided : ∀ value, Audited (chain.decided body value) (chain.decided body' value) := by
    intro value
    rw [Chain.decided, Chain.decided]
    split
    · exact audited_pure _
    · dsimp only
      split
      · exact audited_pure _
      · refine audited_bind hbody fun made => ?_
        split
        · exact audited_pure _
        · exact audited_pure _
  rw [Chain.arm_eq, Chain.arm_eq, Option.isSome_map, Option.isSome_map]
  split
  · exact audited_pure _
  · cases slot with
    | none => exact audited_bind (audited_pure _) hdecided
    | some slot => exact audited_bind (calm_test hr slot).audited hdecided

omit hc in
lemma audited_arm (first : Bool) (slot : Option Nat) {body : Run (List Rendered)}
    {body' : Audit (List Rendered)} (hbody : Audited body body') (chain : Chain Rendered) :
    Audited (arm t r c first slot body chain) (Audit.arm t r c first slot body' chain) := by
  have hcaught : Audited (do return .ok (← body) : Run (Except Fault (List Rendered)))
    (do return .ok (← body')) :=
    audited_bind hbody fun _ => audited_pure _
  have hend : ∀ o : Chain.Outcome Rendered, Audited (match o.2 with
      | some f => throw f
      | none => return o.1 : Run (Chain Rendered)) (match o.2 with
      | some f => throw f
      | none => return o.1) := by
    intro o
    split
    · exact audited_throw _
    · exact audited_pure _
  have harm := fun (stage : Chain.Stage) => audited_chainArm (t := t) (c :=
    c) hr { chain with stage } slot hcaught
  rw [arm.eq_def, Audit.arm.eq_def]
  dsimp only
  cases first with
  | true =>
    refine audited_bind ?_ hend
    rw [Chain.«if», Chain.«if»]
    split
    · exact harm _
    · exact audited_pure _
  | false =>
    cases slot with
    | none =>
      refine audited_bind ?_ hend
      rw [Chain.«else», Chain.«else»]
      split
      · exact audited_pure _
      · exact audited_pure _
      · exact audited_pure _
      · exact harm _
    | some slot =>
      refine audited_bind ?_ hend
      rw [Chain.elif, Chain.elif]
      split
      · exact audited_pure _
      · exact audited_pure _
      · exact audited_pure _
      · exact audited_chainArm hr chain (some slot) hcaught

/-! ### Instructions -/

omit hr hc in
/-- A loop goes through its body once. -/
lemma audited_once {entry : Run (Context × Bool)} {body : Context → Run (List Rendered)}
    {body' : Context → Audit (List Rendered)} (hentry : Calm false entry)
    (hgives : Gives (fun e : Context × Bool => e.1.watching = true) entry)
    (hbody : ∀ inner : Context, inner.watching = true → Audited (body inner) (body' inner)) :
    Audited (once entry body) (Audit.once entry body') :=
  hentry.audited.bind hgives fun e he => audited_bind (hbody e.1 he) fun _ => audited_pure _

variable {sub : Context → Nat → Audit (List Rendered)}
  (hsub : ∀ (c : Context) (at_ : Nat), c.watching = true → Audited (r.body c at_) (sub c at_))

include hsub

omit hr in
lemma audited_watchContents (call : Call) : Audited (watchContents r c call)
    (Audit.watchContents sub c call) := by
  refine audited_bind (audited_forIn fun ref => ?_) fun _ => audited_pure _
  have houtside : Calm false (outside c [ref.name]) := pervasive_calm.outside c [ref.name]
  have hbody : Audited (do
      let inner ← outside c [ref.name]
      let _ ← r.body inner ref.body
      return ForInStep.yield PUnit.unit) (do
      let inner ← (outside c [ref.name]).unlisted
      let _ ← sub inner ref.body
      return ForInStep.yield PUnit.unit) :=
    houtside.audited.bind (gives_outside c _) fun inner hinner =>
      audited_bind (hsub inner ref.body (hinner.trans hc)) fun _ => audited_pure _
  have hnested : (do
      let inner ← c.nested ""
      Scope.poison inner.scope [ref.name]
      let _ ← r.body inner ref.body
      return ForInStep.yield PUnit.unit) = (do
      let inner ← outside c [ref.name]
      let _ ← r.body inner ref.body
      return ForInStep.yield PUnit.unit) := by
    simp only [outside, bind_assoc, pure_bind]
  rw [hnested]
  exact hbody

lemma audited_calling (key name : String) (call : Call)
    (render : ControlCall → Run (List Rendered)) :
    Audited (calling t r c key name call render) (Audit.calling t r sub c call) := by
  rw [calling, if_pos hc, Audit.calling]
  refine audited_bind (audited_collect hr hc _) fun _ => ?_
  exact audited_bind (audited_watchContents hc hsub call) fun _ => audited_pure _

omit hc

set_option linter.unusedSectionVars false in
mutual
/-- Going through an instruction is what it does while watching. -/
theorem audited_instruction : ∀ (c : Context) (i : Instruction), c.watching = true →
    Audited (instruction w t r c i) (Audit.instruction t r sub c i)
  | c, .text key ps, hc => by
    rw [instruction, text, if_pos hc, Audit.instruction]
    exact audited_pure _
  | c, .element key name as children _, hc => by
    rw [instruction, if_pos hc, Audit.instruction]
    exact audited_bind (audited_instructions c children hc) fun _ => audited_pure _
  | c, .component key name call, hc => by
    rw [instruction, Audit.instruction]
    exact audited_calling hr hc hsub key name call _
  | c, .partialCall key target call, hc => by
    rw [instruction.eq_def, Audit.instruction]
    exact audited_calling hr hc hsub key _ call _
  | c, .branches key as, hc => by
    rw [instruction, Audit.instruction, if_pos hc]
    refine audited_bind (audited_arms c true _ as hc) fun chain => ?_
    obtain ⟨_, made⟩ := chain.fi []
    cases made with
    | ok nodes => exact audited_pure _
    | error f => exact audited_throw _
  | c, .loop key names init test update children watch, hc => by
    rw [instruction, loop_watching hc, Audit.instruction]
    refine audited_once (pervasive_calm.loopEntry hr names init test)
      (hc ▸ gives_loopEntry names init test)
      fun inner hinner => ?_
    exact audited_bind (audited_collect hr hinner watch) fun _ =>
      audited_instructions inner children hinner
  | c, .each key collection index iterator children watch, hc => by
    rw [instruction, each_watching hc, Audit.instruction]
    refine audited_once (pervasive_calm.eachEntry hr collection index iterator)
      (hc ▸ gives_eachEntry collection index iterator) fun inner hinner => ?_
    exact audited_bind (audited_collect hr hinner watch) fun _ =>
      audited_instructions inner children hinner
  | c, .unknown op, _ => by
    rw [instruction, Audit.instruction]
    exact audited_throw _

theorem audited_instructions : ∀ (c : Context) (is : List Instruction), c.watching = true →
    Audited (instructions w t r c is) (Audit.instructions t r sub c is)
  | c, [], _ => by
    rw [instructions, Audit.instructions]
    exact audited_pure _
  | c, i :: is, hc => by
    rw [instructions, Audit.instructions]
    refine audited_bind (audited_instruction c i hc) fun _ => ?_
    exact audited_bind (audited_instructions c is hc) fun _ => audited_pure _

theorem audited_arms : ∀ (c : Context) (first : Bool) (chain : Chain Rendered) (as : List Arm),
    c.watching = true →
    Audited (arms w t r c first chain as) (Audit.arms t r sub c first chain as)
  | c, first, chain, [], _ => by
    rw [arms, Audit.arms]
    exact audited_pure _
  | c, first, chain, .mk slot children watch :: as, hc => by
    rw [arms, Audit.arms]
    refine audited_bind (audited_arm hr first slot ?_ chain) fun chain =>
      audited_arms c false chain as hc
    exact audited_bind (audited_collect hr hc watch) fun _ => audited_instructions c children hc
end

/-- Going through a body is what it does while watching. -/
theorem audited_body (c : Context) (at_ : Nat) (hc : c.watching = true) :
    Audited (body w t r c at_) (Audit.body t r sub c at_) := by
  rw [body, Audit.body]
  cases t.description.bodies[at_]? with
  | none => exact audited_pure _
  | some b =>
    exact audited_bind (audited_collect hr hc _) fun _ => audited_instructions hr hsub c _ hc

end

end Render

/-! ### Whole runs -/

section

variable {w : Workshop} (hw : w.Pervasive fun watching _ w => Calm watching w)

include hw

/-- So it is for bodies that come to each other, by induction on how deep they do. -/
lemma Workshop.audited_bodyTo (start : Template) (depth : Nat) (c : Context) (at_ : Nat)
    (hc : c.watching = true) :
    Audited (w.bodyTo start depth c at_) (Audit.bodyTo w start depth c at_) := by
  induction depth generalizing c at_ with
  | zero => exact audited_throw _
  | succ depth ih =>
    rw [Workshop.bodyTo, Audit.bodyTo]
    have hr := hw.rendererWith pervasive_calm (hw.bodyTo pervasive_calm start depth)
    exact Render.audited_body hr ih c at_ hc

omit hw in
/-- A context that renders a template while watching is watching. -/
lemma Invocation.gives_context (i : Invocation) (subject : Subject) :
    Gives (fun c : Context => c.subject = subject) (i.context subject) := by
  refine gives_bind fun _ => gives_bind fun _ => ?_
  dsimp only
  split
  · exact gives_pure rfl
  · exact gives_pure rfl

omit hw in
lemma Invocation.calm_context (i : Invocation) (subject : Subject) :
    Calm false (i.context subject) := by
  have hcontext : Calm false (i.context subject >>= pure) :=
    pervasive_calm.of_context fun c _ => pervasive_calm.of_pure c
  rwa [bind_pure] at hcontext

/-- **Watched slots.** Asking a template for its watched slots is going through it once with a
ledger, and gives what the ledger says: the slots that are listed, each of them unreachable exactly
if one of its evaluations failed or came to what is unreachable, and otherwise with the value of its
last evaluation. -/
theorem Template.watchedSlots_settled (t : Template) (data : Value) {m : Memory} (hm : m.Idle) :
    ∃ found m' book, (Template.watchedSlots w t data).on m = (.ok found, m') ∧
      (Audit.watchedSlots w t data).on m {} = (.ok found, m', book) ∧ book.Settles found := by
  let i : Invocation := { data, throws := false }
  obtain ⟨c, m₁, hc⟩ := i.context_on (.kept t true) { m with watched := [] }
  have hwatching : c.watching = true := by
    rw [Context.watching, i.gives_context _ _ _ _ hc]
  obtain ⟨hidle, hwatched⟩ := i.calm_context (.kept t true) { m with watched := [] } hm
  rw [hc] at hidle hwatched
  have hsettles : Ledger.Settles {} m₁.watched := (hwatched rfl) ▸ Ledger.settles_nil
  obtain ⟨x, m₂, book, hx, hx', -, hsettles'⟩ :=
    Workshop.audited_bodyTo hw default (w.depth + 1) c t.body hwatching m₁ {} hidle hsettles
  -- a fault of the body ends the run, and what was watched until then stays
  have hends : (tryCatch (do let _ ← w.renderer.body c t.body) fun _ => return).on m₁ =
      (.ok (), m₂) := by
    have hx : (w.renderer.body c t.body).on m₁ = (x, m₂) := hx
    rw [on_tryCatch]
    cases x with
    | ok nodes =>
      rw [on_bind hx]
      rfl
    | error f =>
      rw [on_bind_error hx]
      rfl
  have hends' : (tryCatch (do let _ ← Audit.bodyTo w default (w.depth + 1) c t.body) fun _ =>
    return).on m₁ {} =
      (.ok (), m₂, book) := by
    rw [Audit.on_tryCatch]
    cases x with
    | ok nodes =>
      rw [Audit.on_bind hx']
      rfl
    | error f =>
      rw [Audit.on_bind_error hx']
      rfl
  refine ⟨m₂.watched.mergeSort fun a b => a.1 ≤ b.1, { m₂ with watched := m.watched }, book, ?_, ?_,
    hsettles'.perm (List.mergeSort_perm _ _)⟩
  · rw [Template.watchedSlots, Renderer.watchedSlots, on_bind (on_get m), on_bind (on_modify _ m),
      on_bind hc,
      on_bind hends, on_bind (on_get m₂), on_bind (on_modify _ m₂)]
    rfl
  · rw [Audit.watchedSlots, Audit.on_bind (Audit.on_get m {}),
      Audit.on_bind (Audit.on_modify _ m {}),
      Audit.on_bind (Audit.on_unlisted hc {}), Audit.on_bind hends',
        Audit.on_bind (Audit.on_get m₂ book),
      Audit.on_bind (Audit.on_modify _ m₂ book)]
    rfl

end

/-- A page that shows a name of the data, and then in a loop that has a variable of this name and no
steps. -/
def shadowedPage : String :=
  "\x7b\x7b x \x7d\x7d<ws:for data=\"\x7b\x7b x = false; x; x = false \x7d\x7d\">\x7b\x7b x \x7d\x7d</ws:for>"

/-- What is shown in both places is one slot.  It is evaluated for the page, where that succeeds,
and for the loop, where it fails: so it is unreachable. -/
theorem Template.watchedSlots_settled_shadowedPage : ∃ t, standalone shadowedPage = .ok t ∧
    ∃ found m book, (Template.watchedSlots {} t (.object 0)).on dataMemory = (.ok found, m) ∧
      (Ledger.outcomes book 0).map (·.toBool) = [true, false] ∧ book.Settles found ∧
      (0, .unreachable) ∈ found := by
  have hall : (standalone shadowedPage).toOption.any (fun t =>
      (((Audit.watchedSlots {} t (.object 0)).on dataMemory {}).2.2.outcomes 0).map (·.toBool) ==
        [true, false]) =
        true := by
    decide +kernel
  have hidle : dataMemory.Idle := fun c hc => absurd hc (Array.not_mem_empty c)
  cases ht : standalone shadowedPage with
  | error f =>
    rw [ht] at hall
    cases hall
  | ok t =>
    obtain ⟨found, m, book, hfound, haudit, hsettles⟩ :=
      Template.watchedSlots_settled (.empty pervasive_calm) t (.object 0) hidle
    rw [ht] at hall
    simp only [Except.toOption, Option.any_some, haudit, beq_iff_eq] at hall
    refine ⟨t, rfl, found, m, book, hfound, hall, hsettles, ?_⟩
    -- the second of the two evaluations failed
    obtain ⟨o, ho, hfails⟩ :=
      List.mem_map.1 (hall ▸ by decide : false ∈ (book.outcomes 0).map (·.toBool))
    cases o with
    | ok v => cases hfails
    | error f =>
      obtain ⟨e, he, hslot⟩ :=
        List.mem_map.1 ((hsettles.listed 0).2 (hsettles.attempted 0 (List.ne_nil_of_mem ho)))
      obtain ⟨slot, v⟩ := e
      obtain rfl : slot = 0 := hslot
      obtain rfl := (hsettles.unreachable 0 v he).2 (.inl ⟨f, ho⟩)
      exact he

end Trellis
