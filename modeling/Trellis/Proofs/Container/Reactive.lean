/-
Reactive names.

A program that is registered tells each of its names to the end of the way up, the nearest template
or the root, unless a container on this way isolates the name (`Work.hoistName_on`).  The expression
of a loop is also recorded at the loop itself, before its names are isolated there.  Nothing else is
ever recorded (`Arena.noted_register`), so the reactive names of a container can be read off the
calls that were made (`Arena.mem_reactiveAt_iff`).
-/
import Mathlib.Data.List.Induction
import Trellis.Proofs.Container.Calls

namespace Trellis

open Container

namespace Arena

/-- The reactive names that are recorded at a container. -/
def reactiveAt (a : Arena) (id : Nat) : List String := ((a.get? id).map (·.reactive)).getD []

/-- No container from `id` up to the nearest template or the root, which is `top`, isolates `x`. -/
structure Clear (a : Arena) (x : String) (id top : Nat) : Prop where
  sees : a.Sees x id top
  ends : ∃ c, a.get? top = some c ∧ (top = 0 ∨ c.kind = .template) ∧ x ∉ c.isolated

/-- Registering a program in a role records its name `x` at `top`: from the container of the
registration the way up is clear, or it is that container, and the program is the expression of a
loop. -/
structure Records (a : Arena) (x : String) (id : Nat) (role : Role) (top : Nat) : Prop where
  exists_ : id < a.containers.size
  known : role ∈ Role.known
  way : a.Clear x id top ∨ role = .iterator ∧ id = top

variable {a b m : Arena} {x name : String} {id top : Nat} {c : Container}
  {P Q : Nat → String → Prop}

/-! ### The way up -/

/-- What a container is to those below it. -/
def way (c : Container) : Option Nat × Kind × List String := (c.parent, c.kind, c.isolated)

/-- Containers stay where they are and isolate the same names. -/
def SameWay (a b : Arena) : Prop := ∀ id, (b.get? id).map way = (a.get? id).map way

lemma SameWay.refl (a : Arena) : SameWay a a := fun _ => rfl

lemma SameWay.symm (h : SameWay a b) : SameWay b a := fun id => (h id).symm

lemma SameWay.trans (h : SameWay a m) (h' : SameWay m b) : SameWay a b :=
  fun id => (h' id).trans (h id)

lemma SameWay.get? (h : SameWay a b) (hc : a.get? id = some c) :
    ∃ d, b.get? id = some d ∧ d.parent = c.parent ∧ d.kind = c.kind ∧ d.isolated = c.isolated := by
  have hid := h id
  rw [hc, Option.map_some] at hid
  obtain ⟨d, hd, hway⟩ := Option.map_eq_some_iff.1 hid
  simp only [way, Prod.mk.injEq] at hway
  exact ⟨d, hd, hway⟩

lemma SameWay.clear (h : SameWay a b) (hclear : a.Clear x id top) : b.Clear x id top := by
  obtain ⟨hsees, c, hc, hkind, hx⟩ := hclear
  obtain ⟨d, hd, -, hkind', hisolated⟩ := h.get? hc
  refine ⟨?_, d, hd, hkind' ▸ hkind, hisolated ▸ hx⟩
  clear hc hkind hx hd hkind' hisolated
  induction hsees with
  | here hget =>
    obtain ⟨d, hd, -⟩ := h.get? hget
    exact .here hd
  | up hget hkind hx hparent _ ih =>
    obtain ⟨d, hd, hparent', hkind', hisolated⟩ := h.get? hget
    exact .up hd (hkind' ▸ hkind) (hisolated ▸ hx) (hparent'.trans hparent) ih

lemma SameWay.clear_iff (h : SameWay a b) : b.Clear x id top ↔ a.Clear x id top :=
  ⟨h.symm.clear, h.clear⟩

/-- Parents have smaller numbers, and the root alone has none. -/
structure Climbs (a : Arena) : Prop where
  parent_lt : ∀ {id c}, a.get? id = some c → ∀ parent, c.parent = some parent → parent < id
  rooted : a.Rooted

lemma Climbs.of_sameWay (ha : a.Climbs) (h : SameWay a b) : b.Climbs := by
  refine ⟨fun hc parent hparent => ?_, ha.rooted.of_view fun id => ?_⟩
  · obtain ⟨d, hd, hparent', -⟩ := h.symm.get? hc
    exact ha.parent_lt hd parent (hparent'.trans hparent)
  · have hid := congrArg (Option.map Prod.fst) (h id)
    simpa only [Option.map_map, Function.comp_def, way] using hid

lemma Climbs.isBoundary_iff (ha : a.Climbs) (hc : a.get? id = some c) :
    Work.isBoundary c = true ↔ id = 0 ∨ c.kind = .template := by
  rw [Work.isBoundary, Bool.or_eq_true, beq_iff_eq, Option.isNone_iff_eq_none, ha.rooted id c hc]
  exact or_comm

/-- A name that is isolated does not get away from its container. -/
lemma not_clear_of_isolated (hc : a.get? id = some c) (hx : x ∈ c.isolated) :
    ¬ a.Clear x id top := by
  rintro ⟨hsees, d, hd, -, hx'⟩
  obtain rfl | ⟨_, -, -, hx'', -⟩ := hsees.step hc
  · rw [hc] at hd
    cases hd
    exact hx' hx
  · exact hx'' hx

/-- The way up ends at a template or the root. -/
lemma Climbs.clear_end (ha : a.Climbs) (hc : a.get? id = some c)
    (hend : id = 0 ∨ c.kind = .template) (hx : x ∉ c.isolated) : a.Clear x id top ↔ top = id := by
  constructor
  · rintro ⟨hsees, -⟩
    obtain rfl | ⟨parent, hparent, hkind, -⟩ := hsees.step hc
    · rfl
    · rcases hend with rfl | hend
      · rw [(ha.rooted 0 c hc).2 rfl] at hparent
        cases hparent
      · exact absurd hend hkind
  · rintro rfl
    exact ⟨.here hc, c, hc, hend, hx⟩

/-- Anywhere else it goes on to the parent. -/
lemma clear_up {parent : Nat} (hc : a.get? id = some c) (hid : id ≠ 0) (hkind : c.kind ≠ .template)
    (hx : x ∉ c.isolated) (hparent : c.parent = some parent) :
    a.Clear x id top ↔ a.Clear x parent top := by
  constructor
  · rintro ⟨hsees, d, hd, hend, hx'⟩
    obtain rfl | ⟨parent', hparent', -, -, hup⟩ := hsees.step hc
    · rw [hc] at hd
      cases hd
      exact absurd hend (not_or_intro hid hkind)
    · rw [hparent] at hparent'
      cases hparent'
      exact ⟨hup, d, hd, hend, hx'⟩
  · rintro ⟨hup, hend⟩
    exact ⟨.up hc hkind hx hparent hup, hend⟩

end Arena

namespace Container.Work

variable {a : Arena} {name : String} {id : Nat} {c : Container}

/-- Hoisting a name records it where a clear way up ends, or does nothing. -/
lemma hoistName_on {n : Nat} (name : String) (ha : a.Climbs) (hn : id < n)
    (hc : a.get? id = some c) :
    (∃ top, isDenied name = false ∧ (∀ t, a.Clear name id t ↔ t = top) ∧
      (hoistName name n id).on a = (.ok (), a.update top (·.addReactive name))) ∨
    ((isDenied name = true ∨ ∀ t, ¬ a.Clear name id t) ∧
    (hoistName name n id).on a = (.ok (), a)) := by
  induction n generalizing id c with
  | zero => cases hn
  | succ n ih =>
    have hcontainer : (container id).on a = (.ok c, a) := by rw [on_container, hc]; rfl
    rw [hoistName]
    by_cases hdenied : isDenied name = true
    · rw [if_pos hdenied]
      exact .inr ⟨.inl hdenied, rfl⟩
    rw [if_neg hdenied, on_bind hcontainer]
    by_cases hx : name ∈ c.isolated
    · rw [if_pos (List.contains_iff_mem.2 hx)]
      exact .inr ⟨.inr fun t => Arena.not_clear_of_isolated hc hx, rfl⟩
    rw [if_neg (mt List.contains_iff_mem.1 hx)]
    by_cases hend : id = 0 ∨ c.kind = .template
    · rw [if_pos ((ha.isBoundary_iff hc).2 hend)]
      exact .inl ⟨id, by simpa using hdenied, fun t => ha.clear_end hc hend hx, on_update id _ a⟩
    rw [if_neg (mt (ha.isBoundary_iff hc).1 hend)]
    obtain ⟨hid, hkind⟩ := not_or.1 hend
    cases hparent : c.parent with
    | none => exact absurd ((ha.rooted id c hc).1 hparent) hid
    | some parent =>
      have hlt := ha.parent_lt hc parent hparent
      obtain ⟨hsize, -⟩ := Array.getElem?_eq_some_iff.1 hc
      simp only [Arena.clear_up hc hid hkind hx hparent]
      exact ih (Nat.lt_of_lt_of_le hlt (Nat.le_of_lt_succ hn))
        (Array.getElem?_eq_getElem (Nat.lt_trans hlt hsize))

end Container.Work

namespace Arena

variable {a b m : Arena} {x name : String} {id top : Nat} {c : Container}
  {P Q : Nat → String → Prop}

/-! ### What is recorded -/

/-- Exactly the names that `P` says are recorded in addition, and no name for the second time. -/
structure Noted (P : Nat → String → Prop) (a b : Arena) : Prop where
  nodup : ∀ id, (a.reactiveAt id).Nodup → (b.reactiveAt id).Nodup
  mem : ∀ id x, x ∈ b.reactiveAt id ↔ x ∈ a.reactiveAt id ∨ P id x

lemma noted_of_eq (h : ∀ id, b.reactiveAt id = a.reactiveAt id) : Noted (fun _ _ => False) a b :=
  ⟨fun id hnodup => (h id).symm ▸ hnodup, fun id x => by rw [h id, or_false]⟩

lemma Noted.congr (h : Noted P a b) (hPQ : ∀ id x, P id x ↔ Q id x) : Noted Q a b :=
  ⟨h.nodup, fun id x => by rw [h.mem, hPQ]⟩

lemma Noted.trans (h : Noted P a m) (h' : Noted Q m b) : Noted (fun id x => P id x ∨ Q id x) a b :=
  ⟨fun id hnodup => h'.nodup id (h.nodup id hnodup), fun id x => by rw [h'.mem, h.mem, or_assoc]⟩

lemma Noted.of_eq {b' : Arena} (h : Noted P a b) (heq : ∀ id, b'.reactiveAt id = b.reactiveAt id) :
    Noted P a b' :=
  (h.trans (noted_of_eq heq)).congr fun _ _ => iff_of_eq (or_false _)

lemma reactiveAt_of_get? (hc : a.get? id = some c) : a.reactiveAt id = c.reactive := by
  rw [reactiveAt, hc]
  rfl

lemma noted_addReactive (hc : a.get? top = some c) (name : String) :
    Noted (fun id x => id = top ∧ x = name ∧ isDenied x = false) a
    (a.update top (·.addReactive name)) := by
  have hother : ∀ id, id ≠ top → (a.update top (·.addReactive name)).reactiveAt id =
      a.reactiveAt id := by
    intro id hid
    rw [reactiveAt, get?_update, if_neg (Ne.symm hid)]
    rfl
  have hhere : (a.update top (·.addReactive name)).reactiveAt top =
      (c.addReactive name).reactive := by
    rw [reactiveAt_of_get? (get?_update_self hc)]
  have hbefore := reactiveAt_of_get? hc
  refine ⟨fun id hnodup => ?_, fun id x => ?_⟩
  · by_cases hid : id = top
    · subst hid
      rw [hbefore] at hnodup
      rw [hhere, addReactive]
      split
      · exact hnodup
      · next hnew =>
        simp only [Bool.or_eq_true, List.contains_iff_mem, not_or] at hnew
        refine List.nodup_append.2 ⟨hnodup, List.pairwise_singleton _ name, fun x hx y hy heq => ?_⟩
        exact hnew.2 (List.mem_singleton.1 hy ▸ heq ▸ hx)
    · rwa [hother id hid]
  · by_cases hid : id = top
    · subst hid
      rw [hhere, hbefore, addReactive]
      split
      · next hold =>
        simp only [Bool.or_eq_true, List.contains_iff_mem] at hold
        refine ⟨.inl, fun h => h.elim (fun hx => hx) ?_⟩
        rintro ⟨-, rfl, hdenied⟩
        exact hold.resolve_left (by simp [hdenied])
      · next hnew =>
        simp only [Bool.or_eq_true, List.contains_iff_mem, not_or, Bool.not_eq_true] at hnew
        simp only [List.mem_append, List.mem_singleton, true_and]
        exact or_congr_right ⟨fun h => ⟨h, h ▸ hnew.1⟩, And.left⟩
    · rw [hother id hid]
      exact ⟨.inl, fun h => h.elim (fun hx => hx) fun h => absurd h.1 hid⟩

lemma sameWay_addReactive (a : Arena) (top : Nat) (name : String) :
    SameWay a (a.update top (·.addReactive name)) := by
  refine map_view_update _ (fun c => ?_) a top
  rw [addReactive]
  split <;> rfl

/-- Work that records nothing. -/
def quietDrift : Drift := viewDrift Container.reactive fun _ _ => rfl

end Arena

namespace Container.Work

variable {a b m : Arena} {α β : Type} {id : Nat} {c : Container} {s : Stored} {p : Program}
  {e : Entry}
  {P : Nat → String → Prop}

lemma quiet_of_moves {w : Work α} {F : α → List Stored} {known : List Stored}
    (h : Moves Arena.quietDrift known w F) (a : Arena) (id : Nat) :
    (w.on a).2.reactiveAt id = a.reactiveAt id :=
  congrArg (Option.getD · []) ((h a trivial fun _ _ => trivial).2.1 id)

/-- What comes after the names were recorded leaves them alone. -/
lemma noted_then {w : Work α} {x : α} {g : α → Work β} {known : List Stored} {F : β → List Stored}
    (hrun : w.on a = (.ok x, b)) (hb : Arena.Noted P a b)
    (hg : Moves Arena.quietDrift known (g x) F) :
    Arena.Noted P a ((w >>= g).on a).2 := by
  rw [on_bind hrun]
  exact hb.of_eq (quiet_of_moves hg b)

lemma noted_hoistName {n : Nat} (name : String) (ha : a.Climbs) (hn : id < n)
    (hc : a.get? id = some c) :
    ∃ b, (hoistName name n id).on a = (.ok (), b) ∧ Arena.SameWay a b ∧
      Arena.Noted (fun top x => x = name ∧ isDenied x = false ∧ a.Clear x id top) a b := by
  obtain ⟨top, hdenied, hclear, hrun⟩ | ⟨hnone, hrun⟩ := hoistName_on name ha hn hc
  · obtain ⟨-, d, hd, -⟩ := (hclear top).2 rfl
    refine ⟨_, hrun, Arena.sameWay_addReactive a top name, ?_⟩
    refine (Arena.noted_addReactive hd name).congr fun t x => ⟨?_, ?_⟩
    · rintro ⟨rfl, rfl, hx⟩
      exact ⟨rfl, hx, (hclear t).2 rfl⟩
    · rintro ⟨rfl, hx, ht⟩
      exact ⟨(hclear t).1 ht, rfl, hx⟩
  · refine ⟨a, hrun, .refl a, (Arena.noted_of_eq fun _ => rfl).congr fun t x => ⟨False.elim, ?_⟩⟩
    rintro ⟨rfl, hx, ht⟩
    rcases hnone with hdenied | hnone
    · rw [hx] at hdenied
      cases hdenied
    · exact hnone t ht

/-- The names of a program are recorded where the ways up from it end. -/
lemma noted_hoistNames (names : List String) (ha : a.Climbs) (hc : a.get? id = some c) :
    ∃ b, (hoistNames id names).on a = (.ok (), b) ∧ Arena.SameWay a b ∧
      Arena.Noted (fun top x => x ∈ names ∧ isDenied x = false ∧ a.Clear x id top) a b := by
  induction names generalizing a c with
  | nil =>
    refine ⟨a, rfl, .refl a, (Arena.noted_of_eq fun _ => rfl).congr fun top x => ?_⟩
    exact ⟨False.elim, fun h => absurd h.1 List.not_mem_nil⟩
  | cons name names ih =>
    obtain ⟨m, hrun, hway, hnoted⟩ := noted_hoistName name ha (Nat.lt_succ_self id) hc
    obtain ⟨d, hd, -⟩ := hway.get? hc
    obtain ⟨b, hrun', hway', hnoted'⟩ := ih (ha.of_sameWay hway) hd
    refine ⟨b, (on_bind hrun _).trans hrun', hway.trans hway', (hnoted.trans hnoted').congr
      fun top x => ?_⟩
    rw [hway.clear_iff, List.mem_cons, or_and_right]

/-- The names of a loop are recorded at the loop. -/
lemma noted_addAll (names : List String) (hc : a.get? id = some c) :
    ∃ b, (names.forM fun name => update id (·.addReactive name)).on a = (.ok (), b) ∧
      Arena.Noted (fun top x => x ∈ names ∧ isDenied x = false ∧ id = top) a b := by
  induction names generalizing a c with
  | nil =>
    refine ⟨a, rfl, (Arena.noted_of_eq fun _ => rfl).congr fun top x => ?_⟩
    exact ⟨False.elim, fun h => absurd h.1 List.not_mem_nil⟩
  | cons name names ih =>
    have hnoted := Arena.noted_addReactive hc name
    obtain ⟨b, hrun, hnoted'⟩ := ih (Arena.get?_update_self (f := (·.addReactive name)) hc)
    refine ⟨b, (on_bind (on_update id _ a) _).trans hrun, (hnoted.trans hnoted').congr fun top x =>
      ?_⟩
    rw [List.mem_cons, or_and_right]
    refine or_congr_left ⟨?_, ?_⟩
    · rintro ⟨rfl, hx, hdenied⟩
      exact ⟨hx, hdenied, rfl⟩
    · rintro ⟨hx, hdenied, rfl⟩
      exact ⟨rfl, hx, hdenied⟩

/-- What follows for the expression of a loop once its names are recorded: its paths are watched,
and its names isolated. -/
def trackLoop (id : Nat) (s : Stored) (names : List String) : Work Unit := do
  let parts ← pieces s []
  update id (·.isolate names)
  parts.forM fun piece => update id (·.accept ⟨piece, .iterator, .include_, true, id, id⟩)
  update id (·.accept ⟨s, .iterator, .exclude, false, id, id⟩)

lemma registerIterator_eq (id : Nat) (s : Stored) (names : List String) :
    registerIterator id s names = (do
      hoistNames id names
      names.forM fun name => update id (·.addReactive name)
      trackLoop id s names) := by
  simp only [registerIterator, trackLoop, forM_eq_forIn]

lemma moves_trackLoop (names : List String) :
    Moves Arena.quietDrift [s] (trackLoop id s names) fun _ => [] := by
  refine moves_bind (moves_pieces [] fun _ _ _ _ => trivial) fun parts => ?_
  refine moves_then (moves_update fun _ _ => Arena.allows_view fun c => ?_) fun _ => ?_
  · obtain ⟨isolated, heq, -⟩ := c.isolate_eq names
    rw [heq]
  refine moves_then (moves_forM fun piece hpiece => ?_) fun _ => ?_
  · exact moves_accept (List.mem_append_left _ hpiece)
  · exact moves_accept (List.mem_append_right _ (List.mem_singleton_self s))

lemma noted_registerIterator (names : List String) (ha : a.Climbs) (hc : a.get? id = some c) :
    Arena.Noted (fun top x => x ∈ names ∧ isDenied x = false ∧ (a.Clear x id top ∨ id = top)) a
      ((registerIterator id s names).on a).2 := by
  obtain ⟨m, hrun, hway, hnoted⟩ := noted_hoistNames names ha hc
  obtain ⟨d, hd, -⟩ := hway.get? hc
  obtain ⟨b, hrun', hnoted'⟩ := noted_addAll names hd
  rw [registerIterator_eq, on_bind hrun]
  have hrest := noted_then (g := fun _ => trackLoop id s names) hrun' hnoted'
    (moves_trackLoop names)
  refine (hnoted.trans hrest).congr fun top x => ?_
  rw [← and_or_left, ← and_or_left]

/-- Where a program is only told upwards and placed, its names are recorded upwards. -/
lemma noted_names {w : Work Unit} {known : List Stored} (names : List String) (ha : a.Climbs)
    (hc : a.get? id = some c) (hw : Moves Arena.quietDrift known w fun _ => []) :
    Arena.Noted (fun top x => x ∈ names ∧ isDenied x = false ∧ a.Clear x id top) a
      ((do hoistNames id names; w : Work Unit).on a).2 := by
  obtain ⟨b, hrun, -, hnoted⟩ := noted_hoistNames names ha hc
  exact noted_then hrun hnoted hw

lemma moves_placeAll (ps : List Program) :
    Moves Arena.quietDrift [] (do
      for q in ps do
        let t ← intern q
        place id ⟨t, .bind, .include_, false, id, id⟩) fun _ => [] := by
  refine moves_then (moves_forIn fun q _ => ?_) fun _ => moves_pure (List.nil_subset _)
  refine moves_bind (moves_intern trivial) fun t => ?_
  exact moves_then (moves_deliver List.mem_cons_self) fun _ => moves_pure (List.nil_subset _)

/-- **What registering records.** A name of the program that can be reactive is recorded where the
clear way up from the container ends; the names of the expression of a loop are recorded at the
loop, too. -/
theorem noted_register (ha : a.Climbs) (hsound : a.Sound) (hp : p.IsRead) (hc : a.get? id = some c)
    (role : Role) :
    Arena.Noted (fun top x => x ∈ p.identifiers ∧ isDenied x = false ∧ a.Records x id role top) a
      ((register id p role).on a).2 := by
  obtain ⟨hs, -⟩ := hsound.table.intern hp
  have hsame : ∀ x, x ∈ (a.table.intern p).1.program.identifiers ↔ x ∈ p.identifiers := fun x =>
    hs.isRead.mem_identifiers_of_text hp (hs.text_eq.symm.trans (a.table.text_intern p))
  have hway : Arena.SameWay a { a with table := (a.table.intern p).2 } := fun _ => rfl
  have hid : id < a.containers.size := (Array.getElem?_eq_some_iff.1 hc).1
  have ha' := ha.of_sameWay hway
  rw [register, on_bind (on_intern p a)]
  generalize (a.table.intern p).1 = s at hsame ⊢
  generalize hb : ({ a with table := (a.table.intern p).2 } : Arena) = b at hway ha' ⊢
  have hc' : b.get? id = some c := hb ▸ hc
  have hsame_id : ∀ id, b.reactiveAt id = a.reactiveAt id := fun id => hb ▸ rfl
  -- all roles but that of a loop record names at the end of the way up only
  have hup : ∀ {w : Work Unit} {known : List Stored}, Moves Arena.quietDrift known w (fun _ => []) →
      role ∈ Role.known → role ≠ .iterator →
      Arena.Noted (fun top x => x ∈ p.identifiers ∧ isDenied x = false ∧ a.Records x id role top) a
        ((do hoistNames id s.program.identifiers; w : Work Unit).on b).2 := by
    intro w known hw hknown hloop
    have hnoted := (Arena.noted_of_eq hsame_id).trans (noted_names s.program.identifiers ha' hc' hw)
    refine hnoted.congr fun top x => ?_
    rw [false_or, hsame, hway.clear_iff]
    refine and_congr_right fun _ => and_congr_right fun _ =>
      ⟨fun h => ⟨hid, hknown, .inl h⟩, fun h => ?_⟩
    exact h.way.resolve_right fun h => hloop h.1
  have hplace : ∀ e : Entry, Moves Arena.quietDrift [e.stored] (place id e) fun _ => [] := fun e =>
    moves_deliver (List.mem_singleton_self _)
  cases role with
  | scope => exact hup (hplace _) (by decide) (by decide)
  | bind =>
    cases h : s.program.bindPrograms with
    | error f => exact @hup _ [] (moves_throw f) (by decide) (by decide)
    | ok ps => exact hup (moves_placeAll ps) (by decide) (by decide)
  | event =>
    have hnoted := @hup (pure ()) [] (moves_pure (List.nil_subset _)) (by decide) (by decide)
    rwa [bind_pure_unit] at hnoted
  | iterator =>
    have hnoted := (Arena.noted_of_eq hsame_id).trans
      (noted_registerIterator (s := s) s.program.identifiers ha' hc')
    refine hnoted.congr fun top x => ?_
    rw [false_or, hsame, hway.clear_iff]
    refine and_congr_right fun _ => and_congr_right fun _ =>
      ⟨fun h => ⟨hid, by decide, ?_⟩, fun h => ?_⟩
    · exact h.imp_right fun h => ⟨rfl, h⟩
    · exact h.way.imp_right And.right
  | unknown code =>
    refine (Arena.noted_of_eq hsame_id).congr fun top x => ⟨False.elim, fun h => ?_⟩
    have hknown := h.2.2.known
    simp [Role.known] at hknown
  | _ =>
    simp only
    split
    · next hempty =>
      refine (Arena.noted_of_eq hsame_id).congr fun top x => ⟨False.elim, fun h => ?_⟩
      rw [← hsame, List.isEmpty_iff.1 hempty] at h
      cases h.1
    · exact hup (hplace _) (by decide) (by decide)

end Container.Work

namespace Arena

/-! ### What is recorded after many calls -/

/-- A call registers a program with the name `x` at a container, and that records it at `top`. -/
def Call.Tells (a : Arena) (x : String) (top : Nat) : Call → Prop
  | .register at_ p role => x ∈ p.identifiers ∧ a.Records x at_ role top
  | _ => False

lemma reactiveAt_spawn (a : Arena) (parent : Nat) (kind : Kind) (name : String) (id : Nat) :
    (a.spawn parent kind name).2.reactiveAt id = a.reactiveAt id := by
  have hview := map_view_update Container.reactive
    (f := fun c => { c with children := c.children ++ [a.containers.size] }) (fun _ =>
      rfl) a parent id
  rw [reactiveAt, get?, spawn, Array.getElem?_push]
  split
  · next hid =>
    have hnone : a.get? id = none := Array.getElem?_eq_none (by
      rw [hid]
      exact Nat.le_of_eq Array.size_modify.symm)
    rw [reactiveAt, hnone]
    rfl
  · exact congrArg (Option.getD · []) hview

/-- One call. -/
lemma noted_call {call : Call} {a : Arena} (hcall : call.Builds) (ha : a.Climbs)
    (hsound : a.Sound) :
    Noted (fun top x => isDenied x = false ∧ call.Tells a x top) a (a.call call) := by
  rw [Arena.call]
  split
  · next hids =>
    cases call with
    | spawn parent kind name =>
      refine (noted_of_eq (reactiveAt_spawn a parent kind name)).congr fun top x => ?_
      exact ⟨False.elim, And.right⟩
    | isolate at_ names =>
      have hview : ∀ c : Container, (c.isolate names).reactive = c.reactive := fun c => by
        obtain ⟨isolated, heq, -⟩ := c.isolate_eq names
        rw [heq]
      refine (noted_of_eq fun id => ?_).congr fun top x => ⟨False.elim, And.right⟩
      exact congrArg (Option.getD · []) (map_view_update Container.reactive hview a at_ id)
    | register at_ p role =>
      have hid : at_ < a.containers.size := hids at_ List.mem_cons_self
      refine (Work.noted_register ha hsound hcall (Array.getElem?_eq_getElem hid) role).congr
        fun top x => ?_
      exact and_left_comm
    | _ => cases hcall
  · next hids =>
    refine (noted_of_eq fun _ => rfl).congr fun top x => ⟨False.elim, fun h => hids ?_⟩
    cases call with
    | register at_ p role => exact fun id hid => List.mem_singleton.1 hid ▸ h.2.2.exists_
    | _ => exact absurd h.2 id

/-- After calls that build, the reactive names are those that one of the calls told, each once. -/
lemma mem_reactiveAt {calls : List Call} (hcalls : ∀ c ∈ calls, c.Builds) (top : Nat) :
    ((start.after calls).reactiveAt top).Nodup ∧ ∀ x, x ∈ (start.after calls).reactiveAt top ↔
      ∃ before, ∃ call : Call, ∃ rest, calls = before ++ call :: rest ∧ isDenied x = false ∧
        call.Tells (start.after before) x top := by
  induction calls using List.reverseRecOn with
  | nil =>
    have hstart : start.reactiveAt top = [] := by
      rw [reactiveAt]
      cases hc : start.get? top with
      | none => rfl
      | some c =>
        obtain ⟨htop, rfl⟩ := Array.getElem?_eq_some_iff.1 hc
        obtain rfl : top = 0 := by simpa [start] using htop
        rfl
    rw [after, List.foldl_nil, hstart]
    refine ⟨List.nodup_nil, fun x => ⟨fun h => absurd h List.not_mem_nil, ?_⟩⟩
    rintro ⟨before, call, rest, h, -⟩
    simp at h
  | append_singleton calls call ih =>
    have hcalls' : ∀ c ∈ calls, c.Builds := fun c hc => hcalls c (List.mem_append_left _ hc)
    have hsound := (reachable_after hcalls').sound
    have hclimbs : (start.after calls).Climbs := ⟨hsound.parent_lt, rooted_after hcalls'⟩
    have hcall := noted_call (hcalls call (by simp)) hclimbs hsound
    obtain ⟨hnodup, hmem⟩ := ih hcalls'
    rw [after_snoc]
    refine ⟨hcall.nodup top hnodup, fun x => ?_⟩
    rw [hcall.mem, hmem]
    constructor
    · rintro (⟨before, c, rest, rfl, h⟩ | h)
      · exact ⟨before, c, rest ++ [call], by simp, h⟩
      · exact ⟨calls, call, [], rfl, h⟩
    · rintro ⟨before, c, rest, heq, h⟩
      -- the call is the last one or stands among those before
      rcases List.eq_nil_or_concat rest with rfl | ⟨rest, last, rfl⟩
      · obtain ⟨rfl, hlast⟩ := List.append_inj' heq rfl
        cases hlast
        exact .inr h
      · have heq' : calls ++ [call] = (before ++ c :: rest) ++ [last] := by simpa using heq
        obtain ⟨rfl, -⟩ := List.append_inj' heq' rfl
        exact .inl ⟨before, c, rest, rfl, h⟩

/-- **Which names are reactive.** After any calls that add containers, isolate names and register
programs, exactly those names are recorded at a container that are not denied and belong to a
program that was registered, in a known role, where the way up to this container was clear at that
time, or at the container itself for a loop.  No name is recorded twice. -/
theorem mem_reactiveAt_iff {calls : List Call} (hcalls : ∀ c ∈ calls, c.Builds) (top : Nat) :
    ((start.after calls).reactiveAt top).Nodup ∧ ∀ x, x ∈ (start.after calls).reactiveAt top ↔
      isDenied x = false ∧ ∃ before at_ p role rest, calls = before ++ .register at_ p role ::
      rest ∧
        x ∈ p.identifiers ∧ (start.after before).Records x at_ role top := by
  obtain ⟨hnodup, hmem⟩ := mem_reactiveAt hcalls top
  refine ⟨hnodup, fun x => (hmem x).trans ⟨?_, ?_⟩⟩
  · rintro ⟨before, call, rest, heq, hdenied, htells⟩
    cases call with
    | register at_ p role => exact ⟨hdenied, before, at_, p, role, rest, heq, htells⟩
    | _ => cases htells
  · rintro ⟨hdenied, before, at_, p, role, rest, heq, htells⟩
    exact ⟨before, _, rest, heq, hdenied, htells⟩

/-- Calls for an expression in a loop whose items are called `x`. -/
def loopCalls (p : Program) : List Call :=
  [.spawn 0 .cycle "", .isolate 1 ["x"], .register 1 p .simple]

/-- An expression in the loop that reads `y` makes it reactive in the root, and `x` nowhere. -/
theorem mem_reactiveAt_iff_loop : ∃ p, Program.parse "f(x.a, y.b)" = .ok p ∧
    (∀ c ∈ loopCalls p, c.Builds) ∧ "y" ∈ (start.after (loopCalls p)).reactiveAt 0 ∧
    ∀ top, "x" ∉ (start.after (loopCalls p)).reactiveAt top := by
  have hread : (Program.parse "f(x.a, y.b)").toOption.map Program.identifiers =
      some ["f", "x", "y"] := by decide +kernel
  obtain ⟨p, hp, hnames⟩ := eq_ok_of_toOption hread
  have hbuilds : ∀ c ∈ loopCalls p, c.Builds := by
    simp only [loopCalls, List.forall_mem_cons]
    exact ⟨trivial, trivial, ⟨_, hp⟩, by simp⟩
  have hloop : start.after [.spawn 0 .cycle "", .isolate 1 ["x"]] = loopExample := rfl
  have hget : loopExample.get? 1 =
    some { id := 1, parent := some 0, kind := .cycle, isolated := ["x"] } := rfl
  refine ⟨p, hp, hbuilds, ?_, fun top hx => ?_⟩
  · refine ((mem_reactiveAt_iff hbuilds 0).2 "y").2
      ⟨by decide, [.spawn 0 .cycle "", .isolate 1 ["x"]], 1, p, .simple, [],
        rfl, by simp [hnames], ?_⟩
    rw [hloop]
    refine ⟨by decide, by decide, .inl ⟨?_, _, rfl, .inl rfl, by decide⟩⟩
    exact .up hget (by decide) (by decide) rfl (.here rfl)
  · obtain ⟨-, before, at_, q, role, rest, heq, -, hrecords⟩ :=
      ((mem_reactiveAt_iff hbuilds top).2 "x").1 hx
    obtain ⟨rfl, rfl, rfl⟩ : before = [.spawn 0 .cycle "", .isolate 1 ["x"]] ∧ at_ = 1 ∧
        role = .simple := by
      rcases before with _ | ⟨_, _ | ⟨_, _ | ⟨_, before⟩⟩⟩
      all_goals simp [loopCalls] at heq
      obtain ⟨rfl, rfl, ⟨rfl, -, rfl⟩, -⟩ := heq
      exact ⟨rfl, rfl, rfl⟩
    rcases hrecords.way with hclear | ⟨hrole, -⟩
    · exact not_clear_of_isolated hget (by decide) (hloop ▸ hclear)
    · cases hrole

/-- Calls for an expression in a container below the root that is called global. -/
def globalCalls (p : Program) : List Call := [.spawn 0 .global "", .register 1 p .simple]

/-- A container below the root that is called global is no end of the way: an expression in it makes
its name reactive in the root, although nothing isolates the name. -/
theorem global_below_root : ∃ p, Program.parse "x" = .ok p ∧ (∀ c ∈ globalCalls p, c.Builds) ∧
    ∃ c, (start.after (globalCalls p)).get? 1 = some c ∧ c.kind = .global ∧ c.isolated = [] ∧
      "x" ∈ p.identifiers ∧ isDenied "x" = false ∧ Role.simple ∈ Role.known ∧ c.reactive = [] ∧
      (start.after (globalCalls p)).reactiveAt 0 = ["x"] := by
  have hnames : (Program.parse "x").toOption.map Program.identifiers = some ["x"] := by
    decide +kernel
  have hroot : (Program.parse "x").toOption.map (fun p =>
    (start.after (globalCalls p)).reactiveAt 0) =
      some ["x"] := by decide +kernel
  have hbelow : (Program.parse "x").toOption.map (fun p =>
      ((start.after (globalCalls p)).get? 1).map fun c => (c.kind, c.isolated, c.reactive)) =
      some (some (.global, [], [])) := by decide +kernel
  obtain ⟨p, hp, hnames⟩ := eq_ok_of_toOption hnames
  rw [hp] at hroot hbelow
  have hbuilds : ∀ c ∈ globalCalls p, c.Builds := by
    simp only [globalCalls, List.forall_mem_cons]
    exact ⟨trivial, ⟨_, hp⟩, by simp⟩
  obtain ⟨c, hc, hseen⟩ := Option.map_eq_some_iff.1 (Option.some.inj hbelow)
  simp only [Prod.mk.injEq] at hseen
  exact ⟨p, hp, hbuilds, c, hc, hseen.1,
    hseen.2.1, by simp [hnames], by decide, by decide, hseen.2.2,
    Option.some.inj hroot⟩

end Arena

end Trellis
