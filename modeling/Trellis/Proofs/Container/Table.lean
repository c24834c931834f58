/-
The table of programs.

Programs are never taken out of a table, so what a table holds on the way it holds at the end.  With
the final table `final` fixed, `Work.Holds` says of work on containers that the table only grows,
and that, as long as it stays below `final`, containers only get programs that `final` holds.  Every
program that was interned is then the one program of its text.

A slot is the position of a text in a list that only grows at its end and has no text twice, so a
slot is the slot of one text and stays it (`Table.Extends.slot?`).  A container asks for the slots
of the programs that it watches, one for each text (`nodup_watchedEntries`), and sorts them
(`Work.on_watched`).
-/
import Mathlib.Data.List.Nodup
import Trellis.Proofs.Container.Drift

namespace Trellis.Container

/-! ### What a table holds -/

variable {t u : Table} {s : Stored} {p : Program} {text : String}

namespace Table

/-- Nothing is taken out of a table, and what is added comes later. -/
def Below (t u : Table) : Prop := t.stored <+: u.stored

lemma Below.refl (t : Table) : t.Below t := List.prefix_refl _

lemma Below.trans {v : Table} (h : t.Below u) (h' : u.Below v) : t.Below v :=
  List.IsPrefix.trans h h'

/-- A table has this very program under its text, which is the text of the program. -/
structure Has (t : Table) (s : Stored) : Prop where
  find? : t.find? s.text = some s
  text_eq : s.text = s.program.text

lemma find?_of_below (h : t.Below u) (hs : t.find? text = some s) : u.find? text = some s := by
  obtain ⟨rest, hrest⟩ := h
  rw [Table.find?] at hs ⊢
  rw [← hrest, List.find?_append, hs, Option.some_or]

lemma Has.mono (h : t.Has s) (htu : t.Below u) : u.Has s := ⟨find?_of_below htu h.find?, h.text_eq⟩

/-- The program is the one that is stored under its text. -/
def Knows (t : Table) (p : Program) : Prop := t.Has ⟨p.text, p⟩

lemma Has.knows (h : t.Has s) : t.Knows s.program := by
  obtain ⟨text, program⟩ := s
  obtain rfl : text = program.text := h.text_eq
  exact h

lemma Knows.find? (h : t.Knows p) : t.find? p.text = some ⟨p.text, p⟩ := Has.find? h

lemma Knows.intern (h : t.Knows p) : t.intern p = (⟨p.text, p⟩, t) := by rw [Table.intern, h.find?]

/-- All programs are kept under their own texts. -/
def Own (t : Table) : Prop := ∀ s ∈ t.stored, s.text = s.program.text

lemma has_of_find? (ht : t.Own) (h : t.find? text = some s) : t.Has s ∧ s.text = text := by
  obtain ⟨hmem, rfl⟩ := mem_of_find? h
  exact ⟨⟨h, ht s hmem⟩, rfl⟩

lemma below_intern (t : Table) (p : Program) : t.Below (t.intern p).2 := by
  unfold intern
  split
  · exact .refl t
  · exact List.prefix_append _ _

lemma Own.intern (ht : t.Own) (p : Program) : (t.intern p).2.Own := by
  unfold Table.intern
  split
  · exact ht
  · intro s hs
    rcases List.mem_append.1 hs with hs | hs
    · exact ht s hs
    · rw [List.mem_singleton.1 hs]

lemma Own.has_intern (ht : t.Own) (p : Program) : (t.intern p).2.Has (t.intern p).1 := by
  unfold Table.intern
  split
  · next s hs => exact (has_of_find? ht hs).1
  · next hs =>
    refine ⟨?_, rfl⟩
    rw [Table.find?] at hs ⊢
    rw [List.find?_append, hs, Option.none_or]
    simp

lemma slots_intern (t : Table) (p : Program) : (t.intern p).2.slots = t.slots := by
  unfold intern
  split <;> rfl

end Table

end Trellis.Container

namespace Trellis

open Container

/-- All programs of an arena are kept under their own texts and none has a slot yet, and containers
have programs of the final table only. -/
structure Arena.Held (final : Table) (a : Arena) : Prop where
  own : a.table.Own
  slots : a.table.slots = []
  programs : ∀ {id c}, a.get? id = some c → ∀ e ∈ c.programs, final.Has e.stored

namespace Arena

variable {a : Arena} {final : Table} {H : Prop}

/-- A container that changes goes on having programs of the final table only. -/
lemma Held.update {f : Container → Container} (ha : a.Held final) (id : Nat)
    (h : ∀ c : Container, (∀ e ∈ c.programs, final.Has e.stored) → ∀ e ∈ (f c).programs,
    final.Has e.stored) :
    (a.update id f).Held final := by
  refine ⟨ha.own, ha.slots, fun {id' c} hc => ?_⟩
  rw [get?_update] at hc
  split at hc
  · obtain ⟨c', hc', rfl⟩ := Option.map_eq_some_iff.1 hc
    exact h c' (ha.programs hc')
  · exact ha.programs hc

/-- The table grows.  As long as it stays below the final one, containers have programs of the final
table only, if they did under the assumption `H`. -/
def heldDrift (final : Table) (H : Prop) : Drift where
  Fit a := H → a.table.Below final → a.Held final
  Fine _ := True
  Known a s := H → a.table.Below final → final.Has s
  Becomes a b := a.table.Below b.table
  refl a := .refl a.table
  trans := .trans
  known_of_becomes hbelow hs h hfinal := hs h (hbelow.trans hfinal)
  fine_of_path _ _ _ := trivial
  fine_of_bind _ _ _ := trivial
  known_of_find? ha hs h hfinal := (Table.has_of_find? (ha h hfinal).own hs).1.mono hfinal
  known_entry ha hc e he h hfinal := (ha h hfinal).programs hc e he
  intern {a p} ha _ := by
    have hbelow := a.table.below_intern p
    refine ⟨fun h hfinal => ?_, hbelow, fun h hfinal => ?_⟩
    · have hheld := ha h (hbelow.trans hfinal)
      exact ⟨hheld.own.intern p, (a.table.slots_intern p).trans hheld.slots, hheld.programs⟩
    · exact ((ha h (hbelow.trans hfinal)).own.has_intern p).mono hfinal
  accept id ha he := by
    refine ⟨fun h hfinal => (ha h hfinal).update id fun c hc d hd => ?_, .refl _⟩
    obtain hstored | ⟨d', hd', hstored⟩ := stored_acceptEntry hd
    · rw [hstored]
      exact he h hfinal
    · rw [hstored]
      exact hc d' hd'

lemma allows_of_programs {f : Container → Container} (h : ∀ c, (f c).programs = c.programs) :
    (heldDrift final H).Allows f :=
  fun _ id ha => ⟨fun hH hfinal => (ha hH hfinal).update id fun c hc => by rwa [h c], .refl _⟩

end Arena

namespace Container.Work

variable {α : Type} {final : Table} {K : Prop} {Q : α → Prop}

/-- The table grows.  If it stays below the final one, and `K` is known, containers go on having
programs of the final table only, and `Q` holds of the result. -/
def Holds (final : Table) (K : Prop) (w : Work α) (Q : α → Prop) : Prop :=
  ∀ a : Arena, a.table.Below (w.on a).2.table ∧
    (K → (w.on a).2.table.Below final → a.Held final →
      (w.on a).2.Held final ∧ ∀ x, (w.on a).1 = .ok x → Q x)

/-- Work holds what the drift to the final table keeps. -/
lemma holds_of_moves {w : Work α} {F : α → List Stored}
    (h : ∀ H, Moves (Arena.heldDrift final H) [] w F) :
    Holds final K w fun _ => True := by
  intro a
  obtain ⟨hheld, hbelow, -⟩ := h (a.Held final) a (fun ha _ => ha) (List.forall_mem_nil _)
  exact ⟨hbelow, fun _ hfinal ha => ⟨hheld ha hfinal, fun _ _ => trivial⟩⟩

lemma holds_isolate {id : Nat} (names : List String) :
    Holds final K (update id (·.isolate names)) fun _ => True :=
  holds_of_moves fun _ => moves_update fun _ _ =>
    Arena.allows_of_programs (programs_isolate · names)

lemma holds_intern (p : Program) : Holds final K (intern p) fun s => final.Has s ∧
    s.text = p.text := by
  intro a
  rw [on_intern]
  refine ⟨a.table.below_intern p, fun _ hfinal ha => ?_⟩
  refine ⟨⟨ha.own.intern p, (a.table.slots_intern p).trans ha.slots, ha.programs⟩, fun _ hy => ?_⟩
  cases hy
  exact ⟨(ha.own.has_intern p).mono hfinal, a.table.text_intern p⟩

lemma holds_spawn (parent : Nat) (kind : Kind) (name : String) :
    Holds final K (spawn parent kind name) fun _ => True := by
  intro a
  change Table.Below a.table a.table ∧ _
  refine ⟨.refl _, fun _ _ ha => ⟨⟨ha.own, ha.slots, fun {id c} hc => ?_⟩, fun _ _ => trivial⟩⟩
  have hparent := ha.update parent (f :=
    fun c => { c with children := c.children ++ [a.containers.size] })
    fun _ h => h
  obtain hc | ⟨-, rfl⟩ := Arena.get?_push hc
  · exact hparent.programs hc
  · exact List.forall_mem_nil _

/-- Registering only ever gives programs of the table to containers. -/
theorem holds_register (id : Nat) (p : Program) (role : Role) :
    Holds final K (register id p role) fun _ => True :=
  holds_of_moves fun _ => moves_register trivial id role
    (fun name => Arena.allows_of_programs (programs_addReactive · name))
    fun _ _ _ _ _ => Arena.allows_of_programs (programs_isolate · _)

/-- Attaching only ever gives programs of the table to containers. -/
theorem holds_attach (id template : Nat) (options : List String) :
    Holds final K (attach id template options) fun _ => True :=
  holds_of_moves fun _ => moves_attach id template options
    (fun name => Arena.allows_of_programs (programs_addReactive · name))
    fun names names' => Arena.allows_of_programs fun c => by rw [programs_isolate, programs_isolate]

end Container.Work

end Trellis

namespace Trellis.Container

/-! ### Positions of texts -/

section

variable {ts us : List String} {x : String} {i : Nat}

lemma getElem?_of_idxOf? (h : ts.idxOf? x = some i) : ts[i]? = some x := by
  obtain ⟨hi, hx, -⟩ := List.idxOf?_eq_some_iff.1 h
  rw [List.getElem?_eq_getElem hi, hx]

lemma idxOf?_of_getElem? (hnodup : ts.Nodup) (h : ts[i]? = some x) : ts.idxOf? x = some i := by
  obtain ⟨hi, hx⟩ := List.getElem?_eq_some_iff.1 h
  refine List.idxOf?_eq_some_iff.2 ⟨hi, hx, fun j hj hjx => ?_⟩
  have hij := hnodup.getElem_inj_iff.1 (hx.trans hjx.symm)
  omega

lemma idxOf?_append (h : ts.idxOf? x = some i) : (ts ++ us).idxOf? x = some i := by
  change (ts ++ us).findIdx? (· == x) = _
  rw [List.findIdx?_append]
  change (ts.idxOf? x).or _ = _
  rw [h, Option.some_or]

lemma idxOf?_append_self (h : x ∉ ts) : (ts ++ [x]).idxOf? x = some ts.length := by
  change (ts ++ [x]).findIdx? (· == x) = _
  rw [List.findIdx?_append]
  change (ts.idxOf? x).or _ = _
  rw [List.idxOf?_eq_none_iff.2 h, Option.none_or]
  simp [List.findIdx?_cons]

lemma getElem?_of_prefix (h : ts <+: us) (hi : ts[i]? = some x) : us[i]? = some x := by
  obtain ⟨rest, rfl⟩ := h
  obtain ⟨hlt, -⟩ := List.getElem?_eq_some_iff.1 hi
  rw [List.getElem?_append_left hlt, hi]

end

/-! ### Giving out slots -/

namespace Table

variable {t u : Table} {s : Stored} {text : String} {i : Nat}

lemma stored_allocate (t : Table) (s : Stored) : (t.allocate s).2.stored = t.stored := by
  unfold allocate
  split <;> rfl

lemma slots_allocate (t : Table) (s : Stored) :
    (t.allocate s).2.slots = if s.text ∈ t.slots then t.slots else t.slots ++ [s.text] := by
  unfold allocate slot?
  split
  · next i hi =>
    have hmem : s.text ∈ t.slots := List.mem_of_getElem? (getElem?_of_idxOf? hi)
    rw [if_pos hmem]
  · next hi => rw [if_neg (List.idxOf?_eq_none_iff.1 hi)]

lemma idxOf?_allocate (t : Table) (s : Stored) :
    (t.allocate s).2.slots.idxOf? s.text = some (t.allocate s).1 := by
  unfold allocate slot?
  split
  · next i hi => exact hi
  · next hi => exact idxOf?_append_self (List.idxOf?_eq_none_iff.1 hi)

/-- A table that has given out more slots, and stores more programs. -/
structure Extends (t u : Table) : Prop where
  below : t.Below u
  slots : t.slots <+: u.slots

lemma Extends.refl (t : Table) : t.Extends t := ⟨.refl t, List.prefix_rfl⟩

lemma Extends.trans {v : Table} (h : t.Extends u) (h' : u.Extends v) : t.Extends v :=
  ⟨h.below.trans h'.below, h.slots.trans h'.slots⟩

lemma extends_intern (t : Table) (p : Program) : t.Extends (t.intern p).2 :=
  ⟨t.below_intern p, t.slots_intern p ▸ List.prefix_rfl⟩

lemma extends_allocate (t : Table) (s : Stored) : t.Extends (t.allocate s).2 := by
  refine ⟨?_, ?_⟩
  · change t.stored <+: (t.allocate s).2.stored
    exact t.stored_allocate s ▸ List.prefix_rfl
  · rw [slots_allocate]
    split
    · exact List.prefix_rfl
    · exact List.prefix_append _ _

/-- A slot that was given out never changes. -/
lemma Extends.slot? (h : t.Extends u) (hi : t.slot? text = some i) : u.slot? text = some i := by
  obtain ⟨rest, hrest⟩ := h.slots
  rw [Table.slot?] at hi ⊢
  rw [← hrest]
  exact idxOf?_append hi

/-- Slots belong to one text each. -/
lemma slot?_inj {text' : String} (h : t.slot? text = some i) (h' : t.slot? text' = some i) :
    text = text' :=
  Option.some.inj ((getElem?_of_idxOf? h).symm.trans (getElem?_of_idxOf? h'))

lemma allocate_of_slot? (h : t.slot? s.text = some i) : t.allocate s = (i, t) := by rw [allocate, h]

/-- The table after stored programs got slots, one after the other. -/
def allocateAll (t : Table) (es : List Entry) : Table :=
  es.foldl (fun t e => (t.allocate e.stored).2) t

lemma extends_allocateAll (t : Table) (es : List Entry) : t.Extends (t.allocateAll es) := by
  induction es generalizing t with
  | nil => exact .refl t
  | cons e es ih => exact (t.extends_allocate e.stored).trans (ih _)

lemma exists_slot_allocateAll {t : Table} {e : Entry} {es : List Entry} (he : e ∈ es) :
    ∃ i, (t.allocateAll es).slot? e.stored.text = some i := by
  induction es generalizing t with
  | nil => cases he
  | cons e' es ih =>
    rcases List.mem_cons.1 he with rfl | he
    · exact ⟨_, (extends_allocateAll _ es).slot? (t.idxOf?_allocate e.stored)⟩
    · exact ih he

/-- Where all have slots, none is given out. -/
lemma allocateAll_of_slots {es : List Entry} (h : ∀ e ∈ es, ∃ i, t.slot? e.stored.text = some i) :
    t.allocateAll es = t := by
  induction es with
  | nil => rfl
  | cons e es ih =>
    obtain ⟨i, hi⟩ := h e List.mem_cons_self
    rw [allocateAll, List.foldl_cons, allocate_of_slot? hi]
    exact ih fun e he => h e (List.mem_cons_of_mem _ he)

/-- Stored programs with their slots. -/
def withSlots (t : Table) (es : List Entry) : List (Nat × Stored) :=
  es.filterMap fun e => (t.slot? e.stored.text).map (·, e.stored)

lemma mem_withSlots {es : List Entry} {r : Nat × Stored} (h : r ∈ t.withSlots es) :
    t.slot? r.2.text = some r.1 ∧ ∃ e ∈ es, e.stored = r.2 := by
  obtain ⟨e, he, hr⟩ := List.mem_filterMap.1 h
  obtain ⟨i, hi, rfl⟩ := Option.map_eq_some_iff.1 hr
  exact ⟨hi, e, he, rfl⟩

/-- Programs with different texts have different slots. -/
lemma nodup_withSlots {es : List Entry} (h : (es.map (·.stored.text)).Nodup) :
    ((t.withSlots es).map (·.1)).Nodup := by
  rw [List.Nodup, List.pairwise_map] at h ⊢
  refine h.filterMap _ fun e e' hne r hr r' hr' heq => hne ?_
  obtain ⟨i, hi, rfl⟩ := Option.map_eq_some_iff.1 hr
  obtain ⟨j, hj, rfl⟩ := Option.map_eq_some_iff.1 hr'
  obtain rfl : i = j := heq
  exact slot?_inj hi hj

lemma withSlots_congr {es : List Entry} (h : t.Extends u)
    (hes : ∀ e ∈ es, ∃ i, t.slot? e.stored.text = some i) : u.withSlots es = t.withSlots es := by
  refine List.filterMap_congr fun e he => ?_
  obtain ⟨i, hi⟩ := hes e he
  rw [hi, h.slot? hi]

end Table

/-! ### What a container watches -/

/-- The entries that a container watches. -/
def watchedEntries (w : Container) : List Entry :=
  Work.firstOfEach (w.programs.filter (Work.evaluates w))

lemma mem_of_mem_watchedEntries {w : Container} {e : Entry} (h : e ∈ watchedEntries w) :
    e ∈ w.programs := by
  have hfold : ∀ (es acc : List Entry), e ∈ es.foldl (fun acc e =>
      if acc.any (·.stored.text == e.stored.text) then acc else e :: acc) acc → e ∈ acc ∨
          e ∈ es := by
    intro es
    induction es with
    | nil => exact fun _ h => .inl h
    | cons x xs ih =>
      intro acc h
      obtain h | h := ih _ h
      · dsimp only at h
        split at h
        · exact .inl h
        · obtain rfl | h := List.mem_cons.1 h
          · exact .inr List.mem_cons_self
          · exact .inl h
      · exact .inr (List.mem_cons_of_mem _ h)
  obtain h | h := hfold _ [] (List.mem_reverse.1 h)
  · exact absurd h List.not_mem_nil
  · exact (List.mem_filter.1 h).1

/-- The entries that a container watches have different programs. -/
lemma nodup_watchedEntries (w : Container) : ((watchedEntries w).map (·.stored.text)).Nodup := by
  have hfold : ∀ es acc : List Entry, (acc.map (·.stored.text)).Nodup →
      ((es.foldl (fun acc e => if acc.any (·.stored.text == e.stored.text) then acc else e :: acc)
        acc).map
        (·.stored.text)).Nodup := by
    intro es
    induction es with
    | nil => exact fun _ h => h
    | cons x xs ih =>
      intro acc h
      refine ih _ ?_
      dsimp only
      split
      · exact h
      · next hnot =>
        refine List.nodup_cons.2 ⟨fun hmem => hnot ?_, h⟩
        obtain ⟨y, hy, htext⟩ := List.mem_map.1 hmem
        exact List.any_eq_true.2 ⟨y, hy, beq_iff_eq.2 htext⟩
  rw [watchedEntries, Work.firstOfEach, List.map_reverse, List.nodup_reverse]
  exact hfold _ [] List.nodup_nil

namespace Work

variable {a : Arena} {id : Nat}

/-- Each entry gets the slot of its text. -/
lemma on_allocateAll (a : Arena) (es : List Entry) :
    (es.mapM fun e => do return (← allocate e.stored, e.stored) : Work _).on a =
      (.ok ((a.table.allocateAll es).withSlots es),
      { a with table := a.table.allocateAll es }) := by
  induction es generalizing a with
  | nil => rfl
  | cons e es ih =>
    have hfirst : (do return (← allocate e.stored, e.stored) : Work _).on a =
        (.ok ((a.table.allocate e.stored).1, e.stored),
          { a with table := (a.table.allocate e.stored).2 }) := rfl
    have hslot : (a.table.allocateAll (e :: es)).slot? e.stored.text =
      some (a.table.allocate e.stored).1 :=
      (Table.extends_allocateAll _ es).slot? (a.table.idxOf?_allocate e.stored)
    have hall : (a.table.allocateAll (e :: es)).withSlots (e :: es) =
        ((a.table.allocate e.stored).1, e.stored) :: (a.table.allocateAll (e :: es)).withSlots
            es := by
      rw [Table.withSlots, List.filterMap_cons, hslot]
      rfl
    rw [List.mapM_cons, on_bind hfirst, on_bind (ih _), hall]
    rfl

/-- The programs that a container watches in the order of their slots, with these. -/
def inOrder (t : Table) (w : Container) : List (Nat × Stored) :=
  (t.withSlots (watchedEntries w)).mergeSort fun a b => a.1 ≤ b.1

/-- Asking what a container watches gives slots to its entries. -/
lemma on_watched (a : Arena) (id : Nat) :
    (watched id).on a =
      (.ok (inOrder (a.table.allocateAll (watchedEntries ((a.get? id).getD default)))
          ((a.get? id).getD default)),
        { a with table := a.table.allocateAll (watchedEntries ((a.get? id).getD default)) }) := by
  rw [watched, on_bind (on_container id a)]
  exact on_bind (on_allocateAll a (watchedEntries ((a.get? id).getD default))) _

lemma mem_inOrder {t : Table} {w : Container} {r : Nat × Stored} (h : r ∈ inOrder t w) :
    t.slot? r.2.text = some r.1 ∧ ∃ e ∈ w.programs, e.stored = r.2 := by
  obtain ⟨hslot, e, he, hr⟩ := Table.mem_withSlots (List.mem_mergeSort.1 h)
  exact ⟨hslot, e, mem_of_mem_watchedEntries he, hr⟩

/-- What is watched stands in increasing order of slots. -/
lemma pairwise_inOrder (t : Table) (w : Container) :
    ((inOrder t w).map (·.1)).Pairwise (· < ·) := by
  have hperm := List.mergeSort_perm (t.withSlots (watchedEntries w)) fun a b => decide (a.1 ≤ b.1)
  have hsorted : (inOrder t w).Pairwise fun a b => decide (a.1 ≤ b.1) :=
    List.pairwise_mergeSort (fun a b c hab hbc => by simp only [decide_eq_true_eq] at *; omega)
      (fun a b => by simp only [Bool.or_eq_true, decide_eq_true_eq]; omega) _
  have hdistinct : ((inOrder t w).map (·.1)).Nodup :=
    (hperm.map (·.1)).nodup_iff.2 (Table.nodup_withSlots (nodup_watchedEntries w))
  have hle : ((inOrder t w).map (·.1)).Pairwise (· ≤ ·) :=
    List.pairwise_map.2 (hsorted.imp fun h => of_decide_eq_true h)
  exact hle.imp₂ (fun _ _ hle hne => Nat.lt_of_le_of_ne hle hne) hdistinct

end Work

end Trellis.Container
