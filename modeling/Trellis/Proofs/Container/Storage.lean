/-
The programs of an arena and their slots.

A program is known by its text: it is stored under it, once, and its slot is the slot of the text
(`Table.Tidy`).  Every call keeps the table tidy, leaves the slots that were given out alone, and
gives containers programs of the table only (`Arena.tidy_call`), in whichever order slots are asked
for.  What can be relied on afterwards is `Arena.WellStored`.
-/
import Trellis.Proofs.Container.Calls
import Trellis.Proofs.Container.Table

namespace Trellis

open Container

namespace Container.Table

variable {t : Table} {s : Stored} {p : Program} {x : String} {i : Nat}

/-- Programs are stored under their own texts, each text once, and slots are those of stored
programs, one for each text. -/
structure Tidy (t : Table) : Prop where
  own : t.Own
  distinct : (t.stored.map (·.text)).Nodup
  slots : t.slots.Nodup
  stored : ∀ x ∈ t.slots, ∃ s, t.find? x = some s

lemma Tidy.find?_self (ht : t.Tidy) (hs : s ∈ t.stored) : t.find? s.text = some s := by
  have hsome : (t.find? s.text).isSome := List.find?_isSome.2 ⟨s, hs, beq_self_eq_true _⟩
  obtain ⟨s', hs'⟩ := Option.isSome_iff_exists.1 hsome
  obtain ⟨hmem, htext⟩ := mem_of_find? hs'
  rw [hs', List.inj_on_of_nodup_map ht.distinct hmem hs htext]

lemma Tidy.intern (ht : t.Tidy) (p : Program) : (t.intern p).2.Tidy := by
  have hown := ht.own.intern p
  have hbelow := t.below_intern p
  revert hown hbelow
  unfold Table.intern
  split
  · exact fun _ _ => ht
  · next hnone =>
    intro hown hbelow
    refine ⟨hown, ?_, ht.slots, fun x hx => (ht.stored x hx).imp fun _ => find?_of_below hbelow⟩
    rw [List.map_append]
    refine List.nodup_append.2 ⟨ht.distinct, List.nodup_singleton _, fun x hx y hy heq => ?_⟩
    obtain rfl : y = p.text := List.mem_singleton.1 hy
    obtain ⟨s, hs, rfl⟩ := List.mem_map.1 hx
    exact List.find?_eq_none.1 hnone s hs (beq_iff_eq.2 heq)

lemma Tidy.allocate (ht : t.Tidy) (hs : t.Has s) : (t.allocate s).2.Tidy := by
  have hstored := t.stored_allocate s
  have hfind : ∀ x, (t.allocate s).2.find? x = t.find? x := fun x => by
    rw [Table.find?, Table.find?, hstored]
  refine ⟨fun s' hs' => ht.own s' (hstored ▸ hs'), hstored ▸ ht.distinct, ?_, ?_⟩
  · rw [slots_allocate]
    split
    · exact ht.slots
    · next hnew =>
      refine List.nodup_append.2 ⟨ht.slots, List.nodup_singleton _, fun x hx y hy heq => hnew ?_⟩
      exact List.mem_singleton.1 hy ▸ heq ▸ hx
  · intro x hx
    simp only [hfind]
    rw [slots_allocate] at hx
    split at hx
    · exact ht.stored x hx
    · rcases List.mem_append.1 hx with hx | hx
      · exact ht.stored x hx
      · exact ⟨s, List.mem_singleton.1 hx ▸ hs.find?⟩

lemma Tidy.allocateAll {es : List Entry} (ht : t.Tidy) (hes : ∀ e ∈ es, t.Has e.stored) :
    (t.allocateAll es).Tidy := by
  induction es generalizing t with
  | nil => exact ht
  | cons e es ih =>
    have hbelow := (t.extends_allocate e.stored).below
    refine ih (ht.allocate (hes e List.mem_cons_self)) fun e' he' => ?_
    exact (hes e' (List.mem_cons_of_mem _ he')).mono hbelow

/-- Stored programs by their texts. -/
lemma map_text_filterMap (xs : List String) (hxs : ∀ x ∈ xs, ∃ s, t.find? x = some s) :
    (xs.filterMap t.find?).map (·.text) = xs := by
  induction xs with
  | nil => rfl
  | cons x xs ih =>
    obtain ⟨s, hs⟩ := hxs x List.mem_cons_self
    rw [List.filterMap_cons_some hs, List.map_cons, ih fun y hy =>
      hxs y (List.mem_cons_of_mem _ hy),
      (mem_of_find? hs).2]

lemma Tidy.map_text_programs (ht : t.Tidy) : t.programs.map (·.text) = t.slots :=
  map_text_filterMap t.slots ht.stored

lemma find?_of_mem_programs (hs : s ∈ t.programs) : t.find? s.text = some s := by
  obtain ⟨x, -, hx⟩ := List.mem_filterMap.1 hs
  rw [(mem_of_find? hx).2, hx]

/-- The program at a position of the table has this slot, and is the one stored under its text. -/
lemma Tidy.getElem?_programs (ht : t.Tidy) :
    t.programs[i]? = some s ↔ t.slot? s.text = some i ∧ t.find? s.text = some s := by
  constructor
  · intro h
    refine ⟨idxOf?_of_getElem? ht.slots ?_, find?_of_mem_programs (List.mem_of_getElem? h)⟩
    rw [← ht.map_text_programs, List.getElem?_map, h]
    rfl
  · rintro ⟨hslot, hfind⟩
    have htext := getElem?_of_idxOf? hslot
    rw [← ht.map_text_programs, List.getElem?_map] at htext
    obtain ⟨s', hs', heq⟩ := Option.map_eq_some_iff.1 htext
    have hfind' := find?_of_mem_programs (List.mem_of_getElem? hs')
    rw [heq, hfind] at hfind'
    rwa [Option.some.inj hfind']

end Container.Table

namespace Arena

variable {a b : Arena} {id : Nat} {w : Container} {p : Program}

/-! ### What calls keep -/

/-- The table is tidy, and containers have programs of it only. -/
structure Tidy (a : Arena) : Prop where
  table : a.table.Tidy
  programs : ∀ {id c}, a.get? id = some c → ∀ e ∈ c.programs, a.table.Has e.stored

lemma Tidy.with_table {t : Table} (ha : a.Tidy) (ht : t.Tidy) (h : a.table.Extends t) :
    Tidy { a with table := t } :=
  ⟨ht, fun hc e he => (ha.programs hc e he).mono h.below⟩

lemma Tidy.update {f : Container → Container} (ha : a.Tidy)
    (h : ∀ c : Container, (∀ e ∈ c.programs, a.table.Has e.stored) →
      ∀ e ∈ (f c).programs, a.table.Has e.stored) (at_ : Nat) : (a.update at_ f).Tidy := by
  refine ⟨ha.table, fun {id c} hc => ?_⟩
  rw [get?_update] at hc
  split at hc
  · obtain ⟨c', hc', rfl⟩ := Option.map_eq_some_iff.1 hc
    exact h c' (ha.programs hc')
  · exact ha.programs hc

/-- Tidy arenas, whose tables grow. -/
def tidyDrift : Drift where
  Fit := Tidy
  Fine _ := True
  Known a s := a.table.Has s
  Becomes a b := a.table.Extends b.table
  refl a := .refl a.table
  trans := .trans
  known_of_becomes h hs := hs.mono h.below
  fine_of_path _ _ _ := trivial
  fine_of_bind _ _ _ := trivial
  known_of_find? ha h := (Table.has_of_find? ha.table.own h).1
  known_entry ha hc := ha.programs hc
  intern {a p} ha _ :=
    ⟨ha.with_table (ha.table.intern p) (a.table.extends_intern p), a.table.extends_intern p,
      ha.table.own.has_intern p⟩
  accept {a e} at_ ha he := by
    refine ⟨ha.update (fun c hc d hd => ?_) at_, .refl a.table⟩
    obtain h | ⟨d', hd', h⟩ := stored_acceptEntry hd
    · exact h ▸ he
    · exact h ▸ hc d' hd'

lemma allows_tidy {f : Container → Container} (h : ∀ c, (f c).programs = c.programs) :
    tidyDrift.Allows f :=
  fun a at_ ha => ⟨Tidy.update ha (fun c hc => (h c).symm ▸ hc) at_, .refl a.table⟩

lemma Tidy.spawn (ha : a.Tidy) (parent : Nat) (kind : Kind) (name : String) :
    (a.spawn parent kind name).2.Tidy := by
  refine ⟨ha.table, fun {id c} hc => ?_⟩
  obtain hc | ⟨-, rfl⟩ := get?_push hc
  · have hupdate := ha.update (f :=
      fun c => { c with children := c.children ++ [a.containers.size] })
      (fun _ hc => hc) parent
    exact hupdate.programs hc
  · exact fun e he => absurd he List.not_mem_nil

end Arena

namespace Container.Work

/-- Asking for the slot of a program. -/
lemma on_allocate (a : Arena) (p : Program) : (intern p >>= allocate).on a =
    (.ok ((a.table.intern p).2.allocate (a.table.intern p).1).1,
      { a with table := ((a.table.intern p).2.allocate (a.table.intern p).1).2 }) := rfl

end Container.Work

namespace Arena

variable {a b : Arena} {id : Nat} {w : Container} {p : Program}

/-- Whatever the call, the table stays tidy and only grows. -/
lemma tidy_call (c : Call) (ha : a.Tidy) :
    (c.work.on a).2.Tidy ∧ a.table.Extends (c.work.on a).2.table := by
  have hisolate : ∀ (c : Container) names, (c.isolate names).programs = c.programs :=
    programs_isolate
  have hreactive : ∀ name, tidyDrift.Allows (·.addReactive name) := fun name =>
    allows_tidy (programs_addReactive · name)
  have hmoves : ∀ {w : Work Unit}, Work.Moves tidyDrift [] w (fun _ => []) →
      (w.on a).2.Tidy ∧ a.table.Extends (w.on a).2.table := fun h =>
    ⟨(h a ha (by simp)).1, (h a ha (by simp)).2.1⟩
  cases c with
  | spawn parent kind name => exact ⟨ha.spawn parent kind name, .refl a.table⟩
  | isolate at_ names => exact allows_tidy (hisolate · names) a at_ ha
  | register at_ p role =>
    exact hmoves (Work.moves_register trivial at_ role hreactive fun _ _ _ _ _ =>
      allows_tidy (hisolate · _))
  | attach at_ template options =>
    refine hmoves (Work.moves_attach at_ template options hreactive fun names names' => ?_)
    exact allows_tidy fun c => (hisolate _ _).trans (hisolate c _)
  | intern p =>
    exact hmoves (Work.moves_bind (Work.moves_intern trivial) fun _ =>
      Work.moves_pure (List.nil_subset _))
  | parse text =>
    exact hmoves (Work.moves_bind (Work.moves_parse fun _ _ => trivial) fun _ =>
      Work.moves_pure (List.nil_subset _))
  | allocate p =>
    have hintern := ha.table.intern p
    have hextends := (a.table.extends_intern p).trans ((a.table.intern p).2.extends_allocate
      (a.table.intern p).1)
    exact ⟨ha.with_table (hintern.allocate (ha.table.own.has_intern p)) hextends, hextends⟩
  | watch at_ =>
    have hentries : ∀ e ∈ watchedEntries ((a.get? at_).getD default), a.table.Has e.stored := by
      intro e he
      have hmem := mem_of_mem_watchedEntries he
      cases hc : a.get? at_ with
      | none => rw [hc] at hmem; cases hmem
      | some c => rw [hc] at hmem; exact ha.programs hc e hmem
    have hextends := a.table.extends_allocateAll (watchedEntries ((a.get? at_).getD default))
    rw [Call.work, Work.on_bind (Work.on_watched a at_)]
    exact ⟨ha.with_table (ha.table.allocateAll hentries) hextends, hextends⟩

/-- After any calls the table is tidy and has grown. -/
lemma tidy_after (ha : a.Tidy) (calls : List Call) :
    (a.after calls).Tidy ∧ a.table.Extends (a.after calls).table := by
  refine after_induction (P := fun b => b.Tidy ∧ a.table.Extends b.table) ⟨ha, .refl a.table⟩ ?_
  rintro b c - - ⟨hb, hextends⟩
  obtain ⟨hb', hextends'⟩ := tidy_call c hb
  exact ⟨hb', hextends.trans hextends'⟩

lemma tidy_start : start.Tidy := by
  refine ⟨⟨?_, List.nodup_nil, List.nodup_nil, ?_⟩, fun {id c} hc => ?_⟩
  · exact fun s hs => absurd hs List.not_mem_nil
  · exact fun x hx => absurd hx List.not_mem_nil
  · obtain ⟨hid, rfl⟩ := Array.getElem?_eq_some_iff.1 hc
    obtain rfl : id = 0 := by simpa [start] using hid
    exact fun e he => absurd he List.not_mem_nil

/-! ### Asking again -/

/-- A call that registers programs in containers. -/
def Call.Registers : Call → Prop
  | .register .. | .attach .. => True
  | _ => False

/-- What a container watches stays the same, as long as nothing is registered. -/
lemma watchedEntries_call {c : Call} (hc : ¬ c.Registers) (hw : a.get? id = some w) :
    ∃ w', (c.work.on a).2.get? id = some w' ∧ watchedEntries w' = watchedEntries w := by
  have hupdate : ∀ {f : Container → Container} (at_ : Nat),
    (∀ w, watchedEntries (f w) = watchedEntries w) →
      ∃ w', (a.update at_ f).get? id = some w' ∧ watchedEntries w' = watchedEntries w := by
    intro f at_ hf
    have hview := map_view_update watchedEntries hf a at_ id
    rw [hw, Option.map_some] at hview
    exact Option.map_eq_some_iff.1 hview
  cases c with
  | spawn parent kind name =>
    obtain ⟨w', hw', heq⟩ := hupdate
      (f := fun c => { c with children := c.children ++ [a.containers.size] }) parent fun _ => rfl
    obtain ⟨hlt, -⟩ := Array.getElem?_eq_some_iff.1 hw'
    exact ⟨w', (Array.getElem?_push_lt hlt).trans ((Array.getElem?_eq_getElem hlt).symm.trans hw'),
      heq⟩
  | isolate at_ names =>
    refine hupdate at_ fun w => ?_
    obtain ⟨isolated, heq, -⟩ := w.isolate_eq names
    rw [heq]
    rfl
  | register => exact absurd trivial hc
  | attach => exact absurd trivial hc
  | intern p => exact ⟨w, hw, rfl⟩
  | parse text =>
    cases hparse : a.table.parse text with
    | error f =>
      rw [Call.work, Work.on_bind_error (Work.on_parse_error hparse)]
      exact ⟨w, hw, rfl⟩
    | ok r =>
      rw [Call.work, Work.on_bind (Work.on_parse hparse)]
      exact ⟨w, hw, rfl⟩
  | allocate p => exact ⟨w, hw, rfl⟩
  | watch at_ =>
    rw [Call.work, Work.on_bind (Work.on_watched a at_)]
    exact ⟨w, hw, rfl⟩

lemma watchedEntries_after {calls : List Call} (hcalls : ∀ c ∈ calls, ¬ c.Registers)
    (hw : a.get? id = some w) :
    ∃ w', (a.after calls).get? id = some w' ∧ watchedEntries w' = watchedEntries w := by
  refine after_induction (P := fun b => ∃ w', b.get? id = some w' ∧
    watchedEntries w' = watchedEntries w)
    ⟨w, hw, rfl⟩ fun b c hc _ => ?_
  rintro ⟨w', hw', heq⟩
  obtain ⟨w'', hw'', heq'⟩ := watchedEntries_call (hcalls c hc) hw'
  exact ⟨w'', hw'', heq'.trans heq⟩

/-- Asking again what a container watches gives the same slots. -/
lemma watched_again {calls : List Call} (ha : a.Tidy) (hcalls : ∀ c ∈ calls, ¬ c.Registers)
    (hw : a.get? id = some w) {found : List (Nat × Stored)}
    (hrun : (Work.watched id).on a = (.ok found, b)) :
    (Work.watched id).on (b.after calls) = (.ok found, b.after calls) := by
  rw [Work.on_watched, hw, Option.getD_some] at hrun
  cases hrun
  have hslots : ∀ e ∈ watchedEntries w,
      ∃ i, (a.table.allocateAll (watchedEntries w)).slot? e.stored.text = some i :=
    fun e he => Table.exists_slot_allocateAll he
  have hb : Tidy { a with table := a.table.allocateAll (watchedEntries w) } := by
    have hwatch := (tidy_call (.watch id) ha).1
    rw [Call.work, Work.on_bind (Work.on_watched a id), hw] at hwatch
    exact hwatch
  have hextends := (tidy_after hb calls).2
  obtain ⟨w', hw', hentries⟩ := watchedEntries_after hcalls
    (a := { a with table := a.table.allocateAll (watchedEntries w) }) hw
  generalize Arena.after _ calls = b at hw' hextends ⊢
  have hsame : b.table.allocateAll (watchedEntries w) = b.table :=
    Table.allocateAll_of_slots fun e he => (hslots e he).imp fun _ => hextends.slot?
  have horder : Work.inOrder b.table w' = Work.inOrder (a.table.allocateAll (watchedEntries w))
      w := by
    rw [Work.inOrder, hentries, Table.withSlots_congr hextends hslots]
    rfl
  rw [Work.on_watched, hw', Option.getD_some, hentries, hsame, horder]

/-! ### What can be relied on -/

/-- What can be relied on in an arena, whatever happens to it from now on. -/
structure WellStored (a : Arena) : Prop where
  /-- a stored program is found under its own text -/
  keyed : ∀ s ∈ a.table.stored, s.text = s.program.text ∧ a.table.find? s.program.text = some s
  /-- the table lists programs with different texts -/
  distinct : (a.table.programs.map (·.text)).Nodup
  /-- the program at a position of the table has this slot, and is the one stored under its text -/
  listed : ∀ i s, a.table.programs[i]? = some s ↔
    a.table.slot? s.text = some i ∧ a.table.find? s.text = some s
  /-- a slot that was given out never changes -/
  steady : ∀ x i, a.table.slot? x = some i → ∀ more, (a.after more).table.slot? x = some i
  /-- asking for the slot of a program gives one, which is that of another program that is asked for
  later exactly if their texts are the same -/
  asked : ∀ p, ∃ i b, (Work.intern p >>= Work.allocate).on a = (.ok i, b) ∧
    b.table.slot? p.text = some i ∧
    ∀ more q j c, (Work.intern q >>= Work.allocate).on (b.after more) = (.ok j, c) →
      (i = j ↔ p.text = q.text)
  /-- what a container watches comes in increasing order of slots, and again so as long as nothing
  is registered -/
  watched : ∀ id w, a.get? id = some w → ∃ found b, (Work.watched id).on a = (.ok found, b) ∧
    (found.map (·.1)).Pairwise (· < ·) ∧
    (∀ r ∈ found, b.table.slot? r.2.text = some r.1 ∧ b.table.find? r.2.text = some r.2) ∧
    ∀ more, (∀ c ∈ more, ¬ c.Registers) → (Work.watched id).on (b.after more) =
      (.ok found, b.after more)

/-- The slot that is given to a program is that of its text. -/
lemma asked_slot {i : Nat} (ha : a.Tidy) (h : (Work.intern p >>= Work.allocate).on a = (.ok i, b)) :
    b.table.slot? p.text = some i ∧ b.Tidy ∧ a.table.Extends b.table := by
  obtain ⟨hb, hextends⟩ := tidy_call (.allocate p) ha
  rw [Work.on_allocate] at h
  cases h
  exact ⟨a.table.text_intern p ▸ Table.idxOf?_allocate _ _, hb, hextends⟩

/-- **Programs, texts and slots.** Whatever calls are made on an arena, and in whichever order slots
are asked for, a program is known by its text alone, and so is its slot. -/
theorem wellStored_after (calls : List Call) : (start.after calls).WellStored := by
  obtain ⟨ha, -⟩ := tidy_after tidy_start calls
  generalize start.after calls = a at ha
  refine ⟨fun s hs => ?_, ?_, fun i s => ha.table.getElem?_programs, ?_, fun p => ?_, fun id w hw =>
    ?_⟩
  · have hown := ha.table.own s hs
    exact ⟨hown, hown ▸ ha.table.find?_self hs⟩
  · rw [ha.table.map_text_programs]
    exact ha.table.slots
  · exact fun x i hi more => (tidy_after ha more).2.slot? hi
  · obtain ⟨i, b, hp⟩ : ∃ i b, (Work.intern p >>= Work.allocate).on a = (.ok i, b) :=
      ⟨_, _, Work.on_allocate a p⟩
    obtain ⟨hslot, hb, -⟩ := asked_slot ha hp
    refine ⟨i, b, hp, hslot, fun more q j c hq => ?_⟩
    obtain ⟨hmore, hextends⟩ := tidy_after hb more
    obtain ⟨hslot', -, hextends'⟩ := asked_slot hmore hq
    have hkept : c.table.slot? p.text = some i := (hextends.trans hextends').slot? hslot
    constructor
    · rintro rfl
      exact Table.slot?_inj hkept hslot'
    · intro htext
      rw [htext, hslot'] at hkept
      exact (Option.some.inj hkept).symm
  · have hrun := Work.on_watched a id
    rw [hw, Option.getD_some] at hrun
    have hextends := a.table.extends_allocateAll (watchedEntries w)
    refine ⟨_, _, hrun, Work.pairwise_inOrder _ w, fun r hr => ?_, fun more hmore => ?_⟩
    · obtain ⟨hslot, e, he, heq⟩ := Work.mem_inOrder hr
      have hhas := (ha.programs hw e he).mono hextends.below
      exact ⟨hslot, heq ▸ hhas.find?⟩
    · exact watched_again ha hmore hw hrun

end Arena

end Trellis
