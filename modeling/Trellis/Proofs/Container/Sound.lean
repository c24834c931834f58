/-
What work on an arena keeps.

All programs that an arena keeps were read from some text and are kept under their own text, and
the way up from a container leads to smaller numbers (`Arena.Sound`).  Registering never moves a
container, never takes an isolated name back, isolates only names of the registered program and
never stops watching an identifier (`Arena.Grows`).
-/
import Trellis.Container.Basic
import Trellis.Proofs.Expr.Paths

namespace Trellis

open Container

variable {α β : Type}

/-! ### Programs that are kept -/

/-- A program that was read, under its own text. -/
structure Container.Stored.Sound (s : Stored) : Prop where
  text_eq : s.text = s.program.text
  isRead : s.program.IsRead

/-- All programs of a table were read, and are kept under their own texts. -/
def Container.Table.Sound (t : Table) : Prop := ∀ s ∈ t.stored, s.Sound

namespace Container

variable {t : Table} {p : Program} {s : Stored} {text : String}

/-- Programs that are kept under one text refer to the same identifiers. -/
lemma Stored.Sound.mem_identifiers {s s' : Stored} (hs : s.Sound) (hs' : s'.Sound)
    (h : s.text = s'.text) {x : String} :
    x ∈ s.program.identifiers ↔ x ∈ s'.program.identifiers :=
  hs.isRead.mem_identifiers_of_text hs'.isRead (by rw [← hs.text_eq, h, hs'.text_eq])

/-- A program that is kept under the text of a path is a path from the same root. -/
lemma Stored.Sound.of_path (hs : s.Sound) {root : String} (h : IsPathText root s.text) :
    (∀ x, x ∈ s.program.identifiers ↔ x = root) ∧
      ∃ steps, s.program.single?.bind Expr.path? = some (root :: steps) :=
  h.of_text hs.isRead hs.text_eq.symm

namespace Table

lemma mem_of_find? (h : t.find? text = some s) : s ∈ t.stored ∧ s.text = text :=
  ⟨List.mem_of_find?_eq_some h, by simpa using List.find?_some h⟩

lemma text_intern (t : Table) (p : Program) : (t.intern p).1.text = p.text := by
  unfold intern
  split
  · next s hs => exact (mem_of_find? hs).2
  · rfl

lemma Sound.intern (ht : t.Sound) (hp : p.IsRead) :
    (t.intern p).1.Sound ∧ (t.intern p).2.Sound := by
  unfold Table.intern
  split
  · next s hs => exact ⟨ht s (mem_of_find? hs).1, ht⟩
  · refine ⟨⟨rfl, hp⟩, fun s hs => ?_⟩
    rcases List.mem_append.1 hs with hs | hs
    · exact ht s hs
    · rw [List.mem_singleton.1 hs]
      exact ⟨rfl, hp⟩

/-- The text of a path is read, or known already. -/
lemma parse_path {root : String} (h : IsPathText root text) :
    ∃ s t', t.parse text = .ok (s, t') ∧ s.text = text := by
  unfold Table.parse
  split
  · next s hs => exact ⟨s, t, rfl, (mem_of_find? hs).2⟩
  · obtain ⟨q, hq, hqtext, -⟩ := h.parse
    rw [hq]
    exact ⟨_, _, rfl, (t.text_intern q).trans hqtext⟩

lemma Sound.parse {t' : Table} (ht : t.Sound) (h : t.parse text = .ok (s, t')) :
    s.Sound ∧ t'.Sound := by
  unfold Table.parse at h
  split at h
  · next s' hs =>
    cases h
    exact ⟨ht _ (mem_of_find? hs).1, ht⟩
  · cases hp : Program.parse text with
    | error f => rw [hp] at h; cases h
    | ok p =>
      rw [hp] at h
      have hintern := ht.intern ⟨text, hp⟩
      rwa [Except.ok.inj h] at hintern

end Table

/-! ### Containers and arenas -/

/-- Whether a container watches an identifier: a program that refers to it counts there. -/
def Watches (c : Container) (x : String) : Prop :=
  ∃ e ∈ c.programs, e.operation ≠ .exclude ∧ x ∈ e.stored.program.identifiers

/-- What a container becomes: its place stays, it watches what it watched, and isolates what it
isolated and perhaps some of `names`. -/
structure Grows (names : List String) (c c' : Container) : Prop where
  parent_eq : c'.parent = c.parent
  kind_eq : c'.kind = c.kind
  isolated : ∀ x ∈ c.isolated, x ∈ c'.isolated
  isolated_new : ∀ x ∈ c'.isolated, x ∈ c.isolated ∨ x ∈ names
  watches : ∀ x, c.Watches x → c'.Watches x

variable {names : List String}

/-- Only children and reactive names may differ. -/
lemma Grows.of_eq {c c' : Container} (hparent : c'.parent = c.parent) (hkind : c'.kind = c.kind)
    (hisolated : c'.isolated = c.isolated) (hprograms : c'.programs = c.programs) :
    Grows names c c' :=
  ⟨hparent, hkind, fun _ h => hisolated ▸ h, fun _ h => .inl (hisolated ▸ h),
    fun _ ⟨e, he, h⟩ => ⟨e, hprograms ▸ he, h⟩⟩

lemma Grows.refl (c : Container) : Grows names c c := .of_eq rfl rfl rfl rfl

lemma Grows.trans {c c' c'' : Container} (h : Grows names c c') (h' : Grows names c' c'') :
    Grows names c c'' where
  parent_eq := h'.parent_eq.trans h.parent_eq
  kind_eq := h'.kind_eq.trans h.kind_eq
  isolated x hx := h'.isolated x (h.isolated x hx)
  isolated_new x hx := (h'.isolated_new x hx).elim (h.isolated_new x) .inr
  watches x hx := h'.watches x (h.watches x hx)

end Container

namespace Arena

variable {a b : Arena} {id : Nat} {c : Container} {f : Container → Container}

/-- All programs in an arena were read, and every container has a smaller number than those below
it. -/
structure Sound (a : Arena) : Prop where
  table : a.table.Sound
  parent_lt : ∀ {id c}, a.get? id = some c → ∀ parent, c.parent = some parent → parent < id
  programs : ∀ {id c}, a.get? id = some c → ∀ e ∈ c.programs, e.stored.Sound

/-- What an arena becomes: every container stays where it is and grows, and isolates new names only
among `names`. -/
def Grows (names : List String) (a b : Arena) : Prop :=
  ∀ id c, a.get? id = some c → ∃ c', b.get? id = some c' ∧ Container.Grows names c c'

variable {names : List String}

lemma Grows.refl (a : Arena) : Grows names a a := fun _ c h => ⟨c, h, .refl c⟩

lemma Grows.trans {a b c : Arena} (h : Grows names a b) (h' : Grows names b c) :
    Grows names a c := by
  intro id k hk
  obtain ⟨k', hk', hgrows⟩ := h id k hk
  obtain ⟨k'', hk'', hgrows'⟩ := h' id k' hk'
  exact ⟨k'', hk'', hgrows.trans hgrows'⟩

lemma get?_update (a : Arena) (id : Nat) (f : Container → Container) (id' : Nat) :
    (a.update id f).get? id' = if id = id' then (a.get? id').map f else a.get? id' :=
  Array.getElem?_modify

lemma get?_update_self (h : a.get? id = some c) : (a.update id f).get? id = some (f c) := by
  rw [get?_update, if_pos rfl, h]
  rfl

/-- A change that lets a container grow and registers programs that were read only. -/
lemma Sound.update (ha : a.Sound) (id : Nat) (hgrows : ∀ c, Container.Grows names c (f c))
    (hsound : ∀ c : Container, (∀ e ∈ c.programs, e.stored.Sound) → ∀ e ∈ (f c).programs,
    e.stored.Sound) :
    (a.update id f).Sound ∧ Grows names a (a.update id f) := by
  refine ⟨⟨ha.table, fun {id' c} hc parent hparent => ?_, fun {id' c} hc => ?_⟩, fun id' c hc => ?_⟩
  · rw [get?_update] at hc
    split at hc
    · obtain ⟨c', hc', rfl⟩ := Option.map_eq_some_iff.1 hc
      rw [(hgrows c').parent_eq] at hparent
      exact ha.parent_lt hc' parent hparent
    · exact ha.parent_lt hc parent hparent
  · rw [get?_update] at hc
    split at hc
    · obtain ⟨c', hc', rfl⟩ := Option.map_eq_some_iff.1 hc
      exact hsound c' (ha.programs hc')
    · exact ha.programs hc
  · rw [get?_update, hc]
    split
    · exact ⟨f c, rfl, hgrows c⟩
    · exact ⟨c, rfl, .refl c⟩

lemma Sound.with_table {t : Table} (ha : a.Sound) (ht : t.Sound) : { a with table := t }.Sound :=
  ⟨ht, ha.parent_lt, ha.programs⟩

/-- A parent exists. -/
lemma Sound.exists_parent (ha : a.Sound) (h : a.get? id = some c) {parent : Nat}
    (hparent : c.parent = some parent) : ∃ d, a.get? parent = some d := by
  obtain ⟨hid, -⟩ := Array.getElem?_eq_some_iff.1 h
  exact ⟨_, Array.getElem?_eq_getElem (Nat.lt_trans (ha.parent_lt h parent hparent) hid)⟩

/-- At first there is only the root. -/
lemma get?_start (h : Arena.start.get? id = some c) : id = 0 ∧
    c = { id := 0, parent := none, kind := .global } := by
  obtain ⟨hid, rfl⟩ := Array.getElem?_eq_some_iff.1 h
  obtain rfl : id = 0 := by simpa [start] using hid
  exact ⟨rfl, rfl⟩

lemma sound_start : Arena.start.Sound := by
  refine ⟨by simp [start, Table.Sound], fun h parent hparent => ?_, fun h e he => ?_⟩
  · rw [(get?_start h).2] at hparent
    cases hparent
  · rw [(get?_start h).2] at he
    cases he

lemma get?_push {id' : Nat} {d : Container}
    (h : Arena.get? ⟨a.containers.push c, a.table⟩ id' = some d) :
    a.get? id' = some d ∨ id' = a.containers.size ∧ d = c := by
  rw [get?, Array.getElem?_push] at h
  split at h
  · next hid => exact .inr ⟨hid, (Option.some.inj h).symm⟩
  · exact .inl h

/-- A new container below one that exists. -/
lemma Sound.spawn (ha : a.Sound) (hid : id < a.containers.size) (kind : Kind) (name : String) :
    (a.spawn id kind name).2.Sound := by
  have hchildren : ∀ c : Container,
      Container.Grows [] c { c with children := c.children ++ [a.containers.size] } :=
    fun _ => .of_eq rfl rfl rfl rfl
  have hupdate := ha.update id hchildren fun _ h => h
  have hsize : (a.update id fun c =>
      { c with children := c.children ++ [a.containers.size] }).containers.size =
        a.containers.size := Array.size_modify
  refine ⟨ha.table, fun {id' d} hd parent hparent => ?_, fun {id' d} hd e he => ?_⟩
  · obtain hd | ⟨rfl, rfl⟩ := get?_push hd
    · exact hupdate.1.parent_lt hd parent hparent
    · obtain rfl := Option.some.inj hparent
      rwa [hsize]
  · obtain hd | ⟨rfl, rfl⟩ := get?_push hd
    · exact hupdate.1.programs hd e he
    · cases he

end Arena

/-! ### Changes of one container -/

namespace Container

variable {c : Container} {e : Entry} {es : List Entry} {x : String} {names : List String}

lemma Entry.stored_revive (e e' : Entry) : (e.revive e').stored = e.stored := by
  unfold Entry.revive
  split <;> rfl

lemma Entry.operation_revive {e e' : Entry} (h : e.operation ≠ .exclude ∨ e'.operation ≠ .exclude) :
    (e.revive e').operation ≠ .exclude := by
  unfold Entry.revive
  split <;> grind

lemma stored_acceptEntry {d : Entry} (h : d ∈ acceptEntry e es) :
    d.stored = e.stored ∨ ∃ d' ∈ es, d.stored = d'.stored := by
  fun_induction acceptEntry e es with
  | case1 => exact .inl (by rw [List.mem_singleton.1 h])
  | case2 d' es hsame =>
    rcases List.mem_cons.1 h with rfl | h
    · exact .inr ⟨d', List.mem_cons_self, Entry.stored_revive d' e⟩
    · exact .inr ⟨d, List.mem_cons_of_mem _ h, rfl⟩
  | case3 d' es hsame ih =>
    rcases List.mem_cons.1 h with rfl | h
    · exact .inr ⟨d, List.mem_cons_self, rfl⟩
    · obtain h | ⟨d'', hd'', h⟩ := ih h
      · exact .inl h
      · exact .inr ⟨d'', List.mem_cons_of_mem _ hd'', h⟩

/-- Entries that are there stay, and go on counting. -/
lemma acceptEntry_of_mem {d : Entry} (h : d ∈ es) (hop : d.operation ≠ .exclude) :
    ∃ d' ∈ acceptEntry e es, d'.stored = d.stored ∧ d'.operation ≠ .exclude := by
  fun_induction acceptEntry e es with
  | case1 => cases h
  | case2 d' es hsame =>
    rcases List.mem_cons.1 h with rfl | h
    · exact ⟨_, List.mem_cons_self, Entry.stored_revive d e, Entry.operation_revive (.inl hop)⟩
    · exact ⟨d, List.mem_cons_of_mem _ h, rfl, hop⟩
  | case3 d' es hsame ih =>
    rcases List.mem_cons.1 h with rfl | h
    · exact ⟨d, List.mem_cons_self, rfl, hop⟩
    · obtain ⟨d'', hd'', h⟩ := ih h
      exact ⟨d'', List.mem_cons_of_mem _ hd'', h⟩

/-- An entry that is registered is there afterwards, or one of the same text is. -/
lemma acceptEntry_self (es : List Entry) (hop : e.operation ≠ .exclude) :
    ∃ d ∈ acceptEntry e es, d.stored.text = e.stored.text ∧ d.operation ≠ .exclude := by
  fun_induction acceptEntry e es with
  | case1 => exact ⟨e, List.mem_singleton_self e, rfl, hop⟩
  | case2 d es hsame =>
    refine ⟨_, List.mem_cons_self, ?_, Entry.operation_revive (.inr hop)⟩
    rw [Entry.stored_revive]
    simp only [Entry.same, Bool.and_eq_true, beq_iff_eq] at hsame
    exact hsame.1
  | case3 d es hsame ih =>
    obtain ⟨d', hd', h⟩ := ih
    exact ⟨d', List.mem_cons_of_mem _ hd', h⟩

lemma grows_accept (c : Container) (e : Entry) : Grows names c (c.accept e) := by
  refine ⟨rfl, rfl, fun _ h => h, fun _ h => .inl h, fun x hx => ?_⟩
  obtain ⟨d, hd, hop, hx⟩ := hx
  obtain ⟨d', hd', hstored, hop'⟩ := acceptEntry_of_mem (e := e) hd hop
  exact ⟨d', hd', hop', by rwa [hstored]⟩

lemma sound_accept (he : e.stored.Sound) (hc : ∀ d ∈ c.programs, d.stored.Sound) :
    ∀ d ∈ (c.accept e).programs, d.stored.Sound := by
  intro d hd
  obtain h | ⟨d', hd', h⟩ := stored_acceptEntry hd
  · rwa [h]
  · rw [h]
    exact hc d' hd'

lemma watches_accept (he : e.stored.Sound) (hc : ∀ d ∈ c.programs, d.stored.Sound)
    (hop : e.operation ≠ .exclude) (hx : x ∈ e.stored.program.identifiers) :
    (c.accept e).Watches x := by
  obtain ⟨d, hd, htext, hop'⟩ := acceptEntry_self c.programs hop
  exact ⟨d, hd, hop', ((sound_accept he hc d hd).mem_identifiers he htext).2 hx⟩

lemma grows_addReactive (c : Container) (name : String) : Grows names c (c.addReactive name) := by
  unfold addReactive
  split
  · exact .refl c
  · exact .of_eq rfl rfl rfl rfl

lemma programs_addReactive (c : Container) (name : String) :
    (c.addReactive name).programs = c.programs := by
  unfold addReactive
  split <;> rfl

/-- Isolating names changes nothing else. -/
lemma isolate_eq (c : Container) (names : List String) :
    ∃ isolated, c.isolate names = { c with isolated } ∧ (∀ x ∈ c.isolated, x ∈ isolated) ∧
      ∀ x ∈ isolated, x ∈ c.isolated ∨ x ∈ names := by
  unfold isolate
  induction names generalizing c with
  | nil => exact ⟨c.isolated, rfl, fun _ h => h, fun _ h => .inl h⟩
  | cons n names ih =>
    rw [List.foldl_cons]
    split
    · obtain ⟨isolated, heq, hsub, hnew⟩ := ih c
      exact ⟨isolated, heq, hsub, fun x hx => (hnew x hx).imp_right (List.mem_cons_of_mem n)⟩
    · obtain ⟨isolated, heq, hsub, hnew⟩ := ih { c with isolated := c.isolated ++ [n] }
      refine ⟨isolated, heq, fun x hx => hsub x (List.mem_append_left _ hx), fun x hx => ?_⟩
      rcases hnew x hx with h | h
      · rcases List.mem_append.1 h with h | h
        · exact .inl h
        · exact .inr (List.mem_singleton.1 h ▸ List.mem_cons_self)
      · exact .inr (List.mem_cons_of_mem n h)

lemma grows_isolate (c : Container) {isolated : List String} (h : ∀ x ∈ isolated, x ∈ names) :
    Grows names c (c.isolate isolated) := by
  obtain ⟨_, heq, hsub, hnew⟩ := c.isolate_eq isolated
  rw [heq]
  exact ⟨rfl, rfl, hsub, fun x hx => (hnew x hx).imp_right (h x), fun _ h => h⟩

lemma programs_isolate (c : Container) (names : List String) :
    (c.isolate names).programs = c.programs := by
  obtain ⟨isolated, heq, -, -⟩ := c.isolate_eq names
  rw [heq]

end Container

end Trellis
