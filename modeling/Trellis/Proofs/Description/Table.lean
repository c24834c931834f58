/-
The table of expressions while a description is built.

Slots are given out to texts one after the other, and `Construction.filling?` is what the slot of a
text is filled with.  Building changes the table in one way only: a program gets a slot, and its
slot may get an entry (`Construction.put`, `Build.run_slot`).  All that refers to the template
itself stays as annotating left it, which is what `Construction.Sane` says.
-/
import Trellis.Description.Build
import Trellis.Proofs.Code.Fragment
import Trellis.Proofs.Container.Table

namespace Trellis.Description

open Container

/-! ### Entries -/

namespace Construction

variable {a : Arena} {d : Construction} {x y : String} {i : Nat} {e : Expression}

/-- The texts that have slots. -/
def texts (d : Construction) : List String := d.arena.table.slots

/-- What the slot of a text is filled with. -/
def filling? (d : Construction) (x : String) : Option Expression :=
  (d.texts.idxOf? x).bind fun i => d.expressions[i]?.join

/-- A stored program gets a slot. -/
def allocated (d : Construction) (s : Stored) : Construction :=
  { d with arena := { d.arena with table := (d.arena.table.allocate s).2 } }

/-- A slot is filled, if there is something to fill it with. -/
def filled (d : Construction) (i : Nat) : Option Expression → Construction
  | none => d
  | some e => { d with expressions := (Build.grown d.expressions i).setIfInBounds i (some e) }

/-- A program gets a slot, which may get a new entry. -/
def put (d : Construction) (p : Program) (symbols : Symbols) (r : Option Expression) :
    Construction :=
  ({ d.allocated ⟨p.text, p⟩ with symbols }).filled (d.arena.table.allocate ⟨p.text, p⟩).1 r

/-- Nothing changes of what annotating left in `a` but the slots.  Each has a text of the table, and
is filled with the program of that text, if at all. -/
structure Sane (a : Arena) (d : Construction) : Prop where
  containers : d.arena.containers = a.containers
  stored : d.arena.table.stored = a.table.stored
  nodup : d.texts.Nodup
  known : ∀ x ∈ d.texts, (a.table.find? x).isSome
  size : d.expressions.size ≤ d.texts.length
  entry : ∀ {x e}, d.filling? x = some e → a.table.find? x = some ⟨x, e.program⟩ ∧ e.source = x

lemma mem_texts_of_filling? (h : d.filling? x = some e) : x ∈ d.texts := by
  obtain ⟨i, hi, -⟩ := Option.bind_eq_some_iff.1 h
  exact List.mem_of_getElem? (getElem?_of_idxOf? hi)

lemma filling?_of_getElem? (hd : d.Sane a) (h : d.texts[i]? = some x) :
    d.filling? x = d.expressions[i]?.join := by
  rw [filling?, idxOf?_of_getElem? hd.nodup h, Option.bind_some]

lemma texts_allocated (d : Construction) (s : Stored) :
    (d.allocated s).texts = if s.text ∈ d.texts then d.texts else d.texts ++ [s.text] :=
  d.arena.table.slots_allocate s

lemma mem_texts_allocated : x ∈ (d.allocated s).texts ↔ x ∈ d.texts ∨ x = s.text := by
  rw [texts_allocated]
  split
  · next h =>
    constructor
    · exact .inl
    · rintro (hx | rfl)
      · exact hx
      · exact h
  · simp

lemma prefix_allocated (d : Construction) (s : Stored) : d.texts <+: (d.allocated s).texts := by
  rw [texts_allocated]
  split
  · exact List.prefix_rfl
  · exact List.prefix_append _ _

/-- Giving out a slot fills none. -/
lemma filling?_allocated (hd : d.Sane a) (s : Stored) :
    (d.allocated s).filling? x = d.filling? x := by
  rw [filling?, filling?, texts_allocated]
  split
  · rfl
  · next hs =>
    cases hx : d.texts.idxOf? x with
    | some i => rw [idxOf?_append hx]; rfl
    | none =>
      by_cases hsx : s.text = x
      · -- the new slot lies behind the table
        subst hsx
        rw [idxOf?_append_self hs, Option.bind_some, Option.bind_none]
        change (d.expressions[d.texts.length]?).join = none
        rw [Array.getElem?_eq_none hd.size]
        rfl
      · have hnot : x ∉ d.texts ++ [s.text] := by
          simpa [Ne.symm hsx] using List.idxOf?_eq_none_iff.1 hx
        rw [List.idxOf?_eq_none_iff.2 hnot]
        rfl

lemma Sane.allocated (hd : d.Sane a) (hs : (a.table.find? s.text).isSome) :
    (d.allocated s).Sane a where
  containers := hd.containers
  stored := (Table.stored_allocate _ s).trans hd.stored
  nodup := by
    rw [texts_allocated]
    split
    · exact hd.nodup
    · next h => exact List.nodup_append.2 ⟨hd.nodup, by simp, by rintro x hx y hy rfl; simp_all⟩
  known x hx := by
    obtain hx | rfl := mem_texts_allocated.1 hx
    · exact hd.known x hx
    · exact hs
  size := Nat.le_trans hd.size (prefix_allocated d s).length_le
  entry h := by
    rw [filling?_allocated hd] at h
    exact hd.entry h

lemma getElem?_grown (table : Array (Option Expression)) (i j : Nat) :
    (Build.grown table i)[j]?.join = table[j]?.join := by
  rw [Build.grown, Array.getElem?_append]
  split
  · rfl
  · next h =>
    rw [Array.getElem?_replicate, Array.getElem?_eq_none (Nat.le_of_not_lt h)]
    split <;> rfl

lemma size_grown (table : Array (Option Expression)) (i : Nat) :
    (Build.grown table i).size = max table.size (i + 1) := by
  rw [Build.grown, Array.size_append, Array.size_replicate]
  omega

/-- Filling a slot changes what its text has. -/
lemma filling?_filled (hd : d.Sane a) (h : d.texts[i]? = some x) (r : Option Expression) :
    (d.filled i r).filling? y = if x = y then r.or (d.filling? y) else d.filling? y := by
  cases r with
  | none => simp [filled]
  | some e =>
    rw [filled, filling?]
    change ((d.texts.idxOf? y).bind fun j =>
      ((Build.grown d.expressions i).setIfInBounds i (some e))[j]?.join) = _
    have hgrown : i < (Build.grown d.expressions i).size := by
      rw [size_grown]
      omega
    split
    · next hxy =>
      subst hxy
      rw [idxOf?_of_getElem? hd.nodup h, Option.bind_some, Array.getElem?_setIfInBounds, if_pos rfl,
        if_pos hgrown, Option.some_or, Option.join_some]
    · next hxy =>
      rw [filling?]
      refine Option.bind_congr fun j hj => ?_
      have hij : i ≠ j := by
        rintro rfl
        exact hxy (Option.some.inj (h.symm.trans (getElem?_of_idxOf? hj)))
      rw [Array.getElem?_setIfInBounds, if_neg hij, getElem?_grown]

lemma Sane.filled (hd : d.Sane a) (h : d.texts[i]? = some x) {r : Option Expression}
    (hr : ∀ e, r = some e → a.table.find? x = some ⟨x, e.program⟩ ∧ e.source = x) :
    (d.filled i r).Sane a := by
  have hentry : ∀ {y e}, (d.filled i r).filling? y = some e →
      a.table.find? y = some ⟨y, e.program⟩ ∧ e.source = y := by
    intro y e he
    rw [filling?_filled hd h] at he
    split at he
    · next hxy =>
      subst hxy
      cases r with
      | none => exact hd.entry he
      | some e' =>
        cases he
        exact hr _ rfl
    · exact hd.entry he
  cases r with
  | none => exact hd
  | some e =>
    refine ⟨hd.containers, hd.stored, hd.nodup, hd.known, ?_, hentry⟩
    obtain ⟨hi, -⟩ := List.getElem?_eq_some_iff.1 h
    change ((Build.grown d.expressions i).setIfInBounds i (some e)).size ≤ d.texts.length
    rw [Array.size_setIfInBounds, size_grown]
    have hsize := hd.size
    omega

/-- What is not about slots may change. -/
lemma Sane.congr {d' : Construction} (hd : d.Sane a) (harena : d'.arena = d.arena)
    (hexpressions : d'.expressions = d.expressions) : d'.Sane a := by
  obtain ⟨arena, symbols, bodies, expressions, watches, watchers⟩ := d
  obtain ⟨arena', symbols', bodies', expressions', watches', watchers'⟩ := d'
  cases harena
  cases hexpressions
  exact ⟨hd.containers, hd.stored, hd.nodup, hd.known, hd.size, hd.entry⟩

/-! ### A program that is put into the table -/

variable {p : Program} {symbols : Symbols} {r : Option Expression}

lemma bodies_put (d : Construction) (p : Program) (symbols : Symbols) (r : Option Expression) :
    (d.put p symbols r).bodies = d.bodies := by
  cases r <;> rfl

lemma watchers_put (d : Construction) (p : Program) (symbols : Symbols) (r : Option Expression) :
    (d.put p symbols r).watchers = d.watchers := by
  cases r <;> rfl

lemma texts_put (d : Construction) (p : Program) (symbols : Symbols) (r : Option Expression) :
    (d.put p symbols r).texts = (d.allocated ⟨p.text, p⟩).texts := by
  cases r <;> rfl

lemma prefix_put (d : Construction) (p : Program) (symbols : Symbols) (r : Option Expression) :
    d.texts <+: (d.put p symbols r).texts := by
  rw [texts_put]
  exact prefix_allocated d _

lemma mem_texts_put : x ∈ (d.put p symbols r).texts ↔ x ∈ d.texts ∨ x = p.text := by
  rw [texts_put, mem_texts_allocated]

lemma getElem?_texts_put (d : Construction) (p : Program) (symbols : Symbols)
    (r : Option Expression) :
    (d.put p symbols r).texts[(d.arena.table.allocate ⟨p.text, p⟩).1]? = some p.text := by
  rw [texts_put]
  exact getElem?_of_idxOf? (d.arena.table.idxOf?_allocate ⟨p.text, p⟩)

lemma sane_allocated (hd : d.Sane a) (hp : a.table.Knows p) :
    ({ d.allocated ⟨p.text, p⟩ with symbols } : Construction).Sane a := by
  refine (hd.allocated (s := ⟨p.text, p⟩) ?_).congr rfl rfl
  rw [hp.find?]
  rfl

lemma filling?_put (hd : d.Sane a) (hp : a.table.Knows p) :
    (d.put p symbols r).filling? y = if p.text = y then r.or (d.filling? y) else d.filling? y := by
  rw [put, filling?_filled (sane_allocated hd hp)
    (getElem?_of_idxOf? (d.arena.table.idxOf?_allocate ⟨p.text, p⟩))]
  change (if p.text = y then r.or ((d.allocated ⟨p.text, p⟩).filling? y) else
    (d.allocated ⟨p.text, p⟩).filling? y) = _
  rw [filling?_allocated hd]

lemma Sane.put (hd : d.Sane a) (hp : a.table.Knows p)
    (hr : ∀ e, r = some e → e.program = p ∧ e.source = p.text) : (d.put p symbols r).Sane a := by
  refine (sane_allocated hd hp).filled
    (getElem?_of_idxOf? (d.arena.table.idxOf?_allocate ⟨p.text, p⟩)) fun e he => ?_
  obtain ⟨hprogram, hsource⟩ := hr e he
  rw [hprogram]
  exact ⟨hp.find?, hsource⟩

end Construction

namespace Build

variable {a : Arena} {d : Construction} {p : Program} {o : Options}

lemma run_bind {α β : Type} (w : Build α) (g : α → Build β) (d : Construction) :
    (w >>= g).run d = match w.run d with
      | .ok (x, e) => (g x).run e
      | .error f => .error f := by
  rw [StateT.run_bind]
  cases w.run d <;> rfl

lemma run_work {β : Type} (w : Work β) (d : Construction) :
    (work w).run d = match w.on d.arena with
      | (.ok x, arena) => .ok (x, { d with arena })
      | (.error f, _) => .error f := by
  change (match w.on d.arena with
    | (.ok b, arena) => (do set { d with arena }; return b : Build β)
    | (.error f, _) => throw f).run d = _
  rcases w.on d.arena with ⟨_ | _, arena⟩ <;> rfl

lemma run_entry? (i : Nat) (d : Construction) :
    ( entry? i).run d = .ok (d.expressions[i]?.join, d) := rfl

/-- How programs are compiled for a description. -/
def code (o : Options) : Code.Options := { decorators := o.decorators, interned := true }

lemma run_compiled {β : Type} (o : Options) (c : Code.Options → Code.Compile β) (d : Construction) :
    (compiled o c).run d = ((c (code o)).run.run d.symbols).1.map fun x =>
      (x, { d with symbols := ((c (code o)).run.run d.symbols).2 }) := by
  have hget : (get : Build Construction).run d = .ok (d, d) := rfl
  rw [compiled, run_bind, hget]
  dsimp only
  have hcode : (c { decorators := o.decorators, interned := true }).run d.symbols =
    (c (code o)).run.run d.symbols := rfl
  rw [hcode]
  rcases (c (code o)).run.run d.symbols with ⟨_ | _, symbols⟩ <;> rfl

/-- Compiling a known program for a use gives it a slot, which gets another entry if need be. -/
theorem run_slot (hd : d.Sane a) (hp : a.table.Knows p) (use : Use) :
    (slot o use p).run d =
      ((entryFor (code o) p use (d.filling? p.text)).run.run d.symbols).1.map fun r =>
        ((d.arena.table.allocate ⟨p.text, p⟩).1,
          d.put p ((entryFor (code o) p use (d.filling? p.text)).run.run d.symbols).2 r) := by
  have hintern : d.arena.table.intern p = (⟨p.text, p⟩, d.arena.table) := by
    have hp' : d.arena.table.Knows p := ⟨by rw [Table.find?, hd.stored]; exact hp.find?, rfl⟩
    exact hp'.intern
  have hwork : ((do Work.allocate (← Work.intern p)) : Work Nat).on d.arena =
      (.ok (d.arena.table.allocate ⟨p.text, p⟩).1, (d.allocated ⟨p.text, p⟩).arena) := by
    rw [Work.on_bind (Work.on_intern p d.arena), hintern]
    rfl
  have hentry : d.expressions[(d.arena.table.allocate ⟨p.text, p⟩).1]?.join =
      d.filling? p.text := by
    have hslot : (d.allocated ⟨p.text, p⟩).texts[(d.arena.table.allocate ⟨p.text, p⟩).1]? =
      some p.text :=
      getElem?_of_idxOf? (d.arena.table.idxOf?_allocate ⟨p.text, p⟩)
    have hsane : ({ d.allocated ⟨p.text, p⟩ with symbols := d.symbols } : Construction).Sane a :=
      Construction.sane_allocated hd hp
    exact (Construction.filling?_of_getElem? hsane hslot).symm.trans
      (Construction.filling?_allocated hd _)
  rw [slot, run_bind, run_work, hwork]
  simp only
  rw [run_bind, run_entry?]
  simp only
  rw [hentry, run_bind, run_compiled]
  simp only
  -- compiling looks at the symbols only
  generalize entryFor (code o) p use (d.filling? p.text) = c
  rcases hc : c.run.run d.symbols with ⟨f | r, symbols⟩
  · simp only [Except.map]
  · simp only [Except.map]
    cases r <;> rfl

end Build

end Trellis.Description
