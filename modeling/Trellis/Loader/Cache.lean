/-
A cache that forgets what was not used for longest.

The entries of a cache lie on a pile, the one that was used last on top.  Each lies in a cell of its
own, which it keeps wherever on the pile it is, and an index leads from a module to its cell.  Pile
and index always speak of the same modules: `Pile.Indexed` says so, every operation keeps it, and a
cache carries it with it.
-/

namespace Trellis.Loader

/-- What is kept for a module, with the digest of the text that it was made from. -/
structure Cached (α : Type) where
  module : String
  digest : String
  value : α

/-- Entries in their cells, the one that was used last first, and the cell of each module. -/
structure Pile (α : Type) where
  cells : List (Nat × Cached α) := []
  index : List (String × Nat) := []
  /-- how many cells were made so far -/
  made : Nat := 0

namespace Pile

variable {α : Type} {p : Pile α}

/-- The cell of a module. -/
def cellOf? (p : Pile α) (module : String) : Option Nat := (p.index.find? (·.1 == module)).map (·.2)

/-- The entry in a cell. -/
def entryIn? (p : Pile α) (k : Nat) : Option (Cached α) := (p.cells.find? (·.1 == k)).map (·.2)

/-- Moves a cell to the top. -/
def toTop (p : Pile α) (k : Nat) : Pile α :=
  match p.cells.find? (·.1 == k) with
  | some c => { p with cells := c :: p.cells.filter (·.1 != k) }
  | none => p

/-- Writes over what a cell keeps for its module. -/
def write (p : Pile α) (k : Nat) (digest : String) (value : α) : Pile α :=
  { p with cells := p.cells.map fun c => if c.1 == k then (k, { c.2 with digest, value }) else c }

/-- Puts an entry on top, in a new cell. -/
def push (p : Pile α) (e : Cached α) : Pile α where
  cells := (p.made, e) :: p.cells
  index := (e.module, p.made) :: p.index
  made := p.made + 1

/-- Takes out a cell, which is that of a module. -/
def remove (p : Pile α) (k : Nat) (module : String) : Pile α :=
  { p with cells := p.cells.filter (·.1 != k), index := p.index.filter (·.1 != module) }

/-- Takes out the cell at the bottom. -/
def dropBottom (p : Pile α) : Pile α :=
  match p.cells.getLast? with
  | some c => p.remove c.1 c.2.module
  | none => p

/-- What is kept for a module and a digest; its cell goes to the top. -/
def get (p : Pile α) (module digest : String) : Option α × Pile α :=
  match p.cellOf? module with
  | none => (none, p)
  | some k =>
    match p.entryIn? k with
    | none => (none, p)
    | some e => if e.digest != digest then (none, p) else (some e.value, p.toTop k)

/-- Keeps a value for a module, in its cell if it has one.  Otherwise it gets a new one, and what
lies at the bottom is taken out first when the pile is full. -/
def set (p : Pile α) (capacity : Nat) (module digest : String) (value : α) : Pile α :=
  match p.cellOf? module with
  | some k => (p.write k digest value).toTop k
  | none => (if p.cells.length ≥ capacity then p.dropBottom else p).push ⟨module, digest, value⟩

/-- Takes out a module. -/
def erase (p : Pile α) (module : String) : Pile α :=
  match p.cellOf? module with
  | some k => p.remove k module
  | none => p

/-! ### Pile and index -/

/-- The modules on a pile, from the top. -/
def modules (p : Pile α) : List String := p.cells.map (·.2.module)

/-- What the index has for a cell: the module that it is for, and the cell. -/
def label (c : Nat × Cached α) : String × Nat := (c.2.module, c.1)

/-- The index has a label for each cell on the pile, and nothing else; no module and no cell is
there twice, and all cells were made before. -/
structure Indexed (p : Pile α) : Prop where
  perm : p.index.Perm (p.cells.map label)
  nodup_modules : p.modules.Nodup
  nodup_cells : (p.cells.map (·.1)).Nodup
  made : ∀ c ∈ p.cells, c.1 < p.made

/-- Where no value stands twice, the value tells the element. -/
theorem eq_of_map_nodup {β γ : Type} {f : β → γ} {xs : List β} (h : (xs.map f).Nodup) {a b : β}
    (ha : a ∈ xs) (hb : b ∈ xs) (hab : f a = f b) : a = b := by
  induction xs with
  | nil => exact absurd ha List.not_mem_nil
  | cons x xs ih =>
    obtain ⟨hnot, hrest⟩ := List.nodup_cons.1 h
    rcases List.mem_cons.1 ha with rfl | ha'
    · rcases List.mem_cons.1 hb with rfl | hb'
      · rfl
      · exact absurd (List.mem_map.2 ⟨b, hb', hab.symm⟩) hnot
    · rcases List.mem_cons.1 hb with rfl | hb'
      · exact absurd (List.mem_map.2 ⟨a, ha', hab⟩) hnot
      · exact ih hrest ha' hb'

/-- Only what a cell keeps is written over. -/
theorem map_write {β : Type} (k : Nat) (digest : String) (value : α) (f : Nat × Cached α → β)
    (hf : ∀ c : Nat × Cached α, c.1 = k → f (k, { c.2 with digest, value }) = f c) :
    (p.write k digest value).cells.map f = p.cells.map f := by
  rw [write, List.map_map]
  refine List.map_congr_left fun c _ => ?_
  rw [Function.comp_apply]
  split
  next heq => exact hf c (eq_of_beq heq)
  next => rfl

/-- Moving the one cell with a number in front of the others changes the order only. -/
theorem perm_of_find? {k : Nat} {cells : List (Nat × Cached α)} {c : Nat × Cached α}
    (hnodup : (cells.map (·.1)).Nodup) (hfound : cells.find? (·.1 == k) = some c) :
    (c :: cells.filter (·.1 != k)).Perm cells := by
  induction cells with
  | nil => cases hfound
  | cons c' cells ih =>
    obtain ⟨hnot, hnodup⟩ := List.nodup_cons.1 hnodup
    rw [List.find?_cons] at hfound
    split at hfound
    next heq =>
      -- none of the others has the number
      obtain rfl := Option.some.inj hfound
      have hrest : cells.filter (·.1 != k) = cells := List.filter_eq_self.2 fun d hd => by
        rw [bne_iff_ne, ← eq_of_beq heq]
        exact fun hsame => hnot (List.mem_map.2 ⟨d, hd, hsame⟩)
      rw [List.filter_cons, if_neg (by simpa using heq), hrest]
    next hne =>
      rw [List.filter_cons, if_pos (by simpa using hne)]
      exact (List.Perm.swap ..).trans ((ih hnodup hfound).cons c')

theorem modules_write (p : Pile α) (k : Nat) (digest : String) (value : α) :
    (p.write k digest value).modules = p.modules := map_write k digest value (·.2.module) fun _ _ =>
    rfl

theorem mem_of_mem_dropBottom {c : Nat × Cached α} (h : c ∈ p.dropBottom.cells) : c ∈ p.cells := by
  unfold dropBottom at h
  split at h
  next => exact (List.mem_filter.1 h).1
  next => exact h

namespace Indexed

variable {k : Nat} {module : String}

theorem empty : ({} : Pile α).Indexed := ⟨.nil, .nil, .nil, fun _ h => absurd h List.not_mem_nil⟩

/-- The index leads to the cell of a module. -/
theorem exists_of_cellOf? (h : p.Indexed) (hk : p.cellOf? module = some k) :
    ∃ e, (k, e) ∈ p.cells ∧ e.module = module := by
  obtain ⟨⟨m, k'⟩, hfound, rfl⟩ := Option.map_eq_some_iff.1 hk
  obtain ⟨⟨j, e⟩, hmem, hlabel⟩ :=
    List.mem_map.1 (h.perm.mem_iff.1 (List.mem_of_find?_eq_some hfound))
  obtain ⟨rfl, rfl⟩ := Prod.mk.inj hlabel
  exact ⟨e, hmem, by simpa using List.find?_some hfound⟩

/-- A module that is not in the index has no cell. -/
theorem not_mem_of_cellOf? (h : p.Indexed) (hnone : p.cellOf? module = none) :
    module ∉ p.modules := by
  intro hmem
  obtain ⟨c, hc, rfl⟩ := List.mem_map.1 hmem
  have hlabel : label c ∈ p.index := h.perm.mem_iff.2 (List.mem_map_of_mem hc)
  have hne := List.find?_eq_none.1 (Option.map_eq_none_iff.1 hnone) _ hlabel
  simp [label] at hne

/-- The order of the cells does not matter. -/
theorem of_perm {q : Pile α} (h : p.Indexed) (hcells : q.cells.Perm p.cells)
    (hindex : q.index = p.index) (hmade : q.made = p.made) : q.Indexed where
  perm := hindex ▸ h.perm.trans (hcells.map label).symm
  nodup_modules := (hcells.map _).nodup_iff.2 h.nodup_modules
  nodup_cells := (hcells.map _).nodup_iff.2 h.nodup_cells
  made c hc := hmade ▸ h.made c (hcells.mem_iff.1 hc)

/-- Moving a cell changes the order of the cells. -/
theorem toTop_cells (h : p.Indexed) (k : Nat) : (p.toTop k).cells.Perm p.cells := by
  rw [Pile.toTop]
  split
  next c hfound => exact perm_of_find? h.nodup_cells hfound
  next => exact .refl _

theorem toTop (h : p.Indexed) (k : Nat) : (p.toTop k).Indexed := by
  refine h.of_perm (h.toTop_cells k) ?_ ?_ <;> (rw [Pile.toTop]; split <;> rfl)

theorem write (h : p.Indexed) (k : Nat) (digest : String) (value : α) :
    (p.write k digest value).Indexed := by
  have hlabels := map_write (p := p) k digest value label fun c hc => by rw [← hc]; rfl
  have hkeys := map_write (p := p) k digest value (·.1) fun c hc => hc.symm
  refine ⟨hlabels ▸ h.perm, modules_write p k digest value ▸ h.nodup_modules, hkeys ▸ h.nodup_cells,
    fun c hc => ?_⟩
  obtain ⟨d, hd, hkey⟩ := List.mem_map.1 (hkeys ▸ List.mem_map_of_mem hc : c.1 ∈ p.cells.map (·.1))
  exact hkey ▸ h.made d hd

theorem push (h : p.Indexed) {e : Cached α} (he : e.module ∉ p.modules) : (p.push e).Indexed where
  perm := h.perm.cons _
  nodup_modules := List.nodup_cons.2 ⟨he, h.nodup_modules⟩
  nodup_cells := by
    refine List.nodup_cons.2 ⟨fun hmem => ?_, h.nodup_cells⟩
    obtain ⟨c, hc, hmade⟩ := List.mem_map.1 hmem
    exact Nat.lt_irrefl _ (hmade ▸ h.made c hc)
  made c hc := by
    rcases List.mem_cons.1 hc with rfl | hc
    · exact Nat.lt_succ_self _
    · exact Nat.lt_succ_of_lt (h.made c hc)

/-- A cell tells its module, and a module its cell. -/
theorem cell_iff (h : p.Indexed) {e : Cached α} (he : (k, e) ∈ p.cells) {c : Nat × Cached α}
    (hc : c ∈ p.cells) :
    c.1 = k ↔ c.2.module = e.module where
  mp heq := congrArg (·.2.module) (eq_of_map_nodup h.nodup_cells hc he heq)
  mpr heq := congrArg Prod.fst (eq_of_map_nodup h.nodup_modules hc he heq)

/-- The cell of a module is taken out of the pile and of the index. -/
theorem remove (h : p.Indexed) {e : Cached α} (he : (k, e) ∈ p.cells) :
    (p.remove k e.module).Indexed where
  perm := by
    -- the index says the same of the module as the pile of the cell
    have hsame : ∀ c ∈ p.cells, ((·.1 != e.module) ∘ label) c = (c.1 != k) := by
      intro c hc
      rw [Bool.eq_iff_iff, Function.comp_apply, bne_iff_ne, bne_iff_ne]
      exact not_congr (h.cell_iff he hc).symm
    have hindex := h.perm.filter (·.1 != e.module)
    rwa [List.filter_map, List.filter_congr hsame] at hindex
  nodup_modules := h.nodup_modules.sublist (List.filter_sublist.map _)
  nodup_cells := h.nodup_cells.sublist (List.filter_sublist.map _)
  made c hc := h.made c (List.mem_filter.1 hc).1

theorem dropBottom (h : p.Indexed) : p.dropBottom.Indexed := by
  rw [Pile.dropBottom]
  split
  next c hlast => exact h.remove (List.mem_of_getLast? hlast)
  next => exact h

theorem get (h : p.Indexed) (module digest : String) : (p.get module digest).2.Indexed := by
  unfold Pile.get
  split
  · exact h
  · split
    · exact h
    · split
      · exact h
      · exact h.toTop _

theorem set (h : p.Indexed) (capacity : Nat) (module digest : String) (value : α) :
    (p.set capacity module digest value).Indexed := by
  unfold Pile.set
  split
  next k _ => exact (h.write k digest value).toTop k
  next hnone =>
    have hnot := h.not_mem_of_cellOf? hnone
    split
    · refine h.dropBottom.push fun hmem => hnot ?_
      obtain ⟨c, hc, rfl⟩ := List.mem_map.1 hmem
      exact List.mem_map_of_mem (mem_of_mem_dropBottom hc)
    · exact h.push hnot

theorem erase (h : p.Indexed) (module : String) : (p.erase module).Indexed := by
  unfold Pile.erase
  split
  next k hk =>
    obtain ⟨e, he, rfl⟩ := h.exists_of_cellOf? hk
    exact h.remove he
  next => exact h

end Indexed

end Pile

/-! ### Caches -/

/-- A cache of bounded size. -/
structure Cache (α : Type) where
  capacity : Nat
  pile : Pile α
  indexed : pile.Indexed

namespace Cache

variable {α : Type}

/-- An empty cache; a capacity that is not positive means 256. -/
def ofCapacity (n : Int) : Cache α :=
  { capacity := if n ≤ 0 then 256 else n.toNat, pile := {}, indexed := .empty }

/-- What is kept, the entry that was used last first. -/
def entries (c : Cache α) : List (Cached α) := c.pile.cells.map (·.2)

/-- What is kept for a module and a digest; the entry counts as used. -/
def get (c : Cache α) (module digest : String) : Option α × Cache α :=
  ((c.pile.get module digest).1,
    { c with pile := (c.pile.get module digest).2, indexed := c.indexed.get module digest })

/-- Keeps a value for a module.  A new module takes the place of the one that was not used for
longest when the cache is full. -/
def set (c : Cache α) (module digest : String) (value : α) : Cache α :=
  { c with
    pile := c.pile.set c.capacity module digest value
    indexed := c.indexed.set c.capacity module digest value }

/-- Forgets a module. -/
def erase (c : Cache α) (module : String) : Cache α :=
  { c with pile := c.pile.erase module, indexed := c.indexed.erase module }

end Cache

end Trellis.Loader
