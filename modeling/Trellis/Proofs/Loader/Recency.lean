/-
A cache forgets what was not used for longest.

What a cache keeps is told by its history, the calls on it.  The modules stand in the order of their
last use (`Cache.recency`): a value that is kept and a value that is found bring a module to the
front, and when there are too many modules the last one goes.  What is found for a module is the
value that was kept for it last (`Cache.lastSet`).  The pile and its index come to the same after
every history (`Cache.follows_recency`).
-/
import Mathlib.Data.List.Nodup
import Trellis.Loader.Cache

namespace Trellis.Loader

variable {α : Type}

namespace Pile

variable {p : Pile α} {k : Nat} {e : Cached α} {module digest : String} {value : α} {capacity : Nat}

/-! ### What becomes of the modules -/

/-- Without the cell of a module there is one module less. -/
lemma Indexed.modules_filter (h : p.Indexed) (he : (k, e) ∈ p.cells) :
    (p.cells.filter (·.1 != k)).map (·.2.module) = p.modules.erase e.module := by
  have hsame : ∀ c ∈ p.cells, (c.1 != k) = ((· != e.module) ∘ (·.2.module)) c := by
    intro c hc
    rw [Bool.eq_iff_iff, Function.comp_apply, bne_iff_ne, bne_iff_ne]
    exact not_congr (h.cell_iff he hc)
  rw [h.nodup_modules.erase_eq_filter, Pile.modules, List.filter_map, List.filter_congr hsame]

lemma Indexed.find?_cell (h : p.Indexed) (he : (k, e) ∈ p.cells) :
    p.cells.find? (·.1 == k) = some (k, e) := by
  cases hfound : p.cells.find? (·.1 == k) with
  | none => exact absurd (List.find?_eq_none.1 hfound _ he) (by simp)
  | some c =>
    have hkey : c.1 = k := by simpa using List.find?_some hfound
    rw [eq_of_map_nodup h.nodup_cells (List.mem_of_find?_eq_some hfound) he hkey]

lemma Indexed.toTop_eq (h : p.Indexed) (he : (k, e) ∈ p.cells) :
    (p.toTop k).cells = (k, e) :: p.cells.filter (·.1 != k) := by
  rw [Pile.toTop, h.find?_cell he]

/-- The module of a cell that goes to the top stands first. -/
lemma Indexed.modules_toTop (h : p.Indexed) (he : (k, e) ∈ p.cells) :
    (p.toTop k).modules = e.module :: p.modules.erase e.module := by
  rw [Pile.modules, h.toTop_eq he, List.map_cons, h.modules_filter he]

lemma Indexed.modules_remove (h : p.Indexed) (he : (k, e) ∈ p.cells) :
    (p.remove k e.module).modules = p.modules.erase e.module := h.modules_filter he

/-- The module at the bottom is the last one. -/
lemma Indexed.modules_dropBottom (h : p.Indexed) : p.dropBottom.modules = p.modules.dropLast := by
  rw [Pile.dropBottom]
  split
  · next c hlast =>
    obtain ⟨front, hcells⟩ := List.getLast?_eq_some_iff.1 hlast
    have hmodules : p.modules = front.map (·.2.module) ++ [c.2.module] := by
      rw [Pile.modules, hcells, List.map_append]; rfl
    have hnodup : (front.map (·.2.module) ++ [c.2.module]).Nodup := hmodules ▸ h.nodup_modules
    have hnot : c.2.module ∉ front.map (·.2.module) := fun hmem =>
      List.disjoint_of_nodup_append hnodup hmem (List.mem_singleton_self _)
    rw [h.modules_remove (List.mem_of_getLast? hlast), hmodules, List.erase_append_right _ hnot,
      List.erase_cons_head,
      List.append_nil, List.dropLast_concat]
  · next hnone => rw [Pile.modules, List.getLast?_eq_none_iff.1 hnone]; rfl

/-- What is written in a cell. -/
lemma Indexed.mem_write (h : p.Indexed) (he : (k, e) ∈ p.cells) {c : Nat × Cached α}
    (hc : c ∈ (p.write k digest value).cells) : c = (k, { e with digest, value }) ∨ c ∈ p.cells ∧
    c.1 ≠ k := by
  obtain ⟨d, hd, rfl⟩ := List.mem_map.1 hc
  split
  · next heq =>
    obtain rfl := eq_of_map_nodup h.nodup_cells hd he (eq_of_beq heq)
    exact .inl rfl
  · next hne => exact .inr ⟨hd, by simpa using hne⟩

/-! ### What the operations do -/

/-- A module has a cell or is not on the pile. -/
lemma Indexed.cellOf?_cases (h : p.Indexed) (module : String) :
    (p.cellOf? module = none ∧ module ∉ p.modules) ∨
      ∃ k e, p.cellOf? module = some k ∧ (k, e) ∈ p.cells ∧ e.module = module := by
  cases hcell : p.cellOf? module with
  | none => exact .inl ⟨rfl, h.not_mem_of_cellOf? hcell⟩
  | some k =>
    obtain ⟨e, he⟩ := h.exists_of_cellOf? hcell
    exact .inr ⟨k, e, rfl, he⟩

/-- A module is found if it is on the pile with the digest; its cell goes to the top. -/
lemma Indexed.get_cases (h : p.Indexed) (module digest : String) :
    (module ∉ p.modules ∧ p.get module digest = (none, p)) ∨
      ∃ k e, (k, e) ∈ p.cells ∧ e.module = module ∧
        p.get module digest = if e.digest = digest then (some e.value, p.toTop k)
        else (none, p) := by
  obtain ⟨hnone, hnot⟩ | ⟨k, e, hcell, he, hmodule⟩ := h.cellOf?_cases module
  · exact .inl ⟨hnot, by rw [Pile.get, hnone]⟩
  · refine .inr ⟨k, e, he, hmodule, ?_⟩
    have hentry : p.entryIn? k = some e := by rw [entryIn?, h.find?_cell he]; rfl
    simp only [Pile.get, hcell, hentry]
    by_cases hdigest : e.digest = digest
    · simp [hdigest]
    · simp [hdigest]

/-- A module keeps its cell, or it gets a new one. -/
lemma Indexed.set_cases (h : p.Indexed) (capacity : Nat) (module digest : String) (value : α) :
    (module ∉ p.modules ∧ p.set capacity module digest value =
        (if p.cells.length ≥ capacity then p.dropBottom else p).push ⟨module, digest, value⟩) ∨
      ∃ k e, (k, e) ∈ p.cells ∧ e.module = module ∧
        p.set capacity module digest value = (p.write k digest value).toTop k := by
  obtain ⟨hnone, hnot⟩ | ⟨k, e, hcell, he, hmodule⟩ := h.cellOf?_cases module
  · exact .inl ⟨hnot, by rw [Pile.set, hnone]⟩
  · exact .inr ⟨k, e, he, hmodule, by rw [Pile.set, hcell]⟩

lemma Indexed.erase_cases (h : p.Indexed) (module : String) :
    (module ∉ p.modules ∧ p.erase module = p) ∨
      ∃ k e, (k, e) ∈ p.cells ∧ e.module = module ∧ p.erase module = p.remove k module := by
  obtain ⟨hnone, hnot⟩ | ⟨k, e, hcell, he, hmodule⟩ := h.cellOf?_cases module
  · exact .inl ⟨hnot, by rw [Pile.erase, hnone]⟩
  · exact .inr ⟨k, e, he, hmodule, by rw [Pile.erase, hcell]⟩

end Pile

namespace Cache

/-! ### Histories -/

/-- A call on a cache. -/
inductive Call (α : Type) where
  | get (module digest : String)
  | set (module digest : String) (value : α)
  | erase (module : String)

/-- A cache after a call. -/
def call (c : Cache α) : Call α → Cache α
  | .get module digest => (c.get module digest).2
  | .set module digest value => c.set module digest value
  | .erase module => c.erase module

/-- A cache after a history, in which the last call stands first. -/
def after (c : Cache α) (history : List (Call α)) : Cache α :=
  history.foldr (fun call c => c.call call) c

/-- What was kept last for a module, and with which digest. -/
def lastSet (module : String) : List (Call α) → Option (String × α)
  | [] => none
  | .set module' digest value :: earlier =>
    if module' = module then some (digest, value) else lastSet module earlier
  | .get _ _ :: earlier | .erase _ :: earlier => lastSet module earlier

/-- The modules that a cache keeps, the one that was used last first: those that were kept or found
go to the front, and of too many the last one goes. -/
def recency (capacity : Nat) : List (Call α) → List String
  | [] => []
  | .get module digest :: earlier =>
    let modules := recency capacity earlier
    if module ∈ modules ∧ (lastSet module earlier).map (·.1) = some digest then module ::
      modules.erase module
    else modules
  | .set module _ _ :: earlier =>
    let modules := module :: (recency capacity earlier).erase module
    if modules.length > capacity then modules.dropLast else modules
  | .erase module :: earlier => (recency capacity earlier).erase module

/-- A pile as its history tells it. -/
structure Follows (capacity : Nat) (history : List (Call α)) (p : Pile α) : Prop where
  modules : p.modules = recency capacity history
  last : ∀ c ∈ p.cells, lastSet c.2.module history = some (c.2.digest, c.2.value)
  bound : p.modules.length ≤ capacity

namespace Follows

variable {capacity k : Nat} {history : List (Call α)} {p : Pile α} {e : Cached α}
  {module digest : String} {value : α}

lemma mem_modules {c : Nat × Cached α} (hc : c ∈ p.cells) : c.2.module ∈ p.modules :=
  List.mem_map_of_mem hc

/-- A module is found under a digest if its last value was kept under it. -/
lemma get_eq_some (h : Follows capacity history p) (hp : p.Indexed) :
    (p.get module digest).1 = some value ↔
    module ∈ recency capacity history ∧ lastSet module history = some (digest, value) := by
  rw [← h.modules]
  obtain ⟨hnot, hget⟩ | ⟨k, e, he, rfl, hget⟩ := hp.get_cases module digest
  · rw [hget]
    exact iff_of_false nofun fun hboth => hnot hboth.1
  · rw [hget, h.last _ he, Option.some_inj, Prod.mk.injEq, and_iff_right (mem_modules he)]
    split
    · next hdigest => rw [Option.some_inj, and_iff_right hdigest]
    · next hdigest => exact iff_of_false nofun fun hboth => hdigest hboth.1

/-- What is not found changes nothing. -/
lemma get_eq_self (hp : p.Indexed) (hnone : (p.get module digest).1 = none) :
    (p.get module digest).2 = p := by
  obtain ⟨-, hget⟩ | ⟨k, e, -, -, hget⟩ := hp.get_cases module digest
  · rw [hget]
  · rw [hget] at hnone ⊢
    split at hnone
    · cases hnone
    · next hdigest => rw [if_neg hdigest]

lemma get (h : Follows capacity history p) (hp : p.Indexed) (module digest : String) :
    Follows capacity (.get module digest :: history) (p.get module digest).2 := by
  obtain ⟨hnot, hget⟩ | ⟨k, e, he, rfl, hget⟩ := hp.get_cases module digest
  · rw [hget]
    refine ⟨?_, h.last, h.bound⟩
    rw [recency, ← h.modules, if_neg fun hboth => hnot hboth.1]
  · have hlast : (lastSet e.module history).map (·.1) = some digest ↔ e.digest = digest := by
      rw [h.last _ he, Option.map_some, Option.some_inj]
    rw [hget]
    split
    · next hdigest =>
      have hmodules := hp.modules_toTop he
      refine ⟨?_, fun c hc => h.last c ((hp.toTop_cells k).mem_iff.1 hc), ?_⟩
      · rw [hmodules, recency, ← h.modules, if_pos ⟨mem_modules he, hlast.2 hdigest⟩]
      · rw [hmodules, List.length_cons, List.length_erase_add_one (mem_modules he)]
        exact h.bound
    · next hdigest =>
      refine ⟨?_, h.last, h.bound⟩
      rw [recency, ← h.modules, if_neg fun hboth => hdigest (hlast.1 hboth.2)]

lemma set (h : Follows capacity history p) (hp : p.Indexed) (hcapacity : 0 < capacity)
    (module digest : String) (value : α) : Follows capacity (.set module digest value :: history)
    (p.set capacity module digest value) := by
  have hother : ∀ c ∈ p.cells, c.2.module ≠ module →
      lastSet c.2.module (.set module digest value :: history) = some (c.2.digest, c.2.value) := by
    intro c hc hne
    rw [lastSet, if_neg (Ne.symm hne)]
    exact h.last c hc
  obtain ⟨hnot, hset⟩ | ⟨k, e, he, rfl, hset⟩ := hp.set_cases capacity module digest value
  · have hlength : p.modules.length = p.cells.length := List.length_map _
    have hrecency : recency capacity (.set module digest value :: history) =
        if (module :: p.modules).length > capacity then (module :: p.modules).dropLast
            else module :: p.modules := by
      rw [recency, ← h.modules, List.erase_of_not_mem hnot]
    have hlast : ∀ q : Pile α, q.cells ⊆ p.cells → ∀ c ∈ (q.push ⟨module, digest, value⟩).cells,
        lastSet c.2.module (.set module digest value :: history) =
            some (c.2.digest, c.2.value) := by
      intro q hq c hc
      rcases List.mem_cons.1 hc with rfl | hc
      · exact if_pos rfl
      · exact hother c (hq hc) fun heq => hnot (heq ▸ mem_modules (hq hc))
    rw [hset]
    split
    · next hfull =>
      -- the pile is not empty, so the last module is one of those that were there
      have hmodules : (p.dropBottom.push ⟨module, digest, value⟩).modules =
          (module :: p.modules).dropLast := by
        have hne : p.modules ≠ [] := by
          intro hempty
          rw [hempty] at hlength
          simp only [List.length_nil] at hlength
          omega
        rw [List.dropLast_cons_of_ne_nil hne, ← hp.modules_dropBottom]
        rfl
      refine ⟨?_, hlast _ fun c hc => Pile.mem_of_mem_dropBottom hc, ?_⟩
      · rw [hmodules, hrecency, if_pos (by rw [List.length_cons]; omega)]
      · rw [hmodules, List.length_dropLast, List.length_cons]
        exact h.bound
    · next hroom =>
      refine ⟨?_, hlast p fun _ hc => hc, ?_⟩
      · rw [hrecency, if_neg (by rw [List.length_cons]; omega)]
        rfl
      · change p.modules.length + 1 ≤ capacity
        omega
  · have hwrite : (p.write k digest value).Indexed := hp.write k digest value
    have hmem : (k, { e with digest, value }) ∈ (p.write k digest value).cells :=
      List.mem_map.2 ⟨(k, e), he, if_pos (beq_self_eq_true k)⟩
    have hmodules : (p.set capacity e.module digest value).modules = e.module ::
        p.modules.erase e.module := by
      rw [hset, hwrite.modules_toTop hmem, Pile.modules_write]
    have hlength : (e.module :: p.modules.erase e.module).length = p.modules.length := by
      rw [List.length_cons, List.length_erase_add_one (mem_modules he)]
    refine ⟨?_, fun c hc => ?_, ?_⟩
    · rw [hmodules, recency, ← h.modules, if_neg (by rw [hlength]; exact Nat.not_lt.2 h.bound)]
    · rw [hset] at hc
      obtain rfl | ⟨hc, hne⟩ := hp.mem_write he ((hwrite.toTop_cells k).mem_iff.1 hc)
      · exact if_pos rfl
      · exact hother c hc fun heq => hne ((hp.cell_iff he hc).2 heq)
    · rw [hmodules, hlength]
      exact h.bound

lemma erase (h : Follows capacity history p) (hp : p.Indexed) (module : String) :
    Follows capacity (.erase module :: history) (p.erase module) := by
  obtain ⟨hnot, herase⟩ | ⟨k, e, he, rfl, herase⟩ := hp.erase_cases module
  · rw [herase]
    refine ⟨?_, h.last, h.bound⟩
    rw [recency, ← h.modules, List.erase_of_not_mem hnot]
  · have hmodules := hp.modules_remove he
    rw [herase]
    refine ⟨by rw [hmodules, recency, ← h.modules], fun c hc =>
      h.last c (List.mem_of_mem_filter hc), ?_⟩
    rw [hmodules]
    exact Nat.le_trans List.length_erase_le h.bound

end Follows

/-! ### Runs -/

lemma capacity_after (c : Cache α) (history : List (Call α)) :
    (c.after history).capacity = c.capacity := by
  induction history with
  | nil => rfl
  | cons call history ih =>
    have hcall : ((c.after history).call call).capacity = (c.after history).capacity := by
      cases call <;> rfl
    exact hcall.trans ih

/-- The pile of a cache is what its history tells. -/
lemma follows_after (n : Int) (history : List (Call α)) :
    Follows (ofCapacity n : Cache α).capacity history ((ofCapacity n).after history).pile := by
  have hpositive : 0 < (ofCapacity n : Cache α).capacity := by
    change 0 < if n ≤ 0 then 256 else n.toNat
    split <;> omega
  induction history with
  | nil => exact ⟨rfl, fun _ hc => absurd hc List.not_mem_nil, Nat.zero_le _⟩
  | cons call history ih =>
    -- the calls before left the capacity as it was, and it is that of the first cache in the
    -- induction
    have hindexed := ((ofCapacity n).after history).indexed
    have hcapacity := capacity_after (ofCapacity n) history
    cases call with
    | get module digest => exact ih.get hindexed module digest
    | set module digest value =>
      have hset := ih.set hindexed hpositive module digest value
      rwa [← hcapacity] at hset ⊢
    | erase module => exact ih.erase hindexed module

/-- **A cache keeps what was used last.** After every history the modules stand on its pile and in
its index as they were used, each once and no more of them than its capacity; what is found for a
module is what was kept for it last, if the module is still there and the digest is the same, and
looking up anything else changes nothing. -/
theorem follows_recency (n : Int) (history : List (Call α)) :
    let capacity := if n ≤ 0 then 256 else n.toNat
    let c := (ofCapacity n).after history
    c.entries.map (·.module) = recency capacity history ∧
      (c.pile.index.map (·.1)).Perm (recency capacity history) ∧
      (recency capacity history).Nodup ∧ (recency capacity history).length ≤ capacity ∧
      (∀ module digest value, (c.get module digest).1 = some value ↔
        module ∈ recency capacity history ∧ lastSet module history = some (digest, value)) ∧
      ∀ module digest, (c.get module digest).1 = none → (c.get module digest).2 = c := by
  intro capacity c
  have h : Follows capacity history c.pile := follows_after n history
  have hentries : c.entries.map (·.module) = c.pile.modules := by rw [entries, List.map_map]; rfl
  refine ⟨hentries.trans h.modules, ?_, h.modules ▸ c.indexed.nodup_modules, h.modules ▸ h.bound,
    ?_, ?_⟩
  · rw [← h.modules]
    have hindex := c.indexed.perm.map (·.1)
    rwa [List.map_map] at hindex
  · exact fun _ _ _ => h.get_eq_some c.indexed
  · intro module digest hnone
    have hpile : (c.pile.get module digest).2 = c.pile := Follows.get_eq_self c.indexed hnone
    change Cache.mk c.capacity (c.pile.get module digest).2 _ = Cache.mk c.capacity c.pile _
    simp only [hpile]

/-- The module that was found stays, and the one that was kept after it goes. -/
example : recency 2 [.set "c" "1" 3, .get "a" "1", .set "b" "1" 2, .set "a" "1" 1] =
    ["c", "a"] := by decide

end Cache

end Trellis.Loader
