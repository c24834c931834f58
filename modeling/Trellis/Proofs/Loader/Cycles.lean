/-
A loader takes no module that depends on itself, while what it has loaded stays as it is.

A module depends on those that the current text of its file asks for (`Depends`).  Loading a module
loads these first, and refuses one that is being loaded already.  So a module that was loaded is
`Settled`: all chains of its dependencies end, and no cycle can be reached from it
(`Settled.no_cycle`).  This is known of a module in the cache without looking at its dependencies
again, which is right as long as no file of them is edited (`Spares`): then all that stands in the
cache stays settled over any number of edits and loads (`Reachable.sound`).  An edit of a dependency
of a module in the cache is not noticed (`load_unnoticed`).
-/
import Mathlib.Data.List.Forall2
import Mathlib.Logic.Relation
import Trellis.Loader.Basic
import Trellis.Proofs.Asked
import Trellis.Proofs.Manifest

namespace Trellis

namespace Loader

/-! ### Dependencies -/

variable (o : Options)

/-- The nodes of the text of a module, as it is read when it stands in the file of the module. -/
def nodesOf (module source : String) : Except Fault (List Markup.Node) :=
  let file := o.names.fileOf module
  Markup.read { file := if file.isEmpty then module else file, promoteText := o.promoteText } source

/-- What the current text of the file of a module asks for.  A text that cannot be read asks for
nothing. -/
def wants (files : Files) (module : String) : List String :=
  match files.read (o.names.fileOf module) with
  | .error _ => []
  | .ok source =>
    match nodesOf o module source with
    | .error _ => []
    | .ok nodes =>
      match (Annotated.ofNodes module nodes : Except Fault (Annotated Unit)) with
      | .error _ => []
      | .ok a => a.manifest.paths

/-- The current text of the file of `m` asks for `n`. -/
def Depends (files : Files) (m n : String) : Prop :=
  ∃ name ∈ wants o files m, n = o.names.moduleOf name

/-- All chains of dependencies that start at a module end. -/
def Settled (files : Files) (m : String) : Prop := Acc (fun n m => Depends o files m n) m

variable {o} {files : Files} {m n : String}

lemma settled_of_wants (h : ∀ name ∈ wants o files m, Settled o files (o.names.moduleOf name)) :
    Settled o files m := by
  refine Acc.intro m fun n hn => ?_
  obtain ⟨name, hname, rfl⟩ := hn
  exact h name hname

lemma Settled.reaches (h : Settled o files m) (hn : Relation.ReflTransGen (Depends o files) m n) :
    Settled o files n := by
  induction hn with
  | refl => exact h
  | tail _ hstep ih => exact ih.inv hstep

/-- **No cycle of dependencies can be reached from a settled module.** -/
theorem Settled.no_cycle (h : Settled o files m)
    (hn : Relation.ReflTransGen (Depends o files) m n) :
    ¬Relation.TransGen (Depends o files) n n := by
  have hacc : Acc (Relation.TransGen fun n m => Depends o files m n) n := (h.reaches hn).transGen
  have hirrefl : ∀ k, Acc (Relation.TransGen fun n m => Depends o files m n) k →
      ¬Relation.TransGen (fun n m => Depends o files m n) k k := by
    intro k hk
    induction hk with
    | intro k _ ih => exact fun hcycle => ih k hcycle hcycle
  exact fun hcycle => hirrefl n hacc (Relation.transGen_swap.2 hcycle)

/-- Where an edit leaves all files that can be reached, a module stays settled. -/
lemma Settled.of_same {files' : Files} (h : Settled o files m)
    (hsame : ∀ n, Relation.ReflTransGen (Depends o files) m n →
      files'.read (o.names.fileOf n) = files.read (o.names.fileOf n)) : Settled o files' m := by
  induction h with
  | intro m _ ih =>
    have hwants : wants o files' m = wants o files m := by rw [wants, wants, hsame m .refl]
    refine settled_of_wants fun name hname => ?_
    rw [hwants] at hname
    have hstep : Depends o files m (o.names.moduleOf name) := ⟨name, hname, rfl⟩
    exact ih _ hstep fun n hn => hsame n (.head hstep hn)

/-! ### Work of the loader -/

/-- The result of work of the loader, and the state after it. -/
def on {α : Type} (w : Load α) (s : State) : Except Fault α × State := (ExceptT.run w).run s

variable (o files) in
/-- What is known of a loader over files: it has no store, nothing is registered but templates, and
the modules in its cache are settled. -/
structure Sound (s : State) : Prop where
  same : s.files = files
  store : s.store = none
  registry : ∀ e ∈ s.registry, ∃ at_, e.2 = .template at_
  cached : ∀ e ∈ s.cache.entries, Settled o files e.module

variable (o files) in
/-- A loader of which all this is known stays so over the work.  A result satisfies `R`, a fault
`E`. -/
def Ends {α : Type} (w : Load α) (R : α → Prop) (E : Fault → Prop) : Prop :=
  ∀ s, Sound o files s → Sound o files (on w s).2 ∧
    match (on w s).1 with
    | .ok x => R x
    | .error f => E f

section

variable {α β : Type} {R : α → Prop} {E : Fault → Prop}

lemma ends_pure {x : α} (h : R x) : Ends o files (pure x) R E := fun _ hs => ⟨hs, h⟩

lemma ends_throw {f : Fault} (h : E f) : Ends o files (throw f : Load α) R E := fun _ hs => ⟨hs, h⟩

lemma ends_bind {w : Load β} {g : β → Load α} {Q : β → Prop} (hw : Ends o files w Q E)
    (hg : ∀ x, Q x → Ends o files (g x) R E) : Ends o files (w >>= g) R E := by
  intro s hs
  have hon : on (w >>= g) s = match on w s with
      | (.ok x, s') => on (g x) s'
      | (.error f, s') => (.error f, s') := by
    change (ExceptT.bindCont g (on w s).1).run (on w s).2 = _
    rcases on w s with ⟨_ | x, s'⟩ <;> rfl
  obtain ⟨hs', hend⟩ := hw s hs
  rw [hon]
  rcases hrun : on w s with ⟨_ | x, s'⟩
  · rw [hrun] at hs' hend
    exact ⟨hs', hend⟩
  · rw [hrun] at hs' hend
    exact hg x hend s' hs'

lemma Ends.mono {w : Load α} {R' : α → Prop} {E' : Fault → Prop} (h : Ends o files w R E)
    (hR : ∀ x, R x → R' x) (hE : ∀ f, E f → E' f) : Ends o files w R' E' := by
  intro s hs
  obtain ⟨hs', hend⟩ := h s hs
  refine ⟨hs', ?_⟩
  rcases hrun : (on w s).1 with f | x
  · rw [hrun] at hend
    exact hE f hend
  · rw [hrun] at hend
    exact hR x hend

lemma ends_get : Ends o files get (Sound o files) E := fun _ hs => ⟨hs, hs⟩

lemma ends_modify {f : State → State} (h : ∀ s, Sound o files s → Sound o files (f s)) :
    Ends o files (modify f) (fun _ => True) E := fun s hs => ⟨h s hs, trivial⟩

/-- A result or a fault that is known. -/
lemma ends_except {r : Except Fault α} (hR : ∀ x, r = .ok x → R x) (hE : ∀ f, r = .error f → E f) :
    Ends o files (ExceptT.mk (pure r)) R E := by
  intro s hs
  refine ⟨hs, ?_⟩
  cases r with
  | ok x => exact hR x rfl
  | error f => exact hE f rfl

/-- An attempt does not fail. -/
lemma ends_attempt {w : Load α} {E' : Fault → Prop} (h : Ends o files w R E) :
    Ends o files (attempt w) (fun r => match r with
      | .ok x => R x
      | .error f => E f) E' := fun s hs => h s hs

lemma ends_report (r : Log.Report) : Ends o files (report r) (fun _ => True) E :=
  ends_modify fun _ hs => ⟨hs.same, hs.store, hs.registry, hs.cached⟩

lemma ends_inMemory (w : Run α) (hE : ∀ f, E f) : Ends o files (inMemory w) (fun _ => True) E := by
  refine ends_bind ends_get fun s hs => ?_
  refine ends_bind (Q := fun _ => True) ?_ fun _ _ => ends_except (fun _ _ => trivial) fun f _ =>
    hE f
  exact fun _ _ => ⟨⟨hs.same, hs.store, hs.registry, hs.cached⟩, trivial⟩

lemma ends_mapM {xs : List β} {f : β → Load α} {P : β → α → Prop}
    (h : ∀ x ∈ xs, Ends o files (f x) (P x) E) :
    Ends o files (xs.mapM f) (List.Forall₂ P xs) E := by
  induction xs with
  | nil => exact ends_pure .nil
  | cons x xs ih =>
    rw [List.mapM_cons]
    refine ends_bind (h x List.mem_cons_self) fun y hy => ?_
    refine ends_bind (ih fun z hz => h z (List.mem_cons_of_mem _ hz)) fun ys hys => ?_
    exact ends_pure (.cons hy hys)

end

/-! ### Loading -/

variable (o files) in
/-- A fault says that work was called off only if the module is settled even so. -/
def Excused (m : String) (f : Fault) : Prop :=
  o.cancelled = false → f.isCancelled = true → Settled o files m

variable (o files) in
/-- Loading modules in this way settles them. -/
def Settles (load : String → Load Nat) : Prop :=
  ∀ name, Ends o files (load name) (fun _ => Settled o files (o.names.moduleOf name))
    (Excused o files (o.names.moduleOf name))

lemma find?_template {r : Registry} (h : ∀ e ∈ r, ∃ at_, e.2 = .template at_) (name : String) :
    r.find? name = none ∨ ∃ at_, r.find? name = some (.template at_) := by
  cases hfound : r.find? name with
  | none => exact .inl rfl
  | some c =>
    obtain ⟨e, he, rfl⟩ := Option.map_eq_some_iff.1 hfound
    obtain ⟨at_, hat⟩ := h e (List.mem_of_find?_eq_some he)
    exact .inr ⟨at_, congrArg some hat⟩

variable (o files) in
/-- A module was loaded and is settled, or it was not loaded for a fault that is excused. -/
def Outcome (name : String) (out : String × Except Fault Unit) : Prop :=
  match out.2 with
  | .ok _ => Settled o files (o.names.moduleOf name)
  | .error f => Excused o files (o.names.moduleOf name) f

lemma settled_of_outcomes {names : List String} {outcomes : List (String × Except Fault Unit)}
    (h : List.Forall₂ (Outcome o files) names outcomes) (hcancelled : o.cancelled = false)
    (hfaults : ∀ out ∈ outcomes, ∀ f, out.2 = .error f → f.isCancelled = true) :
    ∀ name ∈ names, Settled o files (o.names.moduleOf name) := by
  induction h with
  | nil => exact fun _ hname => absurd hname List.not_mem_nil
  | @cons name out names outcomes hout _ ih =>
    intro name' hname
    rcases List.mem_cons.1 hname with rfl | hname
    · rcases out with ⟨_, f | _⟩
      · exact hout hcancelled (hfaults _ List.mem_cons_self f rfl)
      · exact hout
    · exact ih (fun out hmem => hfaults out (List.mem_cons_of_mem _ hmem)) name' hname

/-- When a request for dependencies succeeds, they are settled. -/
lemma ends_require {load : String → Load Nat} (hload : Settles o files load) (a : Manifest Unit) :
    Ends o files (require o load a)
    (fun _ => ∀ name ∈ a.pending, Settled o files (o.names.moduleOf name))
      fun f => o.cancelled = false → f.isCancelled = false := by
  refine ends_bind (ends_mapM (P := Outcome o files) fun name _ => ?_) fun outcomes houtcomes => ?_
  · have hattempt : Ends o files (do return (name, (← attempt (load name)).map fun _ =>
      ()) : Load _)
        (Outcome o files name) fun f => o.cancelled = false → f.isCancelled = false := by
      refine ends_bind (ends_attempt (hload name)) fun r hr => ends_pure ?_
      cases r with
      | ok x => exact hr
      | error f => exact hr
    refine ends_bind ends_get fun s hs => ?_
    rcases find?_template hs.registry name with hnone | ⟨at_, hat⟩
    · rw [hnone]
      exact hattempt
    · rw [hat]
      exact hattempt
  split
  next hempty =>
    rw [List.isEmpty_iff.1 hempty, List.forall₂_nil_right_iff] at houtcomes
    rw [houtcomes]
    exact ends_pure fun _ hname => absurd hname List.not_mem_nil
  next =>
    refine ends_except (fun _ hok => ?_) fun f hf hcancelled => ?_
    · obtain ⟨hcancelled, hfaults⟩ := Manifest.request_ok hok
      exact settled_of_outcomes houtcomes hcancelled hfaults
    · rw [hcancelled] at hf
      exact Manifest.request_error hf

/-- Describing the text of a module settles it. -/
lemma ends_describe {load : String → Load Nat} (hload : Settles o files load)
    {module source : String} (hsource : files.read (o.names.fileOf module) = .ok source) :
    Ends o files (describe o load module (o.names.fileOf module) source)
    (fun _ => Settled o files module)
      (Excused o files module) := by
  -- a text that is not understood asks for nothing
  refine ends_bind (Q := fun nodes => nodesOf o module source = .ok nodes)
    (ends_except (fun _ h => h) fun f hf _ _ => settled_of_wants ?_) fun nodes hnodes => ?_
  · have hf : nodesOf o module source = .error f := hf
    simp only [wants, hsource, hf]
    exact fun _ hname => absurd hname List.not_mem_nil
  refine ends_bind (Q := fun a => (Annotated.ofNodes module nodes : Except Fault (Annotated Unit)) =
    .ok a)
    (ends_except (fun a h => ?_) fun f hf _ _ => settled_of_wants ?_) fun a ha => ?_
  · cases hannotated : (Annotated.ofNodes module nodes : Except Fault (Annotated Unit)) with
    | error f =>
      rw [hannotated] at h
      cases h
    | ok b =>
      rw [hannotated] at h
      exact h
  · cases hannotated : (Annotated.ofNodes module nodes : Except Fault (Annotated Unit)) with
    | error f =>
      simp only [wants, hsource, hnodes, hannotated]
      exact fun _ hname => absurd hname List.not_mem_nil
    | ok b =>
      rw [hannotated] at hf
      cases hf
  refine ends_bind (Q := fun _ => Settled o files module)
    ((ends_require hload a.manifest).mono ?_ ?_) fun _ hsettled => ?_
  · intro _ hpending
    refine settled_of_wants ?_
    simp only [wants, hsource, hnodes, ha]
    rwa [Annotated.pending_ofNodes ha] at hpending
  · intro f hf hcancelled hf'
    rw [hf hcancelled] at hf'
    cases hf'
  -- from here on the module is settled, whatever comes of the rest
  refine ends_bind (Q := fun _ => True) (ends_except (fun _ _ => trivial) fun _ _ _ _ => hsettled)
    fun d _ => ?_
  exact ends_bind (ends_report _) fun _ _ => ends_pure hsettled

/-! ### The cache and the registry -/

namespace Pile

variable {α : Type} {p : Pile α} {d : Nat × Cached α} {module digest : String} {value : α}
  {capacity : Nat}

/-- Looking something up takes nothing in. -/
lemma Indexed.mem_of_mem_get (hp : p.Indexed) (h : d ∈ (p.get module digest).2.cells) :
    d ∈ p.cells := by
  unfold Pile.get at h
  split at h
  · exact h
  · split at h
    · exact h
    · split at h
      · exact h
      · exact (hp.toTop_cells _).mem_iff.1 h

/-- What is found lies in the cell of the module. -/
lemma Indexed.exists_of_get (hp : p.Indexed) (h : (p.get module digest).1 = some value) :
    ∃ k e, (k, e) ∈ p.cells ∧ e.module = module := by
  unfold Pile.get at h
  split at h
  · cases h
  · next k hk => exact ⟨k, hp.exists_of_cellOf? hk⟩

/-- What is kept for a module changes no other entry. -/
lemma Indexed.mem_set (hp : p.Indexed) (h : d ∈ (p.set capacity module digest value).cells) :
    d.2.module = module ∨ d ∈ p.cells := by
  unfold Pile.set at h
  split at h
  · next k hk =>
    obtain ⟨e, he, hmodule⟩ := hp.exists_of_cellOf? hk
    have hwritten := ((hp.write k digest value).toTop_cells k).mem_iff.1 h
    obtain ⟨d', hd', rfl⟩ := List.mem_map.1 hwritten
    split
    · next heq =>
      obtain rfl := eq_of_map_nodup hp.nodup_cells hd' he (eq_of_beq heq)
      exact .inl hmodule
    · exact .inr hd'
  · rcases List.mem_cons.1 h with rfl | h
    · exact .inl rfl
    · split at h
      · exact .inr (mem_of_mem_dropBottom h)
      · exact .inr h

end Pile

namespace Cache

variable {α : Type} {c : Cache α} {e : Cached α} {module digest : String} {value : α}

lemma mem_of_mem_get (h : e ∈ (c.get module digest).2.entries) : e ∈ c.entries := by
  obtain ⟨d, hd, rfl⟩ := List.mem_map.1 h
  exact List.mem_map_of_mem (c.indexed.mem_of_mem_get hd)

lemma exists_of_get (h : (c.get module digest).1 = some value) : ∃ e ∈ c.entries,
    e.module = module := by
  obtain ⟨k, e, he, hmodule⟩ := c.indexed.exists_of_get h
  exact ⟨e, List.mem_map_of_mem he, hmodule⟩

lemma mem_set (h : e ∈ (c.set module digest value).entries) : e.module = module ∨
    e ∈ c.entries := by
  obtain ⟨d, hd, rfl⟩ := List.mem_map.1 h
  exact (c.indexed.mem_set hd).imp id List.mem_map_of_mem

end Cache

lemma mem_register {r : Registry} {name : String} {c : Component} {e : String × Component}
    (h : e ∈ r.register name c) : e.2 = c ∨ e ∈ r := by
  have hinsert : ∀ {r : Registry} {name}, e ∈ Registry.register.insert c name r → e.2 = c ∨
      e ∈ r := by
    intro r name h
    induction r with
    | nil =>
      obtain rfl := List.mem_singleton.1 h
      exact .inl rfl
    | cons e' es ih =>
      rw [Registry.register.insert] at h
      split at h
      · rcases List.mem_cons.1 h with rfl | h
        · exact .inl rfl
        · exact .inr (List.mem_cons_of_mem _ h)
      · split at h
        · rcases List.mem_cons.1 h with rfl | h
          · exact .inl rfl
          · exact .inr h
        · rcases List.mem_cons.1 h with rfl | h
          · exact .inr List.mem_cons_self
          · exact (ih h).imp id (List.mem_cons_of_mem _)
  exact hinsert h

/-! ### Loading modules -/

/-- A fault of the catalog does not say that work was called off. -/
lemma excused_make (code : Fault.Code) (details : List (String × String)) :
    Excused o files m (Fault.make code details) := by
  intro _ h
  cases h

/-- A loader has no store that it could take a description from, or keep one in. -/
lemma ends_stored {E : Fault → Prop} (module digest : String) :
    Ends o files (stored o module digest) (fun d => d = none) E := by
  refine ends_bind ends_get fun s hs => ?_
  rw [hs.store]
  exact ends_pure rfl

lemma ends_persist {E : Fault → Prop} (module digest : String) (d : Description) :
    Ends o files (persist module digest d) (fun _ => True) E := by
  refine ends_bind ends_get fun s hs => ?_
  rw [hs.store]
  exact ends_pure trivial

/-- The template of a settled module may be kept. -/
lemma ends_keep (hsettled : Settled o files m) (digest : String) (d : Description) :
    Ends o files (do
      let t ← ExceptT.mk (pure (Template.ofDescription d o.toolkit))
      let at_ ← inMemory (Memory.newTemplate t)
      modify fun s => { s with
        cache := s.cache.set m digest at_
        registry := s.registry.register m (.template at_) }
      return at_) (fun _ => Settled o files m) (Excused o files m) := by
  refine ends_bind (Q := fun _ => True) (ends_except (fun _ _ => trivial) fun _ _ _ _ => hsettled)
    fun t _ => ?_
  refine ends_bind (ends_inMemory _ fun _ _ _ => hsettled) fun at_ _ => ?_
  refine ends_bind (ends_modify fun s hs => ⟨hs.same, hs.store, fun e he => ?_, fun e he => ?_⟩)
      fun _ _ =>
    ends_pure hsettled
  · rcases mem_register he with he | he
    · exact ⟨at_, he⟩
    · exact hs.registry e he
  · rcases Cache.mem_set he with he | he
    · exact he.symm ▸ hsettled
    · exact hs.cached e he

/-- **Loading a module settles it**, whatever is being loaded already and however deep modules may
depend on each other. -/
theorem settles_loadTo (depth : Nat) : ∀ chain, Settles o files (loadTo o depth chain) := by
  induction depth with
  | zero =>
    intro chain name
    rw [loadTo]
    exact ends_throw fun _ h => by cases h
  | succ depth ih =>
    intro chain name
    rw [loadTo]
    dsimp only
    split
    · exact ends_throw (excused_make _ _)
    refine ends_bind ends_get fun s hs => ?_
    rw [hs.same]
    cases hsource : files.read (o.names.fileOf (o.names.moduleOf name)) with
    | error f =>
      -- a module whose file cannot be read asks for nothing
      refine ends_bind (Q := fun _ => False) (ends_throw fun _ _ => settled_of_wants ?_) fun _ h =>
        h.elim
      simp only [wants, hsource]
      exact fun _ hname => absurd hname List.not_mem_nil
    | ok source =>
      dsimp only
      rw [pure_bind]
      refine ends_bind ends_get fun s hs => ?_
      refine ends_bind (ends_modify fun s' hs' => ⟨hs'.same, hs'.store, hs'.registry, fun e he =>
        hs.cached e (Cache.mem_of_mem_get he)⟩) fun _ _ => ?_
      cases hhit : (s.cache.get (o.names.moduleOf name) (Digest.ofText source)).1 with
      | some at_ =>
        obtain ⟨e, he, hmodule⟩ := Cache.exists_of_get hhit
        exact ends_pure (hmodule ▸ hs.cached e he)
      | none =>
        refine ends_bind (ends_stored _ _) fun d hd => ?_
        rw [hd]
        refine ends_bind (ends_describe (ih _) hsource) fun d hsettled => ?_
        refine ends_bind (ends_persist _ _ _) fun _ _ => ?_
        rw [pure_bind]
        exact ends_keep hsettled _ d

/-! ### Histories -/

variable (o) in
/-- An edit spares a loader's cache if it leaves the files of all modules that are in it, and of all
that these depend on, directly or not, as they are. -/
def Spares (s : State) (files : Files) : Prop :=
  ∀ e ∈ s.cache.entries, ∀ n, Relation.ReflTransGen (Depends o s.files) e.module n →
    files.read (o.names.fileOf n) = s.files.read (o.names.fileOf n)

variable (o) in
/-- The states of a loader without a store over a history of edits that spare its cache and of
loads, whatever comes of these. -/
inductive Reachable : State → Prop
  | start {s : State} (hstore : s.store = none) (hregistry : s.registry = [])
      (hcache : s.cache.entries = []) :
    Reachable s
  | edit {s : State} {files : Files} (h : Reachable s) (hspares : Spares o s files) :
      Reachable { s with files }
  | load {s : State} (name : String) (h : Reachable s) : Reachable (on (load o name) s).2

/-- Loading a module in a sound state. -/
lemma Sound.load {s : State} (hs : Sound o s.files s) (name : String) :
    Sound o s.files (on (load o name) s).2 ∧
      ∀ k, (on (load o name) s).1 = .ok k → Settled o s.files (o.names.moduleOf name) := by
  have hends : Ends o s.files (Loader.load o name) (fun _ =>
    Settled o s.files (o.names.moduleOf name))
      (Excused o s.files (o.names.moduleOf name)) := ends_bind ends_get fun _ _ =>
        settles_loadTo _ _ _
  obtain ⟨hs', hend⟩ := hends s hs
  refine ⟨hs', fun k hk => ?_⟩
  rw [hk] at hend
  exact hend

/-- What is in the cache stays settled. -/
theorem Reachable.sound {s : State} (h : Reachable o s) : Sound o s.files s := by
  induction h with
  | start hstore hregistry hcache =>
    refine ⟨rfl, hstore, ?_, ?_⟩
    · rw [hregistry]
      exact fun _ he => absurd he List.not_mem_nil
    · rw [hcache]
      exact fun _ he => absurd he List.not_mem_nil
  | edit _ hspares ih =>
    exact ⟨rfl, ih.store, ih.registry, fun e he => (ih.cached e he).of_same (hspares e he)⟩
  | load name _ ih =>
    obtain ⟨hs, -⟩ := ih.load name
    exact ⟨rfl, hs.store, hs.registry, by rw [hs.same]; exact hs.cached⟩

/-- **Loading accepts no cycle of dependencies**, over any history of edits and loads in which no
edit changes a file that a module in the cache depends on: when a load of a module succeeds, no
cycle can be reached from it in the files as they are then. -/
theorem Reachable.load_no_cycle {s s' : State} (h : Reachable o s) {name : String} {k : Nat}
    (hload : on (Loader.load o name) s = (.ok k, s')) {n : String}
    (hn : Relation.ReflTransGen (Depends o s.files) (o.names.moduleOf name) n) :
    ¬Relation.TransGen (Depends o s.files) n n := by
  obtain ⟨-, hsettled⟩ := h.sound.load name
  have hresult : (on (Loader.load o name) s).1 = .ok k := by rw [hload]
  exact (hsettled k hresult).no_cycle hn

/-- Modules below the working folder. -/
def plainOptions : Options := { names := .ofLead "" "" }

/-- A file that uses a second one. -/
def pairFiles (second : String) : Files :=
  { tree := .folder [("A.wml", .file "<B/>"), ("B.wml", .file second)] }

theorem Reachable.load_no_cycle_pair :
    ∃ k s', on (Loader.load plainOptions "A") { files := pairFiles "x" } = (.ok k, s') ∧
      ¬Relation.TransGen (Depends plainOptions (pairFiles "x")) (plainOptions.names.moduleOf "B")
        (plainOptions.names.moduleOf "B") := by
  have hok : (on (Loader.load plainOptions "A") { files := pairFiles "x" }).1.isOk = true := by
    decide +kernel
  have hwants : wants plainOptions (pairFiles "x") (plainOptions.names.moduleOf "A") = ["B"] := by
    decide +kernel
  rcases h : on (Loader.load plainOptions "A") { files := pairFiles "x" } with ⟨f | k, s'⟩
  · rw [h] at hok
    cases hok
  · refine ⟨k, s', rfl, ?_⟩
    have hreachable : Reachable plainOptions { files := pairFiles "x" } := .start rfl rfl rfl
    exact hreachable.load_no_cycle h
      (.single ⟨"B", by rw [hwants]; exact List.mem_singleton_self _, rfl⟩)

/-- An edit of a dependency of a module in the cache is not noticed: when the second file is made to
use the first one, which was loaded before, the first one is loaded again all the same. -/
theorem load_unnoticed :
    let s : State :=
      { (on (load plainOptions "A") { files := pairFiles "x" }).2 with files := pairFiles "<A/>" }
    (∃ k, (on (load plainOptions "A") s).1 = .ok k) ∧
      Relation.TransGen (Depends plainOptions s.files) (plainOptions.names.moduleOf "A")
        (plainOptions.names.moduleOf "A") := by
  intro s
  constructor
  · have hok : (on (load plainOptions "A") s).1.isOk = true := by decide +kernel
    cases h : (on (load plainOptions "A") s).1 with
    | error f =>
      rw [h] at hok
      cases hok
    | ok k => exact ⟨k, rfl⟩
  · have hthere : wants plainOptions (pairFiles "<A/>") (plainOptions.names.moduleOf "A") =
      ["B"] := by decide +kernel
    have hback : wants plainOptions (pairFiles "<A/>") (plainOptions.names.moduleOf "B") =
      ["A"] := by decide +kernel
    exact .head ⟨"B", by rw [hthere]; exact List.mem_singleton_self _, rfl⟩
      (.single ⟨"A", by rw [hback]; exact List.mem_singleton_self _, rfl⟩)

end Loader

end Trellis
