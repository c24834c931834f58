/-
Requests for dependencies, whose loads end in any order.

All loads of a request run at once.  What a load comes to is noted under a lock, one load after the
other, in whatever order they get there; a load that failed then calls the others off, which share
one context.  `Loading` is a request under way and `Step` what can happen next, so that a run of
steps is an interleaving of the loads.  Whatever the order is, the request comes to what
`Manifest.request` makes of the outcomes in the order in which they were noted (`Loading.Sound`),
and loads that succeeded stay.

A load that was called off is not reported, as an echo of the failure that called it off.  That is
right as long as loads are candid: as long as none says that it was called off before another one
failed.  Then a request succeeds only if all that was asked for is there, and fails if a load did
(`Loading.request_honest`).  A load that says so on its own is taken for an echo, too, and the
request succeeds without it (`Loading.request_unfounded`).
-/
import Mathlib.Data.List.Induction
import Mathlib.Data.List.Nodup
import Mathlib.Logic.Relation
import Trellis.Manifest

namespace Trellis

/-! ### What a request comes to -/

namespace Fault

lemma isCancelledIn_eq (fs : List Fault) : isCancelledIn fs = fs.any isCancelled := by
  induction fs with
  | nil => rfl
  | cons f fs ih => rw [isCancelledIn, ih, List.any_cons]

/-- A fault of the catalog was called off if its cause was. -/
lemma isCancelled_because (code : Code) (details : List (String × String)) (f : Fault) :
    ((make code details).because f).isCancelled = f.isCancelled := by
  rw [make, ofCode, because, isCancelled, isCancelledIn, isCancelledIn, Bool.or_false]
  nofun

end Fault

namespace Manifest

variable {α : Type} {cancelled : Bool}

/-- What the failed loads of a request come to. -/
def loadFaults (cancelled : Bool) (outcomes : List (String × Except Fault α)) : List Fault :=
  outcomes.flatMap fun o => match o.2 with
    | .ok _ => []
    | .error f => (loadFault? cancelled o.1 f).toList

lemma isCancelled_loadFaults {outcomes : List (String × Except Fault α)} {f : Fault}
    (hf : f ∈ loadFaults false outcomes) : f.isCancelled = false := by
  obtain ⟨⟨name, r⟩, -, hf⟩ := List.mem_flatMap.1 hf
  cases r with
  | ok x => exact absurd hf List.not_mem_nil
  | error g =>
    have hf := Option.mem_toList.1 hf
    rw [loadFault?] at hf
    split at hf
    next => cases hf
    next hg =>
      obtain rfl := Option.some.inj hf
      rw [Fault.isCancelled_because]
      simpa using hg

/-- What a request comes to. -/
lemma request_eq (m : Manifest α) (outcomes : List (String × Except Fault α)) :
    (m.request cancelled outcomes).2 =
      if cancelled then .error .cancelled
      else if (loadFaults cancelled outcomes).isEmpty then .ok ()
      else .error (joinFaults (loadFaults cancelled outcomes)) := by
  have hfold : ∀ (m : Manifest α) (fs : List Fault),
      (outcomes.foldl (fun (acc : Manifest α × List Fault) (o : String × Except Fault α) =>
        match o.2 with
        | .ok value => (acc.1.settle o.1 value, acc.2)
        | .error f => (acc.1, acc.2 ++ (loadFault? cancelled o.1 f).toList)) (m, fs)).2 =
        fs ++ loadFaults cancelled outcomes := by
    induction outcomes with
    | nil => exact fun m fs => (List.append_nil fs).symm
    | cons o os ih =>
      rcases o with ⟨name, _ | _⟩
      · intro m fs
        rw [List.foldl_cons, ih, List.append_assoc]
        rfl
      · intro m fs
        rw [List.foldl_cons, ih]
        rfl
  have hfaults := hfold m []
  rw [List.nil_append] at hfaults
  rw [← hfaults, request]
  dsimp only
  cases cancelled with
  | true => rfl
  | false =>
    simp only [Bool.false_eq_true, if_false]
    exact apply_ite Prod.snd _ _ _

/-- A request that succeeds was not called off, and no load failed but by being called off. -/
lemma request_ok {m : Manifest α} {outcomes : List (String × Except Fault α)}
    (h : (m.request cancelled outcomes).2 = .ok ()) :
    cancelled = false ∧ ∀ o ∈ outcomes, ∀ f, o.2 = .error f → f.isCancelled = true := by
  rw [request_eq] at h
  cases cancelled with
  | true => cases h
  | false =>
    refine ⟨rfl, fun o ho f hf => ?_⟩
    by_contra hcancelled
    -- the fault would be among those that the request reports
    have hmem : (Fault.make .dependencyFailed [("Name", o.1)]).because f ∈
        loadFaults false outcomes := by
      refine List.mem_flatMap.2 ⟨o, ho, ?_⟩
      rw [hf]
      dsimp only
      rw [loadFault?, if_neg (by simpa using hcancelled)]
      exact List.mem_singleton_self _
    rw [if_neg Bool.false_ne_true] at h
    split at h
    next hempty =>
      rw [List.isEmpty_iff.1 hempty] at hmem
      exact List.not_mem_nil hmem
    next => cases h

/-- A request that fails without being called off does not say that it was. -/
lemma request_error {m : Manifest α} {outcomes : List (String × Except Fault α)} {f : Fault}
    (h : (m.request false outcomes).2 = .error f) : f.isCancelled = false := by
  rw [request_eq, if_neg Bool.false_ne_true] at h
  split at h
  next => cases h
  next =>
    cases h
    rw [joinFaults, Fault.isCancelled, Fault.isCancelledIn_eq]
    · rw [List.any_eq_false]
      intro f hf
      rw [List.mem_mergeSort] at hf
      rw [isCancelled_loadFaults hf]
      exact Bool.false_ne_true
    · nofun

/-- What a request does to the manifest, load by load. -/
lemma request_snoc (m : Manifest α) (outcomes : List (String × Except Fault α))
    (o : String × Except Fault α) :
    (m.request cancelled (outcomes ++ [o])).1 = match o.2 with
      | .ok value => (m.request cancelled outcomes).1.settle o.1 value
      | .error _ => (m.request cancelled outcomes).1 := by
  have hfst : ∀ os : List (String × Except Fault α), (m.request cancelled os).1 =
      (os.foldl (fun (acc : Manifest α × List Fault) (o : String × Except Fault α) =>
        match o.2 with
        | .ok value => (acc.1.settle o.1 value, acc.2)
        | .error f => (acc.1, acc.2 ++ (loadFault? cancelled o.1 f).toList)) (m, [])).1 := by
    intro os
    rw [request]
    dsimp only
    split_ifs <;> rfl
  rw [hfst, hfst, List.foldl_append, List.foldl_cons, List.foldl_nil]
  split <;> rfl

lemma loadFaults_snoc (outcomes : List (String × Except Fault α)) (o : String × Except Fault α) :
    loadFaults cancelled (outcomes ++ [o]) = loadFaults cancelled outcomes ++ match o.2 with
      | .ok _ => []
      | .error f => (loadFault? cancelled o.1 f).toList := by
  rw [loadFaults, loadFaults, List.flatMap_append, List.flatMap_singleton]

lemma paths_settle (m : Manifest α) (path : String) (value : α) :
    (m.settle path value).paths = m.paths := by
  simp only [settle, paths, List.map_map]
  refine List.map_congr_left fun d _ => ?_
  dsimp only [Function.comp_apply]
  split_ifs with h
  · exact (eq_of_beq h).symm
  · rfl

/-- A dependency that was settled has its value; the others are as they were. -/
lemma loaded?_settle (m : Manifest α) {path : String} (hpath : path ∈ m.paths) (value : α)
    (name : String) :
    (m.settle path value).loaded? name = if name = path then some value else m.loaded? name := by
  -- settling keeps the names, so that the same entry is found
  have hkeeps : (fun d : String × Option α => d.1 == name) ∘
      (fun d => if d.1 == path then (path, some value) else d) = fun d => d.1 == name := by
    funext d
    dsimp only [Function.comp_apply]
    split_ifs with h
    · rw [eq_of_beq h]
    · rfl
  rw [loaded?, settle, List.find?_map, hkeeps, loaded?]
  cases hfind : m.dependencies.find? (·.1 == name) with
  | none =>
    rw [List.find?_eq_none] at hfind
    obtain ⟨d, hd, hname⟩ := List.mem_map.1 hpath
    have hne : name ≠ path := by
      rintro rfl
      exact hfind d hd (beq_iff_eq.2 hname)
    rw [if_neg hne]
    rfl
  | some d =>
    have hname : d.1 = name := by simpa using List.find?_some hfind
    subst hname
    by_cases hd : d.1 = path
    · simp [hd]
    · simp [hd]

/-- What is not pending is loaded. -/
lemma isSome_loaded? {m : Manifest α} (hm : m.paths.Nodup) {path : String} (hpath : path ∈ m.paths)
    (hloaded : path ∉ m.pending) : (m.loaded? path).isSome := by
  obtain ⟨d, hd, rfl⟩ := List.mem_map.1 hpath
  have hsome : d.2.isNone = false := by
    by_contra hnone
    exact hloaded (List.mem_map_of_mem (List.mem_filter.2 ⟨hd, by simpa using hnone⟩))
  cases hfind : m.dependencies.find? (·.1 == d.1) with
  | none => exact absurd (beq_self_eq_true d.1) (List.find?_eq_none.1 hfind d hd)
  | some e =>
    obtain rfl : e = d := List.inj_on_of_nodup_map hm (List.mem_of_find?_eq_some hfind) hd
      (by simpa using List.find?_some hfind)
    rw [loaded?, hfind, Option.bind_some, ← Option.not_isNone, hsome]
    rfl

lemma mem_paths_of_pending {m : Manifest α} {path : String} (h : path ∈ m.pending) :
    path ∈ m.paths := by
  obtain ⟨d, hd, rfl⟩ := List.mem_map.1 h
  exact List.mem_map_of_mem (List.mem_filter.1 hd).1

/-- A request keeps the value of every load that succeeds, and what was loaded before. -/
lemma loaded?_request (cancelled : Bool) {m : Manifest α}
    {outcomes : List (String × Except Fault α)}
    (hpaths : ∀ o ∈ outcomes, o.1 ∈ m.paths) (hnodup : (outcomes.map (·.1)).Nodup) :
    (m.request cancelled outcomes).1.paths = m.paths ∧
      (∀ path value, (path, .ok value) ∈ outcomes → (m.request cancelled outcomes).1.loaded? path =
      some value) ∧
      ∀ path, path ∉ outcomes.map (·.1) → (m.request cancelled outcomes).1.loaded? path =
      m.loaded? path := by
  induction outcomes using List.reverseRecOn with
  | nil =>
    have hnil : (m.request cancelled ([] : List (String × Except Fault α))).1 = m := by
      rw [request]
      dsimp only [List.foldl_nil]
      split_ifs <;> rfl
    rw [hnil]
    exact ⟨rfl, fun _ _ h => absurd h List.not_mem_nil, fun _ _ => rfl⟩
  | append_singleton outcomes o ih =>
    rw [List.map_append, List.map_singleton, List.nodup_append] at hnodup
    obtain ⟨hnodup, -, hapart⟩ := hnodup
    obtain ⟨hsame, hkept, hother⟩ := ih (fun x hx => hpaths x (List.mem_append_left _ hx)) hnodup
    have ho : o.1 ∈ m.paths := hpaths o (by simp)
    have hnew : o.1 ∉ outcomes.map (·.1) :=
      fun hmem => hapart _ hmem _ (List.mem_singleton_self _) rfl
    rw [request_snoc]
    obtain ⟨name, r⟩ := o
    cases r with
    | ok v =>
      dsimp only at ho hnew ⊢
      have hin : name ∈ (m.request cancelled outcomes).1.paths := hsame ▸ ho
      refine ⟨(paths_settle _ _ _).trans hsame, ?_, ?_⟩
      · intro path value hmem
        rw [loaded?_settle _ hin]
        rcases List.mem_append.1 hmem with hmem | hmem
        · have hne : path ≠ name := fun he => hnew (he ▸ List.mem_map_of_mem (f := Prod.fst) hmem)
          rw [if_neg hne]
          exact hkept path value hmem
        · obtain ⟨rfl, hv⟩ := Prod.mk.inj (List.mem_singleton.1 hmem)
          rw [if_pos rfl, Except.ok.inj hv]
      · intro path hpath
        rw [List.map_append, List.mem_append, not_or] at hpath
        have hne : path ≠ name := fun he => hpath.2 (he ▸ List.mem_singleton_self _)
        rw [loaded?_settle _ hin, if_neg hne]
        exact hother path hpath.1
    | error f =>
      refine ⟨hsame, ?_, ?_⟩
      · intro path value hmem
        rcases List.mem_append.1 hmem with hmem | hmem
        · exact hkept path value hmem
        · cases List.mem_singleton.1 hmem
      · intro path hpath
        rw [List.map_append, List.mem_append, not_or] at hpath
        exact hother path hpath.1

/-! ### Loads that run at once -/

/-- A request under way. -/
structure Loading (α : Type) where
  manifest : Manifest α
  /-- the loads that run -/
  running : List String
  /-- the loads that came to something, which is still to be noted -/
  ended : List (String × Except Fault α) := []
  /-- what the loads came to, in the order in which it was noted -/
  noted : List (String × Except Fault α) := []
  /-- the faults that the request will report -/
  faults : List Fault := []
  /-- how many loads have failed without having called the others off yet -/
  failing : Nat := 0
  /-- the loads are called off -/
  off : Bool := false

namespace Loading

/-- The request for all that is pending. -/
def start (m : Manifest α) : Loading α := { manifest := m, running := m.pending }

/-- No load is left. -/
def Done (s : Loading α) : Prop := s.running = [] ∧ s.ended = [] ∧ s.failing = 0

/-- What the request comes to when no load is left. -/
def result (s : Loading α) : Except Fault Unit :=
  if s.faults.isEmpty then .ok () else .error (joinFaults s.faults)

/-- What can happen next.  What a load may come to is up to `may`, which is told whether the loads
are called off by then. -/
inductive Step (may : Bool → Except Fault α → Prop) : Loading α → Loading α → Prop
  | finish {s : Loading α} {path : String} {outcome : Except Fault α} (hpath : path ∈ s.running)
      (houtcome : may s.off outcome) :
      Step may s { s with running := s.running.erase path, ended := (path, outcome) :: s.ended }
  | keep {s : Loading α} {path : String} {value : α} {before after : List (String × Except Fault α)}
      (hended : s.ended = before ++ (path, .ok value) :: after) :
      Step may s { s with
        ended := before ++ after, noted := s.noted ++ [(path, .ok value)]
        manifest := s.manifest.settle path value }
  | fail {s : Loading α} {path : String} {f : Fault} {before after : List (String × Except Fault α)}
      (hended : s.ended = before ++ (path, .error f) :: after) :
      Step may s { s with
        ended := before ++ after, noted := s.noted ++ [(path, .error f)]
        faults := s.faults ++ (loadFault? false path f).toList, failing := s.failing + 1 }
  | callOff {s : Loading α} {left : Nat} (hfailing : s.failing = left + 1) :
      Step may s { s with failing := left, off := true }

/-- The requests that `m` can get to. -/
abbrev Run (may : Bool → Except Fault α → Prop) (m : Manifest α) (s : Loading α) : Prop :=
  Relation.ReflTransGen (Step may) (start m) s

/-- A load is candid if it says that it was called off only when the loads are. -/
def Candid (off : Bool) (outcome : Except Fault α) : Prop :=
  ∀ f, outcome = .error f → f.isCancelled → off

/-! ### What holds of every interleaving -/

variable {may : Bool → Except Fault α → Prop} {m : Manifest α} {s s' : Loading α}

/-- What is so after any number of steps, in any order. -/
structure Sound (m : Manifest α) (s : Loading α) : Prop where
  /-- each load is running, has ended or was noted -/
  loads : (s.running ++ (s.ended.map (·.1) ++ s.noted.map (·.1))).Perm m.pending
  manifest : s.manifest = (m.request false s.noted).1
  faults : s.faults = loadFaults false s.noted

lemma sound_start (m : Manifest α) : Sound m (start m) where
  loads := by simp [start]
  manifest := rfl
  faults := rfl

/-- What was noted is no longer among what ended. -/
lemma perm_noted {running : List String} {before after noted : List (String × Except Fault α)}
    (o : String × Except Fault α) :
    (running ++ ((before ++ after).map (·.1) ++ (noted ++ [o]).map (·.1))).Perm
      (running ++ ((before ++ o :: after).map (·.1) ++ noted.map (·.1))) := by
  refine List.Perm.append_left _ ?_
  simp only [List.map_append, List.map_cons, List.map_nil]
  have hmiddle : ((before.map (·.1) ++ after.map (·.1)) ++ (noted.map (·.1) ++ [o.1])).Perm
      (o.1 :: ((before.map (·.1) ++ after.map (·.1)) ++ noted.map (·.1))) := by
    rw [← List.append_assoc]
    exact List.perm_append_singleton _ _
  exact hmiddle.trans (List.Perm.append_right _ List.perm_middle.symm)

lemma Sound.step (h : Sound m s) (hstep : Step may s s') : Sound m s' := by
  cases hstep with
  | @finish path outcome hpath houtcome =>
    refine ⟨?_, h.manifest, h.faults⟩
    refine List.Perm.trans ?_ h.loads
    rw [List.map_cons, List.cons_append]
    exact List.perm_middle.trans (List.Perm.append_right _ (List.perm_cons_erase hpath).symm)
  | @keep path value before after hended =>
    refine ⟨(perm_noted _).trans (hended ▸ h.loads), ?_, ?_⟩
    · rw [request_snoc, h.manifest]
    · rw [loadFaults_snoc, h.faults, List.append_nil]
  | @fail path f before after hended =>
    refine ⟨(perm_noted _).trans (hended ▸ h.loads), ?_, ?_⟩
    · rw [request_snoc, h.manifest]
    · rw [loadFaults_snoc, h.faults]
  | callOff _ => exact ⟨h.loads, h.manifest, h.faults⟩

lemma sound_of_run (h : Run may m s) : Sound m s := by
  induction h with
  | refl => exact sound_start m
  | tail _ hstep ih => exact ih.step hstep

/-- What the request comes to is what the outcomes come to in the order in which they were noted. -/
lemma Sound.request (h : Sound m s) : m.request false s.noted = (s.manifest, s.result) := by
  refine Prod.ext h.manifest.symm ?_
  rw [request_eq, if_neg Bool.false_ne_true, ← h.faults]
  rfl

/-! ### Failures are reported -/

/-- What is so after any number of steps when loads are candid: no failure goes unreported. -/
structure Reported (s : Loading α) : Prop where
  off : s.off → s.faults ≠ []
  failing : 0 < s.failing → s.faults ≠ []
  ended : ∀ path f, (path, .error f) ∈ s.ended → f.isCancelled → s.off
  noted : ∀ path f, (path, .error f) ∈ s.noted → s.faults ≠ []

lemma reported_start (m : Manifest α) : Reported (start m) where
  off h := nomatch h
  failing h := absurd h (Nat.lt_irrefl 0)
  ended _ _ h := absurd h List.not_mem_nil
  noted _ _ h := absurd h List.not_mem_nil

lemma Reported.step (hmay : ∀ off outcome, may off outcome → Candid off outcome) (h : Reported s)
    (hstep : Step may s s') : Reported s' := by
  cases hstep with
  | @finish path outcome hpath houtcome =>
    refine ⟨h.off, h.failing, ?_, h.noted⟩
    intro name f hmem hcancelled
    rcases List.mem_cons.1 hmem with heq | hmem
    · exact hmay _ _ houtcome f (Prod.mk.inj heq).2.symm hcancelled
    · exact h.ended name f hmem hcancelled
  | @keep path value before after hended =>
    refine ⟨h.off, h.failing, ?_, ?_⟩
    · intro name f hmem hcancelled
      refine h.ended name f ?_ hcancelled
      rw [hended]
      rcases List.mem_append.1 hmem with hmem | hmem
      · exact List.mem_append_left _ hmem
      · exact List.mem_append_right _ (List.mem_cons_of_mem _ hmem)
    · intro name f hmem
      rcases List.mem_append.1 hmem with hmem | hmem
      · exact h.noted name f hmem
      · cases List.mem_singleton.1 hmem
  | @fail path f before after hended =>
    -- the fault itself is reported, or it is an echo of one that is
    have hfaults : s.faults ++ (loadFault? false path f).toList ≠ [] := by
      by_cases hcancelled : f.isCancelled
      · have hoff := h.ended path f (hended ▸ by simp) hcancelled
        exact List.append_ne_nil_of_left_ne_nil (h.off hoff) _
      · rw [loadFault?, if_neg (by simpa using hcancelled)]
        exact List.append_ne_nil_of_right_ne_nil _ (List.cons_ne_nil _ _)
    refine ⟨fun _ => hfaults, fun _ => hfaults, ?_, fun _ _ _ => hfaults⟩
    intro name g hmem hcancelled
    refine h.ended name g ?_ hcancelled
    rw [hended]
    rcases List.mem_append.1 hmem with hmem | hmem
    · exact List.mem_append_left _ hmem
    · exact List.mem_append_right _ (List.mem_cons_of_mem _ hmem)
  | @callOff left hfailing =>
    have hfaults : s.faults ≠ [] := h.failing (by omega)
    exact ⟨fun _ => hfaults, fun _ => hfaults, fun _ _ _ _ => rfl, h.noted⟩

lemma reported_of_run (hmay : ∀ off outcome, may off outcome → Candid off outcome)
    (h : Run may m s) :
    Reported s := by
  induction h with
  | refl => exact reported_start m
  | tail _ hstep ih => exact ih.step hmay hstep

/-- **A request is honest, however its loads are interleaved.** When no load is left, each pending
dependency was loaded once, and the request comes to what the outcomes come to in the order in which
they were noted.  Every load that succeeded is kept, and so is what was loaded before.  If loads are
candid, then the request succeeds only if every dependency is loaded, and fails if a load did. -/
theorem request_honest (hm : m.paths.Nodup) (h : Run may m s) (hdone : s.Done) :
    (s.noted.map (·.1)).Perm m.pending ∧ m.request false s.noted = (s.manifest, s.result) ∧
      (∀ path value, (path, .ok value) ∈ s.noted → s.manifest.loaded? path = some value) ∧
      (∀ path, path ∉ m.pending → s.manifest.loaded? path = m.loaded? path) ∧
      ((∀ off outcome, may off outcome → Candid off outcome) →
        (s.result = .ok () → ∀ path ∈ m.paths, (s.manifest.loaded? path).isSome) ∧
          ((∃ path f, (path, .error f) ∈ s.noted) → ∃ f, s.result = .error f)) := by
  have hsound := sound_of_run h
  obtain ⟨hrunning, hended, -⟩ := hdone
  have hperm : (s.noted.map (·.1)).Perm m.pending := by
    have hloads := hsound.loads
    rwa [hrunning, hended] at hloads
  have hnodup : (s.noted.map (·.1)).Nodup := by
    refine hperm.nodup_iff.2 (List.Nodup.sublist ?_ hm)
    exact List.Sublist.map _ List.filter_sublist
  have hpaths : ∀ o ∈ s.noted, o.1 ∈ m.paths := fun o ho =>
    mem_paths_of_pending (hperm.mem_iff.1 (List.mem_map_of_mem ho))
  obtain ⟨-, hkept, hother⟩ := loaded?_request false hpaths hnodup
  rw [← hsound.manifest] at hkept hother
  refine ⟨hperm, hsound.request, hkept, fun path hpath => hother path fun hmem =>
    hpath (hperm.mem_iff.1 hmem), ?_⟩
  intro hmay
  have hreported := reported_of_run hmay h
  have hfails : ∀ path f, (path, .error f) ∈ s.noted → s.result = .error (joinFaults s.faults) := by
    intro path f hmem
    rw [result, if_neg (by simpa using hreported.noted path f hmem)]
  constructor
  · intro hok path hpath
    by_cases hpending : path ∈ m.pending
    · obtain ⟨⟨name, r⟩, hmem, rfl⟩ := List.mem_map.1 (hperm.mem_iff.2 hpending)
      cases r with
      | ok value =>
        rw [hkept name value hmem]
        rfl
      | error f =>
        rw [hfails name f hmem] at hok
        cases hok
    · rw [hother path fun hmem => hpending (hperm.mem_iff.1 hmem)]
      exact isSome_loaded? hm hpath hpending
  · rintro ⟨path, f, hmem⟩
    exact ⟨_, hfails path f hmem⟩

/-- What a template asks for that depends on two modules. -/
def pair : Manifest Unit := (({} : Manifest Unit).require "A").require "B"

/-- The request for two modules whose first load fails, and calls the second off. -/
def pairEnd : Loading Unit where
  manifest := pair
  running := []
  noted := [("A", .error (.plain "broken")), ("B", .error .cancelled)]
  faults := [(Fault.make .dependencyFailed [("Name", "A")]).because (.plain "broken")]
  off := true

theorem request_honest_pair : Run Candid pair pairEnd ∧ pairEnd.Done ∧
    pair.request false pairEnd.noted = (pair, pairEnd.result) ∧ ∃ f, pairEnd.result = .error f := by
  have hbroken : Candid (α := Unit) false (.error (.plain "broken")) := by
    rintro f ⟨⟩ hcancelled
    exact absurd hcancelled (by decide)
  have hrun : Run Candid pair pairEnd := by
    -- the first load ends, its failure is noted, and it calls the second off
    have hfirst : Run Candid pair
      { pairEnd with running := ["B"], noted := [("A", .error (.plain "broken"))] } :=
      .tail (.tail (.tail .refl (@Step.finish _ _ _ "A" _ (by decide) hbroken))
        (@Step.fail _ _ _ _ _ [] [] rfl))
        (@Step.callOff _ _ _ 0 rfl)
    exact .tail (.tail (.tail hfirst (@Step.finish _ _ _ "B" _ (by decide) fun _ _ _ => rfl))
      (@Step.fail _ _ _ _ _ [] [] rfl)) (@Step.callOff _ _ _ 0 rfl)
  have hdone : pairEnd.Done := ⟨rfl, rfl, rfl⟩
  obtain ⟨-, hrequest, -, -, hcandid⟩ := request_honest (by decide) hrun hdone
  exact ⟨hrun, hdone, hrequest, (hcandid fun _ _ h => h).2 ⟨"A", _, List.mem_cons_self⟩⟩

/-- A load that says on its own that it was called off is not reported: the request for it succeeds,
and the module is not there. -/
theorem request_unfounded : ∃ s : Loading Unit,
    Run (fun _ _ => True) (({} : Manifest Unit).require "A") s ∧ s.Done ∧
    s.noted = [("A", .error .cancelled)] ∧
      s.result = .ok () ∧ "A" ∈ s.manifest.paths ∧ s.manifest.loaded? "A" = none := by
  refine ⟨_, .tail (.tail
    (.tail .refl (@Step.finish _ _ _ "A" (.error .cancelled) (by decide) trivial))
    (@Step.fail _ _ _ _ _ [] [] rfl)) (@Step.callOff _ _ _ 0 rfl), ⟨by decide, rfl, rfl⟩, rfl, rfl,
      ?_, rfl⟩
  decide

end Loading

end Manifest

end Trellis
