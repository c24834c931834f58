/-
Runs of work on memory.

Work on memory gives a result or a fault, and memory after it.  `Run.on` is the two together; there
is one lemma for each way of putting work together.

Asking a value for a property, showing it as text and comparing it leave memory as it is, unless the
value is one that runs something: an object of the host, passed content, or a template or nodes that
paint portraits of themselves when they are first asked.  Other values are passive.  `Run.Looks`
says of work that it leaves one memory as it is, and what holds of its result.
-/
import Trellis.Proofs.Value.Tame

namespace Trellis.Run

variable {α β : Type} {m m' : Memory}

/-- The result of work on memory, and memory after it. -/
def on (w : Run α) (m : Memory) : Except Fault α × Memory := (ExceptT.run w).run m

/-- Work is known by its results. -/
lemma ext {v w : Run α} (h : ∀ m, v.on m = w.on m) : v = w := funext h

lemma on_pure (x : α) (m : Memory) : (pure x : Run α).on m = (.ok x, m) := rfl

lemma on_throw (f : Fault) (m : Memory) : (throw f : Run α).on m = (.error f, m) := rfl

lemma on_get (m : Memory) : (get : Run Memory).on m = (.ok m, m) := rfl

lemma on_modify (f : Memory → Memory) (m : Memory) : (modify f : Run Unit).on m = (.ok (), f m) :=
  rfl

lemma on_bind {w : Run α} {x : α} (h : w.on m = (.ok x, m')) (g : α → Run β) :
    (w >>= g).on m = (g x).on m' := by
  change (ExceptT.bindCont g (w.on m).1).run (w.on m).2 = _
  rw [h]
  rfl

lemma on_bind_error {w : Run α} {f : Fault} (h : w.on m = (.error f, m')) (g : α → Run β) :
    (w >>= g).on m = (.error f, m') := by
  change (ExceptT.bindCont g (w.on m).1).run (w.on m).2 = _
  rw [h]
  rfl

lemma on_tryCatch (w : Run α) (g : Fault → Run α) (m : Memory) :
    (tryCatch w g).on m = match w.on m with
      | (.ok x, m') => (.ok x, m')
      | (.error f, m') => (g f).on m' := by
  simp only [on, tryCatch, tryCatchThe, MonadExceptOf.tryCatch, ExceptT.tryCatch, ExceptT.run,
    ExceptT.mk, StateT.run, bind, StateT.bind]
  rcases w m with ⟨r, m'⟩
  cases r <;> rfl

end Trellis.Run

/-!
Work that does not look at the log.

What is logged is there for people to read.  `Run.Steady` says of work on memory that it always
gives a result, that the result does not depend on what was logged before, and that neither does
what the work leaves behind; `Run.Blind` says the same of work that may fail.  Both come from
`Run.Twin`, which compares two pieces of work on memories that differ in the log at most, and for
which there is one rule for each way of putting work together.

Showing a value as text, reading its properties and walking over it are steady, if what the host
brings along is: its objects have no way to report a fault.
-/

namespace Trellis

/-- Two memories that differ in the log at most, and not even there if nothing is logged. -/
def Memory.Alike (logs : Bool) (m n : Memory) : Prop :=
  ∃ lines, n = { m with log := lines } ∧ (logs = false → lines = m.log)

namespace Memory.Alike

variable {logs : Bool} {m n k : Memory}

lemma refl (m : Memory) : m.Alike logs m := ⟨m.log, rfl, fun _ => rfl⟩

lemma trans (h : m.Alike logs n) (h' : n.Alike logs k) : m.Alike logs k := by
  obtain ⟨lines, rfl, hlines⟩ := h
  obtain ⟨lines', rfl, hlines'⟩ := h'
  exact ⟨lines', rfl, fun hlogs => (hlines' hlogs).trans (hlines hlogs)⟩

lemma symm (h : m.Alike logs n) : n.Alike logs m := by
  obtain ⟨lines, rfl, hlines⟩ := h
  exact ⟨m.log, rfl, fun hlogs => (hlines hlogs).symm⟩

end Memory.Alike

namespace Run

variable {α β σ τ : Type} {logs : Bool} {R : α → β → Prop} {S : σ → τ → Prop}

/-! ### Two pieces of work -/

/-- On memories that are alike, two pieces of work give results that `R` relates, and leave memories
that are alike. -/
def Twin (logs : Bool) (R : α → β → Prop) (v : Run α) (w : Run β) : Prop :=
  ∀ m n, m.Alike logs n → ∃ x y m' n', v.on m = (.ok x, m') ∧ w.on n = (.ok y, n') ∧ R x y ∧
    m'.Alike logs n'

lemma twin_pure {x : α} {y : β} (h : R x y) : Twin logs R (pure x) (pure y) :=
  fun _ _ halike => ⟨x, y, _, _, rfl, rfl, h, halike⟩

lemma Twin.bind {v : Run α} {w : Run β} {k : α → Run σ} {l : β → Run τ} (h : Twin logs R v w)
    (hk : ∀ x y, R x y → Twin logs S (k x) (l y)) : Twin logs S (v >>= k) (w >>= l) := by
  intro m n halike
  obtain ⟨x, y, m', n', hv, hw, hxy, halike'⟩ := h m n halike
  rw [on_bind hv, on_bind hw]
  exact hk x y hxy m' n' halike'

lemma twin_mapM {γ : Type} {xs : List γ} {f : γ → Run α} {g : γ → Run α}
    (h : ∀ x ∈ xs, Twin logs Eq (f x) (g x)) :
    Twin logs Eq (xs.mapM f) (xs.mapM g) := by
  induction xs with
  | nil => exact twin_pure rfl
  | cons x xs ih =>
    rw [List.mapM_cons, List.mapM_cons]
    refine (h x List.mem_cons_self).bind ?_
    rintro y _ rfl
    refine (ih fun z hz => h z (List.mem_cons_of_mem _ hz)).bind ?_
    rintro ys _ rfl
    exact twin_pure rfl

/-- Where both give results, what would be done after a fault does not matter. -/
lemma Twin.tryCatch {v : Run α} {w : Run β} (h : Twin logs R v w) (g : Fault → Run α)
    (g' : Fault → Run β) :
    Twin logs R (tryCatch v g) (tryCatch w g') := by
  intro m n halike
  obtain ⟨x, y, m', n', hv, hw, hxy, halike'⟩ := h m n halike
  rw [on_tryCatch, on_tryCatch, hv, hw]
  exact ⟨x, y, m', n', rfl, rfl, hxy, halike'⟩

/-! ### Steady work -/

/-- Work that gives a result, the same whatever was logged. -/
def Steady (logs : Bool) (w : Run α) : Prop := Twin logs Eq w w

lemma steady_pure (x : α) : Steady logs (pure x : Run α) := twin_pure rfl

lemma Steady.bind {w : Run α} {k : α → Run β} (h : Steady logs w) (hk : ∀ x, Steady logs (k x)) :
    Steady logs (w >>= k) :=
  Twin.bind h fun x _ hxy => hxy ▸ hk x

/-- What follows steady work is compared on the same result. -/
lemma Steady.then {w : Run α} {k : α → Run σ} {l : α → Run τ} (h : Steady logs w)
    (hk : ∀ x, Twin logs S (k x) (l x)) : Twin logs S (w >>= k) (w >>= l) :=
  Twin.bind h fun x _ hxy => hxy ▸ hk x

/-- What is read of memory without the log. -/
lemma twin_get {k : Memory → Run α} {l : Memory → Run β}
    (hsame : ∀ m lines, l { m with log := lines } = l m)
    (hk : ∀ m, Twin logs R (k m) (l m)) : Twin logs R (get >>= k) (get >>= l) := by
  rintro m n ⟨lines, rfl, hlines⟩
  rw [on_bind (on_get _), on_bind (on_get _), hsame m lines]
  exact hk m m _ ⟨lines, rfl, hlines⟩

lemma steady_get {k : Memory → Run α} (hsame : ∀ m lines, k { m with log := lines } = k m)
    (hk : ∀ m, Steady logs (k m)) : Steady logs (get >>= k) := twin_get hsame hk

/-- A change of memory that leaves the log alone. -/
lemma steady_modifyGet {f : Memory → α × Memory}
    (h : ∀ m lines, f { m with log := lines } = ((f m).1, { (f m).2 with log := lines }))
    (hlog : ∀ m, (f m).2.log = m.log) : Steady logs (modifyGet f : Run α) := by
  rintro m n ⟨lines, rfl, hlines⟩
  refine ⟨(f m).1, (f m).1, (f m).2, { (f m).2 with log := lines }, rfl, ?_, rfl, lines, rfl, ?_⟩
  · change (Except.ok (f { m with log := lines }).1, (f { m with log := lines }).2) = _
    rw [h]
  · intro hlogs
    rw [hlog, hlines hlogs]

/-! ### Work that may fail -/

/-- Work that gives the same result or fault whatever was logged. -/
def Blind (logs : Bool) (w : Run α) : Prop :=
  ∀ m n, m.Alike logs n → (w.on n).1 = (w.on m).1 ∧ (w.on m).2.Alike logs (w.on n).2

lemma Blind.exists_on {w : Run α} (h : Blind logs w) {m n : Memory} (halike : m.Alike logs n) :
    ∃ result m' n', w.on m = (result, m') ∧ w.on n = (result, n') ∧ m'.Alike logs n' :=
  ⟨(w.on m).1, (w.on m).2, (w.on n).2, rfl, Prod.ext (h m n halike).1 rfl, (h m n halike).2⟩

/-- Where nothing is logged, no work can look at what was. -/
lemma blind_of_not_logs (w : Run α) : Blind false w := by
  rintro m n ⟨lines, rfl, hlines⟩
  obtain rfl := hlines rfl
  exact ⟨rfl, .refl _⟩

/-- Work that may fail, and what is done after a fault: the two together give a result. -/
lemma Blind.tryCatch {w : Run α} {g : Fault → Run α} (h : Blind logs w)
    (hg : ∀ f, Steady logs (g f)) :
    Steady logs (tryCatch w g) := by
  intro m n halike
  obtain ⟨result, m', n', hm, hn, halike'⟩ := h.exists_on halike
  rw [on_tryCatch, on_tryCatch, hm, hn]
  cases result with
  | ok x => exact ⟨x, x, m', n', rfl, rfl, rfl, halike'⟩
  | error f => exact hg f m' n' halike'

lemma Blind.map {w : Run α} (h : Blind logs w) (f : α → β) : Blind logs (do return f (← w)) := by
  intro m n halike
  obtain ⟨result, m', n', hm, hn, halike'⟩ := h.exists_on halike
  cases result with
  | ok x =>
    rw [on_bind hm, on_bind hn]
    exact ⟨rfl, halike'⟩
  | error e =>
    rw [on_bind_error hm, on_bind_error hn]
    exact ⟨rfl, halike'⟩

end Run

open Run

variable {logs : Bool}

/-- What holds of all work on values that puts steady work together. -/
lemma Run.tame_steady (logs : Bool) : Run.Tame (fun _ => True) fun _ w => Run.Steady logs w where
  of_pure := steady_pure
  of_bind := Steady.bind
  of_get hsame hk := steady_get hsame fun m => hk m fun _ _ => trivial
  alloc _ := steady_modifyGet (fun _ _ => rfl) fun _ => rfl
  newAction _ := steady_modifyGet (fun _ _ => rfl) fun _ => rfl
  newTemplate _ := steady_modifyGet (fun _ _ => rfl) fun _ => rfl
  keep _ _ := steady_modifyGet (fun _ _ => rfl) fun _ => rfl
  inline _ _ := trivial

lemma Memory.steady_newScope (s : Scope) : Run.Steady logs (newScope s) :=
  steady_modifyGet (fun _ _ => rfl) fun _ => rfl

lemma Memory.steady_updateScope (at_ : Nat) (f : Scope → Scope) :
    Run.Steady logs (updateScope at_ f) :=
  steady_modifyGet (fun _ _ => rfl) fun _ => rfl

/-! ### The host -/

/-- The objects of the host are read and walked over without faults and without a look at the log.
-/
structure Host.Steady (logs : Bool) (h : Host) : Prop where
  get : ∀ type read, (h.objects type).get? = some read → ∀ v name, Run.Steady logs (read v name)
  each : ∀ type each, (h.objects type).each? = some each → ∀ v, Run.Steady logs (each v)

/-- On a machine with such a host, rendering content may fail, but does not look at the log. -/
structure Machine.Steady (logs : Bool) (m : Machine) : Prop where
  host : m.host.Steady logs
  content : ∀ at_ v, Blind logs (m.content at_ v)

/-- On such a machine content has a text. -/
lemma Machine.Steady.tame {m : Machine} (h : m.Steady logs) : m.Tame fun _ w => Run.Steady logs w :=
  ⟨⟨h.host.get, h.host.each⟩, fun at_ => ((h.content at_ .undefined).map _).tryCatch fun _ =>
    steady_pure _⟩

namespace Value

/-- Every value can be shown as text. -/
theorem steady_toText {m : Machine} (hm : m.Steady logs) (v : Value) :
    Run.Steady logs (v.toText m) :=
  (tame_steady logs).toText hm.tame v

/-! ### Walking -/

/-- The entries of a value are found without faults, and each can be read. -/
lemma twin_entries {m : Machine} (hm : m.Steady logs) (v : Value) :
    Twin logs (fun es es' => es = es' ∧ ∀ e ∈ es, Run.Steady logs e.2) (v.entries m)
    (v.entries m) := by
  have hpositions : ∀ (n : Nat) (read : Nat → Run Value), (∀ i, Run.Steady logs (read i)) →
      ∀ e ∈ (List.range n).map fun i => (Value.number i.toFloat, read i), Run.Steady logs e.2 := by
    intro n read hread e he
    obtain ⟨i, _, rfl⟩ := List.mem_map.1 he
    exact hread i
  have hitems : ∀ at_ i : Nat,
    Run.Steady logs (do return (← Memory.items at_)[i]?.getD Value.undefined) :=
    fun at_ i => ((tame_steady logs).items at_).bind fun _ => steady_pure _
  rw [entries.eq_def]
  dsimp only
  split
  · split
    next each heach =>
      refine Steady.then ((tame_steady logs).inner _) fun w => (hm.host.each _ each heach w).then
        fun xs => ?_
      exact twin_pure ⟨rfl, hpositions _ _ fun i => steady_pure _⟩
    next => exact twin_pure ⟨rfl, fun _ he => absurd he List.not_mem_nil⟩
  · exact Steady.then ((tame_steady logs).items _) fun xs =>
      twin_pure ⟨rfl, hpositions _ _ (hitems _)⟩
  · exact Steady.then ((tame_steady logs).items _) fun xs =>
      twin_pure ⟨rfl, hpositions _ _ (hitems _)⟩
  · refine twin_get (fun _ _ => rfl) fun mem => twin_pure ⟨rfl, hpositions _ _ fun i => ?_⟩
    exact (tame_steady logs).property hm.tame.host _ _
  · refine Steady.then ((tame_steady logs).keys hm.tame _) fun ks => twin_pure ⟨rfl, fun e he => ?_⟩
    obtain ⟨k, _, rfl⟩ := List.mem_map.1 he
    exact (tame_steady logs).property hm.tame.host _ k

/-- Steps that are alike make walks that are alike. -/
lemma twin_walkEntries {σ : Type} {step step' : σ → Value → Value → Run (σ × Bool)}
    (h : ∀ s key v, Twin logs Eq (step s key v) (step' s key v)) (es : List (Value × Run Value))
    (hes : ∀ e ∈ es, Run.Steady logs e.2) (s : σ) :
    Twin logs Eq (walkEntries step s es) (walkEntries step' s es) := by
  induction es generalizing s with
  | nil => exact twin_pure rfl
  | cons e es ih =>
    obtain ⟨key, read⟩ := e
    obtain ⟨hread, hrest⟩ := List.forall_mem_cons.1 hes
    rw [walkEntries, walkEntries]
    refine hread.then fun v => (h s key v).bind ?_
    rintro ⟨next, more⟩ _ rfl
    cases more with
    | true => exact ih hrest next
    | false => exact twin_pure rfl

lemma twin_walkCount {σ : Type} {step step' : σ → Value → Value → Run (σ × Bool)}
    (h : ∀ s key v, Twin logs Eq (step s key v) (step' s key v)) (n i : Nat) (s : σ) :
    Twin logs Eq (walkCount step s i n) (walkCount step' s i n) := by
  induction n generalizing s i with
  | zero => exact twin_pure rfl
  | succ n ih =>
    rw [walkCount, walkCount]
    refine (h s _ _).bind ?_
    rintro ⟨next, more⟩ _ rfl
    cases more with
    | true => exact ih (i + 1) next
    | false => exact twin_pure rfl

/-- Every value can be walked over, and steps that are alike make walks that are alike. -/
theorem twin_walk {σ : Type} {m : Machine} (hm : m.Steady logs) (v : Value) (s : σ)
    {step step' : σ → Value → Value → Run (σ × Bool)}
    (h : ∀ s key v, Twin logs Eq (step s key v) (step' s key v)) :
    Twin logs Eq (v.walk m s step) (v.walk m s step') := by
  rw [walk, walk]
  cases v.walkable? m.host with
  | none => exact twin_pure rfl
  | some family =>
    cases family with
    | count => exact twin_walkCount h _ 0 s
    | _ =>
      refine (twin_entries hm v).bind ?_
      rintro es _ ⟨rfl, hes⟩
      exact twin_walkEntries h es hes s

end Value

/-! ### Work that only looks -/

namespace Run

variable {α β : Type} {mem : Memory} {Q : α → Prop} {R : β → Prop}

/-- Work leaves a memory as it is, and `Q` holds of the result if there is one. -/
def Looks (mem : Memory) (Q : α → Prop) (w : Run α) : Prop := ∃ r, w.on mem = (r, mem) ∧
    ∀ x, r = .ok x → Q x

lemma looks_pure {x : α} (h : Q x) : Looks mem Q (pure x) :=
  ⟨.ok x, rfl, fun _ hx => Except.ok.inj hx ▸ h⟩

lemma looks_throw (f : Fault) : Looks mem Q (throw f) := ⟨.error f, rfl, nofun⟩

lemma Looks.bind {w : Run α} {k : α → Run β} (h : Looks mem Q w)
    (hk : ∀ x, Q x → Looks mem R (k x)) :
    Looks mem R (w >>= k) := by
  obtain ⟨r, hr, hx⟩ := h
  cases r with
  | error f => exact ⟨.error f, on_bind_error hr k, nofun⟩
  | ok x =>
    rw [Looks, on_bind hr]
    exact hk x (hx x rfl)

lemma Looks.weaken {w : Run α} {Q' : α → Prop} (h : Looks mem Q w) (hQ : ∀ x, Q x → Q' x) :
    Looks mem Q' w := by
  obtain ⟨r, hr, hx⟩ := h
  exact ⟨r, hr, fun x hr => hQ x (hx x hr)⟩

lemma looks_get {k : Memory → Run α} (h : Looks mem Q (k mem)) : Looks mem Q (get >>= k) := by
  rw [Looks, on_bind (on_get mem)]
  exact h

lemma looks_mapM {xs : List α} {f : α → Run β} (h : ∀ x ∈ xs, Looks mem R (f x)) :
    Looks mem (fun _ => True) (xs.mapM f) := by
  induction xs with
  | nil => exact looks_pure trivial
  | cons x xs ih =>
    rw [List.mapM_cons]
    refine (h x List.mem_cons_self).bind fun y _ => ?_
    exact (ih fun z hz => h z (List.mem_cons_of_mem _ hz)).bind fun ys _ => looks_pure trivial

/-- What work that only looks gives, it gives without a change. -/
lemma Looks.result {w : Run α} (h : Looks mem Q w) {x : α} {mem' : Memory}
    (hx : w.on mem = (.ok x, mem')) :
    mem' = mem ∧ Q x := by
  obtain ⟨r, hr, hQ⟩ := h
  rw [hr] at hx
  cases hx
  exact ⟨rfl, hQ x rfl⟩

end Run

/-! ### Passive memory -/

/-- Whether a value is asked and shown without running or making anything. -/
def Value.isPassive : Value → Bool
  | .host _ _ | .template _ | .content _ | .nodes _ => false
  | _ => true

/-- The values that a cell gives when it is read. -/
def Cell.values : Cell → List Value
  | .items xs => xs.toList
  | .fields fs => fs.map (·.2)
  | .entries es => es.map (·.2)
  | .inner _ => []

/-- The values that a scope gives when a name is read. -/
def Scope.values (s : Scope) : List Value := s.data :: s.vars.map (·.2)

/-- All values that are reached through lists, objects and names are passive. -/
structure Memory.Passive (mem : Memory) : Prop where
  cells : ∀ c ∈ mem.cells, ∀ v ∈ c.values, v.isPassive
  scopes : ∀ s ∈ mem.scopes, ∀ v ∈ s.values, v.isPassive

namespace Memory

variable {mem : Memory} (hmem : mem.Passive)

include hmem

lemma looks_cell (at_ : Nat) : Looks mem (fun c => ∀ c' ∈ c, ∀ v ∈ c'.values, v.isPassive)
    (cell? at_) :=
  looks_get (looks_pure fun c hc => hmem.cells c (Array.mem_of_getElem? hc))

lemma looks_items (at_ : Nat) : Looks mem (fun xs => ∀ v ∈ xs, v.isPassive) (items at_) := by
  refine (looks_cell hmem at_).bind fun c hc => ?_
  split
  · exact looks_pure fun v hv => hc _ rfl v (Array.mem_toList_iff.2 hv)
  · exact looks_pure fun v hv => absurd hv (Array.not_mem_empty v)

lemma looks_fields (at_ : Nat) : Looks mem (fun fs => ∀ f ∈ fs, f.2.isPassive) (fields at_) := by
  refine (looks_cell hmem at_).bind fun c hc => ?_
  split
  · exact looks_pure fun f hf => hc _ rfl f.2 (List.mem_map_of_mem hf)
  · exact looks_pure fun f hf => absurd hf List.not_mem_nil

lemma looks_entries (at_ : Nat) : Looks mem (fun es => ∀ e ∈ es, e.2.isPassive) (entries at_) := by
  refine (looks_cell hmem at_).bind fun c hc => ?_
  split
  · exact looks_pure fun e he => hc _ rfl e.2 (List.mem_map_of_mem he)
  · exact looks_pure fun e he => absurd he List.not_mem_nil

end Memory

namespace Value

variable {mem : Memory}

/-- What is found among passive values is passive, and so is what stands for nothing found. -/
lemma isPassive_getD {o : Option Value} (h : ∀ v ∈ o, v.isPassive) :
    (o.getD .undefined).isPassive := by
  cases o with
  | none => rfl
  | some v => exact h v rfl

lemma isPassive_get {fs : Fields} (h : ∀ f ∈ fs, f.2.isPassive) (name : String) :
    ∀ v ∈ fs.get? name, v.isPassive := by
  intro v hv
  obtain ⟨f, hf, rfl⟩ := Option.map_eq_some_iff.1 hv
  exact h f (List.mem_of_find?_eq_some hf)

lemma looks_listProperty (hmem : mem.Passive) (at_ : Nat) (name : String) :
    Looks mem (fun v => v.isPassive) (listProperty at_ name) := by
  refine (Memory.looks_items hmem at_).bind fun xs hxs => ?_
  split
  · exact looks_pure rfl
  · refine looks_pure (isPassive_getD fun v hv => ?_)
    obtain ⟨i, -, hi⟩ := Option.bind_eq_some_iff.1 hv
    exact hxs v (Array.mem_of_getElem? hi)

lemma looks_recordProperty (hmem : mem.Passive) (h : Host) (type : String) (at_ : Nat)
    (name : String) :
    Looks mem (fun v => v.isPassive) (recordProperty h type at_ name) := by
  have hplace : Looks mem (fun _ => True) (fieldPlace? h type at_ name) := by
    rw [fieldPlace?]
    split
    · exact looks_pure trivial
    · exact (Memory.looks_fields hmem at_).bind fun _ _ => looks_pure trivial
  refine hplace.bind fun found _ => ?_
  split
  · next place f =>
    exact (Memory.looks_fields hmem place).bind fun fs hfs =>
      looks_pure (isPassive_getD (isPassive_get hfs f.name))
  · exact looks_pure rfl

/-- Asking a passive value for a property changes nothing and gives a passive value. -/
theorem looks_property (hmem : mem.Passive) (h : Host) {v : Value} (hv : v.isPassive)
    (name : String) :
    Looks mem (fun v => v.isPassive) (v.property h name) := by
  have hfields : ∀ at_, Looks mem (fun v : Value => v.isPassive)
      (do return ((← Memory.fields at_).get? name).getD .undefined) := fun at_ =>
    (Memory.looks_fields hmem at_).bind fun fs hfs =>
      looks_pure (isPassive_getD (isPassive_get hfs name))
  cases v with
  | host _ _ | template _ | content _ | nodes _ => cases hv
  | object at_ => exact hfields at_
  | options at_ =>
    rw [property]
    split
    · exact looks_pure rfl
    · exact hfields at_
  | list at_ => exact looks_listProperty hmem at_ name
  | typedList _ at_ => exact looks_listProperty hmem at_ name
  | text s =>
    rw [property, textProperty]
    split
    · exact looks_pure rfl
    · split <;> exact looks_pure rfl
  | typedMap key element at_ =>
    rw [property.eq_def]
    cases key with
    | text =>
      refine (Memory.looks_entries hmem at_).bind fun es hes =>
        looks_pure (isPassive_getD fun v hv => ?_)
      obtain ⟨e, he, rfl⟩ := Option.map_eq_some_iff.1 hv
      exact hes e (List.mem_of_find?_eq_some he)
    | _ => exact looks_pure rfl
  | record type at_ => exact looks_recordProperty hmem h type at_ name
  | recordRef type at_ => exact looks_recordProperty hmem h type at_ name
  | _ => exact looks_pure rfl

lemma looks_follow (hmem : mem.Passive) (h : Host) {v : Value} (hv : v.isPassive)
    (names : List String) :
    Looks mem (fun v => v.isPassive) (v.follow h names) := by
  induction names generalizing v with
  | nil => exact looks_pure hv
  | cons name names ih =>
    rw [follow]
    split
    · exact looks_pure rfl
    · exact (looks_property hmem h hv name).bind fun w hw => ih hw

/-! ### Texts and operators -/

lemma looks_textTo (hmem : mem.Passive) (m : Machine) (depth : Nat) {v : Value} (hv : v.isPassive) :
    Looks mem (fun _ => True) (textTo m depth v) := by
  induction depth using Nat.strongRecOn generalizing v with
  | ind depth ih =>
    fun_cases textTo m depth v
    all_goals first
      | exact looks_pure trivial
      | exact looks_get (looks_pure trivial)
      | exact (Memory.looks_items hmem _).bind fun xs hxs =>
          (looks_mapM fun x hx =>
            ih _ (Nat.lt_succ_self _) (hxs x (Array.mem_toList_iff.1 hx))).bind
            fun _ _ => looks_pure trivial
      | cases hv

/-- Showing a passive value as text changes nothing. -/
theorem looks_toText (hmem : mem.Passive) (m : Machine) {v : Value} (hv : v.isPassive) :
    Looks mem (fun _ => True) (v.toText m) :=
  looks_get (looks_textTo hmem m _ hv)

lemma looks_strictEq (hmem : mem.Passive) (a b : Value) : Looks mem (fun _ => True)
    (strictEq a b) := by
  have hempty : ∀ x y, Looks mem (fun _ => True) (bothEmpty x y) := fun x y =>
    (Memory.looks_items hmem x).bind fun _ _ => (Memory.looks_items hmem y).bind fun _ _ =>
      looks_pure trivial
  fun_cases strictEq a b
  all_goals first
    | exact looks_pure trivial
    | exact (hempty _ _).bind fun _ _ => looks_pure trivial

lemma looks_looseEq (hmem : mem.Passive) (a b : Value) : Looks mem (fun _ => True)
    (looseEq a b) := by
  rw [looseEq]
  split
  · exact looks_pure trivial
  · refine (looks_strictEq hmem a b).bind fun same _ => ?_
    split
    · exact looks_pure trivial
    · split <;> exact looks_pure trivial

/-- Operators on passive values change nothing and give passive values. -/
theorem looks_binary (hmem : mem.Passive) (m : Machine) (op : Expr.BinaryOp) {a b : Value}
    (ha : a.isPassive) (hb : b.isPassive) : Looks mem (fun v => v.isPassive) (binary m op a b) := by
  cases op with
  | add =>
    rw [binary, add]
    split
    · exact (looks_toText hmem m ha).bind fun _ _ => (looks_toText hmem m hb).bind fun _ _ =>
        looks_pure rfl
    · exact looks_pure rfl
  | eq | ne => exact (looks_looseEq hmem a b).bind fun _ _ => looks_pure rfl
  | strictEq | strictNe => exact (looks_strictEq hmem a b).bind fun _ _ => looks_pure rfl
  | _ => exact looks_pure rfl

lemma isPassive_unary (op : Expr.UnaryOp) (v : Value) : (v.unary op).isPassive := by
  cases op <;> rfl

end Value

/-! ### Names -/

namespace Scope

variable {mem : Memory}

lemma looks_chain (hmem : mem.Passive) (fuel at_ : Nat) :
    Looks mem (fun ss => ∀ e ∈ ss, ∀ v ∈ e.2.values, v.isPassive) (chain fuel at_) := by
  have hscope : ∀ at_, Looks mem (fun s => ∀ v ∈ s.values, v.isPassive) (Memory.scope at_) := by
    refine fun at_ => looks_get (looks_pure ?_)
    cases hs : mem.scopes[at_]? with
    | none => simp [values, Value.isPassive]
    | some s => exact hmem.scopes s (Array.mem_of_getElem? hs)
  induction fuel generalizing at_ with
  | zero =>
    refine (hscope at_).bind fun s hs => looks_pure fun e he => ?_
    rwa [List.mem_singleton.1 he]
  | succ fuel ih =>
    refine (hscope at_).bind fun s hs => ?_
    split
    · next up _ =>
      refine (ih up).bind fun ss hss => looks_pure fun e he => ?_
      obtain rfl | he := List.mem_cons.1 he
      · exact hs
      · exact hss e he
    · refine looks_pure fun e he => ?_
      rwa [List.mem_singleton.1 he]

lemma isPassive_find {s : Scope} (hs : ∀ v ∈ s.values, v.isPassive) {name : String} {v : Value}
    (h : s.find name = .bound v) : v.isPassive := by
  rw [find] at h
  split at h
  · cases h
  · split at h
    · next w hw =>
      cases h
      exact Value.isPassive_get (fun f hf =>
        hs f.2 (List.mem_cons_of_mem _ (List.mem_map_of_mem hf))) name v hw
    · cases h

/-- Looking a name up changes nothing and gives a passive value. -/
theorem looks_lookup (hmem : mem.Passive) (h : Host) (at_ : Nat) (name : String) :
    Looks mem (fun v => v.isPassive) (lookup h at_ name) := by
  refine (looks_chain hmem at_ at_).bind fun ss hss => ?_
  induction ss with
  | nil => exact looks_pure rfl
  | cons e rest ih =>
    obtain ⟨hs, hrest⟩ := List.forall_mem_cons.1 hss
    unfold lookupIn
    split
    · exact looks_throw _
    · next hfind => exact looks_pure (isPassive_find hs hfind)
    · split
      · exact looks_pure rfl
      · exact Value.looks_property hmem h (hs _ List.mem_cons_self) name
      · exact ih hrest

end Scope

end Trellis
