/-
Properties of all rendering.

A property of work that is pervasive holds of all that renders: of each instruction in each context,
of the bodies that call each other (`Workshop.Pervasive.bodyTo`), and of what the machines of a
workshop do with them.  Work in a context that is watching may write watched slots; asking a
template for its watched slots keeps those apart, and is other work again.
-/
import Trellis.Proofs.Eval.Pervasive
import Trellis.Proofs.Render.Contained

namespace Trellis

open Run.Pervasive

/-- A renderer of which all parts have the property. -/
structure Renderer.Pervasive (P : Bool → ∀ α : Type, Run α → Prop) (r : Renderer) : Prop where
  machine : r.machine.Pervasive P
  body : ∀ (c : Context) (at_ : Nat), P c.watching _ (r.body c at_)

/-- What the host brings along has the property, its controls wherever the renderer has that they
are given. -/
structure Workshop.Pervasive (P : Bool → ∀ α : Type, Run α → Prop) (w : Workshop) : Prop where
  host : w.host.Pervasive P
  control : ∀ (name : String) (r : Renderer) (c : Context) (call : ControlCall), r.Pervasive P →
    c.watching = false →
    P false _ (w.controls name r c call)
  decorator : ∀ m : Machine, m.Pervasive P → ∀ formats name f, w.decorator? m formats name =
    some f →
    ∀ args, P false _ (f args)

variable {P : Bool → ∀ α : Type, Run α → Prop} {α β : Type} {watching : Bool} {c : Context}
  {t : Template}
  {r : Renderer} {w : Workshop}

namespace Run.Pervasive

variable (h : Run.Pervasive P)

include h

/-! ### Contexts -/

lemma report (module : String) (f : Fault) : P false _ (c.report module f) := by
  rw [Context.report]
  exact of_ite (h.logLine _) (h.of_pure _)

lemma contain {work : Run α} (hwork : P watching α work) (module : String) (instead : α) :
    P watching α (c.contain module instead work) := by
  refine h.of_tryCatch hwork fun f => h.of_unless ?_
  exact h.of_bind (h.calm _ (h.report _ _)) fun _ => h.of_pure _

/-- What is done in a nested context is watching if the context is. -/
lemma of_nested {step : String} {k : Context → Run α}
    (hk : ∀ inner : Context, inner.watching = c.watching → P watching α (k inner)) :
    P watching α (c.nested step >>= k) := by
  rw [Context.nested, bind_assoc]
  refine h.of_bind (h.calm _ (h.newScope _)) fun scope => ?_
  rw [pure_bind]
  refine hk _ ?_
  rw [Context.spawn]
  split <;> rfl

/-- What an invocation starts in renders its subject. -/
lemma of_context {i : Invocation} {subject : Subject} {k : Context → Run α}
    (hk : ∀ c : Context, c.subject = subject → P watching α (k c)) :
    P watching α (i.context subject >>= k) := by
  rw [Invocation.context, bind_assoc]
  refine h.of_bind (h.lenient.withOptions _) fun _ => ?_
  rw [bind_assoc]
  refine h.of_bind (h.calm _ (h.newScope _)) fun _ => ?_
  dsimp only
  split
  · rw [pure_bind]
    exact hk _ rfl
  · rw [pure_bind]
    exact hk _ rfl

end Run.Pervasive

/-- Data that shows itself is found without a fault. -/
lemma Value.withOptions_on (data : Value) (m : Memory) : ∃ v m', data.withOptions.on m =
    (.ok v, m') := by
  rw [withOptions.eq_def]
  split
  · rw [Memory.fields, Memory.cell?, bind_assoc, bind_assoc, Run.on_bind (Run.on_get m), pure_bind]
    rcases m.cells[_]? with _ | c
    · exact ⟨_, _, rfl⟩
    · cases c with
      | fields fs =>
        dsimp only
        rw [pure_bind]
        split <;> exact ⟨_, _, rfl⟩
      | _ => exact ⟨_, _, rfl⟩
  · exact ⟨_, _, rfl⟩

/-- An invocation has a context to start in. -/
lemma Invocation.context_on (i : Invocation) (subject : Subject) (m : Memory) :
    ∃ c m', (i.context subject).on m = (.ok c, m') := by
  obtain ⟨data, m', hdata⟩ := i.data.withOptions_on m
  rw [context, Run.on_bind hdata]
  cases i.parent with
  | none => exact ⟨_, _, rfl⟩
  | some p => exact ⟨_, _, rfl⟩

/-! ### Renderers -/

/-- Content that was found, rendered where it was written. -/
def Renderer.shown (r : Renderer) (data : Value) : Option ContentOption → Run (List Rendered)
  | none => return []
  | some c => do
    let inner ← c.context.nested ""
    Scope.define inner.scope c.name data
    r.body inner c.body

namespace Renderer.Pervasive

variable (h : Run.Pervasive P) (hr : r.Pervasive P)

include h hr

/-- Content that was passed is rendered where it was written. -/
lemma content (at_ : Nat) (data : Value) : P false _ (r.content at_ data) := by
  have hfound : ∀ c : ContentOption, P c.context.watching (List Rendered) (do
      let inner ← c.context.nested ""
      Scope.define inner.scope c.name data
      r.body inner c.body) := fun c => h.of_nested fun inner hinner => by
    refine h.of_bind (h.calm _ (h.define _ _ _)) fun _ => ?_
    exact hinner ▸ hr.body inner c.body
  exact h.content (k := r.shown data) (h.of_pure _) hfound

/-- A template is rendered as a component. -/
lemma component (hc : c.watching = false) (t : Template) (key : String) (options : Nat) :
    P false _ (r.component c t key options) := by
  refine h.of_bind (h.lenient.withOptions _) fun _ => h.of_bind (h.newScope _) fun scope => ?_
  have hbody := hr.body { c with subject := .kept t c.watching, key, scope } t.body
  rwa [show Context.watching { c with subject := .kept t c.watching, key, scope } =
    false from hc] at hbody

/-- A template is rendered from the start. -/
lemma render (t : Template) (data : Value) (style : Style) (throws : Bool) :
    P false _ (r.render t data style throws) := by
  refine h.of_context fun c hc => h.contain ?_ _ _
  have hbody := hr.body c t.body
  rwa [Context.watching, hc] at hbody

/-- What is watched is evaluated, and kept apart meanwhile. -/
lemma watchedSlots (t : Template) (data : Value) : P false _ (r.watchedSlots t data) := by
  let work : Run Unit := do
    let c ← Invocation.context { data, throws := false } (.kept t true)
    tryCatch (do let _ ← r.body c t.body) fun _ => return
  have hwork : P true Unit work := by
    refine h.of_context fun c hc => ?_
    have hbody := hr.body c t.body
    rw [Context.watching, hc] at hbody
    exact h.of_tryCatch (h.of_bind hbody fun _ => h.of_pure _) fun _ => h.of_pure _
  have hends : ∀ m, ∃ m', work.on m = (.ok (), m') := by
    intro m
    obtain ⟨c, m', hm'⟩ := Invocation.context_on { data, throws := false } (.kept t true) m
    rw [Run.on_bind hm', Run.on_tryCatch]
    split
    · exact ⟨_, rfl⟩
    · exact ⟨_, rfl⟩
  have hapart := h.apart (w := work) (k := fun found => found.mergeSort fun a b =>
    a.1 ≤ b.1) hwork hends
  simp only [work, bind_assoc] at hapart
  rw [Renderer.watchedSlots]
  exact hapart

end Renderer.Pervasive

namespace Run.Pervasive

open Render Description

variable (h : Run.Pervasive P) (hr : r.Pervasive P)

include h hr

/-! ### Parts -/

lemma eval (slot : Nat) : P false _ (eval t r c slot) := by
  rw [Render.eval]
  split
  · exact h.program hr.machine _
  · exact h.of_throw _

lemma collect (watch : Option Nat) : P c.watching _ (collect t r c watch) := by
  rw [Render.collect]
  split
  · exact h.of_pure _
  · next hwatching =>
    have hwatching : c.watching = true := by simpa using hwatching
    rw [hwatching]
    refine h.of_bind (h.of_forIn (fun slot s => ?_) _) fun _ => h.of_pure _
    refine h.of_get (fun _ _ => rfl) fun m => ?_
    dsimp only
    split
    · exact h.of_pure _
    · have heval := h.calm true (h.eval (t := t) (c := c) hr slot.toNat)
      refine h.of_bind (h.of_tryCatch heval fun _ => h.of_pure _) fun v => h.of_bind ?_ fun _ =>
        h.of_pure _
      exact h.watch fun watched => (slot.toNat, v) :: watched.filter (·.1 != slot.toNat)

lemma containEval {instead : Value} (slot : Nat) :
    P false _ (Render.contain t c instead (Render.eval t r c slot)) :=
  h.contain (h.eval hr slot) _ _

lemma part (p : Part) : P false _ (part t r c p) := by
  cases p with
  | expr slot _ => exact h.containEval hr slot
  | value d => exact h.lenient.constant d
  | text _ => exact h.of_pure _
  | translation _ _ => exact h.of_pure _
  | other _ => exact h.of_pure _

lemma parts (ps : List Part) : P false _ (parts t r c ps) := by
  rw [Render.parts.eq_def]
  split
  · exact h.part hr _
  · refine h.of_bind (h.lenient.of_mapM fun p _ => ?_) fun _ => h.of_pure _
    exact h.of_bind (h.part hr p) fun v => h.toText hr.machine v

lemma text (key : String) (ps : List Part) : P false _ (text t r c key ps) := by
  rw [Render.text]
  refine of_ite (h.of_pure _) (h.of_bind (h.parts hr ps) fun v => ?_)
  exact h.lenient.textNode (hr.machine.tame h) _ _ v

/-! ### Attributes and options -/

lemma elementAttrs (as : List Attr) : P false _ (elementAttrs t r c as) := by
  refine h.of_bind (h.lenient.of_mapM fun a _ => ?_) fun _ => h.of_pure _
  have hparts : ∀ ps, P false _ (do
      return (← attrText? r a.name (← Render.parts t r c ps), (none : Option RenderedEvent))) :=
          fun ps =>
    h.of_bind (h.parts hr ps) fun v =>
      h.of_bind (h.lenient.attrText? (hr.machine.tame h) a.name v) fun _ => h.of_pure _
  cases a.value with
  | event slot => exact h.of_pure _
  | bind slot _ =>
    refine h.of_bind (h.containEval hr slot) fun v => of_ite (h.of_pure _) ?_
    exact h.of_bind (h.toText hr.machine v) fun _ => h.of_pure _
  | markup ps => exact hparts ps
  | option ps => exact hparts ps
  | other _ ps => exact hparts ps

set_option linter.unusedSectionVars false in
mutual
lemma optionValue : ∀ v : OptionValue, P false _ (optionValue t r c v)
  | .array items => by
    rw [Render.optionValue]
    exact h.of_bind (options items) fun _ => h.lenient.newList _
  | .object properties => by
    rw [Render.optionValue]
    exact h.of_bind (options properties) fun _ => h.lenient.newObject _
  | .scalar type ps => by
    rw [Render.optionValue]
    refine h.of_bind (h.parts hr ps) fun v => ?_
    split
    · exact h.of_bind (h.toText hr.machine v) fun _ => h.of_pure _
    · exact h.of_pure _
    · split <;> exact h.of_pure _
    · exact h.of_pure _

lemma options : ∀ os : List OptionSpec, P false _ (options t r c os)
  | [] => by
    rw [Render.options]
    exact h.of_pure _
  | .mk name v :: os => by
    rw [Render.options]
    exact h.of_bind (optionValue v) fun _ => h.of_bind (options os) fun _ => h.of_pure _
end

lemma callAttr (call : ControlCall) (fs : Fields) (a : Attr) :
    P false _ (callAttr t r c call fs a) := by
  rw [Render.callAttr]
  cases a.value with
  | markup ps =>
    exact h.of_bind (h.parts hr ps) fun v => h.of_bind (h.toText hr.machine v) fun _ => h.of_pure _
  | option ps =>
    refine h.of_bind (h.parts hr ps) fun v => of_ite ?_ (h.of_pure _)
    refine h.of_bind (h.keys hr.machine v) fun ks => h.of_bind (h.of_foldlM (fun fs k => ?_) _)
      fun _ => h.of_pure _
    exact h.of_bind (h.property hr.machine v k) fun _ => h.of_pure _
  | bind slot _ => exact h.of_bind (h.containEval hr slot) fun _ => h.of_pure _
  | event slot => exact h.of_pure _
  | other _ _ => exact h.of_pure _

/-! ### Calls -/

lemma callOf (hc : c.watching = false) (key name : String) (call : Call) :
    P false _ (callOf t r c key name call) := by
  refine h.of_bind (h.of_foldlM (fun acc a => h.callAttr hr _ _ a) _) fun found => ?_
  refine h.of_bind (h.options hr _) fun os => h.of_bind (h.of_foldlM (fun fs ref => ?_) _) fun _ =>
    ?_
  · exact h.of_bind (h.newContent hc) fun _ => h.of_pure _
  · exact h.of_bind (h.lenient.alloc _) fun _ => h.of_pure _

/-- What a call passes is gone through. -/
lemma watchContents (call : Call) : P c.watching _ (watchContents r c call) := by
  refine h.of_bind (h.of_forIn (fun ref _ => h.poisoned fun inner hinner => ?_) _) fun _ =>
    h.of_pure _
  exact h.of_bind (hinner ▸ hr.body inner ref.body) fun _ => h.of_pure _

lemma calling (key name : String) (call : Call) {render : ControlCall → Run (List Rendered)}
    (hrender : c.watching = false → ∀ made, P false _ (render made)) :
    P c.watching _ (calling t r c key name call render) := by
  rw [Render.calling]
  split
  · exact h.of_bind (h.collect hr _) fun _ => h.of_bind (h.watchContents hr call) fun _ =>
      h.of_pure _
  · next hwatching =>
    have hc : c.watching = false := by simpa using hwatching
    rw [hc]
    exact h.of_bind (h.callOf hr hc _ _ _) fun made => h.contain (hrender hc made) _ _

variable (hw : w.Pervasive P)

include hw

section

variable (hc : c.watching = false)

include hc

lemma registered (call : ControlCall) (name : String) (found : Option Component) (f : Fault) :
    P false _ (registered w r c call name found f) := by
  rw [Render.registered.eq_def]
  split
  · exact h.of_throw _
  · exact h.of_throw _
  · exact hw.control _ r c call hr hc
  · refine h.of_get (fun _ _ => rfl) fun m => ?_
    split
    · exact hr.component h hc _ _ _
    · exact h.of_throw _

lemma control (call : ControlCall) : P false _ (control w r c call) := by
  rw [Render.control]
  split
  · exact h.of_bind (h.lenient.fields _) fun _ => h.of_pure _
  · exact h.registered hr hw hc call _ _ _

lemma partialBody (call : ControlCall) (target : Target) :
    P false _ (partialBody w t r c call target) := by
  cases target with
  | static name => exact h.registered hr hw hc call _ _ _
  | inline name =>
    rw [Render.partialBody]
    split
    · exact h.of_throw _
    · refine h.of_nested fun inner hinner => h.of_bind (h.lenient.fields _) fun fs => ?_
      refine h.of_bind (h.of_forIn (fun f _ => h.of_bind (h.define _ _ _) fun _ => h.of_pure _) _)
        fun _ => ?_
      have hbody := hr.body { inner with key := call.key }
      rw [show Context.watching { inner with key := call.key } =
        false from hinner.trans hc] at hbody
      exact hbody _
  | dynamic slot name =>
    rw [Render.partialBody]
    refine h.of_unless (h.of_bind (h.eval hr _) fun v => ?_)
    split
    · exact hr.content h _ _
    · refine h.of_get (fun _ _ => rfl) fun m => ?_
      split
      · exact hr.component h hc _ _ _
      · exact h.of_pure _
    · exact h.registered hr hw hc call _ _ _
    · exact h.of_bind (h.toText hr.machine _) fun _ => h.of_throw _

end

/-! ### Loops -/

omit hr hw

section

variable {body : Context → Run (List Rendered)}
  (hbody : ∀ inner : Context, P inner.watching _ (body inner))

include hbody

lemma withoutSteps (names : List String) : P c.watching _ (withoutSteps c names body) :=
  h.poisoned fun inner hinner => h.of_bind (hinner ▸ hbody inner) fun _ => h.of_pure _

lemma steps {loop : Context} (hloop : loop.watching = c.watching) {test update : Run Bool}
    (htest : P false _ test)
    (hupdate : P false _ update) (left done : Nat) (made : List (List Rendered)) :
    P c.watching _ (steps t c loop test update body left done made) := by
  have htry : P false _ (steps.tryTest t c test) := by
    rw [steps.tryTest]
    exact of_ite (h.of_tryCatch htest fun _ => h.of_pure _) (h.contain htest _ _)
  have hgo : P false _ (steps.tryUpdate t c update) := h.contain hupdate _ _
  induction left generalizing done made with
  | zero => exact h.of_throw _
  | succ left ih =>
    rw [Render.steps]
    refine h.of_bind (h.calm _ htry) fun more => of_ite (h.of_pure _) ?_
    refine h.of_nested fun inner hinner => ?_
    refine h.of_bind ((hinner.trans hloop) ▸ hbody inner) fun nodes => of_ite (h.of_pure _) ?_
    exact h.of_bind (h.calm _ hgo) fun more => of_ite (h.of_pure _) (ih _ _)

include hr

omit hbody in
lemma clause (slot : Option Nat) : P false _ (clause t r c slot) := by
  cases slot with
  | none => exact h.of_pure _
  | some slot => exact h.eval hr slot

lemma loop (names : List String) (init test update : Option Nat) :
    P c.watching _ (loop t r c names init test update body) := by
  rw [Render.loop]
  refine h.of_nested fun inner hinner => ?_
  refine h.of_bind (h.of_forIn (fun _ _ => h.of_bind (h.calm _ (h.define _ _ _)) fun _ =>
    h.of_pure _) _) fun _ => ?_
  have hclause := fun (slot : Option Nat) => h.clause (t := t) (c := inner) hr slot
  have hstart : P false Bool (do let _ ← Render.clause t r inner init; return true) :=
    h.of_bind (hclause init) fun _ => h.of_pure _
  refine h.of_ite_bind (h.calm _ (h.of_tryCatch hstart fun _ => h.of_pure _))
    (h.calm _ (h.contain hstart _ _))
    fun started => ?_
  refine h.of_ite_bind ?_ (h.of_pure _) fun made => of_ite ?_ (h.of_pure _)
  · exact h.steps hbody hinner (h.of_bind (hclause test) fun _ => h.of_pure _)
      (h.of_bind (hclause update) fun _ => h.of_pure _) _ _ _
  · exact hinner ▸ h.withoutSteps hbody names

lemma each (collection : Nat) (index iterator : String) :
    P c.watching _ (each t r c collection index iterator body) := by
  have hfound : P false _ (do return some (← Render.eval t r c collection)) :=
    h.of_bind (h.eval hr collection) fun _ => h.of_pure _
  rw [Render.each]
  refine h.of_ite_bind (h.calm _ (h.of_tryCatch hfound fun _ => h.of_pure _))
    (h.calm _ (h.contain hfound _ _))
    fun found => ?_
  cases found with
  | none => exact h.of_pure _
  | some v =>
    refine h.of_bind (h.lenient.walk (hr.machine.tame h) v _ fun made key element => ?_) fun made =>
      ?_
    · refine h.of_bind (h.calm _ (h.toText hr.machine key)) fun step =>
        h.of_nested fun inner hinner => ?_
      refine h.of_bind (h.calm _ (h.define _ _ _)) fun _ => ?_
      have hstep : P c.watching (List (List Rendered) × Bool) (do
          let nodes ← body inner
          return (nodes :: made, !c.watching)) := h.of_bind (hinner ▸ hbody inner) fun _ =>
            h.of_pure _
      exact of_ite (h.of_bind (h.calm _ (h.define _ _ _)) fun _ => hstep) hstep
    · exact of_ite (h.withoutSteps hbody _) (h.of_pure _)

end

/-! ### Conditions -/

lemma chainArm (chain : Chain Rendered) {test : Option (Run (Except Fault Value))}
    {body : Run (Except Fault (List Rendered))} (htest : ∀ work ∈ test, P watching _ work)
    (hbody : P watching _ body) :
    P watching _ (chain.arm test body) := by
  have hdecided : ∀ value, P watching _ (chain.decided body value) := by
    intro value
    rw [Chain.decided]
    split
    · exact h.of_pure _
    · refine of_ite (h.of_pure _) (h.of_bind hbody fun nodes => ?_)
      split <;> exact h.of_pure _
  rw [Chain.arm_eq]
  refine of_ite (h.of_pure _) ?_
  split
  · exact h.of_bind (htest _ rfl) hdecided
  · exact h.of_bind (h.of_pure _) hdecided

/-- What an arm comes to: its chain, or its fault. -/
lemma outcome {watching : Bool} (o : Chain.Outcome Rendered) : P watching (Chain Rendered)
    (match o.2 with
    | some f => throw f
    | none => return o.1) := by
  split
  · exact h.of_throw _
  · exact h.of_pure _

include hr

lemma arm (first : Bool) (slot : Option Nat) {body : Run (List Rendered)}
    (hbody : P c.watching _ body)
    (chain : Chain Rendered) : P c.watching _ (arm t r c first slot body chain) := by
  have htest : ∀ work ∈ slot.map (test t r c), P c.watching _ work := by
    intro work hwork
    obtain ⟨n, -, rfl⟩ := Option.map_eq_some_iff.1 hwork
    refine h.of_tryCatch ?_ fun _ => h.of_pure _
    exact h.of_ite_bind (h.calm _ (h.eval hr n)) (h.calm _ (h.containEval hr n)) fun _ =>
      h.of_pure _
  have hok : P c.watching _ (do return (Except.ok (← body) : Except Fault (List Rendered))) :=
    h.of_bind hbody fun _ => h.of_pure _
  rw [arm.eq_def]
  dsimp only
  split
  all_goals refine h.of_bind ?_ h.outcome
  · rw [Chain.«if»]
    split
    · exact h.chainArm _ htest hok
    · exact h.of_pure _
  · rw [Chain.«else»]
    split
    · exact h.of_pure _
    · exact h.of_pure _
    · exact h.of_pure _
    · exact h.chainArm _ (fun _ hnone => by cases hnone) hok
  · rw [Chain.elif]
    split
    · exact h.of_pure _
    · exact h.of_pure _
    · exact h.of_pure _
    · exact h.chainArm _ htest hok

/-! ### Instructions -/

include hw

set_option linter.unusedSectionVars false in
mutual
/-- Every instruction has the property. -/
theorem instruction : ∀ (c : Context) (i : Instruction), P c.watching _ (instruction w t r c i)
  | c, .text key ps => by
    rw [Render.instruction]
    exact h.calm _ (h.text hr key ps)
  | c, .element key name as children _ => by
    have hchildren := instructions c children
    rw [Render.instruction]
    refine of_ite (h.of_bind hchildren fun _ => h.of_pure _) ?_
    exact h.of_bind (h.calm _ (h.elementAttrs hr as)) fun _ => h.of_bind hchildren fun _ =>
      h.of_pure _
  | c, .component key name call => by
    rw [Render.instruction]
    exact h.calling hr _ _ _ fun hc made => h.control hr hw hc made
  | c, .partialCall key target call => by
    rw [Render.instruction.eq_def]
    exact h.calling hr _ _ _ fun hc made => h.partialBody hr hw hc made target
  | c, .branches key as => by
    rw [Render.instruction]
    refine h.of_bind (arms c true _ as) fun chain => ?_
    split
    · exact h.of_pure _
    · exact h.of_throw _
  | c, .loop key names init test update children watch => by
    rw [Render.instruction]
    exact h.loop hr (fun inner => h.of_bind (h.collect hr _) fun _ =>
      instructions inner children) names init test
      update
  | c, .each key collection index iterator children watch => by
    rw [Render.instruction]
    exact h.each hr (fun inner => h.of_bind (h.collect hr _) fun _ =>
      instructions inner children) collection index
      iterator
  | c, .unknown op => by
    rw [Render.instruction]
    exact h.of_throw _

theorem instructions : ∀ (c : Context) (is : List Instruction),
    P c.watching _ (instructions w t r c is)
  | c, [] => by
    rw [Render.instructions]
    exact h.of_pure _
  | c, i :: is => by
    rw [Render.instructions]
    exact h.of_bind (instruction c i) fun _ => h.of_bind (instructions c is) fun _ => h.of_pure _

theorem arms : ∀ (c : Context) (first : Bool) (chain : Chain Rendered) (as : List Arm),
    P c.watching _ (arms w t r c first chain as)
  | c, first, chain, [] => by
    rw [Render.arms]
    exact h.of_pure _
  | c, first, chain, .mk slot children watch :: as => by
    rw [Render.arms]
    refine h.of_bind (h.arm hr first slot ?_ chain) fun chain => arms c false chain as
    exact h.of_bind (h.collect hr _) fun _ => instructions c children
end

/-- Every body has the property. -/
theorem body (c : Context) (at_ : Nat) : P c.watching _ (body w t r c at_) := by
  rw [Render.body]
  split
  · exact h.of_pure _
  · exact h.of_bind (h.collect hr _) fun _ => h.instructions hr hw _ _

end Run.Pervasive

/-! ### Workshops -/

namespace Workshop.Pervasive

variable (h : Run.Pervasive P)

include h

/-- The standard decorators have the property. -/
lemma standard {m : Machine} (hm : m.Pervasive P) {formats : Formats} {name : String}
    {f : List Value → Run Value}
    (hf : StandardDecorator.find? m formats name = some f) (args : List Value) :
    P false _ (f args) := by
  obtain ⟨d, -, rfl⟩ := Option.map_eq_some_iff.1 hf
  exact h.lenient.apply (hm.tame h) formats d args

/-- A workshop without a host brings nothing along but the standard decorators. -/
lemma empty : ({} : Workshop).Pervasive P where
  host := {
    get := fun _ _ hread => by cases hread
    each := fun _ _ heach => by cases heach
    function := fun _ _ hf => by cases hf
    record := fun _ _ hx => by cases hx
    method := fun _ _ hx => by cases hx
    set := fun _ _ hwrite => by cases hwrite }
  control := fun _ _ _ _ _ _ => h.of_pure _
  decorator := fun _ hm _ _ _ hf => standard h hm hf

variable (hw : w.Pervasive P)

include hw

/-- A machine of a workshop has the property, if what it renders has it. -/
lemma machine {content : Nat → Value → Run (List Rendered)}
    {render : Template → Value → Style → Bool → Run (List Rendered)}
    {watched : Template → Value → Run (List (Nat × Value))}
    (hcontent : ∀ at_ v, P false _ (content at_ v))
    (hrender : ∀ t v style throws, P false _ (render t v style throws))
    (hwatched : ∀ t v, P false _ (watched t v)) :
    (w.machine content render watched).Pervasive P := by
  let host : Host := { w.host with decorators := w.decoratorNames }
  have hhost : host.Pervasive P :=
    ⟨⟨hw.host.get, hw.host.each⟩, hw.host.function, hw.host.record, hw.host.method, hw.host.set⟩
  let plain : Machine := { host, content, render, watched, decorator? := fun _ _ => none }
  have hplain : plain.Pervasive P := by
    refine ⟨hhost, hcontent, hrender, hwatched, fun _ _ => h.of_pure _, fun _ _ => h.of_pure _, ?_⟩
    intro formats name f hf
    cases hf
  let fitted : Machine :=
    { plain with decoratorNames := w.decoratorNames, decorator? := w.decorator? plain }
  have hdecorator := hw.decorator plain hplain
  have hfitted : fitted.Pervasive P :=
    ⟨hhost, hcontent, hrender, hwatched, fun _ _ => h.of_pure _, fun _ _ => h.of_pure _, hdecorator⟩
  exact ⟨hhost, hcontent, hrender, hwatched, h.fire hfitted, h.update hfitted, hdecorator⟩

lemma rendererWith {body : Context → Nat → Run (List Rendered)}
    (hbody : ∀ c at_, P c.watching _ (body c at_)) :
    (w.rendererWith body).Pervasive P := by
  let still := w.machine (fun _ _ => return []) (fun _ _ _ _ => return []) fun _ _ => return []
  have hplain : Renderer.Pervasive P { machine := still, body } :=
    ⟨hw.machine h (fun _ _ => h.of_pure _) (fun _ _ _ _ => h.of_pure _) fun _ _ =>
      h.of_pure _, hbody⟩
  refine ⟨hw.machine h ?_ ?_ ?_, hbody⟩
  · exact hplain.content h
  · exact hplain.render h
  · exact hplain.watchedSlots h

/-- **All rendering.**  Bodies have the property, however deep they call each other. -/
theorem bodyTo (start : Template) (depth : Nat) (c : Context) (at_ : Nat) :
    P c.watching _ (w.bodyTo start depth c at_) := by
  induction depth generalizing c at_ with
  | zero => exact h.of_throw _
  | succ depth ih =>
    rw [Workshop.bodyTo]
    exact h.body (hw.rendererWith h ih) hw c at_

end Workshop.Pervasive

end Trellis
