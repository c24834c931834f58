/-
A fault is contained where it happens.

In a rendering that faults do not end, a fault leaves the empty text in a text or an attribute, no
step in a loop, and counts as false in a condition.  So the rendering is the one that faults do end,
with evaluators that give the empty text where the others fail (`Tabled.invoke_contained`): the
empty text shows nothing, has no entries and counts as false.  Nothing else is lost, whichever
evaluations fail and however deep they stand.

The two renderings are compared by `Run.Twin`, instruction by instruction
(`Tabled.twin_instruction`).  They differ in the log, where the one tells its faults.
-/
import Trellis.Proofs.Description.Chained
import Trellis.Proofs.Render.Styles
import Trellis.Proofs.Value.Run

/-!
Rendering with evaluators in place of a table.

What the slots of a description come to can be given from outside: `Render.Evaluators` is a value,
or a fault, for each slot in each environment.  `Render.Tabled` renders texts, elements, conditions
and loops over collections with them, outside of watching.  With the evaluators that a template was
compiled to it is the renderer itself (`Tabled.invoke_compiled`), so what holds for all evaluators
holds for templates.
-/

namespace Trellis

open Description

namespace Render

/-- What the slots of a description come to. -/
abbrev Evaluators := Nat → Env → Run Value

namespace Evaluators

/-- The evaluators that a template was compiled to. -/
def compiled (t : Template) (m : Machine) : Evaluators := fun slot env =>
  match expression? t slot with
  | some e => Eval.program m env e.program
  | none => throw (noSlot slot)

/-- The evaluators that give the empty text where others fail. -/
def softened (E : Evaluators) : Evaluators := fun slot env =>
  tryCatch (E slot env) fun _ => return .text ""

end Evaluators

lemma eval_eq_compiled (t : Template) (r : Renderer) (c : Context) (slot : Nat) :
    eval t r c slot = Evaluators.compiled t r.machine slot (c.env t.toolkit) := by
  unfold eval Evaluators.compiled
  cases expression? t slot <;> rfl

namespace Tabled

/-! ### Rendering -/

section

variable (E : Evaluators) (t : Template) (r : Renderer)

/-- The value of a slot. -/
def eval (c : Context) (slot : Nat) : Run Value := E slot (c.env t.toolkit)

/-- The value of a part. -/
def part (c : Context) : Part → Run Value
  | .text s => return .text s
  | .value d => constant d
  | .translation text context => return .text (t.toolkit.translate text context)
  | .expr slot _ => contain t c (.text "") (eval E t c slot)
  | .other _ => return .text ""

/-- The value of a text. -/
def parts (c : Context) : List Part → Run Value
  | [p] => part E t c p
  | ps => do
    let texts ← ps.mapM fun p => do (← part E t c p).toText r.machine
    return .text (String.join texts)

/-- A text. -/
def text (c : Context) (key : String) (ps : List Part) : Run (List Rendered) := do
  textNode r (c.key ++ key) (isTrusted ps) (← parts E t r c ps)

/-- An attribute or an event of an element. -/
def attr (c : Context) (a : Attr) : Run (Option (String × String) × Option RenderedEvent) := do
  match a.value with
  | .event slot => return (none, some (event t c a.name slot))
  | .bind slot _ =>
    let v ← contain t c .null (eval E t c slot)
    if v.isNullish then return (none, none)
    return (some (a.name, ← v.toText r.machine), none)
  | .markup ps | .option ps | .other _ ps =>
    return (← attrText? r a.name (← parts E t r c ps), none)

/-- The test of an arm. -/
def test (c : Context) (slot : Nat) : Run (Except Fault Value) :=
  tryCatch (do return .ok (← contain t c (.bool false) (eval E t c slot))) fun f => return .error f

/-- Runs an arm of a condition. -/
def arm (c : Context) (first : Bool) (slot : Option Nat) (body : Run (List Rendered))
    (chain : Chain Rendered) : Run (Chain Rendered) := do
  let body : Run (Except Fault (List Rendered)) := do return .ok (← body)
  let (chain, f) ← match first, slot with
    | true, slot => chain.«if» (slot.map (test E t c)) body
    | false, none => chain.«else» body
    | false, some slot => chain.elif (some (test E t c slot)) body
  match f with
  | some f => throw f
  | none => return chain

/-- A loop over a collection. -/
def each (c : Context) (collection : Nat) (index iterator : String)
    (body : Context → Run (List Rendered)) : Run (List Rendered) := do
  match ← contain t c none (do return some (← eval E t c collection)) with
  | none => return []
  | some v =>
    let made ← v.walk r.machine [] fun made key element => do
      let inner ← c.nested (← key.toText r.machine)
      Scope.define inner.scope iterator element
      if !index.isEmpty then Scope.define inner.scope index key
      let nodes ← body inner
      return (nodes :: made, true)
    return loopNodes made

mutual
/-- Renders an instruction; calls and loops with clauses are not rendered. -/
def instruction (c : Context) : Instruction → Run (List Rendered)
  | .text key ps => text E t r c key ps
  | .element key name as children _ => do
    let found ← as.mapM (attr E t r c)
    let children ← instructions c children
    let events := if c.style == .tree then found.filterMap (·.2) else []
    return [.element (c.key ++ key) name (found.filterMap (·.1)) events children false]
  | .branches _ as => do
    match (← arms c true { controller := .standard } as).fi [] with
    | (_, .ok nodes) => return nodes
    | (_, .error f) => throw f
  | .each _ collection index iterator children _ =>
    each E t r c collection index iterator fun inner => instructions inner children
  | .component _ _ _ | .partialCall _ _ _ | .loop _ _ _ _ _ _ _ | .unknown _ => return []

/-- Renders instructions. -/
def instructions (c : Context) : List Instruction → Run (List Rendered)
  | [] => return []
  | i :: is => return (← instruction c i) ++ (← instructions c is)

/-- Runs the arms of a condition. -/
def arms (c : Context) (first : Bool) (chain : Chain Rendered) : List Arm → Run (Chain Rendered)
  | [] => return chain
  | .mk slot children _ :: as => do
    arms c false (← arm E t c first slot (instructions c children) chain) as
end

/-- Renders a body of a template. -/
def body (c : Context) (at_ : Nat) : Run (List Rendered) :=
  match t.description.bodies[at_]? with
  | none => return []
  | some b => instructions E t r c b.children

/-- Renders a template.  A fault that does not end the rendering leaves an empty text. -/
def begin (i : Invocation) : Run (List Rendered) := do
  let c ← i.context .start
  c.contain t.description.module [.text c.key "" false false] (body E t r c t.body)

/-- Renders a template, which is kept for what is passed on of it. -/
def invoke (i : Invocation) : Run (List Rendered) := do
  let nodes ← tryCatch (begin E t r i) fun f => do
    Memory.settle t
    throw f
  Memory.settle t
  return nodes

end

end Tabled

end Render

namespace Description

/-- Whether an attribute is bound to a place. -/
def AttrValue.isBound : AttrValue → Bool
  | .bind _ _ => true
  | .markup _ | .option _ | .event _ | .other _ _ => false

/-- Whether an instruction is a text, an element without bound attributes, a condition or a loop
over a collection. -/
def Instruction.isBasic : Instruction → Bool
  | .text _ _ | .branches _ _ | .each _ _ _ _ _ _ => true
  | .element _ _ as _ _ => as.all fun a => !a.value.isBound
  | .component _ _ _ | .partialCall _ _ _ | .loop _ _ _ _ _ _ _ | .unknown _ => false

end Description

namespace Render.Tabled

/-! ### The evaluators that a template was compiled to -/

variable {w : Workshop} {t : Template} {r : Renderer} {c : Context}

lemma eval_compiled (slot : Nat) :
    eval (.compiled t r.machine) t c slot = Render.eval t r c slot :=
  (eval_eq_compiled t r c slot).symm

lemma part_compiled (p : Part) : part (.compiled t r.machine) t c p = Render.part t r c p := by
  cases p with
  | expr slot trusted => rw [part, Render.part, eval_compiled]
  | _ => rfl

lemma parts_compiled (ps : List Part) : parts (.compiled t r.machine) t r c ps =
    Render.parts t r c ps := by
  have hmapM : (ps.mapM fun p => do (← part (.compiled t r.machine) t c p).toText r.machine) =
      (ps.mapM fun p => do (← Render.part t r c p).toText r.machine) := by simp only [part_compiled]
  fun_cases Render.parts t r c ps with
  | case1 p => exact part_compiled p
  | case2 ps hps => rw [parts, hmapM]; assumption

lemma text_compiled (hc : c.watching = false) (key : String) (ps : List Part) :
    text (.compiled t r.machine) t r c key ps = Render.text t r c key ps := by
  rw [text, Render.text, parts_compiled, hc]
  rfl

lemma attr_compiled (as : List Attr) : Render.elementAttrs t r c as = (do
    let found ← as.mapM (attr (.compiled t r.machine) t r c)
    return (found.filterMap (·.1), found.filterMap (·.2))) := by
  rw [Render.elementAttrs]
  refine congrArg (· >>= _) (congrArg (as.mapM ·) (funext fun a => ?_))
  rw [attr]
  cases a.value with
  | event slot => rfl
  | bind slot b => simp only [eval_compiled]
  | markup ps => simp only [parts_compiled]
  | option ps => simp only [parts_compiled]
  | other kind ps => simp only [parts_compiled]

lemma test_compiled (hc : c.watching = false) :
    test (.compiled t r.machine) t c = Render.test t r c := by
  funext slot
  simp only [test, Render.test, hc, eval_compiled, Bool.false_eq_true, if_false]

lemma arm_compiled (hc : c.watching = false) (first : Bool) (slot : Option Nat)
    (body : Run (List Rendered)) (chain : Chain Rendered) :
    arm (.compiled t r.machine) t c first slot body chain = Render.arm t r c first slot body
    chain := by
  rw [arm.eq_def, test_compiled hc]
  rfl

lemma each_compiled (hc : c.watching = false) (collection : Nat) (index iterator : String)
    {f g : Context → Run (List Rendered)} (h : ∀ inner : Context, inner.watching = false →
    f inner = g inner) :
    each (.compiled t r.machine) t r c collection index iterator f =
      Render.each t r c collection index iterator g := by
  simp only [each, Render.each, hc, eval_compiled, Bool.false_eq_true, if_false, Bool.false_and]
  refine bind_congr fun found => ?_
  cases found with
  | none => rfl
  | some v =>
    refine congrArg (v.walk r.machine [] · >>= _) (funext fun made => funext fun key =>
      funext fun element => ?_)
    refine bind_congr fun step => nested_congr fun inner hinner => ?_
    rw [h inner (hinner.trans hc)]
    rfl

lemma collect_eq_pure (hc : c.watching = false) (watch : Option Nat) :
    collect t r c watch = pure () := by
  simp only [collect, hc]
  rfl

mutual
/-- With the evaluators that a template was compiled to, an instruction renders what it renders. -/
theorem instruction_compiled (w : Workshop) : ∀ {c : Context} (i : Instruction),
    c.watching = false →
    i.every Instruction.isBasic → instruction (.compiled t r.machine) t r c i =
    Render.instruction w t r c i
  | c, .text key ps, hc, _ => by
    rw [instruction, Render.instruction, text_compiled hc]
  | c, .element key name as children _, hc, h => by
    rw [Instruction.every, Bool.and_eq_true] at h
    simp only [instruction, Render.instruction, hc, attr_compiled,
      instructions_compiled w children hc h.2,
      Bool.false_eq_true, if_false, bind_assoc, pure_bind]
  | c, .branches key as, hc, h => by
    rw [Instruction.every, Bool.and_eq_true] at h
    have harms : arms (.compiled t r.machine) t r c true { controller := .standard } as =
        Render.arms w t r c true { controller := if c.watching then .watching else .standard }
            as := by
      rw [hc]
      exact arms_compiled w as hc h.2
    refine (instruction.eq_def ..).trans (Eq.trans ?_ (Render.instruction.eq_def ..).symm)
    exact congrArg (· >>= _) harms
  | c, .each key collection index iterator children watch, hc, h => by
    rw [Instruction.every, Bool.and_eq_true] at h
    rw [instruction, Render.instruction]
    refine each_compiled hc collection index iterator fun inner hinner => ?_
    rw [collect_eq_pure hinner, pure_bind]
    exact instructions_compiled w children hinner h.2
  | c, .component key name call, _, h => nomatch h
  | c, .partialCall key target call, _, h => nomatch h
  | c, .loop key names init test update children watch, _, h => nomatch h
  | c, .unknown op, _, h => nomatch h

theorem instructions_compiled (w : Workshop) : ∀ {c : Context} (is : List Instruction),
    c.watching = false →
    everyOf Instruction.isBasic is →
    instructions (.compiled t r.machine) t r c is = Render.instructions w t r c is
  | c, [], _, _ => by rw [instructions, Render.instructions]
  | c, i :: is, hc, h => by
    rw [everyOf, Bool.and_eq_true] at h
    rw [instructions, Render.instructions, instruction_compiled w i hc h.1,
      instructions_compiled w is hc h.2]

theorem arms_compiled (w : Workshop) :
    ∀ {c : Context} {first : Bool} {chain : Chain Rendered} (as : List Arm),
    c.watching = false → everyIn Instruction.isBasic as →
    arms (.compiled t r.machine) t r c first chain as = Render.arms w t r c first chain as
  | c, first, chain, [], _, _ => by rw [arms, Render.arms]
  | c, first, chain, .mk slot children watch :: as, hc, h => by
    rw [everyIn, Bool.and_eq_true] at h
    rw [arms, Render.arms, collect_eq_pure hc, pure_bind, instructions_compiled w children hc h.1,
      arm_compiled hc]
    exact bind_congr fun chain => arms_compiled w as hc h.2
end

theorem body_compiled (w : Workshop) (ht : t.description.every Instruction.isBasic)
    (hc : c.watching = false)
    (at_ : Nat) : body (.compiled t r.machine) t r c at_ = Render.body w t r c at_ := by
  rw [body, Render.body]
  cases hb : t.description.bodies[at_]? with
  | none => rfl
  | some b =>
    dsimp only
    rw [collect_eq_pure hc, pure_bind]
    exact instructions_compiled w b.children hc
      (List.all_eq_true.1 ht b (Array.mem_toList_iff.2 (Array.mem_of_getElem? hb)))

/-- The context that an invocation starts in renders the template that the rendering was started
with. -/
lemma context_congr {α : Type} {k l : Context → Run α} (i : Invocation)
    (h : ∀ c : Context, c.subject = .start → k c = l c) :
    (i.context .start >>= k) = (i.context .start >>= l) := by
  simp only [Invocation.context, bind_assoc]
  refine bind_congr fun data => bind_congr fun scope => ?_
  cases i.parent with
  | none => exact h _ rfl
  | some p => exact h _ rfl

/-- **With the evaluators that a template was compiled to, a rendering is the rendering of the
template.** -/
theorem invoke_compiled (w : Workshop) (ht : t.description.every Instruction.isBasic)
    (i : Invocation) (r : Renderer) (hr : r = w.rendererWith (w.bodyTo t w.depth)) :
    invoke (.compiled t r.machine) t r i = w.render t i := by
  have hbegin : begin (.compiled t r.machine) t r i = w.begin t i := by
    rw [begin, Workshop.begin]
    refine context_congr i fun c hc => ?_
    have htemplate : c.template t = t := by rw [Context.template, hc]
    have hbody : w.bodyTo t (w.depth + 1) c t.body = Render.body w (c.template t) r c t.body := by
      rw [hr]
      rfl
    rw [body_compiled w ht (watching_start hc), hbody, htemplate]
  rw [invoke, Workshop.render, hbegin]

end Render.Tabled

/-! Two renderings side by side. -/

open Run

/-- A context in which faults end the rendering. -/
def Context.throwing (c : Context) : Context := { c with throws := true }

/-- A context in which faults do not end the rendering, and are logged or not. -/
structure Context.Forgives (logs : Bool) (c : Context) : Prop where
  throws : c.throws = false
  logs : c.logs = logs

namespace Chain

variable {α : Type} {m : Type → Type} [Monad m]

/-- What an arm does once it is known what its test came to. -/
def decided (c : Chain α) (body : m (Except Fault (List α))) (value : Except Fault Value) :
    m (Outcome α) :=
  match c.controller.decide value c.fired c.undecided with
  | .error f => return (c, some f)
  | .ok (runs, undecided) => do
    let c := { c with undecided }
    if !runs then return (c, none)
    let c := { c with fired := true }
    match ← body with
    | .ok nodes => return ({ c with output := c.output ++ nodes }, none)
    | .error f => return (c, some f)

lemma arm_eq (c : Chain α) (test : Option (m (Except Fault Value)))
    (body : m (Except Fault (List α))) :
    c.arm test body =
      if test.isSome && c.fired && !c.undecided then pure (c, none)
      else
        match test with
        | some t => t >>= c.decided body
        | none => pure (.ok (.bool true)) >>= c.decided body := by
  rw [arm]
  cases test <;> rfl

end Chain

namespace Render.Tabled

variable {logs : Bool} {E : Evaluators} {t : Template} {r : Renderer} {c : Context}

/-! ### What is contained -/

/-- A report changes nothing but the log. -/
lemma report_on (hc : c.Forgives logs) (module : String) (f : Fault) (m : Memory) :
    ∃ m', (c.report module f).on m = (.ok (), m') ∧ m.Alike logs m' := by
  rw [Context.report]
  cases hlogs : c.logs with
  | false => exact ⟨m, rfl, .refl m⟩
  | true =>
    refine ⟨_, rfl, _, rfl, fun h => ?_⟩
    rw [← hc.logs, hlogs] at h
    cases h

/-- What is contained after a fault stands beside what is made of the empty text. -/
lemma twin_contain {α β : Type} {R : α → β → Prop} {w : Run Value} (hw : Blind logs w)
    (hc : c.Forgives logs)
    (k : Value → α) (k' : Value → β) (instead : α) (instead' : β) (hok : ∀ v, R (k v) (k' v))
    (hfault : R instead (k' (.text ""))) :
    Twin logs R (contain t c instead (k <$> w))
      (contain t c.throwing instead' (k' <$> tryCatch w fun _ => return .text "")) := by
  intro m n halike
  obtain ⟨result, m', n', hm, hn, halike'⟩ := hw.exists_on halike
  have hcaught := on_tryCatch w (fun _ => return .text "") n
  rw [hn] at hcaught
  simp only [contain, Context.contain, on_tryCatch, map_eq_pure_bind]
  cases result with
  | ok v =>
    rw [on_bind hm, on_bind hcaught]
    exact ⟨_, _, m', n', rfl, rfl, hok v, halike'⟩
  | error f =>
    have hsoft : (tryCatch w fun _ => return .text "").on n = (.ok (.text ""), n') := hcaught
    rw [on_bind_error hm, on_bind hsoft]
    obtain ⟨m'', hreport, halike''⟩ := report_on hc t.description.module f m'
    refine ⟨instead, k' (.text ""), m'', n', ?_, rfl, hfault, halike''.symm.trans halike'⟩
    simp only [hc.throws, Bool.false_eq_true, if_false]
    rw [on_bind hreport]
    rfl

/-! ### Texts and attributes -/

section

variable (hE : ∀ slot env, Blind logs (E slot env)) (hr : r.machine.Steady logs)

include hE

/-- A part that cannot be evaluated is the empty text. -/
lemma twin_part (hc : c.Forgives logs) (p : Part) :
    Twin logs Eq (part E t c p) (part E.softened t c.throwing p) := by
  cases p with
  | text s => exact twin_pure rfl
  | value d => exact (tame_steady logs).constant d
  | translation text context => exact twin_pure rfl
  | other kind => exact twin_pure rfl
  | expr slot trusted =>
    have htwin := twin_contain (t := t) (R := Eq) (hE slot (c.env t.toolkit)) hc id id (.text "")
      (.text "")
      (fun _ => rfl) rfl
    rwa [id_map, id_map] at htwin

include hr

lemma twin_parts (hc : c.Forgives logs) (ps : List Part) :
    Twin logs Eq (parts E t r c ps) (parts E.softened t r c.throwing ps) := by
  have hmapM : Twin logs Eq (ps.mapM fun p => do (← part E t c p).toText r.machine)
      (ps.mapM fun p => do (← part E.softened t c.throwing p).toText r.machine) := by
    refine twin_mapM fun p _ => (twin_part hE hc p).bind ?_
    rintro v _ rfl
    exact Value.steady_toText hr v
  fun_cases parts E t r c ps with
  | case1 p => exact twin_part hE hc p
  | case2 ps hps =>
    rw [parts]
    · refine hmapM.bind ?_
      rintro texts _ rfl
      exact twin_pure rfl
    · exact hps

lemma twin_text (hc : c.Forgives logs) (key : String) (ps : List Part) :
    Twin logs Eq (text E t r c key ps) (text E.softened t r c.throwing key ps) := by
  refine (twin_parts hE hr hc ps).bind ?_
  rintro v _ rfl
  exact (tame_steady logs).textNode hr.tame _ _ v

/-- An attribute that is not bound to a place. -/
lemma twin_attr (hc : c.Forgives logs) {a : Attr} (ha : a.value.isBound = false) :
    Twin logs Eq (attr E t r c a) (attr E.softened t r c.throwing a) := by
  have hparts : ∀ ps, Twin logs Eq (do return (← attrText? r a.name (← parts E t r c ps), none))
      (do return (← attrText? r a.name (← parts E.softened t r c.throwing ps),
          (none : Option RenderedEvent))) := by
    intro ps
    refine (twin_parts hE hr hc ps).bind ?_
    rintro v _ rfl
    exact Steady.bind ((tame_steady logs).attrText? hr.tame a.name v) fun _ => steady_pure _
  rw [attr, attr]
  cases hvalue : a.value with
  | event slot => exact twin_pure rfl
  | bind slot b =>
    rw [hvalue] at ha
    cases ha
  | markup ps => exact hparts ps
  | option ps => exact hparts ps
  | other kind ps => exact hparts ps

/-! ### Conditions -/

omit hr in
/-- Two tests come to values that count alike. -/
lemma twin_test (hc : c.Forgives logs) (slot : Nat) :
    Twin logs (fun x y => ∃ v v', x = .ok v ∧ y = .ok v' ∧ v.truthy = v'.truthy)
      (test E t c slot) (test E.softened t c.throwing slot) := by
  have htwin := twin_contain (t := t) (R := fun v v' : Value => v.truthy = v'.truthy)
    (hE slot (c.env t.toolkit)) hc
    id id (.bool false) (.bool false) (fun _ => rfl) rfl
  rw [id_map, id_map] at htwin
  refine Twin.tryCatch (htwin.bind fun v v' hv => ?_) _ _
  exact twin_pure ⟨v, v', rfl, rfl, hv⟩

omit hr in
/-- An arm of a chain runs on both sides or on neither. -/
lemma twin_chainArm (hc : c.Forgives logs) (chain : Chain Rendered)
    (hchain : chain.controller = .standard)
    (slot : Option Nat) {g g' : Run (List Rendered)} (hg : Twin logs Eq g g') :
    Twin logs (fun o o' => o = o' ∧ o.2 = none ∧ o.1.controller = .standard ∧
    o.1.stage = chain.stage)
      (chain.arm (slot.map (test E t c)) (do return .ok (← g)))
      (chain.arm (slot.map (test E.softened t c.throwing)) (do return .ok (← g'))) := by
  have hdecided : ∀ x y : Except Fault Value,
      (∃ v v' : Value, x = .ok v ∧ y = .ok v' ∧ v.truthy = v'.truthy) →
      Twin logs (fun o o' => o = o' ∧ o.2 = none ∧ o.1.controller = .standard ∧
        o.1.stage = chain.stage)
        (chain.decided (do return .ok (← g)) x) (chain.decided (do return .ok (← g')) y) := by
    rintro _ _ ⟨v, v', rfl, rfl, htruthy⟩
    simp only [Chain.decided, hchain, Controller.decide, Except.map, htruthy]
    cases !chain.fired && v'.truthy with
    | false => exact twin_pure ⟨rfl, rfl, rfl, rfl⟩
    | true =>
      simp only [Bool.not_true, Bool.false_eq_true, if_false, bind_assoc, pure_bind]
      refine hg.bind ?_
      rintro nodes _ rfl
      exact twin_pure ⟨rfl, rfl, rfl, rfl⟩
  rw [Chain.arm_eq, Chain.arm_eq, Option.isSome_map, Option.isSome_map]
  split
  · exact twin_pure ⟨rfl, rfl, hchain, rfl⟩
  · cases slot with
    | none => exact hdecided _ _ ⟨_, _, rfl, rfl, rfl⟩
    | some slot => exact (twin_test hE hc slot).bind hdecided

omit hr in
/-- An arm in its place in a chain does not fail.  One without a test, behind the first, is the
last. -/
lemma twin_arm (hc : c.Forgives logs) (first : Bool) (slot : Option Nat) {chain : Chain Rendered}
    (hchain : chain.controller = .standard) (hstage : chain.stage = if first then .new else .opened)
    {g g' : Run (List Rendered)} (hg : Twin logs Eq g g') :
    Twin logs (fun x y => x = y ∧ x.controller = .standard ∧
        x.stage = if first || slot.isSome then .opened else .last)
      (arm E t c first slot g chain) (arm E.softened t c.throwing first slot g' chain) := by
  have hgoes : ∀ {o o' : Chain.Outcome Rendered} {stage : Chain.Stage},
      o = o' ∧ o.2 = none ∧ o.1.controller = .standard ∧ o.1.stage = stage →
      Twin logs (fun x y => x = y ∧ x.controller = .standard ∧ x.stage = stage)
        (match o.2 with
          | some f => throw f
          | none => return o.1 : Run (Chain Rendered))
        (match o'.2 with
          | some f => throw f
          | none => return o'.1) := by
    rintro ⟨chain', f⟩ _ stage ⟨rfl, rfl, hcontroller, hstage'⟩
    exact twin_pure ⟨rfl, hcontroller, hstage'⟩
  cases first with
  | true =>
    have harm := twin_chainArm (t := t) hE hc { chain with stage := .opened } hchain slot hg
    simp only [arm, Chain.if, hstage, if_true]
    exact harm.bind fun _ _ ho => hgoes ho
  | false =>
    cases slot with
    | none =>
      have harm := twin_chainArm (t := t) hE hc { chain with stage := .last } hchain none hg
      simp only [arm, Chain.else, hstage]
      exact harm.bind fun _ _ ho => hgoes ho
    | some slot =>
      have harm := twin_chainArm (t := t) hE hc chain hchain (some slot) hg
      simp only [arm, Chain.elif, hstage]
      rw [hstage] at harm
      exact harm.bind fun _ _ ho => hgoes ho

/-! ### Loops -/

omit hE hr in
/-- Nested contexts differ like those that they are nested in. -/
lemma twin_nested (hc : c.Forgives logs) (step : String) :
    Twin logs (fun inner inner' => inner' = inner.throwing ∧ inner.Forgives logs) (c.nested step)
      (c.throwing.nested step) := by
  have hspawn : c.throwing.spawn step = (c.spawn step).throwing := by
    rw [Context.spawn, Context.spawn]
    split <;> rfl
  have hforgives : (c.spawn step).Forgives logs := by
    rw [Context.spawn]
    split
    · exact hc
    · exact ⟨hc.throws, hc.logs⟩
  rw [Context.nested, Context.nested, hspawn]
  exact (Memory.steady_newScope _).then fun scope =>
    twin_pure ⟨rfl, hforgives.throws, hforgives.logs⟩

/-- A collection that cannot be evaluated has no entries, and neither has the empty text. -/
lemma twin_each (hc : c.Forgives logs) (collection : Nat) (index iterator : String)
    {f f' : Context → Run (List Rendered)}
    (h : ∀ inner : Context, inner.Forgives logs → Twin logs Eq (f inner) (f' inner.throwing)) :
    Twin logs Eq (each E t r c collection index iterator f)
      (each E.softened t r c.throwing collection index iterator f') := by
  have hfound := twin_contain (t := t) (R := fun x y : Option Value => x = y ∨ x = none ∧
    y = some (.text ""))
    (hE collection (c.env t.toolkit)) hc some some none none (fun _ => .inl rfl) (.inr ⟨rfl, rfl⟩)
  rw [map_eq_pure_bind, map_eq_pure_bind] at hfound
  refine hfound.bind fun x y hxy => ?_
  obtain rfl | ⟨rfl, rfl⟩ := hxy
  · cases x with
    | none => exact twin_pure rfl
    | some v =>
      refine (Value.twin_walk hr v [] fun made key element => ?_).bind fun made _ hmade =>
        twin_pure (congrArg _ hmade)
      refine (Value.steady_toText hr key).then fun step => (twin_nested hc step).bind ?_
      rintro inner _ ⟨rfl, hinner⟩
      have hbody : Twin logs Eq (do return ((← f inner) :: made, true))
          (do return ((← f' inner.throwing) :: made, true)) := by
        refine (h inner hinner).bind ?_
        rintro nodes _ rfl
        exact twin_pure rfl
      refine (Memory.steady_updateScope _ _).then fun _ => ?_
      dsimp only
      split
      · exact (Memory.steady_updateScope _ _).then fun _ => hbody
      · exact hbody
  · -- a walk over the empty text makes nothing
    exact twin_pure rfl

/-! ### Instructions -/

set_option linter.unusedSectionVars false in
mutual
/-- An instruction renders the same on both sides. -/
theorem twin_instruction : ∀ {c : Context} (i : Instruction), c.Forgives logs →
    i.every Instruction.isBasic →
    i.every Instruction.isChained → Twin logs Eq (instruction E t r c i)
    (instruction E.softened t r c.throwing i)
  | c, .text key ps, hc, _, _ => by
    rw [instruction, instruction]
    exact twin_text hE hr hc key ps
  | c, .element key name as children _, hc, h, hchained => by
    rw [Instruction.every, Bool.and_eq_true] at h hchained
    rw [instruction, instruction]
    refine (twin_mapM fun a ha => ?_).bind ?_
    · exact twin_attr hE hr hc (Bool.not_eq_true' _ ▸ List.all_eq_true.1 h.1 a ha)
    · rintro found _ rfl
      refine (twin_instructions children hc h.2 hchained.2).bind ?_
      rintro nodes _ rfl
      exact twin_pure rfl
  | c, .branches key as, hc, h, hchained => by
    rw [Instruction.every, Bool.and_eq_true] at h hchained
    obtain ⟨hsome, htested⟩ := Bool.and_eq_true_iff.1 hchained.1
    have hne : as ≠ [] := fun hnil => by
      rw [hnil] at hsome
      cases hsome
    rw [instruction, instruction]
    refine (twin_arms true as hc rfl rfl (fun _ => hne) htested h.2 hchained.2).bind ?_
    rintro chain _ ⟨rfl, hstage⟩
    obtain ⟨controller, stage, fired, undecided, output⟩ := chain
    obtain rfl | rfl := hstage
    · exact twin_pure rfl
    · exact twin_pure rfl
  | c, .each key collection index iterator children watch, hc, h, hchained => by
    rw [Instruction.every, Bool.and_eq_true] at h hchained
    rw [instruction, instruction]
    exact twin_each hE hr hc collection index iterator fun inner hinner =>
      twin_instructions children hinner h.2 hchained.2
  | c, .component key name call, _, h, _ => nomatch h
  | c, .partialCall key target call, _, h, _ => nomatch h
  | c, .loop key names init test update children watch, _, h, _ => nomatch h
  | c, .unknown op, _, h, _ => nomatch h

theorem twin_instructions : ∀ {c : Context} (is : List Instruction), c.Forgives logs →
    everyOf Instruction.isBasic is → everyOf Instruction.isChained is →
    Twin logs Eq (instructions E t r c is) (instructions E.softened t r c.throwing is)
  | c, [], _, _, _ => by
    rw [instructions, instructions]
    exact twin_pure rfl
  | c, i :: is, hc, h, hchained => by
    rw [everyOf, Bool.and_eq_true] at h hchained
    rw [instructions, instructions]
    refine (twin_instruction i hc h.1 hchained.1).bind ?_
    rintro nodes _ rfl
    refine (twin_instructions is hc h.2 hchained.2).bind ?_
    rintro nodes' _ rfl
    exact twin_pure rfl

theorem twin_arms : ∀ {c : Context} (first : Bool) {chain : Chain Rendered} (as : List Arm),
    c.Forgives logs →
    chain.controller = .standard → chain.stage = (if first then .new else .opened) →
    (first → as ≠ []) →
    as.dropLast.all Arm.isTested → everyIn Instruction.isBasic as →
    everyIn Instruction.isChained as →
    Twin logs (fun x y => x = y ∧ (x.stage = .opened ∨ x.stage = .last))
    (arms E t r c first chain as)
      (arms E.softened t r c.throwing first chain as)
  | c, first, chain, [], _, hchain, hstage, hne, _, _, _ => by
    rw [arms, arms]
    cases first with
    | true => exact absurd rfl (hne rfl)
    | false => exact twin_pure ⟨rfl, .inl hstage⟩
  | c, first, chain, .mk slot children watch :: as, hc, hchain, hstage, _, htested, h, hchained =>
    by
    rw [everyIn, Bool.and_eq_true] at h hchained
    rw [arms, arms]
    refine (twin_arm hE hc first slot hchain hstage
      (twin_instructions children hc h.1 hchained.1)).bind ?_
    rintro chain' _ ⟨rfl, hchain', hstage'⟩
    by_cases hnil : as = []
    · rw [hnil, arms, arms]
      refine twin_pure ⟨rfl, ?_⟩
      rw [hstage']
      split
      · exact .inl rfl
      · exact .inr rfl
    · -- an arm that others follow has a test
      rw [List.dropLast_cons_of_ne_nil hnil, List.all_cons, Bool.and_eq_true] at htested
      obtain ⟨hslot, hrest⟩ := htested
      have hopened : (first || slot.isSome) = true := Bool.or_eq_true_iff.2 (.inr hslot)
      rw [if_pos hopened] at hstage'
      exact twin_arms false as hc hchain' hstage' nofun hrest h.2 hchained.2
end

/-! ### Templates -/

theorem twin_body (ht : t.description.every Instruction.isBasic)
    (hchained : t.description.every Instruction.isChained) (hc : c.Forgives logs) (at_ : Nat) :
    Twin logs Eq (body E t r c at_) (body E.softened t r c.throwing at_) := by
  rw [body, body]
  cases hb : t.description.bodies[at_]? with
  | none => exact twin_pure rfl
  | some b =>
    have hmem : b ∈ t.description.bodies.toList := Array.mem_toList_iff.2 (Array.mem_of_getElem? hb)
    exact twin_instructions hE hr b.children hc (List.all_eq_true.1 ht b hmem)
      (List.all_eq_true.1 hchained b hmem)

omit hE hr in
/-- The contexts that the two invocations start in. -/
lemma twin_context {i : Invocation} (hi : i.throws = false) :
    Twin i.logs (fun c c' => c' = c.throwing ∧ c.Forgives i.logs) (i.context .start)
      (({ i with throws := true } : Invocation).context .start) := by
  have hdata : Steady i.logs i.data.withOptions := (tame_steady i.logs).withOptions i.data
  rw [Invocation.context, Invocation.context]
  refine hdata.then fun data => (Memory.steady_newScope _).then fun scope => ?_
  cases i.parent with
  | none => exact twin_pure ⟨rfl, hi, rfl⟩
  | some p => exact twin_pure ⟨rfl, hi, rfl⟩

/-- A rendering gives the same nodes on both sides. -/
theorem twin_begin (ht : t.description.every Instruction.isBasic)
    (hchained : t.description.every Instruction.isChained) {i : Invocation} (hi : i.throws = false)
    (hlogs : i.logs = logs) :
    Twin logs Eq (begin E t r i) (begin E.softened t r { i with throws := true }) := by
  subst hlogs
  rw [begin, begin]
  refine (twin_context hi).bind ?_
  rintro c _ ⟨rfl, hc⟩
  exact (twin_body hE hr ht hchained hc t.body).tryCatch _ _

omit hE hr in
lemma steady_settle (t : Template) : Steady logs (Memory.settle t) :=
  steady_modifyGet (fun _ _ => rfl) fun _ => rfl

theorem twin_invoke (ht : t.description.every Instruction.isBasic)
    (hchained : t.description.every Instruction.isChained) {i : Invocation} (hi : i.throws = false)
    (hlogs : i.logs = logs) :
    Twin logs Eq (invoke E t r i) (invoke E.softened t r { i with throws := true }) := by
  rw [invoke, invoke]
  refine ((twin_begin hE hr ht hchained hi hlogs).tryCatch _ _).bind ?_
  rintro nodes _ rfl
  exact (steady_settle t).bind fun _ => steady_pure _

end

/-- A rendering that faults do not end gives nodes, whatever it renders. -/
lemma begin_ok (E : Evaluators) (t : Template) (r : Renderer) {i : Invocation}
    (hi : i.throws = false) (m : Memory) :
    ∃ nodes m', (begin E t r i).on m = (.ok nodes, m') := by
  -- the data is read and the first scope made without faults, whether or not anything is logged
  obtain ⟨c, _, m', _, hcontext, _, ⟨rfl, hc⟩, -⟩ := twin_context hi m m (.refl m)
  rw [begin, on_bind hcontext, Context.contain, on_tryCatch]
  obtain ⟨result, m'', hbody⟩ : ∃ result m'', (body E t r c t.body).on m' = (result, m'') :=
    ⟨_, _, rfl⟩
  rw [hbody]
  cases result with
  | ok nodes => exact ⟨nodes, m'', rfl⟩
  | error f =>
    obtain ⟨m₃, hreport, -⟩ := report_on hc t.description.module f m''
    simp only [hc.throws, Bool.false_eq_true, if_false]
    exact ⟨_, m₃, on_bind hreport _⟩

lemma invoke_ok (E : Evaluators) (t : Template) (r : Renderer) {i : Invocation}
    (hi : i.throws = false) (m : Memory) :
    ∃ nodes m', (invoke E t r i).on m = (.ok nodes, m') := by
  obtain ⟨nodes, m', hbegin⟩ := begin_ok E t r hi m
  have hcaught := on_tryCatch (begin E t r i) (fun f => do
    Memory.settle t
    throw f) m
  rw [hbegin] at hcaught
  rw [invoke, on_bind hcaught]
  exact ⟨nodes, _, rfl⟩

/-- **Containment.** A template of texts, elements without bound attributes, conditions and loops
over collections is rendered with any evaluators.  If faults do not end the rendering, there are no
faults.  It gives the nodes that come of the evaluators that give the empty text wherever these
fail, where faults do end the rendering.  With the evaluators that the template was compiled to it
is the rendering of the template (`invoke_compiled`).

The evaluators and the objects of the host must not look at what is logged, and those objects have
no way to report a fault.  Where nothing is logged the former is true of all evaluators
(`Run.blind_of_not_logs`). -/
theorem invoke_contained {o : CompileOptions} {source : String} {t : Template}
    (ht : compile o source = .ok t.description) (hbasic : t.description.every Instruction.isBasic)
    (E : Evaluators) (r : Renderer) {i : Invocation} (hi : i.throws = false) (m : Memory) :
    (∃ nodes m', (invoke E t r i).on m = (.ok nodes, m')) ∧
      ((∀ slot env, Blind i.logs (E slot env)) → r.machine.Steady i.logs →
        ∃ nodes m₁ m₂, (invoke E t r i).on m = (.ok nodes, m₁) ∧
          (invoke E.softened t r { i with throws := true }).on m = (.ok nodes, m₂) ∧
          m₁.Alike i.logs m₂) := by
  refine ⟨invoke_ok E t r hi m, fun hE hr => ?_⟩
  have htwin := twin_invoke hE hr hbasic (every_isChained_compile ht) hi rfl
  obtain ⟨nodes, _, m₁, m₂, hcontained, hthrowing, rfl, halike⟩ := htwin m m (.refl m)
  exact ⟨nodes, m₁, m₂, hcontained, hthrowing, halike⟩

/-- A page that shows a value, depends on it and goes through another one. -/
def mixedPage : String :=
  "<p title='\x7b\x7ba\x7d\x7d'>\x7b\x7ba\x7d\x7d<ws:if data='a'>x</ws:if><ws:else>y</ws:else>" ++
    "<ws:for data='v in b'>z</ws:for></p>"

/-- Evaluators of which the first one fails. -/
def failingFirst : Evaluators := fun slot _ =>
  if slot = 0 then throw (.plain "no value") else Memory.newObject [("k", .null)]

/-- A renderer without a host. -/
def bareRenderer : Renderer := ({} : Workshop).rendererWith fun _ _ => return []

/-- The page with evaluators that fail: its title and its text are empty, and its condition counts
as false. -/
theorem invoke_contained_mixedPage : ∃ t : Template, compile { module := "Page" } mixedPage =
    .ok t.description ∧
    ∃ nodes m₁ m₂, Rendered.htmlList false nodes = "<p title=\"\">yz</p>" ∧
      (invoke failingFirst t bareRenderer { throws := false }).on {} = (.ok nodes, m₁) ∧
      (invoke failingFirst.softened t bareRenderer { throws := true }).on {} = (.ok nodes, m₂) ∧
      m₁.Alike false m₂ := by
  have hall : (compile { module := "Page" } mixedPage).toOption.any (fun d =>
    d.every Instruction.isBasic &&
      ((invoke failingFirst { description := d, body := 0 } bareRenderer { throws := false }).on
        {}).1.toOption.any
        fun nodes => Rendered.htmlList false nodes == "<p title=\"\">yz</p>") = true := by
          decide +kernel
  have hsteady : bareRenderer.machine.Steady false :=
    ⟨⟨nofun, nofun⟩, fun at_ v => blind_of_not_logs _⟩
  cases hcompile : compile { module := "Page" } mixedPage with
  | error f =>
    rw [hcompile] at hall
    cases hall
  | ok d =>
    rw [hcompile] at hall
    obtain ⟨hbasic, hhtml⟩ := Bool.and_eq_true_iff.1 hall
    obtain ⟨nodes, m₁, m₂, hcontained, hthrowing, halike⟩ :=
      (invoke_contained (t := { description := d, body := 0 }) hcompile hbasic failingFirst
        bareRenderer
        (i := { throws := false }) rfl {}).2 (fun _ _ => blind_of_not_logs _) hsteady
    rw [hcontained] at hhtml
    exact ⟨_, rfl, nodes, m₁, m₂, eq_of_beq hhtml, hcontained, hthrowing, halike⟩

end Render.Tabled

end Trellis
