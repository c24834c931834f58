/-
Conditions of compiled templates.

A condition whose arms are a chain is rendered as the `if`, `else if`, `else` of programs, and while
watching as what covers it (`Render.instruction_branches`): its calls come in the order that chains
ask for.

A chain complains of a call that comes at the wrong time (`Chain.call_of_not_isDue`,
`Chain.fi_of_not_isOpen`).  `Render.Ordered` renders the same way, except that such a call does
anything: it may end the rendering, or give any chain, or change memory.  The conditions of a
compiled template are chains, so for compiled templates the two are the same, body by body
(`Ordered.body_eq`) and for bodies that call each other (`Ordered.bodyTo_eq`).  So no such call is
ever made (`Description.compile_ordered`), whatever expressions, decorators, controls and objects of
the host do.
-/
import Trellis.Proofs.Chain
import Trellis.Proofs.Description.Chained

namespace Trellis

/-! ### Calls at the wrong time -/

namespace Chain

variable {α : Type} {m : Type → Type} [Monad m]

/-- What a chain says about calls that come at the wrong time. -/
def complaints : List String :=
  ["if must open the chain", "elif before if", "elif after else", "elif after fi", "else before if",
    "second else", "else after fi", "fi before if", "fi called twice"]

/-- A chain takes the first arm when it is new, and any other between that and the arm of last
resort. -/
def isDue (c : Chain α) (first : Bool) : Bool :=
  match c.stage with
  | .new => first
  | .opened => !first
  | .last | .closed => false

/-- A chain can be closed once it has an arm. -/
def isOpen (c : Chain α) : Bool :=
  match c.stage with
  | .opened | .last => true
  | .new | .closed => false

/-- A call that is due runs its arm, and the chain says nothing of its own. -/
lemma call_of_isDue {c : Chain α} {first : Bool} (h : c.isDue first) (a : Arm m α) :
    ∃ stage : Stage, c.call first a = Chain.arm { c with stage } a.test a.body := by
  obtain ⟨test, body⟩ := a
  obtain ⟨controller, stage, fired, undecided, output⟩ := c
  cases stage with
  | new =>
    obtain rfl : first = true := h
    exact ⟨.opened, rfl⟩
  | opened =>
    obtain rfl : first = false := Bool.eq_false_of_not_eq_true (by simpa [isDue] using h)
    cases test with
    | none => exact ⟨.last, rfl⟩
    | some test => exact ⟨.opened, rfl⟩
  | last => cases h
  | closed => cases h

/-- A chain complains of a call that is not due, and does nothing else. -/
lemma call_of_not_isDue {c : Chain α} {first : Bool} (h : ¬ c.isDue first) (a : Arm m α) :
    ∃ message ∈ complaints, c.call first a = pure (c, some (misplaced message)) := by
  obtain ⟨test, body⟩ := a
  obtain ⟨controller, stage, fired, undecided, output⟩ := c
  cases stage <;> cases first <;> cases test <;> first
    | exact absurd rfl h
    | exact ⟨_, by decide, rfl⟩

omit [Monad m] in
/-- A chain complains when it is closed at the wrong time. -/
lemma fi_of_not_isOpen {c : Chain α} (h : ¬ c.isOpen) (default : List α) :
    ∃ message ∈ complaints, c.fi default = (c, .error (misplaced message)) := by
  obtain ⟨controller, stage, fired, undecided, output⟩ := c
  cases stage <;> first | exact absurd rfl h | exact ⟨_, by decide, rfl⟩

omit [Monad m] in
/-- A chain takes what it is called for next. -/
lemma Stage.Takes.isDue {c : Chain α} {first : Bool} {a : Arm m α} {as : List (Arm m α)}
    (h : c.stage.Takes first (a :: as)) : c.isDue first := by
  obtain ⟨controller, stage, fired, undecided, output⟩ := c
  cases stage with
  | new => exact h.1
  | opened =>
    obtain ⟨rfl, -⟩ := h
    rfl
  | last => cases h
  | closed => cases h

omit [Monad m] in
lemma Stage.Takes.isOpen {c : Chain α} {first : Bool}
    (h : c.stage.Takes first ([] : List (Arm m α))) : c.isOpen := by
  obtain ⟨controller, stage, fired, undecided, output⟩ := c
  cases stage with
  | new => exact absurd h.2 (by simp [ordered])
  | opened => rfl
  | last => rfl
  | closed => cases h

/-- What follows an arm may rely on it that the chain is at the stage at which the arm was run. -/
lemma arm_bind_congr [LawfulMonad m] {β : Type} {c : Chain α} {a : Arm m α} {k k' : Outcome α → m β}
    (h : ∀ o : Outcome α, o.1.stage = c.stage → k o = k' o) :
    Chain.arm c a.test a.body >>= k = Chain.arm c a.test a.body >>= k' := by
  cases hsettled : c.fired && !c.undecided with
  | true =>
    obtain ⟨controller, stage, fired, undecided, output⟩ := c
    rw [Bool.and_eq_true, Bool.not_eq_true'] at hsettled
    obtain ⟨rfl, rfl⟩ := hsettled
    rw [arm_settled, pure_bind, pure_bind, h _ rfl]
  | false =>
    rw [arm_unsettled hsettled, bind_assoc, bind_assoc]
    refine bind_congr fun value => ?_
    split
    · rw [pure_bind, pure_bind, h _ rfl]
    · rw [enter, bind_assoc, bind_assoc]
      refine bind_congr fun made => ?_
      cases made <;> exact (pure_bind _ k).trans ((h _ rfl).trans (pure_bind _ k').symm)
    · rw [pure_bind, pure_bind, h _ rfl]

end Chain

/-! ### Conditions -/

namespace Render

open Description

section

variable (w : Workshop) (t : Template) (r : Renderer) (c : Context)

/-- The arm of a condition in a chain. -/
def chainArm : Description.Arm → Chain.Arm Run Rendered
  | .mk slot children watch =>
    { test := slot.map (test t r c)
      body := do
        let nodes ← (do
          collect t r c watch
          instructions w t r c children)
        return .ok nodes }

/-- Raises the fault of an outcome. -/
def deliver {α : Type} : Except Fault α → Run α
  | .ok x => pure x
  | .error f => throw f

/-- Closes the chain of a condition. -/
def close (chain : Chain Rendered) : Run (List Rendered) := deliver (chain.fi []).2

/-- The chain after calls, or the fault of the last. -/
def settled : Chain.Outcome Rendered → Run (Chain Rendered)
  | (_, some f) => throw f
  | (chain, none) => return chain

lemma arm_eq_call (first : Bool) (slot : Option Nat) (children : List Instruction)
    (watch : Option Nat) (chain : Chain Rendered) :
    arm t r c first slot (do
      collect t r c watch
      instructions w t r c children) chain =
      chain.call first (chainArm w t r c (.mk slot children watch)) >>= settled := by
  cases first <;> cases slot <;>
    (refine bind_congr fun made => ?_; obtain ⟨chain, f⟩ := made; cases f <;> rfl)

/-- The arms of a condition are called one after the other. -/
lemma arms_eq_calls (first : Bool) (chain : Chain Rendered) (as : List Description.Arm) :
    arms w t r c first chain as = chain.calls first (as.map (chainArm w t r c)) >>= settled := by
  induction as generalizing first chain with
  | nil => rw [arms]; rfl
  | cons a as ih =>
    obtain ⟨slot, children, watch⟩ := a
    rw [arms, arm_eq_call, List.map_cons, Chain.calls, bind_assoc, bind_assoc]
    refine bind_congr fun made => ?_
    obtain ⟨chain, f⟩ := made
    cases f with
    | some f => rfl
    | none => exact ih false chain

/-- The arms of a condition are in order if the condition is a chain. -/
lemma isChained_chainArms {key : String} {as : List Description.Arm} :
    Chain.ordered (as.map (chainArm w t r c)) ↔ (Instruction.branches key as).isChained := by
  have htested : (as.map (chainArm w t r c)).map Chain.Arm.isTested =
      as.map Description.Arm.isTested := by
    rw [List.map_map]
    refine List.map_congr_left fun a _ => ?_
    obtain ⟨slot, children, watch⟩ := a
    cases slot <;> rfl
  rw [Chain.ordered_of_map htested]
  rfl

/-- **Conditions.** A condition whose arms are a chain runs the first arm whose test is true; while
watching, all arms from a test on that is undecided. -/
theorem instruction_branches {key : String} {as : List Description.Arm}
    (h : (Instruction.branches key as).isChained) :
    instruction w t r c (.branches key as) =
      (if c.watching then Chain.cover [] (as.map (chainArm w t r c))
        else Chain.choose [] (as.map (chainArm w t r c))) >>= deliver := by
  have hordered := (isChained_chainArms w t r c).2 h
  have hrun : instruction w t r c (.branches key as) =
      Chain.run (if c.watching then .watching else .standard) []
        (as.map (chainArm w t r c)) >>= deliver := by
    rw [instruction, arms_eq_calls, bind_assoc, Chain.run, map_eq_pure_bind, bind_assoc]
    refine bind_congr fun made => ?_
    obtain ⟨chain, f⟩ := made
    cases f with
    | some f => rfl
    | none =>
      rw [settled, pure_bind, pure_bind, Chain.finish]
      rcases chain.fi [] with ⟨_, f | nodes⟩ <;> rfl
  rw [hrun]
  split
  · rw [Chain.run_watching [] hordered]
  · rw [Chain.run_standard [] hordered]

end

end Render

/-! ### Rendering in which a call at the wrong time does anything -/

namespace Render.Ordered

open Description

section

variable (crash : (α : Type) → Run α) (w : Workshop) (t : Template) (r : Renderer)

/-- Runs an arm of a condition. -/
def arm (c : Context) (first : Bool) (slot : Option Nat) (body : Run (List Rendered))
    (chain : Chain Rendered) : Run (Chain Rendered) :=
  if chain.isDue first then Render.arm t r c first slot body chain else crash _

/-- Closes the chain of a condition. -/
def close (chain : Chain Rendered) : Run (List Rendered) :=
  if chain.isOpen then Render.close chain else crash _

mutual
/-- Renders an instruction. -/
def instruction (c : Context) : Instruction → Run (List Rendered)
  | .text key ps => text t r c key ps
  | .element key name as children _ => do
    if c.watching then
      let _ ← instructions c children
      return []
    let (attrs, events) ← elementAttrs t r c as
    let children ← instructions c children
    let events := if c.style == .tree then events else []
    return [.element (c.key ++ key) name attrs events children false]
  | .component key name call => calling t r c key name call (control w r c)
  | .partialCall key target call =>
    let name := match target with
      | .inline name | .static name | .dynamic _ name => name
    calling t r c key name call fun made => partialBody w t r c made target
  | .branches _ as => do
    close crash (← arms c true { controller := if c.watching then .watching else .standard } as)
  | .loop _ names init test update children watch =>
    loop t r c names init test update fun inner => do
      collect t r inner watch
      instructions inner children
  | .each _ collection index iterator children watch =>
    each t r c collection index iterator fun inner => do
      collect t r inner watch
      instructions inner children
  | .unknown op => throw (Fault.make .unknownNode [("Type", op)])

/-- Renders instructions. -/
def instructions (c : Context) : List Instruction → Run (List Rendered)
  | [] => return []
  | i :: is => return (← instruction c i) ++ (← instructions c is)

/-- Runs the arms of a condition. -/
def arms (c : Context) (first : Bool) (chain : Chain Rendered) : List Arm → Run (Chain Rendered)
  | [] => return chain
  | .mk slot children watch :: as => do
    let chain ← arm crash t r c first slot (do
      collect t r c watch
      instructions c children) chain
    arms c false chain as
end

/-- Renders a body of the template of a context. -/
def body (c : Context) (at_ : Nat) : Run (List Rendered) := do
  match t.description.bodies[at_]? with
  | none => return []
  | some b =>
    collect t r c b.watch
    instructions crash w t r c b.children

end

section

variable (crash : (α : Type) → Run α) (strict : Template → Bool) (w : Workshop)

/-- Renders a body in a rendering that was started with a template, as `Workshop.bodyTo` does.  In
templates that `strict` picks a call at the wrong time does anything. -/
def bodyTo (start : Template) : Nat → Context → Nat → Run (List Rendered)
  | 0, _, _ => throw (Fault.plain "templates are nested too deeply")
  | depth + 1, c, at_ =>
    let r := w.rendererWith (bodyTo start depth)
    if strict (c.template start) then body crash w (c.template start) r c at_
    else Render.body w (c.template start) r c at_

/-- Renders a template, as `Workshop.render` does. -/
def render (t : Template) (i : Invocation) : Run (List Rendered) := do
  let nodes ← tryCatch (do
      let c ← i.context .start
      c.contain t.description.module [.text c.key "" false false]
        (bodyTo crash strict w t (w.depth + 1) c t.body)) fun f => do
    Memory.settle t
    throw f
  Memory.settle t
  return nodes

/-- The watched slots of a template with their values for data, as `Template.watchedSlots` finds
them. -/
def watchedSlots (t : Template) (data : Value) : Run (List (Nat × Value)) :=
  (w.rendererWith (bodyTo crash strict w default (w.depth + 1))).watchedSlots t data

end

/-! ### No call comes at the wrong time -/

variable {crash : (α : Type) → Run α} {w : Workshop} {t : Template} {r : Renderer}

set_option linter.unusedSectionVars false in
mutual
/-- Where the conditions at and below an instruction are chains, rendering it makes no call at the
wrong time. -/
theorem instruction_eq : ∀ {i : Instruction} (_ : i.every Instruction.isChained) (c : Context),
    instruction crash w t r c i = Render.instruction w t r c i
  | .text _ _, _, c => by rw [instruction, Render.instruction]
  | .element _ _ _ children _, h, c => by
    rw [Instruction.every, Bool.and_eq_true] at h
    rw [instruction, Render.instruction, instructions_eq h.2]
  | .component _ _ _, _, c => by rw [instruction, Render.instruction]
  | .partialCall _ _ _, _, c => by
    refine (instruction.eq_def ..).trans (Eq.trans ?_ (Render.instruction.eq_def ..).symm)
    rfl
  | .branches key as, h, c => by
    rw [Instruction.every, Bool.and_eq_true] at h
    have htakes : Chain.Stage.Takes true (as.map (chainArm w t r c)) .new :=
      ⟨rfl, (isChained_chainArms w t r c).2 h.1⟩
    rw [instruction, arms_eq h.2 c htakes, Render.instruction]
    refine bind_congr fun chain => ?_
    rw [Render.close]
    rcases chain.fi [] with ⟨_, f | nodes⟩ <;> rfl
  | .loop _ _ _ _ _ children _, h, c => by
    rw [Instruction.every, Bool.and_eq_true] at h
    rw [instruction, Render.instruction]
    simp only [instructions_eq h.2]
  | .each _ _ _ _ children _, h, c => by
    rw [Instruction.every, Bool.and_eq_true] at h
    rw [instruction, Render.instruction]
    simp only [instructions_eq h.2]
  | .unknown _, _, c => by rw [instruction, Render.instruction]

theorem instructions_eq :
    ∀ {is : List Instruction} (_ : everyOf Instruction.isChained is) (c : Context),
    instructions crash w t r c is = Render.instructions w t r c is
  | [], _, c => by rw [instructions, Render.instructions]
  | i :: is, h, c => by
    rw [everyOf, Bool.and_eq_true] at h
    rw [instructions, Render.instructions, instruction_eq h.1, instructions_eq h.2]

/-- The arms that a chain takes are run, and the chain can be closed after them. -/
theorem arms_eq : ∀ {as : List Arm} (_ : everyIn Instruction.isChained as) (c : Context)
    {first : Bool} {chain : Chain Rendered}
    (_ : chain.stage.Takes first (as.map (chainArm w t r c))),
    arms crash w t r c first chain as >>= close crash =
      Render.arms w t r c first chain as >>= Render.close
  | [], _, c, first, chain, htakes => by
    rw [arms, Render.arms, pure_bind, pure_bind, close, if_pos htakes.isOpen]
  | .mk slot children watch :: as, h, c, first, chain, htakes => by
    rw [everyIn, Bool.and_eq_true] at h
    obtain ⟨stage, hcall, hrest⟩ := Chain.call_takes htakes
    rw [arms, Render.arms, arm, if_pos htakes.isDue, instructions_eq h.1, arm_eq_call, hcall]
    simp only [bind_assoc]
    -- the chain that comes out of the arm is at the stage that takes the arms to come
    refine Chain.arm_bind_congr fun o ho => ?_
    obtain ⟨after, f⟩ := o
    cases f with
    | some f => rfl
    | none =>
      subst ho
      exact arms_eq h.2 c hrest
end

/-- No body of a template whose conditions are chains makes a call at the wrong time, whatever
renders the bodies that it calls. -/
theorem body_eq (h : t.description.every Instruction.isChained) (c : Context) (at_ : Nat) :
    body crash w t r c at_ = Render.body w t r c at_ := by
  rw [body, Render.body]
  cases hb : t.description.bodies[at_]? with
  | none => rfl
  | some b =>
    have hmem : b ∈ t.description.bodies.toList := Array.mem_toList_iff.2 (Array.mem_of_getElem? hb)
    simp only [instructions_eq (List.all_eq_true.1 h b hmem)]

/-- Nor do bodies that call each other, through calls of partials and components and through content
that is passed on, as deep as they may. -/
theorem bodyTo_eq {strict : Template → Bool}
    (h : ∀ t, strict t = true → ∃ o source, compile o source = .ok t.description) (start : Template)
    (depth : Nat) : bodyTo crash strict w start depth = w.bodyTo start depth := by
  induction depth with
  | zero => rfl
  | succ depth ih =>
    funext c at_
    rw [bodyTo, Workshop.bodyTo, ih]
    split
    next hstrict =>
      obtain ⟨o, source, hcompile⟩ := h _ hstrict
      exact body_eq (every_isChained_compile hcompile) c at_
    next => rfl

end Render.Ordered

namespace Description

/-- **Order.** In a compiled template, the first arm of every condition has a test, and only its
last may have none.  So no body of it makes a call of a chain that comes at the wrong time, for all
data, methods and registries, as a tree or as text or while watching, whatever renders the bodies
that it calls; and where templates were compiled, each from a source of its own, no body makes such
a call as deep as bodies call each other, no rendering does, and neither does watching. -/
theorem compile_ordered {o : CompileOptions} {source : String} {d : Description}
    (h : compile o source = .ok d) :
    d.every Instruction.isChained ∧
    ∀ (crash : (α : Type) → Run α) (w : Workshop),
      (∀ (t : Template) (r : Renderer) (c : Context) (at_ : Nat), t.description = d →
        Render.Ordered.body crash w t r c at_ = Render.body w t r c at_) ∧
      ∀ strict : Template → Bool,
        (∀ t, strict t = true → ∃ o source, compile o source = .ok t.description) →
        (∀ (start : Template) (depth : Nat),
          Render.Ordered.bodyTo crash strict w start depth = w.bodyTo start depth) ∧
        (∀ (t : Template) (i : Invocation),
          Render.Ordered.render crash strict w t i = w.render t i) ∧
        ∀ (t : Template) (data : Value),
          Render.Ordered.watchedSlots crash strict w t data = t.watchedSlots w data := by
  refine ⟨every_isChained_compile h, fun crash w =>
    ⟨?_, fun strict hstrict => ⟨?_, fun t i => ?_, fun t data => ?_⟩⟩⟩
  · rintro t r c at_ rfl
    exact Render.Ordered.body_eq (every_isChained_compile h) c at_
  · exact Render.Ordered.bodyTo_eq hstrict
  · rw [Render.Ordered.render, Render.Ordered.bodyTo_eq hstrict]
    rfl
  · rw [Render.Ordered.watchedSlots, Render.Ordered.bodyTo_eq hstrict]
    rfl

/-- A page that reads, calls and decorates in the tests and in the arms of a condition. -/
def greetingPage : String :=
  "<ws:if data=\"\x7b\x7b greet(user.name)|trim \x7d\x7d\">" ++
  "\x7b\x7b greet(user.name)|trim \x7d\x7d</ws:if>" ++
  "<ws:else data=\"\x7b\x7b greet(user.name)|trim \x7d\x7d\">a</ws:else><ws:else>b</ws:else>"

/-- The page is compiled, and no rendering of it makes a call at the wrong time. -/
theorem compile_ordered_greetingPage : ∃ d, compile { module := "Page" } greetingPage = .ok d ∧
    d.every Instruction.isChained ∧
    ∀ (crash : (α : Type) → Run α) (w : Workshop) (strict : Template → Bool),
      (∀ t, strict t = true → t.description = d) →
        (∀ t i, Render.Ordered.render crash strict w t i = w.render t i) ∧
        ∀ t data, Render.Ordered.watchedSlots crash strict w t data = t.watchedSlots w data := by
  have hok : (compile { module := "Page" } greetingPage).isOk = true := by decide +kernel
  cases hd : compile { module := "Page" } greetingPage with
  | error f =>
    rw [hd] at hok
    cases hok
  | ok d =>
    obtain ⟨hchained, hordered⟩ := compile_ordered hd
    refine ⟨d, rfl, hchained, fun crash w strict hstrict => ?_⟩
    exact ((hordered crash w).2 strict fun t ht => ⟨_, _, (hstrict t ht).symm ▸ hd⟩).2

end Description

end Trellis
