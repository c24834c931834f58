/-
Text and trees agree.

A template can be rendered as text or as a tree.  The two do the same work on memory and evaluate
the same expressions; only the nodes differ, since elements of a text carry no events.  So as long
as nothing is passed that could look at nodes again, what is rendered as text is what is rendered as
a tree, without its events (`Rendered.quiet`), and events do not show in HTML
(`Rendered.htmlList_quietAll`).

That is said as one equation between pieces of work for each way of rendering
(`instruction_styled`): the work on a text is the work on a tree, and then the nodes are made quiet.
Loops and conditions collect nodes as they go, so that for them the nodes that they start with are
made quiet too.
-/
import Trellis.Proofs.Description.Checked
import Trellis.Proofs.Render.Fold

namespace Trellis

open Description

namespace Rendered

mutual
/-- A node without its events. -/
def quiet : Rendered → Rendered
  | .text key s raw loop => .text key s raw loop
  | .element key tag attrs _ children loop => .element key tag attrs [] (quietAll children) loop
  | .control key name options attrs bindings events children loop =>
    .control key name options attrs bindings events children loop

/-- Nodes without their events. -/
def quietAll : List Rendered → List Rendered
  | [] => []
  | n :: ns => quiet n :: quietAll ns
end

lemma quietAll_append (ns ms : List Rendered) : quietAll (ns ++ ms) = quietAll ns ++
    quietAll ms := by
  induction ns with
  | nil => rfl
  | cons n ns ih => rw [List.cons_append, quietAll, quietAll, ih, List.cons_append]

lemma quietAll_flatten (made : List (List Rendered)) :
    (made.map quietAll).flatten = quietAll made.flatten := by
  induction made with
  | nil => rfl
  | cons ns made ih => rw [List.map_cons, List.flatten_cons, List.flatten_cons, quietAll_append, ih]

lemma quiet_inLoop (n : Rendered) : n.quiet.inLoop = n.inLoop.quiet := by
  cases n <;> simp only [quiet, inLoop]

lemma quietAll_inLoop (ns : List Rendered) :
    (quietAll ns).map inLoop = quietAll (ns.map inLoop) := by
  induction ns with
  | nil => rfl
  | cons n ns ih => rw [quietAll, List.map_cons, List.map_cons, quietAll, quiet_inLoop, ih]

mutual
lemma pieces_quiet (keyed : Bool) : ∀ n : Rendered, pieces keyed n.quiet = pieces keyed n
  | .text _ _ _ _ => by rw [quiet]
  | .element _ _ _ _ children _ => by rw [quiet, pieces, pieces, piecesList_quietAll keyed children]
  | .control _ _ _ _ _ _ _ _ => by rw [quiet]

lemma piecesList_quietAll (keyed : Bool) : ∀ ns : List Rendered,
    piecesList keyed (quietAll ns) = piecesList keyed ns
  | [] => by rw [quietAll]
  | n :: ns =>
    by rw [quietAll, piecesList, piecesList, pieces_quiet keyed n, piecesList_quietAll keyed ns]
end

/-- Events do not show in HTML. -/
theorem htmlList_quietAll (keyed : Bool) (ns : List Rendered) :
    htmlList keyed (quietAll ns) = htmlList keyed ns := by
  rw [htmlList, htmlList, piecesList_quietAll]

end Rendered

/-- A chain whose output has no events. -/
def Chain.quiet (c : Chain Rendered) : Chain Rendered :=
  { c with output := Rendered.quietAll c.output }

/-- A context that renders in another style. -/
def Context.styled (c : Context) (s : Style) : Context := { c with style := s }

namespace Description

mutual
/-- Whether an instruction and all that stand below it satisfy `p`. -/
def Instruction.every (p : Instruction → Bool) : Instruction → Bool
  | .text key ps => p (.text key ps)
  | .element key name as children void =>
    p (.element key name as children void) && everyOf p children
  | .component key name call => p (.component key name call)
  | .partialCall key target call => p (.partialCall key target call)
  | .branches key as => p (.branches key as) && everyIn p as
  | .loop key names init test update children watch =>
    p (.loop key names init test update children watch) && everyOf p children
  | .each key collection index iterator children watch =>
    p (.each key collection index iterator children watch) && everyOf p children
  | .unknown op => p (.unknown op)

def everyOf (p : Instruction → Bool) : List Instruction → Bool
  | [] => true
  | i :: is => i.every p && everyOf p is

def everyIn (p : Instruction → Bool) : List Arm → Bool
  | [] => true
  | .mk _ children _ :: as => everyOf p children && everyIn p as
end

/-- Whether all instructions of a description satisfy `p`. -/
def every (d : Description) (p : Instruction → Bool) : Bool := d.bodies.toList.all fun b =>
    everyOf p b.children

/-- Whether an instruction renders no component and no template from elsewhere. -/
def Instruction.isLocal : Instruction → Bool
  | .component _ _ _ => false
  | .partialCall _ target _ => match target with
    | .inline _ => true
    | .static _ | .dynamic _ _ => false
  | _ => true

/-- Whether an instruction is local and passes no content. -/
def Instruction.isHomely (i : Instruction) : Bool := i.isLocal && i.contents.isEmpty

end Description

namespace Render

open Rendered

/-! ### Work and what is made of its result -/

section

variable {α β σ τ : Type}

/-- What is made of a result can be made after what follows, if what follows keeps it. -/
lemma map_then {f : α → β} {g : σ → τ} {k : α → Run σ} {l : β → Run τ}
    (h : ∀ x, l (f x) = g <$> k x) (v : Run α) :
    (f <$> v >>= l) = g <$> (v >>= k) := by
  rw [bind_map_left, map_bind]
  exact bind_congr h

/-- What is made of a result can be made before or after a fault is caught. -/
lemma map_tryCatch (f : α → β) (v : Run α) (g : Fault → Run α) :
    f <$> tryCatch v g = tryCatch (f <$> v) fun e => f <$> g e := by
  refine Run.ext fun m => ?_
  have hcaught := Run.on_tryCatch v g m
  rw [Run.on_tryCatch, map_eq_pure_bind, map_eq_pure_bind]
  obtain ⟨result, m', hv⟩ : ∃ result m', v.on m = (result, m') := ⟨_, _, rfl⟩
  rw [hv] at hcaught
  cases result with
  | ok x =>
    rw [Run.on_bind hcaught, Run.on_bind hv]
    rfl
  | error e =>
    rw [Run.on_bind_error hv]
    dsimp only at hcaught ⊢
    rw [map_eq_pure_bind]
    obtain ⟨result, m'', hg⟩ : ∃ result m'', (g e).on m' = (result, m'') := ⟨_, _, rfl⟩
    rw [hg] at hcaught
    cases result with
    | ok x => rw [Run.on_bind hcaught, Run.on_bind hg]
    | error e' => rw [Run.on_bind_error hcaught, Run.on_bind_error hg]

lemma map_contain (f : α → β) (t : Template) (c : Context) (instead : α) (work : Run α) :
    f <$> contain t c instead work = contain t c (f instead) (f <$> work) := by
  rw [contain, contain, Context.contain, Context.contain, map_tryCatch]
  refine congrArg (tryCatch _) (funext fun e => ?_)
  cases hthrows : c.throws with
  | true => rfl
  | false => simp only [Bool.false_eq_true, if_false, map_bind, map_pure]

/-- A walk over entries keeps what each step keeps. -/
lemma map_walkEntries {f : σ → τ} {step : σ → Value → Value → Run (σ × Bool)}
    {step' : τ → Value → Value → Run (τ × Bool)}
    (h : ∀ s key v, step' (f s) key v = (fun p => (f p.1, p.2)) <$> step s key v)
    (es : List (Value × Run Value)) (s : σ) :
    Value.walkEntries step' (f s) es = f <$> Value.walkEntries step s es := by
  induction es generalizing s with
  | nil => rfl
  | cons e es ih =>
    obtain ⟨key, read⟩ := e
    rw [Value.walkEntries, Value.walkEntries, map_bind]
    refine bind_congr fun v => ?_
    rw [h, bind_map_left, map_bind]
    refine bind_congr fun stepped => ?_
    obtain ⟨next, more⟩ := stepped
    cases more with
    | true => exact ih next
    | false => rfl

lemma map_walkCount {f : σ → τ} {step : σ → Value → Value → Run (σ × Bool)}
    {step' : τ → Value → Value → Run (τ × Bool)}
    (h : ∀ s key v, step' (f s) key v = (fun p => (f p.1, p.2)) <$> step s key v)
    (n i : Nat) (s : σ) :
    Value.walkCount step' (f s) i n = f <$> Value.walkCount step s i n := by
  induction n generalizing s i with
  | zero => rfl
  | succ n ih =>
    rw [Value.walkCount, Value.walkCount, h, bind_map_left, map_bind]
    refine bind_congr fun stepped => ?_
    obtain ⟨next, more⟩ := stepped
    cases more with
    | true => exact ih (i + 1) next
    | false => rfl

lemma map_walk {f : σ → τ} {step : σ → Value → Value → Run (σ × Bool)}
    {step' : τ → Value → Value → Run (τ × Bool)}
    (h : ∀ s key v, step' (f s) key v = (fun p => (f p.1, p.2)) <$> step s key v)
    (machine : Machine) (v : Value) (s : σ) :
    v.walk machine (f s) step' = f <$> v.walk machine s step := by
  rw [Value.walk, Value.walk]
  cases v.walkable? machine.host with
  | none => rfl
  | some family =>
    cases family with
    | count => exact map_walkCount h _ 0 s
    | _ =>
      dsimp only
      rw [map_bind]
      exact bind_congr fun es => map_walkEntries h es s

end

variable {w : Workshop} {t : Template} {r : Renderer} {c : Context} {s s' : Style}

/-! ### What the style does not matter for -/

lemma eval_styled (t : Template) (r : Renderer) (c : Context) (s : Style) (slot : Nat) :
    eval t r (c.styled s) slot = eval t r c slot := rfl

lemma contain_styled {α : Type} (t : Template) (c : Context) (s : Style) (instead : α)
    (work : Run α) :
    contain t (c.styled s) instead work = contain t c instead work := rfl

lemma part_styled (t : Template) (r : Renderer) (c : Context) (s : Style) (p : Part) :
    part t r (c.styled s) p = part t r c p := by
  cases p <;> rfl

lemma parts_styled (t : Template) (r : Renderer) (c : Context) (s : Style) (ps : List Part) :
    parts t r (c.styled s) ps = parts t r c ps := by
  rw [parts.eq_def, parts.eq_def]
  simp only [part_styled]

/-- A text has no events. -/
lemma text_quiet (t : Template) (r : Renderer) (c : Context) (key : String) (ps : List Part) :
    quietAll <$> text t r c key ps = text t r c key ps := by
  rw [text]
  split
  · rfl
  · rw [map_bind]
    refine bind_congr fun v => ?_
    rw [textNode.eq_def]
    split
    · rfl
    · rw [map_bind]
      rfl

lemma text_styled (t : Template) (r : Renderer) (c : Context) (s : Style) (key : String)
    (ps : List Part) :
    text t r (c.styled s) key ps = text t r c key ps := by
  rw [text, text, parts_styled]
  rfl

lemma elementAttrs_styled (t : Template) (r : Renderer) (c : Context) (s : Style) (as : List Attr) :
    elementAttrs t r (c.styled s) as = elementAttrs t r c as := by
  rw [elementAttrs, elementAttrs]
  refine congrArg (· >>= _) (congrArg (as.mapM ·) (funext fun a => ?_))
  cases a.value with
  | event slot => rfl
  | bind slot b => rfl
  | markup ps => simp only [parts_styled]
  | option ps => simp only [parts_styled]
  | other kind ps => simp only [parts_styled]

mutual
lemma optionValue_styled (t : Template) (r : Renderer) (c : Context) (s : Style) :
    ∀ v : OptionValue,
    optionValue t r (c.styled s) v = optionValue t r c v
  | .scalar _ _ => by rw [optionValue, optionValue, parts_styled]
  | .array items => by rw [optionValue, optionValue, options_styled t r c s items]
  | .object properties => by rw [optionValue, optionValue, options_styled t r c s properties]

lemma options_styled (t : Template) (r : Renderer) (c : Context) (s : Style) :
    ∀ os : List OptionSpec,
    options t r (c.styled s) os = options t r c os
  | [] => by rw [options, options]
  | .mk _ v :: os => by
    rw [options, options, optionValue_styled t r c s v, options_styled t r c s os]
end

lemma callAttr_styled (t : Template) (r : Renderer) (c : Context) (s : Style) (call : ControlCall)
    (fs : Fields) (a : Attr) : callAttr t r (c.styled s) call fs a = callAttr t r c call fs a := by
  rw [callAttr, callAttr]
  cases a.value with
  | markup ps => simp only [parts_styled]
  | option ps => simp only [parts_styled]
  | bind slot b => rfl
  | event slot => rfl
  | other kind ps => rfl

/-- What is called without content is called with the same. -/
lemma callOf_styled (t : Template) (r : Renderer) (c : Context) (s : Style) (key name : String)
    {call : Call} (h : call.contents = []) : callOf t r (c.styled s) key name call =
    callOf t r c key name call := by
  simp only [callOf, h, callAttr_styled, options_styled, List.foldlM_nil]
  rfl

lemma clause_styled (t : Template) (r : Renderer) (c : Context) (s : Style) (slot : Option Nat) :
    clause t r (c.styled s) slot = clause t r c slot := by
  cases slot <;> rfl

/-- Nothing is collected where nothing is watched. -/
lemma collect_styled (t : Template) (r : Renderer) (hc : c.subject = .start) (s : Style)
    (watch : Option Nat) :
    collect t r (c.styled s) watch = pure () := by
  simp only [collect, Context.watching, Context.styled, hc]
  rfl

/-- A nested context in another style. -/
lemma nested_styled {α β : Type} {f : α → β} {step : String} {k : Context → Run α}
    {l : Context → Run β} (h : ∀ inner : Context, inner.subject = c.subject →
    l (inner.styled s) = f <$> k (inner.styled s')) :
    ((c.styled s).nested step >>= l) = f <$> ((c.styled s').nested step >>= k) := by
  have hstyled : ∀ s : Style, ∀ scope : Nat, ({ (c.styled s).spawn step with scope } : Context) =
      ({ c.spawn step with scope } : Context).styled s := by
    intro s scope
    simp only [Context.spawn, Context.styled]
    split <;> rfl
  have hsubject : (c.spawn step).subject = c.subject := by
    rw [Context.spawn]
    split <;> rfl
  rw [Context.nested, Context.nested, bind_assoc, bind_assoc, map_bind]
  refine bind_congr fun scope => ?_
  rw [pure_bind, pure_bind, hstyled, hstyled]
  exact h _ hsubject

/-- Whether a context that starts with what is rendered watches: it does not. -/
lemma watching_start (hc : c.subject = .start) : c.watching = false := by
  rw [Context.watching, hc]

/-! ### Conditions and loops -/

variable {keyed : Bool}

/-- An arm of a chain adds what its body gives. -/
lemma chainArm_quiet (chain : Chain Rendered) (test : Option (Run (Except Fault Value)))
    (g : Run (List Rendered)) :
    chain.quiet.arm test (do return .ok (← quietAll <$> g)) =
      (fun o => (o.1.quiet, o.2)) <$> chain.arm test (do return .ok (← g)) := by
  rw [Chain.arm, Chain.arm, show chain.quiet.fired = chain.fired from rfl,
    show chain.quiet.undecided = chain.undecided from rfl,
    show chain.quiet.controller = chain.controller from rfl]
  split
  · rfl
  · -- what follows the test is the same with a test and without one
    cases test <;>
    · dsimp only
      rw [map_bind]
      refine bind_congr fun value => ?_
      cases chain.controller.decide value chain.fired chain.undecided with
      | error f => rfl
      | ok found =>
        obtain ⟨runs, undecided⟩ := found
        cases runs with
        | false => rfl
        | true =>
          simp only [Bool.not_true, Bool.false_eq_true, if_false, bind_assoc, bind_map_left,
            pure_bind, map_bind,
            map_pure]
          refine bind_congr fun nodes => congrArg pure (Prod.ext ?_ rfl)
          rw [Chain.quiet, Chain.quiet, quietAll_append]

/-- An arm of a condition adds what its body gives. -/
lemma arm_quiet (first : Bool) (slot : Option Nat) (chain : Chain Rendered)
    (g : Run (List Rendered)) :
    arm t r (c.styled s) first slot (quietAll <$> g) chain.quiet =
      Chain.quiet <$> arm t r (c.styled s') first slot g chain := by
  have hif : ∀ test : Option (Run (Except Fault Value)),
      chain.quiet.if test (do return .ok (← quietAll <$> g)) =
        (fun o => (o.1.quiet, o.2)) <$> chain.if test (do return .ok (← g)) := by
    intro test
    rw [Chain.if, Chain.if, show chain.quiet.stage = chain.stage from rfl]
    cases chain.stage with
    | new => exact chainArm_quiet { chain with stage := .opened } test g
    | _ => rfl
  have helif : ∀ test : Option (Run (Except Fault Value)),
      chain.quiet.elif test (do return .ok (← quietAll <$> g)) =
        (fun o => (o.1.quiet, o.2)) <$> chain.elif test (do return .ok (← g)) := by
    intro test
    rw [Chain.elif, Chain.elif, show chain.quiet.stage = chain.stage from rfl]
    cases chain.stage with
    | opened => exact chainArm_quiet chain test g
    | _ => rfl
  have helse : chain.quiet.else (do return .ok (← quietAll <$> g)) =
      (fun o => (o.1.quiet, o.2)) <$> chain.else (do return .ok (← g)) := by
    rw [Chain.else, Chain.else, show chain.quiet.stage = chain.stage from rfl]
    cases chain.stage with
    | opened => exact chainArm_quiet { chain with stage := .last } none g
    | _ => rfl
  cases first with
  | true =>
    simp only [arm, hif]
    refine map_then (fun o => ?_) _
    obtain ⟨chain, f⟩ := o
    cases f <;> rfl
  | false =>
    cases slot with
    | none =>
      simp only [arm, helse]
      refine map_then (fun o => ?_) _
      obtain ⟨chain, f⟩ := o
      cases f <;> rfl
    | some slot =>
      simp only [arm, helif]
      refine map_then (fun o => ?_) _
      obtain ⟨chain, f⟩ := o
      cases f <;> rfl

/-- The steps of a loop: each adds what its body gives. -/
lemma steps_quiet {l : Context} (hc : c.subject = .start) (hl : l.subject = .start)
    (test update : Run Bool) {f g : Context → Run (List Rendered)}
    (h : ∀ inner : Context, inner.subject = .start →
    f (inner.styled s) = quietAll <$> g (inner.styled s'))
    (left : Nat) : ∀ (done : Nat) (made : List (List Rendered)),
      steps t (c.styled s) (l.styled s) test update f left done (made.map quietAll) =
        List.map quietAll <$> steps t (c.styled s') (l.styled s') test update g left done made := by
  have hwatching : ∀ s : Style, (c.styled s).watching = false := fun _ => watching_start hc
  induction left with
  | zero => exact fun _ _ => rfl
  | succ left ih =>
    intro done made
    rw [steps, steps]
    simp only [steps.tryTest, steps.tryUpdate, hwatching, contain_styled, Bool.false_eq_true,
      if_false]
    rw [map_bind]
    refine bind_congr fun goes => ?_
    cases goes with
    | false => rfl
    | true =>
      refine nested_styled fun inner hinner => ?_
      rw [h inner (hinner.trans hl)]
      refine map_then (fun nodes => ?_) _
      rw [map_bind]
      refine bind_congr fun goes => ?_
      cases goes with
      | false => rfl
      | true => exact ih (done + 1) (nodes :: made)

lemma loopNodes_quiet (made : List (List Rendered)) : loopNodes (made.map quietAll) =
    quietAll (loopNodes made) := by
  rw [loopNodes, loopNodes, ← List.map_reverse, quietAll_flatten, quietAll_inLoop]

lemma loop_quiet (hc : c.subject = .start) (names : List String) (init test update : Option Nat)
    {f g : Context → Run (List Rendered)} (h : ∀ inner : Context, inner.subject = .start →
    f (inner.styled s) = quietAll <$> g (inner.styled s')) :
    loop t r (c.styled s) names init test update f =
      quietAll <$> loop t r (c.styled s') names init test update g := by
  have hwatching : ∀ s : Style, (c.styled s).watching = false := fun _ => watching_start hc
  rw [loop, loop]
  refine nested_styled fun inner hinner => ?_
  rw [map_bind]
  refine bind_congr fun _ => ?_
  simp only [hwatching, contain_styled, clause_styled, Bool.false_eq_true, if_false, Bool.false_and]
  rw [map_bind]
  refine bind_congr fun started => ?_
  cases started with
  | false => rfl
  | true =>
    simp only [if_true]
    have hsteps := steps_quiet (t :=
      t) hc (hinner.trans hc) (do return (← clause t r inner test).truthy)
      (do let _ ← clause t r inner update; return true) h loopLimit 0 []
    rw [List.map_nil] at hsteps
    rw [hsteps]
    exact map_then (fun made => congrArg pure (loopNodes_quiet made)) _

lemma each_quiet (hc : c.subject = .start) (collection : Nat) (index iterator : String)
    {f g : Context → Run (List Rendered)} (h : ∀ inner : Context, inner.subject = .start →
    f (inner.styled s) = quietAll <$> g (inner.styled s')) :
    each t r (c.styled s) collection index iterator f =
      quietAll <$> each t r (c.styled s') collection index iterator g := by
  have hwatching : ∀ s : Style, (c.styled s).watching = false := fun _ => watching_start hc
  rw [each, each]
  simp only [hwatching, contain_styled, eval_styled, Bool.false_eq_true, if_false, Bool.false_and]
  rw [map_bind]
  refine bind_congr fun found => ?_
  cases found with
  | none => rfl
  | some v =>
    dsimp only
    rw [Bool.not_false]
    refine (congrArg (· >>= _) (map_walk (f := List.map quietAll) (fun made key element =>
      ?_) r.machine v [])).trans
      (map_then (fun made => congrArg pure (loopNodes_quiet made)) _)
    rw [map_bind]
    refine bind_congr fun step => nested_styled fun inner hinner => ?_
    rw [map_bind]
    refine bind_congr fun _ => ?_
    rw [h inner (hinner.trans hc)]
    cases index.isEmpty with
    | true =>
      refine map_then (fun nodes => ?_) _
      rfl
    | false =>
      simp only [Bool.not_false, if_true]
      rw [map_bind]
      refine bind_congr fun _ => map_then (fun nodes => ?_) _
      rfl

/-! ### Calls -/

/-- A renderer renders bodies of a template as text as it does as a tree, but for the events. -/
def Quiet (r : Renderer) (keyed : Bool) : Prop := ∀ (c : Context) (at_ : Nat), c.subject = .start →
  r.body (c.styled (.text keyed)) at_ = quietAll <$> r.body (c.styled .tree) at_

/-- An inline template is rendered by its body, with what it is called with in scope. -/
lemma partialBody_quiet (hr : Quiet r keyed) (hc : c.subject = .start) (call : ControlCall)
    (name : String) :
    partialBody w t r (c.styled (.text keyed)) call (.inline name) =
      quietAll <$> partialBody w t r (c.styled .tree) call (.inline name) := by
  rw [partialBody, partialBody]
  cases (if t.isModule then t.description.template? name else none) with
  | none => rfl
  | some at_ =>
    refine nested_styled fun inner hinner => ?_
    rw [map_bind]
    refine bind_congr fun fs => ?_
    rw [map_bind]
    exact bind_congr fun _ => hr { inner with key := call.key } at_ (hinner.trans hc)

lemma calling_quiet (hc : c.subject = .start) (key name : String) {call : Call}
    (hcall : call.contents = [])
    {f g : ControlCall → Run (List Rendered)} (h : ∀ made, f made = quietAll <$> g made) :
    calling t r (c.styled s) key name call f = quietAll <$> calling t r (c.styled s') key name call
    g := by
  have hwatching : ∀ s : Style, (c.styled s).watching = false := fun _ => watching_start hc
  simp only [calling, hwatching, Bool.false_eq_true, if_false, callOf_styled t r c _ key name hcall,
    contain_styled]
  rw [map_bind]
  refine bind_congr fun made => ?_
  rw [map_contain, h]
  rfl

/-! ### Instructions -/

mutual
/-- What an instruction renders as text is what it renders as a tree, without events. -/
theorem instruction_quiet (hr : Quiet r keyed) : ∀ {c : Context} (i : Instruction),
    c.subject = .start →
    i.every Instruction.isHomely →
    instruction w t r (c.styled (.text keyed)) i = quietAll <$> instruction w t r (c.styled .tree) i
  | c, .text key ps, hc, _ => by
    rw [instruction, instruction, text_styled, text_styled, text_quiet]
  | c, .element key name as children _, hc, h => by
    have hwatching : ∀ s : Style, (c.styled s).watching = false := fun _ => watching_start hc
    simp only [instruction, hwatching, Bool.false_eq_true, if_false, elementAttrs_styled]
    rw [map_bind]
    refine bind_congr fun found => ?_
    rw [instructions_quiet hr children hc h]
    exact map_then (fun ns => by rfl) _
  | c, .component key name call, _, h => nomatch h
  | c, .partialCall key target call, hc, h => by
    cases target with
    | static name => exact nomatch h
    | dynamic slot name => exact nomatch h
    | inline name =>
      have hcall : call.contents = [] := List.isEmpty_iff.1 h
      rw [instruction, instruction]
      exact calling_quiet hc key name hcall fun made => partialBody_quiet hr hc made name
  | c, .branches key as, hc, h => by
    have hwatching : ∀ s : Style, (c.styled s).watching = false := fun _ => watching_start hc
    simp only [instruction, hwatching, Bool.false_eq_true, if_false]
    rw [Instruction.every] at h
    have has := arms_quiet hr true { controller := .standard } as hc h
    refine (congrArg (· >>= _) has).trans (map_then (fun chain => ?_) _)
    obtain ⟨controller, stage, fired, undecided, output⟩ := chain
    cases stage <;> cases fired <;> rfl
  | c, .loop key names init test update children watch, hc, h => by
    rw [instruction, instruction]
    refine loop_quiet hc names init test update fun inner hinner => ?_
    rw [collect_styled t r hinner, collect_styled t r hinner, pure_bind, pure_bind]
    rw [Instruction.every] at h
    exact instructions_quiet hr children hinner h
  | c, .each key collection index iterator children watch, hc, h => by
    rw [instruction, instruction]
    refine each_quiet hc collection index iterator fun inner hinner => ?_
    rw [collect_styled t r hinner, collect_styled t r hinner, pure_bind, pure_bind]
    rw [Instruction.every] at h
    exact instructions_quiet hr children hinner h
  | c, .unknown op, _, _ => by
    rw [instruction, instruction]
    rfl

theorem instructions_quiet (hr : Quiet r keyed) : ∀ {c : Context} (is : List Instruction),
    c.subject = .start →
    everyOf Instruction.isHomely is →
    instructions w t r (c.styled (.text keyed)) is = quietAll <$> instructions w t r
    (c.styled .tree) is
  | c, [], _, _ => by
    rw [instructions, instructions]
    rfl
  | c, i :: is, hc, h => by
    rw [everyOf, Bool.and_eq_true] at h
    rw [instructions, instructions, instruction_quiet hr i hc h.1, instructions_quiet hr is hc h.2]
    refine map_then (fun ns => ?_) _
    refine map_then (fun ms => ?_) _
    exact congrArg pure (quietAll_append ns ms).symm

theorem arms_quiet (hr : Quiet r keyed) :
    ∀ {c : Context} (first : Bool) (chain : Chain Rendered) (as : List Arm), c.subject = .start →
    everyIn Instruction.isHomely as →
    arms w t r (c.styled (.text keyed)) first chain.quiet as =
      Chain.quiet <$> arms w t r (c.styled .tree) first chain as
  | c, first, chain, [], _, _ => by
    rw [arms, arms]
    rfl
  | c, first, chain, .mk slot children watch :: as, hc, h => by
    rw [everyIn, Bool.and_eq_true] at h
    rw [arms, arms, collect_styled t r hc, collect_styled t r hc, pure_bind, pure_bind,
      instructions_quiet hr children hc h.1, arm_quiet first slot chain]
    exact map_then (fun chain => arms_quiet hr false chain as hc h.2) _
end

/-- A body renders as text what it renders as a tree, without events. -/
theorem body_quiet (hr : Quiet r keyed) (ht : t.description.every Instruction.isHomely)
    (hc : c.subject = .start) (at_ : Nat) :
    body w t r (c.styled (.text keyed)) at_ = quietAll <$> body w t r (c.styled .tree) at_ := by
  rw [body, body]
  cases hb : t.description.bodies[at_]? with
  | none => rfl
  | some b =>
    dsimp only
    rw [collect_styled t r hc, collect_styled t r hc, pure_bind, pure_bind]
    exact instructions_quiet hr b.children hc
      (List.all_eq_true.1 ht b (Array.mem_toList_iff.2 (Array.mem_of_getElem? hb)))

end Render

namespace Workshop

open Rendered

variable {keyed : Bool} {t : Template}

/-- Bodies that call each other render as text what they render as a tree, without events. -/
theorem bodyTo_quiet (w : Workshop) (ht : t.description.every Instruction.isHomely) (depth : Nat)
    {c : Context} (hc : c.subject = .start) (at_ : Nat) :
    w.bodyTo t depth (c.styled (.text keyed)) at_ = quietAll <$> w.bodyTo t depth
    (c.styled .tree) at_ := by
  induction depth generalizing c at_ with
  | zero => rfl
  | succ depth ih =>
    have htemplate : ∀ s : Style, (c.styled s).template t = t := by
      intro s
      simp only [Context.template, Context.styled, hc]
    rw [bodyTo, bodyTo, htemplate, htemplate]
    exact Render.body_quiet (fun c at_ hc => ih hc at_) ht hc at_

/-- What follows the context that an invocation starts in is only about contexts that start there.
-/
lemma context_styled {α β : Type} {f : α → β} {k : Context → Run α} {l : Context → Run β}
    {s s' : Style} (i : Invocation)
    (h : ∀ c : Context, c.subject = .start → l (c.styled s) = f <$> k (c.styled s')) :
    (({ i with style := s } : Invocation).context .start >>= l) =
      f <$> (({ i with style := s' } : Invocation).context .start >>= k) := by
  simp only [Invocation.context, bind_assoc]
  rw [map_bind]
  refine bind_congr fun data => ?_
  rw [map_bind]
  refine bind_congr fun scope => ?_
  cases i.parent with
  | none =>
    rw [pure_bind, pure_bind]
    exact h {
      scope, self := i.data, controller := i.controller, ambient := [i.ambient]
      registry := i.registry, throws := i.throws, logs := i.logs } rfl
  | some p =>
    rw [pure_bind, pure_bind]
    exact h {
      scope, self := i.data, ambient := (i.ambient <|> p.ambient.head?.join) :: p.ambient, key :=
        p.key
      children := p.children, registry := i.registry, throws := i.throws, logs := i.logs
      controller := _ } rfl

/-- A rendering as text gives what the rendering as a tree gives, without events. -/
theorem begin_quiet (w : Workshop) (ht : t.description.every Instruction.isHomely)
    (i : Invocation) :
    w.begin t { i with style := .text keyed } = quietAll <$>
    w.begin t { i with style := .tree } := by
  rw [begin, begin]
  refine context_styled i fun c hc => ?_
  have hcontain := Render.map_contain quietAll t (c.styled .tree) [.text c.key "" false false]
    (w.bodyTo t (w.depth + 1) (c.styled .tree) t.body)
  rw [← w.bodyTo_quiet ht (w.depth + 1) hc] at hcontain
  exact hcontain.symm

end Workshop

/-- **Text and trees agree.** A template without components and templates from elsewhere, that
passes no content, fails as text when it fails as a tree, with the same fault; and otherwise the
HTML of the two is the same.  Both leave the same memory. -/
theorem Template.text_eq_tree_html (w : Workshop) {t : Template}
    (ht : t.description.every Instruction.isHomely) (i : Invocation) (keyed : Bool) (m : Memory) :
    ∃ result result' m', (w.render t { i with style := .text keyed }).on m = (result, m') ∧
      (w.render t { i with style := .tree }).on m = (result', m') ∧
      (∀ f, result = .error f ↔ result' = .error f) ∧
      result.map (Rendered.htmlList keyed) = result'.map (Rendered.htmlList keyed) := by
  have hbegin := @Workshop.begin_quiet keyed t w ht i
  rw [w.render_on, w.render_on, hbegin, map_eq_pure_bind]
  obtain ⟨result, m', htree⟩ : ∃ result m', (w.begin t { i with style := .tree }).on m =
    (result, m') := ⟨_, _, rfl⟩
  cases result with
  | error f =>
    rw [Run.on_bind_error htree, htree]
    exact ⟨_, _, _, rfl, rfl, fun _ => Iff.rfl, rfl⟩
  | ok ns =>
    rw [Run.on_bind htree, htree]
    refine ⟨_, _, _, rfl, rfl, fun _ => ⟨nofun, nofun⟩, ?_⟩
    exact congrArg Except.ok (Rendered.htmlList_quietAll keyed ns)

/-- A button that calls `f`. -/
def callingButton : Except Fault Markup.Node := do
  let click ← Program.parse "f()"
  return .element { key := "0", line := 1, column := 1 } "button"
    [{ name := "click", kind := .event, raw := "f()", value := .program click, line := 1, column := 9 }] [] false

/-- A page that renders its inline template `t` with content. -/
def templatePage (children : List Markup.Node) (contents : List Markup.Content) :
    Except Fault Template := do
  let a : Annotated Unit ← Annotated.ofNodes "Page" [
    .template { key := "0", line := 1, column := 1 } "t" children,
    .partialCall { key := "1", line := 2, column := 1 } (.inline "t") [] [] contents]
  Template.ofDescription (← ofAnnotated { module := "Page" } a) {}

theorem Template.text_eq_tree_html_button : ∃ t, (do templatePage [← callingButton] []) = .ok t ∧
    t.description.every Instruction.isHomely ∧
    ∀ (w : Workshop) (i : Invocation) (keyed : Bool) (m : Memory), ∃ result result' m',
      (w.render t { i with style := .text keyed }).on m = (result, m') ∧
        (w.render t { i with style := .tree }).on m = (result', m') ∧
        (∀ f, result = .error f ↔ result' = .error f) ∧
        result.map (Rendered.htmlList keyed) = result'.map (Rendered.htmlList keyed) := by
  have hall : (do templatePage [← callingButton] []).toOption.any
      (fun t : Template => t.description.every Instruction.isHomely) = true := by
    decide +kernel
  cases ht : (do templatePage [← callingButton] []) with
  | error f =>
    rw [ht] at hall
    cases hall
  | ok t =>
    rw [ht] at hall
    exact ⟨t, rfl, hall, fun w i keyed m => text_eq_tree_html w hall i keyed m⟩

/-- A page that passes a button to its template, which asks whether the button has events. -/
def askingPage : Except Fault Template := do
  let question ← Program.parse "c.Invoke(1)['0'].Events.length > 0"
  templatePage [.text { key := "0", line := 1, column := 20 }
    [{ key := "0", content := .expression "" question }]]
    [.mk { key := "0", line := 2, column := 26 } "c" [← callingButton]]

/-- The HTML of a template that is rendered on its own. -/
def Template.html? (t : Template) (style : Style) : Option String :=
  ((({} : Workshop).render t { style }).on {}).1.toOption.map (Rendered.htmlList false)

/-- Content that is rendered for a text has no events, and what it is passed to can tell. -/
theorem Template.text_ne_tree_html : ∃ t, askingPage = .ok t ∧
    t.description.every Instruction.isLocal ∧
    t.html? (.text false) = some "false" ∧ t.html? .tree = some "true" := by
  have hall : askingPage.toOption.any (fun t => t.description.every Instruction.isLocal &&
      (t.html? (.text false) == some "false" && t.html? .tree == some "true")) = true := by
    decide +kernel
  cases ht : askingPage with
  | error f =>
    rw [ht] at hall
    cases hall
  | ok t =>
    rw [ht] at hall
    obtain ⟨hlocal, hhtml⟩ := Bool.and_eq_true_iff.1 hall
    obtain ⟨htext, htree⟩ := Bool.and_eq_true_iff.1 hhtml
    exact ⟨t, rfl, hlocal, eq_of_beq htext, eq_of_beq htree⟩

end Trellis
