/-
Keys of rendered nodes.

What an instruction makes has keys that start with the key of the context it was made in
(`Render.gives_instruction`).  This is so of nodes that the instruction makes itself; a template or
a control that is rendered in place of a call may come with keys of its own.

`Run.Gives` says what is known of a result of work, if there is one.
-/
import Trellis.Proofs.Render.Contained

namespace Trellis

/-! ### Results -/

namespace Run

variable {α β : Type} {Q : α → Prop} {R : β → Prop}

/-- What work gives as a result satisfies `Q`. -/
def Gives (Q : α → Prop) (w : Run α) : Prop := ∀ m x m', w.on m = (.ok x, m') → Q x

lemma gives_pure {x : α} (h : Q x) : Gives Q (pure x : Run α) := by
  intro m y m' hy
  cases hy
  exact h

lemma gives_throw (f : Fault) : Gives Q (throw f : Run α) := by
  intro m y m' hy
  cases hy

lemma Gives.bind {w : Run α} {k : α → Run β} (h : Gives Q w) (hk : ∀ x, Q x → Gives R (k x)) :
    Gives R (w >>= k) := by
  intro m y m' hy
  obtain ⟨r, n, hw⟩ : ∃ r n, w.on m = (r, n) := ⟨_, _, rfl⟩
  cases r with
  | error f =>
    rw [on_bind_error hw] at hy
    cases hy
  | ok x =>
    rw [on_bind hw] at hy
    exact hk x (h m x n hw) n y m' hy

/-- Where nothing has to be known of what came before. -/
lemma gives_bind {w : Run α} {k : α → Run β} (hk : ∀ x, Gives R (k x)) : Gives R (w >>= k) :=
  Gives.bind (Q := fun _ => True) (fun _ _ _ _ => trivial) fun x _ => hk x

lemma gives_ite_bind {p : Prop} [Decidable p] {v w : Run α} {k : α → Run β}
    (hk : ∀ x, Gives R (k x)) :
    Gives R (if p then v >>= k else w >>= k) := by
  split
  · exact gives_bind hk
  · exact gives_bind hk

lemma Gives.tryCatch {w : Run α} {g : Fault → Run α} (h : Gives Q w) (hg : ∀ f, Gives Q (g f)) :
    Gives Q (tryCatch w g) := by
  intro m y m' hy
  rw [on_tryCatch] at hy
  obtain ⟨r, n, hw⟩ : ∃ r n, w.on m = (r, n) := ⟨_, _, rfl⟩
  rw [hw] at hy
  cases r with
  | ok x =>
    cases hy
    exact h m _ _ hw
  | error f => exact hg f n y m' hy

lemma gives_foldlM {xs : List β} {f : α → β → Run α} (hf : ∀ s x, Q s → Gives Q (f s x)) (s : α)
    (hs : Q s) :
    Gives Q (xs.foldlM f s) := by
  induction xs generalizing s with
  | nil => exact gives_pure hs
  | cons x xs ih =>
    rw [List.foldlM_cons]
    exact (hf s x hs).bind fun s' hs' => ih s' hs'

end Run

open Run

lemma Context.gives_contain {α : Type} {Q : α → Prop} {work : Run α} {instead : α}
    (h : Gives Q work) (hinstead : Q instead) (c : Context) (module : String) :
    Gives Q (c.contain module instead work) := by
  refine h.tryCatch fun f => ?_
  split
  · intro m y m' hy
    rw [on_bind_error (on_throw f m)] at hy
    cases hy
  · exact gives_bind fun _ => gives_pure hinstead

namespace Value

variable {σ : Type} {Q : σ → Prop} {step : σ → Value → Value → Run (σ × Bool)}
  (hstep : ∀ s key v, Q s → Gives (fun r => Q r.1) (step s key v))

include hstep

lemma gives_walkEntries (es : List (Value × Run Value)) (s : σ) (hs : Q s) :
    Gives Q (walkEntries step s es) := by
  induction es generalizing s with
  | nil => exact gives_pure hs
  | cons e es ih =>
    rw [walkEntries]
    refine gives_bind fun v => (hstep s e.1 v hs).bind fun r hr => ?_
    obtain ⟨next, more⟩ := r
    cases more with
    | true => exact ih next hr
    | false => exact gives_pure hr

lemma gives_walkCount (n i : Nat) (s : σ) (hs : Q s) : Gives Q (walkCount step s i n) := by
  induction n generalizing s i with
  | zero => exact gives_pure hs
  | succ n ih =>
    rw [walkCount]
    refine (hstep s _ _ hs).bind fun r hr => ?_
    obtain ⟨next, more⟩ := r
    cases more with
    | true => exact ih (i + 1) next hr
    | false => exact gives_pure hr

/-- What every step of a walk keeps, the walk keeps. -/
lemma gives_walk (m : Machine) (v : Value) (s : σ) (hs : Q s) : Gives Q (v.walk m s step) := by
  rw [walk]
  cases v.walkable? m.host with
  | none => exact gives_pure hs
  | some family =>
    cases family with
    | count => exact gives_walkCount hstep _ 0 s hs
    | _ => exact gives_bind fun es => gives_walkEntries hstep es s hs

end Value

/-! ### Keys -/

namespace Rendered

mutual
/-- The keys of a node and of all below it. -/
def keys : Rendered → List String
  | .text key _ _ _ => [key]
  | .element key _ _ _ children _ => key :: keysList children
  | .control key _ _ _ _ _ children _ => key :: keysList children

def keysList : List Rendered → List String
  | [] => []
  | n :: ns => keys n ++ keysList ns
end

/-- The keys of nodes, and of all below them, start with `p`. -/
def KeyedUnder (p : String) (ns : List Rendered) : Prop :=
  ∀ key ∈ keysList ns, ∃ rest, key = p ++ rest

variable {p : String} {ns ns' : List Rendered}

lemma keys_inLoop (n : Rendered) : n.inLoop.keys = n.keys := by
  cases n <;> rfl

lemma keysList_append : keysList (ns ++ ns') = keysList ns ++ keysList ns' := by
  induction ns with
  | nil => rfl
  | cons n ns ih => rw [List.cons_append, keysList, keysList, ih, List.append_assoc]

lemma keysList_inLoop (ns : List Rendered) : keysList (ns.map inLoop) = keysList ns := by
  induction ns with
  | nil => rfl
  | cons n ns ih => rw [List.map_cons, keysList, keysList, ih, keys_inLoop]

lemma keyedUnder_nil (p : String) : KeyedUnder p [] := fun _ h => absurd h List.not_mem_nil

lemma KeyedUnder.append (h : KeyedUnder p ns) (h' : KeyedUnder p ns') :
    KeyedUnder p (ns ++ ns') := by
  intro key hkey
  rw [keysList_append] at hkey
  exact (List.mem_append.1 hkey).elim (h key) (h' key)

lemma KeyedUnder.flatten {made : List (List Rendered)} (h : ∀ ns ∈ made, KeyedUnder p ns) :
    KeyedUnder p made.flatten := by
  induction made with
  | nil => exact keyedUnder_nil p
  | cons ns made ih =>
    obtain ⟨hns, hmade⟩ := List.forall_mem_cons.1 h
    exact hns.append (ih hmade)

lemma KeyedUnder.inLoop (h : KeyedUnder p ns) : KeyedUnder p (ns.map inLoop) := by
  rw [KeyedUnder, keysList_inLoop]
  exact h

/-- A longer start is the start of fewer keys. -/
lemma KeyedUnder.of_append {step : String} (h : KeyedUnder (p ++ step) ns) : KeyedUnder p ns := by
  intro key hkey
  obtain ⟨rest, rfl⟩ := h key hkey
  exact ⟨step ++ rest, String.append_assoc⟩

lemma keyedUnder_text (p key s : String) (raw loop : Bool) :
    KeyedUnder p [.text (p ++ key) s raw loop] := by
  intro k hk
  rw [List.mem_singleton.1 hk]
  exact ⟨key, rfl⟩

lemma keyedUnder_element (key name : String) (attrs : List (String × String))
    (events : List RenderedEvent) (loop : Bool) (h : KeyedUnder p ns) :
    KeyedUnder p [.element (p ++ key) name attrs events ns loop] := by
  intro k hk
  rw [keysList, keysList, List.append_nil, keys] at hk
  obtain rfl | hk := List.mem_cons.1 hk
  · exact ⟨key, rfl⟩
  · exact h k hk

end Rendered

/-- The key of a nested context starts with that of the one around it. -/
lemma Context.spawn_key (c : Context) (step : String) : ∃ more, (c.spawn step).key = c.key ++
    more := by
  rw [spawn]
  split
  · exact ⟨"", (String.append_empty).symm⟩
  · exact ⟨step ++ "_", String.append_assoc⟩

/-- A context of a step of another: it has a key of its own, and renders alike. -/
structure Context.Within (c : Context) (step : String) (inner : Context) : Prop where
  key : inner.key = (c.spawn step).key
  style : inner.style = c.style
  watching : inner.watching = c.watching

lemma Context.gives_nested (c : Context) (step : String) : Gives (c.Within step)
    (c.nested step) := by
  refine gives_bind fun scope => gives_pure ⟨rfl, ?_, ?_⟩
  all_goals
    rw [spawn]
    split <;> rfl

/-! ### Rendering -/

namespace Render

open Description Rendered

/-- Whether all that an instruction makes in a style are nodes of its own. -/
def makesOwn (style : Style) : Instruction → Bool
  | .component _ _ _ => style == .tree
  | .partialCall _ _ _ => false
  | _ => true

variable {w : Workshop} {t : Template} {r : Renderer} {c : Context} {p : String}

lemma gives_text (key : String) (ps : List Part) : Gives (KeyedUnder c.key)
    (text t r c key ps) := by
  rw [text]
  split
  · exact gives_pure (keyedUnder_nil _)
  · refine gives_bind fun v => ?_
    rw [textNode.eq_def]
    split
    · exact gives_pure (keyedUnder_text _ _ _ _ _)
    · exact gives_bind fun s => gives_pure (keyedUnder_text _ _ _ _ _)

/-- A call has the key of the instruction that makes it. -/
lemma gives_callOf (key name : String) (call : Call) :
    Gives (fun made : ControlCall => made.key = c.key ++ key) (callOf t r c key name call) := by
  have hattr : ∀ (made : ControlCall) (fs : Fields) (a : Attr), made.key = c.key ++ key →
      Gives (fun s : ControlCall × Fields => s.1.key = c.key ++ key)
          (callAttr t r c made fs a) := by
    intro made fs a hmade
    rw [callAttr]
    cases a.value with
    | markup ps => exact gives_bind fun v => gives_bind fun s => gives_pure hmade
    | option ps =>
      refine gives_bind fun v => ?_
      split
      · exact gives_bind fun ks => gives_bind fun fs => gives_pure hmade
      · exact gives_pure hmade
    | bind slot b => exact gives_bind fun v => gives_pure hmade
    | event slot => exact gives_pure hmade
    | other kind ps => exact gives_pure hmade
  rw [callOf]
  refine (gives_foldlM (Q := fun s : ControlCall × Fields => s.1.key = c.key ++ key)
    (fun s a hs => hattr s.1 s.2 a hs) _ rfl).bind fun s hs => ?_
  exact gives_bind fun os => gives_bind fun fs => gives_bind fun options => gives_pure hs

lemma gives_component (hstyle : c.style = .tree) (key name : String) (call : Call) :
    Gives (KeyedUnder c.key) (calling t r c key name call (control w r c)) := by
  rw [calling]
  split
  · exact gives_bind fun _ => gives_bind fun _ => gives_pure (keyedUnder_nil _)
  · refine (gives_callOf key name call).bind fun made hmade => ?_
    refine Context.gives_contain ?_ (keyedUnder_nil _) c _
    rw [control, hstyle]
    refine gives_bind fun fs => gives_pure fun k hk => ?_
    rw [List.mem_singleton.1 hk]
    exact ⟨key, hmade⟩

/-! ### Conditions -/

/-- What a chain has put out stands under a key. -/
def ChainKeyed (p : String) (chain : Chain Rendered) : Prop := KeyedUnder p chain.output

lemma gives_chainArm {chain : Chain Rendered} (hchain : ChainKeyed p chain)
    (test : Option (Run (Except Fault Value))) {body : Run (Except Fault (List Rendered))}
    (hbody : Gives (fun e => ∀ ns, e = .ok ns → KeyedUnder p ns) body) :
    Gives (fun o : Chain.Outcome Rendered => ChainKeyed p o.1) (chain.arm test body) := by
  have hdecided : ∀ value, Gives (fun o : Chain.Outcome Rendered => ChainKeyed p o.1)
      (chain.decided body value) := by
    intro value
    rw [Chain.decided]
    split
    · exact gives_pure hchain
    · dsimp only
      split
      · exact gives_pure hchain
      · refine hbody.bind fun e he => ?_
        cases e with
        | ok ns => exact gives_pure (hchain.append (he ns rfl))
        | error f => exact gives_pure hchain
  rw [Chain.arm_eq]
  split
  · exact gives_pure hchain
  · split
    · exact gives_bind hdecided
    · exact gives_bind hdecided

/-- What an arm comes to: its chain, or its fault. -/
lemma gives_outcome (o : Chain.Outcome Rendered) (ho : ChainKeyed p o.1) :
    Gives (ChainKeyed p) (match o.2 with
      | some f => throw f
      | none => return o.1 : Run (Chain Rendered)) := by
  split
  · exact gives_throw _
  · exact gives_pure ho

lemma gives_arm {chain : Chain Rendered} (hchain : ChainKeyed p chain) (first : Bool)
    (slot : Option Nat) {body : Run (List Rendered)} (hbody : Gives (KeyedUnder p) body) :
    Gives (ChainKeyed p) (arm t r c first slot body chain) := by
  have hcaught : Gives (fun e : Except Fault (List Rendered) => ∀ ns, e = .ok ns → KeyedUnder p ns)
      (do return .ok (← body)) := by
    refine hbody.bind fun ns hns => gives_pure fun ns' h => ?_
    cases h
    exact hns
  have hend := gives_outcome (p := p)
  have harm := fun (stage : Chain.Stage) (slot : Option (Run (Except Fault Value))) =>
    gives_chainArm (show ChainKeyed p { chain with stage } from hchain) slot hcaught
  rw [arm.eq_def]
  dsimp only
  split
  all_goals refine Gives.bind (Q := fun o : Chain.Outcome Rendered => ChainKeyed p o.1) ?_ hend
  · rw [Chain.«if»]
    split
    · exact harm _ _
    · exact gives_pure hchain
  · rw [Chain.«else»]
    split
    · exact gives_pure hchain
    · exact gives_pure hchain
    · exact gives_pure hchain
    · exact harm _ _
  · rw [Chain.elif]
    split
    · exact gives_pure hchain
    · exact gives_pure hchain
    · exact gives_pure hchain
    · exact gives_chainArm hchain _ hcaught

/-! ### Loops -/

/-- What stands in a loop makes nodes under the key of its context. -/
def BodyKeyed (style : Style) (body : Context → Run (List Rendered)) : Prop :=
  ∀ inner : Context, inner.style = style → Gives (KeyedUnder inner.key) (body inner)

/-- What a loop has made stands under a key. -/
def MadeUnder (p : String) (made : List (List Rendered)) : Prop := ∀ ns ∈ made, KeyedUnder p ns

lemma keyedUnder_loopNodes {made : List (List Rendered)} (h : MadeUnder p made) :
    KeyedUnder p (loopNodes made) :=
  (KeyedUnder.flatten fun ns hns => h ns (List.mem_reverse.1 hns)).inLoop

section

variable {body : Context → Run (List Rendered)} (hbody : BodyKeyed c.style body)

include hbody

/-- A step of a loop makes nodes under the key of the loop. -/
lemma BodyKeyed.gives_step {inner : Context} {step : String} (hinner : c.Within step inner) :
    Gives (KeyedUnder c.key) (body inner) := by
  intro m ns m' hns
  obtain ⟨more, hmore⟩ := c.spawn_key step
  have hkeyed := hbody inner hinner.style m ns m' hns
  rw [hinner.key, hmore] at hkeyed
  exact hkeyed.of_append

omit hbody in
lemma gives_withoutSteps (names : List String) : Gives (KeyedUnder p) (withoutSteps c names body) :=
  gives_bind fun _ => gives_bind fun _ => gives_bind fun _ => gives_pure (keyedUnder_nil _)

lemma gives_steps {around : Context} (test update : Run Bool) (left done : Nat)
    (made : List (List Rendered)) (hmade : MadeUnder c.key made) :
    Gives (MadeUnder c.key) (steps t around c test update body left done made) := by
  induction left generalizing done made with
  | zero => exact gives_throw _
  | succ left ih =>
    rw [steps]
    refine gives_bind fun more => ?_
    split
    · exact gives_pure hmade
    · refine (c.gives_nested _).bind fun inner hinner => ?_
      refine (hbody.gives_step hinner).bind fun ns hns => ?_
      have hmade' : MadeUnder c.key (ns :: made) := List.forall_mem_cons.2 ⟨hns, hmade⟩
      split
      · exact gives_pure hmade'
      · refine gives_bind fun more => ?_
        split
        · exact gives_pure hmade'
        · exact ih _ _ hmade'

lemma gives_loop (names : List String) (init test update : Option Nat) :
    Gives (KeyedUnder c.key) (loop t r c names init test update body) := by
  rw [loop]
  refine (c.gives_nested "").bind fun inner hinner => ?_
  obtain ⟨hkey, hstyle, -⟩ := hinner
  have hkey : inner.key = c.key := hkey
  rw [← hkey]
  have hinner : BodyKeyed inner.style body := hstyle ▸ hbody
  have hend : ∀ made, MadeUnder inner.key made → Gives (KeyedUnder inner.key)
      (if c.watching && made.isEmpty then withoutSteps inner names body
          else return loopNodes made) := by
    intro made hmade
    split
    · exact gives_withoutSteps names
    · exact gives_pure (keyedUnder_loopNodes hmade)
  refine gives_bind fun _ => gives_ite_bind fun started => ?_
  dsimp only
  split
  · exact (gives_steps hinner _ _ _ _ _ fun ns h => absurd h List.not_mem_nil).bind hend
  · exact hend [] fun ns h => absurd h List.not_mem_nil

lemma gives_each (collection : Nat) (index iterator : String) :
    Gives (KeyedUnder c.key) (each t r c collection index iterator body) := by
  rw [each]
  refine gives_ite_bind fun found => ?_
  cases found with
  | none => exact gives_pure (keyedUnder_nil _)
  | some v =>
    refine (Value.gives_walk (Q := MadeUnder c.key) (fun made key element hmade => ?_) _ v []
      fun ns h => absurd h List.not_mem_nil).bind fun made hmade => ?_
    · refine gives_bind fun step => (c.gives_nested step).bind fun inner hinner =>
        gives_bind fun _ => ?_
      have hstep : Gives (fun s : List (List Rendered) × Bool => MadeUnder c.key s.1) (do
          let nodes ← body inner
          return (nodes :: made, !c.watching)) :=
        (hbody.gives_step hinner).bind fun ns hns =>
          gives_pure (List.forall_mem_cons.2 ⟨hns, hmade⟩)
      split
      · exact gives_bind fun _ => hstep
      · exact hstep
    · split
      · exact gives_withoutSteps _
      · exact gives_pure (keyedUnder_loopNodes hmade)

end

mutual
/-- **Keys.** Instructions that make nodes of their own make them under the key of their context. -/
theorem gives_instruction : ∀ (c : Context) (i : Instruction), i.every (makesOwn c.style) →
    Gives (KeyedUnder c.key) (instruction w t r c i)
  | c, .text key ps, _ => by
    rw [instruction]
    exact gives_text key ps
  | c, .element key name as children _, h => by
    rw [Instruction.every, Bool.and_eq_true] at h
    have hchildren := gives_instructions c children h.2
    rw [instruction]
    split
    · exact gives_bind fun _ => gives_pure (keyedUnder_nil _)
    · refine gives_bind fun found => hchildren.bind fun ns hns => ?_
      exact gives_pure (keyedUnder_element _ _ _ _ _ hns)
  | c, .component key name call, h => by
    rw [instruction]
    exact gives_component (eq_of_beq h) key name call
  | c, .partialCall key target call, h => nomatch h
  | c, .branches key as, h => by
    rw [Instruction.every, Bool.and_eq_true] at h
    rw [instruction]
    refine (gives_arms c true { controller := if c.watching then .watching else .standard } as h.2
      (keyedUnder_nil _)).bind fun chain hchain => ?_
    rw [Chain.fi]
    split
    · next heq =>
      split at heq
      · cases heq
      · cases heq
      · cases heq
        split
        · exact gives_pure hchain
        · exact gives_pure (keyedUnder_nil _)
    · exact gives_throw _
  | c, .loop key names init test update children watch, h => by
    rw [Instruction.every, Bool.and_eq_true] at h
    rw [instruction]
    exact gives_loop (fun inner hinner => gives_bind fun _ =>
      gives_instructions inner children (hinner ▸ h.2)) names
      init test update
  | c, .each key collection index iterator children watch, h => by
    rw [Instruction.every, Bool.and_eq_true] at h
    rw [instruction]
    exact gives_each (fun inner hinner => gives_bind fun _ =>
      gives_instructions inner children (hinner ▸ h.2))
      collection index iterator
  | c, .unknown op, _ => by
    rw [instruction]
    exact gives_throw _

theorem gives_instructions : ∀ (c : Context) (is : List Instruction),
    everyOf (makesOwn c.style) is →
    Gives (KeyedUnder c.key) (instructions w t r c is)
  | c, [], _ => by
    rw [instructions]
    exact gives_pure (keyedUnder_nil _)
  | c, i :: is, h => by
    rw [everyOf, Bool.and_eq_true] at h
    rw [instructions]
    refine (gives_instruction c i h.1).bind fun ns hns => ?_
    exact (gives_instructions c is h.2).bind fun ns' hns' => gives_pure (hns.append hns')

theorem gives_arms : ∀ (c : Context) (first : Bool) (chain : Chain Rendered) (as : List Arm),
    everyIn (makesOwn c.style) as → ChainKeyed c.key chain → Gives (ChainKeyed c.key)
    (arms w t r c first chain as)
  | c, first, chain, [], _, hchain => by
    rw [arms]
    exact gives_pure hchain
  | c, first, chain, .mk slot children watch :: as, h, hchain => by
    rw [everyIn, Bool.and_eq_true] at h
    have hchildren := gives_instructions c children h.1
    rw [arms]
    refine (gives_arm hchain first slot (gives_bind fun _ => hchildren)).bind fun chain' hchain' =>
      ?_
    exact gives_arms c false chain' as h.2 hchain'
end

end Render

end Trellis
