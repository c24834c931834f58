/-
What chains of conditions mean.

A chain takes its arms one call at a time, and keeps in flags what the calls before found out.  Run
as a whole, with the calls in order, it is a recursion over the arms: `Chain.choose` for the
standard controller, the `if`, `else if`, `else` of programs, and `Chain.cover` for the watching
one, which goes over to `Chain.every` at the first test that is undecided.  Both hold in every
monad, so tests and bodies may do anything.

With tests and bodies whose outcomes are given, `Chain.account` says which tests were evaluated and
which bodies ran.  Whatever the undecided tests stand for, the watching controller runs the arm that
the standard one would.
-/
import Mathlib.Data.List.Forall2
import Mathlib.Tactic.Common
import Trellis.Chain

namespace Trellis.Chain

/-- An arm of a chain: its test, which the arm of last resort does not have, and its body. -/
structure Arm (m : Type → Type) (α : Type) where
  test : Option (m (Except Fault Value))
  body : m (Except Fault (List α))

namespace Arm

variable {m : Type → Type} {α : Type}

def isTested (a : Arm m α) : Bool := a.test.isSome

/-- What the test of an arm comes to; an arm without a test counts as true. -/
def outcome [Monad m] (a : Arm m α) : m (Except Fault Value) :=
  match a.test with
  | some test => test
  | none => pure (.ok (.bool true))

end Arm

/-- The first arm has a test, and only the last may have none. -/
def ordered {m : Type → Type} {α : Type} (as : List (Arm m α)) : Bool :=
  as.head?.any Arm.isTested && as.dropLast.all Arm.isTested

/-- Whether it is open what a test would have come to. -/
def isUndecided : Except Fault Value → Bool
  | .error _ => true
  | .ok v => v.isUnreachable

section

variable {m : Type → Type} [Monad m] {α : Type}

/-! ### Running a chain -/

/-- The call for an arm. -/
def call (c : Chain α) (first : Bool) (a : Arm m α) : m (Outcome α) :=
  match first, a.test with
  | true, test => c.«if» test a.body
  | false, none => c.«else» a.body
  | false, some test => c.elif (some test) a.body

/-- The calls for arms, up to the first that fails. -/
def calls (c : Chain α) (first : Bool) : List (Arm m α) → m (Outcome α)
  | [] => return (c, none)
  | a :: as => do
    match ← c.call first a with
    | (c, some f) => return (c, some f)
    | (c, none) => calls c false as

/-- What comes of a chain after its calls. -/
def finish (default : List α) : Outcome α → Except Fault (List α)
  | (_, some f) => .error f
  | (c, none) => (c.fi default).2

/-- Runs a chain from `if` to `fi`. -/
def run (controller : Controller) (default : List α) (as : List (Arm m α)) :
    m (Except Fault (List α)) :=
  finish default <$> calls { controller } true as

/-! ### What it is to mean -/

/-- Runs the first arm whose test is true, or nothing if a test fails before that. -/
def choose (default : List α) : List (Arm m α) → m (Except Fault (List α))
  | [] => return .ok default
  | a :: as => do
    match ← a.outcome with
    | .error f => return .error f
    | .ok v => if v.truthy then a.body else choose default as

/-- Goes on with what a body made. -/
def andThen (body : m (Except Fault (List α))) (next : List α → m (Except Fault (List α))) :
    m (Except Fault (List α)) :=
  body >>= fun made => match made with
    | .error f => pure (.error f)
    | .ok nodes => next nodes

/-- Runs all arms, whatever their tests come to, and puts together what they make. -/
def every (made : List α) : List (Arm m α) → m (Except Fault (List α))
  | [] => return .ok made
  | a :: as => do
    let _ ← a.outcome
    andThen a.body fun nodes => every (made ++ nodes) as

/-- Runs the first arm whose test is true, or all arms from the first on whose test is undecided. -/
def cover (default : List α) : List (Arm m α) → m (Except Fault (List α))
  | [] => return .ok default
  | a :: as => do
    match ← a.outcome with
    | .error _ => andThen a.body fun nodes => every nodes as
    | .ok v =>
      if v.isUnreachable then andThen a.body fun nodes => every nodes as
      else if v.truthy then a.body
      else cover default as

/-! ### The order of the calls -/

/-- At a stage, a chain takes the calls for the arms that are still to come. -/
def Stage.Takes (first : Bool) (as : List (Arm m α)) : Stage → Prop
  | .new => first = true ∧ ordered as
  | .opened => first = false ∧ as.dropLast.all Arm.isTested
  | .last => as = []
  | .closed => False

omit [Monad m] in
/-- Whether arms are in order depends on nothing but which of them have tests. -/
lemma ordered_of_map {β : Type} {p : β → Bool} {as : List (Arm m α)} {bs : List β}
    (h : as.map Arm.isTested = bs.map p) : ordered as = (bs.head?.any p && bs.dropLast.all p) := by
  have hhead := congrArg (fun cs => cs.head?.any id) h
  have hinit := congrArg (fun cs => cs.dropLast.all id) h
  simp only [List.head?_map, Option.any_map, ← List.map_dropLast, List.all_map, Function.id_comp,
    id_eq] at hhead hinit
  rw [ordered, hhead, hinit]

omit [Monad m] in
lemma nil_of_untested {a : Arm m α} {as : List (Arm m α)} (h : (a :: as).dropLast.all Arm.isTested)
    (htest : a.test = none) : as = [] := by
  cases as with
  | nil => rfl
  | cons b as => simp [Arm.isTested, htest] at h

omit [Monad m] in
lemma tail_tested {a : Arm m α} {as : List (Arm m α)} (h : (a :: as).dropLast.all Arm.isTested) :
    as.dropLast.all Arm.isTested := by
  cases as with
  | nil => rfl
  | cons b as => simp_all

/-- A call in order runs its arm, and the calls to come are still in order. -/
lemma call_takes {c : Chain α} {first : Bool} {a : Arm m α} {as : List (Arm m α)}
    (h : c.stage.Takes first (a :: as)) :
    ∃ stage : Stage, c.call first a = Chain.arm { c with stage } a.test a.body ∧
    stage.Takes false as := by
  obtain ⟨test, body⟩ := a
  obtain ⟨controller, stage, fired, undecided, output⟩ := c
  cases stage with
  | new =>
    obtain ⟨rfl, hordered⟩ := h
    obtain ⟨-, htested⟩ := Bool.and_eq_true_iff.1 hordered
    exact ⟨.opened, rfl, rfl, tail_tested htested⟩
  | opened =>
    obtain ⟨rfl, htested⟩ := h
    cases test with
    | none => exact ⟨.last, rfl, nil_of_untested htested rfl⟩
    | some test => exact ⟨.opened, rfl, rfl, tail_tested htested⟩
  | last => cases h
  | closed => cases h

omit [Monad m] in
lemma finish_takes {c : Chain α} {first : Bool} (h : c.stage.Takes first ([] : List (Arm m α)))
    (default : List α) : finish default (c, none) = .ok (if c.fired then c.output
    else default) := by
  obtain ⟨controller, stage, fired, undecided, output⟩ := c
  cases stage with
  | new => exact absurd h.2 (by simp [ordered])
  | opened => rfl
  | last => rfl
  | closed => cases h

/-! ### What one arm does

There are three kinds of chain: one that waits for an arm that runs, one that is settled because an
arm ran, and one in which every arm runs because a test was undecided. -/

/-- Runs the body of an arm. -/
def enter (c : Chain α) (body : m (Except Fault (List α))) : m (Outcome α) :=
  body >>= fun made => match made with
    | .ok nodes => pure ({ c with output := c.output ++ nodes }, none)
    | .error f => pure (c, some f)

variable [LawfulMonad m]

/-- A settled chain evaluates nothing and runs nothing. -/
lemma arm_settled (controller : Controller) (stage : Stage) (output : List α) (a : Arm m α) :
    Chain.arm ⟨controller, stage, true, false, output⟩ a.test a.body =
      pure (⟨controller, stage, true, false, output⟩, none) := by
  obtain ⟨test, body⟩ := a
  cases test with
  | some test => simp [arm]
  | none => cases controller <;> simp [arm, Controller.decide, Except.map, Value.isUnreachable]

omit [LawfulMonad m] in
/-- A chain that is not settled evaluates the test and asks the controller. -/
lemma arm_unsettled {c : Chain α} (h : (c.fired && !c.undecided) = false) (a : Arm m α) :
    c.arm a.test a.body = a.outcome >>= fun value =>
      match c.controller.decide value c.fired c.undecided with
      | .error f => pure (c, some f)
      | .ok (true, undecided) => enter { c with undecided, fired := true } a.body
      | .ok (false, undecided) => pure ({ c with undecided }, none) := by
  obtain ⟨test, body⟩ := a
  have hguard : (test.isSome && c.fired && !c.undecided) = false := by
    rw [Bool.and_assoc, h, Bool.and_false]
  simp only [arm, hguard, Bool.false_eq_true, if_false]
  cases test with
  | some test =>
    refine bind_congr fun value => ?_
    rcases c.controller.decide value c.fired c.undecided with f | ⟨runs, undecided⟩
    · rfl
    · cases runs <;> rfl
  | none =>
    refine bind_congr fun value => ?_
    rcases c.controller.decide value c.fired c.undecided with f | ⟨runs, undecided⟩
    · rfl
    · cases runs <;> rfl

/-! ### Whole chains -/

/-- The calls for arms, taken apart at the first. -/
lemma finish_calls_cons (default : List α) {controller : Controller} {stage : Stage}
    {fired undecided : Bool} {output : List α} {first : Bool} {a : Arm m α} {as : List (Arm m α)}
    (h : stage.Takes first (a :: as)) :
    ∃ next : Stage, next.Takes false as ∧
      finish default <$> calls ⟨controller, stage, fired, undecided, output⟩ first (a :: as) =
        Chain.arm ⟨controller, next, fired, undecided, output⟩ a.test a.body >>= fun made =>
        match made with
          | (_, some f) => pure (.error f)
          | (c, none) => finish default <$> calls c false as := by
  obtain ⟨next, hcall, htakes⟩ := call_takes (c := ⟨controller, stage, fired, undecided, output⟩) h
  refine ⟨next, htakes, ?_⟩
  rw [calls, hcall, map_bind]
  refine bind_congr fun made => ?_
  obtain ⟨c, f⟩ := made
  cases f <;> simp [finish]

/-- What a body made is put behind what there is, and the calls go on. -/
lemma enter_bind (c : Chain α) (body : m (Except Fault (List α)))
    (next : Chain α → m (Except Fault (List α))) :
    (enter c body >>= fun made => match made with
      | (_, some f) => pure (.error f)
      | (c, none) =>
        next c) = andThen body fun nodes => next { c with output := c.output ++ nodes } := by
  rw [enter, andThen, bind_assoc]
  refine bind_congr fun made => ?_
  cases made <;> simp

lemma andThen_pure (body : m (Except Fault (List α))) : (andThen body fun nodes =>
    pure (.ok nodes)) = body := by
  conv_rhs => rw [← bind_pure body]
  refine bind_congr fun made => ?_
  cases made <;> rfl

/-- Once an arm ran, the rest of the calls does nothing. -/
lemma calls_settled (default : List α) {controller : Controller} {stage : Stage} {first : Bool}
    {as : List (Arm m α)} (h : stage.Takes first as) (output : List α) :
    finish default <$> calls ⟨controller, stage, true, false, output⟩ first as =
    pure (.ok output) := by
  induction as generalizing stage first with
  | nil => rw [calls, map_pure, finish_takes h, if_pos rfl]
  | cons a as ih =>
    obtain ⟨stage, htakes, hcalls⟩ := finish_calls_cons default h
    rw [hcalls, arm_settled, pure_bind]
    exact ih htakes

/-- Once a test was undecided, the rest of the calls runs every arm. -/
lemma calls_undecided (default : List α) {stage : Stage} {first : Bool} {as : List (Arm m α)}
    (h : stage.Takes first as) (output : List α) :
    finish default <$> calls ⟨.watching, stage, true, true, output⟩ first as = every output as := by
  induction as generalizing stage first output with
  | nil => rw [calls, map_pure, finish_takes h, if_pos rfl, every]
  | cons a as ih =>
    obtain ⟨stage, htakes, hcalls⟩ := finish_calls_cons default h
    rw [hcalls, arm_unsettled rfl, every, bind_assoc]
    refine bind_congr fun value => ?_
    refine (enter_bind _ _ _).trans ?_
    congr 1
    funext nodes
    exact ih htakes (output ++ nodes)

/-- Under the standard controller, a chain that waits runs the first arm whose test is true. -/
lemma calls_standard (default : List α) {stage : Stage} {first : Bool} {as : List (Arm m α)}
    (h : stage.Takes first as) :
    finish default <$> calls ⟨.standard, stage, false, false, []⟩ first as = choose default as := by
  induction as generalizing stage first with
  | nil => rw [calls, map_pure, finish_takes h, choose]; rfl
  | cons a as ih =>
    obtain ⟨stage, htakes, hcalls⟩ := finish_calls_cons default h
    rw [hcalls, arm_unsettled rfl, choose, bind_assoc]
    refine bind_congr fun value => ?_
    rcases value with f | v
    · simp [Controller.decide, Except.map]
    · cases hv : v.truthy with
      | true =>
        simp only [Controller.decide, Except.map, hv, Bool.not_false, Bool.and_self, if_true]
        refine (enter_bind _ _ _).trans (Eq.trans ?_ (andThen_pure a.body))
        congr 1
        funext nodes
        exact calls_settled default htakes nodes
      | false =>
        simp only [Controller.decide, Except.map, hv, Bool.and_false, pure_bind]
        exact ih htakes

/-- Under the watching controller, it runs every arm from the first on whose test is undecided. -/
lemma calls_watching (default : List α) {stage : Stage} {first : Bool} {as : List (Arm m α)}
    (h : stage.Takes first as) :
    finish default <$> calls ⟨.watching, stage, false, false, []⟩ first as = cover default as := by
  induction as generalizing stage first with
  | nil => rw [calls, map_pure, finish_takes h, cover]; rfl
  | cons a as ih =>
    obtain ⟨stage, htakes, hcalls⟩ := finish_calls_cons default h
    rw [hcalls, arm_unsettled rfl, cover, bind_assoc]
    refine bind_congr fun value => ?_
    rcases value with f | v
    · refine (enter_bind _ _ _).trans ?_
      congr 1
      funext nodes
      exact calls_undecided default htakes nodes
    · cases hunreachable : v.isUnreachable with
      | true =>
        simp only [Controller.decide, hunreachable]
        refine (enter_bind _ _ _).trans ?_
        congr 1
        funext nodes
        exact calls_undecided default htakes nodes
      | false =>
        cases hv : v.truthy with
        | true =>
          simp only [Controller.decide, hunreachable, hv, if_true]
          refine (enter_bind _ _ _).trans (Eq.trans ?_ (andThen_pure a.body))
          congr 1
          funext nodes
          exact calls_settled default htakes nodes
        | false =>
          simp only [Controller.decide, hunreachable, hv, Bool.and_false, Bool.false_eq_true,
            if_false, pure_bind]
          exact ih htakes

/-- Under the standard controller, a chain is the `if`, `else if`, `else` of programs. -/
theorem run_standard (default : List α) {as : List (Arm m α)} (h : ordered as) :
    run .standard default as = choose default as := calls_standard default ⟨rfl, h⟩

/-- Under the watching controller, it is that up to the first test that is undecided. -/
theorem run_watching (default : List α) {as : List (Arm m α)} (h : ordered as) :
    run .watching default as = cover default as := calls_watching default ⟨rfl, h⟩

end

/-! ### What a run evaluates and runs -/

/-- What a chain does to its arms: it evaluates the test of one, or runs the body of one. -/
inductive Event where
  | tested (i : Nat)
  | ran (i : Nat)
deriving DecidableEq, Repr

/-- An arm whose outcomes are given. -/
structure Trial (α : Type) where
  test : Option (Except Fault Value)
  body : Except Fault (List α)

namespace Trial

variable {α : Type}

def isTested (t : Trial α) : Bool := t.test.isSome

def outcome (t : Trial α) : Except Fault Value := t.test.getD (.ok (.bool true))

/-- The test of the arm is true. -/
def isTaken (t : Trial α) : Bool :=
  match t.outcome with
  | .ok v => v.truthy
  | .error _ => false

/-- The test of the arm is false. -/
def isPassed (t : Trial α) : Bool :=
  match t.outcome with
  | .ok v => !v.truthy
  | .error _ => false

/-- The arm at a position, with an account of what is done to it. -/
def arm (i : Nat) (t : Trial α) : Arm (StateM (List Event)) α where
  test := t.test.map fun value => do
    modify (· ++ [.tested i])
    return value
  body := do
    modify (· ++ [.ran i])
    return t.body

/-- What is done to find out whether the arm at a position runs. -/
def asks (i : Nat) (t : Trial α) : List Event := if t.isTested then [.tested i] else []

/-- An arm after its test was decided: if it failed or could not be evaluated, as any value that can
be. -/
inductive Resolves : Trial α → Trial α → Prop where
  | decided {t : Trial α} (h : isUndecided t.outcome = false) : Resolves t t
  | undecided {found : Except Fault Value} {v : Value} {body : Except Fault (List α)}
      (h : isUndecided found = true) (hv : v.isUnreachable = false) :
      Resolves ⟨some found, body⟩ ⟨some (.ok v), body⟩

end Trial

section

variable {α : Type}

/-- The arms from a position on. -/
def armsFrom (n : Nat) (ts : List (Trial α)) : List (Arm (StateM (List Event)) α) :=
  (ts.zipIdx n).map fun t => t.1.arm t.2

/-- What comes of a chain, and what was done to its arms. -/
def account (controller : Controller) (default : List α) (ts : List (Trial α)) :
    Except Fault (List α) × List Event :=
  (run controller default (armsFrom 0 ts)).run []

/-- The body of an arm before the one at a position failed, and that ended the run. -/
def Broke (n i : Nat) (ts : List (Trial α)) (result : Except Fault (List α) × List Event) : Prop :=
  ∃ k f, n + k < i ∧ ts[k]?.map Trial.body = some (.error f) ∧ result.1 = .error f ∧
    .ran (n + k) ∈ result.2

lemma armsFrom_cons (n : Nat) (t : Trial α) (ts : List (Trial α)) :
    armsFrom n (t :: ts) = t.arm n :: armsFrom (n + 1) ts := rfl

lemma map_isTested_armsFrom (n : Nat) (ts : List (Trial α)) :
    (armsFrom n ts).map Arm.isTested = ts.map Trial.isTested := by
  induction ts generalizing n with
  | nil => rfl
  | cons t ts ih =>
    rw [armsFrom_cons, List.map_cons, List.map_cons, ih]
    simp [Arm.isTested, Trial.arm, Trial.isTested]

lemma ordered_armsFrom (n : Nat) (ts : List (Trial α)) :
    ordered (armsFrom n ts) = (ts.head?.any Trial.isTested && ts.dropLast.all Trial.isTested) :=
  ordered_of_map (map_isTested_armsFrom n ts)

lemma Trial.Resolves.isTested {t t' : Trial α} (h : t.Resolves t') : t.isTested = t'.isTested := by
  cases h <;> rfl

/-- Deciding tests leaves the order of the arms as it is. -/
lemma ordered_resolved {ts ts' : List (Trial α)} (h : List.Forall₂ Trial.Resolves ts ts')
    (n : Nat) :
    ordered (armsFrom n ts') = ordered (armsFrom n ts) := by
  rw [ordered_armsFrom]
  refine (ordered_of_map ?_).symm
  rw [map_isTested_armsFrom]
  induction h with
  | nil => rfl
  | cons ht _ ih => rw [List.map_cons, List.map_cons, ht.isTested, ih]

lemma run_outcome (t : Trial α) (n : Nat) (log : List Event) :
    (t.arm n).outcome.run log = (t.outcome, log ++ t.asks n) := by
  obtain ⟨test, body⟩ := t
  cases test with
  | none => simp [Arm.outcome, Trial.arm, Trial.outcome, Trial.asks, Trial.isTested]; rfl
  | some found => rfl

lemma run_choose_cons (default : List α) (n : Nat) (t : Trial α) (ts : List (Trial α))
    (log : List Event) :
    (choose default (armsFrom n (t :: ts))).run log = match t.outcome with
      | .error f => (.error f, log ++ t.asks n)
      | .ok v =>
        if v.truthy then (t.body, log ++ t.asks n ++ [Event.ran n])
        else (choose default (armsFrom (n + 1) ts)).run (log ++ t.asks n) := by
  rw [armsFrom_cons, choose, StateT.run_bind, run_outcome]
  rcases t.outcome with f | v
  · rfl
  · change StateT.run (if v.truthy then (t.arm n).body else _) _ = if v.truthy then _ else _
    cases v.truthy <;> rfl

lemma run_every_cons (made : List α) (n : Nat) (t : Trial α) (ts : List (Trial α))
    (log : List Event) :
    (every made (armsFrom n (t :: ts))).run log = match t.body with
      | .error f => (.error f, log ++ t.asks n ++ [Event.ran n])
      | .ok nodes =>
        (every (made ++ nodes) (armsFrom (n + 1) ts)).run (log ++ t.asks n ++ [Event.ran n]) := by
  rw [armsFrom_cons, every, StateT.run_bind, run_outcome]
  obtain ⟨test, body⟩ := t
  cases body <;> rfl

/-- At an arm whose test is undecided, the watching controller goes over to running every arm. -/
lemma run_cover_cons (default : List α) (n : Nat) (t : Trial α) (ts : List (Trial α))
    (log : List Event) :
    (cover default (armsFrom n (t :: ts))).run log =
      if isUndecided t.outcome then (every [] (armsFrom n (t :: ts))).run log
      else if t.isTaken then (t.body, log ++ t.asks n ++ [Event.ran n])
      else (cover default (armsFrom (n + 1) ts)).run (log ++ t.asks n) := by
  rw [run_every_cons, armsFrom_cons, cover, StateT.run_bind, run_outcome, Trial.isTaken]
  obtain ⟨test, body⟩ := t
  rcases Trial.outcome ⟨test, body⟩ with f | v
  · cases body <;> rfl
  · change StateT.run (if v.isUnreachable then _ else if v.truthy then _ else _) _ =
      if v.isUnreachable then _ else if v.truthy then _ else _
    cases v.isUnreachable with
    | true => cases body <;> rfl
    | false => cases v.truthy <;> rfl

/-! ### The standard controller -/

/-- A test is false, or true, or it failed. -/
lemma Trial.passed_or (t : Trial α) : t.isPassed ∨ t.isTaken ∨ ∃ f, t.outcome = .error f := by
  simp only [Trial.isPassed, Trial.isTaken]
  cases t.outcome with
  | error f => exact .inr (.inr ⟨f, rfl⟩)
  | ok v => cases v.truthy <;> simp

lemma Trial.not_isTaken_of_isPassed {t : Trial α} (h : t.isPassed) : t.isTaken = false := by
  simp only [Trial.isPassed, Trial.isTaken] at *
  cases hout : t.outcome <;> simp_all

/-- An arm that is passed has a test. -/
lemma Trial.asks_of_isPassed {t : Trial α} (h : t.isPassed) (n : Nat) : t.asks n = [.tested n] := by
  obtain ⟨test, body⟩ := t
  cases test with
  | none => cases h
  | some found => rfl

lemma run_choose_passed (default : List α) {t : Trial α} (h : t.isPassed) (n : Nat)
    (ts : List (Trial α)) (log : List Event) :
    (choose default (armsFrom n (t :: ts))).run log =
      (choose default (armsFrom (n + 1) ts)).run (log ++ [Event.tested n]) := by
  rw [run_choose_cons, Trial.asks_of_isPassed h]
  rw [Trial.isPassed] at h
  cases hout : t.outcome <;> simp_all

lemma run_choose_taken (default : List α) {t : Trial α} (h : t.isTaken) (n : Nat)
    (ts : List (Trial α)) (log : List Event) :
    (choose default (armsFrom n (t :: ts))).run log =
    (t.body, log ++ t.asks n ++ [Event.ran n]) := by
  rw [run_choose_cons]
  rw [Trial.isTaken] at h
  cases hout : t.outcome <;> simp_all

lemma run_choose_append (default : List α) {before : List (Trial α)} (h : before.all Trial.isPassed)
    (n : Nat) (ts : List (Trial α)) (log : List Event) :
    (choose default (armsFrom n (before ++ ts))).run log =
      (choose default (armsFrom (n + before.length) ts)).run
        (log ++ (List.range' n before.length).map .tested) := by
  induction before generalizing n log with
  | nil => simp
  | cons t before ih =>
    obtain ⟨ht, hbefore⟩ : t.isPassed ∧ before.all Trial.isPassed := by simpa using h
    rw [List.cons_append, run_choose_passed default ht, ih hbefore, List.length_cons,
      List.range'_succ,
      List.map_cons, List.append_assoc, Nat.add_right_comm, Nat.add_assoc]
    rfl

/-- Only the body of one of the arms is run. -/
lemma ran_choose (default : List α) {i n : Nat} {ts : List (Trial α)} {log : List Event}
    (h : Event.ran i ∈ ((choose default (armsFrom n ts)).run log).2) (hlog : Event.ran i ∉ log) :
    n ≤ i ∧ i < n + ts.length := by
  induction ts generalizing n log with
  | nil => exact absurd h hlog
  | cons t ts ih =>
    have hasks : Event.ran i ∉ log ++ t.asks n := by
      rw [Trial.asks]
      split <;> simp [hlog]
    rw [List.length_cons]
    rcases t.passed_or with ht | ht | ⟨f, ht⟩
    · rw [run_choose_passed default ht] at h
      have := ih h (by simp [hlog])
      omega
    · rw [run_choose_taken default ht, List.mem_append] at h
      obtain rfl : i = n := by simpa [hasks] using h
      omega
    · rw [run_choose_cons, ht] at h
      exact absurd h hasks

/-! ### The watching controller -/

lemma Broke.cons {n i : Nat} {t : Trial α} {ts : List (Trial α)}
    {result : Except Fault (List α) × List Event}
    (h : Broke (n + 1) i ts result) : Broke n i (t :: ts) result := by
  obtain ⟨k, f, hk, hbody, hresult, hran⟩ := h
  rw [Nat.add_right_comm, Nat.add_assoc] at hk hran
  exact ⟨k + 1, f, hk, hbody, hresult, hran⟩

/-- What was done stays done. -/
lemma mem_every {e : Event} {made : List α} {n : Nat} {ts : List (Trial α)} {log : List Event}
    (h : e ∈ log) :
    e ∈ ((every made (armsFrom n ts)).run log).2 := by
  induction ts generalizing made n log with
  | nil => exact h
  | cons t ts ih =>
    rw [run_every_cons]
    cases t.body with
    | error f => simp [h]
    | ok nodes => exact ih (by simp [h])

/-- Every arm runs, up to one whose body fails. -/
lemma ran_every {i n : Nat} {ts : List (Trial α)} (hle : n ≤ i) (hlt : i < n + ts.length)
    (made : List α) (log : List Event) :
    .ran i ∈ ((every made (armsFrom n ts)).run log).2 ∨
    Broke n i ts ((every made (armsFrom n ts)).run log) := by
  induction ts generalizing made n log with
  | nil => simp at hlt; omega
  | cons t ts ih =>
    rw [List.length_cons] at hlt
    rw [run_every_cons]
    rcases Nat.eq_or_lt_of_le hle with rfl | hafter
    · left
      cases t.body with
      | error f => simp
      | ok nodes => exact mem_every (by simp)
    · cases hbody : t.body with
      | error f => exact .inr ⟨0, f, hafter, by simp [hbody], rfl, by simp⟩
      | ok nodes => exact (ih hafter (by omega) _ _).imp_right Broke.cons

/-- Whatever the undecided tests stand for, the arm that is chosen is covered. -/
lemma ran_cover (default : List α) {ts ts' : List (Trial α)}
    (h : List.Forall₂ Trial.Resolves ts ts') {i n : Nat}
    {log log' : List Event} (hran : .ran i ∈ ((choose default (armsFrom n ts')).run log').2)
    (hlog : .ran i ∉ log') :
    .ran i ∈ ((cover default (armsFrom n ts)).run log).2 ∨
      Broke n i ts ((cover default (armsFrom n ts)).run log) := by
  induction h generalizing n log log' with
  | nil => exact absurd hran hlog
  | @cons t t' ts ts' ht hrest ih =>
    rw [run_cover_cons]
    by_cases hdecided : isUndecided t.outcome
    · rw [if_pos hdecided]
      obtain ⟨hle, hlt⟩ := ran_choose default hran hlog
      refine ran_every hle ?_ _ _
      simpa [hrest.length_eq] using hlt
    · rw [if_neg hdecided]
      -- a decided test is the same for both controllers
      obtain rfl : t' = t := by
        cases ht with
        | decided => rfl
        | undecided hfound => exact absurd hfound hdecided
      have hasks : .ran i ∉ log' ++ t'.asks n := by
        rw [Trial.asks]
        split <;> simp [hlog]
      rcases t'.passed_or with hpassed | htaken | ⟨f, hfailed⟩
      · rw [run_choose_passed default hpassed] at hran
        rw [if_neg (by simp [Trial.not_isTaken_of_isPassed hpassed])]
        exact (ih hran (by simp [hlog])).imp_right Broke.cons
      · rw [run_choose_taken default htaken, List.mem_append] at hran
        obtain rfl : i = n := by simpa [hasks] using hran
        simp [htaken]
      · exact absurd (by rw [hfailed]; rfl) hdecided

/-- Where every test is decided, the watching controller runs what the standard one runs. -/
lemma run_cover_decided (default : List α) {ts : List (Trial α)}
    (h : ∀ t ∈ ts, isUndecided t.outcome = false) (n : Nat) (log : List Event) :
    (cover default (armsFrom n ts)).run log = (choose default (armsFrom n ts)).run log := by
  induction ts generalizing n log with
  | nil => rfl
  | cons t ts ih =>
    obtain ⟨ht, hts⟩ := List.forall_mem_cons.1 h
    rw [run_cover_cons, ht, if_neg Bool.false_ne_true]
    rcases t.passed_or with hpassed | htaken | ⟨f, hfailed⟩
    · rw [run_choose_passed default hpassed, Trial.asks_of_isPassed hpassed,
        if_neg (by simp [Trial.not_isTaken_of_isPassed hpassed])]
      exact ih hts (n + 1) _
    · rw [run_choose_taken default htaken, if_pos htaken]
    · rw [hfailed] at ht
      cases ht

/-- A chain of conditions, its first arm with a test and only its last perhaps without one.

Under the standard controller, the body of the first arm whose test is true runs, and no other; the
tests up to that one are evaluated, and none after it.  A test that fails before that ends the run
with its fault.

Under the watching controller, whatever values the tests stand for that failed or could not be
evaluated, the arm runs whose body the standard controller would then run, unless the body of an arm
before it fails.  Where no test failed or could not be evaluated, the two do the same. -/
theorem account_controllers (default : List α) {ts : List (Trial α)}
    (hfirst : ts.head?.any Trial.isTested) (hlast : ts.dropLast.all Trial.isTested) :
    (∀ before t after, ts = before ++ t :: after → before.all Trial.isPassed → t.isTaken →
      account .standard default ts =
        (t.body, (List.range before.length).map .tested ++ t.asks before.length ++
        [.ran before.length])) ∧
    (∀ before body after f, ts = before ++ ⟨some (.error f), body⟩ :: after →
    before.all Trial.isPassed →
      account .standard default ts = (.error f, (List.range (before.length + 1)).map .tested)) ∧
    (ts.all Trial.isPassed →
      account .standard default ts = (.ok default, (List.range ts.length).map .tested)) ∧
    (∀ ts' i, List.Forall₂ Trial.Resolves ts ts' → .ran i ∈ (account .standard default ts').2 →
      .ran i ∈ (account .watching default ts).2 ∨ Broke 0 i ts (account .watching default ts)) ∧
    ((∀ t ∈ ts, isUndecided t.outcome = false) →
      account .watching default ts = account .standard default ts) := by
  have hordered : ordered (armsFrom 0 ts) := by rw [ordered_armsFrom, hfirst, hlast]; rfl
  have hstandard : account .standard default ts = (choose default (armsFrom 0 ts)).run [] := by
    rw [account, run_standard default hordered]
  have hwatching : account .watching default ts = (cover default (armsFrom 0 ts)).run [] := by
    rw [account, run_watching default hordered]
  refine ⟨?_, ?_, ?_, ?_, ?_⟩
  · rintro before t after rfl hbefore ht
    rw [hstandard, run_choose_append default hbefore, run_choose_taken default ht]
    simp [List.range_eq_range']
  · rintro before body after f rfl hbefore
    rw [hstandard, run_choose_append default hbefore, run_choose_cons]
    simp [List.range_eq_range', List.range'_concat, Trial.outcome, Trial.asks, Trial.isTested]
  · intro hall
    rw [hstandard]
    have hrun := run_choose_append default hall 0 [] []
    rw [List.append_nil] at hrun
    rw [hrun, List.range_eq_range']
    rfl
  · intro ts' i hresolves hran
    rw [account, run_standard default ((ordered_resolved hresolves 0).trans hordered)] at hran
    rw [hwatching]
    exact ran_cover default hresolves hran List.not_mem_nil
  · intro hdecided
    rw [hwatching, hstandard, run_cover_decided default hdecided]

/-- A chain whose first test fails and whose second is true: the standard controller would run the
second arm if the first test were false, and so does the watching one. -/
theorem account_controllers_failed :
    let ts : List (Trial Nat) :=
      [⟨some (.error (misplaced "x")), .ok [1]⟩, ⟨some (.ok (.bool true)), .ok [2]⟩,
        ⟨none, .ok [3]⟩]
    let ts' : List (Trial Nat) :=
      [⟨some (.ok (.bool false)), .ok [1]⟩, ⟨some (.ok (.bool true)), .ok [2]⟩, ⟨none, .ok [3]⟩]
    account .standard [] ts = (.error (misplaced "x"), [.tested 0]) ∧
    account .standard [] ts' = (.ok [2], [.tested 0, .tested 1, .ran 1]) ∧
    (.ran 1 ∈ (account .watching [] ts).2 ∨ Broke 0 1 ts (account .watching [] ts)) := by
  intro ts ts'
  obtain ⟨-, hfailed, -, hcovers, -⟩ := @account_controllers Nat [] ts rfl rfl
  obtain ⟨htaken, -⟩ := @account_controllers Nat [] ts' rfl rfl
  have hrun := htaken [⟨some (.ok (.bool false)), .ok [1]⟩] _ _ rfl rfl rfl
  refine ⟨hfailed [] _ _ _ rfl rfl, hrun, hcovers ts' 1 ?_ ?_⟩
  · exact .cons (.undecided rfl rfl) (.cons (.decided rfl) (.cons (.decided rfl) .nil))
  · rw [hrun]
    decide

/-- Once a test is undecided, every arm runs. -/
example :
    account .watching [] [⟨some (.ok .unreachable), .ok [1]⟩, ⟨some (.ok (.bool false)), .ok [2]⟩,
    ⟨none, .ok [3]⟩] =
      (.ok [1, 2, 3], [.tested 0, .ran 0, .tested 1, .ran 1, .ran 2]) := rfl

end

end Trellis.Chain
