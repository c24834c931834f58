/-
Loops: those with three clauses when they render, and all loops while watching.

`Render.Turns` are the steps of a loop as they are meant: the test holds, the body is rendered in a
context whose key ends in the number of the step, and the last clause is evaluated.  A loop of fewer
than `Render.loopLimit` steps after which the test does not hold puts together what its steps made,
and one that makes that many steps fails (`Render.loop_turns`).

The limit is looked at before the test.  So a loop that makes exactly as many steps as the limit
allows, and would then stop, fails too (`Render.Cursor.loop_turns_refused`).
-/
import Trellis.Proofs.Render.Keys
import Trellis.Proofs.Render.Pervasive

namespace Trellis

open Run

namespace Render

open Description Rendered

/-! ### Steps -/

/-- The context of a loop, in which its variables are undefined. -/
def loopContext (c : Context) (names : List String) : Run Context := do
  let loop ← c.nested ""
  for name in names do
    Scope.define loop.scope name .undefined
  return loop

section

variable (t : Template) (r : Renderer)

/-- Steps of a loop from step `k` on, where nothing fails and the test holds before each of them:
from memory `m` on they make `made`, one entry for each step, and leave `m'` behind. -/
inductive Turns (loop : Context) (test update : Option Nat) (body : Context → Run (List Rendered)) :
    Nat → Memory → List (List Rendered) → Memory → Prop where
  | none (k : Nat) (m : Memory) : Turns loop test update body k m [] m
  | turn {k : Nat} {m m₁ m₂ m₃ m₄ m' : Memory} {v u : Value} {inner : Context}
      {nodes : List Rendered}
    {made : List (List Rendered)} :
    (clause t r loop test).on m = (.ok v, m₁) → v.truthy →
    (loop.nested (Text.natText k)).on m₁ = (.ok inner, m₂) →
    (body inner).on m₂ = (.ok nodes, m₃) →
    (clause t r loop update).on m₃ = (.ok u, m₄) →
    Turns loop test update body (k + 1) m₄ made m' →
      Turns loop test update body k m (nodes :: made) m'

/-- The fault of a loop that makes too many steps. -/
def endless : Fault :=
  Chain.misplaced ("for loop exceeded " ++ Text.natText loopLimit ++ " iterations")

end

section

variable {w : Workshop} {t : Template} {r : Renderer} {c loop : Context} {names : List String}
  {init test update : Option Nat} {body : Context → Run (List Rendered)} {m m₀ m₁ m₂ m₃ m' : Memory}
  {u v : Value} {made : List (List Rendered)} {k : Nat}

lemma contain_on {α : Type} {instead x : α} {work : Run α} (h : work.on m = (.ok x, m'))
    (c : Context) :
    (contain t c instead work).on m = (.ok x, m') := by
  rw [contain, Context.contain, on_tryCatch, h]

lemma clause_truthy (h : (clause t r loop test).on m = (.ok v, m')) :
    (do return (← clause t r loop test).truthy : Run Bool).on m = (.ok v.truthy, m') := by
  rw [on_bind h]
  rfl

lemma clause_done (h : (clause t r loop update).on m = (.ok u, m')) :
    (do let _ ← clause t r loop update; return true : Run Bool).on m = (.ok true, m') := by
  rw [on_bind h]
  rfl

/-- What the loop does from a step on: its clauses as they are evaluated outside of watching. -/
def stepsOf (t : Template) (r : Renderer) (c loop : Context) (test update : Option Nat)
    (body : Context → Run (List Rendered)) : Nat → Nat → List (List Rendered) →
    Run (List (List Rendered)) :=
  steps t c loop (do return (← clause t r loop test).truthy)
    (do let _ ← clause t r loop update; return true) body

section

variable (hc : c.watching = false)

include hc

lemma tryTest_on (h : (clause t r loop test).on m = (.ok v, m')) :
    (steps.tryTest t c (do return (← clause t r loop test).truthy)).on m = (.ok v.truthy, m') := by
  rw [steps.tryTest, if_neg (by rw [hc]; exact Bool.false_ne_true)]
  exact contain_on (clause_truthy h) c

/-- One step: the loop goes on with what comes after it. -/
lemma stepsOf_turn {m₄ : Memory} {inner : Context} {nodes : List Rendered}
    (done : List (List Rendered)) (left : Nat)
    (htest : (clause t r loop test).on m = (.ok v, m₁)) (hv : v.truthy)
    (hinner : (loop.nested (Text.natText k)).on m₁ = (.ok inner, m₂))
    (hbody : (body inner).on m₂ = (.ok nodes, m₃))
    (hupdate : (clause t r loop update).on m₃ = (.ok u, m₄)) :
    (stepsOf t r c loop test update body (left + 1) k done).on m =
      (stepsOf t r c loop test update body left (k + 1) (nodes :: done)).on m₄ := by
  have hmore : (steps.tryUpdate t c (do let _ ← clause t r loop update; return true)).on m₃ =
    (.ok true, m₄) :=
    contain_on (clause_done hupdate) c
  rw [stepsOf, steps, on_bind (tryTest_on hc htest), hv]
  simp only [Bool.not_true, Bool.false_eq_true, if_false, hc]
  rw [on_bind hinner, on_bind hbody, on_bind hmore]
  rfl

/-- All steps that are made, by induction on them. -/
lemma stepsOf_turns (h : Turns t r loop test update body k m made m') (left : Nat)
    (done : List (List Rendered)) :
    (stepsOf t r c loop test update body (made.length + left) k done).on m =
      (stepsOf t r c loop test update body left (k + made.length) (made.reverse ++ done)).on
      m' := by
  induction h generalizing done with
  | none k m => rw [List.length_nil, Nat.zero_add, Nat.add_zero, List.reverse_nil, List.nil_append]
  | @turn k m m₁ m₂ m₃ m₄ m' v u inner nodes made htest hv hinner hbody hupdate hrest ih =>
    have hleft : (nodes :: made).length + left = made.length + left + 1 := by
      rw [List.length_cons]
      omega
    have hnext : k + (nodes :: made).length = k + 1 + made.length := by
      rw [List.length_cons]
      omega
    rw [hleft, stepsOf_turn hc done _ htest hv hinner hbody hupdate, ih, hnext, List.reverse_cons,
      List.append_assoc,
      List.singleton_append]

/-- Where the test does not hold the loop ends. -/
lemma stepsOf_stop (done : List (List Rendered)) (left : Nat)
    (htest : (clause t r loop test).on m = (.ok v, m'))
    (hv : v.truthy = false) : (stepsOf t r c loop test update body (left + 1) k done).on m =
    (.ok done, m') := by
  rw [stepsOf, steps, on_bind (tryTest_on hc htest), hv]
  rfl

/-- What a loop comes to is what its steps come to. -/
lemma loop_on (hloop : (loopContext c names).on m = (.ok loop, m₀))
    (hinit : (clause t r loop init).on m₀ = (.ok u, m₁)) :
    (Render.loop t r c names init test update body).on m =
      (do return loopNodes (← stepsOf t r c loop test update body loopLimit 0 [])).on m₁ := by
  have hstart : (contain t c false (do let _ ← clause t r loop init; return true)).on m₀ =
    (.ok true, m₁) :=
    contain_on (clause_done hinit) c
  have hsplit : Render.loop t r c names init test update body = loopContext c names >>=
      fun inner => do
      if ← contain t c false (do let _ ← clause t r inner init; return true) then
        return loopNodes (← stepsOf t r c inner test update body loopLimit 0 [])
      else return loopNodes [] := by
    simp only [Render.loop, loopContext, stepsOf, hc, Bool.false_eq_true, if_false, Bool.false_and,
      bind_assoc,
      pure_bind]
  rw [hsplit, on_bind hloop, on_bind hstart]
  rfl

end

/-- The context of a loop is that around it, but for its scope. -/
lemma gives_loopContext (c : Context) (names : List String) : Gives (c.Within "")
    (loopContext c names) :=
  (c.gives_nested "").bind fun _ hloop => gives_bind fun _ => gives_pure hloop

/-- Bodies that do the same in the contexts of the steps make the same steps. -/
lemma Turns.congr {body' : Context → Run (List Rendered)}
    (h : Turns t r loop test update body k m made m')
    (hbody : ∀ inner : Context, inner.watching = loop.watching → body inner = body' inner) :
    Turns t r loop test update body' k m made m' := by
  induction h with
  | none k m => exact .none k m
  | turn htest hv hinner hnodes hupdate _ ih =>
    rw [hbody _ (loop.gives_nested _ _ _ _ hinner).watching] at hnodes
    exact .turn htest hv hinner hnodes hupdate ih

/-- Each step of a loop makes its nodes under a key of its own. -/
lemma Turns.keyed {children : List Instruction} (hchildren : everyOf (makesOwn loop.style) children)
    (h : Turns t r loop test update (instructions w t r · children) k m made m') (i : Nat)
    (nodes : List Rendered) (hnodes : made[i]? = some nodes) :
    KeyedUnder (loop.spawn (Text.natText (k + i))).key nodes := by
  induction h generalizing i with
  | none k m => cases hnodes
  | @turn k _ _ _ _ _ _ _ _ inner _ _ _ _ hinner hbody _ _ ih =>
    obtain ⟨hkey, hstyle, -⟩ := loop.gives_nested _ _ _ _ hinner
    cases i with
    | zero =>
      cases hnodes
      exact hkey ▸ gives_instructions inner children (hstyle ▸ hchildren) _ _ _ hbody
    | succ i =>
      rw [← Nat.add_assoc, Nat.add_right_comm]
      exact ih i hnodes

lemma natText_isEmpty (n : Nat) : (Text.natText n).isEmpty = false := by
  rw [Text.natText, String.isEmpty_eq_false_iff, ne_eq, String.ofList_eq_empty_iff]
  exact Nat.toDigits_ne_nil

section

variable {key : String} {children : List Instruction} {watch : Option Nat} (hc : c.watching = false)
  (hloop : (loopContext c names).on m = (.ok loop, m₀))
  (hinit : (clause t r loop init).on m₀ = (.ok u, m₁))
  (hturns : Turns t r loop test update (instructions w t r · children) 0 m₁ made m₂)

include hc hloop

/-- Outside of watching the body of a loop is its children. -/
lemma Turns.collected (watch : Option Nat)
    (h : Turns t r loop test update (instructions w t r · children) 0 m₁ made m₂) :
    Turns t r loop test update (fun inner => do
      collect t r inner watch
      instructions w t r inner children) 0 m₁ made m₂ := by
  refine h.congr fun inner hinner => ?_
  have hwatching := (gives_loopContext c names _ _ _ hloop).watching
  rw [Tabled.collect_eq_pure (hinner.trans (hwatching.trans hc)), pure_bind]

include hinit hturns

/-- A loop that stops within its limit gives what its steps made. -/
lemma loop_within (hlt : made.length < loopLimit)
    (htest : (clause t r loop test).on m₂ = (.ok v, m₃)) (hv : v.truthy = false) :
    (instruction w t r c (.loop key names init test update children watch)).on m =
      (.ok (made.flatten.map Rendered.inLoop), m₃) := by
  obtain ⟨left, hleft⟩ := Nat.exists_eq_add_of_lt hlt
  have hmade := stepsOf_turns hc (hturns.collected hc hloop watch) (left + 1) []
  rw [stepsOf_stop hc _ _ htest hv] at hmade
  rw [instruction, loop_on hc hloop hinit, hleft, Nat.add_assoc, on_bind hmade, List.append_nil,
    loopNodes,
    List.reverse_reverse]
  rfl

/-- A loop that makes as many steps as the limit fails before the next test. -/
lemma loop_beyond (hlimit : made.length = loopLimit) :
    (instruction w t r c (.loop key names init test update children watch)).on m =
    (.error endless, m₂) := by
  have hmade := stepsOf_turns hc (hturns.collected hc hloop watch) 0 []
  rw [Nat.add_zero, hlimit] at hmade
  rw [instruction, loop_on hc hloop hinit]
  exact on_bind_error hmade _

end

/-- **Loops.** Of a loop outside of watching let the first clause come to a value, and let a number
of steps be made, where neither a clause nor the body fails and the test holds before each of them.

If these are fewer than the limit and the test does not hold after them, then the loop gives the
nodes of all steps, one after the other and marked as made by a loop.  If they are as many as the
limit, then the loop fails, whatever the test would come to.  Where the body makes nodes of its own,
those of a step have keys that start with the key around the loop and the number of the step. -/
theorem loop_turns (w : Workshop) (t : Template) (r : Renderer) {c : Context}
    (hc : c.watching = false) (key : String)
    (names : List String) (init test update : Option Nat) (children : List Instruction)
    (watch : Option Nat)
    {m m₀ m₁ m₂ : Memory} {loop : Context} {u : Value} {made : List (List Rendered)}
    (hloop : (loopContext c names).on m = (.ok loop, m₀))
    (hinit : (clause t r loop init).on m₀ = (.ok u, m₁))
    (hturns : Turns t r loop test update (instructions w t r · children) 0 m₁ made m₂) :
    (∀ v m₃, made.length < loopLimit → (clause t r loop test).on m₂ = (.ok v, m₃) →
    v.truthy = false →
      (instruction w t r c (.loop key names init test update children watch)).on m =
        (.ok (made.flatten.map Rendered.inLoop), m₃)) ∧
    (made.length = loopLimit →
      (instruction w t r c (.loop key names init test update children watch)).on m =
      (.error endless, m₂)) ∧
    (everyOf (makesOwn c.style) children → ∀ i nodes, made[i]? = some nodes →
      KeyedUnder (c.key ++ Text.natText i ++ "_") (nodes.map Rendered.inLoop)) := by
  refine ⟨fun v m₃ hlt htest hv => loop_within hc hloop hinit hturns hlt htest hv,
    loop_beyond hc hloop hinit hturns, ?_⟩
  intro hchildren i nodes hnodes
  have hwithin := gives_loopContext c names _ _ _ hloop
  have hkeyed := hturns.keyed (hwithin.style.symm ▸ hchildren) i nodes hnodes
  rw [Context.spawn, natText_isEmpty, Nat.zero_add] at hkeyed
  exact (hwithin.key ▸ hkeyed).inLoop

end

/-! ### Cursors

A cursor is an object of the host that says, each time it is asked for `next`, whether it has
another row. -/

namespace Cursor

/-- A host with cursors of a number of rows.  A cursor logs a line each time that it is asked, and
so knows how often it was. -/
def host (rows : Nat) : Host where
  objects _ := { get? := some fun _ _ => do
    Memory.logLine "next"
    return some (.bool ((← get).log.size ≤ rows)) }

def renderer (rows : Nat) : Renderer := ({ host := host rows } : Workshop).rendererWith fun _ _ =>
    return []

/-- The expression `this.next`. -/
def next : Expr := .member ⟨1, 1, 1, 10⟩ (.this ⟨1, 1, 1, 5⟩) ⟨1, 6, 1, 10⟩ "next"

/-- A template with one expression, which asks for another row. -/
def template : Template where
  description := {
    module := "Page"
    expressions := #[{
      source := "this.next"
      program := ⟨[.expr ⟨1, 1, 1, 10⟩ next], ⟨1, 1, 1, 10⟩, "this.next"⟩ }] }
  body := 0

/-- What renders a cursor. -/
def context : Context := { scope := 0, self := .host "Cursor" 0 }

/-- A loop that shows a text for each row of a cursor. -/
def page : Instruction := .loop "0_" [] none (some 0) none [.text "0_" [.text "x"]] none

/-- Asking a cursor for another row. -/
lemma clause_next (rows : Nat) {loop : Context} (hself : loop.self = context.self) (m : Memory) :
    (clause template (renderer rows) loop (some 0)).on m =
      (.ok (.bool (m.log.size + 1 ≤ rows)), { m with log := m.log.push "next" }) := by
  have hinner : ∃ v, (Memory.inner 0).on m = (.ok v, m) := by
    rw [Memory.inner, Memory.cell?, bind_assoc, on_bind (on_get m), pure_bind]
    split <;> exact ⟨_, rfl⟩
  obtain ⟨v, hinner⟩ := hinner
  have hread : (Value.property (renderer rows).machine.host (.host "Cursor" 0) "next").on m =
      (.ok (.bool (m.log.size + 1 ≤ rows)), { m with log := m.log.push "next" }) := by
    rw [Value.property.eq_def]
    change (Memory.inner 0 >>= _).on m = _
    rw [on_bind hinner, ← @Array.size_push _ m.log "next"]
    rfl
  have hnext : (Eval.expr (renderer rows).machine (loop.env template.toolkit) next).on m =
      (.ok (.bool (m.log.size + 1 ≤ rows)), { m with log := m.log.push "next" }) := by
    rw [next, Eval.expr.eq_def]
    change ((pure loop.self : Run Value) >>= _).on m = _
    rw [hself, pure_bind]
    exact on_bind hread _
  change (Eval.program (renderer rows).machine (loop.env template.toolkit)
    ⟨[.expr ⟨1, 1, 1, 10⟩ next], ⟨1, 1, 1, 10⟩, "this.next"⟩).on m = _
  rw [Eval.program, on_bind (on_get m)]
  change (Eval.sequence _ _ _ [next] >>= _).on m = _
  rw [Eval.sequence, bind_assoc, on_bind hnext, Eval.sequence, pure_bind]
  rfl

/-- The nodes of the steps from step `k` on. -/
def rowsFrom (loop : Context) : Nat → Nat → List (List Rendered)
  | _, 0 => []
  | k, n + 1 =>
    [.text ((loop.spawn (Text.natText k)).key ++ "0_") "x" false false] :: rowsFrom loop (k + 1) n

lemma length_rowsFrom (loop : Context) (k n : Nat) : (rowsFrom loop k n).length = n := by
  induction n generalizing k with
  | zero => rfl
  | succ n ih => rw [rowsFrom, List.length_cons, ih]

/-- A loop makes a step for each row. -/
lemma turns (w : Workshop) (rows : Nat) {loop : Context} (hself : loop.self = context.self)
    (hwatching : loop.watching = false) (n k : Nat) (m : Memory) (hm : m.log.size + n ≤ rows) :
    ∃ m', m'.log.size = m.log.size + n ∧ Turns template (renderer rows) loop (some 0) none
      (instructions w template (renderer rows) · [.text "0_" [.text "x"]]) k m
      (rowsFrom loop k n) m' := by
  induction n generalizing k m with
  | zero => exact ⟨m, rfl, .none k m⟩
  | succ n ih =>
    obtain ⟨inner, m₂, hinner, hlog⟩ : ∃ inner m₂,
        (loop.nested (Text.natText k)).on { m with log := m.log.push "next" } = (.ok inner, m₂) ∧
          m₂.log.size = m.log.size + 1 := ⟨_, _, rfl, Array.size_push _⟩
    obtain ⟨m', hm', hrest⟩ := ih (k + 1) m₂ (by omega)
    obtain ⟨hkey, -, hinside⟩ := loop.gives_nested _ _ _ _ hinner
    have hbody : (instructions w template (renderer rows) inner [.text "0_" [.text "x"]]).on m₂ =
        (.ok [.text (inner.key ++ "0_") "x" false false], m₂) := by
      rw [instructions, instruction, text, hinside, hwatching]
      rfl
    refine ⟨m', by omega, .turn (clause_next rows hself m) ?_ hinner (hkey ▸ hbody) rfl hrest⟩
    exact decide_eq_true (by omega)

/-- The loop over a cursor with two rows gives two texts, each with the number of its step in its
key. -/
theorem loop_turns_rows : ∃ nodes m', (instruction {} template (renderer 2) context page).on {} =
    (.ok nodes, m') ∧
    nodes.length = 2 ∧ keysList nodes = ["0_0_", "1_0_"] := by
  obtain ⟨loop, m₁, hloop, hself, hwatching, hkey, hlog⟩ : ∃ loop m₁,
    (loopContext context []).on {} = (.ok loop, m₁) ∧
      loop.self = context.self ∧ loop.watching = false ∧ loop.key = "" ∧ m₁.log.size = 0 :=
    ⟨_, _, rfl, rfl, rfl, rfl, rfl⟩
  obtain ⟨m₂, hm₂, hturns⟩ := turns {} 2 hself hwatching 2 0 m₁ (by omega)
  have hend : Value.truthy (.bool (m₂.log.size + 1 ≤ 2)) = false := decide_eq_false (by omega)
  obtain ⟨hwithin, -, -⟩ := loop_turns {} template (renderer 2) (c :=
    context) rfl "0_" [] none (some 0) none
    [.text "0_" [.text "x"]] none hloop rfl hturns
  refine ⟨_, _, hwithin _ _ (by rw [length_rowsFrom]; decide) (clause_next 2 hself m₂) hend, rfl,
    ?_⟩
  simp only [rowsFrom, Context.spawn, natText_isEmpty, hkey, Bool.false_eq_true, if_false]
  rfl

/-- **The limit.** A loop that makes as many steps as the limit allows, and would stop then, is
refused. -/
theorem loop_turns_refused : ∃ loop m₁ made m₂ v m₃,
    (loopContext context []).on {} = (.ok loop, m₁) ∧
    Turns template (renderer loopLimit) loop (some 0) none
      (instructions {} template (renderer loopLimit) · [.text "0_" [.text "x"]]) 0 m₁ made m₂ ∧
    made.length = loopLimit ∧
    (clause template (renderer loopLimit) loop (some 0)).on m₂ = (.ok v, m₃) ∧ v.truthy = false ∧
    ((instruction {} template (renderer loopLimit) context page).on {}).1 = .error endless := by
  obtain ⟨loop, m₁, hloop, hself, hwatching, hlog⟩ : ∃ loop m₁, (loopContext context []).on {} =
    (.ok loop, m₁) ∧
      loop.self = context.self ∧ loop.watching = false ∧ m₁.log.size = 0 :=
        ⟨_, _, rfl, rfl, rfl, rfl⟩
  obtain ⟨m₂, hm₂, hturns⟩ := turns {} loopLimit hself hwatching loopLimit 0 m₁ (by omega)
  refine ⟨loop, m₁, _, m₂, _, _, hloop, hturns, length_rowsFrom _ _ _, clause_next _ hself m₂, ?_,
    ?_⟩
  · exact decide_eq_false (by omega)
  · rw [page, loop_beyond rfl hloop rfl hturns (length_rowsFrom _ _ _)]

end Cursor

end Render

end Trellis

/-!
Loops while watching.

While watching, the body of a loop is gone through exactly once: in the first step of the loop, or,
if there is no step, in a scope where the names of the loop must not be read
(`Render.loop_watching`, `Render.each_watching`).  Whatever else a loop does comes before, and finds
the context to go through the body in.
-/

namespace Trellis

open Run

namespace Value

variable {α β : Type}

/-- What is done with the first step of a walk, if there is one. -/
def withFirst (work : α → Run β) : Option α → Run (List β)
  | some inner => do return [← work inner]
  | none => return []

/-- A walk that stops after its first step does that step, or nothing. -/
lemma walk_first (m : Machine) (v : Value) (enter : Value → Value → Run α) (work : α → Run β) :
    (v.walk m [] fun made key element => do
      let inner ← enter key element
      let x ← work inner
      return (x :: made, false)) =
    v.walk m none (fun _ key element => do return (some (← enter key element), false)) >>=
    withFirst work := by
  let step : List β → Value → Value → Run (List β × Bool) := fun made key element => do
    let inner ← enter key element
    let x ← work inner
    return (x :: made, false)
  let found : Option α → Value → Value → Run (Option α × Bool) := fun _ key element => do
    return (some (← enter key element), false)
  have hcount : ∀ i n : Nat, walkCount step [] i n = walkCount found none i n >>=
      withFirst work := by
    intro i n
    cases n with
    | zero => simp only [walkCount, pure_bind, withFirst]
    | succ n =>
      simp only [step, found, walkCount, withFirst, bind_assoc, pure_bind, Bool.false_eq_true,
        if_false]
  have hentries : ∀ es : List (Value × Run Value),
      walkEntries step [] es = walkEntries found none es >>= withFirst work := by
    intro es
    cases es with
    | nil => simp only [walkEntries, pure_bind, withFirst]
    | cons e es =>
      simp only [step, found, walkEntries, withFirst, bind_assoc, pure_bind, Bool.false_eq_true,
        if_false]
  rw [walk, walk]
  cases v.walkable? m.host with
  | none => simp only [pure_bind, withFirst]
  | some family =>
    cases family with
    | count => exact hcount 0 _
    | _ =>
      rw [bind_assoc]
      exact bind_congr fun es => hentries es

end Value

namespace Render

/-- A context in which names must not be read. -/
def outside (c : Context) (names : List String) : Run Context := do
  let inner ← c.nested ""
  Scope.poison inner.scope names
  return inner

section

variable (t : Template) (r : Renderer) (c : Context)

/-- Whether a loop with three clauses has a step; what cannot be evaluated keeps it from having one.
-/
def hasStep (init test : Option Nat) : Run Bool := do
  if ← tryCatch (do let _ ← clause t r c init; return true) fun _ => return false then
    tryCatch (do return (← clause t r c test).truthy) fun _ => return false
  else return false

/-- Where the body of a loop with three clauses is gone through while watching, and whether that is
a step of the loop. -/
def loopEntry (names : List String) (init test : Option Nat) : Run (Context × Bool) := do
  let loop ← loopContext c names
  if ← hasStep t r loop init test then return (← loop.nested (Text.natText 0), true)
  else return (← outside loop names, false)

/-- The context of a step of a loop over a collection. -/
def elementContext (index iterator : String) (key element : Value) : Run Context := do
  let inner ← c.nested (← key.toText r.machine)
  Scope.define inner.scope iterator element
  if !index.isEmpty then Scope.define inner.scope index key
  return inner

/-- Where the body of a loop over a collection is gone through while watching, and whether that is a
step of the loop. -/
def eachEntry (collection : Nat) (index iterator : String) : Run (Context × Bool) := do
  let v ← tryCatch (eval t r c collection) fun _ => return .null
  match ← v.walk r.machine none fun _ key element => do
    return (some (← elementContext r c index iterator key element), false) with
  | some inner => return (inner, true)
  | none => return (← outside c (if index.isEmpty then [iterator] else [iterator, index]), false)

end

/-- What a loop makes while watching, from what its body made. -/
def onceNodes (isStep : Bool) (nodes : List Rendered) : List Rendered :=
  if isStep then loopNodes [nodes] else []

/-- Goes through a body once, where it is to be gone through. -/
def once (entry : Run (Context × Bool)) (body : Context → Run (List Rendered)) :
    Run (List Rendered) := do
  let e ← entry
  return onceNodes e.2 (← body e.1)

variable {t : Template} {r : Renderer} {c : Context} {body : Context → Run (List Rendered)}

/-- Without steps, a body is gone through outside of the loop. -/
lemma withoutSteps_eq (loop : Context) (names : List String) : withoutSteps loop names body = (do
    let inner ← outside loop names
    return onceNodes false (← body inner)) := by
  simp only [withoutSteps, outside, onceNodes, bind_assoc, pure_bind, Bool.false_eq_true, if_false]

/-- **Loops with three clauses while watching.**  Their body is gone through once. -/
theorem loop_watching (hc : c.watching = true) (names : List String)
    (init test update : Option Nat) :
    loop t r c names init test update body = once (loopEntry t r c names init test) body := by
  -- the first of the many steps that a loop may make is all that matters
  have hsteps : ∀ loop : Context, ∀ test update : Run Bool,
      steps t c loop test update body loopLimit 0 [] = (do
      if ← tryCatch test fun _ => return false then
        let inner ← loop.nested (Text.natText 0)
        return [← body inner]
      else return []) := by
    intro loop test update
    rw [show loopLimit = 99999 + 1 from rfl, steps, steps.tryTest, if_pos hc]
    refine bind_congr fun more => ?_
    cases more with
    | false => rfl
    | true => simp only [hc, Bool.not_true, Bool.false_eq_true, if_false, if_true]
  rw [loop]
  simp only [hsteps, once, loopEntry, hasStep, loopContext, hc, withoutSteps_eq, bind_assoc,
    pure_bind, if_true,
    Bool.true_and]
  refine bind_congr fun loop => bind_congr fun _ => bind_congr fun started => ?_
  cases started with
  | false =>
    simp only [Bool.false_eq_true, if_false, pure_bind, List.isEmpty_nil, if_true, bind_assoc]
  | true =>
    simp only [if_true]
    refine bind_congr fun more => ?_
    cases more with
    | false =>
      simp only [Bool.false_eq_true, if_false, pure_bind, List.isEmpty_nil, if_true, bind_assoc]
    | true =>
      simp only [if_true, bind_assoc, pure_bind, List.isEmpty_cons, Bool.false_eq_true, if_false]
      rfl

/-- **Loops over collections while watching.**  Their body is gone through once. -/
theorem each_watching (hc : c.watching = true) (collection : Nat) (index iterator : String) :
    each t r c collection index iterator body = once (eachEntry t r c collection index iterator)
    body := by
  have hwalk : ∀ v : Value, (v.walk r.machine [] fun made key element => do
      let inner ← c.nested (← key.toText r.machine)
      Scope.define inner.scope iterator element
      if !index.isEmpty then
        Scope.define inner.scope index key
        let nodes ← body inner
        return (nodes :: made, !true)
      else
        let nodes ← body inner
        return (nodes :: made, !true)) =
      v.walk r.machine none (fun _ key element => do
        return (some (← elementContext r c index iterator key element), false)) >>=
            Value.withFirst body := by
    intro v
    refine Eq.trans ?_ (Value.walk_first r.machine v (elementContext r c index iterator) body)
    refine congrArg (v.walk r.machine []) (funext fun made => funext fun key =>
      funext fun element => ?_)
    simp only [elementContext, bind_assoc]
    refine bind_congr fun step => bind_congr fun inner => bind_congr fun _ => ?_
    split <;> simp only [bind_assoc, pure_bind, Bool.not_true]
  have hfound : tryCatch (do return some (← eval t r c collection)) (fun _ =>
      return some Value.null) = (do
      return some (← tryCatch (eval t r c collection) fun _ => return Value.null)) := by
    refine Run.ext fun m => ?_
    rw [on_tryCatch]
    obtain ⟨x, m', hx⟩ : ∃ x m', (eval t r c collection).on m = (x, m') := ⟨_, _, rfl⟩
    have htried := on_tryCatch (eval t r c collection) (fun _ => return Value.null) m
    rw [hx] at htried
    cases x with
    | ok v =>
      rw [on_bind hx, on_bind htried]
      rfl
    | error f => rw [on_bind_error hx, on_bind htried]
  rw [each]
  simp only [hc, if_true, hfound, hwalk, once, eachEntry, Value.withFirst, bind_assoc, pure_bind]
  refine bind_congr fun v => bind_congr fun entered => ?_
  cases entered with
  | none =>
    simp only [pure_bind, List.isEmpty_nil, Bool.true_and, if_true, withoutSteps_eq, bind_assoc]
  | some inner =>
    simp only [bind_assoc, pure_bind, List.isEmpty_cons, Bool.and_false, Bool.false_eq_true,
      if_false]
    rfl

/-! ### Where the body is gone through -/

lemma gives_outside (c : Context) (names : List String) :
    Gives (fun inner : Context => inner.watching = c.watching) (outside c names) :=
  (c.gives_nested "").bind fun _ hinner => gives_bind fun _ => gives_pure hinner.watching

lemma gives_loopEntry (names : List String) (init test : Option Nat) :
    Gives (fun e : Context × Bool => e.1.watching = c.watching)
    (loopEntry t r c names init test) := by
  refine (gives_loopContext c names).bind fun loop hloop => gives_bind fun more => ?_
  split
  · exact (loop.gives_nested _).bind fun inner hinner =>
      gives_pure (hinner.watching.trans hloop.watching)
  · exact (gives_outside loop names).bind fun inner hinner =>
      gives_pure (hinner.trans hloop.watching)

lemma gives_elementContext (index iterator : String) (key element : Value) :
    Gives (fun inner : Context => inner.watching = c.watching)
    (elementContext r c index iterator key element) := by
  refine gives_bind fun step => (c.gives_nested step).bind fun inner hinner => gives_bind fun _ =>
    ?_
  dsimp only
  split
  · exact gives_bind fun _ => gives_pure hinner.watching
  · exact gives_pure hinner.watching

lemma gives_eachEntry (collection : Nat) (index iterator : String) :
    Gives (fun e : Context × Bool => e.1.watching = c.watching)
    (eachEntry t r c collection index iterator) := by
  refine gives_bind fun v => ?_
  refine (Value.gives_walk (Q := fun found => ∀ inner ∈ found, inner.watching = c.watching)
    (fun _ key element _ => ?_) _ v none fun _ h => by cases h).bind fun found hfound => ?_
  · refine (gives_elementContext index iterator key element).bind fun inner hinner =>
      gives_pure fun inner' h => ?_
    cases h
    exact hinner
  · split
    · next inner => exact gives_pure (hfound inner rfl)
    · exact (gives_outside c _).bind fun inner hinner => gives_pure hinner

end Render

/-! ### What finding it does -/

namespace Run.Pervasive

open Render

variable {P : Bool → ∀ α : Type, Run α → Prop} {t : Template} {r : Renderer} {c : Context}
  (h : Run.Pervasive P)

include h

lemma outside (c : Context) (names : List String) : P false _ (Render.outside c names) :=
  h.poisoned fun _ _ => h.of_pure _

lemma loopContext (c : Context) (names : List String) : P false _ (Render.loopContext c names) := by
  refine h.of_nested fun inner _ => h.of_bind ?_ fun _ => h.of_pure _
  exact h.of_forIn (fun _ _ => h.of_bind (h.define _ _ _) fun _ => h.of_pure _) _

variable (hr : r.Pervasive P)

include hr

lemma hasStep (init test : Option Nat) : P false _ (Render.hasStep t r c init test) := by
  have hcaught : ∀ {slot : Option Nat} {k : Value → Run Bool}, (∀ v, P false _ (k v)) →
      P false _ (tryCatch (do k (← Render.clause t r c slot)) fun _ => return false) := fun hk =>
    h.of_tryCatch (h.of_bind (h.clause hr _) hk) fun _ => h.of_pure _
  refine h.of_bind (hcaught fun _ => h.of_pure _) fun started => ?_
  exact of_ite (hcaught fun _ => h.of_pure _) (h.of_pure _)

lemma loopEntry (names : List String) (init test : Option Nat) :
    P false _ (Render.loopEntry t r c names init test) := by
  refine h.of_bind (h.loopContext c names) fun loop =>
    h.of_bind (h.hasStep hr init test) fun more => ?_
  refine of_ite ?_ (h.of_bind (h.outside _ _) fun _ => h.of_pure _)
  exact h.of_nested fun inner _ => h.of_pure _

lemma elementContext (index iterator : String) (key element : Value) :
    P false _ (Render.elementContext r c index iterator key element) := by
  refine h.of_bind (h.toText hr.machine key) fun step => h.of_nested fun inner _ => ?_
  refine h.of_bind (h.define _ _ _) fun _ => ?_
  exact of_ite (h.of_bind (h.define _ _ _) fun _ => h.of_pure _) (h.of_pure _)

lemma eachEntry (collection : Nat) (index iterator : String) :
    P false _ (Render.eachEntry t r c collection index iterator) := by
  refine h.of_bind (h.of_tryCatch (h.eval hr collection) fun _ => h.of_pure _) fun v => ?_
  refine h.of_bind (h.lenient.walk (hr.machine.tame h) v none fun _ key element => ?_) fun found =>
    ?_
  · exact h.of_bind (h.elementContext hr index iterator key element) fun _ => h.of_pure _
  · split
    · exact h.of_pure _
    · exact h.of_bind (h.outside _ _) fun _ => h.of_pure _

end Run.Pervasive

end Trellis
