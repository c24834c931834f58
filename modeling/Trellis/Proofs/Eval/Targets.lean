/-
What is assigned to.

The target of an assignment is a name or a property.  To locate it is to evaluate its parts, from
left to right, and to keep what they come to (`Eval.locate`); reading a target and writing to it
both locate it first (`Eval.read_eq`, `Eval.write_eq`).  So what changes a place by its own value
locates it twice, and where the parts of the target do something it reads one place and writes to
another (`Eval.compound_twice`).

If to locate the target once more changes nothing and comes to the same place, this is as good as
locating it once (`Eval.compound_once`).  It is so wherever the parts of the target only look
(`Expr.looks`) and what is in memory is passive.
-/
import Trellis.Proofs.Eval.Steps
import Trellis.Proofs.Value.Run

namespace Trellis

/-- Whether a node neither writes nor calls anything and makes no list and no object. -/
def Node.looks : Node → Bool
  | .expr (.call _ _ _) | .expr (.pipe _ _ _ _) | .expr (.array _ _) | .expr (.object _ _)
  | .expr (.assign _ _ _ _) | .expr (.update _ _ _ _) => false
  | _ => true

/-- Whether an expression neither writes nor calls anything and makes no lists and no objects. -/
def Expr.looks (e : Expr) : Bool := e.nodes.all Node.looks

open Run

namespace Eval

open Trellis.Expr (AssignOp UpdateOp)

/-! ### Places -/

/-- What a target comes to: a name, or a property of a value. -/
inductive Place where
  | name (id : String)
  | property (owner : Value) (name : String)
  | nowhere

section

variable (m : Machine) (env : Env)

/-- What is at a place. -/
def Place.get : Place → Run Value
  | .name id => Eval.name m env id
  | .property owner x => owner.follow m.host [x]
  | .nowhere => return .undefined

/-- Writes to a place. -/
def Place.set (v : Value) : Place → Run Unit
  | .name id => assignName m env id v
  | .property owner x => owner.setPath m [x] v
  | .nowhere => return

/-- Evaluates the parts of a target, each once. -/
def locate : Expr → Run Place
  | .ident _ id => return .name id
  | .member _ base _ name => do return .property (← expr m env base) name
  | .index _ base key => do
    let owner ← expr m env base
    let k ← expr m env key
    return .property owner (← k.toText m)
  | .paren _ inner => locate inner
  | _ => return .nowhere

/-- `target op= value`, where the target is located once. -/
def assignOnce (op : AssignOp) (target value : Expr) : Run Value := do
  let given ← expr m env value
  let place ← locate m env target
  let v ← combined m op (place.get m env) given
  place.set m env v
  return v

/-- `target++` and its kin, where the target is located once. -/
def updateOnce (op : UpdateOp) (before : Bool) (target : Expr) : Run Value := do
  let place ← locate m env target
  let old := (← place.get m env).toNumber
  let new := stepped op old
  place.set m env (.number new)
  return .number (if before then new else old)

/-- What is neither a name nor a property is not read, and writing to it does nothing. -/
lemma read_write_nowhere {e : Expr} (hident : ∀ s id, e ≠ .ident s id)
    (hmember : ∀ s base ns name, e ≠ .member s base ns name)
    (hindex : ∀ s base key, e ≠ .index s base key) (hparen : ∀ s inner, e ≠ .paren s inner) :
    read m env e = pure .undefined ∧ ∀ v, write m env e v = pure () := by
  cases e with
  | ident s id => exact absurd rfl (hident s id)
  | member s base ns name => exact absurd rfl (hmember s base ns name)
  | index s base key => exact absurd rfl (hindex s base key)
  | paren s inner => exact absurd rfl (hparen s inner)
  | _ => exact ⟨rfl, fun _ => rfl⟩

/-- To read a target is to locate it and to get what is there. -/
theorem read_eq (e : Expr) : read m env e = locate m env e >>= Place.get m env := by
  fun_induction locate m env e with
  | case1 s id => rfl
  | case2 s base ns name =>
    rw [read, bind_assoc]
    rfl
  | case3 s base key =>
    rw [read]
    simp only [bind_assoc]
    rfl
  | case4 s inner ih => rw [read, ih]
  | case5 e hident hmember hindex hparen =>
    rw [(read_write_nowhere m env hident hmember hindex hparen).1]
    rfl

/-- To write to a target is to locate it and to write there. -/
theorem write_eq (v : Value) (e : Expr) : write m env e v = locate m env e >>=
    Place.set m env v := by
  fun_induction locate m env e with
  | case1 s id => rfl
  | case2 s base ns name =>
    rw [write, bind_assoc]
    rfl
  | case3 s base key =>
    rw [write]
    simp only [bind_assoc]
    rfl
  | case4 s inner ih => rw [write, ih]
  | case5 e hident hmember hindex hparen =>
    rw [(read_write_nowhere m env hident hmember hindex hparen).2]
    rfl

/-- An assignment of what it was given locates its target once. -/
theorem expr_set (s : Span) (target value : Expr) :
    expr m env (.assign s .set target value) = assignOnce m env .set target value := by
  rw [expr, assignOnce]
  refine bind_congr fun given => ?_
  simp only [combined, pure_bind, write_eq, bind_assoc]

/-- Every other assignment locates its target twice: to read it, and to write to it. -/
theorem expr_compound (s : Span) {op : AssignOp} (hop : op ≠ .set) (target value : Expr) :
    expr m env (.assign s op target value) = (do
      let given ← expr m env value
      let place ← locate m env target
      let v ← combined m op (place.get m env) given
      let place ← locate m env target
      place.set m env v
      return v) := by
  rw [expr]
  refine bind_congr fun given => ?_
  rw [read_eq]
  cases op with
  | set => exact absurd rfl hop
  | add => simp only [combined, write_eq, bind_assoc]
  | sub => simp only [combined, write_eq, bind_assoc]

/-- So does a step up or down. -/
theorem expr_update (s : Span) (op : UpdateOp) (before : Bool) (target : Expr) :
    expr m env (.update s op before target) = (do
      let place ← locate m env target
      let old := (← place.get m env).toNumber
      let new := stepped op old
      let place ← locate m env target
      place.set m env (.number new)
      return .number (if before then new else old)) := by
  rw [expr, read_eq]
  simp only [write_eq, bind_assoc]

end

/-! ### Locating once -/

variable {m : Machine} {env : Env} {mem : Memory} {target : Expr}

/-- Locating a target once more, after what is there was read, changes nothing and comes to the same
place. -/
def Settled (m : Machine) (env : Env) (target : Expr) (reading : Place → Run Value) (mem : Memory) :
    Prop :=
  ∀ place mem₁ v mem₂, (locate m env target).on mem = (.ok place, mem₁) →
    (reading place).on mem₁ = (.ok v, mem₂) →
    (locate m env target).on mem₂ = (.ok place, mem₂)

/-- What goes on with the place located last may as well go on with the one located first. -/
lemma Settled.on_again {α : Type} {reading : Place → Run Value}
    (h : Settled m env target reading mem) (k : Value → Place → Run α) :
    (do
      let place ← locate m env target
      let v ← reading place
      let place ← locate m env target
      k v place).on mem =
      (do let place ← locate m env target; let v ← reading place; k v place).on mem := by
  obtain ⟨r, mem₁, hplace⟩ : ∃ r mem₁, (locate m env target).on mem = (r, mem₁) := ⟨_, _, rfl⟩
  cases r with
  | error f => rw [on_bind_error hplace, on_bind_error hplace]
  | ok place =>
    rw [on_bind hplace, on_bind hplace]
    obtain ⟨r, mem₂, hread⟩ : ∃ r mem₂, (reading place).on mem₁ = (r, mem₂) := ⟨_, _, rfl⟩
    cases r with
    | error f => rw [on_bind_error hread, on_bind_error hread]
    | ok v => rw [on_bind hread, on_bind hread, on_bind (h place mem₁ v mem₂ hplace hread)]

/-! ### Expressions that only look -/

/-- What is in memory is passive, and so is `this`. -/
structure Passive (env : Env) (mem : Memory) : Prop where
  memory : mem.Passive
  self : env.self.isPassive

lemma looks_name (h : Passive env mem) (id : String) : Looks mem (fun v => v.isPassive)
    (name m env id) := by
  rw [name]
  split
  · exact looks_pure rfl
  · exact Scope.looks_lookup h.memory m.host _ id

lemma looks_identifier (h : Passive env mem) (id : String) :
    Looks mem (fun v => v.isPassive) (identifier m env id) := by
  rw [identifier.eq_def]
  split
  · exact looks_pure rfl
  · rw [ambientData]
    split <;> exact looks_pure rfl
  · rw [childrenData]
    split <;> exact looks_pure rfl
  · exact looks_name h id

lemma looks_ambientName (h : Passive env mem) (id : String) (contexts : List (Option Nat)) :
    Looks mem (fun v => v.isPassive) (ambientName id contexts) := by
  induction contexts with
  | nil => exact looks_pure rfl
  | cons context rest ih =>
    cases context with
    | none => exact ih
    | some at_ =>
      refine (Memory.looks_fields h.memory at_).bind fun fs hfs => ?_
      split
      · next v hv => exact looks_pure (Value.isPassive_get hfs id v hv)
      · exact ih

lemma looks_path (h : Passive env mem) (p : List String) : Looks mem (fun v => v.isPassive)
    (path m env p) := by
  have hfollow : ∀ {w : Run Value} (rest : List String), Looks mem (fun v => v.isPassive) w →
      Looks mem (fun v : Value => v.isPassive) (do (← w).follow m.host rest) := fun rest hw =>
    hw.bind fun v hv => Value.looks_follow h.memory m.host hv rest
  rw [path.eq_def]
  split
  · exact looks_pure rfl
  · exact hfollow _ (looks_ambientName h _ _)
  · refine hfollow _ ?_
    rw [childName]
    split
    · exact looks_pure rfl
    · exact (Memory.looks_fields h.memory _).bind fun fs hfs =>
        looks_pure (Value.isPassive_getD (Value.isPassive_get hfs _))
  · exact hfollow _ (looks_name h _)

mutual
/-- An expression that only looks changes nothing, and its value is passive. -/
theorem looks_expr (h : Passive env mem) : ∀ e : Expr, e.nodes.all Node.looks →
    Looks mem (fun v => v.isPassive) (expr m env e)
  | .lit s l, _ => by
    rw [expr]
    cases l <;> exact looks_pure rfl
  | .this s, _ => by
    rw [expr]
    exact looks_pure h.self
  | .ident s x, _ => by
    rw [expr]
    exact looks_identifier h x
  | .member s base ns x, hlooks => by
    simp only [Expr.nodes, List.all_append, Bool.and_eq_true] at hlooks
    rw [expr.eq_def]
    dsimp only
    split
    · exact looks_path h _
    · exact (looks_expr h base hlooks.1).bind fun v hv => Value.looks_follow h.memory m.host hv _
  | .index s base key, hlooks => by
    simp only [Expr.nodes, List.all_append, Bool.and_eq_true] at hlooks
    rw [expr.eq_def]
    dsimp only
    split
    · exact looks_path h _
    · refine (looks_expr h base hlooks.1.1).bind fun owner howner => ?_
      refine (looks_expr h key hlooks.1.2).bind fun k hk => ?_
      exact (Value.looks_toText h.memory m hk).bind fun text _ =>
        Value.looks_follow h.memory m.host howner _
  | .seq s items, hlooks => by
    simp only [Expr.nodes, List.all_append, Bool.and_eq_true] at hlooks
    rw [expr]
    exact looks_sequence h .undefined rfl items hlooks.1
  | .unary s op argument, hlooks => by
    simp only [Expr.nodes, List.all_append, Bool.and_eq_true] at hlooks
    rw [expr]
    exact (looks_expr h argument hlooks.1).bind fun v _ => looks_pure (Value.isPassive_unary op v)
  | .binary s op left right, hlooks => by
    simp only [Expr.nodes, List.all_append, Bool.and_eq_true] at hlooks
    rw [expr]
    refine (looks_expr h left hlooks.1.1).bind fun l hl => ?_
    exact (looks_expr h right hlooks.1.2).bind fun r hr => Value.looks_binary h.memory m op hl hr
  | .logical s op left right, hlooks => by
    simp only [Expr.nodes, List.all_append, Bool.and_eq_true] at hlooks
    rw [expr]
    refine (looks_expr h left hlooks.1.1).bind fun l hl => ?_
    split
    · exact looks_pure hl
    · exact looks_expr h right hlooks.1.2
  | .cond s test consequent alternate, hlooks => by
    simp only [Expr.nodes, List.all_append, Bool.and_eq_true] at hlooks
    rw [expr]
    refine (looks_expr h test hlooks.1.1.1).bind fun v _ => ?_
    split
    · exact looks_expr h consequent hlooks.1.1.2
    · exact looks_expr h alternate hlooks.1.2
  | .paren s inner, hlooks => by
    simp only [Expr.nodes, List.all_append, Bool.and_eq_true] at hlooks
    rw [expr]
    exact looks_expr h inner hlooks.1
  | .call _ _ _, hlooks | .pipe _ _ _ _, hlooks | .array _ _, hlooks | .object _ _, hlooks
  | .assign _ _ _ _, hlooks | .update _ _ _ _, hlooks => by
    simp [Expr.nodes, Node.looks] at hlooks

theorem looks_sequence (h : Passive env mem) :
    ∀ (last : Value) (_ : last.isPassive) (es : List Expr),
    (Expr.nodesList es).all Node.looks → Looks mem (fun v => v.isPassive) (sequence m env last es)
  | last, hlast, [], _ => by
    rw [sequence]
    exact looks_pure hlast
  | last, _, e :: es, hlooks => by
    simp only [Expr.nodesList, List.all_append, Bool.and_eq_true] at hlooks
    rw [sequence]
    exact (looks_expr h e hlooks.1).bind fun v hv => looks_sequence h v hv es hlooks.2
end

/-- The owner that a target comes to is passive. -/
def Place.isPassive : Place → Bool
  | .property owner _ => owner.isPassive
  | _ => true

/-- To locate a target whose parts only look changes nothing. -/
theorem looks_locate (h : Passive env mem) : ∀ e : Expr, e.nodes.all Node.looks →
    Looks mem (fun p => p.isPassive) (locate m env e)
  | .ident _ _, _ => looks_pure rfl
  | .member s base ns x, hlooks => by
    simp only [Expr.nodes, List.all_append, Bool.and_eq_true] at hlooks
    exact (looks_expr h base hlooks.1).bind fun v hv => looks_pure hv
  | .index s base key, hlooks => by
    simp only [Expr.nodes, List.all_append, Bool.and_eq_true] at hlooks
    refine (looks_expr h base hlooks.1.1).bind fun owner howner => ?_
    refine (looks_expr h key hlooks.1.2).bind fun k hk => ?_
    exact (Value.looks_toText h.memory m hk).bind fun _ _ => looks_pure howner
  | .paren s inner, hlooks => by
    simp only [Expr.nodes, List.all_append, Bool.and_eq_true] at hlooks
    exact looks_locate h inner hlooks.1
  | .lit _ _, _ | .this _, _ | .call _ _ _, _ | .pipe _ _ _ _, _ | .array _ _, _ | .object _ _, _
  | .seq _ _, _
  | .unary _ _ _, _ | .binary _ _ _ _, _ | .logical _ _ _ _, _ | .cond _ _ _ _, _
  | .assign _ _ _ _, _
  | .update _ _ _ _, _ => looks_pure rfl

lemma looks_get (h : Passive env mem) {p : Place} (hp : p.isPassive) :
    Looks mem (fun v => v.isPassive) (p.get m env) := by
  cases p with
  | name id => exact looks_name h id
  | property owner x => exact Value.looks_follow h.memory m.host hp [x]
  | nowhere => exact looks_pure rfl

lemma looks_combined (h : Passive env mem) (op : AssignOp) {current : Run Value}
    (hcurrent : Looks mem (fun v => v.isPassive) current) {given : Value}
    (hgiven : given.isPassive) :
    Looks mem (fun v => v.isPassive) (combined m op current given) := by
  cases op with
  | set => exact looks_pure hgiven
  | add => exact hcurrent.bind fun v hv => Value.looks_binary h.memory m .add hv hgiven
  | sub => exact hcurrent.bind fun v hv => Value.looks_binary h.memory m .sub hv hgiven

/-- A target whose parts only look is settled, if reading it only looks, too. -/
lemma settled_of_looks (h : Passive env mem) (hlooks : target.looks) {reading : Place → Run Value}
    (hreading : ∀ p, p.isPassive → Looks mem (fun _ => True) (reading p)) :
    Settled m env target reading mem := by
  intro place mem₁ v mem₂ hplace hread
  obtain ⟨rfl, hpassive⟩ := (looks_locate h target hlooks).result hplace
  obtain ⟨rfl, -⟩ := (hreading place hpassive).result hread
  exact hplace

/-- **Locating once.** A step up or down, and an assignment of any kind, come to what they come to
when the target is located only once: the same value or the same fault, and the same memory.  For
this, locating the target once more must change nothing and come to the same place.  It does so if
the parts of the target only look and what is in memory is passive, and an assignment of what it was
given asks for nothing. -/
theorem compound_once (m : Machine) (env : Env) (target : Expr) :
    (∀ mem s op before, Settled m env target (Place.get m env) mem →
      (expr m env (.update s op before target)).on mem = (updateOnce m env op before target).on
      mem) ∧
    (∀ mem s op value, (∀ given mem', (expr m env value).on mem = (.ok given, mem') →
        op = .set ∨ Settled m env target (fun p => combined m op (p.get m env) given) mem') →
      (expr m env (.assign s op target value)).on mem = (assignOnce m env op target value).on mem) ∧
    (target.looks → ∀ mem, Passive env mem → Settled m env target (Place.get m env) mem ∧
      ∀ op given, given.isPassive → Settled m env target (fun p =>
      combined m op (p.get m env) given) mem) := by
  refine ⟨fun mem s op before h => ?_, fun mem s op value h => ?_, fun hlooks mem hmem => ⟨?_, ?_⟩⟩
  · rw [expr_update, updateOnce]
    exact h.on_again _
  · by_cases hop : op = .set
    · rw [hop, expr_set]
    · rw [expr_compound m env s hop, assignOnce]
      obtain ⟨r, mem', hvalue⟩ : ∃ r mem', (expr m env value).on mem = (r, mem') := ⟨_, _, rfl⟩
      cases r with
      | error f => rw [on_bind_error hvalue, on_bind_error hvalue]
      | ok given =>
        rw [on_bind hvalue, on_bind hvalue]
        exact ((h given mem' hvalue).resolve_left hop).on_again _
  · exact settled_of_looks hmem hlooks fun p hp => (looks_get hmem hp).weaken fun _ _ => trivial
  · exact fun op given hgiven => settled_of_looks hmem hlooks fun p hp =>
      (looks_combined hmem op (looks_get hmem hp) hgiven).weaken fun _ _ => trivial

/-- `a[k]` only looks, so `a[k] += 'z'` and `a[k]++` locate it once. -/
theorem compound_once_key : let t : Expr := .index here (.ident here "a") (.ident here "k")
    let z : Expr := .lit here (.string "z" "'z'")
    t.looks ∧ Passive nestedEnv nestedMemory ∧
      (expr bareMachine nestedEnv (.assign here .add t z)).on nestedMemory =
        (assignOnce bareMachine nestedEnv .add t z).on nestedMemory ∧
      (expr bareMachine nestedEnv (.update here .inc false t)).on nestedMemory =
        (updateOnce bareMachine nestedEnv .inc false t).on nestedMemory := by
  intro t z
  have hmem : Passive nestedEnv nestedMemory := ⟨⟨by decide, by decide⟩, rfl⟩
  obtain ⟨hupdate, hassign, hlooks⟩ := compound_once bareMachine nestedEnv t
  obtain ⟨hget, hcombined⟩ := hlooks rfl nestedMemory hmem
  refine ⟨rfl, hmem, hassign nestedMemory here .add z fun given mem' hz => .inr ?_, ?_⟩
  · cases hz
    exact hcombined .add (.text "z") rfl
  · exact hupdate nestedMemory here .inc false hget

/-- **Locating twice.** `a[k += 'x'] += 'y'` lengthens `k` twice; it reads one field of `a` and
writes another. -/
theorem compound_twice :
    ¬ ∀ (m : Machine) (env : Env) (mem : Memory) (op : AssignOp) (target value : Expr),
    target.isAssignable →
      (expr m env (.assign here op target value)).on mem = (assignOnce m env op target value).on
      mem := by
  intro h
  have hsame := h bareMachine nestedEnv nestedMemory .add
    (.index here (.ident here "a") (.assign here .add (.ident here "k")
      (.lit here (.string "x" "'x'"))))
    (.lit here (.string "y" "'y'")) rfl
  have hfield := congrArg (fun r => ((fieldsAt r.2 1).get? "bx").isSome) hsame
  exact absurd hfield (by decide)

end Eval

end Trellis
