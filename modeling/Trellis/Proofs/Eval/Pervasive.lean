/-
Properties of all evaluation.

A property of work that is pervasive holds of looking names up and writing them, of every expression
(`Run.Pervasive.expr`), and of firing events and writing through bindings, whatever they call.
-/
import Trellis.Proofs.Value.Pervasive

namespace Trellis.Run.Pervasive

variable {P : Bool → ∀ α : Type, Run α → Prop} {α β σ : Type} {m : Machine} {watching : Bool}
  (h : Run.Pervasive P)

include h

/-! ### Scopes -/

lemma chain (fuel at_ : Nat) : P false _ (Scope.chain fuel at_) := by
  induction fuel generalizing at_ with
  | zero => exact h.of_get (fun _ _ => rfl) fun _ => h.of_pure _
  | succ fuel ih =>
    refine h.of_get (fun _ _ => rfl) fun mem => ?_
    split
    · exact h.of_bind (ih _) fun _ => h.of_pure _
    · exact h.of_pure _

lemma lookup {host : Host} (hh : host.Tame (P false)) (at_ : Nat) (name : String) :
    P false _ (Scope.lookup host at_ name) := by
  refine h.of_bind (h.chain _ _) fun ss => ?_
  induction ss with
  | nil => exact h.of_pure _
  | cons e rest ih =>
    obtain ⟨i, s⟩ := e
    unfold Scope.lookupIn
    split
    · exact h.of_throw _
    · exact h.of_pure _
    · split
      · exact h.of_pure _
      · exact h.lenient.property hh _ _
      · exact ih

/-- A name is given a value. -/
lemma bindName (at_ : Nat) (name : String) (v : Value) :
    P false _ (Memory.updateScope at_ fun s => { s with vars := Fields.insert name v s.vars }) :=
  h.insert at_ name v id fun _ => List.Subset.refl _

lemma define (at_ : Nat) (name : String) (v : Value) : P false _ (Scope.define at_ name v) :=
  h.insert at_ name v (List.filter (· != name)) fun _ => List.filter_sublist.subset

variable (hm : m.Pervasive P)

include hm

lemma writeData (data : Value) (name : String) (v : Value) :
    P false _ (Scope.writeData m data name v) := by
  rw [Scope.writeData.eq_def]
  split
  · exact h.of_pure _
  · exact h.of_tryCatch (h.of_bind (h.setProperty hm _ _ _) fun _ => h.of_pure _) fun _ =>
      h.of_pure _

lemma assignIn (name : String) (v : Value) (ss : List (Nat × Scope)) :
    P false _ (Scope.assignIn m name v ss) := by
  induction ss with
  | nil => exact h.of_pure _
  | cons e rest ih =>
    obtain ⟨i, s⟩ := e
    unfold Scope.assignIn
    split
    · exact h.of_throw _
    · exact h.of_bind (h.bindName _ _ _) fun _ => h.of_pure _
    · split
      · exact h.writeData hm _ _ _
      · exact ih

lemma assign (at_ : Nat) (name : String) (v : Value) : P false _ (Scope.assign m at_ name v) := by
  refine h.of_bind (h.chain _ _) fun ss => h.of_bind (h.assignIn hm _ _ _) fun done => ?_
  exact of_ite (h.bindName _ _ _) (h.of_pure _)

lemma layer (acc : Fields) (s : Scope) : P false _ (Scope.layer m acc s) := by
  rw [Scope.layer]
  split
  · exact h.of_bind (h.of_pure _) fun _ => h.of_pure _
  · exact h.of_bind (h.of_pure _) fun _ => h.of_pure _
  · refine h.of_bind (h.keys hm _) fun ks => h.of_bind (h.of_foldlM (fun acc k => ?_) _) fun _ =>
      h.of_pure _
    exact h.of_bind (h.property hm _ _) fun _ => h.of_pure _

lemma flatten (at_ : Nat) : P false _ (Scope.flatten m at_) := by
  refine h.of_bind (h.chain _ _) fun ss => h.of_foldlM (fun acc e => ?_) _
  exact h.layer hm acc e.2

/-! ### Expressions -/

lemma display (depth : Nat) (v : Value) : P false _ (v.display m depth) := by
  induction depth using Nat.strongRecOn generalizing v with
  | ind depth ih =>
    fun_cases Value.display m depth v
    all_goals first
      | exact h.of_pure _
      | exact h.toText hm _
      | exact h.of_bind (h.lenient.items _) fun _ =>
          h.of_bind (h.lenient.of_mapM fun v _ => ih _ (Nat.lt_succ_self _) v) fun _ => h.of_pure _
      | exact h.of_bind (h.lenient.fields _) fun _ =>
          h.of_bind (h.lenient.of_mapM fun f _ => ih _ (Nat.lt_succ_self _) f.2) fun _ =>
            h.of_pure _
      | exact h.of_bind (h.lenient.fields _) fun _ =>
          h.of_bind (h.lenient.of_mapM fun f _ => h.of_bind (ih _ (Nat.lt_succ_self _) f.2) fun _ =>
            h.of_pure _)
            fun _ => h.of_pure _
      | exact h.of_bind (h.lenient.entries _) fun _ =>
          h.of_bind (h.lenient.of_mapM fun e _ => h.of_bind (ih _ (Nat.lt_succ_self _) e.1) fun _ =>
            h.of_bind (ih _ (Nat.lt_succ_self _) e.2) fun _ => h.of_pure _) fun _ => h.of_pure _
      | exact h.of_bind (h.lenient.inner _) fun _ =>
        h.of_bind (ih _ (Nat.lt_succ_self _) _) fun _ => h.of_pure _

variable {env : Env}

lemma name (x : String) : P false _ (Eval.name m env x) := by
  rw [Eval.name]
  split
  · exact h.of_pure _
  · exact h.lookup hm.host.toTame _ _

lemma identifier (x : String) : P false _ (Eval.identifier m env x) := by
  rw [Eval.identifier.eq_def]
  split
  · exact h.of_pure _
  · exact h.of_pure _
  · exact h.of_pure _
  · exact h.name hm x

omit hm in
lemma ambientName (x : String) (contexts : List (Option Nat)) :
    P false _ (Eval.ambientName x contexts) := by
  induction contexts with
  | nil => exact h.of_pure _
  | cons context rest ih =>
    cases context with
    | none => exact ih
    | some at_ =>
      refine h.of_bind (h.lenient.fields at_) fun fs => ?_
      split
      · exact h.of_pure _
      · exact ih

omit hm in
lemma childName (x : String) : P false _ (Eval.childName env x) := by
  rw [Eval.childName]
  split
  · exact h.of_pure _
  · exact h.of_bind (h.lenient.fields _) fun _ => h.of_pure _

lemma path (p : List String) : P false _ (Eval.path m env p) := by
  rw [Eval.path.eq_def]
  split
  · exact h.of_pure _
  · exact h.of_bind (h.ambientName _ _) fun v => h.follow hm v _
  · exact h.of_bind (h.childName _) fun v => h.follow hm v _
  · exact h.of_bind (h.name hm _) fun v => h.follow hm v _

lemma assignName (x : String) (v : Value) : P false _ (Eval.assignName m env x v) := by
  rw [Eval.assignName]
  split
  · exact h.of_throw _
  · exact h.assign hm _ _ _

lemma apply (args : List Value) (callee : Eval.Callee) :
    P false _ (Eval.apply m env args callee) := by
  cases callee with
  | bare name fn => exact h.call hm _ _ _ _
  | intrinsic i => exact h.of_pure _
  | method owner name => exact h.callMethod hm _ _ _
  | computed owner key => exact h.of_bind (h.toText hm key) fun _ => h.callMethod hm _ _ _
  | value fn shown => exact h.call hm _ _ _ _

lemma intrinsic (first second : Value) (i : Intrinsic) :
    P false _ (Eval.intrinsic m env first second i) := by
  cases i with
  | translate =>
    exact h.of_bind (h.toText hm _) fun _ => h.of_bind (h.toText hm _) fun _ => h.of_pure _
  | rawText => exact h.of_bind (h.toText hm _) fun _ => h.of_pure _
  | resource => exact h.of_bind (h.toText hm _) fun _ => h.of_pure _
  | debug =>
    have hshow : ∀ fs : Fields, P false Value (do
        if env.toolkit.logs then
          let depth := (← get).cells.size + 1
          let shown ← fs.mapM fun f => do return f.1 ++ ":" ++ (← f.2.display m depth)
          Memory.logLine ("debug: map[" ++ " ".intercalate shown ++ "]")
        return .undefined) := by
      intro fs
      refine of_ite ?_ (h.of_pure _)
      refine h.of_get (fun _ _ => rfl) fun mem => h.of_bind (h.lenient.of_mapM fun f _ => ?_)
        fun _ => ?_
      · exact h.of_bind (h.display hm _ _) fun _ => h.of_pure _
      · exact h.of_bind (h.logLine _) fun _ => h.of_pure _
    rw [Eval.intrinsic]
    split
    · exact h.of_bind (h.flatten hm _) hshow
    · exact h.of_bind (h.of_pure _) hshow

lemma combined (op : Expr.AssignOp) {current : Run Value} (hcurrent : P false _ current)
    (v : Value) :
    P false _ (Eval.combined m op current v) := by
  cases op with
  | set => exact h.of_pure _
  | add => exact h.of_bind hcurrent fun _ => h.binary hm _ _ _
  | sub => exact h.of_bind hcurrent fun _ => h.binary hm _ _ _

set_option linter.unusedSectionVars false in
mutual
/-- Every expression has the property. -/
theorem expr : ∀ e : Expr, P false _ (Eval.expr m env e)
  | .lit _ _ | .this _ => by
    rw [Eval.expr]
    exact h.of_pure _
  | .ident _ x => by
    rw [Eval.expr]
    exact h.identifier hm x
  | .member _ base _ x => by
    rw [Eval.expr.eq_def]
    dsimp only
    split
    · exact h.path hm _
    · exact h.of_bind (expr base) fun v => h.follow hm v _
  | .index _ base key => by
    rw [Eval.expr.eq_def]
    dsimp only
    split
    · exact h.path hm _
    · refine h.of_bind (expr base) fun owner => h.of_bind (expr key) fun k => ?_
      exact h.of_bind (h.toText hm k) fun _ => h.follow hm owner _
  | .call _ callee args => by
    rw [Eval.expr]
    refine of_ite ?_ ?_
    · refine h.of_bind (resolve callee) fun found => ?_
      split
      · exact h.of_bind (firstExprs _ args) fun _ => h.intrinsic hm _ _ _
      · exact h.of_bind (exprs args) fun _ => h.apply hm _ _
    · exact h.of_bind (expr callee) fun _ => h.of_bind (exprs args) fun _ => h.apply hm _ _
  | .pipe _ entity _ ds => by
    rw [Eval.expr]
    exact h.of_bind (expr entity) fun v => decorators v ds
  | .array _ es => by
    rw [Eval.expr]
    exact h.of_bind (exprs es) fun _ => h.lenient.newList _
  | .object _ ps => by
    rw [Eval.expr]
    exact h.of_bind (object ps []) fun _ => h.lenient.newObject _
  | .seq _ es => by
    rw [Eval.expr]
    exact sequence .undefined es
  | .unary _ _ argument => by
    rw [Eval.expr]
    exact h.of_bind (expr argument) fun _ => h.of_pure _
  | .binary _ _ left right => by
    rw [Eval.expr]
    exact h.of_bind (expr left) fun _ => h.of_bind (expr right) fun _ => h.binary hm _ _ _
  | .logical _ _ left right => by
    rw [Eval.expr]
    exact h.of_bind (expr left) fun _ => of_ite (h.of_pure _) (expr right)
  | .cond _ test consequent alternate => by
    rw [Eval.expr]
    exact h.of_bind (expr test) fun _ => of_ite (expr consequent) (expr alternate)
  | .paren _ inner => by
    rw [Eval.expr]
    exact expr inner
  | .assign _ _ target value => by
    rw [Eval.expr]
    refine h.of_bind (expr value) fun given => h.of_bind (h.combined hm _ (read target) _) fun v =>
      ?_
    exact h.of_bind (write target v) fun _ => h.of_pure _
  | .update _ _ _ target => by
    rw [Eval.expr]
    exact h.of_bind (read target) fun _ => h.of_bind (write target _) fun _ => h.of_pure _

theorem exprs : ∀ es : List Expr, P false _ (Eval.exprs m env es)
  | [] => by
    rw [Eval.exprs]
    exact h.of_pure _
  | e :: es => by
    rw [Eval.exprs]
    exact h.of_bind (expr e) fun _ => h.of_bind (exprs es) fun _ => h.of_pure _

theorem firstExprs : ∀ (n : Nat) (es : List Expr), P false _ (Eval.firstExprs m env n es)
  | 0, es => by
    rw [Eval.firstExprs.eq_def]
    exact h.of_pure _
  | _ + 1, [] => by
    rw [Eval.firstExprs.eq_def]
    exact h.of_pure _
  | n + 1, e :: es => by
    rw [Eval.firstExprs]
    exact h.of_bind (expr e) fun _ => h.of_bind (firstExprs n es) fun _ => h.of_pure _

theorem sequence : ∀ (last : Value) (es : List Expr), P false _ (Eval.sequence m env last es)
  | last, [] => by
    rw [Eval.sequence]
    exact h.of_pure _
  | last, e :: es => by
    rw [Eval.sequence]
    exact h.of_bind (expr e) fun v => sequence v es

theorem object : ∀ (ps : List Property) (fs : Fields), P false _ (Eval.object m env ps fs)
  | [], fs => by
    rw [Eval.object]
    exact h.of_pure _
  | .mk key value :: ps, fs => by
    rw [Eval.object]
    exact h.of_bind (expr value) fun _ => object ps _

theorem decorators : ∀ (v : Value) (ds : List Decorator), P false _ (Eval.decorators m env v ds)
  | v, [] => by
    rw [Eval.decorators]
    exact h.of_pure _
  | v, .mk _ x args _ :: ds => by
    rw [Eval.decorators]
    refine of_ite (decorators v ds) ?_
    exact h.of_bind (exprs args) fun _ => h.of_bind (h.decorate hm _ _ _) fun v' => decorators v' ds

theorem resolve : ∀ e : Expr, P false _ (Eval.resolve m env e)
  | .ident _ x => by
    rw [Eval.resolve.eq_def]
    dsimp only
    split
    · exact h.of_pure _
    · exact h.of_bind (h.identifier hm x) fun _ => h.of_pure _
  | .member _ base _ x => by
    rw [Eval.resolve]
    exact h.of_bind (expr base) fun _ => h.of_pure _
  | .index _ base key => by
    rw [Eval.resolve]
    exact h.of_bind (expr base) fun _ => h.of_bind (expr key) fun _ => h.of_pure _
  | .paren _ inner => by
    rw [Eval.resolve]
    exact resolve inner
  | .lit _ _ | .this _ | .call _ _ _ | .pipe _ _ _ _ | .array _ _ | .object _ _ | .seq _ _
  | .unary _ _ _
  | .binary _ _ _ _ | .logical _ _ _ _ | .cond _ _ _ _ | .assign _ _ _ _ | .update _ _ _ _ => by
    rw [Eval.resolve.eq_def]
    exact h.of_pure _

theorem read : ∀ e : Expr, P false _ (Eval.read m env e)
  | .ident _ x => by
    rw [Eval.read]
    exact h.name hm x
  | .member _ base _ x => by
    rw [Eval.read]
    exact h.of_bind (expr base) fun v => h.follow hm v _
  | .index _ base key => by
    rw [Eval.read]
    refine h.of_bind (expr base) fun owner => h.of_bind (expr key) fun k => ?_
    exact h.of_bind (h.toText hm k) fun _ => h.follow hm owner _
  | .paren _ inner => by
    rw [Eval.read]
    exact read inner
  | .lit _ _ | .this _ | .call _ _ _ | .pipe _ _ _ _ | .array _ _ | .object _ _ | .seq _ _
  | .unary _ _ _
  | .binary _ _ _ _ | .logical _ _ _ _ | .cond _ _ _ _ | .assign _ _ _ _ | .update _ _ _ _ => by
    rw [Eval.read.eq_def]
    exact h.of_pure _

theorem write : ∀ (e : Expr) (v : Value), P false _ (Eval.write m env e v)
  | .ident _ x, v => by
    rw [Eval.write]
    exact h.assignName hm x v
  | .member _ base _ x, v => by
    rw [Eval.write]
    exact h.of_bind (expr base) fun owner => h.setPath hm owner _ v
  | .index _ base key, v => by
    rw [Eval.write]
    refine h.of_bind (expr base) fun owner => h.of_bind (expr key) fun k => ?_
    exact h.of_bind (h.toText hm k) fun _ => h.setPath hm owner _ v
  | .paren _ inner, v => by
    rw [Eval.write]
    exact write inner v
  | .lit _ _, v | .this _, v | .call _ _ _, v | .pipe _ _ _ _, v | .array _ _, v | .object _ _, v
  | .seq _ _, v
  | .unary _ _ _, v | .binary _ _ _ _, v | .logical _ _ _ _, v | .cond _ _ _ _, v
  | .assign _ _ _ _, v
  | .update _ _ _ _, v => by
    rw [Eval.write.eq_def]
    exact h.of_pure _
end

/-- Every program has the property. -/
theorem program (p : Program) : P false _ (Eval.program m env p) := by
  refine h.of_get (fun _ _ => rfl) fun mem => h.of_bind (h.sequence hm _ _) fun v => ?_
  refine of_ite (h.of_bind (h.of_modify ?_ ?_ ?_) fun _ => h.of_pure _) (h.of_pure _)
  all_goals exact fun _ => rfl

/-! ### Events and bindings -/

omit env in
theorem fire (e : RenderedEvent) (args : List Value) : P false _ (e.fire m args) := by
  rw [RenderedEvent.fire]
  split
  · exact h.of_throw _
  · split
    · exact h.of_bind (h.expr hm _) fun _ => h.of_bind (h.exprs hm _) fun _ => h.callMethod hm _ _ _
    · exact h.of_bind (h.of_pure _) fun _ => h.of_bind (h.exprs hm _) fun _ => h.callMethod hm _ _ _

omit env in
theorem update (b : RenderedBinding) (v : Value) : P false _ (b.update m v) := by
  rw [RenderedBinding.update]
  split
  · exact h.write hm _ _
  · exact h.of_throw _

end Trellis.Run.Pervasive
