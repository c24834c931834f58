/-
Flags name all that an expression looks at.

An expression is compiled together with flags, and evaluated in an environment.  Besides the scope
the environment holds the value of `this`, the caller, the ambient contexts, the named children and
the toolkit.  Two environments that agree in the scope and in what the flags name give the same
result, the same fault and the same memory afterwards (`Code.program_agree`).

The flags of a whole are put together by hand from those of its parts, so the proof follows the
compiler: `Piece.Covers` says of one compiled expression that its flags are enough, and every case
of the compiler gives it for the whole from the parts.  Places are read, written and called through
the owner and the key that they were compiled to (`Place.Covers`).
-/
import Trellis.Proofs.Code.Verdict

namespace Trellis

/-! ### Flags together -/

namespace Flags

variable (a b c : Flags)

lemma union_assoc : a ∪ b ∪ c = a ∪ (b ∪ c) := by
  change union (union a b) c = union a (union b c)
  simp only [union, Bool.or_assoc]

lemma union_none : a ∪ {} = a := by
  change union a {} = a
  simp only [union, Bool.or_false]

lemma none_union : {} ∪ a = a := by
  change union {} a = a
  simp only [union, Bool.false_or]

lemma foldl_union (fs : List Flags) : fs.foldl (· ∪ ·) a = a ∪ unions fs := by
  induction fs generalizing a with
  | nil => exact (union_none a).symm
  | cons f fs ih =>
    have hcons : unions (f :: fs) = f ∪ unions fs := by rw [unions, List.foldl_cons, none_union, ih]
    rw [List.foldl_cons, ih, hcons, union_assoc]

lemma unions_cons (fs : List Flags) : unions (a :: fs) = a ∪ unions fs := by
  rw [unions, List.foldl_cons, none_union, foldl_union]

end Flags

lemma Code.flagsOf_cons (p : Code.Piece) (ps : List Code.Piece) :
    Code.flagsOf (p :: ps) = p.flags ∪ Code.flagsOf ps :=
  Flags.unions_cons _ _

/-! ### Environments that agree -/

/-- Two environments with the same scope that agree in what flags name.  The toolkit is behind three
flags: what helpers, translations and logging need is in it. -/
structure Env.Agree (f : Flags) (env env' : Env) : Prop where
  scope : env.scope = env'.scope
  self : f.self = true → env.self = env'.self
  caller : f.caller = true → env.caller = env'.caller
  ambient : f.context = true → env.ambient = env'.ambient
  children : f.children = true → env.children = env'.children
  toolkit : (f.helpers || f.translation || f.debug) = true → env.toolkit = env'.toolkit

namespace Env.Agree

variable {f g : Flags} {env env' : Env}

lemma left (h : Agree (f ∪ g) env env') : Agree f env env' where
  scope := h.scope
  self hf := h.self (Bool.or_eq_true_iff.2 (.inl hf))
  caller hf := h.caller (Bool.or_eq_true_iff.2 (.inl hf))
  ambient hf := h.ambient (Bool.or_eq_true_iff.2 (.inl hf))
  children hf := h.children (Bool.or_eq_true_iff.2 (.inl hf))
  toolkit hf := h.toolkit (by
    simp only [Union.union, Flags.union, Bool.or_eq_true] at hf ⊢
    tauto)

lemma right (h : Agree (f ∪ g) env env') : Agree g env env' where
  scope := h.scope
  self hg := h.self (Bool.or_eq_true_iff.2 (.inr hg))
  caller hg := h.caller (Bool.or_eq_true_iff.2 (.inr hg))
  ambient hg := h.ambient (Bool.or_eq_true_iff.2 (.inr hg))
  children hg := h.children (Bool.or_eq_true_iff.2 (.inr hg))
  toolkit hg := h.toolkit (by
    simp only [Union.union, Flags.union, Bool.or_eq_true] at hg ⊢
    tauto)

end Env.Agree

namespace Eval

variable (m : Machine) {env env' : Env}

lemma name_agree (h : env.scope = env'.scope) (id : String) : name m env id = name m env' id := by
  rw [name, name, h]

lemma identifier_agree (id : String) (h : env.Agree (Code.identifier id).flags env') :
    identifier m env id = identifier m env' id := by
  simp only [identifier]
  split
  · rfl
  · rw [ambientData, ambientData, h.ambient rfl]
  · rw [childrenData, childrenData, h.children rfl]
  · exact name_agree m h.scope id

lemma path_agree (p : List String) (h : env.Agree (Code.dataPath p).flags env') :
    path m env p = path m env' p := by
  fun_cases path m env p with
  | case1 => rfl
  | case2 first rest => rw [path, h.ambient rfl]
  | case3 first rest => rw [path, childName, childName, h.children rfl]
  | case4 root rest hcontext hchildren => rw [path, name_agree m h.scope] <;> assumption

lemma expr_member {s ns : Span} {base : Expr} {id : String}
    (h : (Expr.member s base ns id).path? = none) :
    expr m env (.member s base ns id) = (do (← expr m env base).follow m.host [id]) := by
  rw [expr, h]

lemma expr_index {s : Span} {base key : Expr} (h : (Expr.index s base key).path? = none) :
    expr m env (.index s base key) = (do
      let owner ← expr m env base
      let k ← expr m env key
      owner.follow m.host [← k.toText m]) := by
  rw [expr, h]

/-- A path from `this` looks at nothing but `this`. -/
lemma thisPath_agree {e : Expr} {steps : List String} (hthis : Code.thisPath? e = some steps)
    (h : env.self = env'.self) : e.path? = none ∧ expr m env e = expr m env' e := by
  fun_induction Code.thisPath? e generalizing steps with
  | case1 s s' ns name => exact ⟨rfl, by rw [expr_member m rfl, expr_member m rfl, expr, expr, h]⟩
  | case2 s s' ls name raw =>
    exact ⟨rfl, by rw [expr_index m rfl, expr_index m rfl, expr, expr, expr, expr, h]⟩
  | case3 s base ns name _ ih =>
    obtain ⟨_, hbase, _⟩ := Option.map_eq_some_iff.1 hthis
    obtain ⟨hnone, heq⟩ := ih hbase
    have hpath : (Expr.member s base ns name).path? = none := by
      rw [Expr.path?, hnone, Option.map_none]
    exact ⟨hpath, by rw [expr_member m hpath, expr_member m hpath, heq]⟩
  | case4 s base ls name raw _ ih =>
    obtain ⟨_, hbase, _⟩ := Option.map_eq_some_iff.1 hthis
    obtain ⟨hnone, heq⟩ := ih hbase
    have hpath : (Expr.index s base (.lit ls (.string name raw))).path? = none := by
      rw [Expr.path?, hnone, Option.map_none]
    exact ⟨hpath, by rw [expr_index m hpath, expr_index m hpath, heq, expr, expr]⟩
  | case5 e _ _ _ _ => cases hthis

lemma resolve_unwrap (e : Expr) : resolve m env e.unwrap = resolve m env e := by
  fun_induction Expr.unwrap e with
  | case1 s inner ih => rw [ih, resolve]
  | case2 e _ => rfl

lemma read_unwrap (e : Expr) : read m env e.unwrap = read m env e := by
  fun_induction Expr.unwrap e with
  | case1 s inner ih => rw [ih, read]
  | case2 e _ => rfl

lemma write_unwrap (e : Expr) (v : Value) : write m env e.unwrap v = write m env e v := by
  fun_induction Expr.unwrap e with
  | case1 s inner ih => rw [ih, write]
  | case2 e _ => rfl

lemma expr_unwrap (e : Expr) : expr m env e.unwrap = expr m env e := by
  fun_induction Expr.unwrap e with
  | case1 s inner ih => rw [ih, expr]
  | case2 e _ => rfl

/-! A call, by what is called. -/

variable {callee : Expr} {args : List Expr} {s s' : Span}

lemma expr_call_intrinsic {id : String} {i : Intrinsic} (hcallee : callee.unwrap = .ident s id)
    (hi : Intrinsic.ofName? id = some i) : expr m env (.call s' callee args) = (do
      let vs ← firstExprs m env (intrinsicArity i) args
      intrinsic m env (vs.getD 0 .undefined) (vs.getD 1 .undefined) i) := by
  have hassignable : callee.unwrap.isAssignable = true := by rw [hcallee]; rfl
  rw [expr, if_pos hassignable, ← resolve_unwrap, hcallee, resolve, hi]
  rfl

lemma expr_call_bare {id : String} (hcallee : callee.unwrap = .ident s id)
    (hi : Intrinsic.ofName? id = none) : expr m env (.call s' callee args) = (do
      let fn ← identifier m env id
      Value.call m env.caller fn (← exprs m env args) id) := by
  have hassignable : callee.unwrap.isAssignable = true := by rw [hcallee]; rfl
  rw [expr, if_pos hassignable, ← resolve_unwrap, hcallee, resolve, hi]
  simp only [bind_assoc, pure_bind]
  rfl

lemma expr_call_member {base : Expr} {ns : Span} {id : String}
    (hcallee : callee.unwrap = .member s base ns id) :
    expr m env (.call s' callee args) = (do
      let owner ← expr m env base
      owner.callMethod m [id] (← exprs m env args)) := by
  have hassignable : callee.unwrap.isAssignable = true := by rw [hcallee]; rfl
  rw [expr, if_pos hassignable, ← resolve_unwrap, hcallee, resolve]
  simp only [bind_assoc, pure_bind]
  rfl

lemma expr_call_index {base key : Expr} (hcallee : callee.unwrap = .index s base key) :
    expr m env (.call s' callee args) = (do
      let owner ← expr m env base
      let k ← expr m env key
      let vs ← exprs m env args
      owner.callMethod m [← k.toText m] vs) := by
  have hassignable : callee.unwrap.isAssignable = true := by rw [hcallee]; rfl
  rw [expr, if_pos hassignable, ← resolve_unwrap, hcallee, resolve]
  simp only [bind_assoc, pure_bind]
  rfl

lemma expr_call_value (hassignable : callee.unwrap.isAssignable = false) :
    expr m env (.call s' callee args) = (do
      let fn ← expr m env callee
      Value.call m .undefined fn (← exprs m env args) callee.unwrap.text) := by
  rw [expr, if_neg (Bool.eq_false_iff.1 hassignable)]
  rfl

end Eval

namespace Code

variable (m : Machine)

/-- The flags of a compiled expression name all that the expression looks at. -/
def Piece.Covers (p : Piece) (e : Expr) : Prop :=
  ∀ env env' : Env, env.Agree p.flags env' → Eval.expr m env e = Eval.expr m env' e

/-- The same of the properties of an object. -/
def CoversFields (xs : List (String × Piece)) (ps : List Property) : Prop :=
  List.Forall₂ (fun x (q : Property) => x.2.Covers m q.value) xs ps

/-- What a value looks at before a chain of decorators is part of what it looks at behind the chain,
and the flags there cover the chain as well. -/
def CoversChain (p q : Piece) (chain : List Decorator) : Prop :=
  ∀ env env' : Env, env.Agree q.flags env' → env.Agree p.flags env' ∧
    ∀ v, Eval.decorators m env v chain = Eval.decorators m env' v chain

/-- The parts of a place cover the parts of the expression that it was compiled from. -/
inductive Place.Covers : Place → Expr → Prop
  | name (s : Span) (n : String) : Covers (.name n) (.ident s n)
  | member {owner : Piece} {base : Expr} (howner : owner.Covers m base) (s ns : Span) (n : String) :
      Covers (.property owner (fixedKey n)) (.member s base ns n)
  | index {owner key : Piece} {base e : Expr} (howner : owner.Covers m base) (hkey : key.Covers m e)
      (s : Span) : Covers (.property owner key) (.index s base e)

variable {m} {env env' : Env} {ps : List Piece} {es : List Expr}

lemma agree_cons {p : Piece} (ha : env.Agree (flagsOf (p :: ps)) env') :
    env.Agree p.flags env' ∧ env.Agree (flagsOf ps) env' := by
  rw [flagsOf_cons] at ha
  exact ⟨ha.left, ha.right⟩

lemma exprs_agree (h : List.Forall₂ (Piece.Covers m) ps es) (ha : env.Agree (flagsOf ps) env') :
    Eval.exprs m env es = Eval.exprs m env' es := by
  induction h with
  | nil => rfl
  | cons hp _ ih =>
    obtain ⟨hhead, htail⟩ := agree_cons ha
    rw [Eval.exprs, Eval.exprs, hp _ _ hhead, ih htail]

lemma firstExprs_agree (h : List.Forall₂ (Piece.Covers m) ps es) (ha : env.Agree (flagsOf ps) env')
    (n : Nat) : Eval.firstExprs m env n es = Eval.firstExprs m env' n es := by
  induction h generalizing n with
  | nil => cases n <;> rfl
  | cons hp _ ih =>
    obtain ⟨hhead, htail⟩ := agree_cons ha
    cases n with
    | zero => rfl
    | succ n => rw [Eval.firstExprs, Eval.firstExprs, hp _ _ hhead, ih htail]

lemma sequence_agree (h : List.Forall₂ (Piece.Covers m) ps es) (ha : env.Agree (flagsOf ps) env')
    (last : Value) : Eval.sequence m env last es = Eval.sequence m env' last es := by
  induction h generalizing last with
  | nil => rfl
  | cons hp _ ih =>
    obtain ⟨hhead, htail⟩ := agree_cons ha
    rw [Eval.sequence, Eval.sequence, hp _ _ hhead]
    simp only [ih htail]

lemma object_agree {xs : List (String × Piece)} {props : List Property}
    (h : CoversFields m xs props) (ha : env.Agree (flagsOf (xs.map (·.2))) env') (fs : Fields) :
    Eval.object m env props fs = Eval.object m env' props fs := by
  induction h generalizing fs with
  | nil => rfl
  | @cons x q _ _ hp _ ih =>
    obtain ⟨hhead, htail⟩ := agree_cons ha
    obtain ⟨key, value⟩ := q
    have hvalue : Eval.expr m env value = Eval.expr m env' value := hp _ _ hhead
    rw [Eval.object, Eval.object, hvalue]
    simp only [ih htail]

/-- What an intrinsic function is given is covered by its arguments, and the toolkit by its own
flag. -/
lemma intrinsicCall_covers (h : List.Forall₂ (Piece.Covers m) ps es) {i : Intrinsic} {callee : Expr}
    {s : Span}
    {n : String} (hcallee : callee.unwrap = .ident s n) (hi : Intrinsic.ofName? n = some i)
    (s' : Span) :
    (intrinsicCall i ps).Covers m (.call s' callee es) := by
  intro env env' ha
  rw [Eval.expr_call_intrinsic m hcallee hi, Eval.expr_call_intrinsic m hcallee hi]
  cases i with
  | translate =>
    have htoolkit := ha.right.toolkit rfl
    simp only [firstExprs_agree h ha.left, Eval.intrinsic, htoolkit]
  | debug =>
    have htoolkit := ha.right.toolkit rfl
    simp only [firstExprs_agree h ha.left, Eval.intrinsic, htoolkit, ha.scope]
  | rawText => simp only [firstExprs_agree h ha.left, Eval.intrinsic]
  | resource =>
    have htoolkit := ha.right.toolkit rfl
    simp only [firstExprs_agree h ha.left, Eval.intrinsic, htoolkit]

/-- The call of a function by its name. -/
lemma bareCall_covers (h : List.Forall₂ (Piece.Covers m) ps es) {callee : Expr} {s : Span}
    {n : String} (hcallee : callee.unwrap = .ident s n) (s' : Span) :
    (bareCall n ps).Covers m (.call s' callee es) := by
  rw [bareCall]
  cases hi : Intrinsic.ofName? n with
  | none =>
    intro env env' ha
    have hfn := Eval.identifier_agree m n ha.left.left
    have hcaller := ha.right.caller rfl
    rw [Eval.expr_call_bare m hcallee hi, Eval.expr_call_bare m hcallee hi, hfn,
      exprs_agree h ha.left.right, hcaller]
  | some i => exact intrinsicCall_covers h hcallee hi s'

/-- The call of what an owner has under a key. -/
lemma methodCall_covers (h : List.Forall₂ (Piece.Covers m) ps es) {callee : Expr}
    {owner key : Piece} (hplace : (Place.property owner key).Covers m callee.unwrap) (s : Span) :
    (methodCall owner key ps).Covers m (.call s callee es) := by
  intro env env' ha
  generalize hcallee : callee.unwrap = e at hplace
  cases hplace with
  | member howner =>
    rw [Eval.expr_call_member m hcallee, Eval.expr_call_member m hcallee,
      howner _ _ ha.left.left.left,
      exprs_agree h ha.left.right]
  | index howner hkey =>
    rw [Eval.expr_call_index m hcallee, Eval.expr_call_index m hcallee,
      howner _ _ ha.left.left.left,
      hkey _ _ ha.left.left.right, exprs_agree h ha.left.right]

/-- A place that is read. -/
lemma Place.Covers.read_agree {p : Place} {e : Expr} (h : p.Covers m e.unwrap)
    (ha : env.Agree p.flags env') :
    Eval.read m env e = Eval.read m env' e := by
  rw [← Eval.read_unwrap, ← Eval.read_unwrap m e]
  generalize e.unwrap = target at h ⊢
  cases h with
  | name s n => exact Eval.name_agree m ha.scope n
  | member howner => rw [Eval.read, Eval.read, howner _ _ ha.left.left]
  | index howner hkey => rw [Eval.read, Eval.read, howner _ _ ha.left.left, hkey _ _ ha.left.right]

/-- A place that is written to. -/
lemma Place.Covers.write_agree {p : Place} {e : Expr} (h : p.Covers m e.unwrap)
    (ha : env.Agree p.flags env') (v : Value) : Eval.write m env e v = Eval.write m env' e v := by
  rw [← Eval.write_unwrap, ← Eval.write_unwrap m e]
  generalize e.unwrap = target at h ⊢
  cases h with
  | name s n => rw [Eval.write, Eval.write, Eval.assignName, Eval.assignName, ha.scope]
  | member howner => rw [Eval.write, Eval.write, howner _ _ ha.left.left]
  | index howner hkey =>
    rw [Eval.write, Eval.write, howner _ _ ha.left.left, hkey _ _ ha.left.right]

/-! ### The compiler, case by case -/

lemma lit_covers (p : Piece) (s : Span) (l : Expr.Literal) : p.Covers m (.lit s l) :=
  fun _ _ _ => rfl

lemma literal_covers (o : Options) (s : Span) (l : Expr.Literal) :
    Yields (fun p => p.Covers m (.lit s l)) (literal o l) := fun _ p _ => lit_covers p s l

/-- A path looks at what it begins with. -/
lemma pathPiece?_covers {e : Expr} {p : Piece} (hpath : ∀ steps, e.path? = some steps →
    ∀ env, Eval.expr m env e = Eval.path m env steps) (h : pathPiece? e = some p) :
    p.Covers m e := by
  intro env env' ha
  rw [pathPiece?] at h
  cases hsteps : e.path? with
  | some steps =>
    rw [hsteps] at h
    cases h
    rw [hpath steps hsteps, hpath steps hsteps, Eval.path_agree m steps ha]
  | none =>
    rw [hsteps] at h
    obtain ⟨steps, hthis, rfl⟩ := Option.map_eq_some_iff.1 h
    exact (Eval.thisPath_agree m hthis (ha.self rfl)).2

/-- A property that is read looks at what its owner and its key look at. -/
lemma propertyPiece_covers_member {owner : Piece} {base : Expr} (howner : owner.Covers m base)
    {s ns : Span} {n : String} (hnone : (Expr.member s base ns n).path? = none) :
    (propertyPiece owner (fixedKey n)).Covers m (.member s base ns n) := by
  intro env env' ha
  rw [Eval.expr_member m hnone, Eval.expr_member m hnone, howner _ _ ha.left]

lemma propertyPiece_covers_index {owner key : Piece} {base e : Expr} (howner : owner.Covers m base)
    (hkey : key.Covers m e) {s : Span} (hnone : (Expr.index s base e).path? = none) :
    (propertyPiece owner key).Covers m (.index s base e) := by
  intro env env' ha
  rw [Eval.expr_index m hnone, Eval.expr_index m hnone, howner _ _ ha.left, hkey _ _ ha.right]

lemma path?_none_of_pathPiece? {e : Expr} (h : pathPiece? e = none) : e.path? = none := by
  rw [pathPiece?] at h
  split at h
  · cases h
  next hnone => exact hnone

variable (m) (o : Options)

mutual
/-- What an expression is compiled to covers the expression. -/
theorem expr_covers (bare : Bool) : ∀ e : Expr, Yields (fun p => p.Covers m e) (expr o bare e)
  | .lit s l => by
    rw [expr]
    exact literal_covers o s l
  | .this _ => yields_pure fun _ _ ha => congrArg pure (ha.self rfl)
  | .ident _ n => yields_pure fun _ _ ha => Eval.identifier_agree m n ha
  | .member s base ns n => by
    rw [expr]
    cases hpiece : pathPiece? (.member s base ns n) with
    | some p =>
      refine yields_pure (pathPiece?_covers (fun steps hsteps env => ?_) hpiece)
      rw [Eval.expr, hsteps]
    | none =>
      refine yields_bind (expr_covers false base) fun p hp => yields_pure ?_
      exact propertyPiece_covers_member hp (path?_none_of_pathPiece? hpiece)
  | .index s base key => by
    have hbase := expr_covers false base
    cases key with
    | lit ls l =>
      simp only [expr]
      cases hpiece : pathPiece? (.index s base (.lit ls l)) with
      | some p =>
        refine yields_pure (pathPiece?_covers (fun steps hsteps env => ?_) hpiece)
        rw [Eval.expr, hsteps]
      | none =>
        have hnone := path?_none_of_pathPiece? hpiece
        cases l with
        | string value raw =>
          refine yields_bind hbase fun p hp => yields_pure ?_
          exact propertyPiece_covers_index hp (lit_covers _ ls _) hnone
        | _ =>
          refine yields_bind hbase fun p hp => ?_
          refine yields_bind (literal_covers (m := m) o ls _) fun q hq => yields_pure ?_
          exact propertyPiece_covers_index hp hq hnone
    | _ =>
      refine yields_bind hbase fun p hp => ?_
      refine yields_bind (expr_covers false _) fun q hq => yields_pure ?_
      exact propertyPiece_covers_index hp hq rfl
  | .call s callee args => by
    rw [expr]
    refine yields_bind (exprs_covers args) fun ps hps => ?_
    split
    · refine yields_bind (place_covers callee) fun p hp => ?_
      cases p with
      | name n =>
        generalize hcallee : callee.unwrap = e at hp
        cases hp with
        | name s' => exact yields_pure (bareCall_covers hps hcallee s)
      | property owner key => exact yields_pure (methodCall_covers hps hp s)
    next hassignable =>
      refine yields_bind (expr_covers true callee) fun fn hfn => yields_pure fun env env' ha => ?_
      rw [Eval.expr_call_value m (Bool.eq_false_iff.2 hassignable),
        Eval.expr_call_value m (Bool.eq_false_iff.2 hassignable), hfn _ _ ha.left.left,
        exprs_agree hps ha.left.right]
  | .pipe _ entity _ chain => by
    rw [expr]
    refine yields_bind (expr_covers false entity) fun p hp => ?_
    intro s q hq env env' ha
    obtain ⟨hentity, hchain⟩ := decorators_covers chain p s q hq env env' ha
    rw [Eval.expr, Eval.expr, hp _ _ hentity]
    simp only [hchain]
  | .array _ es => by
    rw [expr]
    refine yields_bind (exprs_covers es) fun ps hps => yields_pure fun env env' ha => ?_
    rw [Eval.expr, Eval.expr, exprs_agree hps ha]
  | .object _ props => by
    rw [expr]
    refine yields_bind (object_covers props) fun xs hxs => yields_pure fun env env' ha => ?_
    rw [Eval.expr, Eval.expr, object_agree hxs ha]
  | .seq _ es => by
    rw [expr]
    refine yields_bind (exprs_covers es) fun ps hps => yields_pure fun env env' ha => ?_
    rw [Eval.expr, Eval.expr, sequence_agree hps ha]
  | .unary _ op e => by
    rw [expr]
    refine yields_bind (expr_covers false e) fun p hp => yields_pure fun env env' ha => ?_
    rw [Eval.expr, Eval.expr, hp _ _ ha]
  | .binary _ op l r => by
    rw [expr]
    refine yields_bind (expr_covers false l) fun p hp => ?_
    refine yields_bind (expr_covers false r) fun q hq => yields_pure fun env env' ha => ?_
    obtain ⟨hl, hr⟩ := agree_cons ha
    rw [Eval.expr, Eval.expr, hp _ _ hl, hq _ _ (agree_cons hr).1]
  | .logical _ op l r => by
    rw [expr]
    refine yields_bind (expr_covers false l) fun p hp => ?_
    refine yields_bind (expr_covers false r) fun q hq => yields_pure fun env env' ha => ?_
    obtain ⟨hl, hr⟩ := agree_cons ha
    rw [Eval.expr, Eval.expr, hp _ _ hl, hq _ _ (agree_cons hr).1]
  | .cond _ t c a => by
    rw [expr]
    refine yields_bind (expr_covers false t) fun p hp => ?_
    refine yields_bind (expr_covers false c) fun q hq => ?_
    refine yields_bind (expr_covers false a) fun r hr => yields_pure fun env env' ha => ?_
    obtain ⟨ht, hrest⟩ := agree_cons ha
    obtain ⟨hc, hrest⟩ := agree_cons hrest
    rw [Eval.expr, Eval.expr, hp _ _ ht, hq _ _ hc, hr _ _ (agree_cons hrest).1]
  | .paren _ e => by
    rw [expr]
    refine yields_bind (expr_covers bare e) fun p hp => yields_pure fun env env' ha => ?_
    rw [Eval.expr, Eval.expr]
    cases bare
    · exact hp _ _ ha
    · exact hp _ _ ha
  | .assign _ op target value => by
    rw [expr]
    refine yields_bind (place_covers target) fun p hp => ?_
    refine yields_bind (expr_covers false value) fun q hq => yields_pure fun env env' ha => ?_
    rw [Eval.expr, Eval.expr, hq _ _ ha.right, hp.read_agree ha.left]
    simp only [hp.write_agree ha.left]
  | .update s op before target => by
    rw [expr]
    refine yields_bind (place_covers target) fun p hp => yields_pure fun env env' ha => ?_
    rw [Eval.expr, Eval.expr, hp.read_agree ha]
    simp only [hp.write_agree ha]

theorem exprs_covers : ∀ es : List Expr, Yields (fun ps => List.Forall₂ (Piece.Covers m) ps es)
    (exprs o es)
  | [] => yields_pure .nil
  | e :: es => by
    rw [exprs]
    refine yields_bind (expr_covers false e) fun p hp => ?_
    exact yields_bind (exprs_covers es) fun ps hps => yields_pure (.cons hp hps)

theorem object_covers : ∀ props : List Property, Yields (fun xs => CoversFields m xs props)
    (object o props)
  | [] => yields_pure .nil
  | .mk key value :: props => by
    rw [object]
    refine yields_bind (expr_covers false value) fun p hp => ?_
    exact yields_bind (object_covers props) fun xs hxs => yields_pure (.cons hp hxs)

theorem decorators_covers : ∀ (chain : List Decorator) (p : Piece),
    Yields (fun q => CoversChain m p q chain) (decorators o p chain)
  | [], p => yields_pure fun _ _ ha => ⟨ha, fun _ => rfl⟩
  | .mk at_ n args parens :: chain, p => by
    rw [decorators]
    by_cases hmark : isBindingMark n
    · rw [if_pos hmark]
      intro s q hq env env' ha
      obtain ⟨hp, hchain⟩ := decorators_covers chain p s q hq env env' ha
      refine ⟨hp, fun v => ?_⟩
      rw [Eval.decorators, Eval.decorators, if_pos hmark, if_pos hmark, hchain]
    · have hgo : Yields (fun q => CoversChain m p q (.mk at_ n args parens :: chain))
          (do decorators o (decorated n p (← exprs o args)) chain) := by
        refine yields_bind (exprs_covers args) fun ps hps => ?_
        intro s q hq env env' ha
        obtain ⟨hdecorated, hchain⟩ := decorators_covers chain _ s q hq env env' ha
        have htoolkit := hdecorated.right.toolkit rfl
        refine ⟨hdecorated.left.left, fun v => ?_⟩
        rw [Eval.decorators, Eval.decorators, if_neg hmark, if_neg hmark,
          exprs_agree hps hdecorated.left.right,
          htoolkit]
        simp only [hchain]
      rw [if_neg hmark]
      cases o.decorators with
      | none => exact hgo
      | some known =>
        cases hknown : known.contains n with
        | true =>
          simp only [hknown]
          exact hgo
        | false =>
          simp only [hknown]
          rintro s q ⟨⟩

theorem place_covers : ∀ e : Expr, Yields (fun p => p.Covers m e.unwrap) (place o e)
  | .ident s n => yields_pure (.name s n)
  | .member s base ns n => by
    rw [place]
    exact yields_bind (expr_covers false base) fun p hp => yields_pure (.member hp s ns n)
  | .index s base key => by
    have hbase := expr_covers false base
    have hgeneral : Yields (fun p => p.Covers m (.index s base key))
        (do return Place.property (← expr o false base) (← expr o false key)) :=
      yields_bind hbase fun p hp => yields_bind (expr_covers false key) fun q hq =>
        yields_pure (.index hp hq s)
    cases key with
    | lit ls l =>
      cases l with
      | string value raw =>
        exact yields_bind hbase fun p hp => yields_pure (.index hp (lit_covers _ ls _) s)
      | _ => exact hgeneral
    | _ => exact hgeneral
  | .paren _ inner => place_covers inner
  | .lit _ _ | .this _ | .call _ _ _ | .pipe _ _ _ _ | .array _ _ | .object _ _ | .seq _ _
  | .unary _ _ _ | .binary _ _ _ _ | .logical _ _ _ _ | .cond _ _ _ _ | .assign _ _ _ _
  | .update _ _ _ _ => yields_throw _
end

/-- What a program is compiled to covers the program. -/
lemma program_covers (p : Program) :
    Yields (fun q => ∀ env env' : Env, env.Agree q.flags env' →
      Eval.sequence m env .undefined p.exprs = Eval.sequence m env' .undefined p.exprs)
      (program o p) := by
  rw [program]
  split
  next h =>
    rw [h]
    exact yields_pure fun _ _ _ => rfl
  next e h =>
    rw [h]
    intro s q hq env env' ha
    have hone : List.Forall₂ (Piece.Covers m) [q] [e] := .cons (expr_covers m o false e s q hq) .nil
    refine sequence_agree hone ?_ .undefined
    rw [flagsOf_cons]
    exact (Flags.union_none q.flags).symm ▸ ha
  next es h =>
    refine yields_bind (exprs_covers m o p.exprs) fun ps hps => yields_pure fun env env' ha => ?_
    exact sequence_agree hps ha .undefined

/-- A program with a binding mark is one pipe, perhaps in parentheses. -/
lemma exprs_of_markedPipe {p : Program} {entity : Expr} {chain : List Decorator} {mark : Decorator}
    (h : markedPipe? p = some (entity, chain, mark)) :
    ∃ e s inner cs, p.exprs = [e] ∧ e.unwrap = .pipe s inner cs chain ∧ inner.unwrap = entity := by
  simp only [markedPipe?, Program.single?] at h
  split at h
  next s inner cs chain' hsingle =>
    obtain ⟨_, _, hpair⟩ := Option.map_eq_some_iff.1 h
    obtain ⟨rfl, rfl, rfl⟩ : inner.unwrap = entity ∧ chain' = chain ∧ _ = mark := by
      simpa only [Prod.mk.injEq] using hpair
    split at hsingle
    next e hexprs => exact ⟨e, s, inner, cs, hexprs, Option.some.inj hsingle, rfl⟩
    next => cases hsingle
  next => cases h

/-- A program that is one pipe with a binding mark sends its entity through all of the chain. -/
lemma sequence_markedPipe {p : Program} {entity : Expr} {chain : List Decorator} {mark : Decorator}
    (h : markedPipe? p = some (entity, chain, mark)) (env : Env) :
    Eval.sequence m env .undefined p.exprs =
    (do Eval.decorators m env (← Eval.expr m env entity) chain) := by
  obtain ⟨e, s, inner, cs, hexprs, hunwrap, rfl⟩ := exprs_of_markedPipe h
  rw [hexprs, Eval.expr_unwrap m inner]
  calc Eval.sequence m env .undefined [e] = Eval.expr m env e := by
        simp only [Eval.sequence, bind_pure]
    _ = Eval.expr m env (.pipe s inner cs chain) := by rw [← hunwrap, Eval.expr_unwrap]
    _ = (do Eval.decorators m env (← Eval.expr m env inner) chain) := by rw [Eval.expr]

/-- What a program is compiled to for its value covers the program. -/
lemma value_covers (field : String) (forced : Bool) (p : Program) :
    Yields (fun f => ∀ env env' : Env, env.Agree f.flags env' →
      Eval.sequence m env .undefined p.exprs = Eval.sequence m env' .undefined p.exprs)
      (value o field forced p) := by
  rw [value]
  split
  next entity chain mark hmarked =>
    refine yields_bind (yields_true _) fun b _ => ?_
    refine yields_bind (yields_true _) fun at_ _ => ?_
    refine yields_bind (expr_covers m o false entity) fun v hv => ?_
    refine yields_bind (decorators_covers m o chain v) fun w hw => yields_pure fun env env' ha => ?_
    obtain ⟨hentity, hchain⟩ := hw env env' ha.left
    rw [sequence_markedPipe m hmarked, sequence_markedPipe m hmarked, hv _ _ hentity]
    simp only [hchain]
  next => exact yields_bind (program_covers m o p) fun v hv => yields_pure hv

/-- **Flags are sound.** A program that is compiled for its value is kept with flags.  Two
environments with the same scope that agree in what these flags name give the same value or the same
fault, and the same memory afterwards, whatever memory there was: `this` counts only if the flags
say so, and so do the caller, the data of the ambient contexts, the named children, and the toolkit.
-/
theorem program_agree (field : String) (forced : Bool) (p : Program) (symbols : Symbols)
    (f : Fragment)
    (hcompiled : ((value o field forced p).run.run symbols).1 = .ok f) (env env' : Env)
    (h : env.Agree f.flags env') : Eval.program m env p = Eval.program m env' p := by
  rw [Eval.program, Eval.program, value_covers m o field forced p symbols f hcompiled env env' h]

/-- `this.title|upper` looks at `this` and at the toolkit: another caller, other ambient data and
other children change nothing. -/
theorem program_agree_decorated :
    let p : Program := ⟨[.expr .nowhere
    (.pipe .nowhere (.member .nowhere (.this .nowhere) .nowhere "title") .nowhere
      [.mk .nowhere "upper" [] false])], .nowhere, "this.title|upper"⟩
    let f : Fragment :=
      { body := "M.d(\"upper\", [M.g(this, [\"title\"])])", flags := { self := true, helpers := true } }
    let env : Env := { self := .text "a" }
    let env' : Env :=
      { self := .text "a", caller := .text "b", ambient := [some 0], children := some 1 }
    let m : Machine := { content := fun _ _ => return [], decorator? := fun _ _ => none }
    ((value {} "" false p).run.run {}).1 = .ok f ∧ env.Agree f.flags env' ∧
      Eval.program m env p = Eval.program m env' p := by
  intro p f env env' m
  have hcompiled : ((value {} "" false p).run.run {}).1 = .ok f := rfl
  have hagree : env.Agree f.flags env' := by
    constructor <;> first | exact fun _ => rfl | exact rfl | exact fun h => nomatch h
  exact ⟨hcompiled, hagree, program_agree m {} "" false p {} f hcompiled env env' hagree⟩

end Code

end Trellis
