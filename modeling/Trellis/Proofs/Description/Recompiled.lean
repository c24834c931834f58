/-
Entries are compiled again from their texts.

Of an entry only its text is kept, and what it is used for.  Its program is read again from the
text, so that it has the same tree, but other places.  What it was compiled for once it can be
compiled for again (`Able`), and what it writes to and what it calls are the same but for the
places.  So the entry does what it did before (`Expression.Revived`).
-/
import Trellis.Eval
import Trellis.Proofs.Code.Fragment
import Trellis.Proofs.Description.Built
import Trellis.Render.Interact

/-!
Evaluation does not look at places.

`Expr.bare` leaves out where an expression was read.  Evaluating, reading, writing and calling it
come to the same (`Eval.expr_bare` and its companions), so two programs that differ in their places
only do the same everywhere.
-/

namespace Trellis

namespace Eval

variable (m : Machine) (env : Env)

mutual
theorem expr_bare : (e : Expr) → expr m env e.bare = expr m env e
  | .lit _ _ | .this _ | .ident _ _ => rfl
  | .member s base ns name => by
    have hpath : (Expr.member .nowhere base.bare .nowhere name).path? =
      (Expr.member s base ns name).path? :=
      Expr.path?_bare (.member s base ns name)
    rw [Expr.bare, expr, expr, hpath, expr_bare base]
  | .index s base key => by
    have hpath : (Expr.index .nowhere base.bare key.bare).path? = (Expr.index s base key).path? :=
      Expr.path?_bare (.index s base key)
    rw [Expr.bare, expr, expr, hpath, expr_bare base, expr_bare key]
  | .call s callee args => by
    have hfirst : ∀ n, firstExprs m env n (Expr.bareList args) = firstExprs m env n args :=
      fun n => firstExprs_bare n args
    rw [Expr.bare, expr, expr, Expr.unwrap_bare, Expr.isAssignable_bare, Expr.text_bare,
      resolve_bare callee,
      exprs_bare args, expr_bare callee]
    simp only [hfirst]
  | .pipe _ entity _ chain => by
    have hchain : ∀ v, decorators m env v (Decorator.bareList chain) = decorators m env v chain :=
      fun v => decorators_bare v chain
    rw [Expr.bare, expr, expr, expr_bare entity]
    simp only [hchain]
  | .array _ es => by rw [Expr.bare, expr, expr, exprs_bare es]
  | .object _ ps => by rw [Expr.bare, expr, expr, object_bare ps]
  | .seq _ es => by rw [Expr.bare, expr, expr, sequence_bare _ es]
  | .unary _ _ e => by rw [Expr.bare, expr, expr, expr_bare e]
  | .binary _ _ l r => by rw [Expr.bare, expr, expr, expr_bare l, expr_bare r]
  | .logical _ _ l r => by rw [Expr.bare, expr, expr, expr_bare l, expr_bare r]
  | .cond _ t c a => by rw [Expr.bare, expr, expr, expr_bare t, expr_bare c, expr_bare a]
  | .paren _ inner => by rw [Expr.bare, expr, expr, expr_bare inner]
  | .assign _ op target value => by
    have hwrite : ∀ v, write m env target.bare v = write m env target v :=
      fun v => write_bare target v
    rw [Expr.bare, expr, expr, expr_bare value, read_bare target]
    simp only [hwrite]
  | .update _ op before target => by
    have hwrite : ∀ v, write m env target.bare v = write m env target v :=
      fun v => write_bare target v
    rw [Expr.bare, expr, expr, read_bare target]
    simp only [hwrite]

theorem exprs_bare : (es : List Expr) → exprs m env (Expr.bareList es) = exprs m env es
  | [] => rfl
  | e :: es => by rw [Expr.bareList, exprs, exprs, expr_bare e, exprs_bare es]

lemma firstExprs_bare : (n : Nat) → (es : List Expr) → firstExprs m env n (Expr.bareList es) =
    firstExprs m env n es
  | 0, [] | 0, _ :: _ | _ + 1, [] => rfl
  | n + 1, e :: es =>
    by rw [Expr.bareList, firstExprs, firstExprs, expr_bare e, firstExprs_bare n es]

lemma sequence_bare : (last : Value) → (es : List Expr) →
    sequence m env last (Expr.bareList es) = sequence m env last es
  | _, [] => rfl
  | last, e :: es => by
    have hrest : ∀ v, sequence m env v (Expr.bareList es) = sequence m env v es :=
      fun v => sequence_bare v es
    rw [Expr.bareList, sequence, sequence, expr_bare e]
    simp only [hrest]

lemma object_bare : (ps : List Property) → object m env (Property.bareList ps) = object m env ps
  | [] => rfl
  | .mk key value :: ps => by
    funext fs
    have hname : key.bare.name = key.name := by cases key <;> rfl
    rw [Property.bareList, object, object, expr_bare value, object_bare ps, hname]

lemma decorators_bare : (v : Value) → (ds : List Decorator) →
    decorators m env v (Decorator.bareList ds) = decorators m env v ds
  | _, [] => rfl
  | v, .mk _ name args _ :: ds => by
    have hrest : ∀ v, decorators m env v (Decorator.bareList ds) = decorators m env v ds :=
      fun v => decorators_bare v ds
    rw [Decorator.bareList, decorators, decorators, exprs_bare args]
    simp only [hrest]

lemma resolve_bare : (e : Expr) → resolve m env e.bare = resolve m env e
  | .ident _ _ => rfl
  | .member _ base _ name => by rw [Expr.bare, resolve, resolve, expr_bare base]
  | .index _ base key => by rw [Expr.bare, resolve, resolve, expr_bare base, expr_bare key]
  | .paren _ inner => by rw [Expr.bare, resolve, resolve, resolve_bare inner]
  | .lit _ _ | .this _ | .call _ _ _ | .pipe _ _ _ _ | .array _ _ | .object _ _ | .seq _ _
  | .unary _ _ _ | .binary _ _ _ _ | .logical _ _ _ _ | .cond _ _ _ _ | .assign _ _ _ _
  | .update _ _ _ _ => rfl

lemma read_bare : (e : Expr) → read m env e.bare = read m env e
  | .ident _ _ => rfl
  | .member _ base _ name => by rw [Expr.bare, read, read, expr_bare base]
  | .index _ base key => by rw [Expr.bare, read, read, expr_bare base, expr_bare key]
  | .paren _ inner => by rw [Expr.bare, read, read, read_bare inner]
  | .lit _ _ | .this _ | .call _ _ _ | .pipe _ _ _ _ | .array _ _ | .object _ _ | .seq _ _
  | .unary _ _ _ | .binary _ _ _ _ | .logical _ _ _ _ | .cond _ _ _ _ | .assign _ _ _ _
  | .update _ _ _ _ => rfl

theorem write_bare : (e : Expr) → (v : Value) → write m env e.bare v = write m env e v
  | .ident _ _, _ => rfl
  | .member _ base _ name, v => by rw [Expr.bare, write, write, expr_bare base]
  | .index _ base key, v => by rw [Expr.bare, write, write, expr_bare base, expr_bare key]
  | .paren _ inner, v => by rw [Expr.bare, write, write, write_bare inner v]
  | .lit _ _, _ | .this _, _ | .call _ _ _, _ | .pipe _ _ _ _, _ | .array _ _, _ | .object _ _, _
  | .seq _ _, _
  | .unary _ _ _, _ | .binary _ _ _ _, _ | .logical _ _ _ _, _ | .cond _ _ _ _, _
  | .assign _ _ _ _, _
  | .update _ _ _ _, _ => rfl
end

mutual
lemma isClosed_bare : (e : Expr) → e.bare.isClosed = e.isClosed
  | .lit _ _ | .this _ | .ident _ _ | .assign _ _ _ _ | .update _ _ _ _ | .call _ _ _
  | .member _ _ _ _
  | .index _ _ _ => rfl
  | .pipe _ entity _ chain => by
    have hnames : ∀ ds : List Decorator, ((Decorator.bareList ds).all fun d =>
      isBindingMark d.name) =
        ds.all fun d => isBindingMark d.name := by
      intro ds
      induction ds with
      | nil => rfl
      | cons d ds ih =>
        cases d
        rw [Decorator.bareList, List.all_cons, List.all_cons, ih]
        rfl
    rw [Expr.bare, Expr.isClosed, Expr.isClosed, isClosed_bare entity, hnames]
  | .array _ es | .seq _ es => by rw [Expr.bare, Expr.isClosed, Expr.isClosed, areClosed_bare es]
  | .object _ ps => by rw [Expr.bare, Expr.isClosed, Expr.isClosed, areClosed_bareProperties ps]
  | .unary _ _ e | .paren _ e => by rw [Expr.bare, Expr.isClosed, Expr.isClosed, isClosed_bare e]
  | .binary _ _ l r | .logical _ _ l r => by
    rw [Expr.bare, Expr.isClosed, Expr.isClosed, isClosed_bare l, isClosed_bare r]
  | .cond _ t c a => by
    rw [Expr.bare, Expr.isClosed, Expr.isClosed, isClosed_bare t, isClosed_bare c, isClosed_bare a]

lemma areClosed_bare : (es : List Expr) → Expr.areClosed (Expr.bareList es) = Expr.areClosed es
  | [] => rfl
  | e :: es =>
    by rw [Expr.bareList, Expr.areClosed, Expr.areClosed, isClosed_bare e, areClosed_bare es]

lemma areClosed_bareProperties : (ps : List Property) →
    Property.areClosed (Property.bareList ps) = Property.areClosed ps
  | [] => rfl
  | .mk _ value :: ps => by
    rw [Property.bareList, Property.areClosed, Property.areClosed, isClosed_bare value,
      areClosed_bareProperties ps]
end

/-- Programs that differ in their places only have the same value everywhere. -/
theorem program_congr {p q : Program} (h : p.tree = q.tree) :
    program m env p = program m env q := by
  have hbare : Expr.bareList p.exprs = Expr.bareList q.exprs := by
    rw [Expr.bareList_eq_map, Expr.bareList_eq_map]
    exact h
  have hsequence : sequence m env .undefined p.exprs = sequence m env .undefined q.exprs := by
    rw [← sequence_bare, hbare, sequence_bare]
  have hclosed : Expr.areClosed p.exprs = Expr.areClosed q.exprs := by
    rw [← areClosed_bare, hbare, areClosed_bare]
  rw [program, program, hsequence, hclosed]

end Eval

/-- A handler that differs in its places only calls the same. -/
theorem RenderedEvent.fire_congr (m : Machine) (e : RenderedEvent) {h h' : Option Handler}
    (heq : h.map Handler.bare = h'.map Handler.bare) (args : List Value) :
    RenderedEvent.fire m { e with handler := h } args =
    RenderedEvent.fire m { e with handler := h' } args := by
  have hbare : ∀ g : Handler, RenderedEvent.fire m { e with handler := some g.bare } args =
      RenderedEvent.fire m { e with handler := some g } args := by
    intro g
    cases howner : g.owner with
    | none => simp only [fire, Handler.bare, howner, Option.map_none, Eval.exprs_bare]
    | some owner =>
      simp only [fire, Handler.bare, howner, Option.map_some, Eval.exprs_bare, Eval.expr_bare]
  cases h with
  | none =>
    cases h' with
    | none => rfl
    | some g' => cases heq
  | some g =>
    cases h' with
    | none => cases heq
    | some g' =>
      have hgg' : g.bare = g'.bare := Option.some.inj heq
      rw [← hbare g, hgg', hbare g']

/-- A target that differs in its places only is written to in the same way. -/
theorem RenderedBinding.update_congr (m : Machine) (b : RenderedBinding) {t t' : Option Expr}
    (heq : t.map Expr.bare = t'.map Expr.bare) (v : Value) :
    RenderedBinding.update m { b with target := t } v =
    RenderedBinding.update m { b with target := t' } v := by
  cases t with
  | none =>
    cases t' with
    | none => rfl
    | some u' => cases heq
  | some u =>
    cases t' with
    | none => cases heq
    | some u' =>
      have huu' : u.bare = u'.bare := Option.some.inj heq
      change Eval.write m b.env u v = Eval.write m b.env u' v
      rw [← Eval.write_bare, huu', Eval.write_bare]

end Trellis

namespace Trellis

/-- An entry that does the same as another, but for the places in what it is made of. -/
structure Expression.Revived (e e' : Expression) : Prop where
  source : e'.source = e.source
  body : e'.body = e.body
  flags : e'.flags = e.flags
  bind : e'.bind = e.bind
  event : e'.event = e.event
  tree : e'.program.tree = e.program.tree
  target : e'.target.map Expr.bare = e.target.map Expr.bare
  handler : e'.handler.map Handler.bare = e.handler.map Handler.bare

namespace Code

variable {α β : Type} {R : α → β → Prop} {o : Options} {p q : Program}

/-- What ends like something that succeeds, succeeds. -/
lemma Succeeds.of_alike {w : Compile α} {w' : Compile β} (h : Succeeds w) (halike : Alike R w w') :
    Succeeds w' := by
  obtain ⟨a, ha⟩ := h {}
  exact halike.succeeds {} a ha

/-! ### Programs with one tree -/

section

variable (h : p.tree = q.tree)

include h

lemma succeeds_value (hp : Succeeds (value o "" false p)) : Succeeds (value o "" false q) := by
  have hbare := hp.of_alike (value_alike_bare (rfl : o.decorators = o.decorators) p "" false)
  rw [Program.bare_eq h] at hbare
  exact hbare.of_alike (value_alike_bare rfl q "" false).symm

lemma succeeds_bind (hp : Succeeds (bind o "" p)) : Succeeds (bind o "" q) := by
  have hbare := hp.of_alike (bind_alike_bare (rfl : o.decorators = o.decorators) p "")
  rw [Program.bare_eq h] at hbare
  exact hbare.of_alike (bind_alike_bare rfl q "").symm

lemma succeeds_event (hp : Succeeds (event o p)) : Succeeds (event o q) := by
  have hbare := hp.of_alike (event_alike_bare (rfl : o.decorators = o.decorators) p)
  rw [Program.bare_eq h] at hbare
  exact hbare.of_alike (event_alike_bare rfl q).symm

lemma markedPipe?_of_tree :
    ((markedPipe? p).map (·.1)).map Expr.bare = ((markedPipe? q).map (·.1)).map Expr.bare := by
  have hbare : ∀ r : Program, ((markedPipe? r).map (·.1)).map Expr.bare = (markedPipe? r.bare).map
      (·.1) := by
    intro r
    rw [markedPipe?_bare, Option.map_map, Option.map_map]
    rfl
  rw [hbare, hbare, Program.bare_eq h]

lemma single?_of_tree : (p.single?.map Expr.unwrap).map Expr.bare = (q.single?.map Expr.unwrap).map
    Expr.bare := by
  have hbare : ∀ r : Program, (r.single?.map Expr.unwrap).map Expr.bare =
      r.bare.single?.map Expr.unwrap := by
    intro r
    rw [Program.single?_bare, Option.map_map, Option.map_map]
    exact congrArg (Option.map · r.single?) (funext fun e => (Expr.unwrap_bare e).symm)
  rw [hbare, hbare, Program.bare_eq h]

lemma handler_of_tree : (p.single?.bind fun e => (handlerOf e.unwrap).toOption).map Handler.bare =
    (q.single?.bind fun e => (handlerOf e.unwrap).toOption).map Handler.bare := by
  have hbare : ∀ r : Program, (r.single?.bind fun e =>
    (handlerOf e.unwrap).toOption).map Handler.bare =
      r.bare.single?.bind fun e => (handlerOf e.unwrap).toOption := by
    intro r
    rw [Program.single?_bare]
    cases r.single? with
    | none => rfl
    | some e =>
      rw [Option.map_some, Option.bind_some, Option.bind_some, Expr.unwrap_bare, handlerOf_bare]
  rw [hbare, hbare, Program.bare_eq h]

end

end Code

namespace Description

variable {α β : Type} {c : Code.Options} {Q : α → Prop} {R : β → Prop}

namespace Draft

/-- Work succeeds with any symbols, and `Q` holds of its result. -/
def Gives (w : StateT Symbols (Except Fault) α) (Q : α → Prop) : Prop :=
  ∀ s : Symbols, ∃ a t, w s = .ok (a, t) ∧ Q a

lemma gives_pure {a : α} (h : Q a) : Gives (pure a) Q := fun s => ⟨a, s, rfl, h⟩

lemma Gives.bind {w : StateT Symbols (Except Fault) α} {g : α → StateT Symbols (Except Fault) β}
    (hw : Gives w Q) (hg : ∀ a, Q a → Gives (g a) R) : Gives (w >>= g) R := by
  intro s
  obtain ⟨a, t, hrun, ha⟩ := hw s
  obtain ⟨b, u, hrun', hb⟩ := hg a ha t
  refine ⟨b, u, ?_, hb⟩
  change (w s >>= fun r => g r.1 r.2) = _
  rw [hrun]
  exact hrun'

/-- Compiling what succeeds. -/
lemma gives_compiled {w : Code.Compile Code.Fragment} {P : Code.Fragment → Prop}
    (h : Code.Succeeds w) (hP : Code.Yields P w) : Gives (compiled w) P := by
  intro s
  obtain ⟨f, hf⟩ := h s
  rcases hrun : w.run.run s with ⟨r, t⟩
  rw [hrun] at hf
  obtain rfl : r = .ok f := hf
  refine ⟨f, t, ?_, hP s f (by rw [hrun])⟩
  have hrun' : w.run s = (.ok f, t) := hrun
  rw [compiled, hrun']

lemma gives_zipIdx {γ δ : Type} {S : γ → β → Prop} {f : δ → Nat → StateT Symbols (Except Fault) β}
    {g : γ → δ} {xs : List γ} (h : ∀ x ∈ xs, ∀ i, Gives (f (g x) i) (S x)) (n : Nat) :
    Gives (((xs.map g).zipIdx n).mapM fun x => f x.1 x.2) fun ys => List.Forall₂ S xs ys := by
  induction xs generalizing n with
  | nil => exact gives_pure .nil
  | cons x xs ih =>
    rw [List.map_cons, List.zipIdx_cons, List.mapM_cons]
    refine (h x List.mem_cons_self n).bind fun y hy => ?_
    refine (ih (fun x' hx' => h x' (List.mem_cons_of_mem _ hx')) (n + 1)).bind fun ys hys => ?_
    exact gives_pure (.cons hy hys)

end Draft

/-- Compiling an entry again: first for its value, then for what it writes to and what it calls. -/
lemma Draft.recompile_eq {i : Nat} {e : Draft.Expression} {q : Program}
    (h : Program.parse e.source = .ok q) :
    recompile c i (some e) = (do
      let value ← compiled (Code.value c "" false q)
      let target ← (if !e.bind then pure none
        else if value.target.isSome then pure value.target
        else do pure (← compiled (Code.bind c "" q)).target : StateT Symbols (Except Fault) (Option Expr))
      let handler ← (if e.event then do pure (← compiled (Code.event c q)).handler else pure none :
        StateT Symbols (Except Fault) (Option Handler))
      return {
        source := e.source, body := e.body, flags := .ofCode e.flags.toNat, bind := e.bind
        event := e.event, program := q, target, handler }) := by
  rw [recompile]
  simp only [h, pure_bind]
  refine bind_congr fun value => ?_
  split_ifs <;> simp only [pure_bind, bind_assoc]

/-- Flags are known from their number. -/
lemma ofCode_code (f : Flags) : Flags.ofCode f.code = f := by
  rcases f with ⟨self, caller, context, children, helpers, translation, debug, rawText⟩
  revert self caller context children helpers translation debug rawText
  decide

/-- The target of an entry is found again. -/
lemma gives_target {e : Expression} {q : Program} (hable : Able c e)
    (htree : e.program.tree = q.tree) {f : Code.Fragment} (hf : f.OfValue q false) :
    Draft.Gives (if !e.toDraft.bind then pure none
      else if f.target.isSome then pure f.target
      else do pure (← Draft.compiled (Code.bind c "" q)).target)
      fun target => target.map Expr.bare = e.target.map Expr.bare := by
  have hmarked := Code.markedPipe?_of_tree htree
  have hsingle := Code.single?_of_tree htree
  have htarget := hable.target
  have hbind : e.toDraft.bind = e.bind := rfl
  rw [hbind, hf.target]
  cases he : e.bind with
  | false =>
    rw [he] at htarget
    refine Draft.gives_pure ?_
    rw [htarget]
    rfl
  | true =>
    rw [he, if_pos rfl] at htarget
    cases hp : Code.markedPipe? e.program with
    | some m =>
      rw [hp] at hmarked htarget
      cases hm : Code.markedPipe? q with
      | none =>
        rw [hm] at hmarked
        cases hmarked
      | some m' =>
        rw [hm] at hmarked
        refine Draft.gives_pure ?_
        rw [htarget]
        exact hmarked.symm
    | none =>
      rw [hp] at hmarked htarget
      cases hm : Code.markedPipe? q with
      | some m' =>
        rw [hm] at hmarked
        cases hmarked
      | none =>
        have hwrites := Code.succeeds_bind htree (hable.writes he hp)
        refine (Draft.gives_compiled hwrites (Code.yields_bindTarget c q "")).bind fun g hg =>
          Draft.gives_pure ?_
        rw [hg.target, htarget]
        exact hsingle.symm

/-- The handler of an entry is found again. -/
lemma gives_handler {e : Expression} {q : Program} (hable : Able c e)
    (htree : e.program.tree = q.tree) :
    Draft.Gives (if e.toDraft.event then do pure (← Draft.compiled (Code.event c q)).handler
      else pure none)
      fun handler => handler.map Handler.bare = e.handler.map Handler.bare := by
  have hhandler := hable.handler
  have hevent : e.toDraft.event = e.event := rfl
  rw [hevent]
  cases he : e.event with
  | false =>
    rw [he] at hhandler
    refine Draft.gives_pure ?_
    rw [hhandler]
    rfl
  | true =>
    rw [he, if_pos rfl] at hhandler
    have hcalls := Code.succeeds_event htree (hable.calls he)
    refine (Draft.gives_compiled hcalls (Code.yields_event c q)).bind fun g hg =>
      Draft.gives_pure ?_
    rw [hg.handler, hhandler]
    exact (Code.handler_of_tree htree).symm

/-- **Compiling again.** An entry whose program can be read from its text can be compiled again, and
does what it did before. -/
theorem recompile_toDraft {e : Expression} (hable : Able c e) (hsource : e.source = e.program.text)
    (hread : e.program.IsRead) (hsigns : e.program.signsApart = true) (i : Nat) :
    Draft.Gives (Draft.recompile c i (some e.toDraft)) e.Revived := by
  obtain ⟨_, hparse⟩ := hread
  have hscan := Program.scan_text hparse hsigns
  rw [← Token.face_all] at hscan
  obtain ⟨q, hq, htree⟩ := Program.parse_of_faces (Program.parse_fits hparse) hscan
  have hpq : e.program.tree = q.tree := htree.symm
  have hparse' : Program.parse e.toDraft.source = .ok q := by
    change Program.parse e.source = .ok q
    rw [hsource, hq]
  have hvalue := Code.succeeds_value hpq hable.value
  rw [Draft.recompile_eq hparse']
  refine (Draft.gives_compiled hvalue (Code.yields_value c q "" false)).bind fun f hf => ?_
  refine (gives_target hable hpq hf).bind fun target htarget => ?_
  refine (gives_handler hable hpq).bind fun handler hhandler => Draft.gives_pure ?_
  exact {
    source := rfl, body := rfl, flags := ofCode_code e.flags, bind := rfl, event := rfl
    tree := htree, target := htarget, handler := hhandler }

end Description

end Trellis
