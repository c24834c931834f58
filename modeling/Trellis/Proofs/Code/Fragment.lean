/-
What compiling a program says besides its text.

In each of its three uses a program is compiled like the same program with other symbols
(`Code.value_alike`, `Code.bind_alike`, `Code.event_alike`) and without its places (`Program.bare`).
What it writes to and what it calls are parts of the program itself, which `Code.yields_value`,
`Code.yields_bindTarget` and `Code.yields_event` name.
-/
import Trellis.Proofs.Code.Verdict

namespace Trellis

/-! ### Programs without places -/

/-- A program without places, and without its empty statements. -/
def Program.bare (p : Program) : Program := ⟨p.tree.map (Stmt.expr .nowhere), .nowhere, ""⟩

/-- A decorator without places. -/
def Decorator.bare : Decorator → Decorator
  | .mk _ name arguments parens => .mk .nowhere name (Expr.bareList arguments) parens

lemma Decorator.bareList_eq_map (ds : List Decorator) :
    Decorator.bareList ds = ds.map Decorator.bare := by
  induction ds with
  | nil => rfl
  | cons d ds ih =>
    obtain ⟨span, name, args, parens⟩ := d
    rw [bareList, ih]
    rfl

lemma Expr.bareList_eq_map (es : List Expr) : Expr.bareList es = es.map Expr.bare := by
  induction es with
  | nil => rfl
  | cons e es ih => rw [bareList, ih, List.map_cons]

namespace Program

variable {p q : Program}

lemma exprs_bare (p : Program) : p.bare.exprs = p.tree := by
  simp only [bare, exprs, List.filterMap_map, Function.comp_def, Stmt.expr?, List.filterMap_some]

lemma bare_eq (h : p.tree = q.tree) : p.bare = q.bare := by rw [bare, bare, h]

lemma single?_bare (p : Program) : p.bare.single? = p.single?.map Expr.bare := by
  rw [single?, single?, exprs_bare, tree]
  rcases p.exprs with _ | ⟨e, _ | ⟨f, es⟩⟩ <;> rfl

end Program

mutual
lemma Expr.decorations_bare : (e : Expr) →
    e.bare.nodes.any Node.isDecoration = e.nodes.any Node.isDecoration
  | .this _ | .ident _ _ | .lit _ _ => rfl
  | .array _ es | .seq _ es => by
    simp only [Expr.bare, Expr.nodes, List.any_append, Expr.decorationsList_bare es]
    rfl
  | .object _ ps => by
    simp only [Expr.bare, Expr.nodes, List.any_append, Property.decorationsList_bare ps]
    rfl
  | .unary _ _ a => by
    simp only [Expr.bare, Expr.nodes, List.any_append, Expr.decorations_bare a]
    rfl
  | .binary _ _ l r | .logical _ _ l r => by
    simp only [Expr.bare, Expr.nodes, List.any_append, Expr.decorations_bare l,
      Expr.decorations_bare r]
    rfl
  | .cond _ t c a => by
    simp only [Expr.bare, Expr.nodes, List.any_append, Expr.decorations_bare t,
      Expr.decorations_bare c, Expr.decorations_bare a]
    rfl
  | .assign _ _ t v => by
    simp only [Expr.bare, Expr.nodes, List.any_append, Expr.decorations_bare t,
      Expr.decorations_bare v]
    rfl
  | .update _ _ _ t => by
    simp only [Expr.bare, Expr.nodes, List.any_append, Expr.decorations_bare t]
    rfl
  | .call _ f es => by
    simp only [Expr.bare, Expr.nodes, List.any_append, Expr.decorations_bare f,
      Expr.decorationsList_bare es]
    rfl
  | .member _ o _ _ => by
    simp only [Expr.bare, Expr.nodes, List.any_append, Expr.decorations_bare o]
    rfl
  | .index _ o i => by
    simp only [Expr.bare, Expr.nodes, List.any_append, Expr.decorations_bare o,
      Expr.decorations_bare i]
    rfl
  | .pipe _ e _ ds => by simp [Expr.bare, Expr.nodes, Node.isDecoration]
  | .paren _ inner => by
    simp only [Expr.bare, Expr.nodes, List.any_append, Expr.decorations_bare inner]
    rfl

lemma Expr.decorationsList_bare : (es : List Expr) →
    (Expr.nodesList (Expr.bareList es)).any Node.isDecoration =
      (Expr.nodesList es).any Node.isDecoration
  | [] => rfl
  | e :: es => by
    simp only [Expr.bareList, Expr.nodesList, List.any_append, Expr.decorations_bare e,
      Expr.decorationsList_bare es]

lemma Property.decorationsList_bare : (ps : List Property) →
    (Property.nodesList (Property.bareList ps)).any Node.isDecoration =
      (Property.nodesList ps).any Node.isDecoration
  | [] => rfl
  | .mk _ value :: ps => by
    simp only [Property.bareList, Property.nodesList, Property.nodes, List.any_append,
      Expr.decorations_bare value, Property.decorationsList_bare ps]
end

namespace Code

/-! ### What is bound and what is called -/

lemma pathRoot_bare (e : Expr) : pathRoot e.bare = (pathRoot e).bare := by
  fun_induction pathRoot e with
  | case1 s base ns name ih => exact ih
  | case2 s base key ih => exact ih
  | case3 s inner ih => exact ih
  | case4 e hmember hindex hparen =>
    cases e with
    | member s base ns name => exact absurd rfl (hmember s base ns name)
    | index s base key => exact absurd rfl (hindex s base key)
    | paren s inner => exact absurd rfl (hparen s inner)
    | _ => rfl

lemma isFrozen_bare (e : Expr) : isFrozen e.bare = isFrozen e := by
  rw [isFrozen, isFrozen, pathRoot_bare]
  cases pathRoot e <;> rfl

/-- What is bound is known from the expression without its places. -/
lemma toOption_bindTarget (e : Expr) (field : String) :
    (bindTarget e field).toOption =
      if e.isAssignable && !isFrozen e && !e.nodes.any Node.isDecoration then
        some { field, target := e.text, direction := "fromContext", path := e.path?.map (·.drop 1) }
      else none := by
  cases he : e.isAssignable with
  | false => cases e <;> first | rfl | cases he
  | true =>
    have hstart : bindTarget e field = (do
        if isFrozen e then throw (faultAt .bindFrozen e [])
        if e.nodes.any Node.isDecoration then throw (faultAt .bindDecorated e [])
        return {
          field, target := e.text, direction := "fromContext", path :=
              e.path?.map (·.drop 1) }) := by
      cases e <;> first | rfl | cases he
    rw [hstart]
    cases isFrozen e <;> cases e.nodes.any Node.isDecoration <;> rfl

lemma bindTarget_bare (e : Expr) (field : String) :
    (bindTarget e.bare field).toOption = (bindTarget e field).toOption := by
  rw [toOption_bindTarget, toOption_bindTarget, Expr.isAssignable_bare, isFrozen_bare,
    Expr.decorations_bare, Expr.text_bare, Expr.path?_bare]

lemma called?_bare (e : Expr) :
    called? e.bare = (called? e).map fun c => (c.1.bare, Expr.bareList c.2) := by
  cases e with
  | call s callee args => simp only [Expr.bare, called?, Expr.unwrap_bare, Option.map_some]
  | _ => rfl

lemma handlerOf_bare (e : Expr) :
    (handlerOf e.bare).toOption = (handlerOf e).toOption.map Handler.bare := by
  rw [handlerOf, handlerOf, called?_bare]
  cases called? e with
  | none => rfl
  | some c =>
    obtain ⟨callee, args⟩ := c
    simp only [Option.map_some, Expr.staticName?_bare]
    cases callee with
    | index s base key => cases Expr.staticName? (.index s base key) <;> rfl
    | _ => rfl

/-- The pipe with a binding mark is the same one without places. -/
lemma markedPipe?_bare (p : Program) :
    markedPipe? p.bare =
      (markedPipe? p).map fun m => (m.1.bare, Decorator.bareList m.2.1, m.2.2.bare) := by
  rw [markedPipe?, markedPipe?, Program.single?_bare]
  cases p.single? with
  | none => rfl
  | some e =>
    simp only [Option.map_some, Expr.unwrap_bare]
    cases e.unwrap with
    | pipe s entity cs chain =>
      have hname : ∀ d : Decorator, d.bare.name = d.name := by
        rintro ⟨⟩
        rfl
      simp only [Expr.bare, Decorator.bareList_eq_map, List.find?_map, Function.comp_def, hname,
        Expr.unwrap_bare, Option.map_map]
    | _ => rfl

lemma markedBinding_bare (d : Decorator) (b : Binding) :
    markedBinding d.bare b = markedBinding d b := by
  obtain ⟨span, name, args, parens⟩ := d
  have hlength : (Expr.bareList args).length = args.length := by
    rw [Expr.bareList_eq_map, List.length_map]
  simp only [markedBinding, Decorator.bare, Decorator.name, Decorator.arguments, hlength]
  rcases args with _ | ⟨e, es⟩
  · rfl
  · cases e with
    | lit s l => cases l <;> rfl
    | _ => rfl

/-! ### The three uses -/

/-- Two compiled programs that differ in their texts, and in the places of what they refer to. -/
structure Fragment.Same (f g : Fragment) : Prop where
  flags : f.flags = g.flags
  forced : f.forced = g.forced
  constant : f.constant = g.constant
  binding : f.binding = g.binding
  target : f.target.map Expr.bare = g.target
  handler : f.handler.map Handler.bare = g.handler

lemma alike_except {α β : Type} {r : Except Fault α} {q : Except Fault β} {g : α → β}
    (h : q.toOption = r.toOption.map g) :
    Alike (fun a b => g a = b) (ExceptT.mk (pure r)) (ExceptT.mk (pure q)) := by
  intro s t
  change Ends (fun a b => g a = b) r q
  cases r with
  | error f =>
    cases q with
    | error f' => exact True.intro
    | ok b => cases h
  | ok a =>
    cases q with
    | error f' => cases h
    | ok b => exact (Option.some.inj h).symm

section

variable {o o' : Options} (ho : o.decorators = o'.decorators) (p : Program)

include ho

lemma program_alike :
    Alike (Piece.Same (Expr.areClosed p.exprs)) (program o p) (program o' p.bare) := by
  rw [program, program, Program.exprs_bare, Program.tree]
  rcases p.exprs with _ | ⟨e, _ | ⟨f, es⟩⟩
  · exact alike_pure ⟨rfl, rfl, rfl⟩
  · have h := expr_alike ho false e
    simp only [List.map_cons, List.map_nil, Expr.areClosed, Bool.and_true]
    exact h
  · rw [← Expr.bareList_eq_map]
    exact alike_bind (exprs_alike ho (e :: f :: es)) fun ps qs h =>
      alike_pure (sequence_same h "; ")

theorem value_alike_bare (field : String) (forced : Bool) :
    Alike Fragment.Same (value o field forced p) (value o' field forced p.bare) := by
  rw [value, value, markedPipe?_bare]
  cases markedPipe? p with
  | none =>
    refine alike_bind (program_alike ho p) fun v w h => alike_pure ?_
    exact ⟨h.flags, rfl, by rw [h.left, h.right], rfl, rfl, rfl⟩
  | some m =>
    obtain ⟨entity, chain, mark⟩ := m
    have hbound : (bindTarget entity.bare field).toOption = (bindTarget entity field).toOption.map
        id := by
      rw [bindTarget_bare, Option.map_id, id]
    refine alike_bind (alike_except hbound) fun b b' hb => ?_
    refine alike_bind (place_alike ho entity) fun l l' hl => ?_
    refine alike_bind (expr_alike ho false entity) fun v w hv => ?_
    refine alike_bind (decorators_alike ho chain hv) fun v' w' hv' => alike_pure ?_
    obtain rfl : b = b' := hb
    exact {
      flags := by simp only [hv'.flags, hl.flags_eq]
      forced := rfl
      constant := rfl
      binding := by simp only [markedBinding_bare]
      target := rfl
      handler := rfl }

theorem bind_alike_bare (field : String) :
    Alike Fragment.Same (bind o field p) (bind o' field p.bare) := by
  rw [bind, bind, Program.exprs_bare, Program.tree]
  rcases p.exprs with _ | ⟨e, _ | ⟨f, es⟩⟩
  · exact alike_throw _ _
  · simp only [List.map_cons, List.map_nil, Expr.unwrap_bare]
    have hbound : (bindTarget e.unwrap.bare field).toOption =
        (bindTarget e.unwrap field).toOption.map id := by
      rw [bindTarget_bare, Option.map_id, id]
    refine alike_bind (alike_except hbound) fun b b' hb => ?_
    refine alike_bind (expr_alike ho false e.unwrap) fun v w hv => ?_
    refine alike_bind (place_alike ho e.unwrap) fun l l' hl => alike_pure ?_
    obtain rfl : b = b' := hb
    exact {
      flags := by simp only [hv.flags, hl.flags_eq]
      forced := rfl
      constant := rfl
      binding := rfl
      target := rfl
      handler := rfl }
  · exact alike_throw _ _

theorem event_alike_bare : Alike Fragment.Same (event o p) (event o' p.bare) := by
  rw [event, event, Program.exprs_bare, Program.tree]
  rcases p.exprs with _ | ⟨e, _ | ⟨f, es⟩⟩
  · exact alike_throw _ _
  · simp only [List.map_cons, List.map_nil, Expr.unwrap_bare]
    refine alike_bind (alike_except (handlerOf_bare e.unwrap)) fun h h' hh => ?_
    obtain rfl : h.bare = h' := hh
    obtain ⟨name, owner, args⟩ := h
    have hcall : ∀ v w : Piece, v.flags = w.flags →
        Alike Fragment.Same
          (do
            let ps ← exprs o args
            return {
              body := helperCall .callMethod [v.text, pathText [name], bracketed (textsOf ps)]
              flags := v.flags.carried ∪ (flagsOf ps).carried
              forced := true, evaluates := false, handler := some ⟨name, owner, args⟩ })
          (do
            let ps ← exprs o' (Expr.bareList args)
            return {
              body := helperCall .callMethod [w.text, pathText [name], bracketed (textsOf ps)]
              flags := w.flags.carried ∪ (flagsOf ps).carried
              forced := true, evaluates := false
              handler := some ⟨name, owner.map Expr.bare, Expr.bareList args⟩ }) := by
      intro v w hv
      refine alike_bind (exprs_alike ho args) fun ps qs hps => alike_pure ?_
      exact {
        flags := by simp only [hv, flagsOf_eq hps.flags]
        forced := rfl
        constant := rfl
        binding := rfl
        target := rfl
        handler := rfl }
    cases owner with
    | none => exact hcall _ _ rfl
    | some base => exact alike_bind (expr_alike ho false base) fun v w hv => hcall v w hv.flags
  · exact alike_throw _ _

end

/-! ### What each use gives -/

lemma closed_unwrap (e : Expr) : e.unwrap.closed = e.closed := by
  fun_induction Expr.unwrap e with
  | case1 s inner ih => rw [ih, Expr.closed]
  | case2 e hparen => rfl

/-- A closed expression that can be assigned to is `undefined`. -/
lemma closed_of_bindTarget {e : Expr} {field : String} {b : Binding}
    (h : bindTarget e field = .ok b) :
    e.closed = .undefined := by
  have hassignable : e.isAssignable := by
    have hsome := toOption_bindTarget e field
    rw [h] at hsome
    cases he : e.isAssignable with
    | true => rfl
    | false =>
      rw [he] at hsome
      cases hsome
  cases e <;> first | rfl | cases hassignable

lemma closed_of_handlerOf {e : Expr} {g : Handler} (h : handlerOf e = .ok g) :
    e.closed = .undefined := by
  cases hcalled : called? e with
  | none =>
    rw [handlerOf, hcalled] at h
    cases h
  | some c => cases e <;> first | rfl | cases hcalled

/-- The compiled value of a program: it writes to what carries a binding mark, and it is constant if
the program is closed and has no such mark. -/
structure Fragment.OfValue (p : Program) (forced : Bool) (f : Fragment) : Prop where
  target : f.target = (markedPipe? p).map (·.1)
  handler : f.handler = none
  binding : f.binding.isSome = (markedPipe? p).isSome
  constant : f.constant = ((markedPipe? p).isNone && Expr.areClosed p.exprs && !forced)

/-- The compiled target of a binding writes to the one expression of the program, which is no
constant. -/
structure Fragment.OfBind (p : Program) (f : Fragment) : Prop where
  target : f.target = p.single?.map Expr.unwrap
  handler : f.handler = none
  closed : p.closed = .undefined

/-- The compiled handler of an event calls what the one expression of the program calls, which is no
constant. -/
structure Fragment.OfEvent (p : Program) (f : Fragment) : Prop where
  target : f.target = none
  handler : f.handler = p.single?.bind fun e => (handlerOf e.unwrap).toOption
  closed : p.closed = .undefined

section

variable (o : Options) (p : Program)

lemma yields_program : Yields (fun v => v.constant = Expr.areClosed p.exprs) (program o p) :=
  (program_alike rfl p : Alike _ (program o p) (program o p.bare)).yields fun _ _ h => h.left

theorem yields_value (field : String) (forced : Bool) :
    Yields (Fragment.OfValue p forced) (value o field forced p) := by
  rw [value]
  cases h : markedPipe? p with
  | none =>
    refine yields_bind (yields_program o p) fun v hv => yields_pure ?_
    exact
      { target := by rw [h]; rfl, handler := rfl, binding := by rw [h]; rfl
        constant := by rw [h, hv]; rfl }
  | some m =>
    obtain ⟨entity, chain, mark⟩ := m
    refine yields_bind (yields_true _) fun b _ => yields_bind (yields_true _) fun l _ => ?_
    refine yields_bind (yields_true _) fun v _ => yields_bind (yields_true _) fun v' _ =>
      yields_pure ?_
    exact
      { target := by rw [h]; rfl, handler := rfl, binding := by rw [h]; rfl
        constant := by rw [h]; rfl }

theorem yields_bindTarget (field : String) : Yields (Fragment.OfBind p) (bind o field p) := by
  rw [bind]
  split
  · next e he =>
    refine yields_bind (yields_except _) fun b hb => yields_bind (yields_true _) fun v _ => ?_
    refine yields_bind (yields_true _) fun l _ => yields_pure ?_
    have hsingle : p.single? = some e := by rw [Program.single?, he]
    have hclosed : p.closed = e.closed := by
      rw [Program.closed, he, Expr.lastClosed, Expr.lastClosed]
    refine { target := by rw [hsingle]; rfl, handler := rfl, closed := ?_ }
    rw [hclosed, ← closed_unwrap, closed_of_bindTarget hb]
  · exact yields_throw _

theorem yields_event : Yields (Fragment.OfEvent p) (event o p) := by
  rw [event]
  split
  · next e he =>
    refine yields_bind (yields_except _) fun g hg => ?_
    have hsingle : p.single? = some e := by rw [Program.single?, he]
    have hclosed : p.closed = e.closed := by
      rw [Program.closed, he, Expr.lastClosed, Expr.lastClosed]
    have hgiven : ∀ f : Fragment, f.target = none → f.handler = some g → f.OfEvent p := by
      intro f htarget hhandler
      refine { target := htarget, handler := ?_, closed := ?_ }
      · rw [hhandler, hsingle, Option.bind_some, hg]
        rfl
      · rw [hclosed, ← closed_unwrap, closed_of_handlerOf hg]
    dsimp only
    split
    · exact yields_bind (yields_true _) fun v _ => yields_bind (yields_true _) fun ps _ =>
        yields_pure (hgiven _ rfl rfl)
    · exact yields_bind (yields_true _) fun v _ => yields_bind (yields_true _) fun ps _ =>
        yields_pure (hgiven _ rfl rfl)
  · exact yields_throw _

end

/-- Two compiled programs that differ in their texts only. -/
structure Fragment.Like (f g : Fragment) : Prop where
  flags : f.flags = g.flags
  constant : f.constant = g.constant
  binding : f.binding = g.binding
  target : f.target = g.target
  handler : f.handler = g.handler

/-- Two programs that are the same one without its places, and of which more is known. -/
lemma Alike.like {P : Fragment → Prop} {c c' d : Compile Fragment} (h : Alike Fragment.Same c d)
    (h' : Alike Fragment.Same c' d) (hc : Yields P c) (hc' : Yields P c')
    (hP : ∀ f g, P f → P g → f.target = g.target ∧ f.handler = g.handler) :
    Alike Fragment.Like c c' := by
  refine ((h.trans h'.symm).and hc hc').mono ?_
  rintro f g ⟨⟨x, hf, hg⟩, hpf, hpg⟩
  obtain ⟨htarget, hhandler⟩ := hP f g hpf hpg
  exact {
    flags := hf.flags.trans hg.flags.symm
    constant := hf.constant.trans hg.constant.symm
    binding := hf.binding.trans hg.binding.symm
    target := htarget
    handler := hhandler }

section

variable {o o' : Options} (ho : o.decorators = o'.decorators) (p : Program)

include ho

theorem value_alike (field : String) (forced : Bool) :
    Alike Fragment.Like (value o field forced p) (value o' field forced p) := by
  have hbare := value_alike_bare ho p field forced
  refine hbare.like (value_alike_bare rfl p field forced) (yields_value o p field forced)
    (yields_value o' p field forced) fun f g hf hg => ?_
  exact ⟨hf.target.trans hg.target.symm, hf.handler.trans hg.handler.symm⟩

theorem bind_alike (field : String) : Alike Fragment.Like (bind o field p) (bind o' field p) := by
  have hbare := bind_alike_bare ho p field
  refine hbare.like (bind_alike_bare rfl p field) (yields_bindTarget o p field)
    (yields_bindTarget o' p field) fun f g hf hg => ?_
  exact ⟨hf.target.trans hg.target.symm, hf.handler.trans hg.handler.symm⟩

theorem event_alike : Alike Fragment.Like (event o p) (event o' p) := by
  have hbare := event_alike_bare ho p
  refine hbare.like (event_alike_bare rfl p) (yields_event o p) (yields_event o' p) fun f g hf hg =>
    ?_
  exact ⟨hf.target.trans hg.target.symm, hf.handler.trans hg.handler.symm⟩

/-- Without a binding mark, neither the field nor the use makes a difference. -/
theorem value_alike_unmarked (h : markedPipe? p = none) (field field' : String)
    (forced forced' : Bool) :
    Alike (fun f g => f.flags = g.flags) (value o field forced p) (value o' field' forced' p) := by
  have hprogram := (program_alike ho p).trans (program_alike rfl p).symm
  rw [value, value, h]
  refine alike_bind hprogram fun v w hvw => alike_pure ?_
  obtain ⟨x, hv, hw⟩ := hvw
  exact hv.flags.trans hw.flags.symm

end

/-! ### Compiling again -/

section

variable {α β : Type} {R : α → β → Prop}

/-- Compiling succeeds, whatever the symbols. -/
def Succeeds (w : Compile α) : Prop := ∀ s : Symbols, ∃ a, (w.run.run s).1 = .ok a

lemma succeeds_pure (a : α) : Succeeds (pure a : Compile α) := fun _ => ⟨a, rfl⟩

lemma Succeeds.bind {w : Compile α} {k : α → Compile β} (h : Succeeds w)
    (hk : ∀ a, Succeeds (k a)) :
    Succeeds (w >>= k) := by
  intro s
  obtain ⟨a, ha⟩ := h s
  obtain ⟨b, hb⟩ := hk a (w.run.run s).2
  exact ⟨b, by rw [run_bind_ok ha, hb]⟩

/-- What succeeds once succeeds always, and so does what ends like it. -/
lemma Alike.succeeds {w : Compile α} {w' : Compile β} (h : Alike R w w') :
    Yields (fun _ => Succeeds w') w := by
  intro s a ha t
  have hends := h s t
  rw [ha] at hends
  obtain ⟨b, hb, -⟩ := hends.ok
  exact ⟨b, hb⟩

lemma Yields.and {P Q : α → Prop} {w : Compile α} (h : Yields P w) (h' : Yields Q w) :
    Yields (fun a => P a ∧ Q a) w :=
  fun s a ha => ⟨h s a ha, h' s a ha⟩

/-- Compiling twice ends alike if it ends like something else. -/
lemma Alike.twice {w : Compile α} {w' : Compile β} (h : Alike R w w') :
    Alike (fun a b => ∃ x, R a x ∧ R b x) w w := h.trans h.symm

end

section

variable {o : Options} (p : Program)

/-- Parentheses around an expression do not matter. -/
lemma succeeds_expr_unwrap (b b' : Bool) (e : Expr) (h : Succeeds (expr o b e.unwrap)) :
    Succeeds (expr o b' e) := by
  fun_induction Expr.unwrap e generalizing b' with
  | case1 s inner ih =>
    rw [expr]
    exact (ih b' h).bind fun _ => succeeds_pure _
  | case2 e hparen =>
    have hsame : expr o b' e = expr o b e := by
      cases e with
      | paren s inner => exact absurd rfl (hparen s inner)
      | index s base key => cases key <;> rfl
      | _ => rfl
    rwa [hsame]

/-- Neither the field nor the use decides whether a value compiles. -/
lemma value_alike_use (field field' : String) (forced forced' : Bool) :
    Alike (fun _ _ => True) (value o field forced p) (value o field' forced' p) := by
  rw [value, value]
  cases markedPipe? p with
  | none =>
    exact alike_bind (program_alike (o := o) rfl p).twice fun _ _ _ => alike_pure trivial
  | some m =>
    obtain ⟨entity, chain, mark⟩ := m
    have hbound : (bindTarget entity field').toOption =
        (bindTarget entity field).toOption.map fun b => { b with field := field' } := by
      rw [toOption_bindTarget, toOption_bindTarget]
      split <;> rfl
    refine alike_bind (alike_except hbound) fun _ _ _ => ?_
    refine alike_bind (place_alike (o := o) rfl entity).twice fun _ _ _ => ?_
    refine alike_bind (expr_alike (o := o) rfl false entity).twice fun v w ⟨x, hv, hw⟩ => ?_
    have hchain := (decorators_alike (o := o) rfl chain hv).trans (decorators_alike (o :=
      o) rfl chain hw).symm
    exact alike_bind hchain fun _ _ _ => alike_pure trivial

/-- The field does not decide whether the target of a binding compiles. -/
lemma bind_alike_field (field field' : String) : Alike (fun _ _ => True) (bind o field p)
    (bind o field' p) := by
  rw [bind, bind]
  rcases p.exprs with _ | ⟨e, _ | ⟨f, es⟩⟩
  · exact alike_throw _ _
  · have hbound : (bindTarget e.unwrap field').toOption =
        (bindTarget e.unwrap field).toOption.map fun b => { b with field := field' } := by
      rw [toOption_bindTarget, toOption_bindTarget]
      split <;> rfl
    refine alike_bind (alike_except hbound) fun _ _ _ => ?_
    refine alike_bind (expr_alike (o := o) rfl false e.unwrap).twice fun _ _ _ => ?_
    exact alike_bind (place_alike (o := o) rfl e.unwrap).twice fun _ _ _ => alike_pure trivial
  · exact alike_throw _ _

/-- What can be bound has a value, and carries no binding mark. -/
lemma yields_bind_value (field : String) :
    Yields (fun _ => Succeeds (value o "" false p) ∧ markedPipe? p = none) (bind o field p) := by
  rw [bind]
  split
  · next e he =>
    have hexpr := (expr_alike (o := o) rfl false e.unwrap).twice
    refine yields_bind (yields_except _) fun b hb => yields_bind hexpr.succeeds fun v hv => ?_
    refine yields_bind (yields_true _) fun l _ => yields_pure ?_
    have hsingle : p.single? = some e := by rw [Program.single?, he]
    have hunmarked : markedPipe? p = none := by
      rw [markedPipe?, hsingle, Option.map_some]
      cases hpipe : e.unwrap with
      | pipe s entity cs chain =>
        rw [hpipe] at hb
        cases hb
      | _ => rfl
    refine ⟨?_, hunmarked⟩
    rw [value, hunmarked]
    refine Succeeds.bind ?_ fun _ => succeeds_pure _
    rw [program, he]
    exact succeeds_expr_unwrap false false e hv
  · exact yields_throw _

end

end Code

end Trellis
