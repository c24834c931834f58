/-
Folding keeps what a template renders.

Two templates whose descriptions agree render the same: an expression that folding replaced by a
constant evaluates to this constant in every environment, and does nothing else.  Instruction by
instruction the two do the same work on memory (`Render.instruction_agrees`), and so do the bodies
that call each other (`Workshop.bodyTo_agrees`).  So a template renders the same whether it is built
with or without folding (`Template.render_folded`).
-/
import Trellis.Proofs.Description.Fold
import Trellis.Render.Template

namespace Trellis

open Description

/-- An entry that shows and does the same as another one, wherever it is evaluated; they may have
been read in different places. -/
structure Expression.Alike (e e' : Expression) : Prop where
  source : e.source = e'.source
  value : ∀ (m : Machine) (env : Env), Eval.program m env e.program = Eval.program m env e'.program
  target : e.target.map Expr.bare = e'.target.map Expr.bare
  handler : e.handler.map Handler.bare = e'.handler.map Handler.bare

lemma Expression.Alike.symm {e e' : Expression} (h : e.Alike e') : e'.Alike e :=
  ⟨h.source.symm, fun m env => (h.value m env).symm, h.target.symm, h.handler.symm⟩

lemma Expression.Alike.trans {e e' e'' : Expression} (h : e.Alike e') (h' : e'.Alike e'') :
    e.Alike e'' :=
  ⟨h.source.trans h'.source, fun m env => (h.value m env).trans (h'.value m env),
    h.target.trans h'.target,
    h.handler.trans h'.handler⟩

lemma Expression.alike_of_core {e e' : Expression} (h : e.core = e'.core) : e.Alike e' := by
  obtain ⟨hsource, -, -, hprogram, htarget, hhandler⟩ := core_eq_iff.1 h
  exact ⟨hsource, fun m env => by rw [hprogram], by rw [htarget], by rw [hhandler]⟩

/-- Two templates that are put together alike.  What belongs together in their tables does the same,
and where a constant stands in the first, the second has an expression that always is this constant.
-/
structure Template.Agrees (ref : Nat → Nat → Prop) (fold : Datum → Nat → Prop) (t t' : Template) :
    Prop where
  module : t.description.module = t'.description.module
  entry : ∀ {i j : Nat}, ref i j → ∃ e e', t.description.expressions[i]? = some e ∧
    t'.description.expressions[j]? = some e' ∧ e.Alike e'
  constant : ∀ {d : Datum} {j : Nat}, fold d j → ∃ (e' : Expression) (v : Closed),
    t'.description.expressions[j]? = some e' ∧ v.datum? = some d ∧
      ∀ (m : Machine) (env : Env), Eval.program m env e'.program = pure (v.value 0)
  size : t.description.bodies.size = t'.description.bodies.size
  bodies : ∀ {i : Nat} {b b' : Body}, t.description.bodies[i]? = some b →
    t'.description.bodies[i]? = some b' →
    BodyAgrees ref fold b b'
  toolkit : t.toolkit = t'.toolkit
  body : t.body = t'.body
  isModule : t.isModule = t'.isModule

namespace Render

section

variable {α β γ δ : Type} {w : Run α}

lemma mapM_congr {xs : List β} {ys : List γ} {f : β → Run δ} {g : γ → Run δ}
    (h : List.Forall₂ (fun x y => f x = g y) xs ys) : xs.mapM f = ys.mapM g := by
  induction h with
  | nil => rfl
  | cons hxy _ ih => rw [List.mapM_cons, List.mapM_cons, hxy, ih]

lemma foldlM_congr {xs : List β} {ys : List γ} {f : δ → β → Run δ} {g : δ → γ → Run δ}
    (h : List.Forall₂ (fun x y => ∀ z, f z x = g z y) xs ys) (z : δ) :
    xs.foldlM f z = ys.foldlM g z := by
  induction h generalizing z with
  | nil => rfl
  | cons hxy _ ih =>
    rw [List.foldlM_cons, List.foldlM_cons, hxy]
    exact bind_congr fun z => ih z

/-- What follows a nested context is only about contexts that watch as little. -/
lemma nested_congr {c : Context} {step : String} {f g : Context → Run α}
    (h : ∀ inner : Context, inner.watching = c.watching → f inner = g inner) :
    (c.nested step >>= f) = (c.nested step >>= g) := by
  have hwatching : (c.spawn step).watching = c.watching := by
    rw [Context.spawn]
    split <;> rfl
  rw [Context.nested, bind_assoc, bind_assoc]
  exact bind_congr fun scope => h _ hwatching

end

variable {ref : Nat → Nat → Prop} {fold : Datum → Nat → Prop} {t t' : Template} {w : Workshop}
  {r : Renderer} {c : Context}

/-! ### Slots -/

section

variable (h : t.Agrees ref fold t')

include h

lemma contain_agrees {α : Type} (c : Context) (instead : α) (work : Run α) :
    contain t c instead work = contain t' c instead work := by
  rw [contain, contain, h.module]

/-- Slots that belong together have entries that do the same. -/
lemma expression_agrees {i j : Nat} (hij : ref i j) :
    ∃ e e', expression? t i = some e ∧ expression? t' j = some e' ∧ e.Alike e' :=
  h.entry hij

lemma eval_agrees (r : Renderer) (c : Context) {i j : Nat} (hij : ref i j) :
    eval t r c i = eval t' r c j := by
  obtain ⟨e, e', he, he', halike⟩ := expression_agrees h hij
  simp only [eval, he, he', h.toolkit, halike.value]

lemma event_agrees (c : Context) (name : String) {i j : Nat} (hij : ref i j) :
    event t c name i = event t' c name j := by
  obtain ⟨e, e', he, he', halike⟩ := expression_agrees h hij
  simp only [event, he, he', h.toolkit, Option.map_some, Option.bind_some, halike.source,
    halike.handler]

lemma binding_agrees (c : Context) (name : String) {i j : Nat} (hij : ref i j)
    (b : Option Binding) :
    binding t c name i b = binding t' c name j b := by
  obtain ⟨e, e', he, he', halike⟩ := expression_agrees h hij
  simp only [binding, he, he', h.toolkit, Option.bind_some, halike.target]

end

/-- A constant is what it was folded from. -/
lemma constant_datum {v : Closed} {d : Datum} (h : v.datum? = some d) :
    constant d = pure (v.value 0) ∧ ∀ html, v.value 0 ≠ .raw html := by
  cases v with
  | null | text _ | number _ | bool _ =>
    cases h
    exact ⟨rfl, fun _ => Value.noConfusion⟩
  | undefined | list _ | object => cases h

/-- An expression that was folded gives the constant, whatever it is evaluated in. -/
lemma folded_agrees (h : t.Agrees ref fold t') (r : Renderer) (c : Context) {d : Datum} {j : Nat}
    (hd : fold d j) : ∃ v, (∀ html, v ≠ .raw html) ∧ constant d = pure v ∧
      contain t' c (.text "") (eval t' r c j) = pure v := by
  obtain ⟨e, v, he, hdatum, hvalue⟩ := h.constant hd
  obtain ⟨hconstant, hraw⟩ := constant_datum hdatum
  refine ⟨v.value 0, hraw, hconstant, ?_⟩
  have heval : eval t' r c j = pure (v.value 0) := by
    rw [eval, show expression? t' j = some e from he]
    exact hvalue _ _
  rw [heval]
  rfl

/-! ### Texts, attributes and calls -/

/-- Parts that are not alone are put together as text. -/
lemma parts_eq (t : Template) (r : Renderer) (c : Context) {ps : List Part} (hps : ps.length ≠ 1) :
    parts t r c ps = (do
      let texts ← ps.mapM fun p => do (← part t r c p).toText r.machine
      return .text (String.join texts)) := by
  rw [parts]
  rintro s rfl
  exact hps rfl

section

variable (h : t.Agrees ref fold t')

include h

theorem part_agrees (r : Renderer) (c : Context) {p q : Part} (hpq : PartAgrees ref fold p q) :
    part t r c p = part t' r c q := by
  cases hpq with
  | text s => rfl
  | expr trusted hij => rw [part, part, contain_agrees h, eval_agrees h r c hij]
  | folded trusted hd =>
    obtain ⟨v, -, hconstant, heval⟩ := folded_agrees h r c hd
    rw [part, part, hconstant, heval]
  | translation text context => rw [part, part, h.toolkit]

theorem parts_agrees (r : Renderer) (c : Context) {ps qs : List Part}
    (hps : List.Forall₂ (PartAgrees ref fold) ps qs) : parts t r c ps = parts t' r c qs := by
  have hmapM : (ps.mapM fun p => do (← part t r c p).toText r.machine) =
      (qs.mapM fun q => do (← part t' r c q).toText r.machine) :=
    mapM_congr (hps.imp fun p q hpq => by rw [part_agrees h r c hpq])
  cases hps with
  | nil =>
    have hlength : ([] : List Part).length ≠ 1 := Nat.zero_ne_one
    rw [parts_eq t r c hlength, parts_eq t' r c hlength, hmapM]
  | @cons p q ps qs hpq hrest =>
    cases hrest with
    | nil => exact part_agrees h r c hpq
    | @cons p' q' ps qs hpq' hrest =>
      have hlength : (p :: p' :: ps).length ≠ 1 := by simp
      have hlength' : (q :: q' :: qs).length ≠ 1 := by simp
      rw [parts_eq t r c hlength, parts_eq t' r c hlength', hmapM]

omit h in
/-- A text is trusted on one side only if it is a constant there, which is no markup. -/
lemma isTrusted_agrees (h : t.Agrees ref fold t') (r : Renderer) (c : Context) {ps qs : List Part}
    (hps : List.Forall₂ (PartAgrees ref fold) ps qs) :
    isTrusted ps = isTrusted qs ∨ ∃ v, (∀ html, v ≠ .raw html) ∧ parts t r c ps = pure v := by
  cases hps with
  | nil => exact .inl rfl
  | cons hpq hrest =>
    cases hrest with
    | cons hpq' hrest => cases hpq <;> exact .inl rfl
    | nil =>
      cases hpq with
      | folded trusted hd =>
        obtain ⟨v, hraw, hconstant, -⟩ := folded_agrees h r c hd
        exact .inr ⟨v, hraw, hconstant⟩
      | _ => exact .inl rfl

theorem text_agrees (r : Renderer) (c : Context) (key : String) {ps qs : List Part}
    (hps : List.Forall₂ (PartAgrees ref fold) ps qs) : text t r c key ps = text t' r c key qs := by
  have hparts := parts_agrees h r c hps
  rw [text, text, ← hparts]
  obtain htrusted | ⟨v, hraw, hv⟩ := isTrusted_agrees h r c hps
  · rw [htrusted]
  · rw [hv, pure_bind, pure_bind]
    cases v with
    | raw html => exact absurd rfl (hraw html)
    | _ => rfl

theorem elementAttrs_agrees (r : Renderer) (c : Context) {as bs : List Attr}
    (has : List.Forall₂ (AttrAgrees ref fold) as bs) :
    elementAttrs t r c as = elementAttrs t' r c bs := by
  rw [elementAttrs, elementAttrs]
  refine congrArg (· >>= _) (mapM_congr (has.imp ?_))
  rintro ⟨name, v⟩ ⟨name', v'⟩ ⟨hname, hv⟩
  obtain rfl : name = name' := hname
  cases hv with
  | markup hps => simp only [parts_agrees h r c hps]
  | option hps => simp only [parts_agrees h r c hps]
  | bind b hij => simp only [contain_agrees h, eval_agrees h r c hij]
  | event hij => simp only [event_agrees h c name hij]

end

mutual
theorem optionValue_agrees (h : t.Agrees ref fold t') (r : Renderer) (c : Context) :
    ∀ {v w : OptionValue},
    OptionValueAgrees ref fold v w → optionValue t r c v = optionValue t' r c w
  | _, _, .scalar type hps => by simp only [optionValue, parts_agrees h r c hps]
  | _, _, .array hos => by rw [optionValue, optionValue, options_agrees h r c hos]
  | _, _, .object hos => by rw [optionValue, optionValue, options_agrees h r c hos]

theorem options_agrees (h : t.Agrees ref fold t') (r : Renderer) (c : Context) :
    ∀ {os ps : List OptionSpec},
    OptionsAgree ref fold os ps → options t r c os = options t' r c ps
  | _, _, .nil => by rw [options, options]
  | _, _, .cons name hv hos => by
    rw [options, options, optionValue_agrees h r c hv, options_agrees h r c hos]
end

section

variable (h : t.Agrees ref fold t')

include h

theorem callAttr_agrees (r : Renderer) (c : Context) (call : ControlCall) (fs : Fields) {a b : Attr}
    (hab : AttrAgrees ref fold a b) : callAttr t r c call fs a = callAttr t' r c call fs b := by
  obtain ⟨name, v⟩ := a
  obtain ⟨name', v'⟩ := b
  obtain ⟨hname, hv⟩ := hab
  obtain rfl : name = name' := hname
  cases hv with
  | markup hps => simp only [callAttr, parts_agrees h r c hps]
  | option hps => simp only [callAttr, parts_agrees h r c hps]
  | bind b hij =>
    simp only [callAttr, contain_agrees h, eval_agrees h r c hij, binding_agrees h c name hij]
  | event hij => simp only [callAttr, event_agrees h c name hij]

theorem callOf_agrees (r : Renderer) (c : Context) (key name : String) {k l : Call}
    (hkl : CallAgrees ref fold k l) : callOf t r c key name k = callOf t' r c key name l := by
  obtain ⟨attrs, options, contents, watch⟩ := k
  obtain ⟨attrs', options', contents', watch'⟩ := l
  obtain ⟨hattrs, hoptions, hcontents⟩ := hkl
  obtain rfl : contents = contents' := hcontents
  have hfold : ∀ z : ControlCall × Fields,
      attrs.foldlM (fun (acc : ControlCall × Fields) a => callAttr t r c acc.1 acc.2 a) z =
        attrs'.foldlM (fun (acc : ControlCall × Fields) a => callAttr t' r c acc.1 acc.2 a) z :=
    fun z => foldlM_congr (hattrs.imp fun a b hab (z : ControlCall × Fields) =>
      callAttr_agrees h r c z.1 z.2 hab) z
  simp only [callOf, hfold, options_agrees h r c hoptions]

end

/-! ### Instructions -/

section

variable (h : t.Agrees ref fold t')

include h

/-- The inline templates are the same. -/
lemma template?_agrees (name : String) : t.description.template? name =
    t'.description.template? name := by
  have hbody : ∀ i : Nat, (t.description.bodies[i]?).any (fun b => b.kind == .template &&
    b.name == name) =
      (t'.description.bodies[i]?).any fun b => b.kind == .template && b.name == name := by
    intro i
    have hsize := h.size
    cases hb : t.description.bodies[i]? with
    | none =>
      rw [Array.getElem?_eq_none_iff, hsize, ← Array.getElem?_eq_none_iff] at hb
      rw [hb]
    | some b =>
      obtain ⟨hi, -⟩ := Array.getElem?_eq_some_iff.1 hb
      have hb' : t'.description.bodies[i]? = some t'.description.bodies[i] :=
        Array.getElem?_eq_getElem (hsize ▸ hi)
      obtain ⟨hkind, hname, -⟩ := h.bodies hb hb'
      rw [hb', Option.any_some, Option.any_some, hkind, hname]
  rw [Description.template?, Description.template?, lastBody?, lastBody?, h.size]
  simp only [hbody]

theorem partialBody_agrees (r : Renderer) (c : Context) (call : ControlCall) {s s' : Target}
    (hs : TargetAgrees ref s s') : partialBody w t r c call s = partialBody w t' r c call s' := by
  cases hs with
  | inline name => simp only [partialBody, h.isModule, template?_agrees h]
  | static name => rfl
  | @dynamic i j name hij =>
    have hnot : ∀ i : Nat, ¬(i : Int) < 0 := fun i => by omega
    simp only [partialBody, if_neg (hnot i), if_neg (hnot j), Int.toNat_natCast,
      eval_agrees h r c hij]

/-- Outside of watching, a call is what it is called with and what is made of that. -/
theorem calling_agrees (r : Renderer) (hc : c.watching = false) (key name : String) {k l : Call}
    (hkl : CallAgrees ref fold k l) {render render' : ControlCall → Run (List Rendered)}
    (hrender : ∀ call, render call = render' call) :
    calling t r c key name k render = calling t' r c key name l render' := by
  simp only [calling, hc, Bool.false_eq_true, if_false, callOf_agrees h r c key name hkl, hrender,
    contain_agrees h]

omit h in
lemma collect_eq (r : Renderer) (hc : c.watching = false) (watch watch' : Option Nat) :
    collect t r c watch = collect t' r c watch' := by
  simp only [collect, hc]
  rfl

theorem steps_agrees (hc : c.watching = false) {l : Context} (hl : l.watching = false)
    {test test' update update' : Run Bool} (htest : test = test') (hupdate : update = update')
    {body body' : Context → Run (List Rendered)}
    (hbody : ∀ inner : Context, inner.watching = false → body inner = body' inner) (left : Nat) :
    ∀ (done : Nat) (made : List (List Rendered)),
      steps t c l test update body left done made = steps t' c l test' update' body' left done
      made := by
  subst htest hupdate
  induction left with
  | zero => exact fun _ _ => rfl
  | succ left ih =>
    intro done made
    rw [steps, steps]
    simp only [steps.tryTest, steps.tryUpdate, hc, contain_agrees h, ih]
    refine bind_congr fun goes => ?_
    cases goes with
    | false => rfl
    | true =>
      refine nested_congr fun inner hinner => ?_
      rw [hbody inner (hinner.trans hl)]

lemma clause_agrees (r : Renderer) (c : Context) {i j : Option Nat} (hij : ClauseAgrees ref i j) :
    clause t r c i = clause t' r c j := by
  cases hij with
  | none => rfl
  | some hij => exact eval_agrees h r c hij

theorem loop_agrees (r : Renderer) (hc : c.watching = false) (names : List String)
    {init init' test test' update update' : Option Nat} (hinit : ClauseAgrees ref init init')
    (htest : ClauseAgrees ref test test') (hupdate : ClauseAgrees ref update update')
    {body body' : Context → Run (List Rendered)}
    (hbody : ∀ inner : Context, inner.watching = false → body inner = body' inner) :
    loop t r c names init test update body = loop t' r c names init' test' update' body' := by
  rw [loop, loop]
  refine nested_congr fun inner hinner => bind_congr fun _ => ?_
  simp only [clause_agrees h r inner hinit, clause_agrees h r inner htest,
    clause_agrees h r inner hupdate,
    hc, contain_agrees h, steps_agrees h hc (hinner.trans hc) rfl rfl hbody]
  rfl

theorem each_agrees (r : Renderer) (hc : c.watching = false) (index iterator : String) {i j : Nat}
    (hij : ref i j) {body body' : Context → Run (List Rendered)}
    (hbody : ∀ inner : Context, inner.watching = false → body inner = body' inner) :
    each t r c i index iterator body = each t' r c j index iterator body' := by
  simp only [each, hc, eval_agrees h r c hij, contain_agrees h, Bool.false_and, Bool.false_eq_true,
    if_false]
  refine bind_congr fun found => ?_
  cases found with
  | none => rfl
  | some v =>
    refine congrArg (v.walk r.machine [] · >>= _) (funext fun made => funext fun key =>
      funext fun element => ?_)
    refine bind_congr fun step => nested_congr fun inner hinner => ?_
    rw [hbody inner (hinner.trans hc)]

lemma test_agrees (r : Renderer) (c : Context) {i j : Nat} (hij : ref i j) :
    test t r c i = test t' r c j := by
  simp only [test, eval_agrees h r c hij, contain_agrees h]

lemma arm_agrees (r : Renderer) (c : Context) (first : Bool) {i j : Option Nat}
    (hij : ClauseAgrees ref i j) (body : Run (List Rendered)) (chain : Chain Rendered) :
    arm t r c first i body chain = arm t' r c first j body chain := by
  cases hij with
  | none => cases first <;> simp only [arm, Option.map_none]
  | some hij =>
    have htest := test_agrees h r c hij
    cases first <;> simp only [arm, htest, Option.map_some]

end

mutual
theorem instruction_agrees (h : t.Agrees ref fold t') (r : Renderer) :
    ∀ {c : Context} {i j : Instruction},
    c.watching = false → InstructionAgrees ref fold i j →
    instruction w t r c i = instruction w t' r c j
  | c, _, _, _, .text key hps => by rw [instruction, instruction, text_agrees h r c key hps]
  | c, _, _, hc, .element key name void has hs => by
    simp only [instruction, hc, Bool.false_eq_true, if_false, elementAttrs_agrees h r c has,
      instructions_agrees h r hc hs]
  | _, _, _, hc, .component key name hkl => by
    rw [instruction, instruction]
    exact calling_agrees h r hc key name hkl fun _ => rfl
  | c, _, _, hc, .partialCall key hs hkl => by
    have hbody := fun call => partialBody_agrees (w := w) h r c call hs
    cases hs with
    | inline name => exact calling_agrees h r hc key name hkl hbody
    | static name => exact calling_agrees h r hc key name hkl hbody
    | dynamic name hij => exact calling_agrees h r hc key name hkl hbody
  | _, _, _, hc, .branches key has => by simp only [instruction, arms_agrees h r true _ hc has]
  | _, _, _, hc, .loop key names watch watch' hinit htest hupdate hs => by
    rw [instruction, instruction]
    refine loop_agrees h r hc names hinit htest hupdate fun inner hinner => ?_
    rw [collect_eq r hinner watch watch', instructions_agrees h r hinner hs]
  | _, _, _, hc, .each key index iterator watch watch' hij hs => by
    rw [instruction, instruction]
    refine each_agrees h r hc index iterator hij fun inner hinner => ?_
    rw [collect_eq r hinner watch watch', instructions_agrees h r hinner hs]

theorem instructions_agrees (h : t.Agrees ref fold t') (r : Renderer) :
    ∀ {c : Context} {is js : List Instruction}, c.watching = false →
    InstructionsAgree ref fold is js →
      instructions w t r c is = instructions w t' r c js
  | _, _, _, _, .nil => by rw [instructions, instructions]
  | _, _, _, hc, .cons hij hs => by
    rw [instructions, instructions, instruction_agrees h r hc hij, instructions_agrees h r hc hs]

theorem arms_agrees (h : t.Agrees ref fold t') (r : Renderer) :
    ∀ {c : Context} (first : Bool) (chain : Chain Rendered) {as bs : List Arm}, c.watching = false →
      ArmsAgree ref fold as bs → arms w t r c first chain as = arms w t' r c first chain bs
  | _, _, _, _, _, _, .nil => by rw [arms, arms]
  | c, first, _, _, _, hc, .cons watch watch' hij hs has => by
    rw [arms, arms, collect_eq r hc watch watch', instructions_agrees h r hc hs,
      arm_agrees h r c first hij]
    exact bind_congr fun chain => arms_agrees h r false chain hc has
end

/-- A body renders the same in both. -/
theorem body_agrees (h : t.Agrees ref fold t') (r : Renderer) (hc : c.watching = false)
    (at_ : Nat) :
    body w t r c at_ = body w t' r c at_ := by
  have hsize := h.size
  rw [body, body]
  cases hb : t.description.bodies[at_]? with
  | none =>
    rw [Array.getElem?_eq_none_iff, hsize, ← Array.getElem?_eq_none_iff] at hb
    rw [hb]
  | some b =>
    obtain ⟨hi, -⟩ := Array.getElem?_eq_some_iff.1 hb
    have hb' : t'.description.bodies[at_]? = some t'.description.bodies[at_] :=
      Array.getElem?_eq_getElem (hsize ▸ hi)
    have hs := (h.bodies hb hb').children
    have hcollect : collect t r c b.watch = collect t' r c t'.description.bodies[at_].watch :=
      collect_eq r hc _ _
    simp only [hb', hcollect, instructions_agrees h r hc hs]

end Render

namespace Workshop

open Render

variable {ref : Nat → Nat → Prop} {fold : Datum → Nat → Prop} {t t' : Template} (w : Workshop)

/-- Bodies that call each other render the same, whichever of the two a rendering starts with. -/
theorem bodyTo_agrees (h : t.Agrees ref fold t') (depth : Nat) :
    w.bodyTo t depth = w.bodyTo t' depth := by
  induction depth with
  | zero => rfl
  | succ depth ih =>
    funext c at_
    rw [bodyTo, bodyTo, ih]
    cases hc : c.subject with
    | start =>
      have htemplate : ∀ s : Template, c.template s = s := fun s => by rw [Context.template, hc]
      have hwatching : c.watching = false := by rw [Context.watching, hc]
      rw [htemplate, htemplate]
      exact body_agrees h _ hwatching at_
    | kept s watching => simp only [Context.template, hc]

/-- A rendering starts the same with both. -/
theorem begin_agrees (h : t.Agrees ref fold t') (i : Invocation) : w.begin t i = w.begin t' i := by
  rw [begin, begin, bodyTo_agrees w h, h.module, h.body]

end Workshop

/-! ### Templates built with and without folding -/

/-- Memory once its contents keep the template that a rendering was started with. -/
def Memory.settled (t : Template) (m : Memory) : Memory := ((Memory.settle t).on m).2

/-- A rendering is what it starts with; contents that it passed keep the template then. -/
lemma Workshop.render_on (w : Workshop) (t : Template) (i : Invocation) (m : Memory) :
    (w.render t i).on m = (((w.begin t i).on m).1, ((w.begin t i).on m).2.settled t) := by
  have hcaught := Run.on_tryCatch (w.begin t i) (fun f => do
    Memory.settle t
    throw f) m
  obtain ⟨result, m', hbegin⟩ : ∃ result m', (w.begin t i).on m = (result, m') := ⟨_, _, rfl⟩
  rw [hbegin] at hcaught ⊢
  cases result with
  | ok nodes =>
    rw [render, Run.on_bind hcaught]
    rfl
  | error f =>
    rw [render, Run.on_bind_error hcaught]
    rfl

/-- The template of a description whose first body is its only root. -/
lemma Template.ofDescription_rooted {d : Description} (hd : Rooted d.bodies) (toolkit : Toolkit) :
    ofDescription d toolkit = .ok { description := d, body := 0, toolkit, isModule := true } := by
  have hone : ¬d.rootCount ≠ 1 := fun hne => hne (rootCount_eq_one hd)
  rw [ofDescription, if_neg hone, root?_eq_zero hd]
  rfl

/-- Descriptions that agree give templates that agree. -/
lemma Template.agrees_ofDescription {ref : Nat → Nat → Prop} {fold : Datum → Nat → Prop}
    {d d' : Description} (h : d.Agrees ref fold d') (toolkit : Toolkit) :
    ∃ t t', ofDescription d toolkit = .ok t ∧ ofDescription d' toolkit = .ok t' ∧
    t.Agrees ref fold t' := by
  refine ⟨_, _, ofDescription_rooted h.root toolkit, ofDescription_rooted h.root' toolkit, ?_⟩
  refine ⟨h.module, fun hij => ?_, fun hd => ?_, h.size, h.body, rfl, rfl, rfl⟩
  · obtain ⟨e, e', he, he', hcore⟩ := h.entry hij
    exact ⟨e, e', he, he', Expression.alike_of_core hcore⟩
  · obtain ⟨e, he, hclosed, hdatum⟩ := h.constant hd
    exact ⟨e, e.program.closed, he, hdatum, fun m env =>
      Eval.program_eq_pure m env hclosed (Closed.isPrimitive_of_datum? hdatum)⟩

/-- What is built with constants folded or not is built both ways, and the two descriptions agree.
-/
lemma agrees_variants {α : Type} {module : String} {ns : List Markup.Node} {a : Annotated α}
    {o : Options}
    {d : Description} (ha : Annotated.ofNodes module ns = .ok a) (hd : ofAnnotated o a = .ok d) :
    ∃ d d', ofAnnotated (Build.folding o) a = .ok d ∧ ofAnnotated (Build.plain o) a = .ok d' ∧
      ∃ ref fold, d.Agrees ref fold d' := by
  obtain ⟨hheld, hknows⟩ := Annotated.held_ofNodes ha
  have hends := agrees_ofAnnotated o hheld hknows
  cases hfolds : o.folds with
  | true =>
    have ho : Build.folding o = o := by rw [Build.folding, ← hfolds]
    rw [ho, hd] at hends
    obtain ⟨d', hplain, hagrees⟩ := hends.ok
    exact ⟨d, d', ho ▸ hd, hplain, hagrees⟩
  | false =>
    have ho : Build.plain o = o := by rw [Build.plain, ← hfolds]
    rw [ho, hd] at hends
    obtain ⟨d', hfolded, hagrees⟩ := hends.ok_right
    exact ⟨d', d, hfolded, ho ▸ hd, hagrees⟩

/-- **Folding keeps what a template renders.** A template that is built, with constants folded or
not, is built both ways; and for all data, registries and toolkits, as a tree or as text, the two
render the same nodes or fail with the same fault, and leave the same memory but for contents that
keep the template they belong to.  What compiles to a constant does nothing else than giving one
value, which is no matter of the environment. -/
theorem Template.render_folded {α : Type} {module : String} {ns : List Markup.Node}
    {a : Annotated α} {o : Options} {d : Description} (ha : Annotated.ofNodes module ns = .ok a)
    (hd : ofAnnotated o a = .ok d) (toolkit : Toolkit) :
    (∃ d d' t t', ofAnnotated { o with folds := true } a = .ok d ∧
      ofAnnotated { o with folds := false } a = .ok d' ∧
      ofDescription d toolkit = .ok t ∧ ofDescription d' toolkit = .ok t' ∧
      ∀ (w : Workshop) (i : Invocation) (m : Memory), ∃ result m',
        (w.render t i).on m = (result, Memory.settled t m') ∧
          (w.render t' i).on m = (result, Memory.settled t' m')) ∧
    ∀ (c : Code.Options) (field : String) (forced : Bool) (p : Program) (s : Symbols)
      (f : Code.Fragment),
      ((Code.value c field forced p).run.run s).1 = .ok f → f.constant →
        ∀ machine env, Closed.Gives (Eval.program machine env p) p.closed := by
  constructor
  · obtain ⟨d, d', hfolds, hplain, ref, fold, hagrees⟩ := agrees_variants ha hd
    obtain ⟨t, t', ht, ht', htemplates⟩ := agrees_ofDescription hagrees toolkit
    refine ⟨d, d', t, t', hfolds, hplain, ht, ht', fun w i m => ?_⟩
    refine ⟨((w.begin t i).on m).1, ((w.begin t i).on m).2, w.render_on t i m, ?_⟩
    rw [w.render_on t' i m, w.begin_agrees htemplates i]
  · intro c field forced p s f hrun hconstant machine env
    have hf := Code.yields_value c p field forced s f hrun
    refine Eval.program_closed machine env ?_
    have hclosed := hf.constant.symm.trans hconstant
    simp only [Bool.and_eq_true] at hclosed
    exact hclosed.1.2

/-- A text of a name and a constant. -/
def mixedText : List Markup.Node :=
  let first : Span := ⟨1, 1, 1, 5⟩
  let second : Span := ⟨1, 14, 1, 18⟩
  [.text { key := "0", line := 1, column := 1 }
    [{ key := "0"
       content := .expression "name" ⟨[.expr first (.ident first "name")], first, "name"⟩ },
     { key := "1"
       content := .expression "true"
         ⟨[.expr second (.lit second (.bool true))], second, "true"⟩ }]]

theorem Template.render_folded_mixed :
    ∃ (a : Annotated Unit) (d d' : Description) (t t' : Template),
    Annotated.ofNodes "Mixed" mixedText = .ok a ∧
      ofAnnotated { module := "Mixed", folds := true } a = .ok d ∧
      ofAnnotated { module := "Mixed", folds := false } a = .ok d' ∧
      ofDescription d {} = .ok t ∧ ofDescription d' {} = .ok t' ∧
      ∀ (w : Workshop) (i : Invocation) (m : Memory), ∃ result m',
        (w.render t i).on m = (result, Memory.settled t m') ∧
          (w.render t' i).on m = (result, Memory.settled t' m') := by
  have hok : ((Annotated.ofNodes "Mixed" mixedText : Except Fault (Annotated Unit)).bind fun a =>
      ofAnnotated { module := "Mixed" } a).isOk = true := by decide +kernel
  obtain ⟨a, ha⟩ : ∃ a : Annotated Unit, Annotated.ofNodes "Mixed" mixedText = .ok a := ⟨_, rfl⟩
  rw [ha] at hok
  cases hd : ofAnnotated { module := "Mixed" } a with
  | error f =>
    rw [Except.bind, hd] at hok
    cases hok
  | ok d =>
    obtain ⟨⟨d, d', t, t', hfolded, hplain, ht, ht', hrender⟩, -⟩ := render_folded ha hd {}
    exact ⟨a, d, d', t, t', ha, hfolded, hplain, ht, ht', hrender⟩

end Trellis
