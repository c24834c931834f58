/-
All expressions of a template are compiled.

`Build.Enters` says of a piece of building that the programs which a template asks for are compiled
there.  The value of such a program is constant, and may then be kept in its place, or the program
gets an entry of the table.  As with `Build.Makes` there is one lemma for each way of putting
building together, and one for each function that building is made of.  So whatever a template asks
for has been entered when its description is finished (`entered_ofAnnotated`).
-/
import Trellis.Proofs.Description.Built

namespace Trellis.Description

open Container Markup

variable {a : Arena} {o : Options} {f : Construction}

/-- A program that was compiled: its value is constant, or it has an entry. -/
inductive Entered (c : Code.Options) (f : Construction) (p : Program) : Prop
  | constant {field : String} {s : Symbols} {fragment : Code.Fragment}
    (hvalue : ((Code.value c field false p).run.run s).1 = .ok fragment) (h : fragment.constant =
      true) : Entered c f p
  | entry {e : Expression} (he : f.filling? p.text = some e) (h : e.program = p) : Entered c f p

end Trellis.Description

namespace Trellis

/-- The program that is asked for was compiled, if it is to be. -/
def Request.Entered (c : Code.Options) (f : Description.Construction) : Request → Prop
  | .program p true => Description.Entered c f p
  | .program _ false | .require _ | .translate _ _ | .define _ _ _ => True

namespace Description

open Container Markup

variable {a : Arena} {o : Options} {f : Construction}

namespace Build

open Construction

variable {α β : Type} {rs ss : List Request} {p : Program}

/-- A piece of building keeps constructions sound and adds to them.  If they grow to `f` in the end,
then all that `rs` asks for has been compiled. -/
def Enters (a : Arena) (o : Options) (f : Construction) (rs : List Request) (b : Build α) : Prop :=
  ∀ d x e, d.Sound a (code o) → b.run d = .ok (x, e) →
    e.Sound a (code o) ∧ d.Grows e ∧ (e.Grows f → ∀ r ∈ rs, r.Entered (code o) f)

lemma enters_pure (x : α) : Enters a o f [] (pure x) := by
  rintro d y e hd hrun
  cases hrun
  exact ⟨hd, .refl d, fun _ => List.forall_mem_nil _⟩

lemma enters_bind {b : Build α} {g : α → Build β} (hb : Enters a o f rs b)
    (hg : ∀ x, Enters a o f ss (g x)) :
    Enters a o f (rs ++ ss) (b >>= g) := by
  rintro d y u hd hrun
  rw [run_bind] at hrun
  cases hr : b.run d with
  | error e =>
    rw [hr] at hrun
    cases hrun
  | ok r =>
    obtain ⟨x, e⟩ := r
    rw [hr] at hrun
    obtain ⟨he, hgrows, hfirst⟩ := hb d x e hd hr
    obtain ⟨hu, hgrows', hsecond⟩ := hg x e y u he hrun
    exact ⟨hu, hgrows.trans hgrows', fun hf =>
      List.forall_mem_append.2 ⟨hfirst (hgrows'.trans hf), hsecond hf⟩⟩

/-- Building that nothing asks for comes first. -/
lemma enters_then {b : Build α} {g : α → Build β} (hb : Enters a o f [] b)
    (hg : ∀ x, Enters a o f rs (g x)) :
    Enters a o f rs (b >>= g) := enters_bind hb hg

/-- Building that nothing asks for comes last. -/
lemma enters_map {b : Build α} {g : α → Build β} (hb : Enters a o f rs b)
    (hg : ∀ x, Enters a o f [] (g x)) :
    Enters a o f rs (b >>= g) := by
  have hbind := enters_bind hb hg
  rwa [List.append_nil] at hbind

/-- What asks for nothing else has been entered from the start. -/
lemma Enters.cons {b : Build α} {r : Request} (hr : r.Entered (code o) f) (hb : Enters a o f rs b) :
    Enters a o f (r :: rs) b := by
  rintro d x e hd hrun
  obtain ⟨he, hgrows, hrs⟩ := hb d x e hd hrun
  exact ⟨he, hgrows, fun hf => List.forall_mem_cons.2 ⟨hr, hrs hf⟩⟩

lemma enters_mapM {xs : List β} {g : β → Build α} {r : β → List Request}
    (h : ∀ x ∈ xs, Enters a o f (r x) (g x)) :
    Enters a o f (xs.flatMap r) (xs.mapM g) := by
  induction xs with
  | nil => exact enters_pure []
  | cons x xs ih =>
    rw [List.mapM_cons, List.flatMap_cons]
    refine enters_bind (h x List.mem_cons_self) fun y => ?_
    exact enters_map (ih fun z hz => h z (List.mem_cons_of_mem _ hz)) fun ys => enters_pure _

lemma enters_located {b : Build α} (line column : Nat) (h : Enters a o f rs b) :
    Enters a o f rs (located line column b) := by
  rintro d x e hd hrun
  rw [run_located] at hrun
  cases hr : b.run d with
  | error g =>
    rw [hr] at hrun
    cases hrun
  | ok r =>
    rw [hr] at hrun
    cases hrun
    exact h d x e hd hr

/-- Building that keeps constructions sound and adds to them may stand where nothing is asked for.
-/
lemma enters_of_makes {K : Nat → Prop} {b : Build α} {Q : Nat → α → Prop}
    (h : Makes a (code o) f K b Q) :
    Enters a o f [] b := by
  rintro d x e hd hrun
  obtain ⟨he, hgrows, -⟩ := h d x e hd hrun
  exact ⟨he, hgrows, fun _ => List.forall_mem_nil _⟩

lemma enters_compiled (w : Code.Options → Code.Compile α) : Enters a o f [] (compiled o w) :=
  enters_of_makes (K := fun _ => True) (makes_compiled (Code.yields_true _))

lemma enters_watch (ha : a.Held a.table) (container : Option Nat) : Enters a o f []
    (watch container) :=
  enters_of_makes (K := fun _ => True) (makes_watch ha container)

lemma enters_addBody {b : Body} (hroot : b.kind ≠ .root)
    (hkind : BodyKind.ofName b.kind.name = b.kind) :
    Enters a o f [] (addBody b) :=
  enters_of_makes (K := fun _ => False) (makes_addBody hroot hkind fun _ h => h.elim)

/-- What is compiled for a slot has an entry. -/
lemma enters_slot (use : Use) (hp : a.table.Knows p) : Enters a o f [.program p true]
    (slot o use p) := by
  rintro d i e hd hrun
  obtain ⟨he, hgrows, -, -, en, hen, hprogram, -⟩ := run_slot_grows hd hp use hrun
  refine ⟨he, hgrows, fun hf => List.forall_mem_singleton.2 ?_⟩
  obtain ⟨en', hen', hextends⟩ := hf.entry hen
  exact .entry hen' (hextends.program.trans hprogram)

/-! ### Texts and attributes -/

/-- An expression inside a text is only left out of the table if it is constant. -/
lemma enters_exprPart (field : String) (hp : a.table.Knows p) :
    Enters a o f [.program p true] (exprPart o field p) := by
  rintro d x e hd hrun
  rw [exprPart, run_bind] at hrun
  cases hr : (compiled o (Code.value · field false p)).run d with
  | error g =>
    rw [hr] at hrun
    cases hrun
  | ok r =>
    obtain ⟨fragment, d'⟩ := r
    rw [hr] at hrun
    obtain ⟨hd', hgrows, -⟩ := enters_compiled (f := f) _ d fragment d' hd hr
    dsimp only at hrun
    split at hrun
    next v hv =>
      cases hrun
      refine ⟨hd', hgrows, fun _ => List.forall_mem_singleton.2 ?_⟩
      have hconstant : fragment.constant = true := by
        by_contra hnot
        rw [Bool.not_eq_true] at hnot
        rw [hnot] at hv
        cases hv
      rw [run_compiled] at hr
      cases hvalue : ((Code.value (code o) field false p).run.run d.symbols).1 with
      | error g =>
        rw [hvalue] at hr
        cases hr
      | ok fragment' =>
        rw [hvalue] at hr
        cases hr
        exact .constant hvalue hconstant
    next =>
      obtain ⟨he, hgrows', hentered⟩ := enters_map (enters_slot (f := f) (.value field false) hp)
        (fun i => enters_pure (Part.expr i fragment.flags.rawText)) d' x e hd' hrun
      exact ⟨he, hgrows.trans hgrows', hentered⟩

lemma enters_parts (field : String) {ss : List Segment} (h : TextAll a.table.Knows ss) :
    Enters a o f (textRequests ss) (parts o field ss) := by
  refine enters_mapM fun s hs => ?_
  unfold requestsOf
  split
  next hcontent =>
    rw [hcontent]
    exact enters_pure _
  next source p hcontent =>
    rw [hcontent]
    exact enters_exprPart field (h s hs source p hcontent)
  next hcontent =>
    rw [hcontent]
    exact (enters_pure _).cons trivial

lemma enters_attrValue (atCall : Bool) {attr : Attribute} (h : attr.value.All a.table.Knows) :
    Enters a o f attr.requests (attrValue o atCall attr) := by
  obtain ⟨name, kind, raw, value, line, column⟩ := attr
  cases value with
  | program p =>
    cases kind with
    | bind =>
      exact enters_map (enters_slot _ h) fun i => enters_map (enters_compiled _) fun _ =>
        enters_pure _
    | event => exact enters_map (enters_slot _ h) fun i => enters_pure _
    | plain => exact (enters_pure _).cons trivial
    | «attribute» => exact (enters_pure _).cons trivial
  | segments ss =>
    have hmarkup : Enters a o f (textRequests ss)
      (do return AttrValue.markup (← parts o name ss)) :=
      enters_map (enters_parts name h) fun _ => enters_pure _
    have hoption : Enters a o f (textRequests ss)
      (do return AttrValue.option (← parts o name ss)) :=
      enters_map (enters_parts name h) fun _ => enters_pure _
    cases hplain : atCall && kind == .plain with
    | false =>
      simp only [attrValue, hplain]
      exact hmarkup
    | true =>
      simp only [attrValue, hplain, if_true]
      cases hsingle : Segment.single? ss with
      | none => exact hoption
      | some r =>
        obtain ⟨source, p⟩ := r
        refine enters_then (enters_compiled _) fun fragment => ?_
        split
        · have hrequests : Attribute.requests ⟨name, kind, raw, .segments ss, line, column⟩ =
            [.program p true] :=
            textRequests_single? hsingle
          rw [hrequests]
          exact enters_map (enters_slot _ (textAll_single? h hsingle)) fun i => enters_pure _
        · exact hoption

lemma enters_attrs (atCall : Bool) {as : List Attribute} (h : AttrsAll a.table.Knows as) :
    Enters a o f (attrsRequests as) (attrs o atCall as) := by
  refine enters_mapM fun attr hattr => ?_
  exact enters_map (enters_located attr.line attr.column (enters_attrValue atCall (h attr hattr)))
    fun v => enters_pure _

mutual
lemma enters_optionValue (field : String) : ∀ {v : TypedValue}, v.All a.table.Knows →
    Enters a o f v.requests (optionValue o field v)
  | .scalar type ss, h => by
    rw [optionValue]
    exact enters_map (enters_parts field h) fun _ => enters_pure _
  | .array items, h => by
    rw [optionValue]
    exact enters_map (enters_optionItems h) fun _ => enters_pure _
  | .object properties, h => by
    rw [optionValue]
    exact enters_map (enters_options h) fun _ => enters_pure _

lemma enters_optionItems : ∀ {vs : List TypedValue}, TypedValue.AllOf a.table.Knows vs →
    Enters a o f (TypedValue.requestsList vs) (optionItems o vs)
  | [], _ => by
    rw [optionItems]
    exact enters_pure _
  | v :: vs, ⟨hv, hvs⟩ => by
    rw [optionItems]
    exact enters_bind (enters_optionValue "" hv) fun _ => enters_map (enters_optionItems hvs)
      fun _ => enters_pure _

lemma enters_options : ∀ {os : List TypedOption}, TypedOption.AllOf a.table.Knows os →
    Enters a o f (TypedOption.requestsList os) (options o os)
  | [], _ => by
    rw [options]
    exact enters_pure _
  | .mk _ name v :: os, ⟨hv, hos⟩ => by
    rw [options]
    exact enters_bind (enters_optionValue name hv) fun _ => enters_map (enters_options hos) fun _ =>
      enters_pure _
end

/-! ### Calls and nodes -/

lemma enters_forcedSlot (hp : a.table.Knows p) : Enters a o f [.program p true] (forcedSlot o p) :=
  enters_slot _ hp

lemma enters_optSlot {clause : Option Program} (h : ClauseAll a.table.Knows clause) :
    Enters a o f (clauseRequests clause) (optSlot o clause) := by
  cases clause with
  | none => exact enters_pure _
  | some p => exact enters_map (enters_forcedSlot (h p rfl)) fun i => enters_pure _

lemma enters_call (ha : a.Held a.table) (info : Meta) {as : List Attribute} {os : List TypedOption}
    (has : AttrsAll a.table.Knows as) (hos : TypedOption.AllOf a.table.Knows os)
    {cs : Build (List ContentRef)} (hcs : Enters a o f rs cs) :
    Enters a o f (attrsRequests as ++ (TypedOption.requestsList os ++ rs)) (call o info as os cs) :=
  enters_bind (enters_attrs true has) fun _ => enters_bind (enters_options hos) fun _ =>
    enters_map hcs fun _ => enters_map (enters_watch ha info.container) fun _ => enters_pure _

mutual
lemma enters_node (ha : a.Held a.table) : ∀ {n : Markup.Node}, n.All a.table.Knows →
    Enters a o f n.requests (node o n)
  | .text info ss, h => by
    rw [node]
    exact enters_located _ _ (enters_map (enters_parts "" h) fun _ => enters_pure _)
  | .element info name as children void, ⟨has, hchildren⟩ => by
    rw [node]
    refine enters_located _ _ (enters_bind (enters_attrs false has) fun _ => ?_)
    exact enters_map (enters_nodes ha hchildren) fun _ => enters_pure _
  | .component info name as os cs, ⟨has, hos, hcs⟩ => by
    rw [node]
    refine enters_located _ _ (Enters.cons trivial ?_)
    exact enters_map (enters_call ha info has hos (enters_contents ha hcs)) fun _ => enters_pure _
  | .partialCall info target as os cs, ⟨htarget, has, hos, hcs⟩ => by
    have hrest : ∀ t : Target, Enters a o f
        (attrsRequests as ++ (TypedOption.requestsList os ++ Content.requestsList cs))
        (do return [Instruction.partialCall info.key t (← call o info as os (contents o cs))]) :=
            fun t =>
      enters_map (enters_call ha info has hos (enters_contents ha hcs)) fun _ => enters_pure _
    rw [node]
    refine enters_located _ _ ?_
    cases target with
    | inline name => exact hrest _
    | «static» path => exact (hrest _).cons trivial
    | dynamic p => exact enters_bind (enters_forcedSlot htarget) fun i => hrest _
  | .template info name children, h => by
    rw [node]
    refine enters_located _ _ (Enters.cons trivial (enters_map (enters_nodes ha h) fun _ => ?_))
    refine enters_then (enters_watch ha info.container) fun w => ?_
    exact enters_then (enters_addBody nofun rfl) fun _ => enters_pure _
  | .branches info test children others, ⟨htest, hchildren, hothers⟩ => by
    rw [node]
    refine enters_located _ _ (enters_bind (enters_forcedSlot htest) fun _ => ?_)
    refine enters_bind (enters_nodes ha hchildren) fun _ =>
      enters_then (enters_watch ha info.container) fun _ => ?_
    exact enters_map (enters_arms ha hothers) fun _ => enters_pure _
  | .loop info init test update names children, ⟨hinit, htest, hupdate, hchildren⟩ => by
    rw [node]
    refine enters_located _ _ (enters_bind (enters_optSlot hinit) fun _ => ?_)
    refine enters_bind (enters_forcedSlot htest) fun _ => enters_bind (enters_optSlot hupdate)
      fun _ => ?_
    refine enters_map (enters_nodes ha hchildren) fun _ => ?_
    exact enters_then (enters_watch ha info.container) fun _ => enters_pure _
  | .each info index iterator collection children, ⟨hcollection, hchildren⟩ => by
    rw [node]
    refine enters_located _ _ (enters_bind (enters_forcedSlot hcollection) fun _ => ?_)
    refine enters_map (enters_nodes ha hchildren) fun _ => ?_
    exact enters_then (enters_watch ha info.container) fun _ => enters_pure _

lemma enters_nodes (ha : a.Held a.table) : ∀ {ns : List Markup.Node}, Node.AllOf a.table.Knows ns →
    Enters a o f (Node.requestsList ns) (nodes o ns)
  | [], _ => by
    rw [nodes]
    exact enters_pure _
  | n :: ns, ⟨hn, hns⟩ => by
    rw [nodes]
    exact enters_bind (enters_node ha hn) fun _ => enters_map (enters_nodes ha hns) fun _ =>
      enters_pure _

lemma enters_arms (ha : a.Held a.table) : ∀ {bs : List Branch}, Branch.AllOf a.table.Knows bs →
    Enters a o f (Branch.requestsList bs) (arms o bs)
  | [], _ => by
    rw [arms]
    exact enters_pure _
  | .mk info test children :: bs, ⟨htest, hchildren, hbs⟩ => by
    rw [arms]
    refine enters_bind (enters_optSlot htest) fun _ => enters_bind (enters_nodes ha hchildren)
      fun _ => ?_
    refine enters_then (enters_watch ha info.container) fun _ => ?_
    exact enters_map (enters_arms ha hbs) fun _ => enters_pure _

lemma enters_contents (ha : a.Held a.table) : ∀ {cs : List Content},
    Content.AllOf a.table.Knows cs →
    Enters a o f (Content.requestsList cs) (contents o cs)
  | [], _ => by
    rw [contents]
    exact enters_pure _
  | .mk info name children :: cs, ⟨hchildren, hcs⟩ => by
    rw [contents]
    refine enters_bind (enters_nodes ha hchildren) fun _ =>
      enters_then (enters_watch ha info.container) fun _ => ?_
    refine enters_then (enters_addBody nofun rfl) fun _ => ?_
    exact enters_map (enters_contents ha hcs) fun _ => enters_pure _
end

/-- What is asked for has been entered when building ends. -/
theorem run_bodies_entered (ha : a.Held a.table) {ns : List Markup.Node}
    (h : Node.AllOf a.table.Knows ns) {u : Unit}
    (hrun : (bodies o ns).run { arena := a } = .ok (u, f)) : ∀ r ∈ Node.requestsList ns,
    r.Entered (code o) f := by
  obtain ⟨children, watch, d, hparts, hrun⟩ := run_rootParts hrun
  have henters : Enters a o f (Node.requestsList ns) (rootParts o ns) :=
      enters_map (enters_nodes ha h) fun _ =>
    enters_then (enters_watch ha (some 0)) fun _ => enters_pure _
  obtain ⟨hd, -, hentered⟩ := henters _ _ _ (sound_start ha) hparts
  obtain ⟨hsound, hgrows⟩ := sound_withRoot hd children watch
  obtain ⟨-, hgrows', -, -⟩ := run_remaining_grows ha.own hsound hrun
  exact hentered (hgrows.trans hgrows')

end Build

open Build Construction

variable {α : Type} {an : Annotated α}

/-- The entries of a construction stand in its description. -/
lemma mem_expressions_of_filling? {c : Code.Options} (hf : f.Sound a c)
    (hfilled : ∀ x ∈ f.texts, (f.filling? x).isSome)
    {x : String} {e : Expression} (he : f.filling? x = some e) :
    e ∈ (finished o an f).expressions := by
  obtain ⟨i, hi⟩ := List.getElem?_of_mem (mem_texts_of_filling? he)
  exact Array.mem_of_getElem? (getElem?_expressions hf.sane hfilled hi he)

/-- **All expressions are compiled.** Each program that an annotated template asks to have compiled
is constant, or has an entry in the description, and then it can be compiled for its value. -/
theorem entered_ofAnnotated {module : String} {ns : List Markup.Node} {d : Description}
    (ha : Annotated.ofNodes module ns = .ok an) (hd : ofAnnotated o an = .ok d) {p : Program}
    (hp : .program p true ∈ Node.requestsList an.nodes) :
    (∃ field s fragment, ((Code.value (code o) field false p).run.run s).1 = .ok fragment ∧
    fragment.constant = true) ∨
      ∃ e ∈ d.expressions, e.program = p ∧ Compiles (code o) p := by
  obtain ⟨hheld, hknows⟩ := Annotated.held_ofNodes ha
  obtain ⟨f, hrun, rfl, -⟩ := wellFormed_ofAnnotated ha hd
  obtain ⟨hf, hfilled, -⟩ := run_bodies_sound hheld hknows hrun
  cases run_bodies_entered hheld hknows hrun _ hp with
  | constant hvalue h => exact .inl ⟨_, _, _, hvalue, h⟩
  | @entry e he h =>
    exact .inr ⟨e, mem_expressions_of_filling? hf hfilled he, h, h ▸ (hf.able he).value⟩

end Description

end Trellis
