/-
A description that is taken from the store renders like one that is compiled anew.

A loader that compiled a module keeps the text of its description, and another loader takes it from
there as long as the text of the module has the same digest.  The digest says nothing of how a
loader was set up.  Of what it is set up with, folding makes no difference, because templates that
are built with and without it agree; and what is read back from the text has the same bodies, and
entries that differ in their places only.  So the two render the same (`stored_transparent`).

Whether plain text is to be translated makes a difference (`stored_promoted`): the two loaders have
to read the same nodes.  What cannot be written down, or is nested more deeply than JSON can be, is
not taken from the store.
-/
import Trellis.Loader.Basic
import Trellis.Proofs.Description.Restored
import Trellis.Proofs.Loader.Cycles
import Trellis.Proofs.Render.Fold

namespace Trellis

open Description

namespace Description

section

variable {ref : Nat → Nat → Prop} {fold : Datum → Nat → Prop}

/-! ### Parts that belong together -/

/-- Every part on one side belongs to one on the other side. -/
structure Paired (R : Part → Part → Prop) (ps qs : List Part) : Prop where
  left : ∀ p ∈ ps, ∃ q, R p q
  right : ∀ q ∈ qs, ∃ p, R p q

lemma Paired.nil {R : Part → Part → Prop} : Paired R [] [] := ⟨nofun, nofun⟩

lemma Paired.append {R : Part → Part → Prop} {ps qs ps' qs' : List Part} (h : Paired R ps qs)
    (h' : Paired R ps' qs') : Paired R (ps ++ ps') (qs ++ qs') where
  left p hp := (List.mem_append.1 hp).elim (h.left p) (h'.left p)
  right q hq := (List.mem_append.1 hq).elim (h.right q) (h'.right q)

lemma paired_of_forall₂ {R : Part → Part → Prop} {ps qs : List Part} (h : List.Forall₂ R ps qs) :
    Paired R ps qs := by
  induction h with
  | nil => exact .nil
  | cons hpq _ ih =>
    refine (⟨fun p hp => ?_, fun q hq => ?_⟩ : Paired R [_] [_]).append ih
    · exact List.mem_singleton.1 hp ▸ ⟨_, hpq⟩
    · exact List.mem_singleton.1 hq ▸ ⟨_, hpq⟩

lemma AttrValueAgrees.paired {v w : AttrValue} (h : AttrValueAgrees ref fold v w) :
    Paired (PartAgrees ref fold) v.parts w.parts := by
  cases h with
  | markup h | option h => exact paired_of_forall₂ h
  | bind _ _ | event _ => exact .nil

lemma paired_attrs {as bs : List Attr} (h : List.Forall₂ (AttrAgrees ref fold) as bs) :
    Paired (PartAgrees ref fold) (as.flatMap (·.value.parts)) (bs.flatMap (·.value.parts)) := by
  induction h with
  | nil => exact .nil
  | cons hab _ ih => exact hab.value.paired.append ih

mutual
lemma OptionValueAgrees.paired : ∀ {v w : OptionValue}, OptionValueAgrees ref fold v w →
    Paired (PartAgrees ref fold) v.parts w.parts
  | _, _, .scalar _ h => paired_of_forall₂ h
  | _, _, .array h | _, _, .object h => by
    rw [OptionValue.parts, OptionValue.parts]
    exact OptionsAgree.paired h

lemma OptionsAgree.paired : ∀ {os ps : List OptionSpec}, OptionsAgree ref fold os ps →
    Paired (PartAgrees ref fold) (optionParts os) (optionParts ps)
  | _, _, .nil => .nil
  | _, _, .cons _ hv hos => by
    rw [optionParts, optionParts]
    exact hv.paired.append (OptionsAgree.paired hos)
end

lemma CallAgrees.paired {c d : Call} (h : CallAgrees ref fold c d) :
    Paired (PartAgrees ref fold) c.parts d.parts := (paired_attrs h.attrs).append h.options.paired

lemma InstructionAgrees.paired {i j : Instruction} (h : InstructionAgrees ref fold i j) :
    Paired (PartAgrees ref fold) i.parts j.parts := by
  cases h with
  | text _ h => exact paired_of_forall₂ h
  | element _ _ _ h _ => exact paired_attrs h
  | component _ _ h | partialCall _ _ h => exact h.paired
  | branches _ _ | loop _ _ _ _ _ _ _ _ | each _ _ _ _ _ _ _ => exact .nil

lemma ArmsAgree.children : ∀ {as bs : List Arm}, ArmsAgree ref fold as bs →
    InstructionsAgree ref fold (as.flatMap Arm.children) (bs.flatMap Arm.children)
  | _, _, .nil => .nil
  | _, _, .cons _ _ _ hs has => hs.append has.children

lemma InstructionAgrees.inner {i j : Instruction} (h : InstructionAgrees ref fold i j) :
    InstructionsAgree ref fold i.inner j.inner := by
  cases h with
  | element _ _ _ _ hs => exact hs
  | branches _ h => exact h.children
  | loop _ _ _ _ _ _ _ hs | each _ _ _ _ _ _ hs => exact hs
  | text _ _ | component _ _ _ | partialCall _ _ _ => exact .nil

lemma InstructionsAgree.exists_of_mem {is js : List Instruction}
    (h : InstructionsAgree ref fold is js) :
    (∀ i ∈ is, ∃ j, InstructionAgrees ref fold i j) ∧
    ∀ j ∈ js, ∃ i, InstructionAgrees ref fold i j := by
  induction is generalizing js with
  | nil =>
    cases h
    exact ⟨nofun, nofun⟩
  | cons i is ih =>
    cases h with
    | cons hij hs =>
      obtain ⟨hleft, hright⟩ := ih hs
      exact ⟨List.forall_mem_cons.2 ⟨⟨_, hij⟩, hleft⟩, List.forall_mem_cons.2 ⟨⟨_, hij⟩, hright⟩⟩

lemma exists_of_holds_left {i k : Instruction} (hk : i.Holds k) :
    ∀ {j : Instruction}, InstructionAgrees ref fold i j → ∃ l, InstructionAgrees ref fold k l := by
  induction hk with
  | self i => exact fun h => ⟨_, h⟩
  | inside hi _ ih =>
    intro j h
    obtain ⟨l, hl⟩ := h.inner.exists_of_mem.1 _ hi
    exact ih hl

lemma exists_of_holds_right {j l : Instruction} (hl : j.Holds l) :
    ∀ {i : Instruction}, InstructionAgrees ref fold i j → ∃ k, InstructionAgrees ref fold k l := by
  induction hl with
  | self j => exact fun h => ⟨_, h⟩
  | inside hj _ ih =>
    intro i h
    obtain ⟨k, hk⟩ := h.inner.exists_of_mem.2 _ hj
    exact ih hk

/-! ### Constants of what can be written -/

lemma areWritable_of_listField {name : String} {ds : List Datum}
    (h : Json.fieldsWritable (Document.listField name ds) = true) : Json.areWritable ds = true := by
  cases ds with
  | nil => rfl
  | cons d ds => exact (Bool.and_eq_true _ _ ▸ h).1

lemma writable_parts {ps : List Part} {name : String}
    (h : Json.fieldsWritable (Document.listField name (ps.map Document.part)) = true) :
    ∀ p ∈ ps, Json.isWritable (Document.part p) = true := fun _ hp =>
  Json.isWritable_of_mem (areWritable_of_listField h) _ (List.mem_map_of_mem hp)

lemma writable_attrs {as : List Attr} {name : String}
    (h : Json.fieldsWritable (Document.listField name (as.map Document.attr)) = true) :
    ∀ p ∈ as.flatMap (·.value.parts), Json.isWritable (Document.part p) = true := by
  intro p hp
  obtain ⟨⟨attr, v⟩, ha, hp⟩ := List.mem_flatMap.1 hp
  have hattr := Json.isWritable_of_mem (areWritable_of_listField h) _ (List.mem_map_of_mem ha)
  cases v with
  | markup ps | option ps | other kind ps =>
    simp only [Document.attr, Json.isWritable, Json.fieldsWritable, Bool.and_eq_true] at hattr
    exact writable_parts hattr.2.2 p hp
  | bind slot b | event slot => exact absurd hp List.not_mem_nil

mutual
lemma writable_optionValue : ∀ {v : OptionValue}, Json.fieldsWritable (Document.optionFields v) =
    true →
    ∀ p ∈ v.parts, Json.isWritable (Document.part p) = true
  | .scalar _ ps, h, p, hp => by
    simp only [Document.optionFields, Json.fieldsWritable, Bool.and_eq_true] at h
    exact writable_parts h.2 p (by rwa [OptionValue.parts] at hp)
  | .array items, h, p, hp | .object items, h, p, hp => by
    simp only [Document.optionFields, Json.fieldsWritable, Bool.and_eq_true] at h
    exact writable_options (areWritable_of_listField h.2) p (by rwa [OptionValue.parts] at hp)

lemma writable_options : ∀ {os : List OptionSpec}, Json.areWritable (Document.options os) = true →
    ∀ p ∈ optionParts os, Json.isWritable (Document.part p) = true
  | [], _, p, hp => by
    rw [optionParts] at hp
    exact absurd hp List.not_mem_nil
  | .mk _ v :: os, h, p, hp => by
    simp only [Document.options, Document.option, Json.areWritable, Json.isWritable,
      Draft.fieldsWritable_append,
      Bool.and_eq_true] at h
    rw [optionParts, List.mem_append] at hp
    exact hp.elim (writable_optionValue h.1.2 p) (writable_options h.2 p)
end

/-- The parts of an instruction that can be written can be written. -/
lemma writable_instruction {i : Instruction} (h : Json.isWritable (Document.instruction i) = true) :
    ∀ p ∈ i.parts, Json.isWritable (Document.part p) = true := by
  intro p hp
  cases i <;>
    simp only [Document.instruction, Json.isWritable, Draft.fieldsWritable_append,
      Bool.and_eq_true] at h
  case text => exact writable_parts h.1.2 p hp
  case element => exact writable_attrs h.1.1.1.2 p hp
  case component =>
    exact (List.mem_append.1 hp).elim (writable_attrs h.1.1.1.2 p)
      (writable_options (areWritable_of_listField h.1.1.2) p)
  case partialCall =>
    exact (List.mem_append.1 hp).elim (writable_attrs h.1.1.1.1.1.2 p)
      (writable_options (areWritable_of_listField h.1.1.2) p)
  all_goals exact absurd hp List.not_mem_nil

lemma areWritable_instructions {is : List Instruction}
    (h : Json.areWritable (Document.instructions is) = true) :
    ∀ i ∈ is, Json.isWritable (Document.instruction i) = true := by
  induction is with
  | nil => exact nofun
  | cons i is ih =>
    rw [Document.instructions, Json.areWritable, Bool.and_eq_true] at h
    exact List.forall_mem_cons.2 ⟨h.1, ih h.2⟩

lemma areWritable_listOrNull {ds : List Datum}
    (h : Json.isWritable (Document.listOrNull ds) = true) :
    Json.areWritable ds = true := by
  cases ds with
  | nil => rfl
  | cons d ds => exact h

lemma areWritable_arms {as : List Arm} (h : Json.areWritable (Document.arms as) = true) :
    ∀ i ∈ as.flatMap Arm.children, Json.isWritable (Document.instruction i) = true := by
  induction as with
  | nil => exact nofun
  | cons a as ih =>
    obtain ⟨test, children, watch⟩ := a
    simp only [Document.arms, Json.areWritable, Json.isWritable, Json.fieldsWritable,
      Bool.and_eq_true] at h
    intro i hi
    rcases List.mem_append.1 hi with hi | hi
    · exact areWritable_instructions (areWritable_listOrNull h.1.2.1) i hi
    · exact ih h.2 i hi

lemma writable_inner {i : Instruction} (h : Json.isWritable (Document.instruction i) = true) :
    ∀ j ∈ i.inner, Json.isWritable (Document.instruction j) = true := by
  cases i <;>
    simp only [Document.instruction, Json.isWritable, Draft.fieldsWritable_append,
      Bool.and_eq_true] at h
  case element => exact areWritable_instructions (areWritable_of_listField h.1.1.2)
  case branches => exact areWritable_arms (areWritable_of_listField h.1.2)
  case loop => exact areWritable_instructions (areWritable_of_listField h.1.1.1.1.1.2)
  case each => exact areWritable_instructions (areWritable_of_listField h.1.1.1.1.2)
  all_goals exact fun _ hj => absurd hj List.not_mem_nil

lemma writable_of_holds {i j : Instruction} (hj : i.Holds j)
    (h : Json.isWritable (Document.instruction i) = true) :
    Json.isWritable (Document.instruction j) = true := by
  induction hj with
  | self i => exact h
  | inside hi _ ih => exact ih (writable_inner h _ hi)

/-- The bodies of a description that can be written can be written. -/
lemma writable_children {d : Description} (h : Json.isWritable d.document = true) {b : Body}
    (hb : b ∈ d.bodies) :
    ∀ i ∈ b.children, Json.isWritable (Document.instruction i) = true := by
  simp only [document, Json.isWritable, Draft.fieldsWritable_append, Json.fieldsWritable,
    Bool.and_eq_true] at h
  have hbody := Json.isWritable_of_mem h.1.1.1.1.1.1.2.2.2.1 _
    (List.mem_map_of_mem (Array.mem_def.1 hb))
  simp only [Document.body, Json.isWritable, Draft.fieldsWritable_append, Json.fieldsWritable,
    Bool.and_eq_true] at hbody
  exact areWritable_instructions (areWritable_listOrNull hbody.2.1)

/-- What a constant was folded to is null, a text, a number or a truth value. -/
lemma isConstant_of_datum? {v : Closed} {x : Datum} (h : v.datum? = some x) :
    x.isConstant = true := by
  cases v <;> cases h <;> rfl

variable {d d' : Description}

/-- The constants of a description that can be written are plain. -/
lemma allPlain_left (h : d.Agrees ref fold d') (hwritable : Json.isWritable d.document = true) :
    ∀ b ∈ d.bodies, ∀ i ∈ b.children, i.AllPlain := by
  intro b hb i hi j hj p hp v hv
  obtain ⟨k, hk⟩ := Array.getElem?_of_mem hb
  obtain ⟨hlt, -⟩ := Array.getElem?_eq_some_iff.1 hk
  have hlt' : k < d'.bodies.size := h.size ▸ hlt
  have hk' : d'.bodies[k]? = some d'.bodies[k] := Array.getElem?_eq_getElem hlt'
  obtain ⟨i', hi'⟩ := (h.body hk hk').children.exists_of_mem.1 i hi
  obtain ⟨j', hj'⟩ := exists_of_holds_left hj hi'
  obtain ⟨q, hq⟩ := hj'.paired.left p hp
  have hpart := writable_instruction (writable_of_holds hj (writable_children hwritable hb i hi)) p
    hp
  subst hv
  cases hq with
  | folded trusted hfold =>
    obtain ⟨e, -, -, hdatum⟩ := h.constant hfold
    have hconstant := isConstant_of_datum? hdatum
    rw [isWritable_part_value] at hpart
    rw [Datum.isPlain_of_isConstant hconstant, ← Datum.isWritable_of_isConstant hconstant, hpart]

/-- Without folding there are no constants. -/
lemma allPlain_right (h : d.Agrees ref fold d') : ∀ b ∈ d'.bodies, ∀ i ∈ b.children,
    i.AllPlain := by
  intro b hb i hi j hj p hp v hv
  obtain ⟨k, hk⟩ := Array.getElem?_of_mem hb
  obtain ⟨hlt, -⟩ := Array.getElem?_eq_some_iff.1 hk
  have hlt' : k < d.bodies.size := h.size ▸ hlt
  have hk' : d.bodies[k]? = some d.bodies[k] := Array.getElem?_eq_getElem hlt'
  obtain ⟨i', hi'⟩ := (h.body hk' hk).children.exists_of_mem.2 i hi
  obtain ⟨j', hj'⟩ := exists_of_holds_right hj hi'
  obtain ⟨q, hq⟩ := hj'.paired.right p hp
  subst hv
  cases hq

end

end Description

/-! ### Templates with entries that were read again -/

/-- A template with other entries. -/
def Template.withEntries (t : Template) (es : List Expression) : Template :=
  { t with description := { t.description with expressions := es.toArray } }

namespace Render

section

open Description

variable {ref : Nat → Nat → Prop} {fold : Datum → Nat → Prop} {t t' : Template}
  {es : List Expression}

lemma alike_of_revived {e e' : Expression} (h : e.Revived e') : e'.Alike e :=
  ⟨h.source, fun m env => Eval.program_congr m env h.tree, h.target, h.handler⟩

lemma exists_revived {xs : Array Expression} (h : List.Forall₂ Expression.Revived xs.toList es)
    {i : Nat}
    {e : Expression} (he : xs[i]? = some e) : ∃ e', es.toArray[i]? = some e' ∧ e.Revived e' := by
  rw [← Array.getElem?_toList] at he
  rw [List.getElem?_toArray]
  generalize xs.toList = ys at h he
  induction h generalizing i with
  | nil => cases he
  | cons hrevived _ ih =>
    cases i with
    | zero =>
      cases he
      exact ⟨_, rfl, hrevived⟩
    | succ i => exact ih he

/-- Entries that were read again agree as the entries did. -/
lemma withEntries_agrees_left (h : t.Agrees ref fold t')
    (hes : List.Forall₂ Expression.Revived t.description.expressions.toList es) :
    (t.withEntries es).Agrees ref fold t' where
  module := h.module
  entry hij := by
    obtain ⟨e, e', he, he', halike⟩ := h.entry hij
    obtain ⟨e'', he'', hrevived⟩ := exists_revived hes he
    exact ⟨e'', e', he'', he', (alike_of_revived hrevived).trans halike⟩
  constant := h.constant
  size := h.size
  bodies := h.bodies
  toolkit := h.toolkit
  body := h.body
  isModule := h.isModule

lemma withEntries_agrees_right (h : t.Agrees ref fold t')
    (hes : List.Forall₂ Expression.Revived t'.description.expressions.toList es) :
    t.Agrees ref fold (t'.withEntries es) where
  module := h.module
  entry hij := by
    obtain ⟨e, e', he, he', halike⟩ := h.entry hij
    obtain ⟨e'', he'', hrevived⟩ := exists_revived hes he'
    exact ⟨e, e'', he, he'', halike.trans (alike_of_revived hrevived).symm⟩
  constant hd := by
    obtain ⟨e, v, he, hdatum, hvalue⟩ := h.constant hd
    obtain ⟨e', he', hrevived⟩ := exists_revived hes he
    refine ⟨e', v, he', hdatum, fun m env => ?_⟩
    rw [(alike_of_revived hrevived).value, hvalue]
  size := h.size
  bodies := h.bodies
  toolkit := h.toolkit
  body := h.body
  isModule := h.isModule

end

end Render

namespace Loader

variable {o o' : Options} {load load' : String → Load Nat} {module file source digest : String}
  {s s' u u' : State}
  {d : Description}

/-! ### What describing a module gives -/

lemma on_bind {α β : Type} (w : Load α) (g : α → Load β) (s : State) : on (w >>= g) s =
    match on w s with
    | (.ok x, s') => on (g x) s'
    | (.error f, s') => (.error f, s') := by
  change (ExceptT.bindCont g (on w s).1).run (on w s).2 = _
  rcases on w s with ⟨_ | x, s'⟩ <;> rfl

lemma on_get (s : State) : on (get : Load State) s = (.ok s, s) := rfl

lemma on_settled_bind {α β : Type} (r : Except Fault α) (g : α → Load β) (s : State) :
    on (ExceptT.mk (pure r) >>= g) s = match r with
      | .ok x => on (g x) s
      | .error f => (.error f, s) := by
  cases r <;> rfl

/-- How a text is read. -/
def Options.reading (o : Options) (module file : String) : Markup.ReadOptions :=
  { file := if file.isEmpty then module else file, promoteText := o.promoteText }

/-- How a description is built. -/
def Options.building (o : Options) (module : String) : Description.Options :=
  { module, decorators := some o.decorators, folds := o.folds }

/-- Describing a module is reading, annotating and building it, with all that it depends on loaded
before the last step. -/
lemma describe_on (o : Options) (load : String → Load Nat) (module file source : String)
    (s : State) :
    (on (describe o load module file source) s).1 = (do
      let ns ← Markup.read (o.reading module file) source
      let a : Annotated Unit ← (Annotated.ofNodes module ns).mapError (inFile file)
      (on (require o load a.manifest) s).1
      (ofAnnotated (o.building module) a).mapError (inFile file)) := by
  change _ = Except.bind _ fun ns => Except.bind _ fun a => Except.bind _ fun _ => _
  rw [describe, on_settled_bind, Options.reading]
  cases Markup.read { file := if file.isEmpty then module else file, promoteText := o.promoteText }
    source with
  | error f => rfl
  | ok ns =>
    dsimp only [Except.bind]
    rw [on_settled_bind]
    cases (Annotated.ofNodes module ns : Except Fault (Annotated Unit)).mapError (inFile file) with
    | error f => rfl
    | ok a =>
      dsimp only
      rw [on_bind]
      rcases on (require o load a.manifest) s with ⟨f | _, s'⟩
      · rfl
      · dsimp only
        rw [on_settled_bind, Options.building]
        cases (ofAnnotated { module, decorators := some o.decorators, folds := o.folds } a).mapError
          (inFile file) <;>
          rfl

/-- What was described without a fault was read, annotated and built. -/
lemma exists_of_describe (h : (on (describe o load module file source) s).1 = .ok d) :
    ∃ (ns : List Markup.Node) (a : Annotated Unit), Markup.read (o.reading module file) source =
    .ok ns ∧
      Annotated.ofNodes module ns = .ok a ∧ ofAnnotated (o.building module) a = .ok d := by
  have hok : ∀ {α : Type} {r : Except Fault α} {x : α}, r.mapError (inFile file) = .ok x →
      r = .ok x := by
    rintro α (f | x) y ⟨⟩
    rfl
  rw [describe_on] at h
  obtain ⟨ns, hns, h⟩ := bind_eq_ok.1 h
  obtain ⟨a, ha, h⟩ := bind_eq_ok.1 h
  obtain ⟨_, -, h⟩ := bind_eq_ok.1 h
  exact ⟨ns, a, hns, hok ha, hok h⟩

/-- A module is described as it is built, unless something that it depends on cannot be loaded. -/
lemma describe_eq {ns : List Markup.Node} {a : Annotated Unit}
    (hns : Markup.read (o.reading module file) source = .ok ns)
    (ha : Annotated.ofNodes module ns = .ok a) (hd : ofAnnotated (o.building module) a = .ok d) :
    (on (describe o load module file source) s).1 = (on (require o load a.manifest) s).1.map
    fun _ => d := by
  rw [describe_on]
  change Except.bind _ (fun ns => Except.bind _ fun a => Except.bind _ fun _ => _) = _
  rw [hns]
  dsimp only [Except.bind]
  rw [ha]
  dsimp only [Except.mapError]
  rw [hd]
  rcases (on (require o load a.manifest) s).1 with f | _ <;> rfl

/-! ### What the store gives back -/

/-- An artifact that was put on a shelf is there. -/
lemma get?_put (a : Artifact) (shelf : Shelf) : (shelf.put a).get? a.module = some a := by
  have hfirst : ∀ bs : Shelf, (a :: bs).find? (·.module == a.module) = some a := fun bs =>
    List.find?_cons_of_pos (beq_self_eq_true a.module)
  rw [Shelf.get?]
  induction shelf with
  | nil => exact hfirst []
  | cons b bs ih =>
    rw [Shelf.put]
    split
    · exact hfirst bs
    · next hne =>
      split
      · exact hfirst (b :: bs)
      · exact (List.find?_cons_of_neg (p := fun b : Artifact => b.module == a.module) hne).trans ih

/-- What was put into a store is found there, by the digest that it was put with. -/
lemma lookup_put {store store' : Store} {data : String}
    (h : store.put module digest data = .ok store') :
    store'.lookup module digest = .ok (some data) := by
  rw [Store.put, Store.ifOpen] at h
  split at h
  · next hopen =>
    cases h
    rw [Store.lookup, Store.get, Store.ifOpen, if_pos hopen, get?_put]
    dsimp only
    rw [if_pos (beq_self_eq_true _)]
    dsimp only
    rw [if_pos (beq_self_eq_true _)]
  · cases h

/-- What a loader keeps is the text of the description; a store that is closed cannot be read
either. -/
lemma lookup_persist {doc : Datum} (hdoc : d.document? = some doc) :
    (on (persist module digest d) s).2.store.map (·.lookup module digest) =
      s.store.map fun store => store.ifOpen "get" (.ok (some (Json.text true doc))) := by
  rw [persist, on_bind, on_get]
  dsimp only
  cases hstore : s.store with
  | none =>
    change s.store.map _ = _
    rw [hstore]
    rfl
  | some store =>
    simp only [hdoc]
    cases hput : store.put module digest (Json.text true doc) with
    | ok store' =>
      change some (store'.lookup module digest) = _
      rw [lookup_put hput]
      rw [Store.put, Store.ifOpen] at hput
      split at hput
      · next hopen => rw [Option.map_some, Store.ifOpen, if_pos hopen]
      · cases hput
    | error f =>
      change s.store.map _ = _
      rw [hstore, Option.map_some, Option.map_some]
      rw [Store.put, Store.ifOpen] at hput
      split at hput
      · cases hput
      · next hclosed =>
        rw [Store.lookup, Store.get, Store.ifOpen, Store.ifOpen, if_neg hclosed, if_neg hclosed]
        rfl

/-- The text of a description is in a store that is open. -/
lemma lookup_persist_open {doc : Datum} (hdoc : d.document? = some doc)
    (hopen : s.store.any (·.isOpen) = true) :
    (on (persist module digest d) s).2.store.map (·.lookup module digest) =
    some (.ok (some (Json.text true doc))) := by
  rw [lookup_persist hdoc]
  cases hstore : s.store with
  | none =>
    rw [hstore] at hopen
    cases hopen
  | some store =>
    rw [hstore, Option.any_some] at hopen
    rw [Option.map_some, Store.ifOpen, if_pos hopen]

/-- What is taken from the store is read from what it has for the module and the digest. -/
lemma stored_eq_some (o : Options) : (on (stored o module digest) u).1 = .ok (some d) ↔
    ∃ data, u.store.map (·.lookup module digest) = some (.ok (some data)) ∧
      Description.parse (some o.decorators) data = .ok d := by
  rw [stored, on_bind, on_get]
  dsimp only
  constructor
  · intro h
    cases hstore : u.store with
    | none =>
      rw [hstore] at h
      cases h
    | some store =>
      rw [hstore] at h
      dsimp only at h
      rcases hlookup : store.lookup module digest with f | _ | data
      · rw [hlookup] at h
        cases h
      · rw [hlookup] at h
        cases h
      · rw [hlookup] at h
        dsimp only at h
        refine ⟨data, by rw [Option.map_some, hlookup], ?_⟩
        cases hparse : Description.parse (some o.decorators) data <;> rw [hparse] at h <;> cases h
        rfl
  · rintro ⟨data, hdata, hparse⟩
    obtain ⟨store, hstore, hlookup⟩ := Option.map_eq_some_iff.1 hdata
    rw [hstore]
    dsimp only
    rw [hlookup]
    dsimp only
    rw [hparse]
    rfl

/-! ### What is built with and without folding -/

section

variable {how : Description.Options} {a : Annotated Unit} {ns : List Markup.Node}

/-- What is built one way is built with constants folded and without. -/
lemma exists_variant (ha : Annotated.ofNodes module ns = .ok a) (hd : ofAnnotated how a = .ok d)
    (folds : Bool) :
    ∃ d', ofAnnotated { how with folds } a = .ok d' := by
  obtain ⟨dF, dP, hdF, hdP, -⟩ := agrees_variants ha hd
  cases folds with
  | true => exact ⟨dF, hdF⟩
  | false => exact ⟨dP, hdP⟩

/-- The constants of what is built and can be written are plain. -/
lemma plain_of_writable (ha : Annotated.ofNodes module ns = .ok a) (hd : ofAnnotated how a = .ok d)
    (hwritable : Json.isWritable d.document = true) : ∀ b ∈ d.bodies, ∀ i ∈ b.children,
    i.AllPlain := by
  obtain ⟨dF, dP, hdF, hdP, ref, fold, hagrees⟩ := agrees_variants ha hd
  suffices hvariant : ∀ folds d', ofAnnotated { how with folds } a = .ok d' →
    Json.isWritable d'.document = true →
      ∀ b ∈ d'.bodies, ∀ i ∈ b.children, i.AllPlain from hvariant how.folds d hd hwritable
  intro folds d' hd' hwritable'
  cases folds with
  | true =>
    obtain rfl : dF = d' := Except.ok.inj (hdF.symm.trans hd')
    exact allPlain_left hagrees hwritable'
  | false =>
    obtain rfl : dP = d' := Except.ok.inj (hdP.symm.trans hd')
    exact allPlain_right hagrees

/-- Whether constants are folded or not, and also when the entries were read again: the templates of
what is built begin alike. -/
lemma exists_begin (ha : Annotated.ofNodes module ns = .ok a) (hd : ofAnnotated how a = .ok d)
    (toolkit : Toolkit) :
    ∃ t₀ : Template, ∀ (folds : Bool) (d' : Description), ofAnnotated { how with folds } a =
    .ok d' →
      ∀ es, List.Forall₂ Expression.Revived d'.expressions.toList es →
        ∃ t, Template.ofDescription { d' with expressions := es.toArray } toolkit = .ok t ∧
          ∀ (w : Workshop) (i : Invocation), w.begin t i = w.begin t₀ i := by
  obtain ⟨dF, dP, hdF, hdP, ref, fold, hagrees⟩ := agrees_variants ha hd
  obtain ⟨tF, tP, htF, htP, ht⟩ := Template.agrees_ofDescription hagrees toolkit
  refine ⟨tP, fun folds d' hd' es hes => ?_⟩
  cases folds with
  | true =>
    obtain rfl : dF = d' := Except.ok.inj (hdF.symm.trans hd')
    rw [Template.ofDescription_rooted hagrees.root] at htF
    cases htF
    exact ⟨_, Template.ofDescription_rooted (d :=
      { dF with expressions := es.toArray }) hagrees.root _,
      fun w i => w.begin_agrees (Render.withEntries_agrees_left ht hes) i⟩
  | false =>
    obtain rfl : dP = d' := Except.ok.inj (hdP.symm.trans hd')
    rw [Template.ofDescription_rooted hagrees.root'] at htP
    cases htP
    refine ⟨_, Template.ofDescription_rooted (d :=
      { dP with expressions := es.toArray }) hagrees.root' _, fun w i => ?_⟩
    exact (w.begin_agrees (Render.withEntries_agrees_right ht hes) i).symm.trans
      (w.begin_agrees ht i)

end

/-- What was described and can be restored comes back from its text with entries that were read
again. -/
lemma exists_restored (h : (on (describe o load module file source) s).1 = .ok d)
    (hd : d.isRestorable = true) :
    d.document? = some d.document ∧ ∃ es, List.Forall₂ Expression.Revived d.expressions.toList es ∧
      Description.parse (some o.decorators) (Json.text true d.document) =
        .ok { d with expressions := es.toArray } := by
  obtain ⟨ns, a, hns, ha, hbuilt⟩ := exists_of_describe h
  obtain ⟨hsize, hplain, hsigns, hnesting⟩ := of_isRestorable hd
  obtain ⟨hstorable, es, hdraft, hes⟩ :=
    revived_ofAnnotated ha (Markup.allOf_read hns) hbuilt hsize hplain hsigns
  exact ⟨if_pos (ofDatum?_document hstorable).1, es, hes,
    (parse_document hstorable hnesting true).trans hdraft⟩

/-- **The store does not show.** One loader described a module and kept the description, and it can
be written down; another one takes a description from the store for the same text.  Whether the two
fold constants or not: if they read the text alike and know the same decorators, the description
from the store and the one that the other loader would build itself are templates that render the
same, for all data, registries and hosts.  No sign may stand directly before the same sign. -/
theorem stored_transparent {d₁ : Description} (hdecorators : o'.decorators = o.decorators)
    (hreading : Markup.read (o'.reading module file) source = Markup.read (o.reading module file)
    source)
    (hfirst : on (describe o load module file source) s = (.ok d₁, s')) (hdoc : d₁.document?.isSome)
    (hsize : d₁.Bounded) (hsigns : ∀ e ∈ d₁.expressions, e.program.signsApart = true)
    (hshared : u.store.map (·.lookup module digest) =
      (on (persist module digest d₁) s').2.store.map (·.lookup module digest))
    (hstored : (on (stored o' module digest) u).1 = .ok (some d)) :
    ∃ (m : Manifest Unit) (d₂ : Description) (t t₂ : Template),
      (∀ load' u', (on (describe o' load' module file source) u').1 =
        (on (require o' load' m) u').1.map fun _ => d₂) ∧
      Template.ofDescription d o'.toolkit = .ok t ∧ Template.ofDescription d₂ o'.toolkit = .ok t₂ ∧
      ∀ (w : Workshop) (i : Invocation) (μ : Memory), ∃ result μ',
        (w.render t i).on μ = (result, Memory.settled t μ') ∧
        (w.render t₂ i).on μ = (result, Memory.settled t₂ μ') := by
  obtain ⟨ns, a, hns, ha, hd₁⟩ := exists_of_describe (congrArg Prod.fst hfirst)
  obtain ⟨d₂, hd₂⟩ := exists_variant ha hd₁ o'.folds
  have hwritable : Json.isWritable d₁.document = true := by
    by_contra hno
    rw [document?, if_neg hno] at hdoc
    cases hdoc
  -- what is in the store is the text of the first description, which comes back with its entries
  -- read again
  obtain ⟨data, hlookup, hparse⟩ := (stored_eq_some o').1 hstored
  rw [hshared, lookup_persist (if_pos hwritable)] at hlookup
  obtain rfl : Json.text true d₁.document = data := by
    obtain ⟨store, -, hopen⟩ := Option.map_eq_some_iff.1 hlookup
    rw [Store.ifOpen] at hopen
    split at hopen
    · exact Option.some.inj (Except.ok.inj hopen)
    · cases hopen
  obtain ⟨hstorable, es, hdraft, hes⟩ :=
    revived_ofAnnotated ha (Markup.allOf_read hns) hd₁ hsize (plain_of_writable ha hd₁ hwritable)
      hsigns
  have hnesting : d₁.document.nesting ≤ Json.maxNesting := by
    refine Decidable.of_not_not fun hdeep => ?_
    rw [Description.parse, Draft.read, Json.parse?_text true hwritable, if_neg hdeep] at hparse
    cases hparse
  rw [parse_document hstorable hnesting, hdecorators] at hparse
  obtain rfl : { d₁ with expressions := es.toArray } = d := Except.ok.inj (hdraft.symm.trans hparse)
  obtain ⟨t₀, hbegin⟩ := exists_begin ha hd₁ o'.toolkit
  obtain ⟨t, ht, hbegin₁⟩ := hbegin o.folds d₁ hd₁ es hes
  have hsame : List.Forall₂ Expression.Revived d₂.expressions.toList d₂.expressions.toList :=
    List.forall₂_same.2 fun _ _ => ⟨rfl, rfl, rfl, rfl, rfl, rfl, rfl, rfl⟩
  obtain ⟨t₂, ht₂, hbegin₂⟩ := hbegin o'.folds d₂ hd₂ _ hsame
  have hbuilt : ofAnnotated (o'.building module) a = .ok d₂ := by
    rw [Options.building, hdecorators]
    exact hd₂
  refine ⟨a.manifest, d₂, t, t₂, fun load' u' => describe_eq (hreading.trans hns) ha hbuilt, ht,
    ht₂, fun w i μ => ?_⟩
  refine ⟨((w.begin t i).on μ).1, ((w.begin t i).on μ).2, w.render_on t i μ, ?_⟩
  rw [w.render_on t₂ i μ, hbegin₁, ← hbegin₂]

/-- An empty store. -/
def sharing : State := { store := some {} }

/-- What was described can be restored, and the store is open. -/
def isKept (r : Except Fault Description × State) : Bool :=
  r.1.toOption.any isRestorable && r.2.store.any (·.isOpen)

/-- A loader that folds no constants. -/
def unfolding : Options := { plainOptions with folds := false }

/-- A text with a constant. -/
def constantSource : String := "<p>\x7b\x7b 'a' \x7d\x7d</p>"

/-- One loader folds constants and one does not, and what the first one kept is used by the second
one. -/
theorem stored_transparent_folds :
    ∃ (d₁ d d₂ : Description) (s' u : State) (m : Manifest Unit) (t t₂ : Template),
    on (describe plainOptions (fun _ => pure 0) "P" "" constantSource) sharing = (.ok d₁, s') ∧
      u.store = (on (persist "P" (Digest.ofText constantSource) d₁) s').2.store ∧
      (on (stored unfolding "P" (Digest.ofText constantSource)) u).1 = .ok (some d) ∧
      (∀ load' u', (on (describe unfolding load' "P" "" constantSource) u').1 =
        (on (require unfolding load' m) u').1.map fun _ => d₂) ∧
      Template.ofDescription d {} = .ok t ∧ Template.ofDescription d₂ {} = .ok t₂ ∧
      ∀ (w : Workshop) (i : Invocation) (μ : Memory), ∃ result μ',
        (w.render t i).on μ = (result, Memory.settled t μ') ∧
        (w.render t₂ i).on μ = (result, Memory.settled t₂ μ') := by
  have hall : isKept (on (describe plainOptions (fun _ => pure 0) "P" "" constantSource) sharing) =
      true := by
    decide +kernel
  rcases hfirst : on (describe plainOptions (fun _ => pure 0) "P" "" constantSource) sharing with
    ⟨f | d₁, s'⟩
  · rw [hfirst] at hall
    cases hall
  · rw [hfirst] at hall
    obtain ⟨hrestorable, hopen⟩ := Bool.and_eq_true_iff.1 hall
    obtain ⟨hsize, -, hsigns, -⟩ := of_isRestorable hrestorable
    obtain ⟨hdoc, es, -, hparse⟩ := exists_restored (congrArg Prod.fst hfirst) hrestorable
    obtain ⟨u, hu⟩ : ∃ u : State,
      u.store = (on (persist "P" (Digest.ofText constantSource) d₁) s').2.store := ⟨_, rfl⟩
    have hstored := (stored_eq_some (u := u) unfolding).2
      ⟨_, by rw [hu]; exact lookup_persist_open hdoc hopen, hparse⟩
    have hreading : Markup.read (unfolding.reading "P" "") constantSource =
        Markup.read (plainOptions.reading "P" "") constantSource := by
      rw [show unfolding.reading "P" "" = plainOptions.reading "P" "" from rfl]
    have hdecorators : unfolding.decorators = plainOptions.decorators := rfl
    have hdoc' : d₁.document?.isSome := Option.isSome_iff_exists.2 ⟨_, hdoc⟩
    have hshared := congrArg (Option.map (·.lookup "P" (Digest.ofText constantSource))) hu
    obtain ⟨m, d₂, t, t₂, hd₂, ht, ht₂, hrender⟩ :=
      stored_transparent hdecorators hreading hfirst hdoc' hsize hsigns hshared hstored
    exact ⟨d₁, _, d₂, s', u, m, t, t₂, rfl, hu, hstored, hd₂, ht, ht₂, hrender⟩

/-- A loader that translates plain text, and knows one word. -/
def promoting : Options :=
  { plainOptions with
    promoteText := true
    toolkit := { translate := fun text _ => if text == "Hello" then "Hallo" else text } }

/-- Plain text. -/
def greeting : String := "<p>Hello</p>"

/-- What a description shows, with the tools of a loader. -/
def shown (o : Options) (d : Description) : Option String := do
  let t ← (Template.ofDescription d o.toolkit).toOption
  (((({} : Workshop).render t {}).on {}).1.toOption).map (Rendered.htmlList false)

/-- What a loader that translates plain text has left in the store shows the translation, also to a
loader that does not translate it, and that would show the text itself. -/
theorem stored_promoted : ∃ (d₁ d d₂ : Description) (s' u : State),
    on (describe promoting (fun _ => pure 0) "P" "" greeting) sharing = (.ok d₁, s') ∧
      u.store = (on (persist "P" (Digest.ofText greeting) d₁) s').2.store ∧
      (on (stored { promoting with promoteText := false } "P" (Digest.ofText greeting)) u).1 =
      .ok (some d) ∧
      (on (describe { promoting with promoteText := false } (fun _ => pure 0) "P" "" greeting)
        sharing).1 = .ok d₂ ∧
      shown promoting d = some "<p>Hallo</p>" ∧ shown promoting d₂ = some "<p>Hello</p>" := by
  have hfirst : (isKept (on (describe promoting (fun _ => pure 0) "P" "" greeting) sharing) &&
      (on (describe promoting (fun _ => pure 0) "P" "" greeting) sharing).1.toOption.any fun d =>
        d.expressions.toList.isEmpty && shown promoting d == some "<p>Hallo</p>") = true := by
          decide +kernel
  have hsecond : (on (describe { promoting with promoteText := false } (fun _ =>
    pure 0) "P" "" greeting) sharing).1.toOption.any
      (fun d => shown promoting d == some "<p>Hello</p>") = true := by decide +kernel
  rcases hdescribed : on (describe promoting (fun _ => pure 0) "P" "" greeting) sharing with
    ⟨f | d₁, s'⟩
  · rw [hdescribed] at hfirst
    cases hfirst
  cases hown : (on (describe { promoting with promoteText := false } (fun _ =>
    pure 0) "P" "" greeting) sharing).1 with
  | error f =>
    rw [hown] at hsecond
    cases hsecond
  | ok d₂ =>
    rw [hdescribed] at hfirst
    rw [hown] at hsecond
    obtain ⟨hkept, hshown⟩ := Bool.and_eq_true_iff.1 hfirst
    obtain ⟨hrestorable, hopen⟩ := Bool.and_eq_true_iff.1 hkept
    obtain ⟨hempty, hshown⟩ := Bool.and_eq_true_iff.1 hshown
    obtain ⟨hdoc, es, hes, hparse⟩ := exists_restored (congrArg Prod.fst hdescribed) hrestorable
    -- without expressions, what comes back is what was kept
    rw [List.isEmpty_iff.1 hempty, List.forall₂_nil_left_iff] at hes
    have hsame : { d₁ with expressions := es.toArray } = d₁ := by
      rw [hes, ← List.isEmpty_iff.1 hempty]
    rw [hsame] at hparse
    obtain ⟨u, hu⟩ : ∃ u : State,
      u.store = (on (persist "P" (Digest.ofText greeting) d₁) s').2.store := ⟨_, rfl⟩
    have hstored := (stored_eq_some (u := u) { promoting with promoteText := false }).2
      ⟨_, by rw [hu]; exact lookup_persist_open hdoc hopen, hparse⟩
    exact ⟨d₁, d₁, d₂, s', u, rfl, hu, hstored, rfl, eq_of_beq hshown, eq_of_beq hsecond⟩

end Loader

end Trellis
