/-
No description that was read can make rendering reach outside its tables.

Events, bindings and passed content take an entry or a body by its position and do not look whether
it is there; everything else that rendering takes from the tables looks first.  `Render.Strict`
renders the same way, except that an unchecked position outside a table does anything: it may end
the rendering, or give any value, or change memory.  For a description that was read and checked the
two are the same, body by body (`Strict.body_eq`) and for bodies that call each other
(`Strict.bodyTo_eq`); so no such position is ever taken (`parse_subscripts`).
-/
import Trellis.Proofs.Description.Checked
import Trellis.Proofs.Render.Fold

namespace Trellis

open Description

namespace Render

/-- What stands at a position that is not looked at first. -/
def subscript {α : Type} (crash : (α : Type) → Run α) (xs : Array α) (i : Nat) : Run α :=
  match xs[i]? with
  | some x => return x
  | none => crash α

lemma subscript_eq_pure {α : Type} {crash : (α : Type) → Run α} {xs : Array α} {i : Nat} {x : α}
    (h : xs[i]? = some x) : subscript crash xs i = pure x := by
  rw [subscript, h]

namespace Strict

/-! ### Rendering that may crash -/

section

variable (crash : (α : Type) → Run α) (w : Workshop) (t : Template) (r : Renderer)

/-- An event of a node. -/
def event (c : Context) (name : String) (slot : Nat) : Run RenderedEvent := do
  let e ← subscript crash t.description.expressions slot
  return ⟨name, e.source, e.handler.map Handler.bare, c.env t.toolkit⟩

/-- The attributes and events of an element.  A bound value is evaluated, which looks first. -/
def elementAttrs (c : Context) (as : List Attr) :
    Run (List (String × String) × List RenderedEvent) := do
  let found ← as.mapM fun a => do
    match a.value with
    | .event slot => return (none, some (← event crash t c a.name slot))
    | .bind slot _ =>
      let v ← contain t c .null (eval t r c slot)
      if v.isNullish then return (none, none)
      return (some (a.name, ← v.toText r.machine), none)
    | .markup ps | .option ps | .other _ ps =>
      return (← attrText? r a.name (← parts t r c ps), none)
  return (found.filterMap (·.1), found.filterMap (·.2))

/-- Takes an attribute into a call.  The entry of a binding is taken before its value. -/
def callAttr (c : Context) (call : ControlCall) (fs : Fields) (a : Attr) :
    Run (ControlCall × Fields) := do
  match a.value with
  | .bind slot b =>
    let e ← subscript crash t.description.expressions slot
    let v ← contain t c .null (eval t r c slot)
    let made : RenderedBinding := ⟨b.getD {}, a.name, e.target.map Expr.bare, c.env t.toolkit⟩
    return ({ call with bindings := call.bindings ++ [made] }, Fields.insert a.name v fs)
  | .event slot =>
    return ({ call with events := call.events ++ [← event crash t c a.name slot] }, fs)
  | _ => Render.callAttr t r c call fs a

/-- What a component or partial is called with. -/
def callOf (c : Context) (key name : String) (call : Call) : Run ControlCall := do
  let start : ControlCall := { name, key := c.key ++ key, options := 0 }
  let (result, fs) ← call.attrs.foldlM (fun acc a => callAttr crash t r c acc.1 acc.2 a) (start, [])
  let fs := (← options t r c call.options).foldl (fun fs o => Fields.insert o.1 o.2 fs) fs
  let fs ← call.contents.foldlM (fun fs (ref : ContentRef) => do
    let _ ← subscript crash t.description.bodies ref.body
    let at_ ← Memory.newContent { name := ref.name, body := ref.body, context := c }
    return Fields.insert ref.name (.content at_) fs) fs
  return { result with options := ← Memory.alloc (.fields fs) }

/-- Goes through the content that a call passes, while watching. -/
def watchContents (c : Context) (call : Call) : Run Unit := do
  for ref in call.contents do
    let inner ← c.nested ""
    Scope.poison inner.scope [ref.name]
    let _ ← subscript crash t.description.bodies ref.body
    let _ ← r.body inner ref.body

/-- A call: `render` makes what is called. -/
def calling (c : Context) (key name : String) (call : Call)
    (render : ControlCall → Run (List Rendered)) : Run (List Rendered) := do
  if c.watching then
    collect t r c call.watch
    watchContents crash t r c call
    return []
  let made ← callOf crash t r c key name call
  contain t c [] (render made)

mutual
/-- Renders an instruction. -/
def instruction (c : Context) : Instruction → Run (List Rendered)
  | .element key name as children _ => do
    if c.watching then
      let _ ← instructions c children
      return []
    let (attrs, events) ← elementAttrs crash t r c as
    let children ← instructions c children
    let events := if c.style == .tree then events else []
    return [.element (c.key ++ key) name attrs events children false]
  | .component key name call => calling crash t r c key name call (control w r c)
  | .partialCall key target call =>
    let name := match target with
      | .inline name | .static name | .dynamic _ name => name
    calling crash t r c key name call fun made => partialBody w t r c made target
  | .branches _ as => do
    let chain : Chain Rendered := { controller := if c.watching then .watching else .standard }
    match (← arms c true chain as).fi [] with
    | (_, .ok nodes) => return nodes
    | (_, .error f) => throw f
  | .loop _ names init test update children watch =>
    loop t r c names init test update fun inner => do
      collect t r inner watch
      instructions inner children
  | .each _ collection index iterator children watch =>
    each t r c collection index iterator fun inner => do
      collect t r inner watch
      instructions inner children
  | .text key ps => text t r c key ps
  | .unknown op => throw (Fault.make .unknownNode [("Type", op)])

/-- Renders instructions. -/
def instructions (c : Context) : List Instruction → Run (List Rendered)
  | [] => return []
  | i :: is => return (← instruction c i) ++ (← instructions c is)

/-- Runs the arms of a condition. -/
def arms (c : Context) (first : Bool) (chain : Chain Rendered) :
    List Arm → Run (Chain Rendered)
  | [] => return chain
  | .mk slot children watch :: as => do
    let chain ← arm t r c first slot (do
      collect t r c watch
      instructions c children) chain
    arms c false chain as
end

/-- Renders a body of the template of a context. -/
def body (c : Context) (at_ : Nat) : Run (List Rendered) := do
  match t.description.bodies[at_]? with
  | none => return []
  | some b =>
    collect t r c b.watch
    instructions crash w t r c b.children

end

/-- Renders a body in a rendering that was started with a template, as `Workshop.bodyTo` does.
Bodies of the templates that `strict` picks may crash. -/
def bodyTo (crash : (α : Type) → Run α) (strict : Template → Bool) (w : Workshop)
    (start : Template) :
    Nat → Context → Nat → Run (List Rendered)
  | 0, _, _ => throw (Fault.plain "templates are nested too deeply")
  | depth + 1, c, at_ =>
    let r := w.rendererWith (bodyTo crash strict w start depth)
    if strict (c.template start) then body crash w (c.template start) r c at_
    else Render.body w (c.template start) r c at_

/-! ### It does not crash -/

variable {crash : (α : Type) → Run α} {w : Workshop} {t : Template} {r : Renderer} {c : Context}

/-- A loop depends only on what it does with the items of its list. -/
lemma forIn_congr {α : Type} {xs : List α} {f g : α → PUnit → Run (ForInStep PUnit)}
    (h : ∀ x ∈ xs, f x ⟨⟩ = g x ⟨⟩) : forIn xs ⟨⟩ f = forIn xs ⟨⟩ g := by
  induction xs with
  | nil => rfl
  | cons x xs ih =>
    rw [List.forIn_cons, List.forIn_cons, h x List.mem_cons_self]
    refine bind_congr fun step => ?_
    cases step with
    | done _ => rfl
    | yield _ => exact ih fun x hx => h x (List.mem_cons_of_mem _ hx)

lemma event_eq {slot : Nat} (h : slot < t.description.expressions.size) (c : Context)
    (name : String) :
    event crash t c name slot = pure (Render.event t c name slot) := by
  have he := Array.getElem?_eq_getElem h
  rw [event, subscript_eq_pure he, pure_bind, Render.event, expression?, he]
  rfl

lemma elementAttrs_eq {as : List Attr}
    (h : ∀ a ∈ as, ∀ slot ∈ a.value.slot?, slot < t.description.expressions.size) (r : Renderer)
    (c : Context) :
    elementAttrs crash t r c as = Render.elementAttrs t r c as := by
  rw [elementAttrs, Render.elementAttrs]
  refine congrArg (· >>= _) (mapM_congr (List.forall₂_same.2 fun a ha => ?_))
  have hslot := h a ha
  rcases a with ⟨name, v⟩
  cases v with
  | event slot => simp only [event_eq (hslot slot rfl), pure_bind]
  | _ => rfl

lemma callAttr_eq {a : Attr} (h : ∀ slot ∈ a.value.slot?, slot < t.description.expressions.size)
    (r : Renderer) (c : Context) (call : ControlCall) (fs : Fields) :
    callAttr crash t r c call fs a = Render.callAttr t r c call fs a := by
  rcases a with ⟨name, v⟩
  cases v with
  | event slot => simp only [callAttr, Render.callAttr, event_eq (h slot rfl), pure_bind]
  | bind slot b =>
    have he := Array.getElem?_eq_getElem (h slot rfl)
    simp only [callAttr, Render.callAttr, subscript_eq_pure he, pure_bind, Render.binding,
      expression?, he,
      Option.bind_some]
  | _ => rfl

lemma callOf_eq {call : Call}
    (hattrs : ∀ a ∈ call.attrs, ∀ slot ∈ a.value.slot?, slot < t.description.expressions.size)
    (hcontents : ∀ ref ∈ call.contents, ∃ b, t.description.bodies[ref.body]? = some b ∧
    b.kind = .content)
    (r : Renderer) (c : Context) (key name : String) :
    callOf crash t r c key name call = Render.callOf t r c key name call := by
  have hfold : ∀ z : ControlCall × Fields,
      call.attrs.foldlM (fun (acc : ControlCall × Fields) a => callAttr crash t r c acc.1 acc.2 a)
        z =
        call.attrs.foldlM (fun (acc : ControlCall × Fields) a =>
          Render.callAttr t r c acc.1 acc.2 a) z :=
    foldlM_congr (List.forall₂_same.2 fun a ha z => callAttr_eq (hattrs a ha) r c z.1 z.2)
  have hcontent : ∀ fs : Fields, call.contents.foldlM (fun fs (ref : ContentRef) => do
        let _ ← subscript crash t.description.bodies ref.body
        let at_ ← Memory.newContent { name := ref.name, body := ref.body, context := c }
        return Fields.insert ref.name (.content at_) fs) fs =
      call.contents.foldlM (fun fs (ref : ContentRef) => do
        let at_ ← Memory.newContent { name := ref.name, body := ref.body, context := c }
        return Fields.insert ref.name (.content at_) fs) fs := by
    refine foldlM_congr (List.forall₂_same.2 fun ref href fs => ?_)
    obtain ⟨b, hb, -⟩ := hcontents ref href
    rw [subscript_eq_pure hb, pure_bind]
  simp only [callOf, Render.callOf, hfold, hcontent]

lemma watchContents_eq {call : Call}
    (h : ∀ ref ∈ call.contents, ∃ b, t.description.bodies[ref.body]? = some b ∧ b.kind = .content)
    (r : Renderer) (c : Context) : watchContents crash t r c call =
    Render.watchContents r c call := by
  rw [watchContents, Render.watchContents]
  refine congrArg (· >>= _) (forIn_congr fun ref href => ?_)
  obtain ⟨b, hb, -⟩ := h ref href
  simp only [subscript_eq_pure hb, pure_bind]

lemma calling_eq {call : Call}
    (hattrs : ∀ a ∈ call.attrs, ∀ slot ∈ a.value.slot?, slot < t.description.expressions.size)
    (hcontents : ∀ ref ∈ call.contents, ∃ b, t.description.bodies[ref.body]? = some b ∧
    b.kind = .content)
    (r : Renderer) (c : Context) (key name : String) (render : ControlCall → Run (List Rendered)) :
    calling crash t r c key name call render = Render.calling t r c key name call render := by
  rw [calling, Render.calling, watchContents_eq hcontents, callOf_eq hattrs hcontents]

mutual
/-- Where all that stands at or below an instruction takes what is there, rendering does not crash.
-/
theorem instruction_eq (r : Renderer) : ∀ {i : Instruction} (_ : ∀ j, i.Holds j →
    Fits t.description j)
    (c : Context), instruction crash w t r c i = Render.instruction w t r c i
  | .text _ _, _, c => by rw [instruction, Render.instruction]
  | .element key name as children void, h, c => by
    have hchildren : ∀ i ∈ children, ∀ j, i.Holds j → Fits t.description j :=
      fun i hi j hij => h j (.inside hi hij)
    have hattrs : elementAttrs crash t r c as = Render.elementAttrs t r c as :=
      elementAttrs_eq (h _ (.self _)).slot r c
    rw [instruction, Render.instruction, instructions_eq r hchildren, hattrs]
  | .component _ _ _, h, c => by
    rw [instruction, Render.instruction, calling_eq (h _ (.self _)).slot (h _ (.self _)).content]
  | .partialCall _ _ call, h, c => by
    simp only [instruction, Render.instruction]
    exact calling_eq (h _ (.self _)).slot (h _ (.self _)).content r c _ _ _
  | .branches key as, h, c => by
    have harms : ∀ i ∈ as.flatMap Arm.children, ∀ j, i.Holds j → Fits t.description j :=
      fun i hi j hij => h j (.inside hi hij)
    refine (instruction.eq_def ..).trans (Eq.trans ?_ (Render.instruction.eq_def ..).symm)
    exact congrArg (· >>= _) (arms_eq r harms c true _)
  | .loop _ _ _ _ _ children _, h, c => by
    have hchildren : ∀ i ∈ children, ∀ j, i.Holds j → Fits t.description j :=
      fun i hi j hij => h j (.inside hi hij)
    rw [instruction, Render.instruction]
    simp only [instructions_eq r hchildren]
  | .each _ _ _ _ children _, h, c => by
    have hchildren : ∀ i ∈ children, ∀ j, i.Holds j → Fits t.description j :=
      fun i hi j hij => h j (.inside hi hij)
    rw [instruction, Render.instruction]
    simp only [instructions_eq r hchildren]
  | .unknown _, _, c => by rw [instruction, Render.instruction]

theorem instructions_eq (r : Renderer) : ∀ {is : List Instruction}
    (_ : ∀ i ∈ is, ∀ j, i.Holds j → Fits t.description j) (c : Context),
    instructions crash w t r c is = Render.instructions w t r c is
  | [], _, c => by rw [instructions, Render.instructions]
  | i :: is, h, c => by
    rw [instructions, Render.instructions, instruction_eq r (h i List.mem_cons_self),
      instructions_eq r fun i hi => h i (List.mem_cons_of_mem _ hi)]

theorem arms_eq (r : Renderer) : ∀ {as : List Arm}
    (_ : ∀ i ∈ as.flatMap Arm.children, ∀ j, i.Holds j → Fits t.description j) (c : Context)
    (first : Bool)
    (chain : Chain Rendered), arms crash w t r c first chain as = Render.arms w t r c first chain as
  | [], _, c, _, _ => by rw [arms, Render.arms]
  | .mk slot children watch :: as, h, c, first, chain => by
    have hchildren : ∀ i ∈ children, ∀ j, i.Holds j → Fits t.description j :=
      fun i hi => h i (List.mem_append_left _ hi)
    have harms : ∀ i ∈ as.flatMap Arm.children, ∀ j, i.Holds j → Fits t.description j :=
      fun i hi => h i (List.mem_append_right _ hi)
    rw [arms, Render.arms, instructions_eq r hchildren]
    exact bind_congr fun chain => arms_eq r harms c false chain
end

/-- No body of a description that was read crashes, whatever renders the bodies that it calls. -/
theorem body_eq {decorators : Option (List String)} {s : String}
    (h : parse decorators s = .ok t.description) (r : Renderer) (c : Context) (at_ : Nat) :
    body crash w t r c at_ = Render.body w t r c at_ := by
  obtain ⟨draft, -, hdraft⟩ := bind_eq_ok.1 h
  rw [body, Render.body]
  cases hb : t.description.bodies[at_]? with
  | none => rfl
  | some b =>
    simp only [instructions_eq r fun i hi j hij => Draft.fits_of_toDescription hdraft hb hi hij]

/-- Nor do bodies that call each other, through calls of partials and components and through content
that is passed on, as deep as they may. -/
theorem bodyTo_eq {strict : Template → Bool}
    (h : ∀ t, strict t = true → ∃ decorators s, parse decorators s = .ok t.description)
    (w : Workshop) (start : Template) (depth : Nat) : bodyTo crash strict w start depth =
    w.bodyTo start depth := by
  induction depth with
  | zero => rfl
  | succ depth ih =>
    funext c at_
    rw [bodyTo, Workshop.bodyTo, ih]
    split
    next hstrict =>
      obtain ⟨decorators, s, hparse⟩ := h _ hstrict
      exact body_eq hparse _ c at_
    next => rfl

end Strict

end Render

/-- **A description that was read never takes what is not there.** In the document, whatever an
element or a call takes from the tables without looking, at any depth, is in range: the slots of its
events and bindings, and the bodies of its content.  So no body crashes by such a position, for all
data and registries, as a tree or as text or while watching, whatever renders the bodies that it
calls; and no rendering does, as deep as bodies call each other. -/
theorem Description.parse_inBounds {decorators : Option (List String)} {s : String}
    {d : Description} (h : parse decorators s = .ok d) :
    (∃ draft, Draft.read s = .ok draft ∧ draft.toDescription decorators = .ok d ∧
      ∀ b, some b ∈ draft.bodies → ∀ i ∈ b.children, ∀ head children arms,
        i.Holds (.mk head children arms) → draft.InRange head) ∧
    ∀ (crash : (α : Type) → Run α) (w : Workshop),
      (∀ (t : Template) (r : Renderer) (c : Context) (at_ : Nat), t.description = d →
        Render.Strict.body crash w t r c at_ = Render.body w t r c at_) ∧
      ∀ (strict : Template → Bool) (start : Template) (depth : Nat),
        (∀ t, strict t = true → t.description = d) →
          Render.Strict.bodyTo crash strict w start depth = w.bodyTo start depth := by
  constructor
  · obtain ⟨draft, hread, hdraft⟩ := bind_eq_ok.1 h
    have hcheck := (Draft.tables_of_toDescription hdraft).1
    exact ⟨draft, hread, hdraft, fun b hb i hi head children arms =>
      Draft.inRange_of_check hcheck hb hi⟩
  · refine fun crash w => ⟨?_, fun strict start depth hstrict => ?_⟩
    · rintro t r c at_ rfl
      exact Render.Strict.body_eq h r c at_
    · exact Render.Strict.bodyTo_eq (fun t ht => ⟨decorators, s, (hstrict t ht).symm ▸ h⟩) w start
        depth

/-- A written description: a call with an event, and content that is passed to it. -/
def Description.callText : String := Json.text true (.record [
  ("version", .whole 3),
  ("bodies", .list [
    .record [("kind", .text "ROOT"), ("children", .list [.record [("op", .text "component"),
      ("attrs", .list [.record [("kind", .text "event")]]),
      ("contents", .list [.record [("body", .whole 1)]])]])],
    .record [("kind", .text "CONTENT")]]),
  ("internals", .list [.null]),
  ("expressions", .list [.record [("source", .text "go()"), ("event", .bool true)]])])

theorem Description.parse_inBounds_call : ∃ d, parse none callText = .ok d ∧
    ∀ (crash : (α : Type) → Run α) (w : Workshop) (r : Renderer) (c : Context) (at_ : Nat),
      Render.Strict.body crash w { description := d, body := 0 } r c at_ =
        Render.body w { description := d, body := 0 } r c at_ := by
  have hok : (parse none callText).isOk = true := by decide +kernel
  cases h : parse none callText with
  | error f =>
    rw [h] at hok
    cases hok
  | ok d => exact ⟨d, rfl, fun crash w r c at_ => ((parse_inBounds h).2 crash w).1 _ r c at_ rfl⟩

end Trellis
