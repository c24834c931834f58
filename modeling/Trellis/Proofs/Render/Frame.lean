/-
What rendering leaves alone.

A template that calls nothing writes where its expressions assign.  If each name that is assigned is
a variable of a loop around the assignment (`Description.keepsToLoops`), then rendering the template
and asking for its watched slots leave all cells of memory as they are, the data with all that
belongs to it among them (`Workshop.render_frame`).  One lemma for each function of the renderer
says so, given that all names that may be assigned are bound in the scope of the context
(`Context.Covers`); for bodies that call each other it comes by induction on how deep they do.

The variables of a loop with three clauses are what its first and its last clause assign.  A name
that the clause between them assigns is none of them, and is looked for further out:
`Workshop.render_writes` is such a page, and writes its data.
-/
import Trellis.Description.Compile
import Trellis.Proofs.Description.Written
import Trellis.Proofs.Eval.Frame
import Trellis.Proofs.Expr.Paths
import Trellis.Render.Template

namespace Trellis

open Run

namespace Description

/-! ### What is written -/

/-- Whether the entry of a slot calls nothing, and assigns nothing but names among `names`. -/
def slotKeepsTo (d : Description) (names : List String) (slot : Nat) : Bool :=
  d.expressions[slot]?.all fun e => e.program.keepsTo names

/-- Whether the slots that are watched do. -/
def watchKeepsTo (d : Description) (names : List String) (watch : Option Nat) : Bool :=
  (Container.expand ((watch.bind fun i => d.watches[i]?).getD [])).all fun slot =>
    d.slotKeepsTo names slot.toNat

/-- The slots that rendering a part evaluates. -/
def Part.evaluated : Part → List Nat
  | .expr slot _ => [slot]
  | _ => []

/-- The slots that rendering an attribute evaluates.  An event is taken as it is. -/
def AttrValue.evaluated : AttrValue → List Nat
  | .bind slot _ => [slot]
  | v => v.parts.flatMap Part.evaluated

/-- The slots that a call evaluates. -/
def Call.evaluated (c : Call) : List Nat :=
  c.attrs.flatMap (·.value.evaluated) ++ (optionParts c.options).flatMap Part.evaluated

/-- The slot that finds a template. -/
def Target.evaluated : Target → List Nat
  | .dynamic slot _ => [slot.toNat]
  | _ => []

/-- The names that a step of a loop over a collection binds. -/
def eachNames (index iterator : String) : List String :=
  if index.isEmpty then [iterator] else [iterator, index]

mutual
/-- Whether an instruction calls nothing, and assigns nothing but names among `names` and the
variables of loops in it. -/
def Instruction.keepsTo (d : Description) (names : List String) : Instruction → Bool
  | .text _ ps => (ps.flatMap Part.evaluated).all (d.slotKeepsTo names)
  | .element _ _ as children _ =>
    (as.flatMap (·.value.evaluated)).all (d.slotKeepsTo names) && keepTo d names children
  | .component _ _ call =>
    call.evaluated.all (d.slotKeepsTo names) && d.watchKeepsTo names call.watch
  | .partialCall _ target call =>
    (target.evaluated ++ call.evaluated).all (d.slotKeepsTo names) &&
      d.watchKeepsTo names call.watch
  | .branches _ as => armsKeepTo d names as
  | .loop _ vars init test update children watch =>
    ([init, test, update].filterMap id).all (d.slotKeepsTo (vars ++ names)) &&
      (d.watchKeepsTo (vars ++ names) watch && keepTo d (vars ++ names) children)
  | .each _ collection index iterator children watch =>
    d.slotKeepsTo names collection &&
      (d.watchKeepsTo (eachNames index iterator ++ names) watch &&
        keepTo d (eachNames index iterator ++ names) children)
  | .unknown _ => true

def keepTo (d : Description) (names : List String) : List Instruction → Bool
  | [] => true
  | i :: is => i.keepsTo d names && keepTo d names is

def armsKeepTo (d : Description) (names : List String) : List Arm → Bool
  | [] => true
  | .mk slot children watch :: as =>
    slot.toList.all (d.slotKeepsTo names) &&
      (d.watchKeepsTo names watch && keepTo d names children) &&
      armsKeepTo d names as
end

/-- Whether the bodies of a description call nothing, and assign nothing but variables of their
loops. -/
def keepsToLoops (d : Description) : Bool :=
  d.bodies.toList.all fun b => d.watchKeepsTo [] b.watch && keepTo d [] b.children

end Description

/-- Templates that call nothing, and assign nothing but variables of their loops. -/
def Memory.Policy.loops : Memory.Policy where
  template t := t.description.keepsToLoops
  inline := by
    intro t inner name ht hinner
    rw [Template.inline?] at hinner
    split at hinner
    · obtain ⟨at_, -, rfl⟩ := Option.map_eq_some_iff.1 hinner
      exact ht
    · cases hinner

/-- Whether a node calls nothing, and assigns nothing but names. -/
def Node.isBare : Node → Bool
  | .expr (.call _ _ _) => false
  | .expr (.assign _ _ (.ident _ _) _) | .expr (.update _ _ _ (.ident _ _)) => true
  | .expr (.assign _ _ _ _) | .expr (.update _ _ _ _) => false
  | _ => true

section

variable {K : Memory.Policy} {m₀ m₁ : Memory} {c : Context} {names : List String} {α β : Type}

/-! ### Contexts -/

/-- A context that obeys the policy, and in which some names are bound. -/
structure Context.Covers (K : Memory.Policy) (m : Memory) (names : List String) (c : Context) :
    Prop where
  obeys : c.Obeys K
  binds : ∀ name ∈ names, Binds m.scopes c.scope name

/-- Such a context whose scope stands in memory. -/
structure Context.Stands (K : Memory.Policy) (m : Memory) (names : List String) (c : Context) :
    Prop extends
    c.Covers K m names where
  lt_size : c.scope < m.scopes.size

lemma Context.Covers.mono (h : c.Covers K m₀ names) (hgrows : m₀.Grows m₁) : c.Covers K m₁ names :=
  ⟨h.obeys, fun name hname => (h.binds name hname).mono hgrows.scopes⟩

lemma Context.Covers.of_subset {more : List String} (h : c.Covers K m₀ more) (hsub : names ⊆ more) :
    c.Covers K m₀ names :=
  ⟨h.obeys, fun name hname => h.binds name (hsub hname)⟩

lemma Context.Stands.mono (h : c.Stands K m₀ names) (hgrows : m₀.Grows m₁) :
    c.Stands K m₁ names := by
  obtain ⟨s, hs, -⟩ := hgrows.scopes.scope (Array.getElem?_eq_getElem h.lt_size)
  exact ⟨h.toCovers.mono hgrows, (Array.getElem?_eq_some_iff.1 hs).1⟩

namespace Run

lemma still_forIn {σ : Type} {xs : List α} {f : α → σ → Run (ForInStep σ)}
    (h : ∀ x ∈ xs, ∀ s, Still K m₀ (f x s)) (s : σ) : Still K m₀ (forIn xs s f) := by
  induction xs generalizing s with
  | nil => exact still_pure s
  | cons x xs ih =>
    rw [List.forIn_cons]
    refine (h x List.mem_cons_self s).bind fun r => ?_
    cases r with
    | done s => exact still_pure s
    | yield s => exact ih (fun y hy => h y (List.mem_cons_of_mem _ hy)) s

lemma still_foldlM {σ : Type} {xs : List α} {f : σ → α → Run σ}
    (h : ∀ x ∈ xs, ∀ s, Still K m₀ (f s x)) (s : σ) :
    Still K m₀ (xs.foldlM f s) := by
  induction xs generalizing s with
  | nil => exact still_pure s
  | cons x xs ih =>
    rw [List.foldlM_cons]
    exact (h x List.mem_cons_self s).bind fun s' =>
      ih (fun y hy => h y (List.mem_cons_of_mem _ hy)) s'

lemma still_throw_bind (f : Fault) (k : α → Run β) : Still K m₀ (throw f >>= k) := by
  intro m _ hsound
  rw [on_bind_error (on_throw f m)]
  exact ⟨.refl m, hsound, fun _ _ => trivial⟩

lemma still_ite_bind {p : Prop} [Decidable p] {v w : Run α} {k : α → Run β} (hv : Still K m₀ v)
    (hw : Still K m₀ w)
    (hk : ∀ x, Still K m₀ (k x)) : Still K m₀ (if p then v >>= k else w >>= k) := by
  split
  · exact hv.bind hk
  · exact hw.bind hk

lemma still_mapM {xs : List α} {f : α → Run β} (h : ∀ x ∈ xs, Still K m₀ (f x)) :
    Still K m₀ (xs.mapM f) :=
  (lenient_still K m₀).of_mapM h

end Run

lemma Memory.keeps_newScope (s : Scope) : Keeps K m₀ (Memory.newScope s) fun i m =>
    m.scopes[i]? = some s ∧ ∀ up name, s.parent = some up → Binds m₀.scopes up name →
    Binds m.scopes i name := by
  refine keeps_modifyGet fun m hm hsound =>
    ⟨⟨id, scopesGrow_push _ _⟩, hsound.of_eq rfl rfl, ?_, fun up name hup h => ?_⟩
  · exact Array.getElem?_push_size
  · exact (h.mono hm.scopes).child hup

/-- The context of a nested construct has a scope of its own, and binds what the one around it
binds. -/
lemma Context.Covers.keeps_nested (hc : c.Covers K m₀ names) (step : String) :
    Keeps K m₀ (c.nested step) fun inner m => inner.Stands K m names := by
  have hobeys : (c.spawn step).Obeys K := by
    rw [Context.spawn]
    split <;> exact hc.obeys
  refine (Memory.keeps_newScope { parent := some c.scope }).bind fun i m₁ _ hi =>
    keeps_pure fun m hm => ?_
  obtain ⟨hi, hbinds⟩ := hi
  have hlt : i < m₁.scopes.size := (Array.getElem?_eq_some_iff.1 hi).1
  exact Context.Stands.mono ⟨⟨hobeys, fun name hname =>
    hbinds c.scope name rfl (hc.binds name hname)⟩, hlt⟩ hm

namespace Context.Stands

/-- A change of the scope of a context after which it tells of more names. -/
lemma keeps_updateScope (hc : c.Stands K m₀ names) {f : Scope → Scope} {l : List String}
    (hf : ∀ s : Scope, s.Grows (f s)) (hl : ∀ s : Scope, ∀ name ∈ l, (f s).Tells name) :
    Keeps K m₀ (Memory.updateScope c.scope f) fun _ m => c.Stands K m (l ++ names) := by
  refine (Scope.keeps_updateScope hf c.scope).grows.weaken fun _ m hm => ?_
  obtain ⟨hgrows, hm⟩ := hm
  obtain ⟨s, hs⟩ := hm _ (Array.getElem?_eq_getElem hc.lt_size)
  refine ⟨⟨hc.obeys, fun name hname => ?_⟩, (Array.getElem?_eq_some_iff.1 hs).1⟩
  obtain hname | hname := List.mem_append.1 hname
  · exact .here hs (hl _ name hname)
  · exact (hc.mono hgrows).binds name hname

lemma keeps_define (hc : c.Stands K m₀ names) (x : String) (v : Value) :
    Keeps K m₀ (Scope.define c.scope x v) fun _ m => c.Stands K m (x :: names) := by
  refine hc.keeps_updateScope (l := [x]) (fun s => ⟨rfl, fun {name} h => ?_⟩) fun s name hname => ?_
  · by_cases hname : name = x
    · exact .inr (Scope.mem_insert.2 (.inl hname))
    · exact h.imp (fun hp => List.mem_filter.2 ⟨hp, by simpa using hname⟩) fun hv =>
        Scope.mem_insert.2 (.inr hv)
  · exact .inr (Scope.mem_insert.2 (.inl (List.mem_singleton.1 hname)))

/-- Names are bound one after the other. -/
lemma keeps_defineAll (hc : c.Stands K m₀ names) (bs : List α) (name : α → String) (v : α → Value) :
    Keeps K m₀ (forIn bs PUnit.unit fun b _ => do
      Scope.define c.scope (name b) (v b)
      return .yield PUnit.unit) fun _ m => c.Stands K m (bs.map name ++ names) := by
  induction bs generalizing m₀ names with
  | nil => exact keeps_pure fun m hm => hc.mono hm
  | cons b bs ih =>
    rw [List.forIn_cons, bind_assoc]
    refine (hc.keeps_define (name b) (v b)).bind fun _ m₁ _ hc => ?_
    rw [pure_bind]
    refine (ih hc).weaken fun _ m hc => ⟨hc.toCovers.of_subset ?_, hc.lt_size⟩
    rw [List.map_cons, List.cons_append]
    exact List.perm_middle.symm.subset

lemma keeps_poison (hc : c.Stands K m₀ names) (more : List String) :
    Keeps K m₀ (Scope.poison c.scope more) fun _ m => c.Stands K m (more ++ names) := by
  have hpoison : ∀ s : Scope, ∀ name, name ∈ s.poisoned ∨ name ∈ more →
    name ∈ Text.dedup (s.poisoned ++ more) :=
    fun s name h => Text.mem_dedup.2 (List.mem_append.2 h)
  refine hc.keeps_updateScope (fun s => ⟨rfl, fun {name} h => ?_⟩) fun s name hname =>
    .inl (hpoison s name (.inr hname))
  obtain hp | hv := h
  · exact .inl (hpoison s name (.inl hp))
  · by_cases hname : name ∈ more
    · exact .inl (hpoison s name (.inr hname))
    · obtain ⟨f, hf, rfl⟩ := List.mem_map.1 hv
      exact .inr (List.mem_map.2 ⟨f, List.mem_filter.2 ⟨hf, by simpa using hname⟩, rfl⟩)

end Context.Stands

/-! ### Renderers -/

/-- A renderer of which no part changes a cell. -/
structure Renderer.Quiet (K : Memory.Policy) (r : Renderer) : Prop where
  machine : ∀ m₀, r.machine.Quiet K m₀
  body : ∀ (m₀ : Memory) (c : Context) (at_ : Nat), c.Obeys K → Still K m₀ (r.body c at_)

/-- What the host brings along changes no cell. -/
structure Workshop.Quiet (K : Memory.Policy) (w : Workshop) : Prop where
  host : ∀ m₀, w.host.Tame fun _ work => Still K m₀ work
  control : ∀ (m₀ : Memory) (name : String) (r : Renderer) (c : Context) (call : ControlCall),
    r.Quiet K → c.Obeys K →
    Still K m₀ (w.controls name r c call)
  decorator : ∀ (m₀ : Memory) (m : Machine), m.Quiet K m₀ →
    ∀ formats name f, w.decorator? m formats name = some f →
    ∀ args, Still K m₀ (f args)

/-- The standard decorators change no cell. -/
lemma Machine.Quiet.standard {m : Machine} (hm : m.Quiet K m₀) {formats : Formats} {name : String}
    {f : List Value → Run Value} (hf : StandardDecorator.find? m formats name = some f)
    (args : List Value) :
    Still K m₀ (f args) := by
  obtain ⟨d, -, rfl⟩ := Option.map_eq_some_iff.1 hf
  exact (lenient_still K m₀).apply hm.toTame formats d args

/-! ### Faults -/

lemma Context.still_contain {work : Run α} (h : Still K m₀ work) (c : Context) (module : String)
    (instead : α) :
    Still K m₀ (c.contain module instead work) := by
  refine h.tryCatch fun f => ?_
  have hreport : Still K m₀ (c.report module f) := by
    rw [Context.report]
    split
    · exact still_modify (fun _ => rfl) (fun _ => rfl) (fun _ => rfl) fun _ => rfl
    · exact still_pure _
  split
  · exact still_throw_bind f _
  · exact hreport.bind fun _ => still_pure instead

namespace Renderer.Quiet

variable {r : Renderer} (hr : r.Quiet K)

include hr

/-- Content that was passed is rendered where it was written. -/
lemma still_content (at_ : Nat) (data : Value) : Still K m₀ (r.content at_ data) := by
  rw [Renderer.content]
  refine keeps_get fun m _ hsound => ?_
  split
  · exact still_pure _
  · next c hc =>
    have hobeys : c.context.Obeys K := hsound.contents c (Array.mem_of_getElem? hc)
    have hcovers : c.context.Covers K m [] :=
      ⟨hobeys, fun name hname => absurd hname List.not_mem_nil⟩
    refine (hcovers.keeps_nested "").bind fun inner m₁ _ hinner => ?_
    exact (hinner.keeps_define c.name data).bind fun _ m₂ _ hinner =>
      hr.body m₂ inner c.body hinner.obeys

/-- A template is rendered as a component. -/
lemma still_component (c : Context) {t : Template} (ht : K.template t) (key : String)
    (options : Nat) :
    Still K m₀ (r.component c t key options) := by
  rw [Renderer.component]
  refine ((lenient_still K m₀).withOptions _).bind fun data => ?_
  refine (Memory.keeps_newScope { data }).bind fun scope m₁ _ _ => hr.body m₁ _ _ ?_
  intro t' watching h
  cases h
  exact ht

end Renderer.Quiet

/-! ### Parts -/

namespace Render

open Description

variable {w : Workshop} {t : Template} {r : Renderer}

section

variable (hw : w.Quiet K) (hr : r.Quiet K) (hc : c.Covers K m₀ names)

include hr hc

lemma still_eval {slot : Nat} (h : t.description.slotKeepsTo names slot) :
    Still K m₀ (eval t r c slot) := by
  rw [eval]
  split
  · next e he =>
    have hkeeps : e.program.keepsTo names := by
      rw [expression?] at he
      rw [slotKeepsTo, he] at h
      exact h
    refine Eval.still_program (hr.machine m₀) (fun at_ hat name hname => ?_) hkeeps
    cases hat
    exact hc.binds name hname
  · exact keeps_throw _

lemma still_collect {watch : Option Nat} (h : t.description.watchKeepsTo names watch) :
    Still K m₀ (collect t r c watch) := by
  rw [collect]
  split
  · exact still_pure _
  · refine (still_forIn (fun slot hslot _ => ?_) _).bind fun _ => still_pure _
    refine keeps_get fun m hm _ => Still.mono ?_ hm
    dsimp only
    split
    · exact still_pure _
    · refine (Still.tryCatch (still_eval hr hc (List.all_eq_true.1 h slot hslot)) fun _ =>
        still_pure _).bind fun v => ?_
      refine Still.bind (still_modify ?_ ?_ ?_ ?_) fun _ => still_pure _
      all_goals exact fun _ => rfl

lemma still_part {p : Part} (h : p.evaluated.all (t.description.slotKeepsTo names)) :
    Still K m₀ (part t r c p) := by
  cases p with
  | expr slot _ =>
    rw [part]
    exact Context.still_contain
      (still_eval hr hc (List.all_eq_true.1 h slot (List.mem_singleton_self _))) _ _ _
  | value d => exact (lenient_still K m₀).constant d
  | text _ => exact still_pure _
  | translation _ _ => exact still_pure _
  | other _ => exact still_pure _

lemma still_parts {ps : List Part}
    (h : (ps.flatMap Part.evaluated).all (t.description.slotKeepsTo names)) :
    Still K m₀ (parts t r c ps) := by
  rw [List.all_flatMap, List.all_eq_true] at h
  rw [parts.eq_def]
  split
  · exact still_part hr hc (h _ (List.mem_singleton_self _))
  · refine (still_mapM fun p hp => ?_).bind fun _ => still_pure _
    exact (still_part hr hc (h p hp)).bind fun v =>
      (lenient_still K m₀).toText (hr.machine m₀).toTame v

lemma still_text {ps : List Part}
    (h : (ps.flatMap Part.evaluated).all (t.description.slotKeepsTo names))
    (key : String) : Still K m₀ (text t r c key ps) := by
  rw [text]
  split
  · exact still_pure _
  · exact (still_parts hr hc h).bind fun v =>
      (lenient_still K m₀).textNode (hr.machine m₀).toTame _ _ v

/-! ### Attributes and options -/

lemma still_elementAttrs {as : List Attr}
    (h : (as.flatMap (·.value.evaluated)).all (t.description.slotKeepsTo names)) :
    Still K m₀ (elementAttrs t r c as) := by
  have hm := (hr.machine m₀).toTame
  rw [List.all_flatMap, List.all_eq_true] at h
  rw [elementAttrs]
  refine (still_mapM fun a ha => ?_).bind fun _ => still_pure _
  have ha := h a ha
  have hparts : ∀ ps, (ps.flatMap Part.evaluated).all (t.description.slotKeepsTo names) →
      Still K m₀ (do return (← attrText? r a.name (← parts t r c ps),
          (none : Option RenderedEvent))) := fun ps hps =>
    (still_parts hr hc hps).bind fun v => ((lenient_still K m₀).attrText? hm _ v).bind fun _ =>
      still_pure _
  cases hvalue : a.value with
  | event slot => exact still_pure _
  | bind slot _ =>
    rw [hvalue] at ha
    refine (Context.still_contain
      (still_eval hr hc (List.all_eq_true.1 ha slot (List.mem_singleton_self _))) _ _ _).bind
      fun v => ?_
    split
    · exact still_pure _
    · exact ((lenient_still K m₀).toText hm v).bind fun _ => still_pure _
  | markup ps => exact hparts ps (by rwa [hvalue] at ha)
  | option ps => exact hparts ps (by rwa [hvalue] at ha)
  | other _ ps => exact hparts ps (by rwa [hvalue] at ha)

set_option linter.unusedSectionVars false in
mutual
lemma still_optionValue : ∀ (v : OptionValue), (v.parts.flatMap Part.evaluated).all
    (t.description.slotKeepsTo names) →
    Still K m₀ (optionValue t r c v)
  | .array items, h => by
    rw [optionValue]
    exact (still_options items h).bind fun _ => (lenient_still K m₀).newList _
  | .object properties, h => by
    rw [optionValue]
    exact (still_options properties h).bind fun _ => (lenient_still K m₀).newObject _
  | .scalar type ps, h => by
    rw [optionValue]
    refine (still_parts hr hc h).bind fun v => ?_
    split
    · exact ((lenient_still K m₀).toText (hr.machine m₀).toTame v).bind fun _ => still_pure _
    · exact still_pure _
    · split <;> exact still_pure _
    · exact still_pure _

lemma still_options : ∀ (os : List OptionSpec), ((optionParts os).flatMap Part.evaluated).all
    (t.description.slotKeepsTo names) → Still K m₀ (options t r c os)
  | [], _ => by
    rw [options]
    exact still_pure _
  | .mk name v :: os, h => by
    rw [optionParts, List.flatMap_append, List.all_append, Bool.and_eq_true] at h
    rw [options]
    exact (still_optionValue v h.1).bind fun _ => (still_options os h.2).bind fun _ => still_pure _
end

lemma still_callAttr {a : Attr} (h : a.value.evaluated.all (t.description.slotKeepsTo names))
    (call : ControlCall) (fs : Fields) : Still K m₀ (callAttr t r c call fs a) := by
  have hm := (hr.machine m₀).toTame
  rw [callAttr]
  cases hvalue : a.value with
  | markup ps =>
    refine (still_parts hr hc (by rwa [hvalue] at h)).bind fun v => ?_
    exact ((lenient_still K m₀).toText hm v).bind fun _ => still_pure _
  | option ps =>
    refine (still_parts hr hc (by rwa [hvalue] at h)).bind fun v => ?_
    split
    · refine ((lenient_still K m₀).keys hm v).bind fun ks => ?_
      refine (still_foldlM (fun k _ fs => ?_) fs).bind fun _ => still_pure _
      exact ((lenient_still K m₀).property hm.host v k).bind fun _ => still_pure _
    · exact still_pure _
  | bind slot _ =>
    rw [hvalue] at h
    exact (Context.still_contain
      (still_eval hr hc (List.all_eq_true.1 h slot (List.mem_singleton_self _))) _ _ _).bind
      fun _ => still_pure _
  | event slot => exact still_pure _
  | other _ _ => exact still_pure _

/-! ### Calls -/

lemma still_callOf {call : Call} (h : call.evaluated.all (t.description.slotKeepsTo names))
    (key name : String) :
    Still K m₀ (callOf t r c key name call) := by
  rw [Call.evaluated, List.all_append, Bool.and_eq_true, List.all_flatMap, List.all_eq_true] at h
  rw [callOf]
  refine (still_foldlM (fun a ha _ => still_callAttr hr hc (h.1 a ha) _ _) _).bind fun _ => ?_
  refine (still_options hr hc _ h.2).bind fun _ => ?_
  refine (still_foldlM (fun ref _ _ => ?_) _).bind fun _ => ((lenient_still K m₀).alloc _).bind
    fun _ => still_pure _
  refine Still.bind (keeps_modifyGet fun m _ hsound =>
    ⟨⟨id, .refl _⟩, ⟨hsound.templates, fun c' hc' => ?_⟩, trivial⟩)
    fun _ => still_pure _
  obtain hc' | rfl := Array.mem_push.1 hc'
  · exact hsound.contents c' hc'
  · exact hc.obeys

/-- What a call passes is gone through. -/
lemma still_watchContents (call : Call) : Still K m₀ (watchContents r c call) := by
  refine (still_forIn (fun ref _ _ => ?_) _).bind fun _ => still_pure _
  refine (hc.keeps_nested "").bind fun inner m₁ _ hinner => ?_
  refine (hinner.keeps_poison [ref.name]).bind fun _ m₂ _ hinner => ?_
  exact (hr.body m₂ inner ref.body hinner.obeys).bind fun _ => still_pure _

lemma still_calling {call : Call} (h : call.evaluated.all (t.description.slotKeepsTo names))
    (hwatch : t.description.watchKeepsTo names call.watch) (key name : String)
    {render : ControlCall → Run (List Rendered)} (hrender : ∀ made, Still K m₀ (render made)) :
    Still K m₀ (calling t r c key name call render) := by
  rw [calling]
  split
  · exact (still_collect hr hc hwatch).bind fun _ => (still_watchContents hr hc call).bind fun _ =>
      still_pure _
  · exact (still_callOf hr hc h key name).bind fun made =>
      Context.still_contain (hrender made) _ _ _

include hw

lemma still_registered (call : ControlCall) (name : String) (found : Option Component) (f : Fault) :
    Still K m₀ (registered w r c call name found f) := by
  rw [registered.eq_def]
  split
  · exact keeps_throw _
  · exact keeps_throw _
  · exact hw.control m₀ _ r c call hr hc.obeys
  · refine keeps_get fun m _ hsound => ?_
    split
    · next t ht => exact hr.still_component c (hsound.templates t (Array.mem_of_getElem? ht)) _ _
    · exact keeps_throw _

lemma still_control (call : ControlCall) : Still K m₀ (control w r c call) := by
  rw [control]
  split
  · exact ((lenient_still K m₀).fields _).bind fun _ => still_pure _
  · exact still_registered hw hr hc call _ _ _

lemma still_partialBody {target : Target}
    (h : target.evaluated.all (t.description.slotKeepsTo names))
    (call : ControlCall) : Still K m₀ (partialBody w t r c call target) := by
  cases target with
  | static name => exact still_registered hw hr hc call _ _ _
  | inline name =>
    rw [partialBody]
    split
    · exact keeps_throw _
    · refine (hc.keeps_nested "").bind fun inner m₁ _ hinner => ?_
      refine ((lenient_still K m₁).fields _).bind fun fs => ?_
      refine (hinner.keeps_defineAll fs (·.1) (·.2)).bind fun _ m₂ _ hinner => ?_
      exact hr.body m₂ _ _ hinner.obeys
  | dynamic slot name =>
    rw [partialBody]
    dsimp only
    split
    · exact still_throw_bind _ _
    · refine (still_eval hr hc (List.all_eq_true.1 h _ (List.mem_singleton_self _))).bind fun v =>
        ?_
      split
      · exact hr.still_content _ _
      · refine keeps_get fun m _ hsound => ?_
        split
        · next t ht =>
            exact hr.still_component c (hsound.templates t (Array.mem_of_getElem? ht)) _ _
        · exact still_pure _
      · exact still_registered hw hr hc call _ _ _
      · exact ((lenient_still K m₀).toText (hr.machine m₀).toTame _).bind fun _ => keeps_throw _

end

/-! ### Loops -/

/-- What stands in a loop lets memory grow wherever some names are bound. -/
def BodyStill (K : Memory.Policy) (m₀ : Memory) (names : List String)
    (body : Context → Run (List Rendered)) : Prop :=
  ∀ m (inner : Context), m₀.Grows m → inner.Covers K m names → Still K m (body inner)

section

variable {body : Context → Run (List Rendered)} {loop : Context}

lemma BodyStill.mono (h : BodyStill K m₀ names body) (hgrows : m₀.Grows m₁) :
    BodyStill K m₁ names body :=
  fun m inner hm hinner => h m inner (hgrows.trans hm) hinner

lemma BodyStill.of_subset {more : List String} (h : BodyStill K m₀ names body)
    (hsub : names ⊆ more) :
    BodyStill K m₀ more body :=
  fun m inner hm hinner => h m inner hm (hinner.of_subset hsub)

lemma still_steps (hloop : loop.Covers K m₀ names) {test update : Run Bool}
    (htest : Still K m₀ test)
    (hupdate : Still K m₀ update) (hbody : BodyStill K m₀ names body) (left done : Nat)
    (made : List (List Rendered)) :
    Still K m₀ (steps t c loop test update body left done made) := by
  have htries : Still K m₀ (steps.tryTest t c test) ∧ Still K m₀ (steps.tryUpdate t c update) := by
    refine ⟨?_, Context.still_contain hupdate _ _ _⟩
    rw [steps.tryTest]
    split
    · exact htest.tryCatch fun _ => still_pure _
    · exact Context.still_contain htest _ _ _
  induction left generalizing done made with
  | zero => exact keeps_throw _
  | succ left ih =>
    rw [steps]
    refine htries.1.bind fun more => ?_
    split
    · exact still_pure _
    · refine (hloop.keeps_nested _).bind fun inner m₁ hm₁ hinner => ?_
      refine (hbody m₁ inner hm₁ hinner.toCovers).bind fun nodes => ?_
      split
      · exact still_pure _
      · refine (htries.2.mono hm₁).bind fun more => ?_
        split
        · exact still_pure _
        · exact (ih _ _).mono hm₁

lemma still_withoutSteps (hc : c.Covers K m₀ names) (vars : List String)
    (hbody : BodyStill K m₀ (vars ++ names) body) :
    Still K m₀ (withoutSteps c vars body) := by
  refine (hc.keeps_nested "").bind fun inner m₁ hm₁ hinner => ?_
  refine (hinner.keeps_poison vars).bind fun _ m₂ hm₂ hinner => ?_
  exact (hbody m₂ inner (hm₁.trans hm₂) hinner.toCovers).bind fun _ => still_pure _

variable (hr : r.Quiet K)

include hr

lemma still_clause (hc : c.Covers K m₀ names) {clause : Option Nat}
    (h : ∀ slot ∈ clause, t.description.slotKeepsTo names slot) :
    Still K m₀ (Render.clause t r c clause) := by
  cases clause with
  | none => exact still_pure _
  | some slot => exact still_eval hr hc (h slot rfl)

/-- A loop with three clauses assigns its variables. -/
lemma still_loop (hc : c.Covers K m₀ names) {vars : List String} {init test update : Option Nat}
    (h : ∀ clause ∈ [init, test, update], ∀ slot ∈ clause, t.description.slotKeepsTo
    (vars ++ names) slot) (hbody : BodyStill K m₀ (vars ++ names) body) :
    Still K m₀ (Render.loop t r c vars init test update body) := by
  rw [Render.loop]
  refine (hc.keeps_nested "").bind fun inner m₁ hm₁ hinner => ?_
  refine (hinner.keeps_defineAll vars id fun _ => .undefined).bind fun _ m₂ hm₂ hinner => ?_
  rw [List.map_id] at hinner
  have hgrows := hm₁.trans hm₂
  have hinner := hinner.toCovers
  have hclause : ∀ clause ∈ [init, test, update], Still K m₂ (Render.clause t r inner clause) :=
    fun clause hmem => still_clause hr hinner (h clause hmem)
  have hstart : Still K m₂ (do let _ ← Render.clause t r inner init; return true) :=
    (hclause init (by simp)).bind fun _ => still_pure _
  have htest : Still K m₂ (do return (← Render.clause t r inner test).truthy) :=
    (hclause test (by simp)).bind fun _ => still_pure _
  have hupdate : Still K m₂ (do let _ ← Render.clause t r inner update; return true) :=
    (hclause update (by simp)).bind fun _ => still_pure _
  have hbody := hbody.mono hgrows
  refine still_ite_bind (hstart.tryCatch fun _ => still_pure _) (Context.still_contain hstart _ _ _)
    fun started => ?_
  refine still_ite_bind (still_steps hinner htest hupdate hbody _ _ _) (still_pure _) fun made => ?_
  dsimp only
  split
  · exact still_withoutSteps hinner vars (hbody.of_subset (List.subset_append_right _ _))
  · exact still_pure _

/-- A loop over a collection binds the names of its entries. -/
lemma still_each (hc : c.Covers K m₀ names) {collection : Nat}
    (h : t.description.slotKeepsTo names collection)
    (index iterator : String) (hbody : BodyStill K m₀ (eachNames index iterator ++ names) body) :
    Still K m₀ (Render.each t r c collection index iterator body) := by
  have hm := (hr.machine m₀).toTame
  have hfound : Still K m₀ (do return some (← eval t r c collection)) :=
    (still_eval hr hc h).bind fun _ => still_pure _
  rw [Render.each]
  refine still_ite_bind (hfound.tryCatch fun _ => still_pure _) (Context.still_contain hfound _ _ _)
    fun found => ?_
  cases found with
  | none => exact still_pure _
  | some v =>
    refine ((lenient_still K m₀).walk hm v _ fun made key element => ?_).bind fun made => ?_
    · refine ((lenient_still K m₀).toText hm key).bind fun step => ?_
      refine (hc.keeps_nested step).bind fun inner m₁ hm₁ hinner => ?_
      refine (hinner.keeps_define iterator element).bind fun _ m₂ hm₂ hinner => ?_
      have hbody := hbody.mono (hm₁.trans hm₂)
      rw [eachNames] at hbody
      dsimp only
      split
      next hindex =>
        rw [if_neg (by simpa using hindex)] at hbody
        refine (hinner.keeps_define index key).bind fun _ m₃ hm₃ hinner => ?_
        refine (hbody m₃ inner hm₃ (hinner.toCovers.of_subset ?_)).bind fun _ => still_pure _
        exact (List.Perm.swap _ _ _).subset
      next hindex =>
        rw [if_pos (by simpa using hindex)] at hbody
        exact (hbody m₂ inner (.refl m₂) hinner.toCovers).bind fun _ => still_pure _
    · split
      · exact still_withoutSteps hc _ hbody
      · exact still_pure _

end

/-! ### Conditions -/

lemma still_chainArm (chain : Chain Rendered) {test : Option (Run (Except Fault Value))}
    {body : Run (Except Fault (List Rendered))} (htest : ∀ work ∈ test, Still K m₀ work)
    (hbody : Still K m₀ body) :
    Still K m₀ (chain.arm test body) := by
  have hvalue : Still K m₀ (test.getD (pure (.ok (.bool true)))) := by
    cases test with
    | none => exact still_pure _
    | some work => exact htest work rfl
  rw [Chain.arm]
  split
  · exact still_pure _
  · cases test
    all_goals
      refine Still.bind hvalue fun value => ?_
      dsimp only
      split
      · exact still_pure _
      · split
        · exact still_pure _
        · refine hbody.bind fun nodes => ?_
          split <;> exact still_pure _

lemma still_arm (hr : r.Quiet K) (hc : c.Covers K m₀ names) (first : Bool) {slot : Option Nat}
    (h : ∀ n ∈ slot, t.description.slotKeepsTo names n) {body : Run (List Rendered)}
    (hbody : Still K m₀ body)
    (chain : Chain Rendered) : Still K m₀ (arm t r c first slot body chain) := by
  have htest : ∀ work ∈ slot.map (test t r c), Still K m₀ work := by
    intro work hwork
    obtain ⟨n, hn, rfl⟩ := Option.mem_map.1 hwork
    have heval := still_eval hr hc (h n hn)
    refine Still.tryCatch ?_ fun _ => still_pure _
    exact still_ite_bind heval (Context.still_contain heval _ _ _) fun _ => still_pure _
  have hok : Still K m₀ (do return (Except.ok (← body) : Except Fault (List Rendered))) :=
    hbody.bind fun _ => still_pure _
  rw [arm.eq_def]
  dsimp only
  split
  all_goals
    refine Still.bind ?_ fun o => ?_
    rotate_left
    · split
      · exact keeps_throw _
      · exact still_pure _
  · rw [Chain.if]
    split
    · exact still_chainArm _ htest hok
    · exact still_pure _
  · rw [Chain.else]
    split
    · exact still_pure _
    · exact still_pure _
    · exact still_pure _
    · exact still_chainArm _ (fun _ h => by cases h) hok
  · rw [Chain.elif]
    split
    · exact still_pure _
    · exact still_pure _
    · exact still_pure _
    · exact still_chainArm _ htest hok

/-! ### Instructions -/

section

variable (hw : w.Quiet K) (hr : r.Quiet K)

include hw hr

set_option linter.unusedSectionVars false in
mutual
/-- An instruction that keeps to names that are bound lets memory grow. -/
theorem still_instruction : ∀ {m₀ : Memory} {c : Context} {names : List String} (i : Instruction),
    c.Covers K m₀ names →
    i.keepsTo t.description names → Still K m₀ (instruction w t r c i)
  | m₀, c, names, .text key ps, hc, h => by
    rw [Instruction.keepsTo] at h
    rw [instruction]
    exact still_text hr hc h key
  | m₀, c, names, .element key name as children _, hc, h => by
    rw [Instruction.keepsTo, Bool.and_eq_true] at h
    rw [instruction.eq_def]
    dsimp only
    split
    · exact (still_instructions children hc h.2).bind fun _ => still_pure _
    · refine (still_elementAttrs hr hc h.1).bind fun _ => ?_
      exact (still_instructions children hc h.2).bind fun _ => still_pure _
  | m₀, c, names, .component key name call, hc, h => by
    rw [Instruction.keepsTo, Bool.and_eq_true] at h
    rw [instruction]
    exact still_calling hr hc h.1 h.2 _ _ fun made => still_control hw hr hc made
  | m₀, c, names, .partialCall key target call, hc, h => by
    rw [Instruction.keepsTo, List.all_append, Bool.and_eq_true, Bool.and_eq_true] at h
    rw [instruction.eq_def]
    exact still_calling hr hc h.1.2 h.2 _ _ fun made => still_partialBody hw hr hc h.1.1 made
  | m₀, c, names, .branches key as, hc, h => by
    rw [Instruction.keepsTo] at h
    rw [instruction]
    refine (still_arms as hc h true _).bind fun chain => ?_
    split
    · exact still_pure _
    · exact keeps_throw _
  | m₀, c, names, .loop key vars init test update children watch, hc, h => by
    rw [Instruction.keepsTo, Bool.and_eq_true, Bool.and_eq_true] at h
    rw [instruction]
    refine still_loop hr hc (fun clause hclause slot hslot => ?_) fun m inner _ hinner => ?_
    · refine List.all_eq_true.1 h.1 slot (List.mem_filterMap.2 ⟨clause, hclause, hslot⟩)
    · exact (still_collect hr hinner h.2.1).bind fun _ => still_instructions children hinner h.2.2
  | m₀, c, names, .each key collection index iterator children watch, hc, h => by
    rw [Instruction.keepsTo, Bool.and_eq_true, Bool.and_eq_true] at h
    rw [instruction]
    refine still_each hr hc h.1 index iterator fun m inner _ hinner => ?_
    exact (still_collect hr hinner h.2.1).bind fun _ => still_instructions children hinner h.2.2
  | m₀, c, names, .unknown op, _, _ => by
    rw [instruction]
    exact keeps_throw _

theorem still_instructions :
    ∀ {m₀ : Memory} {c : Context} {names : List String} (is : List Instruction),
    c.Covers K m₀ names → keepTo t.description names is → Still K m₀ (instructions w t r c is)
  | m₀, c, names, [], _, _ => by
    rw [instructions]
    exact still_pure _
  | m₀, c, names, i :: is, hc, h => by
    rw [keepTo, Bool.and_eq_true] at h
    rw [instructions]
    exact (still_instruction i hc h.1).bind fun _ => (still_instructions is hc h.2).bind fun _ =>
      still_pure _

theorem still_arms : ∀ {m₀ : Memory} {c : Context} {names : List String} (as : List Arm),
    c.Covers K m₀ names →
    armsKeepTo t.description names as → ∀ first chain, Still K m₀ (arms w t r c first chain as)
  | m₀, c, names, [], _, _, first, chain => by
    rw [arms]
    exact still_pure _
  | m₀, c, names, .mk slot children watch :: as, hc, h, first, chain => by
    rw [armsKeepTo, Bool.and_eq_true, Bool.and_eq_true, Bool.and_eq_true] at h
    obtain ⟨⟨hslot, hwatch, hchildren⟩, has⟩ := h
    rw [arms]
    refine (still_arm hr hc first (fun n hn => ?_) ?_ chain).bind fun chain =>
      still_arms as hc has false chain
    · exact List.all_eq_true.1 hslot n (Option.mem_toList.2 hn)
    · exact (still_collect hr hc hwatch).bind fun _ => still_instructions children hc hchildren
end

/-- A body of a description that keeps to its loops lets memory grow. -/
theorem still_body {c : Context} (hc : c.Obeys K) (ht : t.description.keepsToLoops) (at_ : Nat) :
    Still K m₀ (body w t r c at_) := by
  rw [body]
  split
  · exact still_pure _
  · next b hb =>
    have hkeeps := List.all_eq_true.1 ht b (Array.mem_toList_iff.2 (Array.mem_of_getElem? hb))
    rw [Bool.and_eq_true] at hkeeps
    have hcovers : c.Covers K m₀ [] := ⟨hc, fun name hname => absurd hname List.not_mem_nil⟩
    exact (still_collect hr hcovers hkeeps.1).bind fun _ =>
      still_instructions hw hr b.children hcovers hkeeps.2

end

end Render

/-! ### Templates -/

section

variable {w : Workshop} (hw : w.Quiet K)

include hw

lemma Workshop.Quiet.machine {content : Nat → Value → Run (List Rendered)}
    (hcontent : ∀ m₀ at_ data, Still K m₀ (content at_ data)) (render : Template → Value → Style →
    Bool → Run (List Rendered))
    (watched : Template → Value → Run (List (Nat × Value))) (m₀ : Memory) :
    (w.machine content render watched).Quiet K m₀ := by
  have htext : ∀ at_, Still K m₀ (do return Rendered.htmlList false (← content at_ .undefined)) :=
    fun at_ => (hcontent m₀ at_ .undefined).bind fun _ => still_pure _
  refine ⟨⟨⟨(hw.host m₀).get, (hw.host m₀).each⟩, fun at_ => (htext at_).tryCatch fun _ =>
    still_pure _⟩, ?_⟩
  refine hw.decorator m₀ _ ⟨⟨⟨(hw.host m₀).get, (hw.host m₀).each⟩, fun at_ => ?_⟩,
    fun _ _ _ hf => by cases hf⟩
  exact (htext at_).tryCatch fun _ => still_pure _

lemma Workshop.Quiet.rendererWith {body : Context → Nat → Run (List Rendered)}
    (hbody : ∀ (m₀ : Memory) (c : Context) (at_ : Nat), c.Obeys K → Still K m₀ (body c at_)) :
    (w.rendererWith body).Quiet K := by
  have hplain : Renderer.Quiet K
    { machine := w.machine (fun _ _ => return []) (fun _ _ _ _ => return []) fun _ _ => return [],
                                   body } :=
    ⟨hw.machine (fun _ _ _ => still_pure _) _ _, hbody⟩
  exact ⟨hw.machine (fun _ at_ data => hplain.still_content at_ data) _ _, hbody⟩

end

section

variable {w : Workshop} (hw : w.Quiet .loops)

include hw

/-- Bodies let memory grow, however deep they call each other. -/
lemma Workshop.Quiet.still_bodyTo {start : Template} (hstart : start.description.keepsToLoops)
    (depth : Nat) (m₀ : Memory) {c : Context} (hc : c.Obeys .loops) (at_ : Nat) :
    Still .loops m₀ (w.bodyTo start depth c at_) := by
  induction depth generalizing m₀ c at_ with
  | zero => exact keeps_throw _
  | succ depth ih =>
    rw [Workshop.bodyTo]
    refine Render.still_body hw (hw.rendererWith fun m₀ c at_ hc => ih m₀ hc at_) hc ?_ at_
    rw [Context.template]
    split
    · exact hstart
    · next t watching hsubject => exact hc t watching hsubject

end

/-- What an invocation starts in renders its subject. -/
lemma Invocation.keeps_context (i : Invocation) (subject : Subject) :
    Keeps K m₀ (i.context subject) fun c _ => c.subject = subject := by
  rw [Invocation.context]
  refine Keeps.bind ((lenient_still K m₀).withOptions i.data) fun data m₁ _ _ => ?_
  refine (Memory.keeps_newScope _).bind fun scope m₂ _ _ => ?_
  cases i.parent with
  | none => exact keeps_pure fun _ _ => rfl
  | some p => exact keeps_pure fun _ _ => rfl

/-- What is watched is evaluated, and kept apart meanwhile. -/
lemma Renderer.Quiet.still_watchedSlots {r : Renderer} (hr : r.Quiet K) {t : Template}
    (ht : K.template t) (data : Value) : Still K m₀ (r.watchedSlots t data) := by
  have hmodify : ∀ {m₀ : Memory} (f : Memory → List (Nat × Value)),
      Still K m₀ (modify fun m => { m with watched := f m }) :=
    fun f => still_modify (fun _ => rfl) (fun _ => rfl) (fun _ => rfl) fun _ => rfl
  refine keeps_get fun m _ _ => (hmodify fun _ => []).bind fun _ => ?_
  refine (Invocation.keeps_context _ _).bind fun c m₁ _ hc => ?_
  have hobeys : c.Obeys K := by
    intro t' watching h
    rw [hc] at h
    cases h
    exact ht
  have hbody : Still K m₁ (do let _ ← r.body c t.body) := (hr.body m₁ c t.body hobeys).bind fun _ =>
    still_pure _
  refine Still.bind (hbody.tryCatch fun _ => still_pure _) fun _ => keeps_get fun m₂ hm₂ _ => ?_
  exact (hmodify fun _ => _).bind fun _ => still_pure _

/-- Contents of the template that a rendering was started with keep it. -/
lemma Memory.still_settle {t : Template} (ht : K.template t) : Still K m₀ (Memory.settle t) := by
  refine keeps_modifyGet fun m _ hsound =>
    ⟨⟨id, .refl _⟩, ⟨hsound.templates, fun c hc => ?_⟩, trivial⟩
  obtain ⟨c, hmem, rfl⟩ := Array.mem_map.1 hc
  have hobeys : c.context.Obeys K := hsound.contents c hmem
  split
  · intro t' watching h
    cases h
    exact ht
  · exact hobeys

/-- **Frame.** A template that calls nothing, and assigns nothing but variables of the loops around,
leaves everything in memory as it is, whether it is rendered, in either style, or asked for its
watched slots, and also if that fails.  The same must be true of the templates that are in memory
already, of the controls of the host and of how its objects are read. -/
theorem Workshop.render_frame {w : Workshop} (hw : w.Quiet .loops) {t : Template}
    (ht : t.description.keepsToLoops)
    {m : Memory} (hm : m.Sound .loops) {k : Nat} {cell : Cell} (hcell : m.cells[k]? = some cell) :
    (∀ i, ((w.render t i).on m).2.cells[k]? = some cell) ∧
      ∀ data, ((Template.watchedSlots w t data).on m).2.cells[k]? = some cell := by
  refine ⟨fun i => ?_, fun data => ?_⟩
  · have hbegin : Still .loops m (w.begin t i) := by
      refine (i.keeps_context .start).bind fun c m₁ _ hc => ?_
      refine Context.still_contain (hw.still_bodyTo ht _ m₁ (fun t' watching h => ?_) _) _ _ _
      rw [hc] at h
      cases h
    have hrender : Still .loops m (w.render t i) := by
      refine (hbegin.tryCatch fun f => ?_).bind fun nodes => (Memory.still_settle ht).bind fun _ =>
        still_pure _
      exact (Memory.still_settle ht).bind fun _ => keeps_throw f
    exact (hrender m (.refl m) hm).1.cell hcell
  · have hwatched : Still .loops m (Template.watchedSlots w t data) := by
      -- outside of a rendering there is no template that it was started with
      have hnone : (default : Template).description.keepsToLoops := rfl
      have hr : w.renderer.Quiet .loops := hw.rendererWith fun m₀ c at_ hc =>
        hw.still_bodyTo hnone _ m₀ hc at_
      exact hr.still_watchedSlots ht data
    exact (hwatched m (.refl m) hm).1.cell hcell

end

/-- The template of a page that stands alone. -/
def standalone (source : String) : Except Fault Template := do
  Template.ofDescription (← Description.compile { module := "Page" } source) {}

/-- Two loops, one in the other, with variables of one name. -/
def nestedPage : String :=
  "<ws:for data=\"\x7b\x7b x = true; x; x = false \x7d\x7d\"><ws:for data=\"\x7b\x7b x = true; x; x = false \x7d\x7d\">" ++
    "\x7b\x7b x \x7d\x7d</ws:for></ws:for>"

/-- A loop of which the clause between the others assigns a name. -/
def assigningPage : String := "<ws:for data=\"\x7b\x7b ; x = false; \x7d\x7d\"></ws:for>"

/-- Data with one name, which is true. -/
def dataMemory : Memory := { cells := #[.fields [("x", .bool true)]] }

/-- Data with a name that the variables of the loops have too stay as they are. -/
theorem Workshop.render_frame_nestedPage : ∃ t, standalone nestedPage = .ok t ∧
    ∀ style, ((({} : Workshop).render t { data := .object 0, style }).on dataMemory).2.cells[0]? =
      some (.fields [("x", .bool true)]) := by
  have hkeeps : (standalone nestedPage).toOption.any (fun t => t.description.keepsToLoops) =
    true := by decide +kernel
  have hhost : ∀ m₀, ({} : Host).Tame fun _ work => Still .loops m₀ work := by
    intro m₀
    constructor
    · intro type read h
      cases h
    · intro type each h
      cases h
  have hw : ({} : Workshop).Quiet .loops :=
    ⟨hhost, fun _ _ _ _ _ _ _ => still_pure _, fun _ _ hm _ _ _ hf => hm.standard hf⟩
  have hm : dataMemory.Sound .loops :=
    ⟨fun t ht => absurd ht (Array.not_mem_empty t), fun c hc => absurd hc (Array.not_mem_empty c)⟩
  cases ht : standalone nestedPage with
  | error f =>
    rw [ht] at hkeeps
    cases hkeeps
  | ok t =>
    rw [ht] at hkeeps
    exact ⟨t, rfl, fun style => (Workshop.render_frame hw hkeeps hm rfl).1 _⟩

/-- The truth value of the name in `dataMemory`. -/
def Memory.truth? (m : Memory) : Option Bool :=
  match m.cells[0]? with
  | some (Cell.fields [("x", Value.bool b)]) => some b
  | _ => none

/-- The page calls nothing, and assigns nothing but a name in a clause of a loop.  Rendering it, as
nodes or as text, and asking for its watched slots write its data. -/
theorem Workshop.render_writes : ∃ t, standalone assigningPage = .ok t ∧
    (t.description.expressions.toList.all fun e => e.program.nodes.all Node.isBare) ∧
    ((({} : Workshop).render t { data := .object 0, style := .tree }).on dataMemory).2.truth? =
    some false ∧
    ((({} : Workshop).render t { data := .object 0, style := .text false }).on
      dataMemory).2.truth? = some false ∧
    ((Template.watchedSlots {} t (.object 0)).on dataMemory).2.truth? = some false := by
  have hall : (standalone assigningPage).toOption.any (fun t =>
      (t.description.expressions.toList.all fun e => e.program.nodes.all Node.isBare) &&
        (((({} : Workshop).render t { data := .object 0, style := .tree }).on
          dataMemory).2.truth? == some false &&
          (((({} : Workshop).render t { data := .object 0, style := .text false }).on
            dataMemory).2.truth? == some false &&
            ((Template.watchedSlots {} t (.object 0)).on dataMemory).2.truth? == some false))) =
                true := by
    decide +kernel
  cases ht : standalone assigningPage with
  | error f =>
    rw [ht] at hall
    cases hall
  | ok t =>
    rw [ht] at hall
    obtain ⟨hbare, hall⟩ := Bool.and_eq_true_iff.1 hall
    obtain ⟨htree, hall⟩ := Bool.and_eq_true_iff.1 hall
    obtain ⟨htext, hwatched⟩ := Bool.and_eq_true_iff.1 hall
    exact ⟨t, rfl, hbare, eq_of_beq htree, eq_of_beq htext, eq_of_beq hwatched⟩

end Trellis
