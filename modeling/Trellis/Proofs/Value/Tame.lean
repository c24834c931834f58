/-
Work that is put together from harmless steps.

Showing a value as text, reading its properties, writing it as JSON and walking over it read memory
and add to it; none of this changes what is there.  What putting work together keeps, and what holds
of each way of adding to memory, therefore holds of all of them.  `Run.Tame` says so of a property
of work, and `Run.Lenient` also that work may fail and may go on after a fault.  There is one lemma
for each function on values.
-/
import Mathlib.Tactic.Common
import Trellis.Decorate.Standard
import Trellis.Render.Body

namespace Trellis

variable {T : Template → Prop} {P : ∀ α : Type, Run α → Prop}

/-- A property of work that putting work together keeps.  It holds of what adds to memory, where the
templates that are kept satisfy `T`; what is read of memory is not the log. -/
structure Run.Tame (T : Template → Prop) (P : ∀ α : Type, Run α → Prop) : Prop where
  of_pure {α : Type} (x : α) : P α (pure x)
  of_bind {α β : Type} {w : Run α} {k : α → Run β} : P α w → (∀ x, P β (k x)) → P β (w >>= k)
  of_get {α : Type} {k : Memory → Run α} : (∀ m lines, k { m with log := lines } = k m) →
    (∀ m : Memory, (∀ t ∈ m.templates, T t) → P α (k m)) → P α (get >>= k)
  alloc (c : Cell) : P Nat (Memory.alloc c)
  newAction (a : Action) : P Nat (Memory.newAction a)
  newTemplate {t : Template} : T t → P Nat (Memory.newTemplate t)
  keep (s : Sitter) (v : Value) : P Unit (modify fun m =>
    { m with portraits := (s, v) :: m.portraits })
  inline {t inner : Template} {name : String} : T t → t.inline? name = some inner → T inner

/-- The objects of a host are read and walked over with such work. -/
structure Host.Tame (P : ∀ α : Type, Run α → Prop) (h : Host) : Prop where
  get : ∀ type read, (h.objects type).get? = some read → ∀ v name, P _ (read v name)
  each : ∀ type each, (h.objects type).each? = some each → ∀ v, P _ (each v)

/-- So are the objects of the host of a machine, and content is shown as text with such work. -/
structure Machine.Tame (P : ∀ α : Type, Run α → Prop) (m : Machine) : Prop where
  host : m.host.Tame P
  content : ∀ at_, P _ (m.contentText at_)

/-- A property that work may have which fails, and work that goes on after a fault. -/
structure Run.Lenient (T : Template → Prop) (P : ∀ α : Type, Run α → Prop) :
    Prop extends Run.Tame T P where
  of_throw {α : Type} (f : Fault) : P α (throw f)
  of_tryCatch {α : Type} {w : Run α} {g : Fault → Run α} : P α w → (∀ f, P α (g f)) →
    P α (tryCatch w g)

namespace Run.Tame

open Memory

variable {α β : Type} (h : Run.Tame T P)

include h

lemma of_mapM {xs : List α} {f : α → Run β} (hf : ∀ x ∈ xs, P β (f x)) : P (List β)
    (xs.mapM f) := by
  induction xs with
  | nil => exact h.of_pure _
  | cons x xs ih =>
    rw [List.mapM_cons]
    refine h.of_bind (hf x List.mem_cons_self) fun y => ?_
    exact h.of_bind (ih fun z hz => hf z (List.mem_cons_of_mem _ hz)) fun ys => h.of_pure _

lemma of_filterMapM {xs : List α} {f : α → Run (Option β)} (hf : ∀ x ∈ xs, P (Option β) (f x)) :
    P (List β) (xs.filterMapM f) := by
  induction xs with
  | nil => exact h.of_pure _
  | cons x xs ih =>
    have hrest := ih fun z hz => hf z (List.mem_cons_of_mem _ hz)
    rw [List.filterMapM_cons]
    refine h.of_bind (hf x List.mem_cons_self) fun y => ?_
    cases y with
    | none => exact hrest
    | some y => exact h.of_bind hrest fun ys => h.of_pure _

/-! ### Memory -/

lemma cell? (at_ : Nat) : P _ (Memory.cell? at_) := h.of_get (fun _ _ => rfl) fun _ _ => h.of_pure _

lemma items (at_ : Nat) : P _ (Memory.items at_) := by
  refine h.of_bind (h.cell? at_) fun c => ?_
  split <;> exact h.of_pure _

lemma fields (at_ : Nat) : P _ (Memory.fields at_) := by
  refine h.of_bind (h.cell? at_) fun c => ?_
  split <;> exact h.of_pure _

lemma entries (at_ : Nat) : P _ (Memory.entries at_) := by
  refine h.of_bind (h.cell? at_) fun c => ?_
  split <;> exact h.of_pure _

lemma inner (at_ : Nat) : P _ (Memory.inner at_) := by
  refine h.of_bind (h.cell? at_) fun c => ?_
  split <;> exact h.of_pure _

lemma newList (xs : List Value) : P _ (Memory.newList xs) := h.of_bind (h.alloc _) fun _ =>
    h.of_pure _

lemma newObject (fs : Fields) : P _ (Memory.newObject fs) := h.of_bind (h.alloc _) fun _ =>
    h.of_pure _

lemma newRecord (type : String) (fs : Fields) : P _ (Memory.newRecord type fs) :=
  h.of_bind (h.alloc _) fun _ => h.of_pure _

lemma newTyped (element : HostType) (xs : List Value) : P _ (Memory.newTyped element xs) :=
  h.of_bind (h.alloc _) fun _ => h.of_pure _

/-- A portrait is painted at most once. -/
lemma portrait (s : Sitter) {paint : Run Value} (hpaint : P _ paint) :
    P _ (Memory.portrait s paint) := by
  refine h.of_get (fun _ _ => rfl) fun m _ => ?_
  split
  · exact h.of_pure _
  · exact h.of_bind hpaint fun v => h.of_bind (h.keep s v) fun _ => h.of_pure _

mutual
lemma ofDatum : ∀ d : Datum, P _ (Memory.ofDatum d)
  | .null | .bool _ | .number _ | .whole _ | .text _ => by
    rw [Memory.ofDatum]
    exact h.of_pure _
  | .list items => by
    rw [Memory.ofDatum]
    exact h.of_bind (ofItems items) fun vs => h.newList vs
  | .record fields => by
    rw [Memory.ofDatum]
    exact h.of_bind (ofFields fields) fun fs => h.newObject _

lemma ofItems : ∀ ds : List Datum, P _ (Memory.ofItems ds)
  | [] => by
    rw [Memory.ofItems]
    exact h.of_pure _
  | d :: ds => by
    rw [Memory.ofItems]
    exact h.of_bind (ofDatum d) fun v => h.of_bind (ofItems ds) fun vs => h.of_pure _

lemma ofFields : ∀ ds : List (String × Datum), P _ (Memory.ofFields ds)
  | [] => by
    rw [Memory.ofFields]
    exact h.of_pure _
  | (name, d) :: ds => by
    rw [Memory.ofFields]
    exact h.of_bind (ofDatum d) fun v => h.of_bind (ofFields ds) fun vs => h.of_pure _
end

/-! ### Portraits -/

lemma action (type : String) (a : Action) : P _ (Portrait.action type a) :=
  h.of_bind (h.newAction a) fun _ => h.of_pure _

lemma record {depth : Nat} (hd : ∀ type d, P _ (Portrait.ofDatum depth type d)) (type : String)
    (d : Datum) :
    P _ (Portrait.ofDatum.record depth type d) := by
  rw [Portrait.ofDatum.record]
  refine h.of_bind (h.of_mapM fun f _ => ?_) fun fs => h.alloc _
  exact h.of_bind (hd _ _) fun _ => h.of_pure _

lemma portraitOf (depth : Nat) (type : HostType) (d : Option Datum) :
    P _ (Portrait.ofDatum depth type d) := by
  induction depth using Nat.strongRecOn generalizing type d with
  | ind depth ih =>
    fun_cases Portrait.ofDatum depth type d
    all_goals first
      | exact h.of_pure _
      | exact h.ofDatum _
      | exact h.of_bind (h.alloc _) fun _ => h.of_pure _
      | exact h.of_bind (h.record (ih _ (Nat.lt_succ_self _)) _ _) fun _ => h.of_pure _
      | exact h.of_bind (h.of_mapM fun d _ => ih _ (Nat.lt_succ_self _) _ _) fun _ =>
          h.of_bind (h.alloc _) fun _ => h.of_pure _

lemma attrs (as : List (String × String)) : P _ (Portrait.attrs as) := by
  refine h.of_bind (h.of_mapM fun a _ => ?_) fun xs => h.newTyped _ xs
  exact h.of_bind (h.alloc _) fun _ => h.of_pure _

lemma events (es : List RenderedEvent) : P _ (Portrait.events es) := by
  refine h.of_bind (h.of_mapM fun e _ => ?_) fun xs => h.newTyped _ xs
  exact h.of_bind (h.action _ _) fun _ => h.newRecord _ _

lemma texts (ts : Option (List String)) : P _ (Portrait.texts ts) :=
  h.of_bind (h.alloc _) fun _ => h.of_pure _

lemma bindings (bs : List RenderedBinding) : P _ (Portrait.bindings bs) := by
  refine h.of_bind (h.of_mapM fun b _ => ?_) fun xs => h.newTyped _ xs
  refine h.of_bind (h.texts _) fun _ => h.of_bind (h.alloc _) fun _ => ?_
  exact h.of_bind (h.action _ _) fun _ => h.newRecord _ _

lemma noOptions : P _ Portrait.noOptions := h.of_bind (h.alloc _) fun _ => h.of_pure _

mutual
lemma node : ∀ n : Rendered, P _ (Portrait.node n)
  | .text key s raw loop => by
    rw [Portrait.node]
    refine h.of_bind (h.newTyped _ _) fun _ => h.of_bind (h.attrs _) fun _ =>
      h.of_bind (h.events _) fun _ => ?_
    exact h.of_bind h.noOptions fun _ => h.of_bind (h.bindings _) fun _ => h.newRecord _ _
  | .element key tag as es ns loop => by
    rw [Portrait.node]
    refine h.of_bind (nodeList ns) fun _ => h.of_bind (h.newTyped _ _) fun _ =>
      h.of_bind (h.attrs _) fun _ => ?_
    refine h.of_bind (h.events _) fun _ => h.of_bind h.noOptions fun _ => ?_
    exact h.of_bind (h.bindings _) fun _ => h.newRecord _ _
  | .control key name options as bs es ns loop => by
    rw [Portrait.node]
    refine h.of_bind (nodeList ns) fun _ => h.of_bind (h.newTyped _ _) fun _ =>
      h.of_bind (h.attrs _) fun _ => ?_
    refine h.of_bind (h.events _) fun _ => h.of_bind (h.newObject _) fun _ => ?_
    exact h.of_bind (h.bindings _) fun _ => h.newRecord _ _

lemma nodeList : ∀ ns : List Rendered, P _ (Portrait.nodeList ns)
  | [] => by
    rw [Portrait.nodeList]
    exact h.of_pure _
  | n :: ns => by
    rw [Portrait.nodeList]
    exact h.of_bind (node n) fun _ => h.of_bind (nodeList ns) fun _ => h.of_pure _
end

lemma nodes (at_ : Nat) : P _ (Portrait.nodes at_) := by
  refine h.portrait _ (h.of_get (fun _ _ => rfl) fun m _ => ?_)
  exact h.of_bind (h.nodeList _) fun _ => h.newTyped _ _

lemma description (at_ : Nat) (t : Template) : P _ (Portrait.description at_ t) :=
  h.portrait _ (h.portraitOf _ _ _)

lemma body (at_ : Nat) (t : Template) : P _ (Portrait.body at_ t) := by
  refine h.of_bind (h.description at_ t) fun v => ?_
  split
  · refine h.of_bind (h.fields _) fun fs => ?_
    split
    · exact h.of_bind (h.items _) fun _ => h.of_pure _
    · exact h.of_pure _
  · exact h.of_pure _

lemma templates (at_ : Nat) {t : Template} (ht : T t) : P _ (Portrait.templates at_ t) := by
  refine h.portrait _ (h.of_bind ?_ fun es => h.of_bind (h.alloc _) fun _ => h.of_pure _)
  refine h.of_filterMapM fun name _ => ?_
  split
  · next inner hinner => exact h.of_bind (h.newTemplate (h.inline ht hinner)) fun _ => h.of_pure _
  · exact h.of_pure _

lemma methods (decorators : List String) (at_ : Nat) (t : Template) :
    P _ (Portrait.methods decorators at_ t) := by
  refine h.portrait _ (h.of_bind (h.of_mapM fun name _ => ?_) fun es => ?_)
  · exact h.of_bind (h.action _ _) fun _ => h.of_pure _
  · exact h.of_bind (h.alloc _) fun _ => h.newRecord _ _

/-! ### Values -/

lemma textTo {m : Machine} (hm : m.Tame P) (depth : Nat) (v : Value) :
    P _ (Value.textTo m depth v) := by
  induction depth using Nat.strongRecOn generalizing v with
  | ind depth ih =>
    fun_cases Value.textTo m depth v
    all_goals first
      | exact h.of_pure _
      | exact hm.content _
      | exact h.of_get (fun _ _ => rfl) fun _ _ => h.of_pure _
      | exact h.of_bind (h.items _) fun xs =>
          h.of_bind (h.of_mapM fun x _ => ih _ (Nat.lt_succ_self _) x) fun _ => h.of_pure _

/-- Every value can be shown as text. -/
theorem toText {m : Machine} (hm : m.Tame P) (v : Value) : P _ (v.toText m) :=
  h.of_get (fun _ _ => rfl) fun _ _ => h.textTo hm _ v

lemma listProperty (at_ : Nat) (name : String) : P _ (Value.listProperty at_ name) := by
  refine h.of_bind (h.items at_) fun xs => ?_
  split <;> exact h.of_pure _

lemma recordProperty (host : Host) (type : String) (at_ : Nat) (name : String) :
    P _ (Value.recordProperty host type at_ name) := by
  refine h.of_bind ?_ fun place => ?_
  · rw [Value.fieldPlace?]
    split
    · exact h.of_pure _
    · exact h.of_bind (h.fields _) fun _ => h.of_pure _
  · split
    · exact h.of_bind (h.fields _) fun _ => h.of_pure _
    · exact h.of_pure _

lemma templateProperty (decorators : List String) (at_ : Nat) {t : Template} (ht : T t)
    (name : String) :
    P _ (Value.templateProperty decorators at_ t name) := by
  rw [Value.templateProperty]
  split
  · exact h.of_pure _
  · exact h.of_pure _
  · exact h.of_pure _
  · exact h.description at_ t
  · exact h.body at_ t
  · exact h.methods decorators at_ t
  · exact h.templates at_ ht
  · exact h.of_pure _

/-- Every value can be asked for a property. -/
theorem property {host : Host} (hh : host.Tame P) (v : Value) (name : String) :
    P _ (v.property host name) := by
  rw [Value.property.eq_def]
  split
  · exact h.of_bind (h.fields _) fun _ => h.of_pure _
  · split
    · exact h.of_pure _
    · exact h.of_bind (h.fields _) fun _ => h.of_pure _
  · split
    next read hread =>
      exact h.of_bind (h.inner _) fun v => h.of_bind (hh.get _ read hread v name) fun _ =>
        h.of_pure _
    next => exact h.of_pure _
  · exact h.listProperty _ _
  · exact h.listProperty _ _
  · exact h.of_pure _
  · exact h.of_bind (h.entries _) fun _ => h.of_pure _
  · exact h.recordProperty _ _ _ _
  · exact h.recordProperty _ _ _ _
  · split
    · exact h.of_get (fun _ _ => rfl) fun _ _ => h.of_pure _
    · exact h.of_pure _
  · refine h.of_get (fun _ _ => rfl) fun m hm => ?_
    split
    next t ht => exact h.templateProperty _ _ (hm t (Array.mem_of_getElem? ht)) _
    next => exact h.of_pure _
  · refine h.of_bind (h.nodes _) fun v => ?_
    split
    · exact h.listProperty _ _
    · exact h.of_pure _
  · exact h.of_pure _

/-- Every value has names of properties. -/
theorem keys {m : Machine} (hm : m.Tame P) (v : Value) : P _ (v.keys m) := by
  fun_cases Value.keys m v
  all_goals first
    | exact h.of_pure _
    | exact h.of_bind (h.fields _) fun _ => h.of_pure _
    | exact h.of_bind (h.entries _) fun es =>
        h.of_bind (h.of_mapM fun e _ => h.toText hm e.1) fun _ => h.of_pure _

/-! ### Walking -/

/-- The entries of a value are found, and each can be read. -/
lemma entriesThen {m : Machine} (hm : m.Tame P) (v : Value) {k : List (Value × Run Value) → Run α}
    (hk : ∀ es, (∀ e ∈ es, P _ e.2) → P α (k es)) : P α (v.entries m >>= k) := by
  have hpositions : ∀ (n : Nat) (read : Nat → Run Value), (∀ i, P _ (read i)) →
      ∀ e ∈ (List.range n).map fun i => (Value.number i.toFloat, read i), P _ e.2 := by
    intro n read hread e he
    obtain ⟨i, _, rfl⟩ := List.mem_map.1 he
    exact hread i
  have hitems : ∀ at_ i : Nat, P _ (do return (← Memory.items at_)[i]?.getD Value.undefined) :=
    fun at_ i => h.of_bind (h.items at_) fun _ => h.of_pure _
  rw [Value.entries.eq_def]
  dsimp only
  split
  · split
    next each heach =>
      simp only [bind_assoc, pure_bind]
      refine h.of_bind (h.inner _) fun w => h.of_bind (hm.host.each _ each heach w) fun xs => ?_
      exact hk _ (hpositions _ _ fun i => h.of_pure _)
    next => exact hk _ fun e he => absurd he List.not_mem_nil
  · simp only [bind_assoc, pure_bind]
    exact h.of_bind (h.items _) fun xs => hk _ (hpositions _ _ (hitems _))
  · simp only [bind_assoc, pure_bind]
    exact h.of_bind (h.items _) fun xs => hk _ (hpositions _ _ (hitems _))
  · simp only [bind_assoc, pure_bind]
    exact h.of_get (fun _ _ => rfl) fun mem _ =>
      hk _ (hpositions _ _ fun i => h.property hm.host _ _)
  · simp only [bind_assoc, pure_bind]
    refine h.of_bind (h.keys hm _) fun ks => hk _ fun e he => ?_
    obtain ⟨k, _, rfl⟩ := List.mem_map.1 he
    exact h.property hm.host _ k

lemma walkEntries {σ : Type} {step : σ → Value → Value → Run (σ × Bool)}
    (hstep : ∀ s key v, P _ (step s key v))
    (es : List (Value × Run Value)) (hes : ∀ e ∈ es, P _ e.2) (s : σ) :
    P _ (Value.walkEntries step s es) := by
  induction es generalizing s with
  | nil => exact h.of_pure _
  | cons e es ih =>
    obtain ⟨key, read⟩ := e
    obtain ⟨hread, hrest⟩ := List.forall_mem_cons.1 hes
    rw [Value.walkEntries]
    refine h.of_bind hread fun v => h.of_bind (hstep s key v) fun r => ?_
    obtain ⟨next, more⟩ := r
    cases more with
    | true => exact ih hrest next
    | false => exact h.of_pure _

lemma walkCount {σ : Type} {step : σ → Value → Value → Run (σ × Bool)}
    (hstep : ∀ s key v, P _ (step s key v))
    (n i : Nat) (s : σ) : P _ (Value.walkCount step s i n) := by
  induction n generalizing s i with
  | zero => exact h.of_pure _
  | succ n ih =>
    rw [Value.walkCount]
    refine h.of_bind (hstep s _ _) fun r => ?_
    obtain ⟨next, more⟩ := r
    cases more with
    | true => exact ih (i + 1) next
    | false => exact h.of_pure _

/-- Every value can be walked over. -/
theorem walk {σ : Type} {m : Machine} (hm : m.Tame P) (v : Value) (s : σ)
    {step : σ → Value → Value → Run (σ × Bool)} (hstep : ∀ s key v, P _ (step s key v)) :
    P _ (v.walk m s step) := by
  rw [Value.walk]
  cases v.walkable? m.host with
  | none => exact h.of_pure _
  | some family =>
    cases family with
    | count => exact h.walkCount hstep _ 0 s
    | _ => exact h.entriesThen hm v fun es hes => h.walkEntries hstep es hes s

/-! ### Operators -/

lemma bothEmpty (a b : Nat) : P _ (Value.bothEmpty a b) :=
  h.of_bind (h.items a) fun _ => h.of_bind (h.items b) fun _ => h.of_pure _

lemma strictEq (a b : Value) : P _ (Value.strictEq a b) := by
  fun_cases Value.strictEq a b
  all_goals first
    | exact h.of_pure _
    | exact h.of_bind (h.bothEmpty _ _) fun _ => h.of_pure _

lemma looseEq (a b : Value) : P _ (Value.looseEq a b) := by
  rw [Value.looseEq]
  split
  · exact h.of_pure _
  · refine h.of_bind (h.strictEq a b) fun same => ?_
    split
    · exact h.of_pure _
    · split <;> exact h.of_pure _

lemma add {m : Machine} (hm : m.Tame P) (a b : Value) : P _ (Value.add m a b) := by
  rw [Value.add]
  split
  · exact h.of_bind (h.toText hm a) fun _ => h.of_bind (h.toText hm b) fun _ => h.of_pure _
  · exact h.of_pure _

/-- Every operator can be applied to all values. -/
theorem binary {m : Machine} (hm : m.Tame P) (op : Expr.BinaryOp) (a b : Value) :
    P _ (Value.binary m op a b) := by
  cases op with
  | add => exact h.add hm a b
  | eq => exact h.of_bind (h.looseEq a b) fun _ => h.of_pure _
  | ne => exact h.of_bind (h.looseEq a b) fun _ => h.of_pure _
  | strictEq => exact h.of_bind (h.strictEq a b) fun _ => h.of_pure _
  | strictNe => exact h.of_bind (h.strictEq a b) fun _ => h.of_pure _
  | _ => exact h.of_pure _

lemma follow {host : Host} (hh : host.Tame P) (v : Value) (path : List String) :
    P _ (Value.follow host v path) := by
  induction path generalizing v with
  | nil => exact h.of_pure _
  | cons name rest ih =>
    rw [Value.follow]
    split
    · exact h.of_pure _
    · exact h.of_bind (h.property hh v name) fun v => ih v

/-! ### Rendering -/

mutual
lemma constant : ∀ d : Datum, P _ (Render.constant d)
  | .null | .bool _ | .number _ | .whole _ | .text _ => by
    rw [Render.constant]
    exact h.of_pure _
  | .list items => by
    rw [Render.constant]
    exact h.of_bind (constants items) fun vs => h.newList vs
  | .record fields => by
    rw [Render.constant]
    exact h.of_bind (namedConstants fields) fun fs => h.newObject _

lemma constants : ∀ ds : List Datum, P _ (Render.constants ds)
  | [] => by
    rw [Render.constants]
    exact h.of_pure _
  | d :: ds => by
    rw [Render.constants]
    exact h.of_bind (constant d) fun v => h.of_bind (constants ds) fun vs => h.of_pure _

lemma namedConstants : ∀ ds : List (String × Datum), P _ (Render.namedConstants ds)
  | [] => by
    rw [Render.namedConstants]
    exact h.of_pure _
  | (name, d) :: ds => by
    rw [Render.namedConstants]
    exact h.of_bind (constant d) fun v => h.of_bind (namedConstants ds) fun vs => h.of_pure _
end

lemma textNode {r : Renderer} (hr : r.machine.Tame P) (key : String) (trusted : Bool) (v : Value) :
    P _ (Render.textNode r key trusted v) := by
  rw [Render.textNode.eq_def]
  split
  · exact h.of_pure _
  · exact h.of_bind (h.toText hr _) fun _ => h.of_pure _

lemma attrText? {r : Renderer} (hr : r.machine.Tame P) (name : String) (v : Value) :
    P _ (Render.attrText? r name v) := by
  rw [Render.attrText?.eq_def]
  split
  · exact h.of_pure _
  · exact h.of_pure _
  · exact h.of_pure _
  · exact h.of_pure _
  · exact h.of_bind (h.toText hr _) fun _ => h.of_pure _

lemma withOptions (data : Value) : P _ data.withOptions := by
  rw [Value.withOptions.eq_def]
  split
  · refine h.of_bind (h.fields _) fun fs => ?_
    split <;> exact h.of_pure _
  · exact h.of_pure _

end Run.Tame

namespace Run.Lenient

variable (h : Run.Lenient T P)

include h

/-! ### Documents -/

lemma jsonNumber (shown : String) (isFinite : Bool) : P _ (Value.jsonNumber shown isFinite) := by
  rw [Value.jsonNumber]
  split
  · exact h.of_pure _
  · exact h.of_throw _

lemma jsonKey (host : Host) (v : Value) : P _ (Value.jsonKey host v) := by
  fun_cases Value.jsonKey host v
  all_goals first
    | exact h.of_pure _
    | exact h.jsonNumber _ _
    | exact h.of_throw _

lemma unlessMissing (at_ : Nat) {w : Run String} (hw : P _ w) :
    P _ (do if ← Value.isMissing at_ then return "null" else w) := by
  refine h.of_bind (h.of_bind (h.cell? at_) fun c => ?_) fun missing => ?_
  · split <;> exact h.of_pure _
  · split
    · exact h.of_pure _
    · exact hw

lemma jsonFields {fs : Fields} {f : String × Value → Run (String × String)}
    (hf : ∀ k v, P _ (f (k, v))) :
    P _ (do return Value.jsonObject (← fs.mapM f)) :=
  h.of_bind (h.of_mapM fun e _ => hf e.1 e.2) fun _ => h.of_pure _

lemma jsonTo (host : Host) (depth : Nat) (v : Value) : P _ (Value.jsonTo host depth v) := by
  induction depth using Nat.strongRecOn generalizing v with
  | ind depth ih =>
    have hitems : ∀ at_ depth', depth' < depth → P _ (do
        if ← Value.isMissing at_ then return "null"
        let items ← (← Memory.items at_).toList.mapM (Value.jsonTo host depth')
        return "[" ++ ",".intercalate items ++ "]") := fun at_ depth' hlt =>
      h.unlessMissing _ (h.of_bind (h.items _) fun _ => h.of_bind (h.of_mapM fun v _ => ih _ hlt v)
        fun _ => h.of_pure _)
    fun_cases Value.jsonTo host depth v
    all_goals first
      | with_reducible exact h.of_pure _
      | with_reducible exact h.jsonNumber _ _
      | with_reducible exact h.of_throw _
      | with_reducible exact h.of_get (fun _ _ => rfl) fun _ _ => h.of_pure _
      | with_reducible exact hitems _ _ (Nat.lt_succ_self _)
      | exact h.of_bind (h.nodes _) fun v => ih _ (Nat.lt_succ_self _) v
      | exact h.unlessMissing _ (h.of_bind (h.items _) fun _ => h.of_pure _)
      | exact h.unlessMissing _ (h.of_bind (h.fields _) fun _ =>
          h.jsonFields fun k v => h.of_bind (ih _ (Nat.lt_succ_self _) v) fun _ => h.of_pure _)
      | exact h.of_bind (h.entries _) fun _ => h.of_bind (h.of_mapM fun e _ =>
          h.of_bind (h.jsonKey host e.1) fun _ => h.of_pure _) fun _ =>
          h.jsonFields fun k v => h.of_bind (ih _ (Nat.lt_succ_self _) v) fun _ => h.of_pure _
      | skip
    -- what is left are the records, of which some fields are left out
    all_goals
      refine h.of_bind (h.fields _) fun fs => h.of_bind (h.of_filterMapM fun f _ => ?_) fun used =>
        h.jsonFields fun k v => h.of_bind (ih _ (Nat.lt_succ_self _) v) fun _ => h.of_pure _
      split
      · exact h.of_pure _
      · dsimp only
        split
        · refine h.of_bind (h.items _) fun _ => ?_
          rw [pure_bind]
          split <;> exact h.of_pure _
        · rw [pure_bind]
          split <;> exact h.of_pure _

/-- A value is written as JSON, or cannot be. -/
theorem jsonText (host : Host) (v : Value) : P _ (Value.jsonText host v) :=
  h.of_get (fun _ _ => rfl) fun _ _ => h.jsonTo host _ v

/-! ### Decorators -/

lemma moment (m : Machine) (f : Formats) (v : Value) : P _ (StandardDecorator.moment m f v) := by
  rw [StandardDecorator.moment.eq_def]
  split
  · exact h.of_pure _
  · exact h.of_pure _
  · split
    · exact h.of_pure _
    · exact h.of_throw _
  · dsimp only
    split
    · exact h.of_throw _
    · exact h.of_pure _

lemma moneyText {m : Machine} (hm : m.Tame P) (f : Formats) (v : Value) (code : Option Value) :
    P _ (StandardDecorator.moneyText m f v code) := by
  unfold StandardDecorator.moneyText
  cases code with
  | none => exact h.of_pure _
  | some code =>
    refine h.of_bind (h.toText hm code) fun s => ?_
    split
    · exact h.of_pure _
    · exact h.of_throw _

/-- An argument as text, where it is given. -/
lemma argument {m : Machine} (hm : m.Tame P) (v : Option Value) (default : String)
    {k : String → Run Value} (hk : ∀ s, P _ (k s)) : P _ (do
      let s ← match v with
        | some a => a.toText m
        | none => pure default
      k s) := by
  cases v with
  | none => exact hk default
  | some a => exact h.of_bind (h.toText hm a) hk

/-- Every standard decorator can be applied to all values. -/
theorem apply {m : Machine} (hm : m.Tame P) (f : Formats) (d : StandardDecorator)
    (args : List Value) :
    P _ (d.apply m f args) := by
  have htext : ∀ change : String → String, P _ (do
      return Value.text (change (← (args.headD .undefined).toText m))) :=
    fun change => h.of_bind (h.toText hm _) fun _ => h.of_pure _
  cases d with
  | truncate => exact h.of_bind (h.toText hm _) fun s => h.argument hm _ _ fun _ => h.of_pure _
  | join =>
    refine h.argument hm _ _ fun divider => h.of_bind (h.walk hm _ _ fun s key v => ?_) fun _ =>
      h.of_pure _
    exact h.of_bind (h.toText hm v) fun _ => h.of_pure _
  | json =>
    rw [StandardDecorator.apply]
    split
    · exact h.of_pure _
    · exact h.of_tryCatch (h.of_bind (h.jsonText _ _) fun _ => h.of_pure _) fun e => h.of_throw _
  | money =>
    rw [StandardDecorator.apply]
    split
    · exact h.of_pure _
    · exact h.of_bind (h.moneyText hm _ _ _) fun _ => h.of_pure _
  | date =>
    rw [StandardDecorator.apply]
    split
    · exact h.of_pure _
    · exact h.of_bind (h.moment m f _) fun _ => h.argument hm _ _ fun _ => h.of_pure _
  | markdown => exact h.of_bind (h.toText hm _) fun _ => h.of_pure _
  | trim => exact htext _
  | upper => exact htext _
  | lower => exact htext _
  | capitalize => exact htext _
  | _ => exact h.of_pure _

end Run.Lenient

end Trellis
