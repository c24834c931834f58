/-
Properties of all work.

Evaluation and rendering are put together from a few ways of touching memory.  What each of these
keeps, and what putting work together keeps, holds of everything that can be done with values,
expressions and templates, if it holds of what the host brings along.  `Run.Pervasive` says so of a
property of work; there is one lemma for each function, here for values, and in
`Trellis.Proofs.Eval.Pervasive` and `Trellis.Proofs.Render.Pervasive` for evaluation and rendering.

The values of watched slots are written only while watching.  So a property comes in two forms, for
work that may write them and for work that may not.
-/
import Trellis.Proofs.Value.Run
import Trellis.Render.Template

namespace Trellis

/-! ### Changes of memory -/

/-- A relation between memories that change after change keeps, and that asks of nothing but scopes,
contents and watched slots. -/
structure Memory.Drift (R : Memory → Memory → Prop) : Prop where
  same : ∀ {m n : Memory}, n.scopes = m.scopes → n.contents = m.contents → n.watched = m.watched →
    R m n
  trans : ∀ {m n k : Memory}, R m n → R n k → R m k

namespace Run

variable {R : Memory → Memory → Prop} {α β : Type}

/-- The memory that work leaves behind is related to that which it finds. -/
def Moves (R : Memory → Memory → Prop) (w : Run α) : Prop := ∀ m, R m (w.on m).2

lemma moves_modifyGet {f : Memory → α × Memory} (h : ∀ m, R m (f m).2) :
    Moves R (modifyGet f : Run α) := h

lemma moves_get {k : Memory → Run α} (h : ∀ m, R m ((k m).on m).2) : Moves R (get >>= k) := by
  intro m
  rw [on_bind (on_get m)]
  exact h m

/-- What holds of all work on values holds of work that moves memory in such a way. -/
lemma lenient_moves (h : Memory.Drift R) : Lenient (fun _ => True) fun _ w => Moves R w where
  of_pure _ _ := h.same rfl rfl rfl
  of_bind {α β w k} hw hk := by
    intro m
    have hfirst := hw m
    obtain ⟨r, m', hr⟩ : ∃ r m', w.on m = (r, m') := ⟨_, _, rfl⟩
    rw [hr] at hfirst
    cases r with
    | error f =>
      rw [on_bind_error hr]
      exact hfirst
    | ok x =>
      rw [on_bind hr]
      exact h.trans hfirst (hk x m')
  of_get _ hk := moves_get fun m => hk m (fun _ _ => trivial) m
  alloc _ := moves_modifyGet fun _ => h.same rfl rfl rfl
  newAction _ := moves_modifyGet fun _ => h.same rfl rfl rfl
  newTemplate _ := moves_modifyGet fun _ => h.same rfl rfl rfl
  keep _ _ := moves_modifyGet fun _ => h.same rfl rfl rfl
  inline _ _ := trivial
  of_throw _ _ := h.same rfl rfl rfl
  of_tryCatch {α w g} hw hg := by
    intro m
    have hfirst := hw m
    obtain ⟨r, m', hr⟩ : ∃ r m', w.on m = (r, m') := ⟨_, _, rfl⟩
    rw [on_tryCatch]
    rw [hr] at hfirst ⊢
    cases r with
    | error f => exact h.trans hfirst (hg f m')
    | ok x => exact hfirst

/-- In a scope that is new names may be forbidden. -/
lemma moves_poisoned (h : Memory.Drift R)
    (hnew : ∀ (m : Memory) s f, R m { m with scopes := (m.scopes.push s).modify m.scopes.size f })
    {c : Context}
    {names : List String} {k : Context → Run α}
    (hk : ∀ inner : Context, inner.watching = c.watching → Moves R (k inner)) :
    Moves R (do
      let inner ← c.nested ""
      Scope.poison inner.scope names
      k inner) := by
  intro m
  exact h.trans (hnew m _ _) (hk { c.spawn "" with scope := m.scopes.size } rfl _)

end Run

/-! ### Pervasive properties -/

/-- A property that work has wherever its parts have it.  `P true` is asked of work while watching,
and `P false` of all other work. -/
structure Run.Pervasive (P : Bool → ∀ α : Type, Run α → Prop) : Prop where
  lenient {watching : Bool} : Run.Lenient (fun _ => True) (P watching)
  calm {α : Type} {w : Run α} (watching : Bool) : P false α w → P watching α w
  /-- what is neither a scope, nor content, nor a watched slot is changed at will -/
  of_modifyGet {α : Type} {f : Memory → α × Memory} : (∀ m, (f m).2.scopes = m.scopes) →
    (∀ m, (f m).2.contents = m.contents) → (∀ m, (f m).2.watched = m.watched) →
      P false α (modifyGet f)
  newScope (s : Scope) : P false Nat (Memory.newScope s)
  /-- a name is given a value in a scope that may have told that it must not be read -/
  insert (at_ : Nat) (name : String) (v : Value) (f : List String → List String) : (∀ l, f l ⊆ l) →
    P false Unit (Memory.updateScope at_ fun s =>
      { s with vars := Fields.insert name v s.vars, poisoned := f s.poisoned })
  /-- names must not be read in a scope that is new -/
  poisoned {α : Type} {watching : Bool} {c : Context} {names : List String} {k : Context → Run α} :
    (∀ inner : Context, inner.watching = c.watching → P watching α (k inner)) → P watching α (do
      let inner ← c.nested ""
      Scope.poison inner.scope names
      k inner)
  newContent {c : ContentOption} : c.context.watching = false → P false Nat (Memory.newContent c)
  rename (at_ : Nat) (name : String) : P false Unit (modify fun m =>
    { m with contents := m.contents.modify at_ fun c => { c with name } })
  /-- content is rendered where it was written, which is not watching -/
  content {α : Type} {at_ : Nat} {k : Option ContentOption → Run α} : P false α (k none) →
    (∀ c, P c.context.watching α (k (some c))) → P false α (get >>= fun m => k m.contents[at_]?)
  watch (f : List (Nat × Value) → List (Nat × Value)) : P true Unit (modify fun m =>
    { m with watched := f m.watched })
  /-- what is watched meanwhile is kept apart, by work that does not fail -/
  apart {α : Type} {w : Run Unit} {k : List (Nat × Value) → α} : P true Unit w →
    (∀ m, ∃ m', w.on m = (.ok (), m')) → P false α (do
      let before := (← get).watched
      modify fun m => { m with watched := [] }
      w
      let found := (← get).watched
      modify fun m => { m with watched := before }
      return k found)

/-- A function of the host that has the property, if showing values as text has it. -/
def HostFunction.Pervasive (P : Bool → ∀ α : Type, Run α → Prop) (f : HostFunction) : Prop :=
  ∀ (shown : Value → Run String) (this : Value) (args : List Value), (∀ v, P false _ (shown v)) →
    P false _ (f.run shown this args)

/-- All functions of a host have the property, and so has reading, writing and walking over its
objects. -/
structure Host.Pervasive (P : Bool → ∀ α : Type, Run α → Prop) (h : Host) :
    Prop extends Host.Tame (P false) h where
  function : ∀ id f, h.functions id = some f → f.Pervasive P
  record : ∀ type, ∀ x ∈ (h.records type).methods, x.function.Pervasive P
  method : ∀ type, ∀ x ∈ (h.objects type).methods, x.function.Pervasive P
  set : ∀ type write, (h.objects type).set? = some write → ∀ v name w, P false _ (write v name w)

/-- A machine of which all parts have the property. -/
structure Machine.Pervasive (P : Bool → ∀ α : Type, Run α → Prop) (m : Machine) : Prop where
  host : m.host.Pervasive P
  content : ∀ at_ v, P false _ (m.content at_ v)
  render : ∀ t v style throws, P false _ (m.render t v style throws)
  watched : ∀ t v, P false _ (m.watched t v)
  fire : ∀ e args, P false _ (m.fire e args)
  update : ∀ b v, P false _ (m.update b v)
  decorator : ∀ formats name f, m.decorator? formats name = some f → ∀ args, P false _ (f args)

variable {P : Bool → ∀ α : Type, Run α → Prop} {α β σ : Type} {m : Machine} {watching : Bool}

namespace Run.Pervasive

variable (h : Run.Pervasive P)

include h

/-! ### Putting work together -/

lemma of_pure (x : α) : P watching α (pure x) := h.lenient.of_pure x

lemma of_bind {w : Run α} {k : α → Run β} (hw : P watching α w) (hk : ∀ x, P watching β (k x)) :
    P watching β (w >>= k) :=
  h.lenient.of_bind hw hk

lemma of_throw (f : Fault) : P watching α (throw f) := h.lenient.of_throw f

lemma of_tryCatch {w : Run α} {g : Fault → Run α} (hw : P watching α w)
    (hg : ∀ f, P watching α (g f)) :
    P watching α (tryCatch w g) :=
  h.lenient.of_tryCatch hw hg

/-- What is read of memory is not the log. -/
lemma of_get {k : Memory → Run α} (hsame : ∀ m lines, k { m with log := lines } = k m)
    (hk : ∀ m, P watching α (k m)) : P watching α (get >>= k) :=
  h.lenient.of_get hsame fun m _ => hk m

omit h in
lemma of_ite {p : Prop} [Decidable p] {v w : Run α} (hv : P watching α v) (hw : P watching α w) :
    P watching α (if p then v else w) := by
  split
  · exact hv
  · exact hw

lemma of_ite_bind {p : Prop} [Decidable p] {v w : Run α} {k : α → Run β} (hv : P watching α v)
    (hw : P watching α w) (hk : ∀ x, P watching β (k x)) :
    P watching β (if p then v >>= k else w >>= k) :=
  of_ite (h.of_bind hv hk) (h.of_bind hw hk)

lemma of_throw_bind (f : Fault) (k : α → Run β) : P watching β (throw f >>= k) := h.of_throw f

/-- Work that goes on unless a check fails. -/
lemma of_unless {p : Prop} [Decidable p] {f : Fault} {k : PUnit → Run β}
    (hk : P watching β (k ⟨⟩)) :
    P watching β (if p then (throw f : Run PUnit) >>= k else k ⟨⟩) :=
  of_ite (h.of_throw_bind f k) hk

lemma of_modify {f : Memory → Memory} (hscopes : ∀ m, (f m).scopes = m.scopes)
    (hcontents : ∀ m, (f m).contents = m.contents) (hwatched : ∀ m, (f m).watched = m.watched) :
    P false Unit (modify f) :=
  h.of_modifyGet hscopes hcontents hwatched

lemma of_foldlM {xs : List α} {f : σ → α → Run σ} (hf : ∀ s x, P watching σ (f s x)) (s : σ) :
    P watching σ (xs.foldlM f s) := by
  induction xs generalizing s with
  | nil => exact h.of_pure s
  | cons x xs ih =>
    rw [List.foldlM_cons]
    exact h.of_bind (hf s x) fun s' => ih s'

lemma of_forIn {xs : List α} {f : α → σ → Run (ForInStep σ)} (hf : ∀ x s, P watching _ (f x s))
    (s : σ) :
    P watching σ (forIn xs s f) := by
  induction xs generalizing s with
  | nil => exact h.of_pure s
  | cons x xs ih =>
    rw [List.forIn_cons]
    refine h.of_bind (hf x s) fun r => ?_
    cases r with
    | done s => exact h.of_pure s
    | yield s => exact ih s

/-! ### Memory -/

lemma put (at_ : Nat) (c : Cell) : P false _ (Memory.put at_ c) :=
  h.of_modify (fun _ => rfl) (fun _ => rfl) fun _ => rfl

lemma logLine (line : String) : P false _ (Memory.logLine line) :=
  h.of_modify (fun _ => rfl) (fun _ => rfl) fun _ => rfl

lemma newNodes (ns : List Rendered) : P false _ (Memory.newNodes ns) :=
  h.of_modifyGet (fun _ => rfl) (fun _ => rfl) fun _ => rfl

lemma replace (s : Sitter) (v : Value) : P false _ (Portrait.replace s v) :=
  h.of_modify (fun _ => rfl) (fun _ => rfl) fun _ => rfl

lemma changeTemplate (at_ : Nat) (f : Template → Template) :
    P false _ (Value.changeTemplate at_ f) :=
  h.of_modify (fun _ => rfl) (fun _ => rfl) fun _ => rfl

end Run.Pervasive

/-- Objects are read and content is shown as text with the property, while watching too. -/
lemma Machine.Pervasive.tame (hm : m.Pervasive P) (h : Run.Pervasive P) : m.Tame (P watching) := by
  refine ⟨⟨fun type read hread v name => ?_, fun type each heach v => ?_⟩, fun at_ => ?_⟩
  · exact h.calm _ (hm.host.get type read hread v name)
  · exact h.calm _ (hm.host.each type each heach v)
  · exact h.calm _ (h.of_tryCatch (h.of_bind (hm.content at_ _) fun _ => h.of_pure _) fun _ =>
      h.of_pure _)

namespace Run.Pervasive

variable (h : Run.Pervasive P) (hm : m.Pervasive P)

include h hm

lemma toText (v : Value) : P false _ (v.toText m) := h.lenient.toText (hm.tame h) v

lemma property (v : Value) (name : String) : P false _ (v.property m.host name) :=
  h.lenient.property hm.host.toTame v name

lemma follow (v : Value) (names : List String) : P false _ (v.follow m.host names) :=
  h.lenient.follow hm.host.toTame v names

lemma keys (v : Value) : P false _ (v.keys m) := h.lenient.keys (hm.tame h) v

lemma binary (op : Expr.BinaryOp) (a b : Value) : P false _ (Value.binary m op a b) :=
  h.lenient.binary (hm.tame h) op a b

/-! ### Types -/

omit hm in
lemma zero (type : HostType) : P false _ (Value.zero type) := by
  cases type with
  | list => exact h.of_bind (h.lenient.alloc _) fun _ => h.of_pure _
  | map => exact h.of_bind (h.lenient.alloc _) fun _ => h.of_pure _
  | _ => exact h.of_pure _

omit hm in
lemma bytesList (vs : List Value) : P false _ (Value.bytesList vs) :=
  h.of_bind (h.lenient.alloc _) fun _ => h.of_pure _

lemma convert (v : Value) (type : HostType) : P false _ (v.convert m type) := by
  have htext : ∀ f : String → Value, P false _ (do return f (← v.toText m)) :=
    fun f => h.of_bind (h.toText hm v) fun _ => h.of_pure _
  have hsame : ∀ {p : Prop} [Decidable p] (f : Fault),
    P false Value (if p then pure v else throw f) :=
    fun f => of_ite (h.of_pure v) (h.of_throw f)
  rw [Value.convert]
  refine of_ite (h.zero type) ?_
  dsimp only
  split
  all_goals first
    | exact h.of_pure _
    | exact htext _
    | exact hsame _
    | exact of_ite (h.of_pure _) (htext _)
    | exact h.bytesList _
    | skip
  refine of_ite ?_ (h.of_throw _)
  split
  · exact h.of_pure _
  · exact h.of_throw _

/-! ### Writing -/

lemma setTemplateProperty (at_ : Nat) (name : String) (v : Value) (failed : Fault) :
    P false _ (Value.setTemplateProperty m at_ name v failed) := by
  have hconvert := fun {β : Type} {k : Value → Run β} (type : HostType) (hk : ∀ w,
      P false _ (k w)) =>
    h.of_bind (h.convert hm v type) hk
  rw [Value.setTemplateProperty]
  split
  · exact hconvert _ fun _ => h.changeTemplate _ _
  · exact hconvert _ fun _ => h.changeTemplate _ _
  · exact hconvert _ fun _ => h.changeTemplate _ _
  · exact hconvert _ fun _ => h.replace _ _
  · exact hconvert _ fun _ => h.replace _ _
  · exact hconvert _ fun _ => h.replace _ _
  · exact hconvert _ fun _ => h.of_pure _
  · exact h.of_throw _

omit hm in
lemma fieldPlace (host : Host) (type : String) (at_ : Nat) (name : String) :
    P false _ (Value.fieldPlace? host type at_ name) := by
  rw [Value.fieldPlace?]
  split
  · exact h.of_pure _
  · exact h.of_bind (h.lenient.fields _) fun _ => h.of_pure _

lemma setProperty (target : Value) (name : String) (v : Value) :
    P false _ (Value.setProperty m target name v) := by
  rw [Value.setProperty.eq_def]
  dsimp only
  split
  · exact h.of_bind (h.lenient.fields _) fun _ => h.put _ _
  · exact h.of_bind (h.lenient.fields _) fun _ => h.put _ _
  · split
    next write hwrite =>
      exact h.of_bind (h.lenient.inner _) fun _ => hm.host.set _ write hwrite _ _ _
    next => exact h.of_throw _
  · refine h.of_bind (h.lenient.items _) fun xs => ?_
    split
    · exact h.put _ _
    · exact h.of_throw _
  · exact h.of_throw _
  · exact h.of_bind (h.convert hm v _) fun _ => h.of_bind (h.lenient.entries _) fun _ => h.put _ _
  · refine h.of_bind (h.fieldPlace _ _ _ _) fun place => ?_
    split
    · exact h.of_bind (h.convert hm v _) fun _ => h.of_bind (h.lenient.fields _) fun _ => h.put _ _
    · exact h.of_throw _
  · exact h.setTemplateProperty hm _ _ _ _
  · exact of_ite (h.of_bind (h.convert hm v _) fun _ => h.rename _ _) (h.of_throw _)
  · exact h.of_throw _

lemma setPath (obj : Value) (names : List String) (v : Value) :
    P false _ (Value.setPath m obj names v) := by
  rw [Value.setPath]
  split
  · exact h.of_pure _
  · refine h.of_bind (h.follow hm obj _) fun target => ?_
    exact h.of_unless (h.setProperty hm target _ v)

/-! ### Calling -/

lemma convertArgs (name : String) (rest : Option HostType) (n : Nat) (types : List HostType)
    (vs : List Value) :
    P false _ (Value.convertArgs m name rest n types vs) := by
  induction vs generalizing n types with
  | nil => exact h.lenient.of_mapM fun type _ => h.zero type
  | cons v vs ih =>
    have hone : ∀ (type : HostType) (types : List HostType), P false _ (do
        let w ← MonadExcept.tryCatch (v.convert m type) fun f =>
          throw (Fault.about (name ++ ": argument " ++ Text.natText n) f)
        return w :: (← Value.convertArgs m name rest (n + 1) types vs)) := fun type types =>
      h.of_bind (h.of_tryCatch (h.convert hm v type) fun _ => h.of_throw _) fun _ =>
        h.of_bind (ih _ _) fun _ => h.of_pure _
    unfold Value.convertArgs
    cases types with
    | nil =>
      cases rest with
      | none => exact ih _ _
      | some type => exact hone type []
    | cons type types => exact hone type types

lemma callHost {f : HostFunction} (hf : f.Pervasive P) (this : Value) (args : List Value)
    (name : String) :
    P false _ (Value.callHost m f this args name) := by
  have hshown := fun v => h.toText hm v
  rw [Value.callHost]
  split
  · exact hf _ _ _ hshown
  · exact h.of_bind (h.convertArgs hm _ _ _ _ _) fun _ => hf _ _ _ hshown

lemma decorate (t : Toolkit) (name : String) (args : List Value) :
    P false _ (m.decorate t name args) := by
  rw [Machine.decorate]
  dsimp only
  split
  · exact h.of_throw _
  · split
    next f hf => exact hm.decorator _ _ f hf args
    next => exact h.of_throw _

omit h hm in
lemma methodOf {params : List HostType} {run : List Value → Run Value}
    (hrun : ∀ args, P false _ (run args)) :
    (Value.methodOf params run).Pervasive P :=
  fun _ _ args _ => hrun args

omit hm in
lemma itemsOf (v : Value) : P false _ (Value.itemsOf v) := by
  rw [Value.itemsOf.eq_def]
  split
  · exact h.of_bind (h.lenient.items _) fun _ => h.of_pure _
  · exact h.of_bind (h.lenient.items _) fun _ => h.of_pure _
  · exact h.of_pure _

lemma actionFunction (a : Action) : (Value.actionFunction m a).Pervasive P := by
  cases a with
  | fire e => exact fun _ _ args _ => hm.fire e args
  | update b => exact methodOf fun args => h.of_bind (hm.update b _) fun _ => h.of_pure _
  | decorator at_ name =>
    refine methodOf fun args => h.of_get (fun _ _ => rfl) fun mem => ?_
    exact h.of_bind (h.itemsOf _) fun _ => h.decorate hm _ _ _

/-- Functions of the host and of the library are called. -/
lemma call (this fn : Value) (args : List Value) (name : String) :
    P false _ (Value.call m this fn args name) := by
  rw [Value.call.eq_def]
  split
  · split
    next f hf => exact h.callHost hm (hm.host.function _ f hf) _ _ _
    next => exact h.of_throw _
  · refine h.of_get (fun _ _ => rfl) fun mem => ?_
    split
    · exact h.callHost hm (h.actionFunction hm _) _ _ _
    · exact h.of_throw _
  · exact h.of_throw _

/-! ### Methods -/

omit hm in
/-- Methods that look at memory at most. -/
lemma method_pure {params : List HostType} {run : List Value → Value} :
    (Value.methodOf params fun args => return run args).Pervasive P :=
  methodOf fun _ => h.of_pure _

omit hm in
lemma appended (args : List Value) (more : List Nat) : P false _ (Value.appended args more) := by
  rw [Value.appended]
  split
  · exact h.of_bind (h.lenient.items _) fun _ => h.bytesList _
  · exact h.bytesList _

omit hm in
lemma stampBytes (t : Instant) (method : String) (written : String → String) (args : List Value) :
    P false _ (Value.stampBytes t method written args) := by
  rw [Value.stampBytes]
  exact of_ite (h.of_throw _) (h.appended _ _)

omit hm in
lemma instantMethod (t : Instant) (name : String) {f : HostFunction}
    (hf : Value.instantMethod? t name = some f) :
    f.Pervasive P := by
  unfold Value.instantMethod? at hf
  dsimp only at hf
  split at hf
  all_goals first
    | (cases hf; exact h.method_pure)
    | (cases hf; exact methodOf fun _ => h.appended _ _)
    | (cases hf; exact methodOf fun _ => h.stampBytes _ _ _ _)
    | cases hf
  refine methodOf fun args => ?_
  split
  · exact h.of_pure _
  · exact h.of_throw _

omit hm in
lemma measureMethod (of : Measure) (n : Int) (name : String) {f : HostFunction}
    (hf : Value.measureMethod? of n name = some f) : f.Pervasive P := by
  unfold Value.measureMethod? at hf
  dsimp only at hf
  split at hf
  all_goals first
    | (cases hf; exact h.method_pure)
    | cases hf

omit hm in
lemma textField (at_ : Nat) (name : String) : P false _ (Value.textField at_ name) :=
  h.of_bind (h.lenient.fields _) fun _ => h.of_pure _

omit hm in
lemma itemsField (at_ : Nat) (name : String) : P false _ (Value.itemsField at_ name) := by
  refine h.of_bind (h.lenient.fields _) fun fs => ?_
  split
  · exact h.of_bind (h.lenient.items _) fun _ => h.of_pure _
  · exact h.of_pure _

omit hm in
lemma nodeText (depth at_ : Nat) : P false _ (Value.nodeText depth at_) := by
  induction depth generalizing at_ with
  | zero => exact h.of_pure _
  | succ depth ih =>
    rw [Value.nodeText]
    refine h.of_bind (h.lenient.fields _) fun fs => ?_
    split
    · exact h.textField _ _
    · exact h.of_bind (h.itemsField _ _) fun _ => h.of_bind (h.lenient.of_mapM fun at_ _ => ih at_)
        fun _ => h.of_pure _

omit hm in
lemma nodeMethod (at_ : Nat) (name : String) {f : HostFunction}
    (hf : Value.nodeMethod? at_ name = some f) :
    f.Pervasive P := by
  unfold Value.nodeMethod? at hf
  split at hf
  · cases hf
    exact methodOf fun _ => h.of_get (fun _ _ => rfl) fun _ => h.of_bind (h.nodeText _ _) fun _ =>
      h.of_pure _
  · cases hf
    refine methodOf fun args => h.of_bind (h.itemsField _ _) fun as => ?_
    refine h.of_bind (h.lenient.of_mapM fun a _ => ?_) fun _ => h.of_pure _
    exact h.of_bind (h.textField _ _) fun _ => h.of_bind (h.textField _ _) fun _ => h.of_pure _
  · cases hf

omit hm in
lemma bodiesOf (at_ : Nat) (kind : String) : P false _ (Value.bodiesOf at_ kind) := by
  refine h.of_bind (h.itemsField _ _) fun vs => h.lenient.of_filterMapM fun v _ => ?_
  split
  · refine h.of_bind (h.lenient.fields _) fun fs => ?_
    split
    · exact h.of_bind (h.textField _ _) fun _ => h.of_pure _
    · exact h.of_pure _
  · exact h.of_pure _

omit hm in
lemma descriptionMethod (at_ : Nat) (name : String) {f : HostFunction}
    (hf : Value.descriptionMethod? at_ name = some f) : f.Pervasive P := by
  unfold Value.descriptionMethod? at hf
  split at hf
  · cases hf
    exact methodOf fun _ => h.of_bind (h.bodiesOf _ _) fun _ => h.of_pure _
  · cases hf
    exact methodOf fun _ => h.of_bind (h.bodiesOf _ _) fun _ => h.of_pure _
  · cases hf
    exact methodOf fun _ => h.of_bind (h.bodiesOf _ _) fun _ => h.lenient.newTyped _ _
  · cases hf

omit hm in
lemma toolkit (at_ : Nat) : P false Toolkit (do
    match (← Memory.fields at_).get? "template" with
    | some (.template t) => return ((← MonadState.get).templates[t]?.map (·.toolkit)).getD {}
    | _ => return {}) := by
  refine h.of_bind (h.lenient.fields _) fun fs => ?_
  split
  · exact h.of_get (fun _ _ => rfl) fun _ => h.of_pure _
  · exact h.of_pure _

lemma toolkitMethod {call : Value → Value → List Value → String → Run Value}
    (hcall : ∀ this fn args name, P false _ (call this fn args name)) (at_ : Nat) (name : String)
    {f : HostFunction} (hf : Value.toolkitMethod? m call at_ name = some f) : f.Pervasive P := by
  have htoolkit := h.toolkit at_
  have hpath : ∀ args : List Value, P false (List String) (do
      return (← Value.itemsOf (args.getD 1 .null)).map (·.asText)) :=
    fun args => h.of_bind (h.itemsOf _) fun _ => h.of_pure _
  unfold Value.toolkitMethod? at hf
  dsimp only at hf
  split at hf
  · cases hf
    exact methodOf fun _ => h.of_bind htoolkit fun _ => h.of_pure _
  · cases hf
    exact methodOf fun _ => h.of_bind htoolkit fun _ => h.of_pure _
  · cases hf
    exact h.method_pure
  · cases hf
    exact methodOf fun args => h.of_bind (hpath args) fun _ => h.follow hm _ _
  · cases hf
    exact methodOf fun args => h.of_bind (hpath args) fun _ =>
      h.of_bind (h.setPath hm _ _ _) fun _ => h.of_pure _
  · cases hf
    exact methodOf fun _ => h.of_bind (h.itemsOf _) fun _ => hcall _ _ _ _
  · cases hf
    exact methodOf fun _ => h.of_bind htoolkit fun _ => h.of_bind (h.itemsOf _) fun _ =>
      h.decorate hm _ _ _
  · cases hf
    exact fun _ _ _ _ => h.of_pure _
  · cases hf
    exact h.method_pure
  · cases hf

omit hm in
lemma output (style : Style) (ns : List Rendered) : P false _ (Value.output style ns) := by
  rw [Value.output.eq_def]
  split
  · exact h.of_bind (h.newNodes _) fun _ => h.of_pure _
  · exact h.of_pure _

omit hm in
lemma ofTemplate (work : Template → Run Value) (hwork : ∀ t, P false _ (work t)) (at_ : Nat) :
    P false Value (do
    match (← MonadState.get).templates[at_]? with
    | some t => work t
    | none => return .undefined) := by
  refine h.of_get (fun _ _ => rfl) fun mem => ?_
  split
  · exact hwork _
  · exact h.of_pure _

lemma templateMethod (at_ : Nat) (name : String) {f : HostFunction}
    (hf : Value.templateMethod? m at_ name = some f) :
    f.Pervasive P := by
  have hrun := fun work hwork => h.ofTemplate work hwork at_
  unfold Value.templateMethod? at hf
  dsimp only at hf
  split at hf
  · cases hf
    exact methodOf fun _ => hrun _ fun t => h.of_bind (hm.render _ _ _ _) fun _ => h.output _ _
  · cases hf
    exact methodOf fun _ => hrun _ fun t => h.of_bind (hm.render _ _ _ _) fun _ => h.output _ _
  · cases hf
    exact methodOf fun _ => hrun _ fun t => h.of_bind (hm.render _ _ _ _) fun _ => h.output _ _
  · cases hf
    exact h.method_pure
  · cases hf
    exact methodOf fun _ => hrun _ fun t => h.lenient.newTyped _ _
  · cases hf
    exact methodOf fun _ => hrun _ fun t => h.bytesList _
  · cases hf
    refine methodOf fun _ => hrun _ fun t => h.of_bind (hm.watched _ _) fun _ => ?_
    exact h.of_bind (h.lenient.alloc _) fun _ => h.of_pure _
  · cases hf

omit h hm in
lemma findMethod {ms : List HostMethod} (hms : ∀ x ∈ ms, x.function.Pervasive P)
    (byReference : Bool) (name : String)
    {f : HostFunction} (hf : Value.findMethod ms byReference name = some f) : f.Pervasive P := by
  obtain ⟨x, hx, rfl⟩ := Option.map_eq_some_iff.1 hf
  exact hms x (List.mem_of_find?_eq_some hx)

omit h in
lemma recordMethod (type : String) : ∀ x ∈ (m.host.recordType type).methods,
    x.function.Pervasive P := by
  rw [Host.recordType]
  cases htype : Schema.type? type with
  | none => exact hm.host.record type
  | some t =>
    -- the records of the library have no methods
    obtain ⟨fields, -, rfl⟩ := Option.map_eq_some_iff.1 htype
    exact fun x hx => absurd hx List.not_mem_nil

/-- Methods of values have the property. -/
lemma method (owner : Value) (name : String) {f : HostFunction}
    (hf : Value.method? m owner name = some f) :
    f.Pervasive P := by
  unfold Value.method? at hf
  dsimp only at hf
  split at hf
  · exact h.templateMethod hm _ _ hf
  · exact h.nodeMethod _ _ hf
  · exact h.descriptionMethod _ _ hf
  · exact h.toolkitMethod hm (h.call hm) _ _ hf
  · split at hf
    · cases hf
      exact fun _ _ _ _ => h.of_pure _
    · cases hf
  · exact findMethod (recordMethod hm _) _ _ hf
  · exact findMethod (recordMethod hm _) _ _ hf
  · exact findMethod (recordMethod hm _) _ _ hf
  · exact findMethod (hm.host.method _) _ _ hf
  · exact h.instantMethod _ _ hf
  · exact h.instantMethod _ _ hf
  · exact h.measureMethod _ _ _ hf
  · split at hf
    · cases hf
      exact h.method_pure
    · cases hf
  · split at hf
    · cases hf
      exact h.method_pure
    · cases hf
  · split at hf
    · cases hf
      exact fun _ _ _ _ => h.of_bind (Machine.Tame.content (hm.tame h) _) fun _ => h.of_pure _
    · cases hf
      exact fun _ _ args _ => h.of_bind (hm.content _ _) fun _ => h.of_bind (h.newNodes _) fun _ =>
        h.of_pure _
    · cases hf
  · cases hf

lemma callPath (owner : Value) (full : String) (names : List String) (args : List Value) :
    P false _ (Value.callPath m owner full names args) := by
  induction names generalizing owner with
  | nil => exact h.of_pure _
  | cons name rest ih =>
    rw [Value.callPath]
    refine h.of_unless (h.of_bind (h.property hm owner name) fun next => of_ite ?_ (ih next))
    split
    next hf => exact h.callHost hm (h.method hm owner name hf) _ _ _
    next => exact h.call hm _ _ _ _

lemma callMethod (owner : Value) (names : List String) (args : List Value) :
    P false _ (Value.callMethod m owner names args) :=
  h.callPath hm _ _ _ _

end Run.Pervasive

end Trellis
