/-
What evaluation leaves alone.

An expression writes where it assigns, and where it calls.  A name that is assigned is written to
the nearest scope that tells of it (`Memory.Binds`), and only what no scope tells of goes on to the
data.  An expression that calls nothing and assigns only names that are bound in its scope
(`Program.keepsTo`) therefore leaves all cells of memory as they are (`Eval.still_program`).

`Run.Keeps` says of work on memory that it lets memory grow and says what holds in the memory that
it leaves behind.  The templates that are kept there for later satisfy a `Memory.Policy`.
-/
import Trellis.Proofs.Value.Run

namespace Trellis

/-! ### What is written -/

/-- Whether a node calls nothing, and assigns nothing but names among `names`. -/
def Node.keepsTo (names : List String) : Node → Bool
  | .expr (.call _ _ _) => false
  | .expr (.assign _ _ (.ident _ name) _) | .expr (.update _ _ _ (.ident _ name)) =>
    names.contains name
  | .expr (.assign _ _ _ _) | .expr (.update _ _ _ _) => false
  | _ => true

/-- Whether a program calls nothing, and assigns nothing but names among `names`. -/
def Program.keepsTo (names : List String) (p : Program) : Bool := p.nodes.all (Node.keepsTo names)

/-! ### Scopes -/

namespace Scope

/-- A scope tells of a name: it binds it, or says that it must not be read. -/
def Tells (s : Scope) (name : String) : Prop := name ∈ s.poisoned ∨ name ∈ s.vars.map (·.1)

/-- A scope that grew out of another stands in the same place and tells of all that it told of. -/
structure Grows (s s' : Scope) : Prop where
  parent : s'.parent = s.parent
  tells : ∀ {name}, s.Tells name → s'.Tells name

lemma Grows.refl (s : Scope) : s.Grows s := ⟨rfl, id⟩

lemma Grows.trans {s s' s'' : Scope} (h : s.Grows s') (h' : s'.Grows s'') : s.Grows s'' :=
  ⟨h'.parent.trans h.parent, fun hname => h'.tells (h.tells hname)⟩

lemma mem_insert {fs : Fields} {name x : String} {v : Value} :
    x ∈ (Fields.insert name v fs).map (·.1) ↔ x = name ∨ x ∈ fs.map (·.1) := by
  induction fs with
  | nil => simp [Fields.insert]
  | cons f fs ih =>
    rw [Fields.insert]
    split
    · next heq => simp [eq_of_beq heq]
    · split
      · simp
      · rw [List.map_cons, List.mem_cons, ih, List.map_cons, List.mem_cons]
        tauto

/-- What a scope tells of, it finds. -/
lemma find_ne_absent {s : Scope} {name : String} (h : s.Tells name) : s.find name ≠ .absent := by
  rw [find]
  split
  · intro hfind
    cases hfind
  · next hpoisoned =>
    obtain hpoison | hvar := h
    · exact absurd (List.contains_iff_mem.2 hpoison) hpoisoned
    · obtain ⟨f, hf, rfl⟩ := List.mem_map.1 hvar
      have hsome : (s.vars.get? f.1).isSome := by
        rw [Fields.get?, Option.isSome_map, List.find?_isSome]
        exact ⟨f, hf, beq_self_eq_true _⟩
      obtain ⟨v, hv⟩ := Option.isSome_iff_exists.1 hsome
      rw [hv]
      intro hfind
      cases hfind

lemma grows_insert (s : Scope) (name : String) (v : Value) :
    s.Grows { s with vars := Fields.insert name v s.vars } :=
  ⟨rfl, fun h => h.imp_right fun hvar => mem_insert.2 (.inr hvar)⟩

end Scope

/-- Scopes that grew out of others: they stand where those stood, and there may be more. -/
structure ScopesGrow (a b : Array Scope) : Prop where
  scope : ∀ {i : Nat} {s : Scope}, a[i]? = some s → ∃ s', b[i]? = some s' ∧ s.Grows s'

lemma ScopesGrow.refl (a : Array Scope) : ScopesGrow a a := ⟨fun h => ⟨_, h, .refl _⟩⟩

lemma ScopesGrow.trans {a b c : Array Scope} (h : ScopesGrow a b) (h' : ScopesGrow b c) :
    ScopesGrow a c := by
  refine ⟨fun hs => ?_⟩
  obtain ⟨s', hs', hgrows⟩ := h.scope hs
  obtain ⟨s'', hs'', hgrows'⟩ := h'.scope hs'
  exact ⟨s'', hs'', hgrows.trans hgrows'⟩

lemma scopesGrow_push (a : Array Scope) (s : Scope) : ScopesGrow a (a.push s) := by
  refine ⟨fun {i s'} hs' => ?_⟩
  obtain ⟨hlt, -⟩ := Array.getElem?_eq_some_iff.1 hs'
  exact ⟨s', by rw [Array.getElem?_push_lt hlt, ← Array.getElem?_eq_getElem hlt, hs'], .refl s'⟩

lemma scopesGrow_modify {f : Scope → Scope} (hf : ∀ s : Scope, s.Grows (f s)) (a : Array Scope)
    (at_ : Nat) :
    ScopesGrow a (a.modify at_ f) := by
  refine ⟨fun {i s} hs => ?_⟩
  rw [Array.getElem?_modify, hs]
  split
  · exact ⟨f s, rfl, hf s⟩
  · exact ⟨s, rfl, .refl s⟩

/-- A name is bound along the scopes from one upwards. -/
inductive Binds (a : Array Scope) : Nat → String → Prop
  | here {i : Nat} {s : Scope} {name : String} : a[i]? = some s → s.Tells name → Binds a i name
  | up {i j : Nat} {s : Scope} {name : String} :
    a[i]? = some s → s.parent = some j → j < i → Binds a j name → Binds a i name

lemma Binds.mono {a b : Array Scope} {i : Nat} {name : String} (hab : ScopesGrow a b)
    (h : Binds a i name) :
    Binds b i name := by
  induction h with
  | here hs htells =>
    obtain ⟨s', hs', hgrows⟩ := hab.scope hs
    exact .here hs' (hgrows.tells htells)
  | up hs hparent hlt _ ih =>
    obtain ⟨s', hs', hgrows⟩ := hab.scope hs
    exact .up hs' (hgrows.parent.trans hparent) hlt ih

lemma Binds.lt_size {a : Array Scope} {i : Nat} {name : String} (h : Binds a i name) :
    i < a.size := by
  cases h with
  | here hs _ => exact (Array.getElem?_eq_some_iff.1 hs).1
  | up hs _ _ _ => exact (Array.getElem?_eq_some_iff.1 hs).1

/-- A child of a scope binds what that binds. -/
lemma Binds.child {a : Array Scope} {i : Nat} {s : Scope} {name : String} (h : Binds a i name)
    (hs : s.parent = some i) : Binds (a.push s) a.size name :=
  .up Array.getElem?_push_size hs h.lt_size (h.mono (scopesGrow_push a s))

/-! ### Memory -/

/-- A memory that grew out of another: its cells are what they were, and its scopes grew. -/
structure Memory.Grows (m n : Memory) : Prop where
  cell : ∀ {i : Nat} {c : Cell}, m.cells[i]? = some c → n.cells[i]? = some c
  scopes : ScopesGrow m.scopes n.scopes

/-- What templates satisfy, and with them the templates in them. -/
structure Memory.Policy where
  template : Template → Prop
  inline : ∀ {t inner : Template} {name : String}, template t → t.inline? name = some inner →
    template inner

/-- The template that a context keeps satisfies the policy. -/
def Context.Obeys (K : Memory.Policy) (c : Context) : Prop :=
  ∀ t watching, c.subject = .kept t watching → K.template t

/-- All templates that memory keeps satisfy the policy. -/
structure Memory.Sound (K : Memory.Policy) (m : Memory) : Prop where
  templates : ∀ t ∈ m.templates, K.template t
  contents : ∀ c ∈ m.contents, c.context.Obeys K

namespace Memory

variable {m n k : Memory} {K : Policy}

lemma Grows.refl (m : Memory) : m.Grows m := ⟨id, .refl _⟩

lemma Grows.trans (h : m.Grows n) (h' : n.Grows k) : m.Grows k :=
  ⟨fun hc => h'.cell (h.cell hc), h.scopes.trans h'.scopes⟩

lemma Sound.of_eq (h : m.Sound K) (htemplates : n.templates = m.templates)
    (hcontents : n.contents = m.contents) :
    n.Sound K :=
  ⟨htemplates ▸ h.templates, hcontents ▸ h.contents⟩

end Memory

namespace Run

open Memory (Policy)

variable {α β : Type} {K : Policy} {m₀ m₁ : Memory} {Q : α → Memory → Prop} {R : β → Memory → Prop}

/-- From memories that grew out of `m₀` on, work lets memory grow, keeps the policy, and `Q` holds
of its result and of what it leaves behind. -/
def Keeps (K : Policy) (m₀ : Memory) (w : Run α) (Q : α → Memory → Prop) : Prop :=
  ∀ m, m₀.Grows m → m.Sound K →
    m.Grows (w.on m).2 ∧ (w.on m).2.Sound K ∧ ∀ x, (w.on m).1 = .ok x → Q x (w.on m).2

/-- Work that lets memory grow and keeps the policy. -/
def Still (K : Policy) (m₀ : Memory) (w : Run α) : Prop := Keeps K m₀ w fun _ _ => True

lemma Keeps.mono {w : Run α} (h : Keeps K m₀ w Q) (hgrows : m₀.Grows m₁) : Keeps K m₁ w Q :=
  fun m hm hsound => h m (hgrows.trans hm) hsound

lemma Keeps.weaken {w : Run α} {Q' : α → Memory → Prop} (h : Keeps K m₀ w Q)
    (hQ : ∀ x m, Q x m → Q' x m) :
    Keeps K m₀ w Q' := by
  intro m hm hsound
  obtain ⟨hgrows, hsound', hresult⟩ := h m hm hsound
  exact ⟨hgrows, hsound', fun x hx => hQ x _ (hresult x hx)⟩

/-- What work leaves behind grew out of all that it may start from. -/
lemma Keeps.grows {w : Run α} (h : Keeps K m₀ w Q) : Keeps K m₀ w fun x m => m₀.Grows m ∧
    Q x m := by
  intro m hm hsound
  obtain ⟨hgrows, hsound', hresult⟩ := h m hm hsound
  exact ⟨hgrows, hsound', fun x hx => ⟨hm.trans hgrows, hresult x hx⟩⟩

lemma Keeps.still {w : Run α} (h : Keeps K m₀ w Q) : Still K m₀ w := h.weaken fun _ _ _ => trivial

lemma keeps_pure {x : α} (h : ∀ m, m₀.Grows m → Q x m) : Keeps K m₀ (pure x) Q := by
  intro m hm hsound
  rw [on_pure]
  exact ⟨.refl m, hsound, fun y hy => by cases hy; exact h m hm⟩

lemma keeps_throw (f : Fault) : Keeps K m₀ (throw f) Q := by
  intro m hm hsound
  rw [on_throw]
  exact ⟨.refl m, hsound, fun y hy => by cases hy⟩

/-- What follows is looked at from the memory that came before it on. -/
lemma Keeps.bind {w : Run α} {k : α → Run β} (h : Keeps K m₀ w Q)
    (hk : ∀ x m₁, m₀.Grows m₁ → Q x m₁ → Keeps K m₁ (k x) R) : Keeps K m₀ (w >>= k) R := by
  intro m hm hsound
  obtain ⟨hgrows, hsound', hresult⟩ := h m hm hsound
  obtain ⟨r, m', hw⟩ : ∃ r m', w.on m = (r, m') := ⟨_, _, rfl⟩
  rw [hw] at hgrows hsound' hresult
  cases r with
  | error f =>
    rw [on_bind_error hw]
    exact ⟨hgrows, hsound', fun y hy => by cases hy⟩
  | ok x =>
    rw [on_bind hw]
    obtain ⟨hgrows', hrest⟩ := hk x m' (hm.trans hgrows) (hresult x rfl) m' (.refl m') hsound'
    exact ⟨hgrows.trans hgrows', hrest⟩

lemma keeps_get {k : Memory → Run α} (h : ∀ m, m₀.Grows m → m.Sound K → Keeps K m (k m) Q) :
    Keeps K m₀ (get >>= k) Q := by
  intro m hm hsound
  rw [on_bind (on_get m)]
  exact h m hm hsound m (.refl m) hsound

lemma keeps_modifyGet {f : Memory → α × Memory}
    (h : ∀ m, m₀.Grows m → m.Sound K → m.Grows (f m).2 ∧ (f m).2.Sound K ∧ Q (f m).1 (f m).2) :
    Keeps K m₀ (modifyGet f : Run α) Q := by
  intro m hm hsound
  obtain ⟨hgrows, hsound', hresult⟩ := h m hm hsound
  exact ⟨hgrows, hsound', fun x hx => by cases hx; exact hresult⟩

/-- A change of memory besides cells, scopes and what is kept for later. -/
lemma still_modify {f : Memory → Memory} (hcells : ∀ m, (f m).cells = m.cells)
    (hscopes : ∀ m, (f m).scopes = m.scopes) (htemplates : ∀ m, (f m).templates = m.templates)
    (hcontents : ∀ m, (f m).contents = m.contents) :
    Still K m₀ (modify f : Run Unit) := by
  refine keeps_modifyGet fun m _ hsound => ?_
  have hgrows : ScopesGrow m.scopes (f m).scopes := by rw [hscopes]; exact .refl _
  exact ⟨⟨fun hc => by rwa [hcells], hgrows⟩, hsound.of_eq (htemplates m) (hcontents m), trivial⟩

lemma still_pure (x : α) : Still K m₀ (pure x) := keeps_pure fun _ _ => trivial

lemma Still.mono {w : Run α} (h : Still K m₀ w) (hgrows : m₀.Grows m₁) : Still K m₁ w :=
  Keeps.mono h hgrows

lemma Still.bind {w : Run α} {k : α → Run β} (h : Still K m₀ w) (hk : ∀ x, Still K m₀ (k x)) :
    Still K m₀ (w >>= k) :=
  Keeps.bind h fun x _ hgrows _ => (hk x).mono hgrows

lemma Still.tryCatch {w : Run α} {g : Fault → Run α} (h : Still K m₀ w)
    (hg : ∀ f, Still K m₀ (g f)) :
    Still K m₀ (tryCatch w g) := by
  intro m hm hsound
  obtain ⟨hgrows, hsound', hresult⟩ := h m hm hsound
  rw [on_tryCatch]
  obtain ⟨r, m', hw⟩ : ∃ r m', w.on m = (r, m') := ⟨_, _, rfl⟩
  rw [hw] at hgrows hsound' hresult ⊢
  cases r with
  | ok x => exact ⟨hgrows, hsound', hresult⟩
  | error f =>
    obtain ⟨hgrows', hrest⟩ := hg f m' (hm.trans hgrows) hsound'
    exact ⟨hgrows.trans hgrows', hrest⟩

/-- What holds of all work on values holds of work that lets memory grow. -/
lemma lenient_still (K : Policy) (m₀ : Memory) : Lenient K.template fun _ w => Still K m₀ w where
  of_pure := still_pure
  of_bind := Still.bind
  of_get _ hk := keeps_get fun m hm hsound => (hk m hsound.templates).mono hm
  alloc c := by
    refine keeps_modifyGet fun m _ hsound =>
      ⟨⟨fun {i c'} hc => ?_, .refl _⟩, hsound.of_eq rfl rfl, trivial⟩
    obtain ⟨hlt, -⟩ := Array.getElem?_eq_some_iff.1 hc
    rw [Array.getElem?_push_lt hlt, ← Array.getElem?_eq_getElem hlt, hc]
  newAction a := keeps_modifyGet fun m _ hsound => ⟨⟨id, .refl _⟩, hsound.of_eq rfl rfl, trivial⟩
  newTemplate {t} ht := by
    refine keeps_modifyGet fun m _ hsound =>
      ⟨⟨id, .refl _⟩, ⟨fun t' ht' => ?_, hsound.contents⟩, trivial⟩
    obtain ht' | rfl := Array.mem_push.1 ht'
    · exact hsound.templates t' ht'
    · exact ht
  keep s v := still_modify (fun _ => rfl) (fun _ => rfl) (fun _ => rfl) fun _ => rfl
  inline := K.inline
  of_throw := keeps_throw
  of_tryCatch := Still.tryCatch

end Run

open Run

/-! ### Names -/

namespace Scope

variable {K : Memory.Policy} {m₀ : Memory} {m : Machine} {name : String} {at_ : Nat}

lemma keeps_updateScope {f : Scope → Scope} (hf : ∀ s : Scope, s.Grows (f s)) (at_ : Nat) :
    Keeps K m₀ (Memory.updateScope at_ f) fun _ n =>
      ∀ s, m₀.scopes[at_]? = some s → ∃ s', n.scopes[at_]? = some (f s') := by
  refine keeps_modifyGet fun m hm hsound =>
    ⟨⟨id, scopesGrow_modify hf m.scopes at_⟩, hsound.of_eq rfl rfl, ?_⟩
  intro s hs
  obtain ⟨s', hs', -⟩ := hm.scopes.scope hs
  refine ⟨s', ?_⟩
  rw [Array.getElem?_modify, if_pos rfl, hs']
  rfl

/-- The scopes from one upwards are found, and one of them tells of a name that is bound there. -/
lemma keeps_chain (fuel at_ : Nat) : Keeps K m₀ (chain fuel at_) fun ss _ =>
    ∀ name, at_ ≤ fuel → Binds m₀.scopes at_ name → ∃ e ∈ ss, e.2.Tells name := by
  induction fuel generalizing at_ m₀ with
  | zero =>
    refine keeps_get fun m hm _ => keeps_pure fun _ _ name hle h => ?_
    obtain rfl : at_ = 0 := by omega
    cases h.mono hm.scopes with
    | here hs htells => exact ⟨_, List.mem_singleton_self _, by rw [hs]; exact htells⟩
    | up _ _ hlt _ => omega
  | succ fuel ih =>
    refine keeps_get fun m hm _ => ?_
    cases hs : m.scopes[at_]? with
    | none =>
      refine keeps_pure fun _ _ name _ h => ?_
      obtain ⟨s, hs'⟩ : ∃ s, m.scopes[at_]? = some s :=
        ⟨_, Array.getElem?_eq_getElem (h.mono hm.scopes).lt_size⟩
      rw [hs] at hs'
      cases hs'
    | some s =>
      rw [Option.getD_some]
      cases hparent : s.parent with
      | none =>
        refine keeps_pure fun _ _ name _ h => ?_
        cases h.mono hm.scopes with
        | here hs' htells =>
          rw [hs] at hs'
          cases hs'
          exact ⟨_, List.mem_singleton_self _, htells⟩
        | up hs' hparent' _ _ =>
          rw [hs] at hs'
          cases hs'
          rw [hparent] at hparent'
          cases hparent'
      | some up =>
        refine (ih up).bind fun ss m₁ hm₁ hss => keeps_pure fun _ _ name hle h => ?_
        cases h.mono hm.scopes with
        | here hs' htells =>
          rw [hs] at hs'
          cases hs'
          exact ⟨_, List.mem_cons_self, htells⟩
        | up hs' hparent' hlt h' =>
          rw [hs] at hs'
          cases hs'
          rw [hparent] at hparent'
          cases hparent'
          obtain ⟨e, he, htells⟩ := hss name (by omega) h'
          exact ⟨e, List.mem_cons_of_mem _ he, htells⟩

lemma still_lookup {h : Host} (hh : h.Tame fun _ w => Still K m₀ w) (at_ : Nat) (name : String) :
    Still K m₀ (lookup h at_ name) := by
  refine (keeps_chain at_ at_).still.bind fun ss => ?_
  induction ss with
  | nil => exact still_pure _
  | cons e rest ih =>
    obtain ⟨i, s⟩ := e
    unfold lookupIn
    split
    · exact keeps_throw _
    · exact still_pure _
    · split
      · exact still_pure _
      · exact (lenient_still K m₀).property hh _ _
      · exact ih

/-- Where one of several scopes tells of a name, nothing but a scope is written. -/
lemma keeps_assignIn (m : Machine) {name : String} (v : Value) {ss : List (Nat × Scope)}
    (h : ∃ e ∈ ss, e.2.Tells name) :
    Keeps K m₀ (assignIn m name v ss) fun done _ => done = true := by
  induction ss with
  | nil =>
    obtain ⟨e, he, -⟩ := h
    exact absurd he List.not_mem_nil
  | cons e rest ih =>
    obtain ⟨i, s⟩ := e
    unfold assignIn
    split
    · exact keeps_throw _
    · exact (keeps_updateScope (grows_insert · name v) i).bind fun _ _ _ _ => keeps_pure fun _ _ =>
        rfl
    · next habsent =>
      obtain ⟨e, he, htells⟩ := h
      obtain rfl | he := List.mem_cons.1 he
      · exact absurd habsent (find_ne_absent htells)
      · cases rest with
        | nil => exact absurd he List.not_mem_nil
        | cons e' rest => exact ih ⟨e, he, htells⟩

/-- Assigning a name that is bound writes nothing but a scope. -/
theorem still_assign (m : Machine) (v : Value) (h : Binds m₀.scopes at_ name) :
    Still K m₀ (assign m at_ name v) := by
  refine (keeps_chain at_ at_).bind fun ss m₁ hm₁ hss => ?_
  refine (keeps_assignIn m v (hss name (Nat.le_refl _) h)).bind fun done _ _ hdone => ?_
  rw [hdone]
  exact keeps_pure fun _ _ => trivial

end Scope

/-! ### Expressions -/

/-- A machine that lets memory grow wherever it does what is not evaluation. -/
structure Machine.Quiet (K : Memory.Policy) (m₀ : Memory) (m : Machine) : Prop extends
    m.Tame fun _ w => Still K m₀ w where
  decorator : ∀ formats name f, m.decorator? formats name = some f → ∀ args, Still K m₀ (f args)

namespace Eval

variable {K : Memory.Policy} {m₀ : Memory} {m : Machine} {env : Env} {names : List String}

section

variable (hm : m.Quiet K m₀) (hnames : ∀ at_ ∈ env.scope, ∀ name ∈ names, Binds m₀.scopes at_ name)

lemma still_ambientName (x : String) (contexts : List (Option Nat)) :
    Still K m₀ (ambientName x contexts) := by
  induction contexts with
  | nil => exact still_pure _
  | cons context rest ih =>
    cases context with
    | none => exact ih
    | some at_ =>
      refine ((lenient_still K m₀).fields at_).bind fun fs => ?_
      split
      · exact still_pure _
      · exact ih

lemma still_childName (x : String) : Still K m₀ (childName env x) := by
  rw [childName]
  split
  · exact still_pure _
  · exact ((lenient_still K m₀).fields _).bind fun _ => still_pure _

include hnames in
lemma still_assignName {x : String} (hx : x ∈ names) (v : Value) :
    Still K m₀ (assignName m env x v) := by
  rw [assignName]
  split
  · exact keeps_throw _
  · next at_ hat => exact Scope.still_assign m v (hnames at_ hat x hx)

include hm

lemma still_name (x : String) : Still K m₀ (name m env x) := by
  rw [name]
  split
  · exact still_pure _
  · exact Scope.still_lookup hm.host _ x

lemma still_identifier (x : String) : Still K m₀ (identifier m env x) := by
  rw [identifier.eq_def]
  split
  · exact still_pure _
  · exact still_pure _
  · exact still_pure _
  · exact still_name hm x

lemma still_path (p : List String) : Still K m₀ (path m env p) := by
  have hfollow : ∀ {w : Run Value} (rest : List String), Still K m₀ w →
    Still K m₀ (do (← w).follow m.host rest) :=
    fun rest hw => hw.bind fun v => (lenient_still K m₀).follow hm.host v rest
  rw [path.eq_def]
  split
  · exact still_pure _
  · exact hfollow _ (still_ambientName _ _)
  · exact hfollow _ (still_childName _)
  · exact hfollow _ (still_name hm _)

lemma still_decorate (toolkit : Toolkit) (x : String) (args : List Value) :
    Still K m₀ (m.decorate toolkit x args) := by
  rw [Machine.decorate]
  dsimp only
  split
  · exact keeps_throw _
  · split
    next f hf => exact hm.decorator _ _ f hf args
    next => exact keeps_throw _

include hnames

/-- The target of an assignment is a name among those that may be assigned. -/
lemma still_target {e target : Expr} (h : (Node.expr e).keepsTo names)
    (he : (∃ span op value, e = .assign span op target value) ∨
    ∃ span op before, e = .update span op before target) :
    Still K m₀ (read m env target) ∧ ∀ v, Still K m₀ (write m env target v) := by
  have hident : ∃ s x, target = .ident s x ∧ x ∈ names := by
    obtain ⟨span, op, value, rfl⟩ | ⟨span, op, before, rfl⟩ := he
    all_goals
      cases target with
      | ident s x => exact ⟨s, x, rfl, List.contains_iff_mem.1 h⟩
      | _ => cases h
  obtain ⟨s, x, rfl, hx⟩ := hident
  exact ⟨still_name hm x, fun v => still_assignName hnames hx v⟩

set_option linter.unusedSectionVars false in
mutual
/-- An expression that calls nothing and assigns only names that are bound lets memory grow. -/
theorem still_expr : ∀ (e : Expr), e.nodes.all (Node.keepsTo names) → Still K m₀ (expr m env e)
  | .lit s l, _ => by
    rw [expr]
    exact still_pure _
  | .this s, _ => by
    rw [expr]
    exact still_pure _
  | .ident s x, _ => by
    rw [expr]
    exact still_identifier hm x
  | .member s base ns x, h => by
    simp only [Expr.nodes, List.all_append, Bool.and_eq_true] at h
    rw [expr.eq_def]
    dsimp only
    split
    · exact still_path hm _
    · exact (still_expr base h.1).bind fun v => (lenient_still K m₀).follow hm.host v _
  | .index s base key, h => by
    simp only [Expr.nodes, List.all_append, Bool.and_eq_true] at h
    rw [expr.eq_def]
    dsimp only
    split
    · exact still_path hm _
    · refine (still_expr base h.1.1).bind fun owner => ?_
      refine (still_expr key h.1.2).bind fun k => ?_
      refine ((lenient_still K m₀).toText hm.toTame k).bind fun text => ?_
      exact (lenient_still K m₀).follow hm.host owner _
  | .call s callee args, h => by
    simp only [Expr.nodes, List.all_append, Bool.and_eq_true] at h
    cases List.all_cons.symm.trans h.2
  | .pipe s entity cs chain, h => by
    simp only [Expr.nodes, List.all_append, Bool.and_eq_true] at h
    rw [expr]
    exact (still_expr entity h.1.1).bind fun v => still_decorators v chain h.1.2
  | .array s elements, h => by
    simp only [Expr.nodes, List.all_append, Bool.and_eq_true] at h
    rw [expr]
    exact (still_exprs elements h.1).bind fun vs => (lenient_still K m₀).newList vs
  | .object s properties, h => by
    simp only [Expr.nodes, List.all_append, Bool.and_eq_true] at h
    rw [expr]
    exact (still_object properties h.1 []).bind fun fs => (lenient_still K m₀).newObject fs
  | .seq s items, h => by
    simp only [Expr.nodes, List.all_append, Bool.and_eq_true] at h
    rw [expr]
    exact still_sequence .undefined items h.1
  | .unary s op argument, h => by
    simp only [Expr.nodes, List.all_append, Bool.and_eq_true] at h
    rw [expr]
    exact (still_expr argument h.1).bind fun v => still_pure _
  | .binary s op left right, h => by
    simp only [Expr.nodes, List.all_append, Bool.and_eq_true] at h
    rw [expr]
    refine (still_expr left h.1.1).bind fun l => ?_
    refine (still_expr right h.1.2).bind fun r => ?_
    exact (lenient_still K m₀).binary hm.toTame op l r
  | .logical s op left right, h => by
    simp only [Expr.nodes, List.all_append, Bool.and_eq_true] at h
    rw [expr]
    refine (still_expr left h.1.1).bind fun l => ?_
    split
    · exact still_pure _
    · exact still_expr right h.1.2
  | .cond s test consequent alternate, h => by
    simp only [Expr.nodes, List.all_append, Bool.and_eq_true] at h
    rw [expr]
    refine (still_expr test h.1.1.1).bind fun v => ?_
    split
    · exact still_expr consequent h.1.1.2
    · exact still_expr alternate h.1.2
  | .paren s inner, h => by
    simp only [Expr.nodes, List.all_append, Bool.and_eq_true] at h
    rw [expr]
    exact still_expr inner h.1
  | .assign s op target value, h => by
    simp only [Expr.nodes, List.all_append, Bool.and_eq_true, List.all_cons, List.all_nil,
      Bool.and_true] at h
    obtain ⟨hread, hwrite⟩ := still_target hm hnames h.2 (.inl ⟨_, _, _, rfl⟩)
    rw [expr]
    refine (still_expr value h.1.2).bind fun given => ?_
    refine Still.bind ?_ fun v =>
      (hwrite v).bind fun _ => still_pure _
    cases op with
    | set => exact still_pure _
    | add => exact hread.bind fun v => (lenient_still K m₀).binary hm.toTame _ _ _
    | sub => exact hread.bind fun v => (lenient_still K m₀).binary hm.toTame _ _ _
  | .update s op before target, h => by
    simp only [Expr.nodes, List.all_append, Bool.and_eq_true, List.all_cons, List.all_nil,
      Bool.and_true] at h
    obtain ⟨hread, hwrite⟩ := still_target hm hnames h.2 (.inr ⟨_, _, _, rfl⟩)
    rw [expr]
    refine hread.bind fun v => ?_
    exact (hwrite _).bind fun _ => still_pure _

theorem still_exprs : ∀ (es : List Expr), (Expr.nodesList es).all (Node.keepsTo names) →
    Still K m₀ (exprs m env es)
  | [], _ => by
    rw [exprs]
    exact still_pure _
  | e :: es, h => by
    simp only [Expr.nodesList, List.all_append, Bool.and_eq_true] at h
    rw [exprs]
    refine (still_expr e h.1).bind fun v => ?_
    exact (still_exprs es h.2).bind fun vs => still_pure _

theorem still_sequence : ∀ (last : Value) (es : List Expr),
    (Expr.nodesList es).all (Node.keepsTo names) →
    Still K m₀ (sequence m env last es)
  | last, [], _ => by
    rw [sequence]
    exact still_pure _
  | last, e :: es, h => by
    simp only [Expr.nodesList, List.all_append, Bool.and_eq_true] at h
    rw [sequence]
    exact (still_expr e h.1).bind fun v => still_sequence v es h.2

theorem still_object : ∀ (ps : List Property), (Property.nodesList ps).all (Node.keepsTo names) →
    ∀ fs, Still K m₀ (object m env ps fs)
  | [], _, fs => by
    rw [object]
    exact still_pure _
  | .mk key value :: ps, h, fs => by
    simp only [Property.nodesList, Property.nodes, List.all_append, Bool.and_eq_true] at h
    rw [object]
    exact (still_expr value h.1).bind fun v => still_object ps h.2 _

theorem still_decorators : ∀ (v : Value) (ds : List Decorator), (Decorator.nodesList ds).all
    (Node.keepsTo names) →
    Still K m₀ (decorators m env v ds)
  | v, [], _ => by
    rw [decorators]
    exact still_pure _
  | v, .mk s x args parens :: ds, h => by
    simp only [Decorator.nodesList, Decorator.nodes, List.all_append, Bool.and_eq_true] at h
    rw [decorators]
    split
    · exact still_decorators v ds h.2
    · refine (still_exprs args h.1.1).bind fun vs => ?_
      exact (still_decorate hm _ _ _).bind fun v' => still_decorators v' ds h.2
end

omit hm hnames in
/-- The nodes of the expressions of a program are among its nodes. -/
lemma all_exprs {p : Program} (h : p.keepsTo names) :
    (Expr.nodesList p.exprs).all (Node.keepsTo names) := by
  rw [Program.keepsTo, Program.nodes, List.all_append, Bool.and_eq_true] at h
  have hbody := h.1
  rw [Program.exprs]
  generalize p.body = body at hbody ⊢
  induction body with
  | nil => rfl
  | cons s body ih =>
    rw [List.flatMap_cons, List.all_append, Bool.and_eq_true] at hbody
    cases s with
    | empty _ => exact ih hbody.2
    | expr _ e =>
      rw [List.filterMap_cons, Stmt.expr?]
      dsimp only
      rw [Expr.nodesList, List.all_append, Bool.and_eq_true]
      rw [Stmt.nodes, List.all_append, Bool.and_eq_true] at hbody
      exact ⟨hbody.1.1, ih hbody.2⟩

/-- A program that calls nothing and assigns only names that are bound lets memory grow. -/
theorem still_program {p : Program} (h : p.keepsTo names) : Still K m₀ (program m env p) := by
  intro mem hmem hsound
  obtain ⟨hgrows, hsound', -⟩ :=
    still_sequence hm hnames .undefined p.exprs (all_exprs h) mem hmem hsound
  rw [program, on_bind (on_get mem)]
  obtain ⟨r, after, hrun⟩ : ∃ r after, (sequence m env .undefined p.exprs).on mem = (r, after) :=
    ⟨_, _, rfl⟩
  rw [hrun] at hgrows hsound'
  cases r with
  | error f =>
    rw [on_bind_error hrun]
    exact ⟨hgrows, hsound', fun _ _ => trivial⟩
  | ok v =>
    rw [on_bind hrun]
    split
    -- what a closed program made on the way is given back
    · refine ⟨⟨id, hgrows.scopes⟩, hsound'.of_eq rfl rfl, fun _ _ => trivial⟩
    · exact ⟨hgrows, hsound', fun _ _ => trivial⟩

end

end Eval

end Trellis
