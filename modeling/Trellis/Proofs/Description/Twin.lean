/-
Building a template with and without folding.

Folding leaves constants out of the table, so the two descriptions of a template give different
slots to its expressions.  `Construction.Twin` says what two constructions have in common on the
way: the slots of a text have twins as entries, and a text that only one of them has is a constant.
`Build.Sim` compares two pieces of building that start from twins.  There is one lemma for each way
of putting building together and one for each function that building is made of.

Two descriptions of one template agree if they are put together alike, but where one refers to a
slot of its table, the other refers to a slot of its own, and a constant of the first may be an
expression of the second.  Which slots and which constants belong together is given: `ref` relates
slots, `fold` relates constants with slots.
-/
import Mathlib.Data.List.Forall2
import Trellis.Proofs.Annotated
import Trellis.Proofs.Description.Entry

namespace Trellis.Description

/-! ### Descriptions that agree -/

section

variable {ref : Nat → Nat → Prop} {fold : Datum → Nat → Prop}

section

variable (ref : Nat → Nat → Prop) (fold : Datum → Nat → Prop)

/-- Parts that agree.  A constant may be an expression on the other side. -/
inductive PartAgrees : Part → Part → Prop
  | text (s : String) : PartAgrees (.text s) (.text s)
  | expr {i j : Nat} (trusted : Bool) (h : ref i j) : PartAgrees (.expr i trusted) (.expr j trusted)
  | folded {d : Datum} {j : Nat} (trusted : Bool) (h : fold d j) :
    PartAgrees (.value d) (.expr j trusted)
  | translation (text context : String) :
    PartAgrees (.translation text context) (.translation text context)

/-- Values of attributes that agree. -/
inductive AttrValueAgrees : AttrValue → AttrValue → Prop
  | markup {ps qs : List Part} (h : List.Forall₂ (PartAgrees ref fold) ps qs) :
    AttrValueAgrees (.markup ps) (.markup qs)
  | option {ps qs : List Part} (h : List.Forall₂ (PartAgrees ref fold) ps qs) :
    AttrValueAgrees (.option ps) (.option qs)
  | bind {i j : Nat} (binding : Option Binding) (h : ref i j) :
    AttrValueAgrees (.bind i binding) (.bind j binding)
  | event {i j : Nat} (h : ref i j) : AttrValueAgrees (.event i) (.event j)

/-- Attributes that agree. -/
structure AttrAgrees (a b : Attr) : Prop where
  name : a.name = b.name
  value : AttrValueAgrees ref fold a.value b.value

mutual
/-- Typed options that agree. -/
inductive OptionValueAgrees : OptionValue → OptionValue → Prop
  | scalar {ps qs : List Part} (type : String) (h : List.Forall₂ (PartAgrees ref fold) ps qs) :
    OptionValueAgrees (.scalar type ps) (.scalar type qs)
  | array {os ps : List OptionSpec} (h : OptionsAgree os ps) : OptionValueAgrees (.array os)
      (.array ps)
  | object {os ps : List OptionSpec} (h : OptionsAgree os ps) :
    OptionValueAgrees (.object os) (.object ps)

inductive OptionsAgree : List OptionSpec → List OptionSpec → Prop
  | nil : OptionsAgree [] []
  | cons {v w : OptionValue} {os ps : List OptionSpec} (name : String) (h : OptionValueAgrees v w)
    (hs : OptionsAgree os ps) : OptionsAgree (.mk name v :: os) (.mk name w :: ps)
end

/-- Calls that agree. -/
structure CallAgrees (c d : Call) : Prop where
  attrs : List.Forall₂ (AttrAgrees ref fold) c.attrs d.attrs
  options : OptionsAgree ref fold c.options d.options
  contents : c.contents = d.contents

/-- Targets of partials that agree. -/
inductive TargetAgrees : Target → Target → Prop
  | inline (name : String) : TargetAgrees (.inline name) (.inline name)
  | static (name : String) : TargetAgrees (.static name) (.static name)
  | dynamic {i j : Nat} (name : String) (h : ref i j) : TargetAgrees (.dynamic i name)
      (.dynamic j name)

/-- Slots that may be left out and agree. -/
inductive ClauseAgrees : Option Nat → Option Nat → Prop
  | none : ClauseAgrees none none
  | some {i j : Nat} (h : ref i j) : ClauseAgrees (some i) (some j)

mutual
/-- Instructions that agree.  What they watch may differ. -/
inductive InstructionAgrees : Instruction → Instruction → Prop
  | text {ps qs : List Part} (key : String) (h : List.Forall₂ (PartAgrees ref fold) ps qs) :
    InstructionAgrees (.text key ps) (.text key qs)
  | element {as bs : List Attr} {is js : List Instruction} (key name : String) (void : Bool)
    (h : List.Forall₂ (AttrAgrees ref fold) as bs) (hs : InstructionsAgree is js) :
    InstructionAgrees (.element key name as is void) (.element key name bs js void)
  | component {c d : Call} (key name : String) (h : CallAgrees ref fold c d) :
    InstructionAgrees (.component key name c) (.component key name d)
  | partialCall {s t : Target} {c d : Call} (key : String) (ht : TargetAgrees ref s t)
    (h : CallAgrees ref fold c d) : InstructionAgrees (.partialCall key s c) (.partialCall key t d)
  | branches {as bs : List Arm} (key : String) (h : ArmsAgree as bs) :
    InstructionAgrees (.branches key as) (.branches key bs)
  | loop {init init' test test' update update' : Option Nat} {is js : List Instruction}
      (key : String)
    (names : List String) (watch watch' : Option Nat) (hinit : ClauseAgrees ref init init')
    (htest : ClauseAgrees ref test test') (hupdate : ClauseAgrees ref update update')
    (hs : InstructionsAgree is js) :
    InstructionAgrees (.loop key names init test update is watch)
      (.loop key names init' test' update' js watch')
  | each {i j : Nat} {is js : List Instruction} (key index iterator : String)
    (watch watch' : Option Nat) (h : ref i j) (hs : InstructionsAgree is js) :
    InstructionAgrees (.each key i index iterator is watch) (.each key j index iterator js watch')

inductive InstructionsAgree : List Instruction → List Instruction → Prop
  | nil : InstructionsAgree [] []
  | cons {i j : Instruction} {is js : List Instruction} (h : InstructionAgrees i j)
    (hs : InstructionsAgree is js) : InstructionsAgree (i :: is) (j :: js)

/-- Arms of conditions that agree. -/
inductive ArmsAgree : List Arm → List Arm → Prop
  | nil : ArmsAgree [] []
  | cons {test test' : Option Nat} {is js : List Instruction} {as bs : List Arm}
    (watch watch' : Option Nat) (ht : ClauseAgrees ref test test') (hs : InstructionsAgree is js)
    (has : ArmsAgree as bs) : ArmsAgree (.mk test is watch :: as) (.mk test' js watch' :: bs)
end

/-- Bodies that agree. -/
structure BodyAgrees (b c : Body) : Prop where
  kind : b.kind = c.kind
  name : b.name = c.name
  children : InstructionsAgree ref fold b.children c.children

end

lemma InstructionsAgree.append {is js ks ls : List Instruction}
    (h : InstructionsAgree ref fold is js)
    (h' : InstructionsAgree ref fold ks ls) : InstructionsAgree ref fold (is ++ ks) (js ++ ls) := by
  induction is generalizing js with
  | nil =>
    cases h
    exact h'
  | cons i is ih =>
    cases h with
    | cons hi hs => exact .cons hi (ih hs)

lemma InstructionsAgree.singleton {i j : Instruction} (h : InstructionAgrees ref fold i j) :
    InstructionsAgree ref fold [i] [j] := .cons h .nil

/-! ### Roots -/

/-- The first body is the root, and no other one is. -/
def Rooted (bs : Array Body) : Prop :=
  ∃ root rest, bs.toList = root :: rest ∧ root.kind = .root ∧ ∀ b ∈ rest, b.kind ≠ .root

lemma rooted_push {bs : Array Body} {b : Body} (h : Rooted bs) (hb : b.kind ≠ .root) :
    Rooted (bs.push b) := by
  obtain ⟨root, rest, hlist, hroot, hrest⟩ := h
  refine ⟨root, rest ++ [b], ?_, hroot, fun b' hb' => ?_⟩
  · rw [Array.toList_push, hlist, List.cons_append]
  · obtain hb' | hb' := List.mem_append.1 hb'
    · exact hrest b' hb'
    · rwa [List.mem_singleton.1 hb']

lemma rooted_set {bs : Array Body} {b : Body} (h : Rooted bs) (hb : b.kind = .root) :
    Rooted (bs.setIfInBounds 0 b) := by
  obtain ⟨root, rest, hlist, -, hrest⟩ := h
  refine ⟨b, rest, ?_, hb, hrest⟩
  rw [Array.toList_setIfInBounds, hlist, List.set_cons_zero]

/-- There is one root, and it is the first body. -/
lemma rootCount_eq_one {d : Description} (h : Rooted d.bodies) : d.rootCount = 1 := by
  obtain ⟨root, rest, hlist, hroot, hrest⟩ := h
  have hnone : rest.countP (fun b => b.kind == .root) = 0 := by
    rw [List.countP_eq_zero]
    intro b hb
    simpa using hrest b hb
  rw [rootCount, hlist, List.countP_cons_of_pos (by simp [hroot]), hnone]

lemma root?_eq_zero {d : Description} (h : Rooted d.bodies) : d.root? = some 0 := by
  obtain ⟨root, rest, hlist, hroot, hrest⟩ := h
  have hsize : d.bodies.size = rest.length + 1 := by
    rw [← Array.length_toList, hlist, List.length_cons]
  have hget : ∀ i : Nat, d.bodies[i]? = (root :: rest)[i]? := fun i => by
    rw [← Array.getElem?_toList, hlist]
  rw [root?, lastBody?, hsize, List.range_succ_eq_map, List.reverse_cons, List.find?_append,
    List.find?_eq_none.2 ?_, Option.none_or, List.find?_singleton, hget]
  · simp [hroot]
  · intro i hi
    obtain ⟨j, -, rfl⟩ := List.mem_map.1 (List.mem_reverse.1 hi)
    rw [hget, List.getElem?_cons_succ]
    cases hb : rest[j]? with
    | none => simp
    | some b => simpa using hrest b (List.mem_of_getElem? hb)

end

/-! ### Constructions -/

open Container

variable {a : Arena} {c : Code.Options} {L L' : List String}

/-- The slots of one text in the two tables. -/
def SameText (L L' : List String) (i j : Nat) : Prop := ∃ x, L[i]? = some x ∧ L'[j]? = some x

/-- The slot of the program that is folded to a constant. -/
def FoldedAt (a : Arena) (c : Code.Options) (L' : List String) (d : Datum) (j : Nat) : Prop :=
  ∃ x s, L'[j]? = some x ∧ a.table.find? x = some s ∧ Foldable c s.program d

/-- Bodies that agree, in descriptions whose tables have the texts `L` and `L'`. -/
def BodiesAgree (a : Arena) (c : Code.Options) (L L' : List String) (bs cs : Array Body) : Prop :=
  ∀ (i : Nat) (b b' : Body), bs[i]? = some b → cs[i]? = some b' →
    BodyAgrees (SameText L L') (FoldedAt a c L') b b'

namespace Construction

variable {d d' e e' : Construction} {p : Program} {x : String}

/-- Two constructions of one template, of which the first folds constants. -/
structure Twin (a : Arena) (c : Code.Options) (d d' : Construction) : Prop where
  left : d.Sane a
  right : d'.Sane a
  subset : d.texts ⊆ d'.texts
  filled : ∀ x ∈ d'.texts, x ∈ d.texts ∨ (d'.filling? x).isSome
  entry : ∀ {x s}, a.table.find? x = some s → EntryTwin c s.program (d.filling? x) (d'.filling? x)
  watchers : d.watchers.map (·.1) = d'.watchers.map (·.1)
  size : d.bodies.size = d'.bodies.size
  root : Rooted d.bodies
  root' : Rooted d'.bodies

lemma Sane.owned (hd : d.Sane a) (hp : a.table.Knows p) : Owned p (d.filling? p.text) := by
  intro e he
  obtain ⟨hfind, hsource⟩ := hd.entry he
  rw [hp.find?] at hfind
  cases hfind
  exact ⟨rfl, hsource⟩

lemma sane_put (hd : d.Sane a) (hp : a.table.Knows p) {r : Option Expression}
    (hr : Owned p (r.or (d.filling? p.text))) (symbols : Symbols) : (d.put p symbols r).Sane a := by
  refine hd.put hp fun e he => hr e ?_
  rw [he, Option.some_or]
  rfl

/-- The entries stay twins where they are not those of the program that is put in. -/
lemma entry_put {old old' new new' : String → Option Expression}
    (h : ∀ {x s}, a.table.find? x = some s → EntryTwin c s.program (old x) (old' x))
    (hp : a.table.Knows p) (hnew : ∀ x ≠ p.text, new x = old x)
    (hnew' : ∀ x ≠ p.text, new' x = old' x)
    (hentry : EntryTwin c p (new p.text) (new' p.text)) {x : String} {s : Stored}
    (hs : a.table.find? x = some s) : EntryTwin c s.program (new x) (new' x) := by
  by_cases hx : x = p.text
  · subst hx
    rw [hp.find?] at hs
    cases hs
    exact hentry
  · rw [hnew x hx, hnew' x hx]
    exact h hs

/-- A program is put into both tables. -/
lemma Twin.put (h : Twin a c d d') (hp : a.table.Knows p) {r r' : Option Expression}
    (hr : Owned p (r.or (d.filling? p.text))) (hr' : Owned p (r'.or (d'.filling? p.text)))
    (hentry : EntryTwin c p (r.or (d.filling? p.text)) (r'.or (d'.filling? p.text)))
    (symbols symbols' : Symbols) : Twin a c (d.put p symbols r) (d'.put p symbols' r') where
  left := sane_put h.left hp hr symbols
  right := sane_put h.right hp hr' symbols'
  subset x hx := mem_texts_put.2 ((mem_texts_put.1 hx).imp_left fun hx => h.subset hx)
  filled x hx := by
    rw [mem_texts_put]
    obtain hx | rfl := mem_texts_put.1 hx
    · obtain hx | hsome := h.filled x hx
      · exact .inl (.inl hx)
      · rw [filling?_put h.right hp]
        right
        split
        · rw [Option.isSome_or, hsome, Bool.or_true]
        · exact hsome
    · exact .inl (.inr rfl)
  entry hs := by
    refine entry_put (fun hs => h.entry hs) hp (fun x hx => ?_) (fun x hx => ?_) ?_ hs
    · rw [filling?_put h.left hp, if_neg (Ne.symm hx)]
    · rw [filling?_put h.right hp, if_neg (Ne.symm hx)]
    · rw [filling?_put h.left hp, filling?_put h.right hp, if_pos rfl, if_pos rfl]
      exact hentry
  watchers := by
    rw [watchers_put, watchers_put]
    exact h.watchers
  size := by
    rw [bodies_put, bodies_put]
    exact h.size
  root := by
    rw [bodies_put]
    exact h.root
  root' := by
    rw [bodies_put]
    exact h.root'

/-- A constant is put into the second table only. -/
lemma Twin.put_right (h : Twin a c d d') (hp : a.table.Knows p) {r' : Option Expression}
    (hr' : Owned p (r'.or (d'.filling? p.text))) (hsome : (r'.or (d'.filling? p.text)).isSome)
    (hentry : EntryTwin c p (d.filling? p.text) (r'.or (d'.filling? p.text)))
    (symbols symbols' : Symbols) : Twin a c { d with symbols } (d'.put p symbols' r') where
  left := h.left.congr rfl rfl
  right := sane_put h.right hp hr' symbols'
  subset x hx := mem_texts_put.2 (.inl (h.subset hx))
  filled x hx := by
    rw [filling?_put h.right hp]
    split
    · next heq => exact .inr (heq ▸ hsome)
    · next hne =>
      obtain hx | rfl := mem_texts_put.1 hx
      · exact h.filled x hx
      · exact absurd rfl hne
  entry hs := by
    refine entry_put (fun hs => h.entry hs) hp (fun x hx => rfl) (fun x hx => ?_) ?_ hs
    · rw [filling?_put h.right hp, if_neg (Ne.symm hx)]
    · rw [filling?_put h.right hp, if_pos rfl]
      exact hentry
  watchers := by
    rw [watchers_put]
    exact h.watchers
  size := by
    rw [bodies_put]
    exact h.size
  root := h.root
  root' := by
    rw [bodies_put]
    exact h.root'

/-- What is not about the table may change on both sides. -/
lemma Twin.congr (h : Twin a c d d') (harena : e.arena = d.arena) (harena' : e'.arena = d'.arena)
    (hexpressions : e.expressions = d.expressions) (hexpressions' : e'.expressions = d'.expressions)
    (hwatchers : e.watchers.map (·.1) = e'.watchers.map (·.1))
    (hsize : e.bodies.size = e'.bodies.size)
    (hroot : Rooted e.bodies) (hroot' : Rooted e'.bodies) : Twin a c e e' := by
  have htexts : e.texts = d.texts := by rw [texts, harena, texts]
  have htexts' : e'.texts = d'.texts := by rw [texts, harena', texts]
  have hentry : ∀ x, e.filling? x = d.filling? x := fun x => by
    rw [filling?, filling?, htexts, hexpressions]
  have hentry' : ∀ x, e'.filling? x = d'.filling? x := fun x => by
    rw [filling?, filling?, htexts', hexpressions']
  refine ⟨h.left.congr harena hexpressions, h.right.congr harena' hexpressions', ?_, ?_, ?_,
    hwatchers, hsize,
    hroot, hroot'⟩
  · rw [htexts, htexts']
    exact h.subset
  · rw [htexts, htexts']
    simpa only [hentry'] using h.filled
  · intro x s hs
    rw [hentry, hentry']
    exact h.entry hs

/-- A stored program gets slots in both tables. -/
lemma Twin.allocated (h : Twin a c d d') {s : Stored} (hs : (a.table.find? s.text).isSome) :
    Twin a c (d.allocated s) (d'.allocated s) where
  left := h.left.allocated hs
  right := h.right.allocated hs
  subset x hx := mem_texts_allocated.2 ((mem_texts_allocated.1 hx).imp_left fun hx => h.subset hx)
  filled x hx := by
    rw [mem_texts_allocated, filling?_allocated h.right]
    obtain hx | rfl := mem_texts_allocated.1 hx
    · exact (h.filled x hx).imp_left .inl
    · exact .inl (.inr rfl)
  entry hs := by
    rw [filling?_allocated h.left, filling?_allocated h.right]
    exact h.entry hs
  watchers := h.watchers
  size := h.size
  root := h.root
  root' := h.root'

end Construction

namespace Build

open Construction

variable {α β γ δ : Type} {p : Program} {K : Prop} {Q : α → β → Prop} {R : γ → δ → Prop}

/-- From twins, two pieces of building end alike, with twins again.  Slots are only added.  If there
are no others than `L` and `L'` in the end, and `K` is known, bodies go on to agree and `Q` relates
the results. -/
def Sim (a : Arena) (c : Code.Options) (L L' : List String) (K : Prop) (b : Build α) (b' : Build β)
    (Q : α → β → Prop) : Prop :=
  ∀ d d' : Construction, Twin a c d d' →
    Code.Ends (fun r r' => Twin a c r.2 r'.2 ∧ d.texts <+: r.2.texts ∧ d'.texts <+: r'.2.texts ∧
      (K → r.2.texts <+: L → r'.2.texts <+: L' → BodiesAgree a c L L' d.bodies d'.bodies →
        BodiesAgree a c L L' r.2.bodies r'.2.bodies ∧ Q r.1 r'.1)) (b.run d) (b'.run d')

lemma sim_pure {x : α} {y : β} (h : K → Q x y) : Sim a c L L' K (pure x) (pure y) Q :=
  fun _ _ hd => ⟨hd, List.prefix_rfl, List.prefix_rfl, fun hk _ _ hbodies => ⟨hbodies, h hk⟩⟩

/-- What is known of the first results is known when the second ones are made. -/
lemma sim_bind {b : Build α} {b' : Build β} {g : α → Build γ} {g' : β → Build δ}
    (hb : Sim a c L L' K b b' Q) (hg : ∀ x y, Sim a c L L' (K ∧ Q x y) (g x) (g' y) R) :
    Sim a c L L' K (b >>= g) (b' >>= g') R := by
  intro d d' hd
  rw [StateT.run_bind, StateT.run_bind]
  refine (hb d d' hd).bind ?_
  rintro ⟨x, e⟩ ⟨y, e'⟩ ⟨he, hmore, hmore', hxy⟩
  refine (hg x y e e' he).mono ?_
  rintro ⟨z, u⟩ ⟨w, u'⟩ ⟨hu, hagain, hagain', hzw⟩
  refine ⟨hu, hmore.trans hagain, hmore'.trans hagain', fun hk hl hl' hbodies => ?_⟩
  obtain ⟨hbodies', hq⟩ := hxy hk (hagain.trans hl) (hagain'.trans hl') hbodies
  exact hzw ⟨hk, hq⟩ hl hl' hbodies'

lemma Sim.weaken {K' : Prop} {b : Build α} {b' : Build β} (h : Sim a c L L' K b b' Q)
    (hK : K' → K) :
    Sim a c L L' K' b b' Q := by
  intro d d' hd
  refine (h d d' hd).mono ?_
  rintro ⟨x, e⟩ ⟨y, e'⟩ ⟨he, hmore, hmore', hxy⟩
  exact ⟨he, hmore, hmore', fun hk => hxy (hK hk)⟩

lemma sim_mapM {xs : List γ} {f : γ → Build α} {f' : γ → Build β}
    (h : ∀ x ∈ xs, Sim a c L L' K (f x) (f' x) Q) :
    Sim a c L L' K (xs.mapM f) (xs.mapM f') (List.Forall₂ Q) := by
  induction xs with
  | nil => exact sim_pure fun _ => .nil
  | cons x xs ih =>
    rw [List.mapM_cons, List.mapM_cons]
    refine sim_bind (h x List.mem_cons_self) fun y z => ?_
    have hrest : Sim a c L L' (K ∧ Q y z) (xs.mapM f) (xs.mapM f') (List.Forall₂ Q) :=
      (ih fun w hw => h w (List.mem_cons_of_mem _ hw)).weaken And.left
    exact sim_bind hrest fun ys zs => sim_pure fun ⟨⟨_, hyz⟩, hs⟩ => .cons hyz hs

lemma run_located (line column : Nat) (b : Build α) (d : Construction) :
    (located line column b).run d = match b.run d with
      | .ok r => .ok r
      | .error f => .error (Annotated.Pass.located line column f) := by
  change (tryCatch (b.run d) fun f => throw (Annotated.Pass.located line column f) :
    Except Fault (α × Construction)) = _
  cases b.run d <;> rfl

lemma sim_located {b : Build α} {b' : Build β} (line column : Nat) (h : Sim a c L L' K b b' Q) :
    Sim a c L L' K (located line column b) (located line column b') Q := by
  intro d d' hd
  have hends := h d d' hd
  rw [run_located, run_located]
  cases hr : b.run d with
  | error f =>
    rw [hr] at hends
    cases hr' : b'.run d' with
    | error g => exact True.intro
    | ok r =>
      rw [hr'] at hends
      exact hends.elim
  | ok r =>
    rw [hr] at hends
    obtain ⟨r', hr', h⟩ := hends.ok
    rw [hr']
    exact h

/-! ### Compiling -/

variable {o₁ o₂ : Options}

lemma sim_compiled {ρ : Type} {T : ρ → ρ → Prop} {w w' : Code.Options → Code.Compile ρ}
    {g : ρ → Build α}
    {g' : ρ → Build β} (h₁ : code o₁ = c) (h₂ : code o₂ = c) (hw : Code.Alike T (w c) (w' c))
    (hg : ∀ x y, T x y → Sim a c L L' K (g x) (g' y) Q) :
    Sim a c L L' K (compiled o₁ w >>= g) (compiled o₂ w' >>= g') Q := by
  intro d d' hd
  rw [StateT.run_bind, StateT.run_bind, run_compiled, run_compiled, h₁, h₂]
  refine Code.Ends.bind (R := fun r r' : ρ × Construction => T r.1 r'.1 ∧ Twin a c r.2 r'.2 ∧
    r.2.texts = d.texts ∧ r'.2.texts = d'.texts ∧ r.2.bodies = d.bodies ∧ r'.2.bodies = d'.bodies)
    ((hw d.symbols d'.symbols).map ?_) ?_
  · exact fun x y hxy => ⟨hxy, hd.congr rfl rfl rfl rfl hd.watchers hd.size hd.root hd.root', rfl,
      rfl, rfl, rfl⟩
  · rintro ⟨x, e⟩ ⟨y, e'⟩ ⟨hxy, he, htexts, htexts', hbodies, hbodies'⟩
    rw [← htexts, ← htexts', ← hbodies, ← hbodies']
    exact hg x y hxy e e' he

/-- A known program gets slots of the same text. -/
theorem sim_slot (h₁ : code o₁ = c) (h₂ : code o₂ = c) (use : Use) (hp : a.table.Knows p) :
    Sim a c L L' K (slot o₁ use p) (slot o₂ use p) (SameText L L') := by
  intro d d' hd
  have hold := hd.left.owned hp
  have hold' := hd.right.owned hp
  have hentry : EntryTwin c p (d.filling? p.text) (d'.filling? p.text) := hd.entry hp.find?
  have halike := ((entryFor_alike use hentry).and (owned_entryFor use hold)
    (owned_entryFor use hold'))
    d.symbols d'.symbols
  rw [run_slot hd.left hp, run_slot hd.right hp, h₁, h₂]
  refine halike.map fun r r' ⟨hentry, hr, hr'⟩ => ?_
  refine ⟨hd.put hp hr hr' hentry _ _, prefix_put .., prefix_put .., fun _ hl hl' hbodies =>
    ⟨?_, ?_⟩⟩
  · rwa [bodies_put, bodies_put]
  · exact ⟨p.text, getElem?_of_prefix hl (getElem?_texts_put ..),
      getElem?_of_prefix hl' (getElem?_texts_put ..)⟩

/-- The program of a constant gets a slot on one side only. -/
lemma sim_folded (h₂ : code o₂ = c) (field : String) (trusted : Bool) (hp : a.table.Knows p)
    {v : Datum} (hv : Foldable c p v) :
    Sim a c L L' K (pure (Part.value v))
    (do return .expr (← slot o₂ (.value field false) p) trusted)
      (PartAgrees (SameText L L') (FoldedAt a c L')) := by
  intro d d' hd
  have hentry : EntryTwin c p (d.filling? p.text) (d'.filling? p.text) := hd.entry hp.find?
  obtain ⟨r, hr, hsome, hentry'⟩ := hv.entryFor_value field hentry d'.symbols
  have howned := owned_entryFor (.value field false) (hd.right.owned hp) d'.symbols r hr
  rw [StateT.run_bind, run_slot hd.right hp, h₂, hr]
  refine ⟨hd.put_right hp howned hsome hentry' d.symbols _, List.prefix_rfl, prefix_put .., ?_⟩
  refine fun _ hl hl' hbodies => ⟨?_, ?_⟩
  · rwa [bodies_put]
  · exact .folded trusted ⟨p.text, ⟨p.text, p⟩, getElem?_of_prefix hl' (getElem?_texts_put ..),
      hp.find?, hv⟩

/-! ### What building is made of -/

section

variable (o : Options)

/-- The options where constants are computed once. -/
def folding : Options := { o with folds := true }

/-- The options where constants stay expressions. -/
def plain : Options := { o with folds := false }

variable {o}

/-- An expression in a text is a constant, or else has a slot. -/
theorem sim_exprPart (field : String) (hp : a.table.Knows p) :
    Sim a (code o) L L' K (exprPart (folding o) field p) (exprPart (plain o) field p)
      (PartAgrees (SameText L L') (FoldedAt a (code o) L')) := by
  have hvalue : Code.Yields (fun f => f.OfValue p false ∧
      ∃ s, ((Code.value (code o) field false p).run.run s).1 = .ok f)
      (Code.value (code o) field false p) :=
    fun s f hf => ⟨Code.yields_value _ p field false s f hf, s, hf⟩
  refine sim_compiled rfl rfl
    ((Code.value_alike rfl p field false).and hvalue (Code.yields_true _)) fun f g hfg => ?_
  obtain ⟨hlike, ⟨hof, s, hs⟩, -⟩ := hfg
  simp only [folding, plain, Bool.and_true, Bool.and_false, Bool.false_eq_true, if_false,
    ← hlike.flags]
  have hslot : Sim a (code o) L L' K
      (do return Part.expr (← slot (folding o) (.value field false) p) f.flags.rawText)
      (do return Part.expr (← slot (plain o) (.value field false) p) f.flags.rawText)
      (PartAgrees (SameText L L') (FoldedAt a (code o) L')) :=
    sim_bind (sim_slot rfl rfl _ hp) fun i j => sim_pure fun h => .expr _ h.2
  by_cases hconstant : f.constant
  · rw [if_pos hconstant]
    cases hv : folded? p with
    | none => exact hslot
    | some v => exact sim_folded rfl field _ hp (foldable_of_value hof hs hconstant hv)
  · rw [if_neg hconstant]
    exact hslot

end

end Build

end Trellis.Description
