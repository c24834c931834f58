/-
What building makes.

`Build.Makes` says of a piece of building what it makes, if the construction goes on to a given end:
what instructions refer to is then in its tables.  There is one lemma for each way of putting
building together, and one for each function that building is made of (`Build.makes_nodes`), however
the three places that give out slots take turns.
-/
import Trellis.Proofs.Description.Drafted
import Trellis.Proofs.Description.Growth

namespace Trellis.Description

open Container Markup

variable {a : Arena} {o : Options} {c : Code.Options} {f : Construction} {K : Nat → Prop}

/-- The tables of a construction, as far as body `n` may use them.  Content may be passed that was
built before. -/
def Construction.tables (f : Construction) (n : Nat) : Tables where
  slot i := i < f.texts.length
  bound i := ∃ x e, f.texts[i]? = some x ∧ f.filling? x = some e ∧ e.bind = true
  called i := ∃ x e, f.texts[i]? = some x ∧ f.filling? x = some e ∧ e.event = true
  watch k := k < f.watches.size
  content k := 0 < k ∧ k < n ∧ ∃ b, f.bodies[k]? = some b ∧ b.kind = .content

/-- How far the content that a body passes may reach: the root may pass any. -/
def Construction.reach (f : Construction) (k : Nat) : Nat := if k = 0 then f.bodies.size else k

/-- A body refers to what is in the tables. -/
structure BodyFits (f : Construction) (k : Nat) (b : Body) : Prop where
  child : ∀ i ∈ b.children, i.AllWithin (f.tables (f.reach k))
  watch : ∀ w ∈ b.watch, w < f.watches.size
  kind : BodyKind.ofName b.kind.name = b.kind

/-- All bodies refer to what is in the tables. -/
def BodiesFit (f : Construction) (bs : Array Body) : Prop :=
  ∀ (k : Nat) (b : Body), bs[k]? = some b → BodyFits f k b

namespace Build

open Construction

variable {α β : Type} {Q : Nat → α → Prop} {R : Nat → β → Prop}

/-- A piece of building keeps constructions sound and adds to them.  If they grow to `f` in the end,
and `K` is known of all later bodies, then the bodies go on to fit and `Q` holds of the result for
all later bodies. -/
def Makes (a : Arena) (c : Code.Options) (f : Construction) (K : Nat → Prop) (b : Build α)
    (Q : Nat → α → Prop) : Prop :=
  ∀ d x e, d.Sound a c → b.run d = .ok (x, e) → e.Sound a c ∧ d.Grows e ∧
    (e.Grows f → (∀ n, d.bodies.size ≤ n → K n) → BodiesFit f d.bodies →
      BodiesFit f e.bodies ∧ ∀ n, e.bodies.size ≤ n → Q n x)

lemma makes_pure {x : α} (h : ∀ n, K n → Q n x) : Makes a c f K (pure x) Q := by
  rintro d y e hd hrun
  cases hrun
  exact ⟨hd, .refl d, fun _ hk hfit => ⟨hfit, fun n hn => h n (hk n hn)⟩⟩

lemma makes_bind {b : Build α} {g : α → Build β} (hb : Makes a c f K b Q)
    (hg : ∀ x, Makes a c f (fun n => K n ∧ Q n x) (g x) R) : Makes a c f K (b >>= g) R := by
  rintro d y u hd hrun
  rw [run_bind] at hrun
  cases hr : b.run d with
  | error e =>
    rw [hr] at hrun
    cases hrun
  | ok r =>
    obtain ⟨x, e⟩ := r
    rw [hr] at hrun
    obtain ⟨he, hgrows, hfirst⟩ := hb d x e hd hr
    obtain ⟨hu, hgrows', hsecond⟩ := hg x e y u he hrun
    refine ⟨hu, hgrows.trans hgrows', fun hf hk hfit => ?_⟩
    obtain ⟨hfit', hx⟩ := hfirst (hgrows'.trans hf) hk hfit
    exact hsecond hf (fun n hn => ⟨hk n (Nat.le_trans hgrows.size hn), hx n hn⟩) hfit'

lemma Makes.weaken {K' : Nat → Prop} {b : Build α} (h : Makes a c f K b Q) (hK : ∀ n, K' n → K n) :
    Makes a c f K' b Q := by
  rintro d x e hd hrun
  obtain ⟨he, hgrows, hx⟩ := h d x e hd hrun
  exact ⟨he, hgrows, fun hf hk => hx hf fun n hn => hK n (hk n hn)⟩

lemma makes_mapM {xs : List β} {g : β → Build α} (h : ∀ x ∈ xs, Makes a c f K (g x) Q) :
    Makes a c f K (xs.mapM g) fun n ys => ∀ y ∈ ys, Q n y := by
  induction xs with
  | nil => exact makes_pure fun _ _ y hy => absurd hy List.not_mem_nil
  | cons x xs ih =>
    rw [List.mapM_cons]
    refine makes_bind (h x List.mem_cons_self) fun y => ?_
    have hrest := (ih fun z hz => h z (List.mem_cons_of_mem _ hz)).weaken
      fun n (hk : K n ∧ Q n y) => hk.1
    refine makes_bind hrest fun ys => makes_pure fun n ⟨⟨_, hy⟩, hys⟩ => ?_
    exact List.forall_mem_cons.2 ⟨hy, hys⟩

lemma makes_located {b : Build α} (line column : Nat) (h : Makes a c f K b Q) :
    Makes a c f K (located line column b) Q := by
  rintro d x e hd hrun
  rw [run_located] at hrun
  cases hr : b.run d with
  | error g =>
    rw [hr] at hrun
    cases hrun
  | ok r =>
    rw [hr] at hrun
    cases hrun
    exact h d x e hd hr

lemma makes_compiled {P : α → Prop} {w : Code.Options → Code.Compile α}
    (h : Code.Yields P (w (code o))) :
    Makes a (code o) f K (compiled o w) fun _ x => P x := by
  rintro d x e hd hrun
  rw [run_compiled] at hrun
  cases hr : ((w (code o)).run.run d.symbols).1 with
  | error g =>
    rw [hr] at hrun
    cases hrun
  | ok y =>
    rw [hr] at hrun
    cases hrun
    refine ⟨hd.congr rfl rfl hd.runs hd.watcher hd.root, .of_eq rfl rfl (Nat.le_refl _) fun hb =>
      ⟨_, hb, rfl⟩,
      fun _ _ hfit => ⟨hfit, fun _ _ => h d.symbols _ hr⟩⟩

/-- The entry of a slot can be used in a way. -/
structure SlotServes (f : Construction) (use : Use) (p : Program) (i : Nat) : Prop where
  slot : f.texts[i]? = some p.text
  entry : ∃ e, f.filling? p.text = some e ∧ e.program = p ∧ use.Served e

lemma SlotServes.lt {use : Use} {p : Program} {i : Nat} (h : SlotServes f use p i) :
    i < f.texts.length :=
  (List.getElem?_eq_some_iff.1 h.slot).1

theorem makes_slot (use : Use) {p : Program} (hp : a.table.Knows p) :
    Makes a (code o) f K (slot o use p) fun _ i => SlotServes f use p i := by
  rintro d i e hd hrun
  obtain ⟨he, hgrows, hbodies, hslot, en, hen, hprogram, hserved⟩ := run_slot_grows hd hp use hrun
  refine ⟨he, hgrows, fun hf _ hfit => ⟨hbodies ▸ hfit, fun _ _ => ?_⟩⟩
  obtain ⟨en', hen', hextends⟩ := hf.entry hen
  have hslot' := getElem?_of_prefix hf.texts hslot
  exact ⟨hslot', en', hen', hextends.program.trans hprogram, hextends.served hserved⟩

theorem makes_watch (ha : a.Held a.table) (container : Option Nat) :
    Makes a c f K (watch container) fun _ w => ∀ k ∈ w, k < f.watches.size := by
  rintro d w e hd hrun
  obtain ⟨he, hgrows, hbodies, hwatch⟩ := run_watch_grows ha hd hrun
  exact ⟨he, hgrows, fun hf _ hfit =>
    ⟨hbodies ▸ hfit, fun _ _ k hk => Nat.lt_of_lt_of_le (hwatch k hk) hf.watches⟩⟩

/-- A body that is added fits, and its position is behind those of what it passes. -/
theorem makes_addBody {b : Body} (hroot : b.kind ≠ .root)
    (hkind : BodyKind.ofName b.kind.name = b.kind)
    (h : ∀ n, K n → (∀ i ∈ b.children, i.AllWithin (f.tables n)) ∧
    ∀ w ∈ b.watch, w < f.watches.size) :
    Makes a c f K (addBody b) fun n k => 0 < k ∧ k < n ∧ ∃ b', f.bodies[k]? = some b' ∧
    b'.kind = b.kind := by
  rintro d k e hd hrun
  cases hrun
  have hpos : 0 < d.bodies.size := by
    obtain ⟨root, rest, hlist, -, -⟩ := hd.root
    rw [← Array.length_toList, hlist]
    exact Nat.zero_lt_succ _
  have hlast : (d.bodies.push b)[d.bodies.size]? = some b := Array.getElem?_push_size
  have hgrows : d.Grows { d with bodies := d.bodies.push b } := by
    refine .of_eq rfl rfl (Nat.le_refl _) fun {k b'} hb' => ⟨b', ?_, rfl⟩
    obtain ⟨hlt, -⟩ := Array.getElem?_eq_some_iff.1 hb'
    rw [Array.getElem?_push_lt hlt, ← Array.getElem?_eq_getElem hlt]
    exact hb'
  refine ⟨hd.congr rfl rfl hd.runs hd.watcher (rooted_push hd.root hroot), hgrows, fun hf hk hfit =>
    ⟨?_, ?_⟩⟩
  · intro k' b' hb'
    rw [Array.getElem?_push] at hb'
    split at hb'
    · next heq =>
      cases hb'
      obtain ⟨hchild, hwatch⟩ := h d.bodies.size (hk _ (Nat.le_refl _))
      have hreach : f.reach k' = d.bodies.size := by rw [reach, if_neg (by omega), heq]
      exact ⟨hreach ▸ hchild, hwatch, hkind⟩
    · exact hfit k' b' hb'
  · intro n hn
    have hn' : d.bodies.size + 1 ≤ n := by rwa [← Array.size_push b]
    exact ⟨hpos, hn', hf.body hlast⟩

/-! ### Texts and attributes -/

lemma makes_exprPart (field : String) {p : Program} (hp : a.table.Knows p) :
    Makes a (code o) f K (exprPart o field p) fun n part => part.Within (f.tables n) := by
  refine makes_bind (makes_compiled (Code.yields_true _)) fun fragment => ?_
  split
  · exact makes_pure fun _ _ => trivial
  · exact makes_bind (makes_slot _ hp) fun i => makes_pure fun _ hk => hk.2.lt

theorem makes_parts (field : String) {ss : List Segment} (h : TextAll a.table.Knows ss) :
    Makes a (code o) f K (parts o field ss) fun n ps => ∀ p ∈ ps, p.Within (f.tables n) := by
  refine makes_mapM fun s hs => ?_
  cases hcontent : s.content with
  | text value source => exact makes_pure fun _ _ => trivial
  | translation text context _ _ => exact makes_pure fun _ _ => trivial
  | expression source p => exact makes_exprPart field (h s hs source p hcontent)

/-- What is bound has an entry that is bound. -/
lemma SlotServes.bound {use : Use} {p : Program} {i n : Nat} (h : SlotServes f use p i)
    (hbind : ∀ e, e.program = p → use.Served e → e.bind = true) :
    (f.tables n).slot i ∧ (f.tables n).bound i := by
  obtain ⟨e, he, hprogram, hserved⟩ := h.entry
  exact ⟨h.lt, p.text, e, h.slot, he, hbind e hprogram hserved⟩

lemma SlotServes.called {p : Program} {i n : Nat} (h : SlotServes f .event p i) :
    (f.tables n).slot i ∧ (f.tables n).called i := by
  obtain ⟨e, he, -, hserved⟩ := h.entry
  exact ⟨h.lt, p.text, e, h.slot, he, hserved⟩

theorem makes_attrValue (atCall : Bool) {attr : Attribute} (h : attr.value.All a.table.Knows) :
    Makes a (code o) f K (attrValue o atCall attr) fun n v => v.Within (f.tables n) := by
  obtain ⟨name, kind, raw, value, line, column⟩ := attr
  cases value with
  | program p =>
    cases kind with
    | bind =>
      refine makes_bind (makes_slot _ h) fun i => makes_bind (makes_compiled (Code.yields_true _))
        fun _ => ?_
      exact makes_pure fun n hk => hk.1.2.bound fun _ _ hserved => hserved
    | event => exact makes_bind (makes_slot _ h) fun i => makes_pure fun n hk => hk.2.called
    | plain => exact makes_pure fun _ _ _ hp => absurd hp List.not_mem_nil
    | «attribute» => exact makes_pure fun _ _ _ hp => absurd hp List.not_mem_nil
  | segments ss =>
    have hmarkup : ∀ {K : Nat → Prop},
      Makes a (code o) f K (do return AttrValue.markup (← parts o name ss))
        fun n v => v.Within (f.tables n) :=
      makes_bind (makes_parts name h) fun _ => makes_pure fun _ hk => hk.2
    have hoption : ∀ {K : Nat → Prop},
      Makes a (code o) f K (do return AttrValue.option (← parts o name ss))
        fun n v => v.Within (f.tables n) :=
      makes_bind (makes_parts name h) fun _ => makes_pure fun _ hk => hk.2
    cases hplain : atCall && kind == .plain with
    | false =>
      simp only [attrValue, hplain]
      exact hmarkup
    | true =>
      simp only [attrValue, hplain, if_true]
      cases hsingle : Segment.single? ss with
      | none => exact hoption
      | some r =>
        obtain ⟨source, p⟩ := r
        have hp : a.table.Knows p := textAll_single? h hsingle
        refine makes_bind (makes_compiled (Code.yields_value (code o) p name false)) fun fragment =>
          ?_
        split
        · next hbinding =>
          refine makes_bind (makes_slot _ hp) fun i => makes_pure fun n hn => ?_
          obtain ⟨⟨-, hof⟩, hserves⟩ := hn
          -- the fragment has a binding because the program is a marked pipe
          refine hserves.bound fun e hprogram hserved => hserved ?_
          rw [hprogram, ← hof.binding]
          exact hbinding
        · exact hoption

theorem makes_attrs (atCall : Bool) {as : List Attribute} (h : AttrsAll a.table.Knows as) :
    Makes a (code o) f K (attrs o atCall as) fun n bs => ∀ b ∈ bs, b.value.Within (f.tables n) := by
  refine makes_mapM fun attr hattr => ?_
  refine makes_bind (makes_located attr.line attr.column (makes_attrValue atCall (h attr hattr)))
    fun v => ?_
  exact makes_pure fun _ hk => hk.2

mutual
theorem makes_optionValue (field : String) : ∀ {K : Nat → Prop} {v : TypedValue},
    v.All a.table.Knows →
    Makes a (code o) f K (optionValue o field v) fun n w => w.Within (f.tables n)
  | _, .scalar type ss, h => by
    rw [optionValue]
    refine makes_bind (makes_parts field h) fun _ => makes_pure fun _ hk => ⟨?_, ?_, hk.2⟩
    · cases type <;> decide
    · cases type <;> decide
  | _, .array items, h => by
    rw [optionValue]
    exact makes_bind (makes_optionItems h) fun _ => makes_pure fun _ hk => hk.2
  | _, .object properties, h => by
    rw [optionValue]
    exact makes_bind (makes_options h) fun _ => makes_pure fun _ hk => hk.2

theorem makes_optionItems : ∀ {K : Nat → Prop} {vs : List TypedValue},
    TypedValue.AllOf a.table.Knows vs →
    Makes a (code o) f K (optionItems o vs) fun n os => OptionsWithin (f.tables n) os
  | _, [], _ => by
    rw [optionItems]
    exact makes_pure fun _ _ => trivial
  | _, v :: vs, ⟨hv, hvs⟩ => by
    rw [optionItems]
    refine makes_bind (makes_optionValue "" hv) fun _ => makes_bind (makes_optionItems hvs) fun _ =>
      ?_
    exact makes_pure fun _ hk => ⟨hk.1.2, hk.2⟩

theorem makes_options : ∀ {K : Nat → Prop} {os : List TypedOption},
    TypedOption.AllOf a.table.Knows os →
    Makes a (code o) f K (options o os) fun n ps => OptionsWithin (f.tables n) ps
  | _, [], _ => by
    rw [options]
    exact makes_pure fun _ _ => trivial
  | _, .mk _ name v :: os, ⟨hv, hos⟩ => by
    rw [options]
    refine makes_bind (makes_optionValue name hv) fun _ => makes_bind (makes_options hos) fun _ =>
      ?_
    exact makes_pure fun _ hk => ⟨hk.1.2, hk.2⟩
end

/-! ### Calls and nodes -/

theorem makes_forcedSlot {p : Program} (hp : a.table.Knows p) :
    Makes a (code o) f K (forcedSlot o p) fun n i => (f.tables n).slot i := by
  have hslot : Makes a (code o) f K (forcedSlot o p) fun _ i => SlotServes f (.value "" true) p i :=
    makes_slot _ hp
  rintro d i e hd hrun
  obtain ⟨he, hgrows, hx⟩ := hslot d i e hd hrun
  exact ⟨he, hgrows, fun hf hk hfit => ⟨(hx hf hk hfit).1, fun n hn => ((hx hf hk hfit).2 n hn).lt⟩⟩

theorem makes_optSlot {clause : Option Program} (h : ClauseAll a.table.Knows clause) :
    Makes a (code o) f K (optSlot o clause) fun n i => ∀ j ∈ i, (f.tables n).slot j := by
  cases clause with
  | none => exact makes_pure fun _ _ => nofun
  | some p =>
    refine makes_bind (makes_forcedSlot (h p rfl)) fun i => makes_pure fun n hk => ?_
    rintro j ⟨⟩
    exact hk.2

/-- A call passes content that was built before it. -/
theorem makes_call (ha : a.Held a.table) (info : Meta) {as : List Attribute} {os : List TypedOption}
    (has : AttrsAll a.table.Knows as) (hos : TypedOption.AllOf a.table.Knows os)
    {cs : Build (List ContentRef)} (hcs : ∀ {K : Nat → Prop}, Makes a (code o) f K cs fun n refs =>
    ∀ ref ∈ refs, (f.tables n).content ref.body) :
    Makes a (code o) f K (call o info as os cs) fun n c => c.Within (f.tables n) := by
  refine makes_bind (makes_attrs true has) fun as => makes_bind (makes_options hos) fun os => ?_
  refine makes_bind hcs fun cs => makes_bind (makes_watch ha info.container) fun w => ?_
  exact makes_pure fun n ⟨⟨⟨⟨_, has⟩, hos⟩, hcs⟩, hw⟩ => ⟨has, hos, hcs, hw⟩

/-- The instructions of one node. -/
lemma allWithin_singleton {T : Tables} {i : Instruction} (h : i.Within T)
    (hinner : ∀ j ∈ i.inner, j.AllWithin T) :
    ∀ j ∈ [i], j.AllWithin T := by
  intro j hj
  rw [List.mem_singleton.1 hj]
  exact Instruction.allWithin_iff.2 ⟨h, hinner⟩

mutual
theorem makes_node (ha : a.Held a.table) : ∀ {K : Nat → Prop} {n : Markup.Node},
    n.All a.table.Knows →
    Makes a (code o) f K (node o n) fun n is => ∀ i ∈ is, i.AllWithin (f.tables n)
  | _, .text info ss, h => by
    rw [node]
    refine makes_located _ _ (makes_bind (makes_parts "" h) fun ps => makes_pure fun n hk => ?_)
    exact allWithin_singleton hk.2 nofun
  | _, .element info name as children void, ⟨has, hchildren⟩ => by
    rw [node]
    refine makes_located _ _ (makes_bind (makes_attrs false has) fun as => ?_)
    refine makes_bind (makes_nodes ha hchildren) fun is => makes_pure fun n ⟨⟨_, has⟩, his⟩ => ?_
    exact allWithin_singleton has his
  | _, .component info name as os cs, ⟨has, hos, hcs⟩ => by
    rw [node]
    refine makes_located _ _ (makes_bind (makes_call ha info has hos (makes_contents ha hcs))
      fun c => ?_)
    exact makes_pure fun n hk => allWithin_singleton hk.2 nofun
  | _, .partialCall info target as os cs, ⟨htarget, has, hos, hcs⟩ => by
    -- what follows the target, which is one of three
    have hrest : ∀ {K : Nat → Prop} {t : Target}, (∀ n, K n → t.Within (f.tables n)) →
        Makes a (code o) f K
          (do return [Instruction.partialCall info.key t (← call o info as os (contents o cs))])
          fun n is => ∀ i ∈ is, i.AllWithin (f.tables n) := by
      intro K t ht
      refine makes_bind (makes_call ha info has hos (makes_contents ha hcs)) fun c => ?_
      exact makes_pure fun n hk => allWithin_singleton ⟨ht n hk.1, hk.2⟩ nofun
    rw [node]
    refine makes_located _ _ ?_
    cases target with
    | inline name => exact hrest fun _ _ => trivial
    | «static» path => exact hrest fun _ _ => trivial
    | dynamic p =>
      exact makes_bind (makes_forcedSlot htarget) fun i => hrest fun n hk => ⟨i, rfl, hk.2⟩
  | _, .template info name children, h => by
    rw [node]
    refine makes_located _ _ (makes_bind (makes_nodes ha h) fun is => ?_)
    refine makes_bind (makes_watch ha info.container) fun w => ?_
    refine makes_bind (makes_addBody nofun rfl fun n ⟨⟨_, his⟩, hw⟩ => ⟨his, hw⟩) fun _ => ?_
    exact makes_pure fun _ _ _ hi => absurd hi List.not_mem_nil
  | _, .branches info test children others, ⟨htest, hchildren, hothers⟩ => by
    rw [node]
    refine makes_located _ _ (makes_bind (makes_forcedSlot htest) fun i => ?_)
    refine makes_bind (makes_nodes ha hchildren) fun is =>
      makes_bind (makes_watch ha info.container) fun w => ?_
    refine makes_bind (makes_arms ha hothers) fun as => makes_pure fun n hk => ?_
    obtain ⟨⟨⟨⟨_, hi⟩, his⟩, hw⟩, harms, hinner⟩ := hk
    refine allWithin_singleton ?_ ?_
    · intro test' children' watch' hmem
      obtain hmem | hmem := List.mem_cons.1 hmem
      · cases hmem
        refine ⟨?_, hw⟩
        rintro j ⟨⟩
        exact hi
      · exact harms _ _ _ hmem
    · intro j hj
      obtain hj | hj := List.mem_append.1 hj
      · exact his j hj
      · exact hinner j hj
  | _, .loop info init test update names children, ⟨hinit, htest, hupdate, hchildren⟩ => by
    rw [node]
    refine makes_located _ _ (makes_bind (makes_optSlot hinit) fun i => ?_)
    refine makes_bind (makes_forcedSlot htest) fun j => makes_bind (makes_optSlot hupdate) fun k =>
      ?_
    refine makes_bind (makes_nodes ha hchildren) fun is =>
      makes_bind (makes_watch ha info.container) fun w => ?_
    refine makes_pure fun n ⟨⟨⟨⟨⟨_, hi⟩, hj⟩, hk⟩, his⟩, hw⟩ => ?_
    refine allWithin_singleton ⟨⟨hi, ?_, hk⟩, hw⟩ his
    rintro j' ⟨⟩
    exact hj
  | _, .each info index iterator collection children, ⟨hcollection, hchildren⟩ => by
    rw [node]
    refine makes_located _ _ (makes_bind (makes_forcedSlot hcollection) fun i => ?_)
    refine makes_bind (makes_nodes ha hchildren) fun is =>
      makes_bind (makes_watch ha info.container) fun w => ?_
    exact makes_pure fun n ⟨⟨⟨_, hi⟩, his⟩, hw⟩ => allWithin_singleton ⟨hi, hw⟩ his

theorem makes_nodes (ha : a.Held a.table) : ∀ {K : Nat → Prop} {ns : List Markup.Node},
    Node.AllOf a.table.Knows ns → Makes a (code o) f K (nodes o ns) fun n is =>
    ∀ i ∈ is, i.AllWithin (f.tables n)
  | _, [], _ => by
    rw [nodes]
    exact makes_pure fun _ _ _ hi => absurd hi List.not_mem_nil
  | _, n :: ns, ⟨hn, hns⟩ => by
    rw [nodes]
    refine makes_bind (makes_node ha hn) fun is => makes_bind (makes_nodes ha hns) fun js => ?_
    refine makes_pure fun n ⟨⟨_, his⟩, hjs⟩ i hi => ?_
    obtain hi | hi := List.mem_append.1 hi
    · exact his i hi
    · exact hjs i hi

theorem makes_arms (ha : a.Held a.table) : ∀ {K : Nat → Prop} {bs : List Branch},
    Branch.AllOf a.table.Knows bs → Makes a (code o) f K (arms o bs) fun n as =>
      (∀ test children watch, Arm.mk test children watch ∈ as →
        (∀ i ∈ test, (f.tables n).slot i) ∧ ∀ w ∈ watch, (f.tables n).watch w) ∧
      ∀ i ∈ as.flatMap Arm.children, i.AllWithin (f.tables n)
  | _, [], _ => by
    rw [arms]
    exact makes_pure fun _ _ => ⟨fun _ _ _ hmem => absurd hmem List.not_mem_nil, fun _ hi =>
      absurd hi List.not_mem_nil⟩
  | _, .mk info test children :: bs, ⟨htest, hchildren, hbs⟩ => by
    rw [arms]
    refine makes_bind (makes_optSlot htest) fun i => makes_bind (makes_nodes ha hchildren) fun is =>
      ?_
    refine makes_bind (makes_watch ha info.container) fun w =>
      makes_bind (makes_arms ha hbs) fun as => ?_
    refine makes_pure fun n hk => ?_
    obtain ⟨⟨⟨⟨_, hi⟩, his⟩, hw⟩, harms, hinner⟩ := hk
    refine ⟨fun test' children' watch' hmem => ?_, fun j hj => ?_⟩
    · obtain hmem | hmem := List.mem_cons.1 hmem
      · cases hmem
        exact ⟨hi, hw⟩
      · exact harms _ _ _ hmem
    · obtain hj | hj := List.mem_append.1 hj
      · exact his j hj
      · exact hinner j hj

theorem makes_contents (ha : a.Held a.table) : ∀ {K : Nat → Prop} {cs : List Content},
    Content.AllOf a.table.Knows cs →
      Makes a (code o) f K (contents o cs) fun n refs => ∀ ref ∈ refs, (f.tables n).content ref.body
  | _, [], _ => by
    rw [contents]
    exact makes_pure fun _ _ _ href => absurd href List.not_mem_nil
  | _, .mk info name children :: cs, ⟨hchildren, hcs⟩ => by
    rw [contents]
    refine makes_bind (makes_nodes ha hchildren) fun is =>
      makes_bind (makes_watch ha info.container) fun w => ?_
    refine makes_bind (makes_addBody nofun rfl fun n ⟨⟨_, his⟩, hw⟩ => ⟨his, hw⟩) fun k => ?_
    refine makes_bind (makes_contents ha hcs) fun refs => makes_pure fun n ⟨⟨_, hk⟩, hrefs⟩ => ?_
    exact List.forall_mem_cons.2 ⟨hk, hrefs⟩
end

end Build

end Trellis.Description
