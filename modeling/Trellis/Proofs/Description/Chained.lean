/-
The arms of a condition.

An arm without a test is the last one.  Reading sees to that, which adds no branch behind one
without a test (`Markup.chained_read`).  Annotating and building leave the tests where they are, so
the conditions of a compiled template are chains (`Description.every_isChained_compile`): the first
arm of each has a test, and running one makes no fault that its tests and its arms did not make.
-/
import Trellis.Description.Compile
import Trellis.Proofs.Description.Built
import Trellis.Proofs.Readable
import Trellis.Proofs.Render.Styles

namespace Trellis

namespace Markup

/-! ### What is read -/

/-- Whether all branches but the last have tests. -/
def areTested (bs : List Branch) : Bool := bs.dropLast.all (·.test.isSome)

/-- All but the last satisfy what is known of them one by one. -/
lemma all_dropLast_congr {α β : Type} {f : α → Bool} {g : β → Bool} {xs : List α} {ys : List β}
    (h : xs.map f = ys.map g) : xs.dropLast.all f = ys.dropLast.all g := by
  have hall : ∀ {γ : Type} (p : γ → Bool) (zs : List γ), zs.dropLast.all p =
      (zs.map p).dropLast.all id := by
    intro γ p zs
    rw [← List.map_dropLast, List.all_map]
    rfl
  rw [hall f, hall g, h]

mutual
/-- In the conditions of a node only the last branch may do without a test. -/
def Node.Chained : Node → Prop
  | .text _ _ => True
  | .element _ _ _ children _ => Node.ChainedAll children
  | .component _ _ _ _ contents => Content.ChainedAll contents
  | .partialCall _ _ _ _ contents => Content.ChainedAll contents
  | .template _ _ children => Node.ChainedAll children
  | .branches _ _ children others =>
    areTested others ∧ Node.ChainedAll children ∧ Branch.ChainedAll others
  | .loop _ _ _ _ _ children => Node.ChainedAll children
  | .each _ _ _ _ children => Node.ChainedAll children

def Node.ChainedAll : List Node → Prop
  | [] => True
  | n :: ns => n.Chained ∧ Node.ChainedAll ns

def Branch.ChainedAll : List Branch → Prop
  | [] => True
  | .mk _ _ children :: bs => Node.ChainedAll children ∧ Branch.ChainedAll bs

def Content.ChainedAll : List Content → Prop
  | [] => True
  | .mk _ _ children :: cs => Node.ChainedAll children ∧ Content.ChainedAll cs
end

lemma chainedAll_iff {ns : List Node} : Node.ChainedAll ns ↔ ∀ n ∈ ns, n.Chained := by
  induction ns with
  | nil => exact iff_of_true trivial fun n hn => absurd hn List.not_mem_nil
  | cons n ns ih =>
    rw [List.forall_mem_cons, ← ih]
    rfl

lemma chainedBranches_append {bs cs : List Branch} :
    Branch.ChainedAll (bs ++ cs) ↔ Branch.ChainedAll bs ∧ Branch.ChainedAll cs := by
  induction bs with
  | nil => exact ⟨fun h => ⟨trivial, h⟩, And.right⟩
  | cons b bs ih =>
    obtain ⟨info, test, children⟩ := b
    exact (and_congr_right fun _ => ih).trans and_assoc.symm

lemma chainedContents_append {bs cs : List Content} :
    Content.ChainedAll (bs ++ cs) ↔ Content.ChainedAll bs ∧ Content.ChainedAll cs := by
  induction bs with
  | nil => exact ⟨fun h => ⟨trivial, h⟩, And.right⟩
  | cons b bs ih =>
    obtain ⟨info, name, children⟩ := b
    exact (and_congr_right fun _ => ih).trans and_assoc.symm

/-- A branch is added behind branches with tests. -/
lemma chained_addBranch? {b : Branch} (hb : Branch.ChainedAll [b]) {ns ms : List Node}
    (h : addBranch? b ns = some ms) (hns : ∀ n ∈ ns, n.Chained) : ∀ n ∈ ms, n.Chained := by
  induction ns generalizing ms with
  | nil => cases h
  | cons n ns ih =>
    obtain ⟨hn, hrest⟩ := List.forall_mem_cons.1 hns
    unfold addBranch? at h
    split at h
    · next hnil => cases hnil
    · next hcons =>
      cases hcons
      split at h
      · cases h
      · next others _ htested =>
        cases h
        obtain ⟨-, hchildren, hothers⟩ := hn
        refine List.forall_mem_cons.2 ⟨⟨?_, hchildren, chainedBranches_append.2 ⟨hothers, hb⟩⟩,
          hrest⟩
        rw [areTested, List.dropLast_concat]
        simpa [Option.isSome_iff_ne_none] using htested
    · next hcons =>
      cases hcons
      obtain ⟨ms', hms', rfl⟩ := Option.map_eq_some_iff.1 h
      exact List.forall_mem_cons.2 ⟨hn, ih hms' hrest⟩

lemma chained_header (header : LoopHeader) (info : Meta) {ns : List Node} (h : Node.ChainedAll ns) :
    (header.node info ns).Chained := by
  cases header with
  | each index iterator collection => exact h
  | clauses init test update => exact h

mutual
lemma chained_readList (o : ReadOptions) : ∀ (n : Nat) (tags : List Tag) (stem : String),
    Ensures (readList o n tags stem) Node.ChainedAll
  | 0, _, _ => ensures_error _
  | n + 1, tags, stem => by
    rw [readList]
    refine ensures_bind (Q := fun s : Siblings => ∀ n ∈ s.nodes, n.Chained)
      (ensures_foldlM (fun s item hs => ?_) nofun) fun s hs =>
        ensures_pure (chainedAll_iff.2 fun n hn => hs n (List.mem_reverse.1 hn))
    rcases item with ⟨t, i⟩
    dsimp only
    refine ensures_ite (ensures_pure hs) (ensures_ite (ensures_ite (ensures_error _) ?_) ?_)
    · refine ensures_bind (chained_readBranch o n t _) fun b hb => ?_
      split
      · next nodes hnodes => exact ensures_pure (chained_addBranch? hb hnodes hs)
      · exact ensures_error _
    · refine ensures_bind (chained_readNode o n t _) fun node hnode => ?_
      exact ensures_pure (List.forall_mem_cons.2 ⟨hnode, hs⟩)

lemma chained_readBranch (o : ReadOptions) : ∀ (n : Nat) (t : Tag) (key : String),
    Ensures (readBranch o n t key) fun b => Branch.ChainedAll [b]
  | 0, _, _ => ensures_error _
  | n + 1, t, key => by
    have hrest : ∀ test : Option Program, Ensures (do
        let children ← readList o n t.children key
        return Branch.mk ⟨key, t.line, t.column, false, none⟩ test children) fun b =>
          Branch.ChainedAll [b] :=
      fun test => ensures_bind (chained_readList o n _ key) fun children hchildren =>
        ensures_pure ⟨hchildren, trivial⟩
    rw [readBranch]
    split
    · exact ensures_then fun p => hrest (some p)
    · exact hrest none

lemma chained_readNode (o : ReadOptions) : ∀ (n : Nat) (t : Tag) (key : String),
    Ensures (readNode o n t key) Node.Chained
  | 0, _, _ => ensures_error _
  | n + 1, .text line column value, key => by
    rw [readNode]
    exact ensures_then fun ss => ensures_pure trivial
  | n + 1, .element line column name attrs children, key => by
    have hchildren : Ensures (readList o n children key) Node.ChainedAll :=
      chained_readList o n children key
    have hbody : Ensures (readBody o n (.element line column name attrs children) key) fun r =>
        Content.ChainedAll r.2 := chained_readBody o n _ key
    rw [readNode]
    refine ensures_ite ?_
      (ensures_ite ?_ (ensures_ite ?_ (ensures_ite ?_ (ensures_ite (ensures_error _)
      (ensures_ite ?_ ?_)))))
    · refine ensures_then fun data => ensures_then fun test => ?_
      exact ensures_bind hchildren fun ns hns => ensures_pure ⟨rfl, hns, trivial⟩
    · exact chained_readLoop o n _ key
    · exact ensures_then fun a => ensures_bind hchildren fun ns hns => ensures_pure hns
    · refine ensures_then fun a => ?_
      have hrest : ∀ target : PartialTarget, Ensures (do
          let as ← ((Tag.element line column name attrs children).attrs.filter
            (·.name != "template")).mapM
            TagAttr.read
          let (options, contents) ← readBody o n (.element line column name attrs children) key
          return Node.partialCall ⟨key, line, column, false, none⟩ target as options contents)
            Node.Chained :=
        fun target => ensures_then fun as => ensures_bind hbody fun r hr => ensures_pure hr
      dsimp only
      refine ensures_ite ?_ (ensures_ite (hrest (.static _)) (hrest (.inline _)))
      exact ensures_then fun p => hrest (.dynamic p)
    · exact ensures_then fun as => ensures_bind hbody fun r hr => ensures_pure hr
    · exact ensures_then fun as => ensures_bind hchildren fun ns hns => ensures_pure hns

lemma chained_readLoop (o : ReadOptions) : ∀ (n : Nat) (t : Tag) (key : String),
    Ensures (readLoop o n t key) Node.Chained
  | 0, _, _ => ensures_error _
  | n + 1, t, key => by
    rw [readLoop]
    refine ensures_then fun header => ?_
    exact ensures_bind (chained_readList o n _ key) fun ns hns =>
      ensures_pure (chained_header header _ hns)

lemma chained_readBody (o : ReadOptions) : ∀ (n : Nat) (t : Tag) (key : String),
    Ensures (readBody o n t key) fun r => Content.ChainedAll r.2
  | 0, _, _ => ensures_error _
  | n + 1, t, key => by
    rw [readBody]
    refine ensures_bind (Q := fun b : ComponentBody => Content.ChainedAll b.contents)
      (ensures_foldlM (fun b child hb => ?_) trivial) fun b hb => ensures_ite ?_ (ensures_pure hb)
    · refine ensures_ite (ensures_pure hb) ?_
      dsimp only
      split
      · exact ensures_then fun v => ensures_pure hb
      · refine ensures_bind (chained_readList o n _ _) fun ns hns => ensures_pure ?_
        exact chainedContents_append.2 ⟨hb, hns, trivial⟩
    · refine ensures_bind (chained_readList o n _ _) fun ns hns => ensures_pure ?_
      exact chainedContents_append.2 ⟨hb, hns, trivial⟩
end

/-- **The conditions of a template.** In all conditions of a template that was read only the last
branch may do without a test. -/
theorem chained_read {o : ReadOptions} {source : String} {ns : List Node}
    (h : read o source = .ok ns) :
    Node.ChainedAll ns :=
  ensures_read (fun n tags => chained_readList o n tags "") source ns h

end Markup

namespace Annotated

open Markup

/-! ### What is annotated -/

lemma areTested_markBranches (bs : List Branch) : areTested (Pass.markBranches bs) =
    areTested bs := by
  refine all_dropLast_congr ?_
  induction bs with
  | nil => rfl
  | cons b bs ih =>
    obtain ⟨info, test, children⟩ := b
    exact congrArg (test.isSome :: ·) ih

mutual
lemma chained_markRoot : ∀ {n : Markup.Node}, n.Chained → (Pass.markRoot n).Chained
  | .text .., h | .element .., h | .component .., h | .partialCall .., h | .template .., h => h
  | .branches .., ⟨hothers, hchildren, hbranches⟩ =>
    ⟨(areTested_markBranches _).trans hothers, chained_markRoots hchildren,
      chained_markBranches hbranches⟩
  | .loop .., h => @chained_markRoots _ h
  | .each .., h => @chained_markRoots _ h

lemma chained_markRoots : ∀ {ns : List Markup.Node}, Node.ChainedAll ns →
    Node.ChainedAll (Pass.markRoots ns)
  | [], h => h
  | _ :: _, ⟨hn, hns⟩ => ⟨chained_markRoot hn, chained_markRoots hns⟩

lemma chained_markBranches : ∀ {bs : List Branch}, Branch.ChainedAll bs →
    Branch.ChainedAll (Pass.markBranches bs)
  | [], h => h
  | .mk .. :: _, ⟨hchildren, hbs⟩ => ⟨chained_markRoots hchildren, chained_markBranches hbs⟩
end

namespace Pass

variable {α β γ : Type} {Q : β → Prop} {R : γ → Prop}

/-- If there is a result, `Q` holds of it. -/
def Gives (w : Pass α β) (Q : β → Prop) : Prop := ∀ a b x, w.run a = .ok (x, b) → Q x

lemma gives_pure {x : β} (h : Q x) : Gives (pure x : Pass α β) Q := by
  rintro a b y hrun
  cases hrun
  exact h

lemma gives_bind {w : Pass α β} {g : β → Pass α γ} (hw : Gives w Q)
    (hg : ∀ x, Q x → Gives (g x) R) :
    Gives (w >>= g) R := by
  rintro a c y hrun
  rw [StateT.run_bind] at hrun
  cases h : w.run a with
  | error f =>
    rw [h] at hrun
    cases hrun
  | ok r =>
    obtain ⟨x, b⟩ := r
    rw [h] at hrun
    exact hg x (hw a b x h) b c y hrun

lemma gives_then {w : Pass α β} {g : β → Pass α γ} (hg : ∀ x, Gives (g x) R) : Gives (w >>= g) R :=
  gives_bind (Q := fun _ => True) (fun _ _ _ _ => trivial) fun x _ => hg x

mutual
lemma gives_node (module : String) : ∀ (c : Nat) {n : Markup.Node}, n.Chained →
    Gives (node module c n : Pass α _) Node.Chained
  | c, .text info ss, _ => by
    rw [node]
    exact gives_then fun ss => gives_pure trivial
  | c, .element info name attrs children void, h => by
    rw [node]
    exact gives_then fun attrs => gives_bind (gives_nodes module c h) fun children hchildren =>
      gives_pure hchildren
  | c, .component info name attrs os cs, h => by
    rw [node]
    refine gives_then fun _ => gives_then fun call => gives_then fun attrs => gives_then fun os =>
      ?_
    exact gives_bind (gives_contents module call h) fun cs hcs => gives_pure hcs
  | c, .partialCall info target attrs os cs, h => by
    -- what is left to do once the target is known
    have hrest : ∀ (call : Nat) (target : PartialTarget), Gives (do
          let attrs ← attributes module call true attrs
          let os ← options module call os
          return Markup.Node.partialCall { info with container := some call } target attrs os
            (← contents module call cs) : Pass α _) Node.Chained := by
      intro call target
      refine gives_then fun attrs => gives_then fun os => ?_
      exact gives_bind (gives_contents module call h) fun cs hcs => gives_pure hcs
    cases target with
    | inline name =>
      rw [node]
      exact gives_then fun call => gives_then fun _ => hrest call (.inline name)
    | «static» path =>
      rw [node]
      exact gives_then fun call => gives_then fun _ => hrest call (.static path)
    | dynamic p =>
      rw [node]
      exact gives_then fun call => gives_then fun p => gives_then fun _ => hrest call (.dynamic p)
  | c, .template info name children, h => by
    have hrest : Gives (do
          let t ← work (Container.Work.spawn c .template name)
          modify fun a => { a with templates := a.templates ++ [(name, t)] }
          let children ← nodes module t children
          return Markup.Node.template { info with container := some t } name (markRoots children) :
            Pass α _)
        Node.Chained := by
      refine gives_then fun t => gives_then fun _ => ?_
      exact gives_bind (gives_nodes module t h) fun children hchildren =>
        gives_pure (chained_markRoots hchildren)
    rw [node]
    refine gives_then fun a => ?_
    split
    · exact gives_then fun _ => hrest
    · exact gives_then fun _ => hrest
  | c, .branches info test children others, ⟨hothers, hchildren, hbranches⟩ => by
    rw [node]
    refine gives_then fun test => gives_then fun _ => gives_then fun branch => ?_
    refine gives_bind (gives_nodes module branch hchildren) fun children hchildren' => ?_
    refine gives_bind (gives_branches module c hbranches) fun others' hothers' => ?_
    exact gives_pure ⟨(all_dropLast_congr hothers'.1).trans hothers, hchildren', hothers'.2⟩
  | c, .loop info init test update names children, h => by
    rw [node]
    refine gives_then fun loop => gives_then fun _ => gives_then fun init => gives_then fun test =>
      ?_
    refine gives_then fun _ => gives_then fun update => ?_
    exact gives_bind (gives_nodes module loop h) fun children hchildren => gives_pure hchildren
  | c, .each info index iterator collection children, h => by
    rw [node]
    refine gives_then fun loop => gives_then fun _ => gives_then fun collection =>
      gives_then fun _ => ?_
    exact gives_bind (gives_nodes module loop h) fun children hchildren => gives_pure hchildren

lemma gives_nodes (module : String) : ∀ (c : Nat) {ns : List Markup.Node}, Node.ChainedAll ns →
    Gives (nodes module c ns : Pass α _) Node.ChainedAll
  | _, [], _ => by
    rw [nodes]
    exact gives_pure trivial
  | c, n :: ns, ⟨hn, hns⟩ => by
    rw [nodes]
    refine gives_bind (gives_node module c hn) fun n hn => ?_
    exact gives_bind (gives_nodes module c hns) fun ns hns => gives_pure ⟨hn, hns⟩

lemma gives_branches (module : String) : ∀ (c : Nat) {bs : List Branch}, Branch.ChainedAll bs →
    Gives (branches module c bs : Pass α _) fun bs' =>
      bs'.map (·.test.isSome) = bs.map (·.test.isSome) ∧ Branch.ChainedAll bs'
  | _, [], _ => by
    rw [branches]
    exact gives_pure ⟨rfl, trivial⟩
  | c, .mk info test children :: bs, ⟨hchildren, hbs⟩ => by
    have hrest : ∀ test' : Option Program, test'.isSome = test.isSome → Gives (do
          let branch ← work (Container.Work.spawn c .conditional "")
          let children ← nodes module branch children
          return Branch.mk { info with container := some branch } test' children ::
            (← branches module c bs) : Pass α _)
        fun bs' => bs'.map (·.test.isSome) = (Branch.mk info test children :: bs).map
          (·.test.isSome) ∧
          Branch.ChainedAll bs' := by
      intro test' htest
      refine gives_then fun branch => gives_bind (gives_nodes module branch hchildren)
        fun children hchildren' => ?_
      refine gives_bind (gives_branches module c hbs) fun bs' hbs' =>
        gives_pure ⟨?_, hchildren', hbs'.2⟩
      rw [List.map_cons, List.map_cons, hbs'.1]
      exact congrArg (· :: _) htest
    cases test with
    | none =>
      rw [branches]
      exact hrest none rfl
    | some p =>
      rw [branches]
      exact gives_then fun p => gives_then fun _ => hrest (some p) rfl

lemma gives_contents (module : String) : ∀ (call : Nat) {cs : List Content}, Content.ChainedAll cs →
    Gives (contents module call cs : Pass α _) Content.ChainedAll
  | _, [], _ => by
    rw [contents]
    exact gives_pure trivial
  | call, .mk info name children :: cs, ⟨hchildren, hcs⟩ => by
    rw [contents]
    refine gives_then fun content => gives_then fun _ => ?_
    refine gives_bind (gives_nodes module content hchildren) fun children hchildren' => ?_
    exact gives_bind (gives_contents module call hcs) fun cs hcs' =>
      gives_pure ⟨chained_markRoots hchildren', hcs'⟩
end

end Pass

/-- Annotating leaves the tests of conditions where they are. -/
theorem chained_ofNodes {α : Type} {module : String} {ns : List Markup.Node} {a : Annotated α}
    (h : ofNodes module ns = .ok a) (hns : Node.ChainedAll ns) : Node.ChainedAll a.nodes := by
  obtain ⟨ns', b, hnodes, hattach⟩ := run_of_ofNodes h
  rw [Pass.nodes_attachAll hattach]
  exact chained_markRoots (Pass.gives_nodes module 0 hns _ _ _ hnodes)

end Annotated

namespace Description

open Markup

/-! ### What is built -/

/-- Whether an arm has a test. -/
def Arm.isTested : Arm → Bool
  | .mk test _ _ => test.isSome

/-- Whether the arms of a condition are a chain: the first has a test, and only the last may have
none. -/
def Instruction.isChained : Instruction → Bool
  | .branches _ as => as.head?.any Arm.isTested && as.dropLast.all Arm.isTested
  | .text _ _ | .element _ _ _ _ _ | .component _ _ _ | .partialCall _ _ _ | .loop _ _ _ _ _ _ _
  | .each _ _ _ _ _ _ | .unknown _ => true

lemma everyOf_append (p : Instruction → Bool) (is js : List Instruction) :
    everyOf p (is ++ js) = (everyOf p is && everyOf p js) := by
  induction is with
  | nil => rfl
  | cons i is ih => rw [List.cons_append, everyOf, everyOf, ih, Bool.and_assoc]

/-- An arm with a test can stand in front of a chain. -/
lemma isTested_dropLast_cons {a : Arm} (ha : a.isTested) {as : List Arm}
    (has : as.dropLast.all Arm.isTested) :
    (a :: as).dropLast.all Arm.isTested := by
  cases as with
  | nil => rfl
  | cons b bs =>
    rw [List.dropLast_cons_of_ne_nil (List.cons_ne_nil b bs), List.all_cons, ha, has]
    rfl

/-- All bodies are made of chains. -/
def Construction.IsChained (d : Construction) : Prop :=
  ∀ b ∈ d.bodies, everyOf Instruction.isChained b.children

namespace Build

variable {α β : Type} {Q : α → Prop} {R : β → Prop} {o : Options}

/-- Building goes on to make bodies of chains, and `Q` holds of its result. -/
def Chains (b : Build α) (Q : α → Prop) : Prop :=
  ∀ d x e, b.run d = .ok (x, e) → d.IsChained → e.IsChained ∧ Q x

lemma chains_pure {x : α} (h : Q x) : Chains (pure x) Q := by
  rintro d y e hrun hd
  cases hrun
  exact ⟨hd, h⟩

lemma chains_bind {b : Build α} {g : α → Build β} (hb : Chains b Q)
    (hg : ∀ x, Q x → Chains (g x) R) :
    Chains (b >>= g) R := by
  rintro d y u hrun hd
  rw [run_bind] at hrun
  cases hr : b.run d with
  | error f =>
    rw [hr] at hrun
    cases hrun
  | ok r =>
    obtain ⟨x, e⟩ := r
    rw [hr] at hrun
    obtain ⟨he, hx⟩ := hb d x e hr hd
    exact hg x hx e y u hrun he

lemma chains_then {b : Build α} {g : α → Build β} (hb : Chains b fun _ => True)
    (hg : ∀ x, Chains (g x) R) :
    Chains (b >>= g) R :=
  chains_bind hb fun x _ => hg x

lemma chains_mapM {xs : List α} {g : α → Build β} (h : ∀ x, Chains (g x) fun _ => True) :
    Chains (xs.mapM g) fun _ => True := by
  induction xs with
  | nil => exact chains_pure trivial
  | cons x xs ih =>
    rw [List.mapM_cons]
    exact chains_then (h x) fun y => chains_then ih fun ys => chains_pure trivial

lemma chains_located {b : Build α} (line column : Nat) (h : Chains b Q) :
    Chains (located line column b) Q := by
  rintro d x e hrun hd
  rw [run_located] at hrun
  cases hr : b.run d with
  | error f =>
    rw [hr] at hrun
    cases hrun
  | ok r =>
    rw [hr] at hrun
    cases hrun
    exact h d x e hr hd

/-! #### What adds no bodies -/

lemma chains_work (w : Container.Work α) : Chains (work w) fun _ => True := by
  rintro d x e hrun hd
  rw [run_work] at hrun
  rcases hon : w.on d.arena with ⟨_ | y, arena⟩ <;> rw [hon] at hrun <;> cases hrun
  exact ⟨hd, trivial⟩

lemma chains_compiled (w : Code.Options → Code.Compile α) : Chains (compiled o w) fun _ =>
    True := by
  rintro d x e hrun hd
  rw [run_compiled] at hrun
  cases hr : ((w (code o)).run.run d.symbols).1 with
  | error f =>
    rw [hr] at hrun
    cases hrun
  | ok y =>
    rw [hr] at hrun
    cases hrun
    exact ⟨hd, trivial⟩

lemma chains_modifyGet {f : Construction → α × Construction} (h : ∀ d, (f d).2.bodies = d.bodies) :
    Chains (modifyGet f) fun _ => True := by
  rintro d x e hrun hd
  obtain rfl : (f d).2 = e := congrArg Prod.snd (Except.ok.inj hrun)
  refine ⟨fun b hb => ?_, trivial⟩
  rw [h] at hb
  exact hd b hb

lemma chains_get : Chains get fun _ => True := by
  rintro d x e hrun hd
  cases hrun
  exact ⟨hd, trivial⟩

lemma chains_slot (use : Use) (p : Program) : Chains (slot o use p) fun _ => True := by
  rw [slot]
  have hentry : ∀ i, Chains ( entry? i) fun _ => True := fun i => chains_then chains_get fun d =>
    chains_pure trivial
  refine chains_then (chains_work _) fun i => chains_then (hentry i) fun old => ?_
  refine chains_then (chains_compiled _) fun r => ?_
  cases r with
  | none => exact chains_pure trivial
  | some e => exact chains_then (chains_modifyGet fun _ => rfl) fun _ => chains_pure trivial

lemma chains_optSlot (p : Option Program) : Chains (optSlot o p) fun _ => True := by
  cases p with
  | none => exact chains_pure trivial
  | some p => exact chains_then (chains_slot _ p) fun i => chains_pure trivial

lemma chains_watch (container : Option Nat) : Chains (watch container) fun _ => True := by
  cases container with
  | none => exact chains_pure trivial
  | some id =>
    rw [watch]
    refine chains_then chains_get fun d => ?_
    split
    · exact chains_pure trivial
    · split
      · exact chains_pure trivial
      · refine chains_then (chains_work _) fun slots => chains_modifyGet fun d => ?_
        split <;> rfl

lemma chains_exprPart (field : String) (p : Program) : Chains (exprPart o field p) fun _ =>
    True := by
  rw [exprPart]
  refine chains_then (chains_compiled _) fun f => ?_
  split
  · exact chains_pure trivial
  · exact chains_then (chains_slot _ p) fun i => chains_pure trivial

lemma chains_parts (field : String) (ss : List Segment) : Chains (parts o field ss) fun _ =>
    True := by
  refine chains_mapM fun s => ?_
  split
  · exact chains_pure trivial
  · exact chains_pure trivial
  · exact chains_exprPart field _

lemma chains_attrValue (atCall : Bool) (a : Attribute) : Chains (attrValue o atCall a) fun _ =>
    True := by
  have hmarkup : ∀ ss, Chains (do return AttrValue.markup (← parts o a.name ss)) fun _ => True :=
    fun ss => chains_then (chains_parts a.name ss) fun ps => chains_pure trivial
  have hoption : ∀ ss, Chains (do return AttrValue.option (← parts o a.name ss)) fun _ => True :=
    fun ss => chains_then (chains_parts a.name ss) fun ps => chains_pure trivial
  rw [attrValue]
  split
  · exact chains_then (chains_slot _ _) fun i => chains_then (chains_compiled _) fun f =>
      chains_pure trivial
  · exact chains_then (chains_slot _ _) fun i => chains_pure trivial
  · split
    · split
      · refine chains_then (chains_compiled _) fun f => ?_
        split
        · exact chains_then (chains_slot _ _) fun i => chains_pure trivial
        · exact hoption _
      · exact hoption _
    · exact hmarkup _
  · exact chains_pure trivial

lemma chains_attrs (atCall : Bool) (as : List Attribute) : Chains (attrs o atCall as) fun _ =>
    True :=
  chains_mapM fun a =>
    chains_then (chains_located _ _ (chains_attrValue atCall a)) fun _ => chains_pure trivial

mutual
lemma chains_optionValue (field : String) : ∀ v : TypedValue, Chains (optionValue o field v)
    fun _ => True
  | .scalar type ss => by
    rw [optionValue]
    exact chains_then (chains_parts field ss) fun ps => chains_pure trivial
  | .array items => by
    rw [optionValue]
    exact chains_then (chains_optionItems items) fun vs => chains_pure trivial
  | .object properties => by
    rw [optionValue]
    exact chains_then (chains_options properties) fun os => chains_pure trivial

lemma chains_optionItems : ∀ vs : List TypedValue, Chains (optionItems o vs) fun _ => True
  | [] => by
    rw [optionItems]
    exact chains_pure trivial
  | v :: vs => by
    rw [optionItems]
    exact chains_then (chains_optionValue "" v) fun _ => chains_then (chains_optionItems vs)
      fun _ => chains_pure trivial

lemma chains_options : ∀ os : List TypedOption, Chains (options o os) fun _ => True
  | [] => by
    rw [options]
    exact chains_pure trivial
  | .mk info name v :: os => by
    rw [options]
    exact chains_then (chains_optionValue name v) fun _ => chains_then (chains_options os) fun _ =>
      chains_pure trivial
end

/-! #### Instructions -/

lemma chains_call (info : Meta) (as : List Attribute) (os : List TypedOption)
    {cs : Build (List ContentRef)}
    (hcs : Chains cs fun _ => True) : Chains (call o info as os cs) fun _ => True := by
  refine chains_then (chains_attrs true as) fun as => chains_then (chains_options os) fun os => ?_
  exact chains_then hcs fun cs => chains_then (chains_watch _) fun w => chains_pure trivial

lemma chains_addBody {b : Body} (hb : everyOf Instruction.isChained b.children) :
    Chains (addBody b) fun _ => True := by
  rintro d x e hrun hd
  cases hrun
  refine ⟨fun b' hb' => ?_, trivial⟩
  obtain hb' | rfl := Array.mem_push.1 hb'
  · exact hd b' hb'
  · exact hb

mutual
lemma chains_node : ∀ {n : Markup.Node}, n.Chained → Chains (node o n) fun is =>
    everyOf Instruction.isChained is
  | .text info ss, _ => by
    rw [node]
    exact chains_located _ _ (chains_then (chains_parts "" ss) fun ps => chains_pure rfl)
  | .element info name as children void, h => by
    rw [node]
    refine chains_located _ _ (chains_then (chains_attrs false as) fun as => ?_)
    refine chains_bind (chains_nodes h) fun is his => chains_pure ?_
    simpa [everyOf, Instruction.every, Instruction.isChained] using his
  | .component info name as os cs, h => by
    rw [node]
    exact chains_located _ _ (chains_then (chains_call info as os (chains_contents h)) fun c =>
      chains_pure rfl)
  | .partialCall info target as os cs, h => by
    -- what follows the target
    have hrest : ∀ t : Target, Chains (do
        return [Instruction.partialCall info.key t (← call o info as os (contents o cs))])
          fun is => everyOf Instruction.isChained is :=
      fun t => chains_then (chains_call info as os (chains_contents h)) fun c => chains_pure rfl
    rw [node]
    refine chains_located _ _ ?_
    cases target with
    | inline name => exact hrest _
    | «static» path => exact hrest _
    | dynamic p => exact chains_then (chains_slot _ p) fun i => hrest _
  | .template info name children, h => by
    rw [node]
    refine chains_located _ _ (chains_bind (chains_nodes h) fun is his => ?_)
    exact chains_then (chains_watch _) fun w => chains_then (chains_addBody his) fun _ =>
      chains_pure rfl
  | .branches info test children others, ⟨htested, hchildren, hothers⟩ => by
    rw [node]
    refine chains_located _ _ (chains_then (chains_slot _ test) fun i => ?_)
    refine chains_bind (chains_nodes hchildren) fun is his => chains_then (chains_watch _) fun w =>
      ?_
    refine chains_bind (chains_arms hothers) fun as has => chains_pure ?_
    have harms : (Arm.mk (some i) is w :: as).dropLast.all Arm.isTested := by
      exact isTested_dropLast_cons rfl ((all_dropLast_congr has.1).trans htested)
    have hhead : (Arm.mk (some i) is w :: as).head?.any Arm.isTested := rfl
    simp only [everyOf, Instruction.every, Instruction.isChained, everyIn, hhead, harms, his, has.2,
      Bool.and_self]
  | .loop info init test update names children, h => by
    rw [node]
    refine chains_located _ _ (chains_then (chains_optSlot init) fun i => ?_)
    refine chains_then (chains_slot _ test) fun j => chains_then (chains_optSlot update) fun k => ?_
    refine chains_bind (chains_nodes h) fun is his => chains_then (chains_watch _) fun w =>
      chains_pure ?_
    simpa [everyOf, Instruction.every, Instruction.isChained] using his
  | .each info index iterator collection children, h => by
    rw [node]
    refine chains_located _ _ (chains_then (chains_slot _ collection) fun i => ?_)
    refine chains_bind (chains_nodes h) fun is his => chains_then (chains_watch _) fun w =>
      chains_pure ?_
    simpa [everyOf, Instruction.every, Instruction.isChained] using his

lemma chains_nodes : ∀ {ns : List Markup.Node}, Node.ChainedAll ns →
    Chains (nodes o ns) fun is => everyOf Instruction.isChained is
  | [], _ => by
    rw [nodes]
    exact chains_pure rfl
  | n :: ns, ⟨hn, hns⟩ => by
    rw [nodes]
    refine chains_bind (chains_node hn) fun is his => chains_bind (chains_nodes hns) fun js hjs =>
      chains_pure ?_
    rw [everyOf_append, his, hjs]
    rfl

lemma chains_arms : ∀ {bs : List Branch}, Branch.ChainedAll bs → Chains (arms o bs) fun as =>
    as.map Arm.isTested = bs.map (·.test.isSome) ∧ everyIn Instruction.isChained as
  | [], _ => by
    rw [arms]
    exact chains_pure ⟨rfl, rfl⟩
  | .mk info test children :: bs, ⟨hchildren, hbs⟩ => by
    have hslot : Chains (optSlot o test) fun i => i.isSome = test.isSome := by
      cases test with
      | none => exact chains_pure rfl
      | some p => exact chains_then (chains_slot _ p) fun i => chains_pure rfl
    rw [arms]
    refine chains_bind hslot fun i hi => chains_bind (chains_nodes hchildren) fun is his => ?_
    refine chains_then (chains_watch _) fun w => chains_bind (chains_arms hbs) fun as has =>
      chains_pure ⟨?_, ?_⟩
    · rw [List.map_cons, List.map_cons, has.1]
      exact congrArg (· :: _) hi
    · rw [everyIn, his, has.2]
      rfl

lemma chains_contents : ∀ {cs : List Content}, Content.ChainedAll cs →
    Chains (contents o cs) fun _ => True
  | [], _ => by
    rw [contents]
    exact chains_pure trivial
  | .mk info name children :: cs, ⟨hchildren, hcs⟩ => by
    rw [contents]
    refine chains_bind (chains_nodes hchildren) fun is his => chains_then (chains_watch _) fun w =>
      ?_
    exact chains_then (chains_addBody his) fun k => chains_then (chains_contents hcs) fun refs =>
      chains_pure trivial
end

lemma chains_remaining : Chains (remaining o) fun _ => True := by
  rw [remaining_eq]
  refine chains_then chains_get fun d => ?_
  induction d.arena.table.programs with
  | nil => exact chains_pure trivial
  | cons s ss ih => exact chains_then (chains_slot _ s.program) fun _ => ih

theorem chains_bodies {ns : List Markup.Node} (h : Node.ChainedAll ns) :
    Chains (bodies o ns) fun _ => True := by
  refine chains_then (chains_addBody rfl) fun _ => chains_bind (chains_nodes h) fun is his => ?_
  refine chains_then (chains_watch _) fun w => chains_then ?_ fun _ => chains_remaining
  rintro d x e hrun hd
  cases hrun
  refine ⟨fun b hb => ?_, trivial⟩
  obtain hb | rfl := Array.mem_or_eq_of_mem_setIfInBounds hb
  · exact hd b hb
  · exact his

end Build

/-- Building makes chains of the conditions of a template. -/
theorem every_isChained_ofAnnotated {α : Type} {o : Options} {a : Annotated α} {d : Description}
    (h : ofAnnotated o a = .ok d) (ha : Node.ChainedAll a.nodes) :
    d.every Instruction.isChained := by
  rw [ofAnnotated_eq] at h
  cases hrun : (Build.bodies o a.nodes).run { arena := a.arena } with
  | error f =>
    rw [hrun] at h
    cases h
  | ok r =>
    rw [hrun] at h
    obtain rfl : finished o a r.2 = d := Except.ok.inj h
    obtain ⟨hbodies, -⟩ := Build.chains_bodies ha _ _ _ hrun fun b hb =>
      absurd hb (Array.not_mem_empty b)
    refine List.all_eq_true.2 fun b hb => ?_
    obtain ⟨b', hb', rfl⟩ := Array.mem_map.1 (Array.mem_toList_iff.1 hb)
    exact hbodies b' hb'

/-- **Chains.** The conditions of a compiled template are chains: the first arm has a test, and only
the last may have none. -/
theorem every_isChained_compile {o : CompileOptions} {source : String} {d : Description}
    (h : compile o source = .ok d) : d.every Instruction.isChained := by
  obtain ⟨ns, hread, h⟩ := bind_eq_ok.1 h
  obtain ⟨a, hannotate, h⟩ := bind_eq_ok.1 h
  exact every_isChained_ofAnnotated h (Annotated.chained_ofNodes hannotate
    (Markup.chained_read hread))

end Description

end Trellis
