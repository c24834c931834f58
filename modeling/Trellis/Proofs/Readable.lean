/-
Where the programs of a table come from.

Reading a template reads all that it asks for from texts, and all programs that are asked for then
are compiled (`Markup.requests_read`).  Annotating stores no other programs, apart from the paths
that a program reads and from what a binding writes to.  So a property that these inherit holds of
all programs that annotating stores (`Annotated.stored_ofNodes`).  To be read from some text is such
a property (`Annotated.sound_ofNodes`).
-/
import Trellis.Markup.Reader
import Trellis.Proofs.Annotated

namespace Trellis

/-- A program that is asked for was read from its text, and is compiled. -/
def Request.IsRead : Request → Prop
  | .program p isCompiled => p.IsRead ∧ isCompiled = true
  | .require _ | .translate _ _ | .define _ _ _ => True

/-- All that is asked for was read. -/
def Request.AllRead (rs : List Request) : Prop := ∀ r ∈ rs, r.IsRead

namespace Markup

variable {α β : Type} {Q : α → Prop} {R : β → Prop}

/-! ### What is read from a template -/

/-- If there is a result, `Q` holds of it. -/
def Ensures (w : Except Fault α) (Q : α → Prop) : Prop := ∀ x, w = .ok x → Q x

lemma ensures_pure {x : α} (h : Q x) : Ensures (pure x : Except Fault α) Q := by
  rintro y ⟨⟩
  exact h

lemma ensures_error (f : Fault) : Ensures (.error f : Except Fault α) Q := by
  rintro y ⟨⟩

lemma ensures_bind {w : Except Fault α} {g : α → Except Fault β} (hw : Ensures w Q)
    (hg : ∀ x, Q x → Ensures (g x) R) :
    Ensures (w >>= g) R := by
  cases w with
  | error f => exact ensures_error f
  | ok x => exact hg x (hw x rfl)

lemma ensures_map {w : Except Fault α} {f : α → β} (hw : Ensures w Q) (hf : ∀ x, Q x → R (f x)) :
    Ensures (w.map f) R := by
  cases w with
  | error e => exact ensures_error e
  | ok x => exact ensures_pure (hf x (hw x rfl))

lemma ensures_then {w : Except Fault α} {g : α → Except Fault β} (hg : ∀ x, Ensures (g x) R) :
    Ensures (w >>= g) R :=
  ensures_bind (Q := fun _ => True) (fun _ _ => trivial) fun x _ => hg x

lemma ensures_ite {b : Bool} {w v : Except Fault α} (hw : Ensures w Q) (hv : Ensures v Q) :
    Ensures (if b then w else v) Q := by
  cases b
  · exact hv
  · exact hw

lemma ensures_mapM {xs : List α} {f : α → Except Fault β} (h : ∀ x ∈ xs, Ensures (f x) R) :
    Ensures (xs.mapM f) fun ys => ∀ y ∈ ys, R y := by
  induction xs with
  | nil => exact ensures_pure fun y hy => absurd hy List.not_mem_nil
  | cons x xs ih =>
    rw [List.mapM_cons]
    refine ensures_bind (h x List.mem_cons_self) fun y hy => ?_
    refine ensures_bind (ih fun x' hx' => h x' (List.mem_cons_of_mem _ hx')) fun ys hys =>
      ensures_pure ?_
    exact List.forall_mem_cons.2 ⟨hy, hys⟩

lemma ensures_foldlM {xs : List α} {f : β → α → Except Fault β} (h : ∀ b x, R b → Ensures (f b x) R)
    {b : β} (hb : R b) : Ensures (xs.foldlM f b) R := by
  induction xs generalizing b with
  | nil => exact ensures_pure hb
  | cons x xs ih =>
    rw [List.foldlM_cons]
    exact ensures_bind (h b x hb) fun b' hb' => ih hb'

/-! ### Lists -/

lemma allRead_append {rs ss : List Request} :
    Request.AllRead (rs ++ ss) ↔ Request.AllRead rs ∧ Request.AllRead ss := List.forall_mem_append

lemma allRead_program {p : Program} (hp : p.IsRead) {rs : List Request} (h : Request.AllRead rs) :
    Request.AllRead (.program p true :: rs) := List.forall_mem_cons.2 ⟨⟨hp, rfl⟩, h⟩

lemma allRead_flatMap {xs : List α} {f : α → List Request} :
    Request.AllRead (xs.flatMap f) ↔ ∀ x ∈ xs, Request.AllRead (f x) := by
  simp only [Request.AllRead, List.mem_flatMap, forall_exists_index, and_imp]
  exact ⟨fun h x hx r hr => h r x hx hr, fun h r x hx hr => h x hx r hr⟩

/-! ### Reading -/

/-- The expression of a content was read. -/
def ContentRead (c : Segment.Content) : Prop := ∀ source p, c = .expression source p → p.IsRead

lemma ensures_ofPiece {o : Segment.Options} (ho : o.parse = Program.parse) (piece : Region.Piece) :
    Ensures (Segment.Content.ofPiece o piece) ContentRead := by
  cases piece with
  | plain cs => exact ensures_pure nofun
  | unclosed region rest => exact ensures_error _
  | closed region inside =>
    cases region with
    | translation =>
      refine ensures_pure ?_
      rintro source p hp
      rw [Segment.Content.ofTranslation] at hp
      split at hp <;> cases hp
    | expression =>
      rw [Segment.Content.ofPiece, Segment.Content.ofExpression, ho]
      split
      · exact ensures_error _
      · split
        · next p hp =>
          refine ensures_pure ?_
          rintro source q ⟨⟩
          exact ⟨_, hp⟩
        · exact ensures_error _

lemma contentRead_settle (o : Segment.Options) {cs : List Segment.Content}
    (h : ∀ c ∈ cs, ContentRead c) :
    ∀ c ∈ Segment.settle o cs, ContentRead c := by
  unfold Segment.settle
  split
  · intro c hc
    obtain rfl := List.mem_singleton.1 hc
    exact nofun
  · split
    · intro c hc source p hp
      subst hp
      simp only [Segment.promote, List.mem_append, List.mem_singleton] at hc
      rcases hc with (hc | hc) | hc
      · split at hc <;> simp at hc
      · cases hc
      · split at hc <;> simp at hc
    · exact h
  · exact h

/-- The expressions of a text are read. -/
lemma ensures_split {o : Segment.Options} (ho : o.parse = Program.parse) (raw : String) :
    Ensures (Segment.split o raw) fun ss => Request.AllRead (textRequests ss) := by
  rw [Segment.split]
  refine ensures_bind (ensures_mapM fun piece _ => ensures_ofPiece ho piece) fun cs hcs => ?_
  refine ensures_then fun _ => ensures_pure (allRead_flatMap.2 fun s hs => ?_)
  obtain ⟨⟨c, i⟩, hc, rfl⟩ := List.mem_map.1 hs
  have hread : ContentRead c := contentRead_settle o hcs c (List.fst_mem_of_mem_zipIdx hc)
  cases c with
  | text value source => exact nofun
  | expression source p => exact allRead_program (hread source p rfl) nofun
  | translation text context _ _ => exact List.forall_mem_singleton.2 trivial

lemma ensures_program (a : TagAttr) : Ensures a.program Program.IsRead := by
  rw [TagAttr.program]
  split
  · exact ensures_error _
  · split
    · next p hp => exact ensures_pure ⟨_, hp⟩
    · exact ensures_error _

/-- An attribute that is a program is a binding or an event. -/
lemma ensures_attr (a : TagAttr) : Ensures a.read fun b => Request.AllRead b.requests := by
  rw [TagAttr.read]
  generalize attrKind a.name = k
  obtain ⟨kind, name⟩ := k
  cases kind <;> simp only [pure_bind]
  · exact ensures_bind (ensures_split rfl a.value) fun ss hss => ensures_pure hss
  · exact ensures_bind (ensures_split rfl a.value) fun ss hss => ensures_pure hss
  · exact ensures_bind (ensures_program a) fun p hp => ensures_pure (allRead_program hp nofun)
  · exact ensures_bind (ensures_program a) fun p hp => ensures_pure (allRead_program hp nofun)

lemma ensures_attrs (as : List TagAttr) : Ensures (as.mapM TagAttr.read) fun bs =>
    Request.AllRead (attrsRequests bs) :=
  fun bs h => allRead_flatMap.2 (ensures_mapM (fun a _ => ensures_attr a) bs h)

/-- The expressions of a typed value are read. -/
lemma ensures_readValue : ∀ (n : Nat) (t : Tag) (key : String),
    Ensures (readValue n t key) fun v => Request.AllRead v.requests
  | 0, _, _ => ensures_error _
  | n + 1, t, key => by
    rw [readValue]
    split
    · refine ensures_then fun texts => ?_
      exact ensures_bind (ensures_split rfl _) fun ss hss => ensures_pure hss
    · split
      · refine ensures_bind (ensures_mapM (R := fun v : TypedValue => Request.AllRead v.requests)
          fun item _ => ?_)
          fun items hitems => ensures_pure ?_
        · rcases item with ⟨child, i⟩
          dsimp only
          split
          · exact ensures_readValue n _ _
          · exact ensures_error _
        · rw [TypedValue.requests, valueRequestsList_eq_flatMap]
          exact allRead_flatMap.2 hitems
      · refine ensures_bind (ensures_mapM (R := fun o : TypedOption =>
          Request.AllRead o.value.requests)
          fun child _ => ?_) fun properties hproperties => ensures_pure ?_
        · split
          · split
            · exact ensures_bind (ensures_readValue n _ _) fun v hv => ensures_pure hv
            · exact ensures_error _
          · exact ensures_error _
        · rw [TypedValue.requests, optionRequestsList_eq_flatMap]
          exact allRead_flatMap.2 hproperties

/-- A branch is added to a condition, and nothing else changes. -/
lemma allRead_addBranch? {b : Branch} (hb : Request.AllRead (Branch.requestsList [b]))
    {ns ms : List Node}
    (h : addBranch? b ns = some ms) (hns : ∀ n ∈ ns, Request.AllRead n.requests) :
    ∀ n ∈ ms, Request.AllRead n.requests := by
  induction ns generalizing ms with
  | nil => cases h
  | cons n ns ih =>
    obtain ⟨hn, hrest⟩ := List.forall_mem_cons.1 hns
    unfold addBranch? at h
    split at h
    · next hnil => cases hnil
    · next hcons =>
      cases hcons
      split at h
      · cases h
      · cases h
        refine List.forall_mem_cons.2 ⟨?_, hrest⟩
        obtain ⟨htest, hn⟩ := List.forall_mem_cons.1 hn
        obtain ⟨hchildren, hothers⟩ := allRead_append.1 hn
        refine List.forall_mem_cons.2 ⟨htest, allRead_append.2 ⟨hchildren, ?_⟩⟩
        rw [branchRequestsList_append]
        exact allRead_append.2 ⟨hothers, hb⟩
    · next hcons =>
      cases hcons
      obtain ⟨ms', hms', rfl⟩ := Option.map_eq_some_iff.1 h
      exact List.forall_mem_cons.2 ⟨hn, ih hms' hrest⟩

/-- The body of a component asks for what was read. -/
structure ComponentBody.IsRead (b : ComponentBody) : Prop where
  options : Request.AllRead (TypedOption.requestsList b.options)
  contents : Request.AllRead (Content.requestsList b.contents)

lemma ensures_clause (a : TagAttr) (cs : List Char) :
    Ensures (a.clause cs) fun clause => Request.AllRead (clauseRequests clause) := by
  rw [TagAttr.clause]
  split
  · exact ensures_pure nofun
  · exact ensures_map (ensures_program _) fun p hp => allRead_program hp nofun

/-- The expressions of a header are read, so those of the loop are if those in it are. -/
lemma ensures_loopHeader (t : Tag) : Ensures t.loopHeader fun header =>
    ∀ ns, Request.AllRead (Node.requestsList ns) →
    ∀ info, Request.AllRead (header.node info ns).requests := by
  rw [Tag.loopHeader]
  refine ensures_then fun data => ?_
  dsimp only
  split
  · refine ensures_bind (ensures_program _) fun p hp => ensures_pure fun ns hns info => ?_
    exact allRead_program hp hns
  · split
    · refine ensures_bind (ensures_clause data _) fun init hinit => ?_
      refine ensures_bind (ensures_clause data _) fun test htest => ?_
      refine ensures_bind (ensures_clause data _) fun update hupdate => ?_
      split
      · exact ensures_error _
      · refine ensures_pure fun ns hns info => allRead_append.2 ⟨hinit, ?_⟩
        exact allRead_append.2 ⟨htest, allRead_append.2 ⟨hupdate, hns⟩⟩
    · exact ensures_error _

mutual
lemma ensures_readList (o : ReadOptions) : ∀ (n : Nat) (tags : List Tag) (stem : String),
    Ensures (readList o n tags stem) fun ns => Request.AllRead (Node.requestsList ns)
  | 0, _, _ => ensures_error _
  | n + 1, tags, stem => by
    rw [readList]
    refine ensures_bind (Q := fun s : Siblings => ∀ n ∈ s.nodes, Request.AllRead n.requests)
      (ensures_foldlM (fun s item hs => ?_) nofun) fun s hs => ensures_pure ?_
    · rcases item with ⟨t, i⟩
      dsimp only
      refine ensures_ite (ensures_pure hs) (ensures_ite (ensures_ite (ensures_error _) ?_) ?_)
      · refine ensures_bind (ensures_readBranch o n t _) fun b hb => ?_
        split
        · next nodes hnodes => exact ensures_pure (allRead_addBranch? hb hnodes hs)
        · exact ensures_error _
      · refine ensures_bind (ensures_readNode o n t _) fun node hnode => ?_
        exact ensures_pure (List.forall_mem_cons.2 ⟨hnode, hs⟩)
    · rw [requestsList_eq_flatMap]
      exact allRead_flatMap.2 fun n hn => hs n (List.mem_reverse.1 hn)

lemma ensures_readBranch (o : ReadOptions) : ∀ (n : Nat) (t : Tag) (key : String),
    Ensures (readBranch o n t key) fun b => Request.AllRead (Branch.requestsList [b])
  | 0, _, _ => ensures_error _
  | n + 1, t, key => by
    have hrest : ∀ test : Option Program, Request.AllRead (clauseRequests test) → Ensures (do
        let children ← readList o n t.children key
        return Branch.mk ⟨key, t.line, t.column, false, none⟩ test children)
          fun b => Request.AllRead (Branch.requestsList [b]) :=
      fun test htest => ensures_bind (ensures_readList o n _ key) fun children hchildren =>
        ensures_pure (allRead_append.2 ⟨htest, allRead_append.2 ⟨hchildren, nofun⟩⟩)
    rw [readBranch]
    split
    · exact ensures_bind (ensures_program _) fun p hp => hrest (some p) (allRead_program hp nofun)
    · exact hrest none nofun

lemma ensures_readNode (o : ReadOptions) : ∀ (n : Nat) (t : Tag) (key : String),
    Ensures (readNode o n t key) fun m => Request.AllRead m.requests
  | 0, _, _ => ensures_error _
  | n + 1, .text line column value, key => by
    rw [readNode]
    exact ensures_bind (ensures_split rfl value) fun ss hss => ensures_pure hss
  | n + 1, .element line column name attrs children, key => by
    rw [readNode]
    refine ensures_ite ?_
      (ensures_ite ?_ (ensures_ite ?_ (ensures_ite ?_ (ensures_ite (ensures_error _)
      (ensures_ite ?_ ?_)))))
    · refine ensures_then fun data => ensures_bind (ensures_program data) fun test htest => ?_
      refine ensures_bind (ensures_readList o n children key) fun ns hns => ensures_pure ?_
      exact allRead_program htest (allRead_append.2 ⟨hns, nofun⟩)
    · exact ensures_readLoop o n _ key
    · refine ensures_then fun a => ensures_bind (ensures_readList o n children key) fun ns hns =>
        ensures_pure ?_
      exact List.forall_mem_cons.2 ⟨trivial, hns⟩
    · refine ensures_then fun a => ?_
      have hrest : ∀ target : PartialTarget, Request.AllRead target.requests → Ensures (do
          let as ← ((Tag.element line column name attrs children).attrs.filter
            (·.name != "template")).mapM TagAttr.read
          let (options, contents) ← readBody o n (.element line column name attrs children) key
          return Node.partialCall ⟨key, line, column, false, none⟩ target as options contents)
            fun m => Request.AllRead m.requests := fun target htarget =>
        ensures_bind (ensures_attrs _) fun as has => ensures_bind (ensures_readBody o n _ key)
            fun r hr =>
          ensures_pure (allRead_append.2 ⟨htarget, allRead_append.2 ⟨has, hr⟩⟩)
      dsimp only
      refine ensures_ite ?_ (ensures_ite (hrest (.static _) (List.forall_mem_singleton.2 trivial))
        (hrest (.inline _) nofun))
      exact ensures_bind (ensures_program a) fun p hp =>
        hrest (.dynamic p) (allRead_program hp nofun)
    · refine ensures_bind (ensures_attrs attrs) fun as has => ?_
      refine ensures_bind (ensures_readBody o n _ key) fun r hr => ensures_pure ?_
      exact List.forall_mem_cons.2 ⟨trivial, allRead_append.2 ⟨has, hr⟩⟩
    · refine ensures_bind (ensures_attrs attrs) fun as has => ?_
      exact ensures_bind (ensures_readList o n children key) fun ns hns =>
        ensures_pure (allRead_append.2 ⟨has, hns⟩)

lemma ensures_readLoop (o : ReadOptions) : ∀ (n : Nat) (t : Tag) (key : String),
    Ensures (readLoop o n t key) fun m => Request.AllRead m.requests
  | 0, _, _ => ensures_error _
  | n + 1, t, key => by
    rw [readLoop]
    refine ensures_bind (ensures_loopHeader t) fun header hheader => ?_
    exact ensures_bind (ensures_readList o n _ key) fun ns hns => ensures_pure (hheader ns hns _)

lemma ensures_readBody (o : ReadOptions) : ∀ (n : Nat) (t : Tag) (key : String),
    Ensures (readBody o n t key) fun r =>
    Request.AllRead (TypedOption.requestsList r.1 ++ Content.requestsList r.2)
  | 0, _, _ => ensures_error _
  | n + 1, t, key => by
    rw [readBody]
    refine ensures_bind (Q := ComponentBody.IsRead) (ensures_foldlM (fun b child hb =>
      ?_) ⟨nofun, nofun⟩)
      fun b hb => ensures_ite ?_ (ensures_pure (allRead_append.2 ⟨hb.options, hb.contents⟩))
    · refine ensures_ite (ensures_pure ⟨hb.options, hb.contents⟩) ?_
      dsimp only
      split
      · refine ensures_bind (ensures_readValue n _ _) fun v hv => ensures_pure ⟨?_, hb.contents⟩
        rw [optionRequestsList_eq_flatMap, List.flatMap_append, ← optionRequestsList_eq_flatMap]
        exact allRead_append.2 ⟨hb.options, allRead_append.2 ⟨hv, nofun⟩⟩
      · refine ensures_bind (ensures_readList o n _ _) fun ns hns => ensures_pure ⟨hb.options, ?_⟩
        rw [contentRequestsList_append]
        exact allRead_append.2 ⟨hb.contents, allRead_append.2 ⟨hns, nofun⟩⟩
    · refine ensures_bind (ensures_readList o n _ _) fun ns hns =>
        ensures_pure (allRead_append.2 ⟨hb.options, ?_⟩)
      rw [contentRequestsList_append]
      exact allRead_append.2 ⟨hb.contents, allRead_append.2 ⟨hns, nofun⟩⟩
end

/-- What holds of all siblings that are read holds of a template. -/
lemma ensures_read {Q : List Node → Prop} {o : ReadOptions}
    (h : ∀ n tags, Ensures (readList o n tags "") Q)
    (source : String) : Ensures (read o source) Q := by
  have hnodes : Ensures (do
      let tags ← (mask source).tags
      readList o (4 * (mask source).text.length + 8) tags "") Q := ensures_then fun tags => h _ tags
  intro ns hns
  rw [read] at hns
  cases hrun : (do
      let tags ← (mask source).tags
      readList o (4 * (mask source).text.length + 8) tags "") with
  | error f =>
    rw [hrun] at hns
    cases hns
  | ok ms =>
    rw [hrun] at hns
    cases hns
    exact hnodes _ hrun

/-- **What a template asks for.** All programs that a template asks for when it was read were read
from texts, and are compiled. -/
theorem requests_read {o : ReadOptions} {source : String} {ns : List Node}
    (h : read o source = .ok ns) :
    Request.AllRead (Node.requestsList ns) :=
  ensures_read (fun n tags => ensures_readList o n tags "") source ns h

/-- All expressions of a template that was read were read from texts. -/
lemma allOf_read {o : ReadOptions} {source : String} {ns : List Node} (h : read o source = .ok ns) :
    Node.AllOf Program.IsRead ns := by
  refine allOf_requests.2 fun r hr => ?_
  have hread := requests_read h r hr
  cases r with
  | program p isCompiled => exact hread.1
  | _ => trivial

end Markup

/-! ### What is stored -/

/-- A property of programs that the paths which a program reads inherit, and what its bindings write
to. -/
structure Program.Inherited (P : Program → Prop) : Prop where
  path {p q : Program} {path : String} : P p → path ∈ p.paths → Program.parse path = .ok q → P q
  bind {p q : Program} {ps : List Program} : P p → p.bindPrograms = .ok ps → q ∈ ps → P q

/-- To be read from some text is inherited by whatever is read. -/
lemma Program.inherited_isRead : Program.Inherited Program.IsRead where
  path _ _ hq := ⟨_, hq⟩
  bind _ h hq := Program.isRead_of_bindPrograms h _ hq

namespace Container

/-- A program with property `P`, under its own text. -/
def Stored.Bears (P : Program → Prop) (s : Stored) : Prop := s.text = s.program.text ∧ P s.program

variable {P : Program → Prop} {t : Table} {p : Program}

lemma Table.bears_intern (ht : ∀ s ∈ t.stored, s.Bears P) (hp : P p) :
    (t.intern p).1.Bears P ∧ ∀ s ∈ (t.intern p).2.stored, s.Bears P := by
  unfold Table.intern
  split
  · next s hs => exact ⟨ht s (Table.mem_of_find? hs).1, ht⟩
  · refine ⟨⟨rfl, hp⟩, fun s hs => ?_⟩
    rcases List.mem_append.1 hs with hs | hs
    · exact ht s hs
    · rw [List.mem_singleton.1 hs]
      exact ⟨rfl, hp⟩

end Container

namespace Arena

open Container

variable {P : Program → Prop} {a : Arena}

/-- All programs that an arena keeps satisfy `P`: those of its table, and those that its containers
watch. -/
structure Bears (P : Program → Prop) (a : Arena) : Prop where
  table : ∀ s ∈ a.table.stored, s.Bears P
  programs {id : Nat} {c : Container} : a.get? id = some c → ∀ e ∈ c.programs, e.stored.Bears P

lemma Bears.update {f : Container → Container} (ha : a.Bears P) (id : Nat)
    (hf : ∀ c : Container, (∀ e ∈ c.programs, e.stored.Bears P) → ∀ e ∈ (f c).programs,
    e.stored.Bears P) :
    (a.update id f).Bears P := by
  refine ⟨ha.table, fun {id' c} hc => ?_⟩
  rw [get?_update] at hc
  split at hc
  · obtain ⟨c', hc', rfl⟩ := Option.map_eq_some_iff.1 hc
    exact hf c' (ha.programs hc')
  · exact ha.programs hc

/-- Arenas go on keeping programs with an inherited property. -/
def bearsDrift (hP : Program.Inherited P) : Drift where
  Fit := Bears P
  Fine := P
  Known _ s := s.Bears P
  Becomes _ _ := True
  refl _ := trivial
  trans _ _ := trivial
  known_of_becomes _ hs := hs
  fine_of_path hs hpath hq := hP.path hs.2 hpath hq
  fine_of_bind hs hps hq := hP.bind hs.2 hps hq
  known_of_find? ha h := ha.table _ (Table.mem_of_find? h).1
  known_entry ha hc := ha.programs hc
  intern ha hp := ⟨⟨(Table.bears_intern ha.table hp).2, ha.programs⟩, trivial,
    (Table.bears_intern ha.table hp).1⟩
  accept id ha he := by
    refine ⟨ha.update id fun c hc d hd => ?_, trivial⟩
    obtain h | ⟨d', hd', h⟩ := stored_acceptEntry hd
    · rwa [h]
    · rw [h]
      exact hc d' hd'

variable {hP : Program.Inherited P}

lemma allows_addReactive_bears (name : String) : (bearsDrift hP).Allows (·.addReactive name) :=
  fun _ id ha => ⟨ha.update id fun c hc => by rwa [programs_addReactive], trivial⟩

lemma allows_isolate_bears (names : List String) : (bearsDrift hP).Allows (·.isolate names) :=
  fun _ id ha => ⟨ha.update id fun c hc => by rwa [programs_isolate], trivial⟩

lemma Bears.spawn (ha : a.Bears P) (parent : Nat) (kind : Kind) (name : String) :
    (a.spawn parent kind name).2.Bears P := by
  have hupdate := ha.update (f := fun c => { c with children := c.children ++ [a.containers.size] })
    parent
    fun _ h => h
  refine ⟨ha.table, fun {id c} hc => ?_⟩
  obtain hc | ⟨rfl, rfl⟩ := get?_push hc
  · exact hupdate.programs hc
  · exact fun e he => absurd he List.not_mem_nil

/-- A call that registers nothing keeps what all programs have in common. -/
lemma Bears.quiet (hP : Program.Inherited P) (ha : a.Bears P) {c : Call} (hc : c.IsQuiet) :
    (c.work.on a).2.Bears P := by
  have hknown : ∀ s ∈ ([] : List Stored), (bearsDrift hP).Known a s := List.forall_mem_nil _
  cases c with
  | spawn parent kind name => exact ha.spawn parent kind name
  | isolate at_ names =>
    have hmoves : Work.Moves (bearsDrift hP) [] (Work.update at_ (·.isolate names)) fun _ => [] :=
      Work.moves_update fun _ _ => allows_isolate_bears names
    exact (hmoves a ha hknown).1
  | attach at_ template options =>
    have hmoves : Work.Moves (bearsDrift hP) [] (Work.attach at_ template options) fun _ => [] :=
      Work.moves_attach at_ template options allows_addReactive_bears fun names names' b id hb =>
        ⟨hb.update id fun c hc => by rwa [programs_isolate, programs_isolate], trivial⟩
    exact (hmoves a ha hknown).1
  | _ => exact hc.elim

end Arena

namespace Annotated

open Markup Container

variable {α : Type} {module : String} {a b : Annotated α} {P : Program → Prop}
  {rs rs' : List Request}

/-- A step stores programs with a property if it goes through such programs. -/
lemma Step.bears (hP : Program.Inherited P) (h : Step module a rs rs' b) (hrs : ∀ r ∈ rs, r.All P)
    (ha : a.arena.Bears P) : b.arena.Bears P := by
  cases h with
  | call hc h =>
    have hquiet := ha.quiet hP hc
    rwa [h] at hquiet
  | note harena _ => rwa [harena]
  | ask => exact ha
  | program p q isCompiled c role hq hmanifest h =>
    have hp : P p := hrs (.program p isCompiled) (List.mem_singleton_self _)
    obtain ⟨hs, ht⟩ := Table.bears_intern ha.table hp
    subst hq
    have hmoves : Work.Moves (Arena.bearsDrift hP) [] (Work.register c _ role) fun _ => [] :=
      Work.moves_register hs.2 c role Arena.allows_addReactive_bears fun _ _ s _ _ =>
        Arena.allows_isolate_bears _
    have hb : { a.arena with table := (a.arena.table.intern p).2 }.Bears P := ⟨ht, ha.programs⟩
    have hregister := (hmoves _ hb (List.forall_mem_nil _)).1
    rwa [h] at hregister

/-- **The programs of a table.** If all expressions of a template have a property that is inherited,
so have all programs that annotating it stores. -/
theorem stored_ofNodes {ns : List Markup.Node} (h : ofNodes module ns = .ok a)
    (hP : Program.Inherited P)
    (hns : Node.AllOf P ns) : ∀ s ∈ a.arena.table.stored, s.text = s.program.text ∧
    P s.program := by
  have hstart : Arena.start.Bears P := by
    refine ⟨fun s hs => absurd hs List.not_mem_nil, fun hc e he => ?_⟩
    rw [(Arena.get?_start hc).2] at he
    cases he
  have hbears := (steps_ofNodes h).keep (P := fun a => a.arena.Bears P) (Step.bears hP)
    (allOf_requests.1 hns) hstart
  exact hbears.table

/-- If the expressions of a template were read from texts, so were all programs of the table that
annotating it makes. -/
theorem sound_ofNodes {ns : List Markup.Node} (h : ofNodes module ns = .ok a)
    (hns : Node.AllOf Program.IsRead ns) : a.arena.table.Sound := fun s hs =>
  have hs' := stored_ofNodes h Program.inherited_isRead hns s hs
  ⟨hs'.1, hs'.2⟩

end Annotated

end Trellis
