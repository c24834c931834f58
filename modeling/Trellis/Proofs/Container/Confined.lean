/-
Isolated identifiers never bubble.

A container that isolates an identifier of a program lets only those of its paths go on that begin
elsewhere.  What arrives at a container further up has therefore no identifier that a container on
the way isolates (`Arena.Reaches`).  `Work.Places` says of work on an arena where it adds entries;
hoisting is shown to keep to `Arena.Reaches` step by step, and the program of a loop, which isolates
its names halfway, is placed at the loop only.
-/
import Trellis.Proofs.Container.Hoist

namespace Trellis

open Container

/-- The containers on the way up from a container, to the nearest template or the root. -/
inductive Arena.Above (a : Arena) : Nat → Nat → Prop
  | here {id : Nat} {c : Container} (h : a.get? id = some c) : a.Above id id
  | up {id parent top : Nat} {c : Container} (h : a.get? id = some c) (hkind : c.kind ≠ .template)
      (hparent : c.parent = some parent) (hup : a.Above parent top) : a.Above id top

/-- A program may come from one container up to another: there is a way, and no container before its
end isolates an identifier of the program. -/
structure Arena.Reaches (a : Arena) (id top : Nat) (s : Stored) : Prop where
  above : a.Above id top
  sees : ∀ x ∈ s.program.identifiers, a.Sees x id top

/-- An entry that a container of `b` has and that this container does not have in `a`. -/
def Arena.Added (a b : Arena) (id : Nat) (e : Entry) : Prop :=
  (∃ c, b.get? id = some c ∧ e ∈ c.programs) ∧ ∀ c, a.get? id = some c → e ∉ c.programs

namespace Arena

variable {a b : Arena} {x : String} {id parent top : Nat} {c : Container} {s s' : Stored}

lemma Above.exists_top (h : a.Above id top) : ∃ c, a.get? top = some c := by
  induction h with
  | here hget => exact ⟨_, hget⟩
  | up _ _ _ _ ih => exact ih

/-- One step more at the end of the way. -/
lemma Above.snoc (h : a.Above id top) (hc : a.get? top = some c) (hkind : c.kind ≠ .template)
    (hparent : c.parent = some parent) (hd : ∃ d, a.get? parent = some d) : a.Above id parent := by
  induction h with
  | here => exact .up hc hkind hparent (.here hd.choose_spec)
  | up hget hkind' hparent' _ ih => exact .up hget hkind' hparent' (ih hc)

lemma Sees.snoc (h : a.Sees x id top) (hc : a.get? top = some c) (hkind : c.kind ≠ .template)
    (hx : x ∉ c.isolated) (hparent : c.parent = some parent) (hd : ∃ d, a.get? parent = some d) :
    a.Sees x id parent := by
  induction h with
  | here => exact .up hc hkind hx hparent (.here hd.choose_spec)
  | up hget hkind' hx' hparent' _ ih => exact .up hget hkind' hx' hparent' (ih hc)

lemma Grows.above {names : List String} (h : Grows names a b) (hup : a.Above id top) :
    b.Above id top := by
  induction hup with
  | here hget =>
    obtain ⟨c', hget', -⟩ := h _ _ hget
    exact .here hget'
  | up hget hkind hparent _ ih =>
    obtain ⟨c', hget', hgrows⟩ := h _ _ hget
    exact .up hget' (hgrows.kind_eq ▸ hkind) (hgrows.parent_eq ▸ hparent) ih

lemma Reaches.here (h : a.get? id = some c) : a.Reaches id id s := ⟨.here h, fun _ _ => .here h⟩

lemma Grows.reaches (h : Grows [] a b) (hs : a.Reaches id top s) : b.Reaches id top s :=
  ⟨h.above hs.above, fun x hx => h.sees (hs.sees x hx)⟩

/-- Programs with one text come to the same containers. -/
lemma Reaches.of_text (h : a.Reaches id top s) (hs : s.Sound) (hs' : s'.Sound)
    (htext : s'.text = s.text) : a.Reaches id top s' :=
  ⟨h.above, fun x hx => h.sees x ((hs'.mem_identifiers hs htext).1 hx)⟩

/-- A program, or a part of it, goes on to the container above if it has no isolated name. -/
lemma Reaches.snoc (h : a.Reaches id top s) (hc : a.get? top = some c) (hkind : c.kind ≠ .template)
    (hparent : c.parent = some parent) (hd : ∃ d, a.get? parent = some d)
    (hnames : ∀ x ∈ s'.program.identifiers, x ∈ s.program.identifiers ∧ x ∉ c.isolated) :
    a.Reaches id parent s' := by
  refine ⟨h.above.snoc hc hkind hparent hd, fun x hx => ?_⟩
  obtain ⟨hx, hisolated⟩ := hnames x hx
  exact (h.sees x hx).snoc hc hkind hisolated hparent hd

lemma not_added_of_programs {e : Entry}
    (h : ∀ c, b.get? id = some c → ∃ c', a.get? id = some c' ∧ c.programs = c'.programs) :
    ¬ a.Added b id e := by
  rintro ⟨⟨c, hc, he⟩, hnew⟩
  obtain ⟨c', hc', hprograms⟩ := h c hc
  exact hnew c' hc' (hprograms ▸ he)

/-- What is added in two steps is added in one of them. -/
lemma Added.of_trans {m : Arena} {e : Entry} (h : a.Added b id e) : a.Added m id e ∨
    m.Added b id e := by
  by_cases hm : ∃ c, m.get? id = some c ∧ e ∈ c.programs
  · exact .inl ⟨hm, h.2⟩
  · exact .inr ⟨h.1, fun c hc he => hm ⟨c, hc, he⟩⟩

end Arena

namespace Container

variable {d e : Entry} {es : List Entry}

/-- What registering an entry leaves in a container was there or has the text of the entry. -/
lemma mem_acceptEntry (h : d ∈ acceptEntry e es) :
    d ∈ es ∨ d.stored = e.stored ∨ d.stored.text = e.stored.text ∧
    ∃ d' ∈ es, d.stored = d'.stored := by
  fun_induction acceptEntry e es with
  | case1 => exact .inr (.inl (by rw [List.mem_singleton.1 h]))
  | case2 d' es hsame =>
    rcases List.mem_cons.1 h with rfl | h
    · refine .inr (.inr ⟨?_, d', List.mem_cons_self, Entry.stored_revive d' e⟩)
      rw [Entry.stored_revive]
      simp only [Entry.same, Bool.and_eq_true, beq_iff_eq] at hsame
      exact hsame.1
    · exact .inl (List.mem_cons_of_mem _ h)
  | case3 d' es hsame ih =>
    rcases List.mem_cons.1 h with rfl | h
    · exact .inl List.mem_cons_self
    · obtain h | h | ⟨htext, d'', hd'', h⟩ := ih h
      · exact .inl (List.mem_cons_of_mem _ h)
      · exact .inr (.inl h)
      · exact .inr (.inr ⟨htext, d'', List.mem_cons_of_mem _ hd'', h⟩)

namespace Work

variable {α β : Type} {a₀ : Arena} {id top : Nat} {s : Stored}
  {names : List String} {P : Nat → Stored → Prop} {Q : α → Prop}

/-! ### Where work adds entries -/

/-- On a sound arena that has grown from `a₀`, work adds only entries that satisfy `P` where they
stand. -/
def Places (names : List String) (a₀ : Arena) (P : Nat → Stored → Prop) (w : Work α) : Prop :=
  ∀ a : Arena, a.Sound → Arena.Grows names a₀ a →
    ∀ top e, a.Added (w.on a).2 top e → P top e.stored

/-- Work that leaves the programs of all containers as they are. -/
lemma places_of_programs {w : Work α} (h : ∀ (a : Arena) (id : Nat) (c : Container),
      (w.on a).2.get? id = some c → ∃ c', a.get? id = some c' ∧ c.programs = c'.programs) :
    Places names a₀ P w :=
  fun a _ _ _ _ hadded => (Arena.not_added_of_programs (h a _) hadded).elim

lemma places_pure (x : α) : Places names a₀ P (pure x : Work α) :=
  places_of_programs fun _ _ c hc => ⟨c, hc, rfl⟩

lemma places_throw (f : Fault) : Places names a₀ P (throw f : Work α) :=
  places_of_programs fun _ _ c hc => ⟨c, hc, rfl⟩

lemma places_bind {w : Work α} {g : α → Work β} (hkeeps : Keeps names w Q)
    (hw : Places names a₀ P w) (hg : ∀ x, Q x → Places names a₀ P (g x)) :
    Places names a₀ P (w >>= g) := by
  intro a ha hgrows top e hadded
  obtain ⟨hb, hgrows', hresult⟩ := hkeeps a ha
  have hplaces := hw a ha hgrows top e
  rcases hrun : w.on a with ⟨r, b⟩
  rw [hrun] at hb hgrows' hresult hplaces
  cases r with
  | error f =>
    rw [on_bind_error hrun] at hadded
    exact hplaces hadded
  | ok x =>
    rw [on_bind hrun] at hadded
    obtain h | h := hadded.of_trans (m := b)
    · exact hplaces h
    · exact hg x (hresult x rfl) b hb (hgrows.trans hgrows') top e h

/-- A loop whose steps all go on to the next one. -/
lemma places_forIn {xs : List β} {f : β → PUnit → Work (ForInStep PUnit)}
    (hkeeps : ∀ x ∈ xs, Keeps names (f x ⟨⟩) fun r => r = .yield ⟨⟩)
    (h : ∀ x ∈ xs, Places names a₀ P (f x ⟨⟩)) : Places names a₀ P (forIn xs PUnit.unit f) := by
  induction xs with
  | nil => exact places_pure _
  | cons x xs ih =>
    rw [List.forIn_cons]
    refine places_bind (hkeeps x List.mem_cons_self) (h x List.mem_cons_self) ?_
    rintro _ rfl
    exact ih (fun y hy => hkeeps y (List.mem_cons_of_mem _ hy)) fun y hy =>
      h y (List.mem_cons_of_mem _ hy)

lemma places_forM {xs : List β} {f : β → Work Unit}
    (hkeeps : ∀ x ∈ xs, Keeps names (f x) fun _ => True) (h : ∀ x ∈ xs, Places names a₀ P (f x)) :
    Places names a₀ P (xs.forM f) := by
  rw [forM_eq_forIn]
  exact places_forIn (fun x hx => keeps_bind (hkeeps x hx) fun _ _ => keeps_pure rfl)
    fun x hx => places_bind (hkeeps x hx) (h x hx) fun _ _ => places_pure _

/-- A step on a container that has grown from one of `a₀`. -/
lemma places_container {c₀ : Container} {g : Container → Work α} (hc₀ : a₀.get? id = some c₀)
    (hg : ∀ c, Container.Grows names c₀ c → Places names a₀ P (g c)) :
    Places names a₀ P (container id >>= g) := by
  intro a ha hgrows top e hadded
  obtain ⟨c, hc, hgrows'⟩ := hgrows id c₀ hc₀
  have hrun : (container id).on a = (.ok c, a) := by rw [on_container, hc]; rfl
  rw [on_bind hrun] at hadded
  exact hg c hgrows' a ha hgrows top e hadded

/-! ### Steps -/

lemma places_update {f : Container → Container} (h : ∀ c, (f c).programs = c.programs) :
    Places names a₀ P (update id f) := by
  refine places_of_programs fun a id' c hc => ?_
  rw [on_update, Arena.get?_update] at hc
  split at hc
  · obtain ⟨c', hc', rfl⟩ := Option.map_eq_some_iff.1 hc
    exact ⟨c', hc', h c'⟩
  · exact ⟨c, hc, rfl⟩

lemma places_intern (p : Program) : Places names a₀ P (intern p) :=
  places_of_programs fun _ _ c hc => ⟨c, hc, rfl⟩

lemma places_parse (text : String) : Places names a₀ P (parse text) := by
  refine places_of_programs fun a id c hc => ?_
  cases h : a.table.parse text with
  | error f =>
    rw [on_parse_error h] at hc
    exact ⟨c, hc, rfl⟩
  | ok r =>
    rw [on_parse h] at hc
    exact ⟨c, hc, rfl⟩

/-- Registering an entry adds it, or lets one of the same text count. -/
lemma places_accept {e : Entry} (hP : P id e.stored)
    (htext : ∀ s, s.Sound → s.text = e.stored.text → P id s) :
    Places names a₀ P (update id (·.accept e)) := by
  rintro a ha - top d ⟨⟨c, hc, hd⟩, hnew⟩
  rw [on_update, Arena.get?_update] at hc
  split at hc
  · next hid =>
    subst hid
    obtain ⟨c', hc', rfl⟩ := Option.map_eq_some_iff.1 hc
    obtain hd | hd | ⟨hd, d', hd', hstored⟩ := mem_acceptEntry hd
    · exact absurd hd (hnew c' hc')
    · rwa [hd]
    · exact htext _ (hstored ▸ ha.programs hc' d' hd') hd
  · exact absurd hd (hnew c hc)

/-! ### Hoisting -/

lemma places_hoistName (name : String) (n id : Nat) : Places names a₀ P (hoistName name n id) := by
  induction n generalizing id with
  | zero => exact places_pure _
  | succ n ih =>
    rw [hoistName]
    split
    · exact places_pure _
    refine places_bind (keeps_container id) (places_of_programs fun _ _ c hc => ⟨c, hc, rfl⟩)
      fun c _ => ?_
    split
    · exact places_pure _
    split
    · exact places_update (programs_addReactive · name)
    split
    · exact ih _
    · exact places_pure _

lemma places_hoistNames (id : Nat) (hoisted : List String) :
    Places names a₀ P (hoistNames id hoisted) :=
  places_forM (fun name _ => keeps_hoistName name (id + 1) id) fun name _ =>
    places_hoistName name (id + 1) id

/-- The program that is kept under the text of a path is this path. -/
lemma keeps_parse_path {root text : String} (h : IsPathText root text) :
    Keeps names (parse text) fun piece => piece.Sound ∧ piece.text = text := by
  intro a ha
  obtain ⟨piece, t, hparse, htext⟩ := a.table.parse_path h
  have hkeeps : Keeps names (parse text) Stored.Sound := keeps_parse text
  obtain ⟨hsound, hgrows, hresult⟩ := hkeeps a ha
  refine ⟨hsound, hgrows, fun y hy => ⟨hresult y hy, ?_⟩⟩
  rw [on_parse hparse] at hy
  cases hy
  exact htext

/-- What is kept of the paths of a program has only names of the program, and none in `skip`. -/
lemma keeps_pieces_free (hs : s.Sound) (skip : List String) :
    Keeps names (pieces s skip) fun parts => ∀ q ∈ parts,
      q.Sound ∧ ∀ x ∈ q.program.identifiers, x ∈ s.program.identifiers ∧ x ∉ skip := by
  rw [pieces_eq]
  refine keeps_bind (Q := fun found => ∀ r ∈ found, ∀ q, r = some q →
      q.Sound ∧ ∀ x ∈ q.program.identifiers, x ∈ s.program.identifiers ∧ x ∉ skip)
    (keeps_mapM fun path hpath => ?_) fun found hfound => ?_
  · obtain ⟨root, hroot, htext⟩ := hs.isRead.exists_root hpath
    refine keeps_bind (keeps_parse_path htext) fun piece ⟨hpiece, hpieceText⟩ => ?_
    obtain ⟨hnames, steps, hsteps⟩ := hpiece.of_path (hpieceText ▸ htext)
    rw [hsteps]
    refine keeps_pure fun q hq => ?_
    split at hq
    · cases hq
    · next hskip =>
      obtain rfl := Option.some.inj hq
      refine ⟨hpiece, fun x hx => ?_⟩
      obtain rfl := (hnames x).1 hx
      exact ⟨hroot, fun hx => hskip (by simp [hx])⟩
  · refine keeps_pure fun q hq => ?_
    obtain ⟨r, hr, rfl⟩ := List.mem_filterMap.1 hq
    exact hfound _ hr q rfl

lemma places_found? (skip : List String) (path : String) :
    Places names a₀ P (found? skip path) := by
  refine places_bind (keeps_parse path) (places_parse path) fun piece _ => ?_
  split
  · exact places_pure _
  · exact places_pure _

lemma keeps_found? (skip : List String) (path : String) :
    Keeps names (found? skip path) fun _ => True := by
  refine keeps_bind (keeps_parse path) fun piece _ => ?_
  split
  · exact keeps_pure trivial
  · exact keeps_pure trivial

lemma places_mapM {xs : List α} {f : α → Work β}
    (hkeeps : ∀ x ∈ xs, Keeps names (f x) fun _ => True) (h : ∀ x ∈ xs, Places names a₀ P (f x)) :
    Places names a₀ P (xs.mapM f) := by
  induction xs with
  | nil => exact places_pure _
  | cons x xs ih =>
    have hkeeps' : ∀ y ∈ xs, Keeps names (f y) fun _ => True := fun y hy =>
      hkeeps y (List.mem_cons_of_mem _ hy)
    rw [List.mapM_cons]
    refine places_bind (hkeeps x List.mem_cons_self) (h x List.mem_cons_self) fun _ _ => ?_
    refine places_bind (keeps_mapM hkeeps') (ih hkeeps' fun y hy => h y (List.mem_cons_of_mem _ hy))
      fun _ _ => ?_
    exact places_pure _

lemma places_pieces (s : Stored) (skip : List String) : Places names a₀ P (pieces s skip) := by
  rw [pieces_eq]
  refine places_bind (keeps_mapM fun path _ => keeps_found? skip path)
    (places_mapM (fun path _ => keeps_found? skip path) fun path _ => places_found? skip path)
    fun _ _ => ?_
  exact places_pure _

lemma refersTo_eq_false {c : Container} (h : (Node.program s.program).refersTo c.isolated = false)
    {x : String} (hx : x ∈ s.program.identifiers) : x ∉ c.isolated := by
  intro hisolated
  have hx' : x ∈ (Node.program s.program).postOrder.filterMap Node.ident? :=
    Text.mem_dedup.1 hx
  obtain ⟨n, hn, hname⟩ := List.mem_filterMap.1 hx'
  have hany := List.any_eq_false.1 h n hn
  rw [hname] at hany
  exact hany (by simpa using hisolated)

/-- Hoisting adds entries only where their programs may come to. -/
lemma places_hoist {n : Nat} {e : Entry} (ha₀ : a₀.Sound) (he : e.stored.Sound)
    (hreach : a₀.Reaches id top e.stored) :
    Places [] a₀ (a₀.Reaches id) (hoist n top e) := by
  induction n generalizing top e with
  | zero => exact places_pure _
  | succ n ih =>
    have hdeliver : ∀ {parent : Nat} {d : Entry}, d.stored.Sound →
        a₀.Reaches id parent d.stored → Places [] a₀ (a₀.Reaches id) (deliver n parent d) := by
      intro parent d hd hparent
      refine places_bind (keeps_accept hd) (places_accept hparent fun s hs htext => ?_)
        fun _ _ => ih hd hparent
      exact hparent.of_text hd hs htext
    obtain ⟨c₀, hc₀⟩ := hreach.above.exists_top
    rw [hoist_succ]
    refine places_container hc₀ fun c hgrows => ?_
    split
    · exact places_pure _
    next hboundary =>
    cases hparent : c.parent with
    | none => exact places_pure _
    | some parent =>
      -- the container above, seen from the arena at the start
      have hparent₀ : c₀.parent = some parent := by rw [← hgrows.parent_eq, hparent]
      have hkind₀ : c₀.kind ≠ .template := by
        rw [← hgrows.kind_eq]
        intro hkind
        simp [isBoundary, hkind] at hboundary
      have hstep : ∀ s' : Stored,
          (∀ x ∈ s'.program.identifiers, x ∈ e.stored.program.identifiers ∧ x ∉ c.isolated) →
          a₀.Reaches id parent s' := by
        intro s' hnames
        refine hreach.snoc hc₀ hkind₀ hparent₀ (ha₀.exists_parent hc₀ hparent₀) fun x hx => ?_
        obtain ⟨hx, hisolated⟩ := hnames x hx
        exact ⟨hx, fun h => hisolated (hgrows.isolated x h)⟩
      simp only
      split
      · refine places_bind (keeps_pieces_free he c.isolated) (places_pieces _ _) fun parts hparts =>
          ?_
        exact places_forM (fun q hq => keeps_deliver (e := e.part q parent) (hparts q hq).1)
          fun q hq => hdeliver (d := e.part q parent) (hparts q hq).1 (hstep q (hparts q hq).2)
      · next hrefers =>
        refine hdeliver (d := e.raised parent) he (hstep _ fun x hx => ⟨hx, ?_⟩)
        exact refersTo_eq_false (Bool.eq_false_iff.2 hrefers) hx

/-- An entry that is placed stands where it is placed and where its program may come to. -/
lemma places_place {e : Entry} (ha₀ : a₀.Sound) (hid : ∃ c, a₀.get? id = some c)
    (he : e.stored.Sound) : Places [] a₀ (a₀.Reaches id) (place id e) := by
  obtain ⟨c, hc⟩ := hid
  exact places_bind (keeps_accept he) (places_accept (.here hc) fun _ _ _ => .here hc) fun _ _ =>
    places_hoist ha₀ he (.here hc)

/-- The program of a loop and its paths are placed at the loop. -/
lemma places_registerIterator {isolated : List String} (h : ∀ x ∈ isolated, x ∈ names) :
    Places names a₀ (fun top _ => top = id) (registerIterator id s isolated) := by
  have haccept : ∀ e : Entry, Places names a₀ (fun top _ => top = id) (update id (·.accept e)) :=
    fun _ => places_accept rfl fun _ _ _ => rfl
  rw [registerIterator]
  refine places_bind (keeps_hoistNames id isolated) (places_hoistNames id isolated) fun _ _ => ?_
  have hreactive : ∀ name ∈ isolated, Keeps names (do
      update id (·.addReactive name)
      return ForInStep.yield PUnit.unit : Work _) fun r => r = .yield ⟨⟩ := fun name _ =>
    keeps_bind (keeps_addReactive name) fun _ _ => keeps_pure rfl
  refine places_bind (keeps_forIn hreactive) (places_forIn hreactive fun name _ => ?_) fun _ _ => ?_
  · exact places_bind (keeps_addReactive name) (places_update (programs_addReactive · name))
      fun _ _ => places_pure _
  refine places_bind (keeps_pieces s []) (places_pieces s []) fun parts hparts => ?_
  refine places_bind (keeps_isolate h) (places_update (programs_isolate · isolated)) fun _ _ => ?_
  have hpart : ∀ piece ∈ parts, Keeps names (do
      update id (·.accept ⟨piece, .iterator, .include_, true, id, id⟩)
      return ForInStep.yield PUnit.unit : Work _) fun r => r = .yield ⟨⟩ := fun piece hpiece =>
    keeps_bind (keeps_accept (hparts piece hpiece)) fun _ _ => keeps_pure rfl
  refine places_bind (keeps_forIn hpart) (places_forIn hpart fun piece hpiece => ?_) fun _ _ =>
    haccept _
  exact places_bind (keeps_accept (hparts piece hpiece)) (haccept _) fun _ _ => places_pure _

/-- Registering in any role but that of a loop. -/
lemma places_register {p : Program} {role : Role} (ha₀ : a₀.Sound)
    (hid : ∃ c, a₀.get? id = some c) (hp : p.IsRead) (hrole : role ≠ .iterator) :
    Places [] a₀ (a₀.Reaches id) (register id p role) := by
  have hplace : ∀ {e : Entry}, e.stored.Sound → Places [] a₀ (a₀.Reaches id) (place id e) :=
    fun he => places_place ha₀ hid he
  have hkeeps : ∀ {e : Entry}, e.stored.Sound → Keeps [] (place id e) fun _ => True :=
    fun he => keeps_deliver he
  refine places_bind (keeps_intern hp) (places_intern p) fun s ⟨hs, htext⟩ => ?_
  have hnames : ∀ {w : Work Unit}, Places [] a₀ (a₀.Reaches id) w →
      Places [] a₀ (a₀.Reaches id) (do hoistNames id s.program.identifiers; w) := fun hw =>
    places_bind (keeps_hoistNames id _) (places_hoistNames id _) fun _ _ => hw
  cases role with
  | scope => exact hnames (hplace hs)
  | bind =>
    refine hnames ?_
    cases h : s.program.bindPrograms with
    | error f => exact places_throw f
    | ok programs =>
      have hread := Program.isRead_of_bindPrograms h
      change Places [] a₀ _ (forIn programs PUnit.unit _ >>= _)
      have hstep : ∀ q ∈ programs, Keeps [] (do
          let t ← intern q
          place id ⟨t, .bind, .include_, false, id, id⟩
          return ForInStep.yield PUnit.unit : Work _) fun r => r = .yield ⟨⟩ := fun q hq =>
        keeps_bind (keeps_intern (hread q hq)) fun t ht =>
          keeps_bind (hkeeps ht.1) fun _ _ => keeps_pure rfl
      refine places_bind (keeps_forIn hstep) (places_forIn hstep fun q hq => ?_) fun _ _ =>
        places_pure _
      refine places_bind (keeps_intern (hread q hq)) (places_intern q) fun t ht => ?_
      exact places_bind (hkeeps ht.1) (hplace ht.1) fun _ _ => places_pure _
  | event => exact places_hoistNames id _
  | iterator => exact absurd rfl hrole
  | unknown code => exact places_throw _
  | _ =>
    simp only
    split
    · exact places_pure _
    · exact hnames (hplace hs)

end Work

end Container

/-- **Isolated identifiers never bubble.**  Whatever registering a program adds to a container of an
arena, in whatever role and also where it fails halfway: the container lies on the way up to the
nearest template or the root, and no container before it on that way isolates an identifier of the
entry.  Isolated names are never taken back, so it does not matter that they are compared when
everything is added. -/
theorem Arena.Reachable.register_added {a b : Arena} {p : Program} {id : Nat} {role : Role}
    (ha : a.Reachable) (hid : id < a.containers.size) (hp : p.IsRead)
    (hb : b = ((Work.register id p role).on a).2) {top : Nat} {e : Entry} (he : a.Added b top e) :
    b.Above id top ∧ ∀ x ∈ e.stored.program.identifiers, b.Sees x id top := by
  subst hb
  have hc : a.get? id = some a.containers[id] := Array.getElem?_eq_getElem hid
  by_cases hrole : role = .iterator
  · subst hrole
    -- names become isolated on the way, but nothing leaves the loop
    have hkeeps : Work.Keeps p.identifiers (Work.register id p .iterator) fun _ => True :=
      Work.keeps_register hp id .iterator fun _ _ hx => hx
    have hplaces : Work.Places p.identifiers a (fun top _ => top = id)
        (Work.register id p .iterator) := by
      refine Work.places_bind (Work.keeps_intern hp) (Work.places_intern p) fun s ⟨hs, htext⟩ => ?_
      refine Work.places_registerIterator fun x hx => ?_
      exact (hs.isRead.mem_identifiers_of_text hp (hs.text_eq.symm.trans htext)).1 hx
    obtain rfl := hplaces a ha.sound (.refl a) top e he
    obtain ⟨c', hc', -⟩ := (hkeeps a ha.sound).2.1 top _ hc
    exact ⟨.here hc', fun _ _ => .here hc'⟩
  · have hkeeps : Work.Keeps [] (Work.register id p role) fun _ => True :=
      Work.keeps_register hp id role fun h => absurd h hrole
    have hreach := Work.places_register ha.sound ⟨_, hc⟩ hp hrole a ha.sound (.refl a) top e he
    have hreach' := (hkeeps a ha.sound).2.1.reaches hreach
    exact ⟨hreach'.above, hreach'.sees⟩

/-- Of an expression in a loop that reads `x` only the other paths come to the root. -/
theorem Arena.loopExample_added : ∃ p b e, Program.parse "f(x.a, y.b)" = .ok p ∧
    b = ((Work.register 1 p .simple).on Arena.loopExample).2 ∧ Arena.loopExample.Added b 0 e ∧
      e.stored.text = "y.b" ∧ ∀ x ∈ e.stored.program.identifiers, b.Sees x 1 0 := by
  have hrun : (Program.parse "f(x.a, y.b)").toOption.map (fun p =>
      (((Work.register 1 p .simple).on Arena.loopExample).2.get? 0).map fun c =>
        c.programs.map (·.stored.text)) = some (some ["f", "y.b"]) := by decide +kernel
  obtain ⟨p, hp, hroot⟩ := eq_ok_of_toOption hrun
  obtain ⟨c, hc, htexts⟩ := Option.map_eq_some_iff.1 hroot
  obtain ⟨e, he, htext⟩ : ∃ e ∈ c.programs, e.stored.text = "y.b" :=
    List.mem_map.1 (htexts ▸ by decide)
  have hadded : Arena.loopExample.Added ((Work.register 1 p .simple).on Arena.loopExample).2 0
      e := by
    refine ⟨⟨c, hc, he⟩, fun c' hc' he' => ?_⟩
    obtain rfl : { id := 0, parent := none, kind := .global, children := [1] } = c' :=
      Option.some.inj hc'
    cases he'
  have hreachable : Arena.loopExample.Reachable :=
    .isolate 1 ["x"] (.spawn .cycle "" .start (by decide))
  have hsees := (hreachable.register_added (by decide) ⟨_, hp⟩ rfl hadded).2
  exact ⟨p, _, e, hp, rfl, hadded, htext, hsees⟩

end Trellis
