/-
Ways of moving an arena.

Registering is made of few steps: programs are stored, entries are accepted, names are recorded and
isolated.  What these keep, all work that is made of them keeps.  An `Arena.Drift` names what is
kept of an arena, what may be registered, and how an arena is related to what it becomes;
`Work.Moves` says that a piece of work goes with a drift, also where it fails.  There is one lemma
for each way of putting work together, and one for each function that registering is made of.

Sound arenas are kept, and they grow (`Arena.soundDrift`).  `Work.Keeps` says so of a piece of work,
together with what is known of its result.
-/
import Mathlib.Tactic.Common
import Trellis.Proofs.Container.Sound

namespace Trellis.Container

/-- A part of an entry, at the container above. -/
def Entry.part (e : Entry) (piece : Stored) (parent : Nat) : Entry :=
  ⟨piece, e.role, .include_, true, e.origin, parent⟩

/-- An entry as a whole, at the container above. -/
def Entry.raised (e : Entry) (parent : Nat) : Entry :=
  { e with
    processing := parent
    operation := if e.operation = .ignore then .include_ else e.operation }

namespace Work

variable {α β : Type} {a b : Arena} {id : Nat} {e : Entry} {s : Stored} {p : Program}

/-- The result of work on an arena, and the arena after it. -/
def on (w : Work α) (a : Arena) : Except Fault α × Arena := (ExceptT.run w).run a

lemma on_bind {w : Work α} {x : α} (h : w.on a = (.ok x, b)) (g : α → Work β) :
    (w >>= g).on a = (g x).on b := by
  change (ExceptT.bindCont g (w.on a).1).run (w.on a).2 = _
  rw [h]
  rfl

lemma on_bind_error {w : Work α} {f : Fault} (h : w.on a = (.error f, b)) (g : α → Work β) :
    (w >>= g).on a = (.error f, b) := by
  change (ExceptT.bindCont g (w.on a).1).run (w.on a).2 = _
  rw [h]
  rfl

lemma on_get (a : Arena) : (get : Work Arena).on a = (.ok a, a) := rfl

lemma on_container (id : Nat) (a : Arena) :
    (container id).on a = (.ok ((a.get? id).getD default), a) := rfl

lemma on_update (id : Nat) (f : Container → Container) (a : Arena) :
    (update id f).on a = (.ok (), a.update id f) := rfl

lemma on_intern (p : Program) (a : Arena) :
    (intern p).on a = (.ok (a.table.intern p).1, { a with table := (a.table.intern p).2 }) := rfl

lemma on_parse {text : String} {t : Table} (h : a.table.parse text = .ok (s, t)) :
    (parse text).on a = (.ok s, { a with table := t }) := by
  rw [parse, on_bind (on_get a), h]
  rfl

lemma on_parse_error {text : String} {f : Fault} (h : a.table.parse text = .error f) :
    (parse text).on a = (.error f, a) := by
  rw [parse, on_bind (on_get a), h]
  rfl

/-! ### Registering -/

/-- A loop whose steps all go on to the next one. -/
lemma forM_eq_forIn (xs : List β) (f : β → Work Unit) :
    xs.forM f = forIn xs PUnit.unit fun x _ => do f x; return ForInStep.yield ⟨⟩ := by
  induction xs with
  | nil => rfl
  | cons x xs ih =>
    rw [List.forIn_cons, bind_assoc]
    exact congrArg (f x >>= ·) (funext fun _ => ih)

/-- Registers an entry in a container and hoists it from there. -/
def deliver (n id : Nat) (e : Entry) : Work Unit := do
  update id (·.accept e)
  hoist n id e

/-- Delivers parts of an entry one after the other. -/
def deliverParts (n parent : Nat) (e : Entry) (parts : List Stored) : Work Unit :=
  parts.forM fun piece => deliver n parent (e.part piece parent)

/-- Hoisting delivers to the container above: the whole entry, or its parts. -/
lemma hoist_succ (n id : Nat) (e : Entry) : hoist (n + 1) id e = (do
    let c ← container id
    if isBoundary c then return
    match c.parent with
    | none => return
    | some parent =>
      if (Node.program e.stored.program).refersTo c.isolated then
        deliverParts n parent e (← pieces e.stored c.isolated)
      else deliver n parent (e.raised parent)) := by
  rw [hoist]
  refine bind_congr fun c => ?_
  split
  · rfl
  · cases c.parent with
    | none => rfl
    | some parent =>
      simp only [deliverParts, deliver, Entry.part, Entry.raised, forM_eq_forIn, bind_assoc,
        bind_pure_unit]

end Work

end Trellis.Container

namespace Trellis

open Container

/-! ### What work keeps -/

/-- A way in which work may move an arena.  The arena is `Fit` all the time; only programs that are
`Fine` are stored, and only stored programs that are `Known` are registered.  The paths that a known
program reads are fine, and so is what a binding of it writes to. -/
structure Arena.Drift where
  Fit : Arena → Prop
  Fine : Program → Prop
  Known : Arena → Stored → Prop
  Becomes : Arena → Arena → Prop
  refl (a : Arena) : Becomes a a
  trans {a b c : Arena} : Becomes a b → Becomes b c → Becomes a c
  known_of_becomes {a b : Arena} {s : Stored} : Becomes a b → Known a s → Known b s
  fine_of_path {a : Arena} {s : Stored} {path : String} {q : Program} : Known a s →
    path ∈ s.program.paths →
    Program.parse path = .ok q → Fine q
  fine_of_bind {a : Arena} {s : Stored} {ps : List Program} {q : Program} : Known a s →
    s.program.bindPrograms = .ok ps → q ∈ ps → Fine q
  known_of_find? {a : Arena} {text : String} {s : Stored} : Fit a → a.table.find? text = some s →
    Known a s
  known_entry {a : Arena} {id : Nat} {c : Container} : Fit a → a.get? id = some c →
    ∀ e ∈ c.programs, Known a e.stored
  intern {a : Arena} {p : Program} : Fit a → Fine p →
    Fit { a with table := (a.table.intern p).2 } ∧
      Becomes a { a with table := (a.table.intern p).2 } ∧
      Known { a with table := (a.table.intern p).2 } (a.table.intern p).1
  accept {a : Arena} {e : Entry} (id : Nat) : Fit a → Known a e.stored →
    Fit (a.update id (·.accept e)) ∧ Becomes a (a.update id (·.accept e))

/-- A change of one container goes with a drift. -/
def Arena.Drift.Allows (d : Arena.Drift) (f : Container → Container) : Prop :=
  ∀ (a : Arena) (id : Nat), d.Fit a → d.Fit (a.update id f) ∧ d.Becomes a (a.update id f)

namespace Container.Work

variable {d : Arena.Drift} {known : List Stored} {α β : Type} {F : α → List Stored}
  {G : β → List Stored} {id : Nat} {e : Entry} {s : Stored} {p : Program}

/-- Work moves an arena along a drift, if it finds the programs in `known` known, and the programs
`F` of its result are known then. -/
def Moves (d : Arena.Drift) (known : List Stored) (w : Work α) (F : α → List Stored) : Prop :=
  ∀ a : Arena, d.Fit a → (∀ s ∈ known, d.Known a s) →
    d.Fit (w.on a).2 ∧ d.Becomes a (w.on a).2 ∧
      ∀ x, (w.on a).1 = .ok x → ∀ s ∈ F x, d.Known (w.on a).2 s

lemma Moves.mono {known' : List Stored} {w : Work α} (h : Moves d known w F)
    (hknown : known ⊆ known') : Moves d known' w F :=
  fun a ha hs => h a ha fun s hmem => hs s (hknown hmem)

lemma moves_pure {x : α} (h : F x ⊆ known) : Moves d known (pure x) F :=
  fun a ha hknown => ⟨ha, d.refl a, fun _ hy s hs => by cases hy; exact hknown s (h hs)⟩

lemma moves_throw (f : Fault) : Moves d known (throw f : Work α) F :=
  fun a ha _ => ⟨ha, d.refl a, fun _ hy => by cases hy⟩

/-- What is known of a result is known from then on. -/
lemma moves_bind {w : Work α} {g : α → Work β} (hw : Moves d known w F)
    (hg : ∀ x, Moves d (F x ++ known) (g x) G) : Moves d known (w >>= g) G := by
  intro a ha hknown
  obtain ⟨hfit, hbecomes, hresult⟩ := hw a ha hknown
  rcases hrun : w.on a with ⟨r, b⟩
  rw [hrun] at hfit hbecomes hresult
  cases r with
  | error f =>
    rw [on_bind_error hrun]
    exact ⟨hfit, hbecomes, fun _ hy => by cases hy⟩
  | ok x =>
    rw [on_bind hrun]
    have hknown' : ∀ s ∈ F x ++ known, d.Known b s := fun s hs =>
      (List.mem_append.1 hs).elim (hresult x rfl s) fun hs =>
        d.known_of_becomes hbecomes (hknown s hs)
    obtain ⟨hfit', hbecomes', hresult'⟩ := hg x b hfit hknown'
    exact ⟨hfit', d.trans hbecomes hbecomes', hresult'⟩

/-- Work whose result does not matter. -/
lemma moves_then {w : Work α} {g : α → Work β} (hw : Moves d known w fun _ => [])
    (hg : ∀ x, Moves d known (g x) G) : Moves d known (w >>= g) G := moves_bind hw hg

lemma moves_forM {xs : List β} {f : β → Work Unit}
    (h : ∀ x ∈ xs, Moves d known (f x) fun _ => []) : Moves d known (xs.forM f) fun _ => [] := by
  induction xs with
  | nil => exact moves_pure (List.nil_subset _)
  | cons x xs ih =>
    exact moves_then (h x List.mem_cons_self) fun _ => ih fun y hy =>
      h y (List.mem_cons_of_mem _ hy)

lemma moves_forIn {xs : List β} {f : β → PUnit → Work (ForInStep PUnit)}
    (h : ∀ x ∈ xs, Moves d known (f x ⟨⟩) fun _ => []) :
    Moves d known (forIn xs PUnit.unit f) fun _ => [] := by
  induction xs with
  | nil => exact moves_pure (List.nil_subset _)
  | cons x xs ih =>
    rw [List.forIn_cons]
    refine moves_then (h x List.mem_cons_self) fun r => ?_
    cases r with
    | done _ => exact moves_pure (List.nil_subset _)
    | yield _ => exact ih fun y hy => h y (List.mem_cons_of_mem _ hy)

lemma moves_mapM {xs : List α} {f : α → Work β} (h : ∀ x ∈ xs, Moves d known (f x) G) :
    Moves d known (xs.mapM f) fun ys => ys.flatMap G := by
  induction xs generalizing known with
  | nil => exact moves_pure (List.nil_subset _)
  | cons x xs ih =>
    rw [List.mapM_cons]
    refine moves_bind (h x List.mem_cons_self) fun y => ?_
    have hrest : ∀ z ∈ xs, Moves d (G y ++ known) (f z) G := fun z hz =>
      (h z (List.mem_cons_of_mem _ hz)).mono (List.subset_append_right _ _)
    refine moves_bind (ih hrest) fun ys => moves_pure ?_
    grind

lemma moves_container (id : Nat) :
    Moves d known (container id) fun c => c.programs.map (·.stored) := by
  intro a ha _
  refine ⟨ha, d.refl a, fun c hc s hs => ?_⟩
  rw [on_container] at hc
  obtain ⟨e, he, rfl⟩ := List.mem_map.1 hs
  cases hget : a.get? id with
  | none =>
    rw [hget] at hc
    cases hc
    cases he
  | some c' =>
    rw [hget] at hc
    cases hc
    exact d.known_entry ha hget e he

/-- Looking at a container whose programs do not matter. -/
lemma moves_look {g : Container → Work α} (hg : ∀ c, Moves d known (g c) F) :
    Moves d known (container id >>= g) F :=
  moves_bind (moves_container id) fun c => (hg c).mono (List.subset_append_right _ _)

lemma moves_update {f : Container → Container}
    (h : ∀ a, (∀ s ∈ known, d.Known a s) → d.Allows f) : Moves d known (update id f) fun _ =>
    [] := by
  intro a ha hknown
  obtain ⟨hfit, hbecomes⟩ := h a hknown a id ha
  exact ⟨hfit, hbecomes, fun _ _ _ hs => by cases hs⟩

lemma moves_accept (he : e.stored ∈ known) :
    Moves d known (update id (·.accept e)) fun _ => [] := by
  intro a ha hknown
  obtain ⟨hfit, hbecomes⟩ := d.accept id ha (hknown _ he)
  exact ⟨hfit, hbecomes, fun _ _ _ hs => by cases hs⟩

lemma moves_intern (hp : d.Fine p) : Moves d known (intern p) fun s => [s] := by
  intro a ha _
  obtain ⟨hfit, hbecomes, hknown⟩ := d.intern ha hp
  refine ⟨hfit, hbecomes, fun s hs t ht => ?_⟩
  cases hs
  rwa [List.mem_singleton.1 ht]

/-- The program that stands for `p` has the text of `p`. -/
lemma moves_intern_then {g : Stored → Work β} (hp : d.Fine p)
    (hg : ∀ s, s.text = p.text → Moves d (s :: known) (g s) G) :
    Moves d known (intern p >>= g) G := by
  intro a ha hknown
  obtain ⟨hfit, hbecomes, hs⟩ := d.intern ha hp
  rw [on_bind (on_intern p a)]
  have hknown' : ∀ s ∈ (a.table.intern p).1 :: known,
      d.Known { a with table := (a.table.intern p).2 } s := by
    intro s hmem
    obtain rfl | hmem := List.mem_cons.1 hmem
    · exact hs
    · exact d.known_of_becomes hbecomes (hknown s hmem)
  obtain ⟨hfit', hbecomes', hresult⟩ := hg _ (a.table.text_intern p) _ hfit hknown'
  exact ⟨hfit', d.trans hbecomes hbecomes', hresult⟩

lemma moves_parse {text : String} (h : ∀ p, Program.parse text = .ok p → d.Fine p) :
    Moves d known (parse text) fun s => [s] := by
  intro a ha hknown
  cases hfind : a.table.find? text with
  | some s =>
    have hparse : a.table.parse text = .ok (s, a.table) := by rw [Table.parse, hfind]
    rw [on_parse hparse]
    refine ⟨ha, d.refl a, fun s' hs' t ht => ?_⟩
    cases hs'
    rw [List.mem_singleton.1 ht]
    exact d.known_of_find? ha hfind
  | none =>
    cases hp : Program.parse text with
    | error f =>
      have hparse : a.table.parse text = .error f := by rw [Table.parse, hfind, hp]; rfl
      rw [on_parse_error hparse]
      exact ⟨ha, d.refl a, fun _ hy => by cases hy⟩
    | ok p =>
      have hparse : a.table.parse text = .ok (a.table.intern p) := by
        rw [Table.parse, hfind, hp]
        rfl
      rw [on_parse hparse]
      exact moves_intern (h p hp) a ha hknown

lemma moves_pieces (skip : List String)
    (h : ∀ path ∈ s.program.paths, ∀ q, Program.parse path = .ok q → d.Fine q) :
    Moves d known (pieces s skip) fun parts => parts := by
  rw [pieces]
  refine moves_bind (F := fun found => found.flatMap Option.toList)
    (moves_mapM fun path hpath => ?_) fun found => moves_pure fun q hq => ?_
  · refine moves_bind (moves_parse (h path hpath)) fun piece => ?_
    split
    · refine moves_pure fun q hq => ?_
      split at hq
      · cases hq
      · exact List.mem_append_left _ hq
    · exact moves_pure (List.nil_subset _)
  · obtain ⟨r, hr, rfl⟩ := List.mem_filterMap.1 hq
    exact List.mem_append_left _ (List.mem_flatMap.2 ⟨_, hr, by simp⟩)

/-- The paths of a known program are fine. -/
lemma moves_pieces_of_known (hs : s ∈ known) (skip : List String) :
    Moves d known (pieces s skip) fun parts => parts := fun a ha hknown =>
  moves_pieces skip (fun _ hpath _ hq => d.fine_of_path (hknown s hs) hpath hq) a ha hknown

lemma moves_deliverParts {n parent : Nat} {parts : List Stored}
    (hdeliver : ∀ {e : Entry}, e.stored ∈ known → Moves d known (deliver n parent e) fun _ => [])
    (hparts : parts ⊆ known) : Moves d known (deliverParts n parent e parts) fun _ => [] :=
  moves_forM fun piece hpiece => hdeliver (e := e.part piece parent) (hparts hpiece)

lemma moves_hoist {n : Nat} (he : e.stored ∈ known) : Moves d known (hoist n id e) fun _ => [] := by
  induction n generalizing id e known with
  | zero => exact moves_pure (List.nil_subset _)
  | succ n ih =>
    have hdeliver : ∀ {known : List Stored} {parent : Nat} {e : Entry}, e.stored ∈ known →
        Moves d known (deliver n parent e) fun _ => [] :=
      fun he => moves_then (moves_accept he) fun _ => ih he
    rw [hoist_succ]
    refine moves_look fun c => ?_
    split
    · exact moves_pure (List.nil_subset _)
    split
    · exact moves_pure (List.nil_subset _)
    split
    · refine moves_bind (moves_pieces_of_known he _) fun parts => ?_
      exact moves_deliverParts hdeliver (List.subset_append_left _ _)
    · exact hdeliver he

lemma moves_deliver {n : Nat} (he : e.stored ∈ known) : Moves d known (deliver n id e) fun _ =>
    [] :=
  moves_then (moves_accept he) fun _ => moves_hoist he

lemma moves_hoistName {name : String} (h : d.Allows (·.addReactive name)) (n id : Nat) :
    Moves d known (hoistName name n id) fun _ => [] := by
  induction n generalizing id with
  | zero => exact moves_pure (List.nil_subset _)
  | succ n ih =>
    rw [hoistName]
    split
    · exact moves_pure (List.nil_subset _)
    refine moves_look fun c => ?_
    split
    · exact moves_pure (List.nil_subset _)
    split
    · exact moves_update fun _ _ => h
    split
    · exact ih _
    · exact moves_pure (List.nil_subset _)

lemma moves_hoistNames {names : List String} (h : ∀ name, d.Allows (·.addReactive name))
    (id : Nat) :
    Moves d known (hoistNames id names) fun _ => [] :=
  moves_forM fun name _ => moves_hoistName (h name) (id + 1) id

lemma moves_registerIterator {names : List String} (hs : s ∈ known)
    (hreactive : ∀ name, d.Allows (·.addReactive name))
    (hisolate : ∀ a, d.Known a s → d.Allows (·.isolate names)) :
    Moves d known (registerIterator id s names) fun _ => [] := by
  rw [registerIterator]
  refine moves_then (moves_hoistNames hreactive id) fun _ => ?_
  refine moves_then (moves_forIn fun name _ => ?_) fun _ => ?_
  · refine moves_then (moves_update fun _ _ => hreactive name) fun _ => ?_
    exact moves_pure (List.nil_subset _)
  refine moves_bind (moves_pieces_of_known hs []) fun parts => ?_
  have hs' : s ∈ parts ++ known := List.mem_append_right _ hs
  refine moves_then (moves_update fun a hknown => hisolate a (hknown s hs')) fun _ => ?_
  refine moves_then (moves_forIn fun piece hpiece => ?_) fun _ => moves_accept hs'
  refine moves_then (moves_accept (List.mem_append_left _ hpiece)) fun _ => ?_
  exact moves_pure (List.nil_subset _)

/-- Registering moves an arena, also where it fails.  Only the program of a loop isolates names, its
own. -/
theorem moves_register (hp : d.Fine p) (id : Nat) (role : Role)
    (hreactive : ∀ name, d.Allows (·.addReactive name))
    (hisolate : role = .iterator → ∀ a s, d.Known a s → s.text = p.text →
      d.Allows (·.isolate s.program.identifiers)) :
    Moves d known (register id p role) fun _ => [] := by
  refine moves_intern_then hp fun s htext => ?_
  have hhoist : ∀ {known : List Stored},
      Moves d known (hoistNames id s.program.identifiers) fun _ => [] :=
        moves_hoistNames hreactive id
  have hplace : ∀ {known : List Stored} {e : Entry}, e.stored ∈ known →
      Moves d known (place id e) fun _ => [] := fun he => moves_deliver he
  cases role with
  | scope => exact moves_then hhoist fun _ => hplace List.mem_cons_self
  | bind =>
    refine moves_then hhoist fun _ => ?_
    cases h : s.program.bindPrograms with
    | error f => exact moves_throw f
    | ok programs =>
      change Moves d _ (forIn programs PUnit.unit _ >>= _) _
      refine moves_then (moves_forIn fun q hq => ?_) fun _ => moves_pure (List.nil_subset _)
      intro a ha hknown
      have hfine : d.Fine q := d.fine_of_bind (hknown s List.mem_cons_self) h hq
      refine (moves_bind (moves_intern hfine) fun t => ?_) a ha hknown
      exact moves_then (hplace List.mem_cons_self) fun _ => moves_pure (List.nil_subset _)
  | event => exact hhoist
  | iterator =>
    exact moves_registerIterator List.mem_cons_self hreactive fun a hs => hisolate rfl a s hs htext
  | unknown code => exact moves_throw _
  | _ =>
    simp only
    split
    · exact moves_pure (List.nil_subset _)
    · exact moves_then hhoist fun _ => hplace List.mem_cons_self

/-- Attaching moves an arena. -/
theorem moves_attach (id template : Nat) (options : List String)
    (hreactive : ∀ name, d.Allows (·.addReactive name))
    (hisolate : ∀ names names', d.Allows fun c => (c.isolate names).isolate names') :
    Moves d known (attach id template options) fun _ => [] := by
  refine moves_look fun t => ?_
  refine moves_look fun c => ?_
  by_cases hkind : t.kind ≠ .template
  · simp only [if_pos hkind]
    exact moves_throw _
  simp only [if_neg hkind]
  by_cases hkind' : c.kind ≠ .component
  · simp only [if_pos hkind']
    exact moves_throw _
  simp only [if_neg hkind']
  refine moves_then (moves_update fun _ _ => hisolate t.isolated options) fun _ => ?_
  refine moves_then (moves_hoistNames hreactive id) fun _ => ?_
  refine moves_then (moves_forIn fun i _ => ?_) fun _ => moves_pure (List.nil_subset _)
  refine moves_bind (moves_container template) fun t' => ?_
  split
  · exact moves_pure (List.nil_subset _)
  · next e he =>
    split
    · have hmem : e.stored ∈ t'.programs.map (·.stored) :=
        List.mem_map_of_mem (List.mem_of_getElem? he)
      refine moves_then (moves_accept (List.mem_append_left _ hmem)) fun _ => ?_
      refine moves_then (moves_hoist (List.mem_append_left _ hmem)) fun _ => ?_
      exact moves_pure (List.nil_subset _)
    · exact moves_pure (List.nil_subset _)

end Container.Work

/-! ### Arenas stay sound -/

/-- Sound arenas grow, and isolate new names only among `names`. -/
def Arena.soundDrift (names : List String) : Arena.Drift where
  Fit := Arena.Sound
  Fine := Program.IsRead
  Known _ s := s.Sound
  Becomes := Arena.Grows names
  refl := .refl
  trans := .trans
  known_of_becomes _ hs := hs
  fine_of_path _ _ h := ⟨_, h⟩
  fine_of_bind _ h hq := Program.isRead_of_bindPrograms h _ hq
  known_of_find? ha h := ha.table _ (Table.mem_of_find? h).1
  known_entry ha hc := ha.programs hc
  intern ha hp :=
    ⟨ha.with_table (ha.table.intern hp).2, fun _ c h => ⟨c, h, .refl c⟩, (ha.table.intern hp).1⟩
  accept id ha he := ha.update id (grows_accept · _) fun _ => sound_accept he

namespace Container.Work

variable {names : List String} {α β : Type} {Q : α → Prop} {R : β → Prop} {id : Nat} {e : Entry}
  {s : Stored} {p : Program}

/-- Work on a sound arena leaves a sound arena that grew and isolates new names only among `names`,
and `Q` holds of its result. -/
def Keeps (names : List String) (w : Work α) (Q : α → Prop) : Prop :=
  ∀ a : Arena, a.Sound →
    (w.on a).2.Sound ∧ Arena.Grows names a (w.on a).2 ∧ ∀ x, (w.on a).1 = .ok x → Q x

lemma Keeps.mono {w : Work α} {Q' : α → Prop} (h : Keeps names w Q) (hQ : ∀ x, Q x → Q' x) :
    Keeps names w Q' :=
  fun a ha => ⟨(h a ha).1, (h a ha).2.1, fun x hx => hQ x ((h a ha).2.2 x hx)⟩

/-- Work keeps what the drift of sound arenas keeps. -/
lemma keeps_of_moves {w : Work α} {F : α → List Stored}
    (h : Moves (Arena.soundDrift names) [] w F) :
    Keeps names w fun x => ∀ s ∈ F x, s.Sound := fun a ha => h a ha (List.forall_mem_nil _)

/-- So does work with programs that are known. -/
lemma keeps_of_known {known : List Stored} {w : Work α} {F : α → List Stored}
    (hknown : ∀ s ∈ known, s.Sound)
    (h : Moves (Arena.soundDrift names) known w F) : Keeps names w fun _ => True :=
  fun a ha => ⟨(h a ha hknown).1, (h a ha hknown).2.1, fun _ _ => trivial⟩

lemma keeps_pure {x : α} (h : Q x) : Keeps names (pure x) Q :=
  fun a ha => ⟨ha, .refl a, fun _ hy => by cases hy; exact h⟩

lemma keeps_bind {w : Work α} {g : α → Work β} (hw : Keeps names w Q)
    (hg : ∀ x, Q x → Keeps names (g x) R) :
    Keeps names (w >>= g) R := by
  intro a ha
  obtain ⟨hsound, hgrows, hresult⟩ := hw a ha
  rcases hrun : w.on a with ⟨r, b⟩
  rw [hrun] at hsound hgrows hresult
  cases r with
  | error f =>
    rw [on_bind_error hrun]
    exact ⟨hsound, hgrows, fun _ hy => by cases hy⟩
  | ok x =>
    rw [on_bind hrun]
    obtain ⟨hsound', hgrows', hresult'⟩ := hg x (hresult x rfl) b hsound
    exact ⟨hsound', hgrows.trans hgrows', hresult'⟩

/-- A loop whose steps all go on to the next one. -/
lemma keeps_forIn {xs : List β} {f : β → PUnit → Work (ForInStep PUnit)}
    (h : ∀ x ∈ xs, Keeps names (f x ⟨⟩) fun r => r = .yield ⟨⟩) :
    Keeps names (forIn xs PUnit.unit f) fun _ => True := by
  induction xs with
  | nil => exact keeps_pure trivial
  | cons x xs ih =>
    rw [List.forIn_cons]
    refine keeps_bind (h x List.mem_cons_self) ?_
    rintro _ rfl
    exact ih fun y hy => h y (List.mem_cons_of_mem _ hy)

lemma keeps_mapM {xs : List α} {f : α → Work β} (h : ∀ x ∈ xs, Keeps names (f x) R) :
    Keeps names (xs.mapM f) fun ys => ∀ y ∈ ys, R y := by
  induction xs with
  | nil => exact keeps_pure (by simp)
  | cons x xs ih =>
    rw [List.mapM_cons]
    refine keeps_bind (h x List.mem_cons_self) fun y hy => ?_
    refine keeps_bind (ih fun z hz => h z (List.mem_cons_of_mem _ hz)) fun ys hys => ?_
    exact keeps_pure (by simpa using ⟨hy, hys⟩)

/-! ### Steps -/

lemma keeps_container (id : Nat) :
    Keeps names (container id) fun c => ∀ e ∈ c.programs, e.stored.Sound :=
  (keeps_of_moves (moves_container id)).mono fun _ hc _ he => hc _ (List.mem_map_of_mem he)

lemma allows_addReactive (name : String) : (Arena.soundDrift names).Allows (·.addReactive name) :=
  fun _ id ha => ha.update id (grows_addReactive · name) fun c h => by rwa [programs_addReactive]

lemma allows_isolate {isolated : List String} (h : ∀ x ∈ isolated, x ∈ names) :
    (Arena.soundDrift names).Allows (·.isolate isolated) :=
  fun _ id ha => ha.update id (grows_isolate · h) fun c h => by rwa [programs_isolate]

lemma keeps_accept (he : e.stored.Sound) : Keeps names (update id (·.accept e)) fun _ => True :=
  keeps_of_known (List.forall_mem_singleton.2 he) (moves_accept (List.mem_singleton_self _))

lemma keeps_addReactive (name : String) : Keeps names (update id (·.addReactive name)) fun _ =>
    True :=
  keeps_of_known (List.forall_mem_nil _) (moves_update fun _ _ => allows_addReactive name)

lemma keeps_isolate {isolated : List String} (h : ∀ x ∈ isolated, x ∈ names) :
    Keeps names (update id (·.isolate isolated)) fun _ => True :=
  keeps_of_known (List.forall_mem_nil _) (moves_update fun _ _ => allows_isolate h)

lemma keeps_intern (hp : p.IsRead) :
    Keeps names (intern p) fun s => s.Sound ∧ s.text = p.text := by
  intro a ha
  rw [on_intern]
  obtain ⟨hs, ht⟩ := ha.table.intern hp
  refine ⟨ha.with_table ht, fun _ c h => ⟨c, h, .refl c⟩, fun _ hy => ?_⟩
  cases hy
  exact ⟨hs, a.table.text_intern p⟩

lemma keeps_parse (text : String) : Keeps names (parse text) Stored.Sound :=
  (keeps_of_moves (moves_parse fun _ h => ⟨text, h⟩)).mono fun s hs =>
    hs s (List.mem_singleton_self s)

/-! ### Registering -/

lemma keeps_hoistName (name : String) (n id : Nat) : Keeps names (hoistName name n id) fun _ =>
    True :=
  keeps_of_known (List.forall_mem_nil _) (moves_hoistName (allows_addReactive name) n id)

lemma keeps_hoistNames (id : Nat) (hoisted : List String) :
    Keeps names (hoistNames id hoisted) fun _ => True :=
  keeps_of_known (List.forall_mem_nil _) (moves_hoistNames allows_addReactive id)

lemma keeps_pieces (s : Stored) (skip : List String) :
    Keeps names (pieces s skip) fun parts => ∀ q ∈ parts, q.Sound :=
  keeps_of_moves (moves_pieces skip fun path _ _ h => ⟨path, h⟩)

lemma keeps_deliverParts {n parent : Nat} {parts : List Stored} (hparts : ∀ q ∈ parts, q.Sound) :
    Keeps names (deliverParts n parent e parts) fun _ => True :=
  keeps_of_known hparts (moves_deliverParts moves_deliver (List.Subset.refl parts))

lemma keeps_hoist {n : Nat} (he : e.stored.Sound) : Keeps names (hoist n id e) fun _ => True :=
  keeps_of_known (List.forall_mem_singleton.2 he) (moves_hoist (List.mem_singleton_self _))

lemma keeps_deliver {n : Nat} (he : e.stored.Sound) : Keeps names (deliver n id e) fun _ => True :=
  keeps_of_known (List.forall_mem_singleton.2 he) (moves_deliver (List.mem_singleton_self _))

/-- Registering keeps an arena sound and lets it grow, also where it fails.  Only the program of a
loop isolates names, its own. -/
theorem keeps_register (hp : p.IsRead) (id : Nat) (role : Role)
    (hnames : role = .iterator → ∀ x ∈ p.identifiers, x ∈ names) :
    Keeps names (register id p role) fun _ => True := by
  refine keeps_of_known (List.forall_mem_nil _) (moves_register hp id role allows_addReactive ?_)
  intro hrole a s hs htext
  have hsame : ∀ x, x ∈ s.program.identifiers ↔ x ∈ p.identifiers := fun x =>
    hs.isRead.mem_identifiers_of_text hp (hs.text_eq.symm.trans htext)
  exact allows_isolate fun x hx => hnames hrole x ((hsame x).1 hx)

end Work

end Trellis.Container
