/-
Hoisting loses no identifier.

A program that is registered travels up from its container.  Where a container isolates one of its
names the program stops, and only its paths from other names go on; each of these may stop further
up.  An identifier that no container on the way isolates is the root of a path, so it goes on either
with the program or with that path (`exists_piece`), and every container that it comes to watches it
from then on (`deliver_watches`).
-/
import Trellis.Proofs.Container.Drift

namespace Trellis

open Container

/-- The way up from a container, to the nearest template or the root, as far as no container before
its end isolates the identifier `x`. -/
inductive Arena.Sees (a : Arena) (x : String) : Nat → Nat → Prop
  | here {id : Nat} {c : Container} (h : a.get? id = some c) : a.Sees x id id
  | up {id parent top : Nat} {c : Container} (h : a.get? id = some c) (hkind : c.kind ≠ .template)
      (hx : x ∉ c.isolated) (hparent : c.parent = some parent) (hup : a.Sees x parent top) :
      a.Sees x id top

/-- Whether a container of an arena watches an identifier. -/
def Arena.Watches (a : Arena) (id : Nat) (x : String) : Prop :=
  ∃ c, a.get? id = some c ∧ c.Watches x

namespace Arena

variable {a b : Arena} {x : String} {id top : Nat}

/-- Where no name becomes isolated, the way up stays as it is. -/
lemma Grows.sees (h : Grows [] a b) (hsees : a.Sees x id top) : b.Sees x id top := by
  induction hsees with
  | here hget =>
    obtain ⟨c', hget', -⟩ := h _ _ hget
    exact .here hget'
  | up hget hkind hx hparent _ ih =>
    obtain ⟨c', hget', hgrows⟩ := h _ _ hget
    refine .up hget' (hgrows.kind_eq ▸ hkind) (fun hx' => ?_) (hgrows.parent_eq ▸ hparent) ih
    rcases hgrows.isolated_new _ hx' with hx' | hx'
    · exact hx hx'
    · cases hx'

/-- The first step up from a container that is known. -/
lemma Sees.step {c : Container} (hid : a.get? id = some c) (hsees : a.Sees x id top) :
    top = id ∨ ∃ parent, c.parent = some parent ∧ c.kind ≠ .template ∧ x ∉ c.isolated ∧
      a.Sees x parent top := by
  cases hsees with
  | here => exact .inl rfl
  | up hget hkind hx hparent hup =>
    rw [hid] at hget
    cases hget
    exact .inr ⟨_, hparent, hkind, hx, hup⟩

lemma Grows.watches {names : List String} (h : Grows names a b) (hx : a.Watches id x) :
    b.Watches id x := by
  obtain ⟨c, hc, hx⟩ := hx
  obtain ⟨c', hc', hgrows⟩ := h id c hc
  exact ⟨c', hc', hgrows.watches x hx⟩

end Arena

namespace Container.Work

variable {a : Arena} {x : String} {id : Nat} {e : Entry} {s : Stored}

/-! ### The paths of a program -/

/-- The program of a path, unless it begins at a name that does not go on. -/
def found? (skip : List String) (path : String) : Work (Option Stored) := do
  let piece ← parse path
  match piece.program.single?.bind Expr.path? with
  | some (first :: _) =>
    return if skip.contains first || isDenied first then none else some piece
  | _ => return none

lemma pieces_eq (s : Stored) (skip : List String) : pieces s skip = (do
    let found ← s.program.paths.mapM (found? skip)
    return found.filterMap fun x => x) := rfl

/-- Every path is found, and those from a name that may go on are kept. -/
lemma exists_found (skip : List String) {texts : List String} (ha : a.Sound)
    (htexts : ∀ t ∈ texts, ∃ root, IsPathText root t) :
    ∃ found b, (texts.mapM (found? skip)).on a = (.ok found, b) ∧
      ∀ t ∈ texts, ∀ x, IsPathText x t → x ∉ skip → isDenied x = false →
        ∃ piece, some piece ∈ found ∧ x ∈ piece.program.identifiers := by
  induction texts generalizing a with
  | nil => exact ⟨[], a, rfl, by simp⟩
  | cons t texts ih =>
    obtain ⟨root, hroot⟩ := htexts t List.mem_cons_self
    obtain ⟨piece, table, hparse, htext⟩ := a.table.parse_path hroot
    obtain ⟨hpiece, htable⟩ := ha.table.parse hparse
    subst htext
    obtain ⟨hnames, steps, hsteps⟩ := hpiece.of_path hroot
    obtain ⟨found, b, hrun, hfound⟩ := ih (ha.with_table htable) fun t ht =>
      htexts t (List.mem_cons_of_mem _ ht)
    refine ⟨(if skip.contains root || isDenied root then none else some piece) :: found, b, ?_, ?_⟩
    · rw [List.mapM_cons, found?, bind_assoc, on_bind (on_parse hparse), hsteps]
      simp only [pure_bind]
      rw [on_bind hrun]
      rfl
    · intro t ht x hx hskip hdenied
      rcases List.mem_cons.1 ht with rfl | ht
      · obtain ⟨-, steps', hsteps'⟩ := hpiece.of_path hx
        rw [hsteps] at hsteps'
        cases hsteps'
        exact ⟨piece, by simp [hskip, hdenied], (hnames root).2 rfl⟩
      · obtain ⟨q, hq, hxq⟩ := hfound t ht x hx hskip hdenied
        exact ⟨q, List.mem_cons_of_mem _ hq, hxq⟩

/-- Taking the paths out of a program never fails, and every identifier that may go on is the root
of one of them. -/
lemma exists_piece (skip : List String) (ha : a.Sound) (hs : s.Sound) :
    ∃ parts b, (pieces s skip).on a = (.ok parts, b) ∧
      ∀ x ∈ s.program.identifiers, x ∉ skip → isDenied x = false →
        ∃ piece ∈ parts, x ∈ piece.program.identifiers := by
  obtain ⟨found, b, hrun, hfound⟩ := exists_found skip ha fun t ht =>
    (hs.isRead.exists_root ht).imp fun _ h => h.2
  refine ⟨found.filterMap fun x => x, b, ?_, fun x hx hskip hdenied => ?_⟩
  · rw [pieces_eq, on_bind hrun]
    rfl
  · obtain ⟨t, ht, hpath⟩ := hs.isRead.exists_path hx
    obtain ⟨piece, hpiece, hxpiece⟩ := hfound t ht x hpath hskip hdenied
    exact ⟨piece, List.mem_filterMap.2 ⟨_, hpiece, rfl⟩, hxpiece⟩

/-! ### The way up -/

/-- What is shown of every delivery of an entry to a container: it succeeds, and every container
that an identifier of the entry comes to watches this identifier afterwards. -/
def DeliversTo (n id : Nat) : Prop :=
  ∀ ⦃a : Arena⦄ ⦃e : Entry⦄, a.Sound → (∃ c, a.get? id = some c) → e.stored.Sound →
    e.operation ≠ .exclude →
      ∃ b, (deliver n id e).on a = (.ok (), b) ∧
        ∀ x ∈ e.stored.program.identifiers, isDenied x = false →
          ∀ top, a.Sees x id top → b.Watches top x

/-- Parts are delivered one after the other, and what one of them makes watched stays watched. -/
lemma DeliversTo.parts {n parent : Nat} {parts : List Stored} (h : DeliversTo n parent)
    (ha : a.Sound) (hparent : ∃ c, a.get? parent = some c) (hparts : ∀ q ∈ parts, q.Sound) :
    ∃ b, (deliverParts n parent e parts).on a = (.ok (), b) ∧
      ∀ q ∈ parts, ∀ x ∈ q.program.identifiers, isDenied x = false →
        ∀ top, a.Sees x parent top → b.Watches top x := by
  induction parts generalizing a with
  | nil => exact ⟨a, rfl, by simp⟩
  | cons q parts ih =>
    have hq : q.Sound := hparts q List.mem_cons_self
    have hrest : ∀ r ∈ parts, r.Sound := fun r hr => hparts r (List.mem_cons_of_mem _ hr)
    have hop : (e.part q parent).operation ≠ .exclude := by simp [Entry.part]
    obtain ⟨b, hrun, hwatches⟩ := h ha hparent hq hop
    have hkeeps : Keeps [] (deliver n parent (e.part q parent)) fun _ => True := keeps_deliver hq
    obtain ⟨hb, hgrows, -⟩ := hkeeps a ha
    rw [hrun] at hb hgrows
    obtain ⟨c, hc⟩ := hparent
    obtain ⟨c', hc', -⟩ := hgrows _ _ hc
    obtain ⟨b', hrun', hwatches'⟩ := ih hb ⟨c', hc'⟩ hrest
    have hkeeps' : Keeps [] (deliverParts n parent e parts) fun _ => True :=
      keeps_deliverParts hrest
    obtain ⟨-, hgrows', -⟩ := hkeeps' b hb
    rw [hrun'] at hgrows'
    refine ⟨b', (on_bind hrun _).trans hrun', fun r hr x hx hdenied top hsees => ?_⟩
    rcases List.mem_cons.1 hr with rfl | hr
    · exact hgrows'.watches (hwatches x hx hdenied top hsees)
    · exact hwatches' r hr x hx hdenied top (hgrows.sees hsees)

/-- Hoisting from a container that watches the identifiers of an entry already. -/
lemma DeliversTo.hoist {n : Nat} {c : Container} (h : ∀ parent < id, DeliversTo n parent)
    (ha : a.Sound) (hc : a.get? id = some c) (he : e.stored.Sound) (hop : e.operation ≠ .exclude)
    (hhere : ∀ x ∈ e.stored.program.identifiers, c.Watches x) :
    ∃ b, (hoist (n + 1) id e).on a = (.ok (), b) ∧
      ∀ x ∈ e.stored.program.identifiers, isDenied x = false →
        ∀ top, a.Sees x id top → b.Watches top x := by
  have hcontainer : (container id).on a = (.ok c, a) := by rw [on_container, hc]; rfl
  have hkeeps : Keeps [] (Work.hoist (n + 1) id e) fun _ => True := keeps_hoist he
  obtain ⟨-, hgrows, -⟩ := hkeeps a ha
  rw [hoist_succ, on_bind hcontainer] at hgrows ⊢
  -- the end of the way: nothing is left to show but for the container itself
  have hend : (∀ parent, c.parent = some parent → c.kind = .template) →
      ∃ b, (pure () : Work Unit).on a = (.ok (), b) ∧
        ∀ x ∈ e.stored.program.identifiers, isDenied x = false →
          ∀ top, a.Sees x id top → b.Watches top x := by
    intro htop
    refine ⟨a, rfl, fun x hx _ top hsees => ?_⟩
    obtain rfl | ⟨parent, hparent, hkind, -⟩ := hsees.step hc
    · exact ⟨c, hc, hhere x hx⟩
    · exact absurd (htop parent hparent) hkind
  by_cases hboundary : isBoundary c = true
  · rw [if_pos hboundary]
    refine hend fun parent hparent => ?_
    simpa [isBoundary, hparent] using hboundary
  rw [if_neg hboundary] at hgrows ⊢
  cases hparent : c.parent with
  | none => exact hend fun parent h => by rw [hparent] at h; cases h
  | some parent =>
    rw [hparent] at hgrows
    obtain ⟨d, hd⟩ := ha.exists_parent hc hparent
    have hnext := h parent (ha.parent_lt hc parent hparent)
    -- it remains to show the claim for what lies above
    suffices habove : ∃ b, (if (Node.program e.stored.program).refersTo c.isolated then do
        deliverParts n parent e (← pieces e.stored c.isolated)
        else deliver n parent (e.raised parent) : Work Unit).on a = (.ok (), b) ∧
        ∀ x ∈ e.stored.program.identifiers, x ∉ c.isolated → isDenied x = false →
          ∀ top, a.Sees x parent top → b.Watches top x by
      obtain ⟨b, hrun, hwatches⟩ := habove
      rw [hrun] at hgrows
      refine ⟨b, hrun, fun x hx hdenied top hsees => ?_⟩
      obtain rfl | ⟨parent', hparent', -, hisolated, hup⟩ := hsees.step hc
      · exact hgrows.watches ⟨c, hc, hhere x hx⟩
      · rw [hparent] at hparent'
        cases hparent'
        exact hwatches x hx hisolated hdenied top hup
    split
    · obtain ⟨parts, a', hrun, hparts⟩ := exists_piece c.isolated ha he
      have hpieces : Keeps [] (pieces e.stored c.isolated) _ := keeps_pieces e.stored c.isolated
      obtain ⟨ha', hgrows', hsound⟩ := hpieces a ha
      rw [hrun] at ha' hgrows' hsound
      obtain ⟨d', hd', -⟩ := hgrows' _ _ hd
      obtain ⟨b, hrun', hwatches⟩ := hnext.parts (e := e) ha' ⟨d', hd'⟩ (hsound parts rfl)
      refine ⟨b, (on_bind hrun _).trans hrun', fun x hx hisolated hdenied top hsees => ?_⟩
      obtain ⟨piece, hpiece, hxpiece⟩ := hparts x hx hisolated hdenied
      exact hwatches piece hpiece x hxpiece hdenied top (hgrows'.sees hsees)
    · have hraised : (e.raised parent).operation ≠ .exclude := by
        simp only [Entry.raised]
        split
        · decide
        · exact hop
      have hstored : (e.raised parent).stored.Sound := he
      obtain ⟨b, hrun, hwatches⟩ := hnext ha ⟨d, hd⟩ hstored hraised
      exact ⟨b, hrun, fun x hx _ hdenied => hwatches x hx hdenied⟩

/-- Every delivery makes all containers that an identifier comes to watch it.  The induction is on
the bound, which exceeds the number of the container and so the number of steps up. -/
lemma deliversTo {n id : Nat} (hn : id < n) : DeliversTo n id := by
  induction n generalizing id with
  | zero => cases hn
  | succ n ih =>
    rintro a e ha ⟨c, hc⟩ he hop
    have haccept : Keeps [] (update id (·.accept e)) fun _ => True := keeps_accept he
    obtain ⟨ha', hgrows, -⟩ := haccept a ha
    obtain ⟨b, hrun, hwatches⟩ := DeliversTo.hoist (fun parent hparent => ih (by omega)) ha'
      (a.get?_update_self hc) he hop fun x => watches_accept he (ha.programs hc) hop
    exact ⟨b, hrun, fun x hx hdenied top hsees => hwatches x hx hdenied top (hgrows.sees hsees)⟩

/-! ### Names -/

lemma exists_hoistName (name : String) (n id : Nat) (a : Arena) :
    ∃ b, (hoistName name n id).on a = (.ok (), b) := by
  induction n generalizing id a with
  | zero => exact ⟨a, rfl⟩
  | succ n ih =>
    rw [hoistName]
    split
    · exact ⟨a, rfl⟩
    rw [on_bind (on_container id a)]
    split
    · exact ⟨a, rfl⟩
    split
    · exact ⟨_, on_update _ _ a⟩
    split
    · exact ih _ a
    · exact ⟨a, rfl⟩

lemma exists_hoistNames (id : Nat) (names : List String) (a : Arena) :
    ∃ b, (hoistNames id names).on a = (.ok (), b) := by
  rw [hoistNames]
  induction names generalizing a with
  | nil => exact ⟨a, rfl⟩
  | cons name names ih =>
    obtain ⟨b, hrun⟩ := exists_hoistName name (id + 1) id a
    obtain ⟨b', hrun'⟩ := ih b
    exact ⟨b', (on_bind hrun _).trans hrun'⟩

/-- Hoisting names and placing an entry where it stands. -/
lemma exists_place (ha : a.Sound) (hid : ∃ c, a.get? id = some c) (names : List String)
    (he : e.stored.Sound) (hop : e.operation ≠ .exclude) :
    ∃ b, (do hoistNames id names; place id e : Work Unit).on a = (.ok (), b) ∧
      ∀ x ∈ e.stored.program.identifiers, isDenied x = false →
        ∀ top, a.Sees x id top → b.Watches top x := by
  obtain ⟨a', hrun⟩ := exists_hoistNames id names a
  have hkeeps : Keeps [] (hoistNames id names) fun _ => True := keeps_hoistNames id names
  obtain ⟨ha', hgrows, -⟩ := hkeeps a ha
  rw [hrun] at ha' hgrows
  obtain ⟨c, hc⟩ := hid
  obtain ⟨c', hc', -⟩ := hgrows id c hc
  obtain ⟨b, hrun', hwatches⟩ := deliversTo (Nat.lt_succ_self id) ha' ⟨c', hc'⟩ he hop
  exact ⟨b, (on_bind hrun _).trans hrun', fun x hx hdenied top hsees =>
    hwatches x hx hdenied top (hgrows.sees hsees)⟩

end Container.Work

/-! ### Arenas that can be reached -/

/-- The arenas that adding containers, isolating names and registering programs lead to.  A program
is registered even where this fails halfway. -/
inductive Arena.Reachable : Arena → Prop
  | start : Reachable Arena.start
  | spawn {a : Arena} {parent : Nat} (kind : Kind) (name : String) (ha : a.Reachable)
      (hparent : parent < a.containers.size) : Reachable (a.spawn parent kind name).2
  | isolate {a : Arena} (id : Nat) (names : List String) (ha : a.Reachable) :
      Reachable (a.update id (·.isolate names))
  | register {a : Arena} {p : Program} (id : Nat) (role : Role) (ha : a.Reachable)
      (hp : p.IsRead) : Reachable ((Work.register id p role).on a).2

lemma Arena.Reachable.sound {a : Arena} (h : a.Reachable) : a.Sound := by
  induction h with
  | start => exact Arena.sound_start
  | spawn kind name _ hparent ih => exact ih.spawn hparent kind name
  | isolate id names _ ih => exact (Work.keeps_isolate (fun _ h => h) _ ih).1
  | register id role _ hp ih => exact (Work.keeps_register hp id role (fun _ _ h => h) _ ih).1

/-- The roles in which a program is watched on the whole way up. -/
def Container.Role.hoisted : List Role := [.regular, .attribute, .option, .simple, .float, .scope]

/-- **Hoisting loses no identifier.**  Registering a program succeeds, and afterwards every
identifier of it that can be reactive is watched at every container on the way up, as far as no
container before that one isolates the identifier. -/
theorem Arena.Reachable.register_watches {a : Arena} {p : Program} {id : Nat} {role : Role}
    (ha : a.Reachable) (hid : id < a.containers.size) (hp : p.IsRead)
    (hrole : role ∈ Role.hoisted) :
    ∃ b, (Work.register id p role).on a = (.ok (), b) ∧
      ∀ x ∈ p.identifiers, isDenied x = false → ∀ top, a.Sees x id top → b.Watches top x := by
  obtain ⟨hs, htable⟩ := ha.sound.table.intern hp
  have hnames : ∀ x, x ∈ p.identifiers ↔ x ∈ (a.table.intern p).1.program.identifiers := fun x =>
    hp.mem_identifiers_of_text hs.isRead ((a.table.text_intern p).symm.trans hs.text_eq)
  have hget := Array.getElem?_eq_getElem hid
  simp only [hnames]
  rw [Work.register, Work.on_bind (Work.on_intern p a)]
  have ha' := ha.sound.with_table htable
  generalize (a.table.intern p).1 = s at hs ⊢
  have hsees : ∀ x top, a.Sees x id top →
      Arena.Sees { a with table := (a.table.intern p).2 } x id top := fun x top =>
    Arena.Grows.sees fun _ c hc => ⟨c, hc, .refl c⟩
  have hplace : ∀ operation ≠ Operation.exclude, ∃ b, (do
      Work.hoistNames id s.program.identifiers
      Work.place id ⟨s, role, operation, false, id, id⟩ : Work Unit).on
        { a with table := (a.table.intern p).2 } = (.ok (), b) ∧
      ∀ x ∈ s.program.identifiers, isDenied x = false →
        ∀ top, a.Sees x id top → b.Watches top x := by
    intro operation hop
    obtain ⟨b, hrun, hwatches⟩ := Work.exists_place (e := ⟨s, role, operation, false, id, id⟩) ha'
      ⟨_, hget⟩ s.program.identifiers hs hop
    exact ⟨b, hrun, fun x hx hdenied top h => hwatches x hx hdenied top (hsees x top h)⟩
  have hsimple : ∃ b, (if s.program.identifiers.isEmpty then pure () else do
      Work.hoistNames id s.program.identifiers
      Work.place id ⟨s, role, .ignore, false, id, id⟩ : Work Unit).on
        { a with table := (a.table.intern p).2 } = (.ok (), b) ∧
      ∀ x ∈ s.program.identifiers, isDenied x = false →
        ∀ top, a.Sees x id top → b.Watches top x := by
    split
    · next hempty =>
      rw [List.isEmpty_iff.1 hempty]
      exact ⟨_, rfl, by simp⟩
    · exact hplace .ignore (by decide)
  simp only [Role.hoisted, List.mem_cons, List.not_mem_nil, or_false] at hrole
  rcases hrole with rfl | rfl | rfl | rfl | rfl | rfl
  · exact hsimple
  · exact hsimple
  · exact hsimple
  · exact hsimple
  · exact hsimple
  · exact hplace .include_ (by decide)

/-- A loop whose items are called `x`, in the root. -/
def Arena.loopExample : Arena :=
  (Arena.start.spawn 0 .cycle "").2.update 1 (·.isolate ["x"])

/-- An expression in the loop that reads `x` stops there, and its other path goes on. -/
theorem Arena.loopExample_watches : ∃ p b, Program.parse "f(x.a, y.b)" = .ok p ∧
    (Work.register 1 p .simple).on Arena.loopExample = (.ok (), b) ∧ b.Watches 0 "y" := by
  have hread : (Program.parse "f(x.a, y.b)").toOption.map Program.identifiers =
      some ["f", "x", "y"] := by decide +kernel
  obtain ⟨p, hp, hnames⟩ := eq_ok_of_toOption hread
  have hreachable : Arena.loopExample.Reachable :=
    .isolate 1 ["x"] (.spawn .cycle "" .start (by decide))
  have hid : 1 < Arena.loopExample.containers.size := by decide
  have hrole : Role.simple ∈ Role.hoisted := by decide
  obtain ⟨b, hrun, hwatches⟩ := hreachable.register_watches hid ⟨_, hp⟩ hrole
  have hsees : Arena.loopExample.Sees "y" 1 0 :=
    .up (c := { id := 1, parent := some 0, kind := .cycle, isolated := ["x"] }) rfl (by decide)
      (by decide) rfl (.here rfl)
  exact ⟨p, b, hp, hrun, hwatches "y" (by rw [hnames]; decide) (by decide) 0 hsees⟩

end Trellis
