/-
What annotating a template does.

Annotating goes through all that a template asks for, in the order of its text, and does nothing
else but to work on containers and to take notes: it is a list of steps (`Annotated.steps_ofNodes`).
A program is replaced by the stored program with its text; whatever else is asked for stays as it
is.  So what each step keeps is true in the end.  The manifest is what asking for everything makes
of an empty one (`Annotated.asked_ofNodes`).  All expressions of the template are programs of its
table, and so are those that the containers watch (`Annotated.held_ofNodes`).  No program has a slot
yet.
-/
import Mathlib.Data.List.Forall2
import Trellis.Annotated
import Trellis.Proofs.Container.Calls
import Trellis.Proofs.Container.Table
import Trellis.Proofs.Markup.Requests

namespace Trellis

/-- What a manifest is after something was asked for.  A program is not taken down, but it says
whether there are translations. -/
def Manifest.asked {α : Type} (module : String) (m : Manifest α) : Request →
    Except Fault (Manifest α)
  | .program p _ => .ok { m with translates := m.translates || (Node.program p).callsTranslation }
  | .require path => .ok (m.require path)
  | .translate text context =>
    .ok { m.translate ⟨"text", module, text, context⟩ with translates := true }
  | .define name line column => m.define name line column

/-- What stands for a request when a template was annotated.  A program stands for those with its
text. -/
def Request.Stands (final : Container.Table) : Request → Request → Prop
  | .program p isCompiled, r => ∃ q, r = .program q isCompiled ∧ final.Knows q ∧ q.text = p.text
  | r, r' => r' = r

/-- A call that registers nothing new. -/
def Arena.Call.IsQuiet : Arena.Call → Prop
  | .spawn .. | .isolate .. | .attach .. => True
  | _ => False

namespace Annotated

open Markup Container

variable {α β γ : Type} {module : String} {a b c : Annotated α} {final : Table}
  {rs rs' ss ss' : List Request}

mutual
lemma requests_markRoot : ∀ n : Markup.Node, (Pass.markRoot n).requests = n.requests
  | .text .. | .element .. | .component .. | .partialCall .. | .template .. => rfl
  | .branches .. => by
    simp only [Pass.markRoot, Node.requests, requests_markRoots, requests_markBranches]
  | .loop .. => by simp only [Pass.markRoot, Node.requests, requests_markRoots]
  | .each .. => by simp only [Pass.markRoot, Node.requests, requests_markRoots]

lemma requests_markRoots : ∀ ns : List Markup.Node, Node.requestsList (Pass.markRoots ns) =
    Node.requestsList ns
  | [] => rfl
  | n :: ns => congrArg₂ (· ++ ·) (requests_markRoot n) (requests_markRoots ns)

lemma requests_markBranches : ∀ bs : List Branch,
    Branch.requestsList (Pass.markBranches bs) = Branch.requestsList bs
  | [] => rfl
  | .mk _ _ children :: bs => by
    simp only [Pass.markBranches, Branch.requestsList, requests_markRoots children,
      requests_markBranches bs]
end

/-! ### Steps -/

/-- One step of annotating.  It goes through what a place of the template asks for, and leaves what
the place asks for from then on. -/
inductive Step (module : String) : Annotated α → List Request → List Request → Annotated α → Prop
  /-- containers are added, isolate names, or take over what an inline template watches -/
  | call {a : Annotated α} {c : Arena.Call} {arena : Arena} (hc : c.IsQuiet)
    (h : c.work.on a.arena = (.ok (), arena)) : Step module a [] [] { a with arena }
  /-- something is noted that is neither about the containers nor about the manifest -/
  | note {a b : Annotated α} (harena : b.arena = a.arena) (hmanifest : b.manifest = a.manifest) :
    Step module a [] [] b
  | ask {a : Annotated α} {manifest : Manifest α} (r : Request) (hr : ∀ p isCompiled,
      r ≠ .program p isCompiled)
    (h : a.manifest.asked module r = .ok manifest) : Step module a [r] [r] { a with manifest }
  /-- a program is stored, and the program that is stored under its text is registered -/
  | program {a : Annotated α} {arena : Arena} {manifest : Manifest α} (p q : Program)
      (isCompiled : Bool) (c : Nat)
    (role : Role) (hq : (a.arena.table.intern p).1.program = q)
    (hmanifest : a.manifest.asked module (.program q isCompiled) = .ok manifest)
    (h : (Work.register c q role).on { a.arena with table := (a.arena.table.intern p).2 } =
      (.ok (), arena)) :
    Step module a [.program p isCompiled] [.program q isCompiled] { a with arena, manifest }

/-- Steps one after the other. -/
inductive Steps (module : String) : Annotated α → List Request → List Request → Annotated α → Prop
  | refl (a : Annotated α) : Steps module a [] [] a
  | tail {a b c : Annotated α} {rs rs' ss ss' : List Request} (h : Steps module a rs rs' b)
    (hlast : Step module b ss ss' c) : Steps module a (rs ++ ss) (rs' ++ ss') c

lemma Step.steps (h : Step module a rs rs' b) : Steps module a rs rs' b := .tail (.refl a) h

lemma Steps.trans (h : Steps module a rs rs' b) (h' : Steps module b ss ss' c) :
    Steps module a (rs ++ ss) (rs' ++ ss') c := by
  induction h' with
  | refl =>
    rw [List.append_nil, List.append_nil]
    exact h
  | tail _ hlast ih =>
    rw [← List.append_assoc, ← List.append_assoc]
    exact .tail ih hlast

/-- What every step keeps, as long as what it goes through satisfies `A`, is kept. -/
lemma Steps.keep {P : Annotated α → Prop} {A : Request → Prop}
    (hstep : ∀ {a b rs rs'}, Step module a rs rs' b → (∀ r ∈ rs, A r) → P a → P b)
    (h : Steps module a rs rs' b) (hrs : ∀ r ∈ rs, A r) (ha : P a) : P b := by
  induction h with
  | refl => exact ha
  | tail _ hlast ih =>
    obtain ⟨hfirst, hsecond⟩ := List.forall_mem_append.1 hrs
    exact hstep hlast hsecond (ih hfirst)

/-! ### The manifest -/

lemma Step.asked (h : Step module a rs rs' b) : rs'.foldlM (Manifest.asked module) a.manifest =
    .ok b.manifest := by
  cases h with
  | call => rfl
  | note _ hmanifest => exact congrArg Except.ok hmanifest.symm
  | ask r _ h =>
    rw [List.foldlM_cons, h]
    rfl
  | program p q isCompiled c role _ hmanifest _ =>
    rw [List.foldlM_cons, hmanifest]
    rfl

lemma Steps.asked (h : Steps module a rs rs' b) :
    rs'.foldlM (Manifest.asked module) a.manifest = .ok b.manifest := by
  induction h with
  | refl => rfl
  | tail _ hlast ih =>
    rw [List.foldlM_append, ih]
    exact hlast.asked

/-! ### The table -/

lemma holds_quiet {c : Arena.Call} (hc : c.IsQuiet) : Work.Holds final True c.work fun _ =>
    True := by
  cases c with
  | spawn parent kind name =>
    have hspawn : Work.Holds final True (Work.spawn parent kind name) fun _ => True :=
      Work.holds_spawn parent kind name
    exact fun a => ⟨(hspawn a).1, fun hk hfinal ha => ⟨((hspawn a).2 hk hfinal ha).1, fun _ _ =>
      trivial⟩⟩
  | isolate at_ names => exact Work.holds_isolate names
  | attach at_ template options => exact Work.holds_attach at_ template options
  | _ => exact hc.elim

/-- Work that ends well, seen from the table. -/
lemma held_of_holds {w : Work Unit} {arena arena' : Arena} (hw : Work.Holds final True w fun _ =>
    True)
    (h : w.on arena = (.ok (), arena')) : arena.table.Below arena'.table ∧
      (arena'.table.Below final → arena.Held final → arena'.Held final) := by
  obtain ⟨hbelow, hheld⟩ := hw arena
  rw [h] at hbelow hheld
  exact ⟨hbelow, fun hfinal ha => (hheld trivial hfinal ha).1⟩

/-- The table grows.  If it stays below the final one, containers go on having programs of the final
table only, and what is asked for is asked for with programs of the final table. -/
lemma Step.held (final : Table) (h : Step module a rs rs' b) : a.arena.table.Below b.arena.table ∧
    (b.arena.table.Below final → a.arena.Held final →
      b.arena.Held final ∧ List.Forall₂ (Request.Stands final) rs rs') := by
  cases h with
  | call hc h =>
    have hquiet : Work.Holds final True _ _ := holds_quiet hc
    obtain ⟨hbelow, hheld⟩ := held_of_holds hquiet h
    exact ⟨hbelow, fun hfinal ha => ⟨hheld hfinal ha, .nil⟩⟩
  | note harena _ =>
    rw [harena]
    exact ⟨.refl _, fun _ ha => ⟨ha, .nil⟩⟩
  | ask r hr _ =>
    refine ⟨.refl _, fun _ ha => ⟨ha, .cons ?_ .nil⟩⟩
    cases r with
    | program p isCompiled => exact absurd rfl (hr p isCompiled)
    | _ => rfl
  | program p q isCompiled c role hq _ h =>
    have hinterns : Work.Holds final True (Work.intern p) _ := Work.holds_intern p
    have hregisters : Work.Holds final True (Work.register c q role) _ :=
      Work.holds_register c q role
    obtain ⟨hintern, hstored⟩ := hinterns a.arena
    obtain ⟨hregister, hheld⟩ := held_of_holds hregisters h
    refine ⟨hintern.trans hregister, fun hfinal ha => ?_⟩
    obtain ⟨hb, hresult⟩ := hstored trivial (hregister.trans hfinal) ha
    obtain ⟨hhas, htext⟩ := hresult _ rfl
    subst hq
    exact ⟨hheld hfinal hb, .cons ⟨_, rfl, hhas.knows, hhas.text_eq.symm.trans htext⟩ .nil⟩

lemma Steps.held (h : Steps module a rs rs' b) : a.arena.table.Below b.arena.table ∧
    (b.arena.table.Below final → a.arena.Held final →
      b.arena.Held final ∧ List.Forall₂ (Request.Stands final) rs rs') := by
  induction h with
  | refl => exact ⟨.refl _, fun _ ha => ⟨ha, .nil⟩⟩
  | tail _ hlast ih =>
    obtain ⟨hbelow, hfirst⟩ := ih
    obtain ⟨hbelow', hsecond⟩ := hlast.held final
    refine ⟨hbelow.trans hbelow', fun hfinal ha => ?_⟩
    obtain ⟨hb, hstands⟩ := hfirst (hbelow'.trans hfinal) ha
    obtain ⟨hc, hstands'⟩ := hsecond hfinal hb
    exact ⟨hc, List.rel_append hstands hstands'⟩

namespace Pass

variable {Q : β → List Request → Prop} {R : γ → List Request → Prop}

/-! ### Putting passes together -/

/-- If the pass comes to an end, it went through `rs`, and `Q` relates its result to what is asked
for from then on. -/
def Walks (module : String) (rs : List Request) (w : Pass α β) (Q : β → List Request → Prop) :
    Prop :=
  ∀ a b x, w.run a = .ok (x, b) → ∃ rs', Steps module a rs rs' b ∧ Q x rs'

lemma walks_pure {x : β} (h : Q x []) : Walks module [] (pure x : Pass α β) Q := by
  rintro a b y hrun
  cases hrun
  exact ⟨[], .refl a, h⟩

lemma walks_bind {w : Pass α β} {g : β → Pass α γ} (hw : Walks module rs w Q)
    (hg : ∀ x, Walks module ss (g x) fun y ss' => ∀ rs', Q x rs' → R y (rs' ++ ss')) :
    Walks module (rs ++ ss) (w >>= g) R := by
  rintro a c y hrun
  rw [StateT.run_bind] at hrun
  cases h : w.run a with
  | error f =>
    rw [h] at hrun
    cases hrun
  | ok r =>
    obtain ⟨x, b⟩ := r
    rw [h] at hrun
    obtain ⟨rs', hsteps, hx⟩ := hw a b x h
    obtain ⟨ss', hsteps', hy⟩ := hg x b c y hrun
    exact ⟨rs' ++ ss', hsteps.trans hsteps', hy rs' hx⟩

/-- A pass that asks for nothing comes first. -/
lemma walks_then {w : Pass α β} {g : β → Pass α γ} (hw : Walks module [] w fun _ rs' => rs' = [])
    (hg : ∀ x, Walks module rs (g x) R) : Walks module rs (w >>= g) R := by
  refine walks_bind hw fun x a b y hrun => ?_
  obtain ⟨rs', hsteps, hy⟩ := hg x a b y hrun
  refine ⟨rs', hsteps, ?_⟩
  rintro _ rfl
  exact hy

/-- A result is put into its place at last. -/
lemma walks_map {w : Pass α β} {f : β → γ} (hw : Walks module rs w Q)
    (hf : ∀ x rs', Q x rs' → R (f x) rs') :
    Walks module rs (w >>= fun x => pure (f x)) R := by
  rw [← List.append_nil rs]
  refine walks_bind hw fun x => walks_pure fun rs' hx => ?_
  rw [List.append_nil]
  exact hf x rs' hx

lemma walks_mapM {f : β → Pass α γ} {r : β → List Request} {r' : γ → List Request} {xs : List β}
    (h : ∀ x, Walks module (r x) (f x) fun y rs' => rs' = r' y) :
    Walks module (xs.flatMap r) (xs.mapM f) fun ys rs' => rs' = ys.flatMap r' := by
  induction xs with
  | nil => exact walks_pure rfl
  | cons x xs ih =>
    rw [List.mapM_cons, List.flatMap_cons]
    refine walks_bind (h x) fun y => walks_map ih ?_
    rintro ys _ rfl _ rfl
    rfl

/-! ### Steps as passes -/

lemma run_work (w : Work β) (a : Annotated α) :
    (work w : Pass α β).run a = match w.on a.arena with
      | (.ok x, arena) => .ok (x, { a with arena })
      | (.error f, _) => .error f := by
  change (match w.on a.arena with
    | (.ok b, arena) => (do set { a with arena }; return b : Pass α β)
    | (.error f, _) => throw f).run a = _
  rcases w.on a.arena with ⟨_ | _, arena⟩ <;> rfl

lemma walks_note {f : Annotated α → Annotated α} (harena : ∀ a, (f a).arena = a.arena)
    (hmanifest : ∀ a, (f a).manifest = a.manifest) :
    Walks module [] (modify f : Pass α Unit) fun _ rs' => rs' = [] := by
  rintro a b y hrun
  cases hrun
  exact ⟨[], (Step.note (harena a) (hmanifest a)).steps, rfl⟩

lemma walks_childName (name : String) : Walks module [] (childName name : Pass α Unit) fun _ rs' =>
    rs' = [] :=
  walks_note (fun a => by split <;> rfl) fun a => by split <;> rfl

lemma walks_ask {r : Request} {f : Manifest α → Manifest α}
    (hr : ∀ p isCompiled, r ≠ .program p isCompiled)
    (hf : ∀ m : Manifest α, m.asked module r = .ok (f m)) : Walks module [r]
    (ask f : Pass α Unit) fun _ rs' => rs' = [r] := by
  rintro a b y hrun
  cases hrun
  exact ⟨[r], (Step.ask r hr (hf a.manifest)).steps, rfl⟩

/-- What is asked for comes first. -/
lemma walks_asked {r : Request} {f : Manifest α → Manifest α} {g : Unit → Pass α γ}
    (hr : ∀ p isCompiled, r ≠ .program p isCompiled)
    (hf : ∀ m : Manifest α, m.asked module r = .ok (f m))
    (hg : Walks module rs (g ()) fun y rs' => R y (r :: rs')) : Walks module (r :: rs)
    (ask f >>= g) R := by
  refine walks_bind (walks_ask hr hf) fun _ a b y hrun => ?_
  obtain ⟨rs', hsteps, hy⟩ := hg a b y hrun
  refine ⟨rs', hsteps, ?_⟩
  rintro _ rfl
  exact hy

lemma walks_work {w : Work β} {c : Arena.Call} (hc : c.IsQuiet)
    (hw : ∀ arena arena' x, w.on arena = (.ok x, arena') → c.work.on arena = (.ok (), arena')) :
    Walks module [] (work w : Pass α β) fun _ rs' => rs' = [] := by
  intro a b x hrun
  rw [run_work] at hrun
  rcases hon : w.on a.arena with ⟨_ | y, arena⟩
  · rw [hon] at hrun
    cases hrun
  · rw [hon] at hrun
    cases hrun
    exact ⟨[], (Step.call hc (hw _ _ _ hon)).steps, rfl⟩

lemma walks_spawn (parent : Nat) (kind : Container.Kind) (name : String) :
    Walks module [] (work (Work.spawn parent kind name) : Pass α Nat) fun _ rs' => rs' = [] := by
  refine walks_work (c := .spawn parent kind name) trivial fun arena arena' x h => ?_
  cases h
  rfl

lemma walks_isolate (id : Nat) (names : List String) :
    Walks module [] (work (Work.update id (·.isolate names)) : Pass α Unit) fun _ rs' => rs' = [] :=
  walks_work (c := .isolate id names) trivial fun _ _ _ h => h

/-- Registering a program changes the containers, and says whether there are translations. -/
lemma run_program (module : String) {p : Program} {c : Nat} {role : Role} {line column : Nat}
    (isCompiled : Bool)
    (hrun : (program p c role line column).run a = .ok ((), b)) : ∃ arena manifest,
      (Work.register c p role).on a.arena = (.ok (), arena) ∧
      a.manifest.asked module (.program p isCompiled) = .ok manifest ∧
      b = { a with arena, manifest } := by
  have hregister : ∀ {a : Annotated α}, (do
      let a ← get
      match (Work.register c p role).on a.arena with
      | (.ok _, arena) => set { a with arena }
      | (.error f, _) => throw (located line column f) : Pass α Unit).run a = .ok ((), b) →
      ∃ arena, (Work.register c p role).on a.arena = (.ok (), arena) ∧ b = { a with arena } := by
    intro a hrun
    rw [StateT.run_bind, StateT.run_get, pure_bind] at hrun
    rcases hon : (Work.register c p role).on a.arena with ⟨_ | ⟨⟩, arena⟩
    · rw [hon] at hrun
      cases hrun
    · rw [hon] at hrun
      cases hrun
      exact ⟨arena, rfl, rfl⟩
  rw [program] at hrun
  cases hcalls : (Trellis.Node.program p).callsTranslation with
  | true =>
    rw [if_pos hcalls] at hrun
    obtain ⟨arena, hon, rfl⟩ :=
      hregister (a := { a with manifest := { a.manifest with translates := true } }) hrun
    exact ⟨arena, _, hon, by rw [Manifest.asked, hcalls, Bool.or_true], rfl⟩
  | false =>
    rw [if_neg (by rw [hcalls]; exact Bool.false_ne_true)] at hrun
    obtain ⟨arena, hon, rfl⟩ := hregister hrun
    exact ⟨arena, _, hon, by rw [Manifest.asked, hcalls, Bool.or_false], rfl⟩

/-- A program is stored and registered, and the stored program is used from then on. -/
lemma walks_interned {p : Program} {c : Nat} {role : Role} {line column : Nat}
    {g : Program → Pass α γ} (isCompiled : Bool) (hg : ∀ q, Walks module rs (g q) fun y rs' =>
    R y (.program q isCompiled :: rs')) :
    Walks module (.program p isCompiled :: rs)
      (intern p >>= fun q => program q c role line column >>= fun _ => g q) R := by
  intro a d y hrun
  generalize hq : (a.arena.table.intern p).1.program = q
  generalize he : { a with arena := { a.arena with table := (a.arena.table.intern p).2 } } = e
  have hrest : (program q c role line column >>= fun _ => g q).run e = .ok (y, d) := by
    rw [← hq, ← he]
    exact hrun
  rw [StateT.run_bind] at hrest
  cases hprogram : (program q c role line column).run e with
  | error f =>
    rw [hprogram] at hrest
    cases hrest
  | ok r =>
    obtain ⟨⟨⟩, b⟩ := r
    rw [hprogram] at hrest
    obtain ⟨rs', hsteps, hy⟩ := hg q b d y hrest
    obtain ⟨arena, manifest, hon, hmanifest, rfl⟩ := run_program module isCompiled hprogram
    subst he
    exact ⟨_, (Step.program p q isCompiled c role hq hmanifest hon).steps.trans hsteps, hy⟩

/-! ### What stands in texts and attributes -/

lemma walks_segments (c : Nat) (role : Role) (line column : Nat) (ss : List Segment) :
    Walks module (textRequests ss) (segments module c role line column ss : Pass α _)
      fun ss' rs' => rs' = textRequests ss' := by
  refine walks_mapM fun s => ?_
  cases hcontent : s.content with
  | text value space =>
    have hs : requestsOf s = [] := by rw [requestsOf, hcontent]
    rw [hs]
    exact walks_pure hs.symm
  | expression source p =>
    rw [requestsOf, hcontent]
    exact walks_interned true fun q => walks_pure rfl
  | translation text context raw isPromoted =>
    have hs : requestsOf s = [.translate text context] := by rw [requestsOf, hcontent]
    rw [hs]
    exact walks_asked (fun p isCompiled h => by cases h) (fun _ => rfl) (walks_pure hs.symm)

lemma walks_attributes (c : Nat) (call : Bool) (attrs : List Attribute) :
    Walks module (attrsRequests attrs) (attributes module c call attrs : Pass α _)
      fun attrs' rs' => rs' = attrsRequests attrs' := by
  refine walks_mapM fun a => ?_
  cases hvalue : a.value with
  | program p =>
    rw [Attribute.requests, hvalue]
    exact walks_interned _ fun q => walks_pure rfl
  | segments ss =>
    have hsegments : Walks module (textRequests ss) (do
        return { a with value := .segments (← segments module c (attrRole call a) a.line a.column ss) } : Pass α _)
        fun b rs' => rs' = b.requests :=
      walks_map (walks_segments c _ _ _ ss) fun _ _ h => h
    rw [Attribute.requests, hvalue]
    simp only
    split
    · exact walks_then (walks_childName _) fun _ => hsegments
    · exact hsegments

mutual
lemma walks_value (c : Nat) : ∀ v : TypedValue,
    Walks module v.requests (value module c v : Pass α _) fun v' rs' => rs' = v'.requests
  | .scalar type ss => by
    rw [value]
    exact walks_map (walks_segments c .option 0 0 ss) fun _ _ h => h
  | .array items => by
    rw [value]
    exact walks_map (walks_values c items) fun _ _ h => h
  | .object properties => by
    rw [value]
    exact walks_map (walks_options c properties) fun _ _ h => h

lemma walks_values (c : Nat) : ∀ vs : List TypedValue,
    Walks module (TypedValue.requestsList vs) (values module c vs : Pass α _)
      fun vs' rs' => rs' = TypedValue.requestsList vs'
  | [] => by
    rw [values]
    exact walks_pure rfl
  | v :: vs => by
    rw [values]
    refine walks_bind (walks_value c v) fun v' => walks_map (walks_values c vs) ?_
    rintro vs' _ rfl _ rfl
    rfl

lemma walks_options (c : Nat) : ∀ os : List TypedOption,
    Walks module (TypedOption.requestsList os) (options module c os : Pass α _)
      fun os' rs' => rs' = TypedOption.requestsList os'
  | [] => by
    rw [options]
    exact walks_pure rfl
  | .mk info name v :: os => by
    rw [options]
    refine walks_bind (walks_value c v) fun v' => walks_map (walks_options c os) ?_
    rintro os' _ rfl _ rfl
    rfl
end

lemma walks_clause (p : Option Program) (c line column : Nat) :
    Walks module (clauseRequests p) (clause p c line column : Pass α _)
      fun p' rs' => rs' = clauseRequests p' := by
  cases p with
  | none => exact walks_pure rfl
  | some p => exact walks_interned true fun q => walks_pure rfl

/-! ### Nodes -/

mutual
lemma walks_node : ∀ (c : Nat) (n : Markup.Node),
    Walks module n.requests (node module c n : Pass α _) fun n' rs' => rs' = n'.requests
  | c, .text info ss => by
    rw [node]
    exact walks_map (walks_segments c .simple 0 0 ss) fun _ _ h => h
  | c, .element info name attrs children void => by
    rw [node]
    refine walks_bind (walks_attributes c false attrs) fun attrs' =>
      walks_map (walks_nodes c children) ?_
    rintro children' _ rfl _ rfl
    rfl
  | c, .component info name attrs os cs => by
    rw [node]
    refine walks_asked nofun (fun _ => rfl) (walks_then (walks_spawn c .component name) fun call =>
      ?_)
    refine walks_bind (walks_attributes call true attrs) fun attrs' => ?_
    refine walks_bind (walks_options call os) fun os' => walks_map (walks_contents call cs) ?_
    rintro cs' _ rfl _ rfl _ rfl
    rfl
  | c, .partialCall info target attrs os cs => by
    -- what is left to do once the target is known
    have hrest : ∀ (call : Nat) (target : PartialTarget),
        Walks module (attrsRequests attrs ++
            (TypedOption.requestsList os ++ Content.requestsList cs)) (do
          let attrs ← attributes module call true attrs
          let os ← options module call os
          return Markup.Node.partialCall { info with container := some call } target attrs os
            (← contents module call cs) : Pass α _) fun n' rs' =>
                target.requests ++ rs' = n'.requests := by
      intro call target
      refine walks_bind (walks_attributes call true attrs) fun attrs' => ?_
      refine walks_bind (walks_options call os) fun os' => walks_map (walks_contents call cs) ?_
      rintro cs' _ rfl _ rfl _ rfl
      rfl
    cases target with
    | inline name =>
      rw [node]
      refine walks_then (walks_spawn c .component name) fun call => ?_
      exact walks_then (walks_note (fun _ => rfl) fun _ => rfl) fun _ => hrest call (.inline name)
    | «static» path =>
      rw [node]
      refine walks_then (walks_spawn c .component path) fun call => ?_
      exact walks_asked nofun (fun _ => rfl) (hrest call (.static path))
    | dynamic p =>
      rw [node]
      refine walks_then (walks_spawn c .component "") fun call => ?_
      exact walks_interned true fun q => hrest call (.dynamic q)
  | c, .template info name children => by
    have hrest : Walks module (Node.requestsList children) (do
          let t ← work (Work.spawn c .template name)
          modify fun a => { a with templates := a.templates ++ [(name, t)] }
          let children ← nodes module t children
          return Markup.Node.template { info with container := some t } name (markRoots children) :
            Pass α _)
        fun n' rs' => .define name info.line info.column :: rs' = n'.requests := by
      refine walks_then (walks_spawn c .template name) fun t => ?_
      refine walks_then (walks_note (fun _ => rfl) fun _ => rfl) fun _ =>
        walks_map (walks_nodes t children) ?_
      rintro children' _ rfl
      rw [Node.requests, requests_markRoots]
    rw [node]
    intro a b n hrun
    rw [StateT.run_bind, StateT.run_get, pure_bind] at hrun
    cases hdefine : a.manifest.define name info.line info.column with
    | error f =>
      simp only [hdefine] at hrun
      cases hrun
    | ok manifest =>
      simp only [hdefine] at hrun
      obtain ⟨rs', hsteps, hn⟩ := hrest { a with manifest } b n hrun
      exact ⟨_, (Step.ask (.define name info.line info.column) nofun hdefine).steps.trans hsteps,
        hn⟩
  | c, .branches info test children others => by
    rw [node]
    refine walks_interned true fun test' => walks_then (walks_spawn c .conditional "") fun branch =>
      ?_
    refine walks_bind (walks_nodes branch children) fun children' =>
      walks_map (walks_branches c others) ?_
    rintro others' _ rfl _ rfl
    rfl
  | c, .loop info init test update names children => by
    rw [node]
    refine walks_then (walks_spawn c .cycle "") fun loop => walks_then (walks_isolate loop names)
      fun _ => ?_
    refine walks_bind (walks_clause init loop _ _) fun init' => walks_interned true fun test' => ?_
    refine walks_bind (walks_clause update loop _ _) fun update' =>
      walks_map (walks_nodes loop children) ?_
    rintro children' _ rfl _ rfl _ rfl
    rfl
  | c, .each info index iterator collection children => by
    rw [node]
    refine walks_then (walks_spawn c .cycle "") fun loop =>
      walks_then (walks_isolate loop _) fun _ => ?_
    refine walks_interned true fun collection' => walks_map (walks_nodes loop children) ?_
    rintro children' _ rfl
    rfl

lemma walks_nodes : ∀ (c : Nat) (ns : List Markup.Node),
    Walks module (Node.requestsList ns) (nodes module c ns : Pass α _) fun ns' rs' =>
    rs' = Node.requestsList ns'
  | _, [] => by
    rw [nodes]
    exact walks_pure rfl
  | c, n :: ns => by
    rw [nodes]
    refine walks_bind (walks_node c n) fun n' => walks_map (walks_nodes c ns) ?_
    rintro ns' _ rfl _ rfl
    rfl

lemma walks_branches : ∀ (c : Nat) (bs : List Branch),
    Walks module (Branch.requestsList bs) (branches module c bs : Pass α _)
      fun bs' rs' => rs' = Branch.requestsList bs'
  | _, [] => by
    rw [branches]
    exact walks_pure rfl
  | c, .mk info test children :: bs => by
    have hrest : ∀ test : Option Program,
        Walks module (Node.requestsList children ++ Branch.requestsList bs) (do
          let branch ← work (Work.spawn c .conditional "")
          let children ← nodes module branch children
          return Branch.mk { info with container := some branch } test children ::
            (← branches module c bs) : Pass α _)
        fun bs' rs' => clauseRequests test ++ rs' = Branch.requestsList bs' := by
      intro test
      refine walks_then (walks_spawn c .conditional "") fun branch => ?_
      refine walks_bind (walks_nodes branch children) fun children' =>
        walks_map (walks_branches c bs) ?_
      rintro bs' _ rfl _ rfl
      rfl
    cases test with
    | none =>
      rw [branches]
      exact hrest none
    | some p =>
      rw [branches]
      exact walks_interned true fun q => hrest (some q)

lemma walks_contents : ∀ (call : Nat) (cs : List Content),
    Walks module (Content.requestsList cs) (contents module call cs : Pass α _)
      fun cs' rs' => rs' = Content.requestsList cs'
  | _, [] => by
    rw [contents]
    exact walks_pure rfl
  | call, .mk info name children :: cs => by
    rw [contents]
    refine walks_then (walks_spawn call .contentOption name) fun content => ?_
    refine walks_then (walks_isolate content [name]) fun _ => ?_
    refine walks_bind (walks_nodes content children) fun children' =>
      walks_map (walks_contents call cs) ?_
    rintro cs' _ rfl _ rfl
    rw [Content.requestsList, requests_markRoots]
end

/-! ### Attaching templates -/

lemma walks_attach (call : PendingCall) : Walks module [] (attach call : Pass α Unit) fun _ rs' =>
    rs' = [] := by
  intro a b x hrun
  rw [attach, StateT.run_bind, StateT.run_get, pure_bind] at hrun
  revert hrun
  split
  · rintro ⟨⟩
  · next t _ =>
    exact fun hrun => walks_work (c := .attach call.call t call.options) trivial (fun _ _ _ h =>
      h) a b x hrun

lemma walks_attachAll (calls : List PendingCall) :
    Walks module [] (calls.forM attach : Pass α Unit) fun _ rs' => rs' = [] := by
  induction calls with
  | nil => exact walks_pure rfl
  | cons call calls ih => exact walks_then (walks_attach call) fun _ => ih

/-- Attaching templates leaves the nodes alone. -/
lemma nodes_attach {call : PendingCall} {a b : Annotated α} {x : Unit}
    (hrun : (attach call).run a = .ok (x, b)) : b.nodes = a.nodes := by
  rw [attach, StateT.run_bind, StateT.run_get, pure_bind] at hrun
  revert hrun
  split
  · rintro ⟨⟩
  · next t _ =>
    rw [run_work]
    rcases (Work.attach call.call t call.options).on a.arena with ⟨_ | _, arena⟩ <;> rintro ⟨⟩
    rfl

lemma nodes_attachAll {calls : List PendingCall} {a b : Annotated α} {x : Unit}
    (hrun : (calls.forM attach).run a = .ok (x, b)) : b.nodes = a.nodes := by
  induction calls generalizing a with
  | nil =>
    cases hrun
    rfl
  | cons call calls ih =>
    change (attach call >>= fun _ => calls.forM attach).run a = _ at hrun
    rw [StateT.run_bind] at hrun
    cases h : (attach call).run a with
    | error f =>
      rw [h] at hrun
      cases hrun
    | ok r =>
      rw [h] at hrun
      exact (ih hrun).trans (nodes_attach h)

end Pass

/-! ### Annotated templates -/

/-- Annotating goes through the nodes, marks those at the top and attaches the templates that they
call. -/
lemma run_of_ofNodes {module : String} {ns : List Markup.Node} {a : Annotated α}
    (h : ofNodes module ns = .ok a) :
    ∃ ns' b, (Pass.nodes module 0 ns).run {} = .ok (ns', b) ∧
      (b.calls.forM Pass.attach).run { b with nodes := Pass.markRoots ns' } = .ok ((), a) := by
  cases htemplate : (Pass.template module ns).run {} with
  | error f =>
    rw [ofNodes, htemplate] at h
    cases h
  | ok r =>
    obtain ⟨⟨⟩, b⟩ := r
    rw [ofNodes, htemplate] at h
    obtain rfl : b = a := Except.ok.inj h
    rw [Pass.template, StateT.run_bind] at htemplate
    cases hnodes : (Pass.nodes module 0 ns).run ({} : Annotated α) with
    | error f =>
      rw [hnodes] at htemplate
      cases htemplate
    | ok r =>
      obtain ⟨ns', c⟩ := r
      rw [hnodes] at htemplate
      exact ⟨ns', c, rfl, htemplate⟩

/-- **Annotating.** Annotating goes through all that a template asks for, and leaves nodes that ask
for what it left of that. -/
theorem steps_ofNodes {ns : List Markup.Node} (h : ofNodes module ns = .ok a) :
    Steps module {} (Node.requestsList ns) (Node.requestsList a.nodes) a := by
  obtain ⟨ns', b, hnodes, hattach⟩ := run_of_ofNodes h
  have hattaches : Pass.Walks module [] (b.calls.forM Pass.attach : Pass α Unit) _ :=
    Pass.walks_attachAll b.calls
  obtain ⟨_, hsteps, rfl⟩ := Pass.walks_nodes 0 ns {} b ns' hnodes
  obtain ⟨_, hcalls, rfl⟩ := hattaches _ a () hattach
  have hnote : Step module b [] [] { b with nodes := Pass.markRoots ns' } := .note rfl rfl
  rw [Pass.nodes_attachAll hattach]
  simpa only [requests_markRoots, List.append_nil] using (hsteps.trans hnote.steps).trans hcalls

/-- The manifest of an annotated template is what asking for everything in it makes of an empty one.
-/
theorem asked_ofNodes {ns : List Markup.Node} (h : ofNodes module ns = .ok a) :
    (Node.requestsList a.nodes).foldlM (Manifest.asked module) {} = .ok a.manifest :=
  (steps_ofNodes h).asked

lemma held_start : Arena.start.Held final := by
  refine ⟨fun _ h => (List.not_mem_nil h).elim, rfl, fun hc e he => ?_⟩
  rw [(Arena.get?_start hc).2] at he
  cases he

/-- What a template asked for, it asks for with programs of the table when it was annotated. -/
theorem stands_ofNodes {ns : List Markup.Node} (h : ofNodes module ns = .ok a) :
    a.arena.Held a.arena.table ∧
      List.Forall₂ (Request.Stands a.arena.table) (Node.requestsList ns)
      (Node.requestsList a.nodes) :=
  (steps_ofNodes h).held.2 (.refl _) held_start

/-- Lists that are related have related members. -/
lemma exists_of_mem_left {R : β → γ → Prop} {xs : List β} {ys : List γ} (h : List.Forall₂ R xs ys)
    {x : β} (hx : x ∈ xs) :
    ∃ y ∈ ys, R x y := by
  induction h with
  | nil => cases hx
  | @cons x' y' _ _ hxy _ ih =>
    rcases List.mem_cons.1 hx with rfl | hx
    · exact ⟨y', List.mem_cons_self, hxy⟩
    · obtain ⟨y, hy, hxy⟩ := ih hx
      exact ⟨y, List.mem_cons_of_mem _ hy, hxy⟩

/-- **Annotated templates.**  All expressions of an annotated template, and all that its containers
watch, are programs of its table. -/
theorem held_ofNodes {ns : List Markup.Node} (h : ofNodes module ns = .ok a) :
    a.arena.Held a.arena.table ∧ Node.AllOf a.arena.table.Knows a.nodes := by
  obtain ⟨hheld, hstands⟩ := stands_ofNodes h
  refine ⟨hheld, allOf_requests.2 fun r' hr' => ?_⟩
  obtain ⟨r, -, hr⟩ := exists_of_mem_left (List.Forall₂.flip hstands) hr'
  cases r with
  | program p isCompiled =>
    obtain ⟨q, rfl, hq, -⟩ := hr
    exact hq
  | _ =>
    obtain rfl : r' = _ := hr
    trivial

end Annotated

end Trellis

/-!
Attaching inline templates.

Calls are attached in the order in which they stand, and each takes over what the container of its
template has gathered by then.  A call in another template is a call like any other, so that what it
brings into the template comes too late for the calls of that template that stand before it.
-/

namespace Trellis

namespace Annotated

open Markup Container

variable {α : Type}

/-- The texts of the programs that the root watches. -/
def watchedTexts (a : Annotated α) : List String :=
  ((a.arena.get? 0).getD default).programs.filterMap fun e =>
    if e.operation = .exclude then none else some e.stored.text

/-- A call of the template `a`. -/
def callOfA : Markup.Node := .partialCall { key := "0", line := 1, column := 1 } (.inline "a") [] []
    []

/-- The template `a`, which calls the template `b`. -/
def templateA : Markup.Node :=
  .template { key := "1", line := 2, column := 1 } "a"
    [.partialCall { key := "0", line := 2, column := 24 } (.inline "b") [] [] []]

/-- The template `b`, which shows `x`. -/
def templateB : Markup.Node :=
  let x : Span := ⟨3, 26, 3, 26⟩
  .template { key := "2", line := 3, column := 1 } "b"
    [.text { key := "0", line := 3, column := 24 }
      [{ key := "0", content := .expression "x" ⟨[.expr x (.ident x "x")], x, "x"⟩ }]]

/-- What annotating succeeds with, by what it makes reactive and watches at the root. -/
lemma exists_of_map {r : Except Fault (Annotated α)} {names texts : List String}
    (h : (r.map fun a => (a.reactive, a.watchedTexts)).toOption = some (names, texts)) :
    ∃ a, r = .ok a ∧ a.reactive = names ∧ a.watchedTexts = texts := by
  cases r with
  | error f => cases h
  | ok a =>
    cases h
    exact ⟨a, rfl, rfl, rfl⟩

/-- **The order of templates matters.**  Before a call of a template that calls another one, the two
templates make `x` reactive and watched at the root.  After it they do not. -/
theorem reactive_templates_moved :
    [callOfA, templateA, templateB].Perm [templateB, templateA, callOfA] ∧
      ∃ a a' : Annotated Unit, ofNodes "Moved" [callOfA, templateA, templateB] = .ok a ∧
        ofNodes "Moved" [templateB, templateA, callOfA] = .ok a' ∧
        a.reactive = [] ∧ a'.reactive = ["x"] ∧ a.watchedTexts = [] ∧ a'.watchedTexts = ["x"] := by
  have hearly : ((ofNodes "Moved" [callOfA, templateA, templateB] : Except Fault
      (Annotated Unit)).map fun a =>
      (a.reactive, a.watchedTexts)).toOption = some ([], []) := by decide +kernel
  have hlate : ((ofNodes "Moved" [templateB, templateA, callOfA] : Except Fault
      (Annotated Unit)).map fun a =>
      (a.reactive, a.watchedTexts)).toOption = some (["x"], ["x"]) := by decide +kernel
  obtain ⟨a, ha, hreactive, htexts⟩ := exists_of_map hearly
  obtain ⟨a', ha', hreactive', htexts'⟩ := exists_of_map hlate
  refine ⟨(List.reverse_perm [callOfA, templateA, templateB]).symm, a, a', ha, ha', ?_⟩
  exact ⟨hreactive, hreactive', htexts, htexts'⟩

end Annotated

end Trellis
