/-
Calls on an arena.

What happens to an arena is a list of calls (`Arena.after`).  A call only ever changes containers
that are there; the first one is the root, and it stays the only container without a parent
(`rooted_after`).
-/
import Trellis.Proofs.Container.Hoist

namespace Trellis

open Container

namespace Arena

/-- A call on an arena. -/
inductive Call where
  | spawn (parent : Nat) (kind : Kind) (name : String)
  | isolate (at_ : Nat) (names : List String)
  | register (at_ : Nat) (p : Program) (role : Role)
  | attach (at_ template : Nat) (options : List String)
  | intern (p : Program)
  | parse (text : String)
  | allocate (p : Program)
  | watch (at_ : Nat)

/-- What a call does. -/
def Call.work : Call → Work Unit
  | .spawn parent kind name => do let _ ← Work.spawn parent kind name; return
  | .isolate at_ names => Work.update at_ (·.isolate names)
  | .register at_ p role => Work.register at_ p role
  | .attach at_ template options => Work.attach at_ template options
  | .intern p => do let _ ← Work.intern p; return
  | .parse text => do let _ ← Work.parse text; return
  | .allocate p => do let _ ← Work.allocate (← Work.intern p); return
  | .watch at_ => do let _ ← Work.watched at_; return

/-- The containers that a call is about. -/
def Call.containers : Call → List Nat
  | .spawn parent _ _ => [parent]
  | .isolate at_ _ | .register at_ _ _ | .watch at_ => [at_]
  | .attach at_ template _ => [at_, template]
  | .intern _ | .parse _ | .allocate _ => []

/-- The arena after a call, also after one that failed.  There are no calls on containers that do
not exist. -/
def call (a : Arena) (c : Call) : Arena :=
  if ∀ id ∈ c.containers, id < a.containers.size then (c.work.on a).2 else a

/-- The arena after calls. -/
def after (a : Arena) (calls : List Call) : Arena := calls.foldl call a

lemma after_append (a : Arena) (calls more : List Call) :
    a.after (calls ++ more) = (a.after calls).after more := List.foldl_append

lemma after_snoc (a : Arena) (calls : List Call) (c : Call) :
    a.after (calls ++ [c]) = (a.after calls).call c := a.after_append calls [c]

/-- What holds at first and is kept by every call holds after all calls. -/
lemma after_induction {P : Arena → Prop} {a : Arena} {calls : List Call} (ha : P a)
    (hcall : ∀ (a : Arena), ∀ c ∈ calls, (∀ id ∈ c.containers, id < a.containers.size) → P a →
      P (c.work.on a).2) : P (a.after calls) := by
  induction calls generalizing a with
  | nil => exact ha
  | cons c calls ih =>
    refine ih ?_ fun a d hd => hcall a d (List.mem_cons_of_mem c hd)
    rw [call]
    split
    · next hids => exact hcall a c List.mem_cons_self hids ha
    · exact ha

/-! ### Views of containers -/

/-- Work that keeps what is seen of each container. -/
def viewDrift {γ : Type} (view : Container → γ) (hview : ∀ c e, view (c.accept e) = view c) :
    Drift where
  Fit _ := True
  Fine _ := True
  Known _ _ := True
  Becomes a b := ∀ id, (b.get? id).map view = (a.get? id).map view
  refl _ _ := rfl
  trans h h' id := (h' id).trans (h id)
  known_of_becomes _ _ := trivial
  fine_of_path _ _ _ := trivial
  fine_of_bind _ _ _ := trivial
  known_of_find? _ _ := trivial
  known_entry _ _ _ _ := trivial
  intern _ _ := ⟨trivial, fun _ => rfl, trivial⟩
  accept {a e} at_ _ _ := by
    refine ⟨trivial, fun id => ?_⟩
    rw [get?_update]
    split
    · simp [Function.comp_def, hview]
    · rfl

variable {γ : Type} {view : Container → γ} {hview : ∀ c e, view (c.accept e) = view c}

lemma map_view_update (view : Container → γ) {f : Container → Container}
    (h : ∀ c, view (f c) = view c)
    (a : Arena) (at_ id : Nat) : ((a.update at_ f).get? id).map view = (a.get? id).map view := by
  rw [get?_update]
  split
  · simp [Function.comp_def, h]
  · rfl

lemma allows_view {f : Container → Container} (h : ∀ c, view (f c) = view c) :
    (viewDrift view hview).Allows f := fun a at_ _ => ⟨trivial, map_view_update view h a at_⟩

/-! ### Calls that build -/

/-- Adding a container, isolating names, and registering a program that was read. -/
def Call.Builds : Call → Prop
  | .spawn .. | .isolate .. => True
  | .register _ p _ => p.IsRead
  | _ => False

/-- Calls that build lead to arenas that can be reached. -/
lemma reachable_after {calls : List Call} (hcalls : ∀ c ∈ calls, c.Builds) :
    (start.after calls).Reachable := by
  refine after_induction .start fun a c hc hids ha => ?_
  have hbuilds := hcalls c hc
  cases c with
  | spawn parent kind name => exact .spawn kind name ha (hids parent (List.mem_singleton_self _))
  | isolate at_ names => exact .isolate at_ names ha
  | register at_ p role => exact .register at_ role ha hbuilds
  | _ => cases hbuilds

/-- The root is the one container without a parent. -/
def Rooted (a : Arena) : Prop := ∀ id c, a.get? id = some c → (c.parent = none ↔ id = 0)

lemma Rooted.of_view {a b : Arena} (ha : a.Rooted)
    (h : ∀ id, (b.get? id).map (·.parent) = (a.get? id).map (·.parent)) : b.Rooted := by
  intro id c hc
  have hid := h id
  rw [hc, Option.map_some] at hid
  obtain ⟨d, hd, hparent⟩ := Option.map_eq_some_iff.1 hid.symm
  rw [← hparent]
  exact ha id d hd

lemma rooted_start : start.Rooted := by
  intro id c hc
  obtain ⟨rfl, rfl⟩ := get?_start hc
  simp

lemma Rooted.spawn {a : Arena} {parent : Nat} (ha : a.Rooted) (hparent : parent < a.containers.size)
    (kind : Kind) (name : String) : (a.spawn parent kind name).2.Rooted := by
  intro id c hc
  obtain hc | ⟨rfl, rfl⟩ := get?_push hc
  · have hview := map_view_update Container.parent
      (f := fun c => { c with children := c.children ++ [a.containers.size] }) (fun _ =>
        rfl) a parent
    exact ha.of_view hview id c hc
  · have hsize : (a.update parent fun c =>
        { c with children := c.children ++ [a.containers.size] }).containers.size =
          a.containers.size := Array.size_modify
    rw [hsize]
    exact ⟨fun h => absurd h (Option.some_ne_none parent), fun h => by omega⟩

/-- The way up always ends at the root. -/
lemma rooted_after {calls : List Call} (hcalls : ∀ c ∈ calls, c.Builds) :
    (start.after calls).Rooted := by
  have hisolate : ∀ (c : Container) names, (c.isolate names).parent = c.parent := fun c names => by
    obtain ⟨isolated, heq, -⟩ := c.isolate_eq names
    rw [heq]
  have hreactive : ∀ (c : Container) name, (c.addReactive name).parent = c.parent :=
      fun c name => by
    have hgrows : Container.Grows [] c (c.addReactive name) := grows_addReactive c name
    exact hgrows.parent_eq
  refine after_induction rooted_start fun a c hc hids ha => ?_
  have hbuilds := hcalls c hc
  cases c with
  | spawn parent kind name => exact ha.spawn (hids parent (List.mem_singleton_self _)) kind name
  | isolate at_ names =>
    exact ha.of_view (map_view_update Container.parent (hisolate · names) a at_)
  | register at_ p role =>
    have hmoves : Work.Moves (viewDrift Container.parent fun _ _ =>
      rfl) [] (Work.register at_ p role) fun _ => [] :=
      Work.moves_register trivial at_ role (fun name => allows_view (hreactive · name))
        fun _ _ _ _ _ => allows_view (hisolate · _)
    exact ha.of_view (hmoves a trivial (by simp)).2.1
  | _ => cases hbuilds

end Arena

end Trellis
