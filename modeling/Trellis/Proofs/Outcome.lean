/-
Work that may fail.

Work in `Except` gives a result or stops with a fault.  These lemmas read off what was done when
there is a result: one for each way of putting work together.
-/
import Mathlib.Data.List.Forall2
import Mathlib.Tactic.Common

namespace Trellis

variable {α β ε : Type}

lemma bind_eq_ok {w : Except ε α} {g : α → Except ε β} {y : β} :
    (w >>= g) = .ok y ↔ ∃ x, w = .ok x ∧ g x = .ok y := by
  cases w with
  | error e =>
    constructor
    · intro h
      cases h
    · rintro ⟨x, hx, -⟩
      cases hx
  | ok x =>
    constructor
    · exact fun h => ⟨x, rfl, h⟩
    · rintro ⟨x', hx, h⟩
      cases hx
      exact h

/-- Work of which something is known that its result alone has. -/
lemma eq_ok_of_toOption {w : Except ε α} {g : α → β} {y : β} (h : w.toOption.map g = some y) :
    ∃ x, w = .ok x ∧ g x = y := by
  cases w with
  | error e => cases h
  | ok x => exact ⟨x, rfl, Option.some.inj h⟩

/-- Checks one after the other. -/
lemma seq_eq_ok {v w : Except ε Unit} : (v >>= fun _ => w) = .ok () ↔ v = .ok () ∧ w = .ok () := by
  rw [bind_eq_ok]
  constructor
  · rintro ⟨u, hv, hw⟩
    exact ⟨hv, hw⟩
  · rintro ⟨hv, hw⟩
    exact ⟨(), hv, hw⟩

/-- A condition under which nothing goes on. -/
lemma throwing_eq_ok {p : Prop} [Decidable p] {f : ε} {g : PUnit → Except ε β} {w : Except ε β}
    {y : β} :
    (if p then (throw f : Except ε PUnit) >>= g else w) = .ok y ↔ ¬p ∧ w = .ok y := by
  split
  next hp =>
    constructor
    · intro h
      cases h
    · exact fun h => absurd hp h.1
  next hp => exact ⟨fun h => ⟨hp, h⟩, fun h => h.2⟩

lemma mapM_eq_ok {xs : List α} {f : α → Except ε β} {ys : List β} :
    xs.mapM f = .ok ys ↔ List.Forall₂ (fun x y => f x = .ok y) xs ys := by
  induction xs generalizing ys with
  | nil => cases ys <;> simp [pure, Except.pure]
  | cons x xs ih =>
    rw [List.mapM_cons, bind_eq_ok]
    constructor
    · rintro ⟨y, hy, h⟩
      obtain ⟨ys', hys, h⟩ := bind_eq_ok.1 h
      cases h
      exact .cons hy (ih.1 hys)
    · intro h
      cases h with
      | @cons _ y _ ys' hy hys => exact ⟨y, hy, bind_eq_ok.2 ⟨ys', ih.2 hys, rfl⟩⟩

lemma forM_eq_ok {xs : List α} {f : α → Except ε Unit} :
    xs.forM f = .ok () ↔ ∀ x ∈ xs, f x = .ok () := by
  induction xs with
  | nil => exact iff_of_true rfl fun _ hx => absurd hx List.not_mem_nil
  | cons x xs ih =>
    have hcons : (x :: xs).forM f = (f x >>= fun _ => xs.forM f) := rfl
    rw [hcons, seq_eq_ok, ih, List.forall_mem_cons]

/-- A loop that goes through the whole list, in work of any kind. -/
lemma forIn_eq_forM {m : Type → Type} [Monad m] [LawfulMonad m] {xs : List α}
    {f : α → PUnit → m (ForInStep PUnit)}
    {g : α → m PUnit} (h : ∀ x, f x ⟨⟩ = (do g x; return .yield ⟨⟩)) :
    forIn xs ⟨⟩ f = xs.forM g := by
  induction xs with
  | nil => rfl
  | cons x xs ih =>
    rw [List.forIn_cons, h, bind_assoc, show (x :: xs).forM g = (g x >>= fun _ =>
      xs.forM g) from rfl]
    exact bind_congr fun _ => by rw [pure_bind]; exact ih

end Trellis
