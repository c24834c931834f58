/-
Runs of numbers.

Consecutive numbers are written as a run: one number, or the first and the last one.  Nothing is
lost that way (`expand_ranges`), and no fewer runs stand for the same numbers
(`length_ranges_expand_le`): what two lists are written with is enough for the one behind the other,
and the numbers of a run are written as one run again.  While watching, the renderer goes through
the numbers that the runs of a container were made from.
-/
import Mathlib.Tactic.Common
import Trellis.Proofs.Outcome
import Trellis.Render.Body

namespace Trellis.Container

lemma numbersFromTo_self (n : Int) : numbersFromTo n n = [n] := by
  have hone : (n + 1 - n).toNat = 1 := by omega
  rw [numbersFromTo, hone]
  simp

lemma numbersFromTo_cons {first last : Int} (h : first ≤ last) :
    numbersFromTo first last = first :: numbersFromTo (first + 1) last := by
  obtain ⟨k, hk⟩ : ∃ k : Nat, (last + 1 - first).toNat = k + 1 := ⟨(last - first).toNat, by omega⟩
  have hk' : (last + 1 - (first + 1)).toNat = k := by omega
  rw [numbersFromTo, numbersFromTo, hk, hk', List.range_succ_eq_map, List.map_cons, List.map_map]
  refine List.cons_eq_cons.2 ⟨by omega, List.map_congr_left fun i _ => ?_⟩
  rw [Function.comp_apply]
  omega

lemma numbersFromTo_eq_nil {first last : Int} (h : last < first) :
    numbersFromTo first last = [] := by
  have hzero : (last + 1 - first).toNat = 0 := by omega
  rw [numbersFromTo, hzero]
  rfl

lemma last_mem_numbersFromTo {first last : Int} (h : first ≤ last) :
    last ∈ numbersFromTo first last :=
  List.mem_map.2 ⟨(last - first).toNat, List.mem_range.2 (by omega), by omega⟩

/-- A run goes on to the last number that follows, and what is left comes after it. -/
lemma runEnd_spec (last : Int) (xs : List Int) :
    last ≤ (runEnd last xs).1 ∧ numbersFromTo (last + 1) (runEnd last xs).1 ++ (runEnd last xs).2 =
    xs := by
  have hnone : ∀ n : Int, numbersFromTo (n + 1) n = [] :=
    fun n => numbersFromTo_eq_nil (Int.lt_succ n)
  induction xs generalizing last with
  | nil => exact ⟨Int.le_refl _, by rw [runEnd, hnone, List.nil_append]⟩
  | cons x xs ih =>
    rw [runEnd]
    split
    · next hx =>
      obtain ⟨hle, happend⟩ := ih x
      rw [← hx, numbersFromTo_cons hle, List.cons_append, happend]
      exact ⟨by omega, rfl⟩
    · exact ⟨Int.le_refl _, by rw [hnone, List.nil_append]⟩

/-- The numbers of the runs of a list are the list. -/
theorem expand_ranges (xs : List Int) : expand (ranges xs) = xs := by
  fun_induction ranges xs with
  | case1 => rfl
  | case2 x xs ih =>
    obtain ⟨hle, happend⟩ := runEnd_spec x xs
    have hrun : expandRun (if (runEnd x xs).1 = x then [x] else [x, (runEnd x xs).1]) =
        x :: numbersFromTo (x + 1) (runEnd x xs).1 := by
      rw [← numbersFromTo_cons hle]
      split
      · next hend => rw [hend, numbersFromTo_self, expandRun]
      · rw [expandRun]
    rw [expand, List.flatMap_cons, hrun, ← expand, ih, List.cons_append, happend]

/-- Runs are written with numbers of the list. -/
lemma mem_of_mem_ranges {xs run : List Int} {n : Int} (hrun : run ∈ ranges xs) (hn : n ∈ run) :
    n ∈ xs := by
  fun_induction ranges xs with
  | case1 => exact absurd hrun List.not_mem_nil
  | case2 x xs ih =>
    obtain ⟨hle, happend⟩ := runEnd_spec x xs
    obtain rfl | hrun := List.mem_cons.1 hrun
    · have hend : (runEnd x xs).1 ∈ x :: xs := by
        have hlast := last_mem_numbersFromTo hle
        rw [numbersFromTo_cons hle] at hlast
        have hmem := List.mem_append_left (runEnd x xs).2 hlast
        rwa [List.cons_append, happend] at hmem
      split at hn
      · exact List.mem_singleton.1 hn ▸ List.mem_cons_self
      · obtain rfl | hn := List.mem_cons.1 hn
        · exact List.mem_cons_self
        · exact List.mem_singleton.1 hn ▸ hend
    · have hmem := ih hrun
      rw [← happend]
      exact List.mem_cons_of_mem _ (List.mem_append_right _ hmem)

/-! ### No fewer runs -/

/-- A run is one number or two. -/
lemma length_of_mem_ranges {xs run : List Int} (hrun : run ∈ ranges xs) : run.length = 1 ∨
    run.length = 2 := by
  fun_induction ranges xs with
  | case1 => exact absurd hrun List.not_mem_nil
  | case2 x xs ih =>
    obtain rfl | hrun := List.mem_cons.1 hrun
    · split
      · exact .inl rfl
      · exact .inr rfl
    · exact ih hrun

lemma ranges_singleton (x : Int) : ranges [x] = [[x]] := by simp [ranges, runEnd]

lemma length_ranges_cons_cons (x y : Int) (ys : List Int) :
    (ranges (x :: y :: ys)).length = (if y = x + 1 then 0 else 1) + (ranges (y :: ys)).length := by
  rw [ranges, List.length_cons, runEnd]
  split
  · rw [ranges, List.length_cons, Nat.zero_add]
  · exact Nat.add_comm _ _

lemma length_ranges_append_le (xs ys : List Int) :
    (ranges (xs ++ ys)).length ≤ (ranges xs).length + (ranges ys).length := by
  induction xs with
  | nil => exact Nat.le_add_left _ _
  | cons x xs ih =>
    cases xs with
    | nil =>
      cases ys with
      | nil => exact Nat.le_add_right _ _
      | cons y ys =>
        rw [List.singleton_append, length_ranges_cons_cons, ranges_singleton, List.length_singleton]
        split <;> omega
    | cons y xs =>
      simp only [List.cons_append, length_ranges_cons_cons] at ih ⊢
      omega

lemma length_ranges_numbersFromTo_le (first last : Int) :
    (ranges (numbersFromTo first last)).length ≤ 1 := by
  by_cases h : last < first
  · rw [numbersFromTo_eq_nil h, ranges]
    exact Nat.zero_le 1
  · obtain ⟨k, hk⟩ : ∃ k : Nat, last = first + k := ⟨(last - first).toNat, by omega⟩
    clear h
    induction k generalizing first with
    | zero =>
      obtain rfl : last = first := by omega
      exact Nat.le_of_eq (by rw [numbersFromTo_self, ranges_singleton, List.length_singleton])
    | succ k ih =>
      have hnext := ih (first + 1) (by omega)
      rw [numbersFromTo_cons (by omega)] at hnext
      rwa [numbersFromTo_cons (by omega), numbersFromTo_cons (by omega), length_ranges_cons_cons,
        if_pos rfl, Nat.zero_add]

lemma length_ranges_expandRun_le (run : List Int) : (ranges (expandRun run)).length ≤ 1 := by
  unfold expandRun
  split
  · exact Nat.le_of_eq (by rw [ranges_singleton, List.length_singleton])
  · exact length_ranges_numbersFromTo_le _ _
  · rw [ranges]
    exact Nat.zero_le 1

/-- Runs are as many as those that their numbers are written with, or more. -/
lemma length_ranges_expand_le (runs : List (List Int)) : (ranges (expand runs)).length ≤
    runs.length := by
  induction runs with
  | nil => exact Nat.le_of_eq (by rw [expand, List.flatMap_nil, ranges])
  | cons run runs ih =>
    have happend := length_ranges_append_le (expandRun run) (expand runs)
    have hrun := length_ranges_expandRun_le run
    rw [expand, List.flatMap_cons, ← expand, List.length_cons]
    omega

end Trellis.Container

/-! ### Runs while watching -/

namespace Trellis.Render

/-- Evaluates a slot while watching.  What once could not be evaluated stays so. -/
def watchSlot (t : Template) (r : Renderer) (c : Context) (slot : Nat) : Run Unit := do
  let seen := (← get).watched.find? (·.1 == slot)
  unless seen.any fun s => s.2.isUnreachable do
    let v ← tryCatch (eval t r c slot) fun _ => return .unreachable
    modify fun m => { m with watched := (slot, v) :: m.watched.filter (·.1 != slot) }

lemma collect_eq_forM (t : Template) (r : Renderer) (c : Context) (watch : Option Nat) :
    collect t r c watch = if c.watching then
      (Container.expand ((watch.bind fun i => t.description.watches[i]?).getD [])).forM fun slot =>
        watchSlot t r c slot.toNat
    else pure () := by
  rw [collect]
  cases c.watching with
  | false => rfl
  | true =>
    refine (bind_pure _).trans (forIn_eq_forM (m := Run) fun slot => ?_)
    rw [watchSlot, bind_assoc]
    refine bind_congr fun m => ?_
    dsimp only
    split
    · exact (pure_bind _ _).symm
    · simp only [bind_assoc]

end Trellis.Render

namespace Trellis.Container

/-- **Runs lose nothing, and none are fewer.** The numbers of the runs of a list are the list,
whether it increases or not, and while watching the renderer goes through just these numbers.  The
runs are single numbers and pairs, and no list of runs, of whatever form, has the same numbers and
is shorter. -/
theorem ranges_shortest (xs : List Int) :
    expand (ranges xs) = xs ∧
      (∀ (t : Template) (r : Renderer) (c : Context) (i : Nat), t.description.watches[i]? =
      some (ranges xs) →
        Render.collect t r c (some i) =
          if c.watching then xs.forM fun slot => Render.watchSlot t r c slot.toNat else pure ()) ∧
      (∀ run ∈ ranges xs, run.length = 1 ∨ run.length = 2) ∧
      ∀ runs : List (List Int), expand runs = xs → (ranges xs).length ≤ runs.length := by
  refine ⟨expand_ranges xs, fun t r c i hi => ?_, fun run => length_of_mem_ranges, fun runs hruns =>
    ?_⟩
  · rw [Render.collect_eq_forM, Option.bind_some, hi, Option.getD_some, expand_ranges]
  · exact hruns ▸ length_ranges_expand_le runs

end Trellis.Container
