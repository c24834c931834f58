/-
The closest of several names.

`distance` is the edit distance by its recursion on the first bytes, and `Edits` are the ways in
which one list is turned into another, with the number of bytes that are touched.  The distance is
the least such number (`edits_distance`, `distance_le_of_edits`), and edits can be undone, put one
after the other and read from the back, so that the distance is symmetric, obeys the triangle
inequality and does not change when both lists are reversed.

The table of distances is kept one row at a time.  The row after a part of the first list holds its
distances to all parts of the second one that begin with the first byte (`extendRow_eq`), with the
last bytes first, so what the table ends with is the distance (`editDistance_eq`).

`nearest` goes through names in order and keeps the first of the least distance.  The names are
sorted as texts, and this is also the order of their bytes (`textLe_iff_bytes`): of those that are
equally close the one with the least bytes is kept, in whatever order the names were given.
-/
import Mathlib.Data.List.Basic
import Mathlib.Tactic.Common
import Trellis.Fault.Closest

namespace Trellis.Fault

/-! ### The edit distance -/

/-- The least number of single bytes to insert, remove or replace that turns one list into another.
-/
def distance : List UInt8 → List UInt8 → Nat
  | [], b => b.length
  | a, [] => a.length
  | x :: a, y :: b =>
    min (min (distance a (y :: b) + 1) (distance (x :: a) b + 1)) (distance a b + if x = y then 0
      else 1)
termination_by a b => a.length + b.length

@[simp] lemma distance_nil_left (b : List UInt8) : distance [] b = b.length := by rw [distance]

@[simp] lemma distance_nil_right (a : List UInt8) : distance a [] = a.length := by
  cases a with
  | nil => rw [distance]
  | cons x a => rw [distance]; simp

lemma distance_cons_cons (x y : UInt8) (a b : List UInt8) :
    distance (x :: a) (y :: b) =
      min (min (distance a (y :: b) + 1) (distance (x :: a) b + 1))
      (distance a b + if x = y then 0 else 1) := by
  rw [distance]

/-- A way to turn one list into another that touches the given number of bytes. -/
inductive Edits : List UInt8 → List UInt8 → Nat → Prop where
  | nil : Edits [] [] 0
  | keep (x : UInt8) {a b : List UInt8} {n : Nat} (h : Edits a b n) : Edits (x :: a) (x :: b) n
  | replace (x y : UInt8) {a b : List UInt8} {n : Nat} (h : Edits a b n) : Edits (x :: a) (y :: b)
      (n + 1)
  | insert (y : UInt8) {a b : List UInt8} {n : Nat} (h : Edits a b n) : Edits a (y :: b) (n + 1)
  | remove (x : UInt8) {a b : List UInt8} {n : Nat} (h : Edits a b n) : Edits (x :: a) b (n + 1)

namespace Edits

variable {a b c d : List UInt8} {m n : Nat}

lemma symm (h : Edits a b n) : Edits b a n := by
  induction h with
  | nil => exact .nil
  | keep x _ ih => exact .keep x ih
  | replace x y _ ih => exact .replace y x ih
  | insert y _ ih => exact .remove y ih
  | remove x _ ih => exact .insert x ih

lemma append (h : Edits a b m) (h' : Edits c d n) : Edits (a ++ c) (b ++ d) (m + n) := by
  induction h with
  | nil => rwa [Nat.zero_add]
  | keep x _ ih => exact .keep x ih
  | replace x y _ ih => rw [Nat.add_right_comm]; exact .replace x y ih
  | insert y _ ih => rw [Nat.add_right_comm]; exact .insert y ih
  | remove x _ ih => rw [Nat.add_right_comm]; exact .remove x ih

lemma reverse (h : Edits a b n) : Edits a.reverse b.reverse n := by
  induction h with
  | nil => exact .nil
  | keep x _ ih => rw [List.reverse_cons, List.reverse_cons]; exact ih.append (.keep x .nil)
  | replace x y _ ih =>
    rw [List.reverse_cons, List.reverse_cons]; exact ih.append (.replace x y .nil)
  | insert y _ ih =>
    have happend := ih.append (.insert y .nil)
    rwa [List.append_nil, ← List.reverse_cons] at happend
  | remove x _ ih =>
    have happend := ih.append (.remove x .nil)
    rwa [List.append_nil, ← List.reverse_cons] at happend

/-- Edits one after the other are edits that touch no more bytes.  What the second ones insert and
what the first ones remove goes ahead; else both look at the same byte. -/
lemma trans : ∀ {a b c : List UInt8} {m n : Nat}, Edits a b m → Edits b c n →
    ∃ k ≤ m + n, Edits a c k
  | _, _, _, _, _, h, .insert z h' =>
    let ⟨k, hk, hedits⟩ := h.trans h'
    ⟨k + 1, by omega, hedits.insert z⟩
  | _, _, _, _, _, .remove x h, h' =>
    let ⟨k, hk, hedits⟩ := h.trans h'
    ⟨k + 1, by omega, hedits.remove x⟩
  | _, _, _, _, _, .nil, .nil => ⟨0, Nat.zero_le _, .nil⟩
  | _, _, _, _, _, .keep x h, .keep _ h' =>
    let ⟨k, hk, hedits⟩ := h.trans h'
    ⟨k, hk, hedits.keep x⟩
  | _, _, _, _, _, .keep x h, .replace _ z h' =>
    let ⟨k, hk, hedits⟩ := h.trans h'
    ⟨k + 1, by omega, hedits.replace x z⟩
  | _, _, _, _, _, .keep x h, .remove _ h' =>
    let ⟨k, hk, hedits⟩ := h.trans h'
    ⟨k + 1, by omega, hedits.remove x⟩
  | _, _, _, _, _, .replace x _ h, .keep z h' | _, _, _, _, _, .replace x _ h, .replace _ z h' =>
    let ⟨k, hk, hedits⟩ := h.trans h'
    ⟨k + 1, by omega, hedits.replace x z⟩
  | _, _, _, _, _, .replace x _ h, .remove _ h' =>
    let ⟨k, hk, hedits⟩ := h.trans h'
    ⟨k + 1, by omega, hedits.remove x⟩
  | _, _, _, _, _, .insert _ h, .keep z h' | _, _, _, _, _, .insert _ h, .replace _ z h' =>
    let ⟨k, hk, hedits⟩ := h.trans h'
    ⟨k + 1, by omega, hedits.insert z⟩
  | _, _, _, _, _, .insert _ h, .remove _ h' =>
    let ⟨k, hk, hedits⟩ := h.trans h'
    ⟨k, by omega, hedits⟩
termination_by a b c => a.length + b.length + c.length

/-- A list can be filled byte by byte. -/
lemma fill (b : List UInt8) : Edits [] b b.length := by
  induction b with
  | nil => exact .nil
  | cons y b ih => exact .insert y ih

end Edits

lemma edits_distance (a b : List UInt8) : Edits a b (distance a b) := by
  fun_induction distance a b with
  | case1 b => exact .fill b
  | case2 a => exact (Edits.fill a).symm
  | case3 x a y b ihremove ihinsert ihboth =>
    -- the distance is one of the three ways on
    have hboth : Edits (x :: a) (y :: b) (distance a b + if x = y then 0 else 1) := by
      split
      · next heq => exact heq ▸ ihboth.keep x
      · exact ihboth.replace x y
    obtain hleast | hleast := Nat.le_total (min (distance a (y :: b) + 1) (distance (x :: a) b + 1))
      (distance a b + if x = y then 0 else 1)
    · rw [Nat.min_eq_left hleast]
      obtain hle | hle := Nat.le_total (distance a (y :: b) + 1) (distance (x :: a) b + 1)
      · rw [Nat.min_eq_left hle]
        exact ihremove.remove x
      · rw [Nat.min_eq_right hle]
        exact ihinsert.insert y
    · rw [Nat.min_eq_right hleast]
      exact hboth

lemma distance_le_of_edits {a b : List UInt8} {n : Nat} (h : Edits a b n) : distance a b ≤ n := by
  induction h with
  | nil => simp
  | keep x _ ih => rw [distance_cons_cons, if_pos rfl]; omega
  | replace x y _ ih => rw [distance_cons_cons]; split <;> omega
  | @insert y a b n _ ih =>
    cases a with
    | nil => simpa using ih
    | cons x a => rw [distance_cons_cons]; omega
  | @remove x a b n _ ih =>
    cases b with
    | nil => simpa using ih
    | cons y b => rw [distance_cons_cons]; omega

lemma distance_comm (a b : List UInt8) : distance a b = distance b a :=
  Nat.le_antisymm (distance_le_of_edits (edits_distance b a).symm)
    (distance_le_of_edits (edits_distance a b).symm)

lemma distance_triangle (a b c : List UInt8) : distance a c ≤ distance a b + distance b c := by
  obtain ⟨n, hle, hedits⟩ := (edits_distance a b).trans (edits_distance b c)
  exact Nat.le_trans (distance_le_of_edits hedits) hle

lemma distance_reverse (a b : List UInt8) : distance a.reverse b.reverse = distance a b := by
  refine Nat.le_antisymm (distance_le_of_edits (edits_distance a b).reverse) ?_
  simpa using distance_le_of_edits (edits_distance a.reverse b.reverse).reverse

/-! ### The table of distances

The table walks along both lists from the front, so its entries are the distances of what lies
behind, the last byte first. -/

/-- The distances of `p` to `q` with more and more of `ys` in front. -/
def rowFrom (p q : List UInt8) : List UInt8 → List Nat
  | [] => []
  | y :: ys => distance p (y :: q) :: rowFrom p (y :: q) ys

lemma nextRow_rowFrom (x : UInt8) (p : List UInt8) (ys : List UInt8) :
    ∀ q, nextRow x ys (distance p q) (distance (x :: p) q)
    (rowFrom p q ys) = rowFrom (x :: p) q ys := by
  induction ys with
  | nil => intro q; rfl
  | cons y ys ih =>
    intro q
    have hhere : min (min (distance p (y :: q) + 1) (distance (x :: p) q + 1))
        (distance p q + if x == y then 0 else 1) = distance (x :: p) (y :: q) := by
      simp only [distance_cons_cons, beq_iff_eq]
    simp only [nextRow, rowFrom, hhere, ih]

lemma extendRow_rowFrom (b p : List UInt8) (x : UInt8) :
    extendRow b (distance p [] :: rowFrom p [] b) x = distance (x :: p) [] :: rowFrom (x :: p)
    [] b := by
  have hfirst : distance p [] + 1 = distance (x :: p) [] := by simp
  simp only [extendRow, hfirst, nextRow_rowFrom]

lemma foldl_extendRow (b a p : List UInt8) :
    a.foldl (extendRow b) (distance p [] :: rowFrom p [] b) =
      distance (a.reverse ++ p) [] :: rowFrom (a.reverse ++ p) [] b := by
  induction a generalizing p with
  | nil => rfl
  | cons x a ih => rw [List.foldl_cons, extendRow_rowFrom, ih, List.reverse_cons, List.append_assoc,
      List.singleton_append]

/-- The row of no bytes counts up. -/
lemma rowFrom_nil (ys q : List UInt8) : rowFrom [] q ys = List.range' (q.length + 1) ys.length := by
  induction ys generalizing q with
  | nil => rfl
  | cons y ys ih =>
    rw [rowFrom, ih, distance_nil_left, List.length_cons, List.length_cons, List.range'_succ]

/-- A row ends with the distance to all of the second list. -/
lemma getLast?_rowFrom (p ys q : List UInt8) :
    (distance p q :: rowFrom p q ys).getLast? = some (distance p (ys.reverse ++ q)) := by
  induction ys generalizing q with
  | nil => rfl
  | cons y ys ih => rw [rowFrom, List.getLast?_cons_cons, ih, List.reverse_cons, List.append_assoc,
      List.singleton_append]

lemma editDistance_eq (a b : List UInt8) : editDistance a b = distance a b := by
  have hstart : List.range (b.length + 1) = distance [] [] :: rowFrom [] [] b := by
    rw [rowFrom_nil, distance_nil_left, List.length_nil, Nat.zero_add, List.range_eq_range',
      List.range'_succ]
  rw [editDistance, hstart, foldl_extendRow, getLast?_rowFrom, Option.getD_some, List.append_nil,
    List.append_nil,
    distance_reverse]

/-! ### Texts in the order of their bytes -/

/-- The first byte that tells two characters apart comes in the order of the characters: longer
encodings start with greater bytes, and encodings of one length are numbers to the base 64 with the
greatest digit first. -/
lemma utf8EncodeChar_lt {c d : Char} (h : c < d) (x y : List UInt8) :
    String.utf8EncodeChar c ++ x < String.utf8EncodeChar d ++ y := by
  have hlt : c.val.toNat < d.val.toNat := UInt32.lt_iff_toNat_lt.1 h
  have hvalid : d.val.toNat < 0x110000 := by
    have hd : d.val.isValidChar := d.valid
    simp only [UInt32.isValidChar, Nat.isValidChar] at hd
    omega
  have hdigits : ∀ n : Nat, n / 4096 = n / 64 / 64 ∧ n / 262144 = n / 64 / 64 / 64 := by omega
  unfold String.utf8EncodeChar
  generalize c.val.toNat = m at hlt
  generalize d.val.toNat = n at hlt hvalid
  simp only [(hdigits m).1, (hdigits m).2, (hdigits n).1, (hdigits n).2]
  split_ifs <;>
    simp only [List.cons_append, List.nil_append, List.cons_lt_cons_iff, UInt8.lt_iff_toNat_lt,
      ← UInt8.toNat_inj, UInt8.toNat_ofNat', Nat.reducePow] <;> omega

/-- The loop that lists the bytes of an array has those in front of it listed already, the last one
first. -/
lemma toList_loop (front back acc : List UInt8) :
    ByteArray.toList.loop ⟨⟨front ++ back⟩⟩ front.length acc = acc.reverse ++ back := by
  induction back generalizing front acc with
  | nil => rw [ByteArray.toList.loop, if_neg (by simp [ByteArray.size])]; simp
  | cons x back ih =>
    have hnext := ih (front ++ [x]) (x :: acc)
    simp only [List.append_assoc, List.singleton_append, List.length_append, List.length_singleton,
      List.reverse_cons] at hnext
    rw [ByteArray.toList.loop, if_pos (by simp [ByteArray.size])]
    simpa [ByteArray.get!] using hnext

lemma bytesOf_eq (s : String) : bytesOf s = s.toList.flatMap String.utf8EncodeChar := by
  have hbytes : s.toUTF8 = ⟨⟨s.toList.flatMap String.utf8EncodeChar⟩⟩ := by
    rw [String.toUTF8_eq_toByteArray, ← String.ofList_toList (s := s), String.toByteArray_ofList,
      List.utf8Encode,
      String.toList_ofList]
    exact ByteArray.ext (Array.ext' List.toList_data_toByteArray)
  rw [bytesOf, hbytes]
  exact toList_loop [] _ []

lemma flatMap_utf8EncodeChar_lt {cs ds : List Char} (h : cs < ds) :
    cs.flatMap String.utf8EncodeChar < ds.flatMap String.utf8EncodeChar := by
  induction h with
  | @nil d ds =>
    rw [List.flatMap_nil, List.flatMap_cons]
    obtain ⟨x, xs, hcons⟩ := List.exists_cons_of_ne_nil (String.utf8EncodeChar_ne_nil (c := d))
    rw [hcons]
    exact List.nil_lt_cons _ _
  | rel hlt => exact utf8EncodeChar_lt hlt _ _
  | cons _ ih => exact List.append_left_lt ih

lemma bytesOf_lt {s t : String} (h : s < t) : bytesOf s < bytesOf t := by
  rw [bytesOf_eq, bytesOf_eq]
  exact flatMap_utf8EncodeChar_lt h

/-- Texts stand in the order of their bytes. -/
lemma textLe_iff {s t : String} : Text.textLe s t = true ↔ bytesOf s ≤ bytesOf t := by
  have hle : Text.textLe s t = true ↔ s ≤ t := by
    rw [Text.textLe, Bool.not_eq_true', decide_eq_false_iff_not, String.not_lt]
  rw [hle]
  refine ⟨fun h => ?_, fun h => String.not_lt.1 fun hlt => h (bytesOf_lt hlt)⟩
  by_cases heq : t ≤ s
  · exact String.le_antisymm h heq ▸ List.le_refl _
  · exact List.lt_asymm (bytesOf_lt (String.not_le.1 heq))

lemma textLe_trans (a b c : String) (hab : Text.textLe a b = true) (hbc : Text.textLe b c = true) :
    Text.textLe a c = true :=
  textLe_iff.2 (List.le_trans (textLe_iff.1 hab) (textLe_iff.1 hbc))

lemma textLe_total (a b : String) : (Text.textLe a b || Text.textLe b a) = true := by
  rw [Bool.or_eq_true, textLe_iff, textLe_iff]
  exact List.le_total _ _

lemma textLe_antisymm {a b : String} (hab : Text.textLe a b = true) (hba : Text.textLe b a = true) :
    a = b := by
  rw [Text.textLe, Bool.not_eq_true', decide_eq_false_iff_not, String.not_lt] at hab hba
  exact String.le_antisymm hab hba

lemma pairwise_sortTexts (xs : List String) : (Text.sortTexts xs).Pairwise fun a b =>
    Text.textLe a b = true :=
  List.pairwise_mergeSort textLe_trans textLe_total xs

/-- A sorted list does not tell the order in which its texts were given. -/
lemma sortTexts_perm {xs ys : List String} (h : xs.Perm ys) :
    Text.sortTexts xs = Text.sortTexts ys :=
  (((List.mergeSort_perm xs _).trans h).trans (List.mergeSort_perm ys _).symm).eq_of_pairwise
    (fun _ _ _ _ hab hba => textLe_antisymm hab hba) (pairwise_sortTexts xs) (pairwise_sortTexts ys)

/-! ### The nearest name -/

/-- The distance of a name to what was written, both in lower case. -/
def distanceTo (input c : String) : Nat := distance (bytesOf (Text.lower input))
    (bytesOf (Text.lower c))

/-- `s` is, of the candidates at the least distance `d`, the one with the least bytes. -/
structure IsNearest (input : String) (candidates : List String) (s : String) (d : Nat) : Prop where
  mem : s ∈ candidates
  distance_eq : distanceTo input s = d
  least : ∀ c ∈ candidates, d ≤ distanceTo input c
  first : ∀ c ∈ candidates, distanceTo input c = d → bytesOf s ≤ bytesOf c

lemma IsNearest.perm {input s : String} {xs ys : List String} {d : Nat} (h : IsNearest input xs s d)
    (hperm : xs.Perm ys) : IsNearest input ys s d :=
  ⟨hperm.mem_iff.1 h.mem, h.distance_eq, fun c hc => h.least c (hperm.mem_iff.2 hc),
    fun c hc => h.first c (hperm.mem_iff.2 hc)⟩

/-- There is one nearest name. -/
lemma IsNearest.unique {input s t : String} {xs : List String} {d e : Nat}
    (h : IsNearest input xs s d) (h' : IsNearest input xs t e) : s = t ∧ d = e := by
  have hde : d = e := Nat.le_antisymm (h'.distance_eq ▸ h.least t h'.mem)
    (h.distance_eq ▸ h'.least s h.mem)
  refine ⟨textLe_antisymm (textLe_iff.2 (h.first t h'.mem ?_)) (textLe_iff.2 (h'.first s h.mem ?_)),
    hde⟩
  · rw [h'.distance_eq, hde]
  · rw [h.distance_eq, hde]

/-- A name in front is the nearest one when no other is closer. -/
lemma isNearest_cons {input c : String} {cs : List String}
    (hfirst : ∀ c' ∈ cs, Text.textLe c c' = true)
    (hleast : ∀ c' ∈ cs, distanceTo input c ≤ distanceTo input c') :
    IsNearest input (c :: cs) c (distanceTo input c) where
  mem := List.mem_cons_self
  distance_eq := rfl
  least := List.forall_mem_cons.2 ⟨Nat.le_refl _, hleast⟩
  first := List.forall_mem_cons.2 ⟨fun _ => List.le_refl _, fun c' hc' _ =>
    textLe_iff.1 (hfirst c' hc')⟩

lemma nearest_eq_none {input : List UInt8} {cs : List String} : nearest input cs = none ↔
    cs = [] := by
  cases cs with
  | nil => simp [nearest]
  | cons c cs =>
    rw [nearest]
    split
    · simp
    · split <;> simp

/-- Of names in order, the first of the least distance is the nearest one. -/
lemma isNearest_nearest {input : String} {cs : List String} (hsorted : cs.Pairwise fun a b =>
    Text.textLe a b = true)
    {s : String} {d : Nat} (h : nearest (bytesOf (Text.lower input)) cs = some (s, d)) :
    IsNearest input cs s d := by
  induction cs generalizing s d with
  | nil => cases h
  | cons c cs ih =>
    obtain ⟨hc, hsorted⟩ := List.pairwise_cons.1 hsorted
    rw [nearest, editDistance_eq] at h
    cases hrest : nearest (bytesOf (Text.lower input)) cs with
    | none =>
      obtain rfl := nearest_eq_none.1 hrest
      rw [hrest] at h
      cases h
      exact isNearest_cons hc nofun
    | some found =>
      obtain ⟨best, least⟩ := found
      have hbest := ih hsorted hrest
      rw [hrest] at h
      dsimp only at h
      split at h
      case isTrue hlt =>
        cases h
        refine ⟨List.mem_cons_of_mem _ hbest.mem, hbest.distance_eq,
          List.forall_mem_cons.2 ⟨Nat.le_of_lt hlt, hbest.least⟩,
          List.forall_mem_cons.2 ⟨fun heq => absurd heq (Nat.ne_of_gt hlt), hbest.first⟩⟩
      case isFalse hle =>
        cases h
        exact isNearest_cons hc fun c' hc' =>
          Nat.le_trans (Nat.le_of_not_lt hle) (hbest.least c' hc')

lemma threshold_eq (n : Nat) : threshold n = if n ≤ 3 then 1 else if n ≤ 6 then 2 else 3 := by
  unfold threshold
  split_ifs <;> omega

/-- What is suggested: the nearest name, when something was written and the name is neither the same
nor too far. -/
lemma closest_eq (input : String) (candidates : List String) :
    (∃ s d, IsNearest input candidates s d ∧ input ≠ "" ∧ 1 ≤ d ∧ d ≤ threshold input.utf8ByteSize ∧
      closest input candidates = s) ∨
    ((∀ s d, IsNearest input candidates s d → input ≠ "" → 1 ≤ d →
    ¬ d ≤ threshold input.utf8ByteSize) ∧
      closest input candidates = "") := by
  have hperm : (Text.sortTexts candidates).Perm candidates := List.mergeSort_perm _ _
  unfold closest
  split
  case isTrue hempty =>
    exact .inr ⟨fun s d _ hinput => absurd (String.isEmpty_iff.1 hempty) hinput, rfl⟩
  case isFalse hempty =>
    cases hnearest : nearest (bytesOf (Text.lower input)) (Text.sortTexts candidates) with
    | none =>
      have hnil : candidates = [] := (nearest_eq_none.1 hnearest ▸ hperm).nil_eq.symm
      exact .inr ⟨fun s d hs => absurd (hnil ▸ hs.mem) List.not_mem_nil, rfl⟩
    | some found =>
      obtain ⟨best, d⟩ := found
      have hbest := (isNearest_nearest (pairwise_sortTexts candidates) hnearest).perm hperm
      dsimp only
      split
      case isTrue hfar =>
        refine .inr ⟨fun s e hs _ hpos hle => ?_, rfl⟩
        obtain ⟨-, rfl⟩ := hs.unique hbest
        rw [Bool.or_eq_true, beq_iff_eq, decide_eq_true_eq] at hfar
        omega
      case isFalse hnear =>
        rw [Bool.or_eq_true, beq_iff_eq, decide_eq_true_eq] at hnear
        exact .inl ⟨best, d, hbest, fun hinput =>
          hempty (String.isEmpty_iff.2 hinput), by omega, by omega, rfl⟩

/-- The distances of the table are those of the recursion, which is symmetric and obeys the triangle
inequality, and the name that is suggested is the nearest one within the threshold, in whatever
order the candidates stand. -/
theorem closest_correct :
    (∀ a b, editDistance a b = distance a b) ∧
    (∀ a b, editDistance a b = editDistance b a) ∧
    (∀ a b c, editDistance a c ≤ editDistance a b + editDistance b c) ∧
    ∀ (input : String) (candidates : List String),
      (∀ others, candidates.Perm others → closest input others = closest input candidates) ∧
      ((∃ s d, IsNearest input candidates s d ∧ input ≠ "" ∧ 1 ≤ d ∧
          d ≤ (if input.utf8ByteSize ≤ 3 then 1 else if input.utf8ByteSize ≤ 6 then 2 else 3) ∧
          closest input candidates = s) ∨
        ((∀ s d, IsNearest input candidates s d → input ≠ "" → 1 ≤ d →
            ¬ d ≤ (if input.utf8ByteSize ≤ 3 then 1 else if input.utf8ByteSize ≤ 6 then 2 else 3)) ∧
          closest input candidates = "")) := by
  refine ⟨editDistance_eq, fun a b => ?_, fun a b c => ?_, fun input candidates =>
    ⟨fun others hperm => ?_, ?_⟩⟩
  · rw [editDistance_eq, editDistance_eq, distance_comm]
  · simp only [editDistance_eq]
    exact distance_triangle a b c
  · rw [closest, closest, sortTexts_perm hperm]
  · rw [← threshold_eq]
    exact closest_eq input candidates

/-- Two names are one byte away; the one that was given first is not the one with the least bytes.
-/
theorem closest_correct_uper :
    ["upper", "low", "super"].Perm ["super", "upper", "low"] ∧
      closest "uper" ["super", "upper", "low"] = closest "uper" ["upper", "low", "super"] ∧
      closest "uper" ["upper", "low", "super"] = "super" := by
  have hperm : ["upper", "low", "super"].Perm ["super", "upper", "low"] := by decide
  have hsort : Text.sortTexts ["upper", "low", "super"] = ["low", "super", "upper"] :=
    (sortTexts_perm (by decide)).trans (List.mergeSort_of_pairwise (by decide +kernel))
  refine ⟨hperm, (closest_correct.2.2.2 "uper" ["upper", "low", "super"]).1 _ hperm, ?_⟩
  simp only [closest, hsort, nearest, bytesOf_eq]
  decide +kernel

end Trellis.Fault
