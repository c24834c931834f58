/-
Paths below a folder, and files that are the same there.

A path is cleaned name by name.  Where it is rooted, proper names are left, none of which is empty,
a dot or two dots (`Path.names_proper`), and cleaning again changes nothing (`Path.names_clean`).
Names without a dot lead down only, so that a path made of a rooted one and of such names is the
cleaned rooted one with these names behind it (`Path.clean_below`).

Two trees are the same along a path if the path leads to the same tree in both of them, or to none
in both (`FileTree.SameAt`).  Then they are so below the path as well
(`FileTree.SameAt.find_append`), and stay the same when something is written, wherever that is
(`FileTree.SameAt.set`).
-/
import Mathlib.Tactic.Common
import Trellis.Files

namespace Trellis

namespace Text

lemma not_isEmpty_iff {s : String} : (!s.isEmpty) = true ↔ s ≠ "" := by
  rw [Bool.not_eq_true', ← Bool.not_eq_true, String.isEmpty_iff]

/-- Pieces between separators, as the library has them. -/
lemma splitChars_eq (sep : Char) (cs : List Char) : splitChars sep cs = cs.splitOn sep := by
  induction cs with
  | nil => rfl
  | cons c cs ih =>
    rw [splitChars, List.splitOn_cons_eq_if_modifyHead, ih]
    cases h : cs.splitOn sep with
    | nil => exact absurd h (List.splitOn_ne_nil sep cs)
    | cons w ws => rfl

lemma splitOnChar_append (s t : String) :
    splitOnChar (s ++ "/" ++ t) '/' = splitOnChar s '/' ++ splitOnChar t '/' := by
  have htext : (s ++ "/" ++ t).toList = s.toList ++ '/' :: t.toList := by simp
  rw [splitOnChar, splitOnChar, splitOnChar, htext, splitChars_eq, splitChars_eq, splitChars_eq,
    List.splitOn_append_cons_self, List.map_append]

/-- Names without a slash are parted again when they were put together with slashes. -/
lemma splitOnChar_intercalate {names : List String} (hne : names ≠ [])
    (h : ∀ x ∈ names, '/' ∉ x.toList) :
    splitOnChar ("/".intercalate names) '/' = names := by
  rw [splitOnChar, splitChars_eq, String.toList_intercalate,
    show "/".toList = ['/'] from rfl, List.splitOn_intercalate, List.map_map]
  · exact List.map_id'' (fun _ => String.ofList_toList) names
  · intro l hl
    obtain ⟨x, hx, rfl⟩ := List.mem_map.1 hl
    exact h x hx
  · exact fun hmap => hne (List.map_eq_nil_iff.1 hmap)

/-- A piece has no separator, and its characters are those of the text. -/
lemma mem_splitChars {sep : Char} {w cs : List Char} (h : w ∈ splitChars sep cs) : sep ∉ w ∧
    ∀ c ∈ w, c ∈ cs := by
  induction cs generalizing w with
  | nil =>
    obtain rfl := List.mem_singleton.1 h
    exact ⟨List.not_mem_nil, fun _ hc => hc⟩
  | cons c cs ih =>
    rw [splitChars] at h
    cases hpieces : splitChars sep cs with
    | nil => exact absurd ((splitChars_eq sep cs).symm.trans hpieces) (List.splitOn_ne_nil sep cs)
    | cons v vs =>
      rw [hpieces] at h ih
      obtain ⟨hv, hvcs⟩ := ih List.mem_cons_self
      dsimp only at h
      split at h
      · obtain rfl | h := List.mem_cons.1 h
        · exact ⟨List.not_mem_nil, fun _ hc => absurd hc List.not_mem_nil⟩
        · exact ⟨(ih h).1, fun d hd => List.mem_cons_of_mem c ((ih h).2 d hd)⟩
      · next hc =>
        obtain rfl | h := List.mem_cons.1 h
        · refine ⟨fun hsep => ?_, fun d hd => ?_⟩
          · obtain rfl | hsep := List.mem_cons.1 hsep
            · exact hc (beq_self_eq_true _)
            · exact hv hsep
          · obtain rfl | hd := List.mem_cons.1 hd
            · exact List.mem_cons_self
            · exact List.mem_cons_of_mem c (hvcs d hd)
        · have hvs := ih (List.mem_cons_of_mem v h)
          exact ⟨hvs.1, fun d hd => List.mem_cons_of_mem c (hvs.2 d hd)⟩

lemma mem_splitOnChar {sep : Char} {s x : String} (h : x ∈ splitOnChar s sep) :
    sep ∉ x.toList ∧ ∀ c ∈ x.toList, c ∈ s.toList := by
  obtain ⟨w, hw, rfl⟩ := List.mem_map.1 h
  rw [String.toList_ofList]
  exact mem_splitChars hw

/-- What has no separator belongs to the last piece of what it is put behind. -/
lemma splitChars_append_flat {sep : Char} {back : List Char} (hback : sep ∉ back) (cs : List Char) :
    ∃ ws w, splitChars sep cs = ws ++ [w] ∧ splitChars sep (cs ++ back) = ws ++ [w ++ back] := by
  induction cs with
  | nil => exact ⟨[], [], rfl, (splitChars_eq sep back).trans (List.splitOn_eq_singleton hback)⟩
  | cons c cs ih =>
    obtain ⟨ws, w, hcs, hall⟩ := ih
    rw [List.cons_append, splitChars, splitChars, hcs, hall]
    cases ws with
    | nil =>
      by_cases hc : c == sep
      · exact ⟨[[]], w, if_pos hc, if_pos hc⟩
      · exact ⟨[], c :: w, if_neg hc, if_neg hc⟩
    | cons v ws =>
      by_cases hc : c == sep
      · exact ⟨[] :: v :: ws, w, if_pos hc, if_pos hc⟩
      · exact ⟨(c :: v) :: ws, w, if_neg hc, if_neg hc⟩

lemma dropPiece?_append (piece rest : List Char) : dropPiece? piece (piece ++ rest) =
    some rest := by
  induction piece with
  | nil => rfl
  | cons c piece ih => rw [List.cons_append, dropPiece?, beq_self_eq_true, if_pos rfl, ih]

lemma endsWith_append (s piece : String) : endsWith (s ++ piece) piece := by
  rw [endsWith, String.toList_append, List.reverse_append, dropPiece?_append]
  rfl

end Text

namespace Path

/-! ### Cleaning -/

/-- A name that leads down by one step. -/
structure IsProper (name : String) : Prop where
  flat : '/' ∉ name.toList
  ne_empty : name ≠ ""
  ne_dot : name ≠ "."
  ne_up : name ≠ ".."

lemma push_proper {rooted : Bool} {ns : List String} {name : String} (h : IsProper name) :
    push rooted ns name = name :: ns := by
  unfold push
  rw [if_neg, if_neg]
  · exact fun hup => h.ne_up (eq_of_beq hup)
  · rw [Bool.or_eq_true]
    rintro (hempty | hdot)
    · exact h.ne_empty (String.isEmpty_iff.1 hempty)
    · exact h.ne_dot (eq_of_beq hdot)

lemma push_empty (rooted : Bool) (ns : List String) : push rooted ns "" = ns := rfl

/-- Names of which each is empty or leads down are read onto those before them. -/
lemma foldl_push {rooted : Bool} {names : List String} (h : ∀ x ∈ names, x ≠ "" → IsProper x)
    (ns : List String) :
    names.foldl (push rooted) ns = (names.filter (!·.isEmpty)).reverse ++ ns := by
  induction names generalizing ns with
  | nil => rfl
  | cons x names ih =>
    obtain ⟨hx, hnames⟩ := List.forall_mem_cons.1 h
    rw [List.foldl_cons, ih hnames]
    by_cases hempty : x = ""
    · subst hempty
      rfl
    · rw [push_proper (hx hempty), List.filter_cons_of_pos (p := fun x : String =>
        !x.isEmpty) (Text.not_isEmpty_iff.2 hempty),
        List.reverse_cons, List.append_assoc]
      rfl

/-- On from the root, names that lead down stay. -/
lemma push_rooted {ns : List String} (hns : ∀ x ∈ ns, IsProper x) {name : String}
    (hflat : '/' ∉ name.toList) :
    ∀ x ∈ push true ns name, IsProper x := by
  unfold push
  split
  · exact hns
  · next hskip =>
    rw [Bool.or_eq_true, not_or] at hskip
    split
    · cases ns with
      | nil => exact fun x hx => absurd hx List.not_mem_nil
      | cons last rest =>
        -- the last name leads down, and two dots take it away
        have hlast : (last == "..") = false :=
          beq_eq_false_iff_ne.2 (hns last List.mem_cons_self).ne_up
        dsimp only
        rw [hlast, if_neg Bool.false_ne_true]
        exact fun x hx => hns x (List.mem_cons_of_mem last hx)
    · next hup =>
      refine List.forall_mem_cons.2 ⟨⟨hflat, ?_, ?_, ?_⟩, hns⟩
      · exact fun heq => hskip.1 (String.isEmpty_iff.2 heq)
      · exact fun heq => hskip.2 (beq_iff_eq.2 heq)
      · exact fun heq => hup (beq_iff_eq.2 heq)

variable {root : String}

/-- The names of a rooted path lead down. -/
lemma names_proper (hroot : isRooted root) : ∀ x ∈ names root, IsProper x := by
  have hfold : ∀ (pieces ns : List String), (∀ x ∈ pieces, '/' ∉ x.toList) →
    (∀ x ∈ ns, IsProper x) →
      ∀ x ∈ pieces.foldl (push true) ns, IsProper x := by
    intro pieces
    induction pieces with
    | nil => exact fun _ _ hns => hns
    | cons y pieces ih =>
      intro ns hpieces hns
      obtain ⟨hy, hpieces⟩ := List.forall_mem_cons.1 hpieces
      exact ih _ hpieces (push_rooted hns hy)
  intro x hx
  rw [names, hroot] at hx
  exact hfold _ [] (fun y hy => (Text.mem_splitOnChar hy).1) (fun y hy =>
    absurd hy List.not_mem_nil) x
    (List.mem_reverse.1 hx)

lemma isRooted_iff : isRooted root ↔ ∃ cs, root.toList = '/' :: cs := by
  rw [isRooted, Text.startsWith, show "/".toList = ['/'] from rfl]
  cases root.toList with
  | nil => exact iff_of_false Bool.false_ne_true (by rintro ⟨cs, hcs⟩; cases hcs)
  | cons c cs =>
    rw [Text.dropPiece?]
    by_cases hc : '/' = c
    · subst hc
      exact iff_of_true rfl ⟨cs, rfl⟩
    · rw [if_neg fun heq => hc (eq_of_beq heq)]
      refine iff_of_false Bool.false_ne_true ?_
      rintro ⟨ds, hds⟩
      exact hc (List.cons.inj hds).1.symm

lemma isRooted_append (hroot : isRooted root) (s : String) : isRooted (root ++ s) := by
  obtain ⟨cs, hcs⟩ := isRooted_iff.1 hroot
  exact isRooted_iff.2 ⟨cs ++ s.toList, by rw [String.toList_append, hcs]; rfl⟩

lemma isRooted_ofNames (ns : List String) : isRooted (ofNames true ns) := isRooted_append rfl _

lemma isRooted_clean (hroot : isRooted root) : isRooted (clean root) := by
  rw [clean, hroot]
  exact isRooted_ofNames _

/-- Names that lead down, read after a rooted path. -/
lemma names_below (hroot : isRooted root) {x : String}
    (hx : ∀ y ∈ Text.splitOnChar x '/', y ≠ "" → IsProper y) :
    names (root ++ "/" ++ x) = names root ++ (Text.splitOnChar x '/').filter (!·.isEmpty) := by
  rw [names, String.append_assoc, isRooted_append hroot, ← String.append_assoc,
    Text.splitOnChar_append,
    List.foldl_append, foldl_push hx, List.reverse_append, List.reverse_reverse, names, hroot]

lemma filter_proper {ns : List String} (h : ∀ x ∈ ns, IsProper x) : ns.filter (!·.isEmpty) = ns :=
  List.filter_eq_self.2 fun x hx => Text.not_isEmpty_iff.2 (h x hx).ne_empty

/-- Proper names are the pieces that they were put together from. -/
lemma filter_intercalate {ns : List String} (h : ∀ x ∈ ns, IsProper x) :
    (Text.splitOnChar ("/".intercalate ns) '/').filter (!·.isEmpty) = ns := by
  by_cases hns : ns = []
  · subst hns
    rfl
  · rw [Text.splitOnChar_intercalate hns fun x hx => (h x hx).flat]
    exact filter_proper h

/-- The names of the path with given proper names. -/
lemma names_ofNames {ns : List String} (h : ∀ x ∈ ns, IsProper x) :
    names (ofNames true ns) = ns := by
  have hpieces : ∀ y ∈ Text.splitOnChar ("/".intercalate ns) '/', y ≠ "" → IsProper y := by
    intro y hy hne
    rw [← filter_intercalate h] at h
    exact h y (List.mem_filter.2 ⟨hy, Text.not_isEmpty_iff.2 hne⟩)
  have hsplit : Text.splitOnChar (ofNames true ns) '/' = "" :: Text.splitOnChar ("/".intercalate ns)
    '/' :=
    Text.splitOnChar_append "" ("/".intercalate ns)
  rw [names, isRooted_ofNames, hsplit, List.foldl_cons, push_empty, foldl_push hpieces,
    List.append_nil,
    List.reverse_reverse, filter_intercalate h]

/-- Cleaning a rooted path again changes nothing. -/
lemma names_clean (hroot : isRooted root) : names (clean root) = names root := by
  rw [clean, hroot]
  exact names_ofNames (names_proper hroot)

/-- A folder and the slash between it and what is in it. -/
def inside (folder : String) : String := if folder = "/" then "/" else folder ++ "/"

lemma isRooted_inside (hroot : isRooted root) : isRooted (inside root) := by
  unfold inside
  split
  · rfl
  · exact isRooted_append hroot "/"

lemma ofNames_append {ns fs : List String} (hns : ∀ x ∈ ns, IsProper x) (hfs : fs ≠ []) :
    ofNames true (ns ++ fs) = inside (ofNames true ns) ++ "/".intercalate fs := by
  by_cases hempty : ns = []
  · subst hempty
    rfl
  · have hne : ofNames true ns ≠ "/" := by
      intro heq
      have hnames := names_ofNames hns
      rw [heq] at hnames
      exact hempty hnames.symm
    rw [inside, if_neg hne, ofNames, ofNames, if_pos rfl, if_pos rfl,
      String.intercalate_append_of_ne_nil hempty hfs, String.append_assoc, String.append_assoc,
        String.append_assoc]

/-- **Names that lead down stay below.** A path made of a rooted one and of names that are empty or
lead down is the cleaned rooted one with these names behind it. -/
theorem clean_below (hroot : isRooted root) {x : String}
    (hx : ∀ y ∈ Text.splitOnChar x '/', y ≠ "" → IsProper y)
    (hne : (Text.splitOnChar x '/').filter (!·.isEmpty) ≠ []) :
    clean (root ++ "/" ++ x) =
      inside (clean root) ++ "/".intercalate ((Text.splitOnChar x '/').filter (!·.isEmpty)) := by
  rw [clean, clean, names_below hroot hx, hroot, String.append_assoc, isRooted_append hroot]
  exact ofNames_append (names_proper hroot) hne

lemma join_pair {a b : String} (ha : a ≠ "") (hb : b ≠ "") :
    join [a, b] = clean (a ++ "/" ++ b) := by
  rw [join, List.filter_cons_of_pos (p := fun x : String => !x.isEmpty) (Text.not_isEmpty_iff.2 ha),
    List.filter_cons_of_pos (p := fun x : String => !x.isEmpty) (Text.not_isEmpty_iff.2 hb),
      List.filter_nil]
  dsimp only
  rw [String.intercalate_cons_cons, String.intercalate_singleton]

end Path

namespace FileTree

variable {names : List String} {t u : FileTree}

/-! ### Trees that are the same somewhere -/

lemma child?_cons (e : String × FileTree) (es : List (String × FileTree)) (x : String) :
    child? x (e :: es) = if e.1 = x then some e.2 else child? x es := by
  rw [child?, child?, List.find?_cons]
  by_cases hx : e.1 = x
  · rw [if_pos hx, beq_iff_eq.2 hx]
    rfl
  · rw [if_neg hx, beq_eq_false_iff_ne.2 hx]

/-- Of an entry that was set one finds it, and what else there was. -/
lemma child?_setEntry (name : String) (t : FileTree) (es : List (String × FileTree)) (x : String) :
    child? x (setEntry name t es) = if name = x then some t else child? x es := by
  induction es with
  | nil => exact child?_cons (name, t) [] x
  | cons e es ih =>
    rw [setEntry]
    split
    · next heq =>
      rw [child?_cons, child?_cons, eq_of_beq heq]
      split <;> rfl
    · split
      · rw [child?_cons]
      · next hne _ =>
        rw [child?_cons, child?_cons, ih]
        split
        · next hx => rw [if_neg fun heq => hne (beq_iff_eq.2 (hx.trans heq.symm))]
        · rfl

/-- Names lead to the same tree in two trees, or to none in both: on the way there are folders in
both of them, up to where the trees are the same, or where both have a file in the way or nothing
under the next name. -/
inductive SameAt : List String → FileTree → FileTree → Prop
  | same (names : List String) (t : FileTree) : SameAt names t t
  | blocked (name : String) (names : List String) (body body' : String) : SameAt (name :: names)
      (.file body) (.file body')
  | missing {name : String} (names : List String) {es es' : List (String × FileTree)} :
      child? name es = none →
    child? name es' = none → SameAt (name :: names) (.folder es) (.folder es')
  | step {name : String} {names : List String} {es es' : List (String × FileTree)}
      {t u : FileTree} :
    child? name es = some t → child? name es' = some u → SameAt names t u →
    SameAt (name :: names) (.folder es) (.folder es')

/-- What is found below the place is found in both. -/
lemma SameAt.find_append (h : SameAt names t u) (rest : List String) :
    t.find (names ++ rest) = u.find (names ++ rest) := by
  induction h with
  | same | blocked => rfl
  | missing names ht hu => rw [List.cons_append, find, find, ht, hu]
  | step ht hu _ ih => rw [List.cons_append, find, find, ht, hu]; exact ih

/-- The same stands at the end of the names. -/
lemma sameAt_of_find {x : FileTree} (ht : t.find names = .ok x) (hu : u.find names = .ok x) :
    SameAt names t u := by
  induction names generalizing t u with
  | nil =>
    cases ht
    cases hu
    exact .same [] x
  | cons name names ih =>
    cases t with
    | file => cases ht
    | folder es =>
      cases u with
      | file => cases hu
      | folder es' =>
        rw [find] at ht hu
        cases hes : child? name es with
        | none => rw [hes] at ht; cases ht
        | some t =>
          cases hes' : child? name es' with
          | none => rw [hes'] at hu; cases hu
          | some u =>
            rw [hes] at ht
            rw [hes'] at hu
            exact .step hes hes' (ih ht hu)

/-- Writing the same to both, wherever it is, changes nothing of that. -/
lemma SameAt.set (h : SameAt names t u) (new : FileTree) (path : List String) :
    SameAt names (set new path t) (set new path u) := by
  induction h generalizing path with
  | same names t => exact .same names _
  | blocked name names body body' => cases path <;> exact .same _ _
  | @missing name names es es' ht hu =>
    cases path with
    | nil => exact .same _ _
    | cons x path =>
      rw [FileTree.set, FileTree.set]
      by_cases hx : x = name
      · -- what is made there is made of nothing in both
        subst hx
        refine .step ((child?_setEntry x _ es x).trans (if_pos rfl))
          ((child?_setEntry x _ es' x).trans (if_pos rfl)) ?_
        rw [ht, hu]
        exact .same names _
      · exact .missing names ((child?_setEntry x _ es name).trans ((if_neg hx).trans ht))
          ((child?_setEntry x _ es' name).trans ((if_neg hx).trans hu))
  | @step name names es es' t u ht hu hsame ih =>
    cases path with
    | nil => exact .same _ _
    | cons x path =>
      rw [FileTree.set, FileTree.set]
      by_cases hx : x = name
      · subst hx
        refine .step ((child?_setEntry x _ es x).trans (if_pos rfl))
          ((child?_setEntry x _ es' x).trans (if_pos rfl)) ?_
        rw [ht, hu]
        exact ih path
      · exact .step ((child?_setEntry x _ es name).trans ((if_neg hx).trans ht))
          ((child?_setEntry x _ es' name).trans ((if_neg hx).trans hu)) hsame

end FileTree

namespace Files

/-- Files that are the same below a rooted folder, of systems with the same working folder. -/
structure SameBelow (root : String) (f g : Files) : Prop where
  here : f.here = g.here
  tree : FileTree.SameAt (Path.names root) f.tree g.tree

variable {root : String} {f g : Files}

lemma SameBelow.full (h : f.SameBelow root g) (path : String) : f.full path = g.full path := by
  rw [Files.full, Files.full, h.here]

/-- A path to a place below the folder leads to the same in both. -/
lemma SameBelow.read (h : f.SameBelow root g) {path : String} {rest : List String}
    (hroot : Path.isRooted path)
    (hpath : Path.names path = Path.names root ++ rest) : f.read path = g.read path := by
  have hfind : f.find path = g.find path := by
    rw [find, find, Files.full, Files.full, hroot, if_pos rfl, if_pos rfl, Path.names_clean hroot,
      hpath,
      h.tree.find_append]
  rw [Files.read, Files.read, hfind]

lemma SameBelow.put (h : f.SameBelow root g) (path body : String) :
    (f.put path body).SameBelow root (g.put path body) := by
  have hset := h.tree.set (.file body) (Path.names (f.full path))
  rw [Files.put, Files.put, ← h.full path]
  constructor
  · exact h.here
  · dsimp only
    exact hset

end Files

end Trellis
