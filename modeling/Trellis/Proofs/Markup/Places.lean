/-
Places of nodes and places in the source.

The reader of tags knows its place in the masked text by the tokens that it has passed
(`Spot.forward_spotAt`).  There are as many line ends in front of a place there as in the source,
for a placeholder has a mark for each line feed of its region (`Masks.maskedLine_eq`).  The column
is counted on in the masked text: it is that of the source where no region reaches into the line
(`maskedColumn_eq`), and another one behind a region, which is not as long as its placeholder
(`read_places_moved`).

Each start tag of the masked text becomes at most one node, which has its name and place; this is
counted through the tree of tags (`Masked.places_tags`) and the nodes that are read from it
(`subperm_readList`).
-/
import Mathlib.Data.List.Perm.Subperm
import Trellis.Proofs.Html.Sources
import Trellis.Proofs.Markup.Mask
import Trellis.Proofs.Readable
import Trellis.Proofs.Token.Tiling

namespace Trellis.Markup

open Token (lineAfter widthAfter)

/-! ### Lines and columns of a masked text -/

/-- Whether a line ends at a character of a masked text. -/
def isLineEnd (c : Char) : Bool := c == '\n' || c == maskLine

/-- The line on which a masked text ends. -/
def maskedLine (front : List Char) : Nat := 1 + front.countP isLineEnd

/-- The column behind a masked text, counted in the bytes of the masked text. -/
def maskedColumn (front : List Char) : Nat :=
  1 + byteSize (front.reverse.takeWhile (!isLineEnd ·)).reverse

/-- The spot between two parts of a masked text. -/
def spotAt (front rest : List Char) : Spot := ⟨rest, 0, maskedLine front, maskedColumn front⟩

lemma byteSize_cons (c : Char) (cs : List Char) : byteSize (c :: cs) = c.utf8Size +
    byteSize cs := by
  have hfold : ∀ (ds : List Char) (n : Nat),
      ds.foldl (fun n c => n + c.utf8Size) n = n + ds.foldl (fun n c => n + c.utf8Size) 0 := by
    intro ds
    induction ds with
    | nil => exact fun n => rfl
    | cons d ds ih =>
      intro n
      rw [List.foldl_cons, List.foldl_cons, ih, ih (0 + d.utf8Size)]
      omega
  rw [byteSize, List.foldl_cons, hfold, byteSize, Nat.zero_add]

lemma maskedLine_concat (front : List Char) (c : Char) :
    maskedLine (front ++ [c]) = maskedLine front + if isLineEnd c then 1 else 0 := by
  simp only [maskedLine, List.countP_append, List.countP_singleton]
  omega

lemma maskedColumn_concat (front : List Char) (c : Char) :
    maskedColumn (front ++ [c]) = if isLineEnd c then 1 else maskedColumn front + c.utf8Size := by
  by_cases hc : isLineEnd c
  · simp [maskedColumn, hc, byteSize]
  · simp [maskedColumn, hc, byteSize, Nat.add_assoc]

/-- Walking over the bytes of characters leads behind them. -/
lemma walk_append (xs front rest : List Char) :
    walk (xs ++ rest) (byteSize xs) (maskedLine front)
    (maskedColumn front) = spotAt (front ++ xs) rest := by
  induction xs generalizing front with
  | nil =>
    rw [List.append_nil]
    cases rest with
    | nil => rfl
    | cons c cs =>
      rw [List.nil_append, walk, if_pos (show byteSize [] < c.utf8Size from Char.utf8Size_pos c)]
      rfl
  | cons c cs ih =>
    have hfar : ¬byteSize (c :: cs) < c.utf8Size := by
      rw [byteSize_cons]
      omega
    have hleft : byteSize (c :: cs) - c.utf8Size = byteSize cs := by
      rw [byteSize_cons]
      omega
    have hnext := ih (front ++ [c])
    rw [maskedLine_concat, maskedColumn_concat, List.append_assoc, List.singleton_append] at hnext
    rw [List.cons_append, walk, if_neg hfar, hleft]
    unfold isLineEnd at hnext
    split
    · next hc => simpa only [hc, if_true] using hnext
    · next hc => simpa only [hc, if_false, Bool.false_eq_true, Nat.add_zero] using hnext

lemma Spot.forward_spotAt (xs front rest : List Char) :
    (spotAt front (xs ++ rest)).forward (byteSize xs) = spotAt (front ++ xs) rest := by
  rw [Spot.forward, spotAt, Nat.zero_add]
  exact walk_append xs front rest

/-! ### Lines and columns of the source -/

lemma not_isLineEnd_of_isDigit {c : Char} (h : c.isDigit = true) : isLineEnd c = false := by
  rw [isLineEnd, Bool.or_eq_false_iff, beq_eq_false_iff_ne, beq_eq_false_iff_ne]
  constructor <;> rintro rfl <;> exact absurd h (by decide)

/-- A placeholder ends as many lines as its region. -/
lemma countP_placeholder (index : Nat) (region : List Char) :
    (placeholder index region).countP isLineEnd = region.count '\n' := by
  have hdigits : (toString index).toList.countP isLineEnd = 0 := by
    rw [List.countP_eq_zero]
    intro c hc hline
    rw [not_isLineEnd_of_isDigit (isDigit_of_mem_toString c hc)] at hline
    cases hline
  have hopen : isLineEnd maskOpen = false := by decide
  have hclose : isLineEnd maskClose = false := by decide
  have hline : isLineEnd maskLine = true := by decide
  simp only [placeholder, List.cons_append, List.countP_cons, List.countP_append, hdigits, hopen,
    hclose,
    List.countP_replicate, hline, if_true, Bool.false_eq_true, if_false, Nat.zero_add, Nat.add_zero]

/-- A masked text ends on the line of its source. -/
lemma Masks.maskedLine_eq {regions : List (List Char)} {front cs : List Char}
    (h : Masks regions front cs) :
    maskedLine front = lineAfter cs := by
  rw [maskedLine, lineAfter]
  congr 1
  induction h with
  | nil => rfl
  | @plain c text cs hc hrest ih =>
    have hline : c ≠ maskLine := fun h => hc (.inr (.inr h))
    simp only [List.countP_cons, List.count_cons, ih, isLineEnd, hline, beq_iff_eq, Bool.or_eq_true,
      or_false]
  | region hindex hrest ih => rw [List.countP_append, List.count_append, countP_placeholder, ih]

/-- The characters of a masked text after its last line feed. -/
def lastLine (cs : List Char) : List Char := (cs.reverse.takeWhile (· != '\n')).reverse

/-- A text is its last line, or there is a line feed in front of that. -/
lemma lastLine_cases (cs : List Char) :
    '\n' ∉ lastLine cs ∧ (cs = lastLine cs ∨ ∃ before, cs = before ++ '\n' :: lastLine cs) := by
  have hwhole : cs.reverse.takeWhile (· != '\n') ++ cs.reverse.dropWhile (· != '\n') = cs.reverse :=
    List.takeWhile_append_dropWhile
  have hcs : cs = (cs.reverse.dropWhile (· != '\n')).reverse ++ lastLine cs := by
    rw [lastLine, ← List.reverse_append, hwhole, List.reverse_reverse]
  constructor
  · intro hmem
    have hall := List.all_eq_true.1 (List.all_takeWhile (p := (· != '\n')) (l := cs.reverse)) '\n'
      (List.mem_reverse.1 hmem)
    cases hall
  · cases hdrop : cs.reverse.dropWhile (· != '\n') with
    | nil =>
      rw [hdrop] at hcs
      exact .inl hcs
    | cons c more =>
      have hhead := List.head?_dropWhile_not (· != '\n') cs.reverse
      rw [hdrop] at hhead
      have hc : c = '\n' := by simpa using hhead
      rw [hdrop, List.reverse_cons, List.append_assoc, hc] at hcs
      exact .inr ⟨more.reverse, hcs⟩

/-- A placeholder ends with a private character. -/
lemma isPrivate_getLast (index : Nat) (region : List Char) :
    ∀ c ∈ (placeholder index region).getLast?, IsPrivate c := by
  intro c hc
  rw [placeholder, List.getLast?_append_of_ne_nil _ (List.cons_ne_nil _ _)] at hc
  rcases List.mem_cons.1 (List.mem_of_getLast? hc) with rfl | hmark
  · exact .inr (.inl rfl)
  · exact .inr (.inr (List.eq_of_mem_replicate hmark))

/-- No region reaches into the end of a masked text that has no private character. -/
lemma Masks.split_last {m : Masked} {front last cs : List Char}
    (h : Masks m.regions (front ++ last) cs) (hlast : ∀ c ∈ last, ¬IsPrivate c) :
    ∃ before, cs = before ++ last ∧ Masks m.regions front before := by
  have hcut : ¬m.CutsPlaceholder front last := by
    rintro ⟨index, k, -, -, hback⟩
    have hne : (placeholder index m.regions[index]).drop k ≠ [] := by
      rw [ne_eq, List.drop_eq_nil_iff]
      exact Nat.not_le.2 k.isLt
    have hend : ((placeholder index m.regions[index]).drop k).getLast? =
        (placeholder index m.regions[index]).getLast? := by
      rw [List.getLast?_drop, if_neg (Nat.not_le.2 k.isLt)]
    rw [List.getLast?_eq_some_getLast hne] at hend
    exact hlast _ (hback.subset (List.getLast_mem hne)) (isPrivate_getLast index _ _ hend.symm)
  obtain ⟨before, after, rfl, hbefore, hafter⟩ := h.split hcut
  have hopen : maskOpen ∉ last := fun hmem => hlast maskOpen hmem (.inl rfl)
  exact ⟨before, by rw [hafter.eq_of_not_mem hopen], hbefore⟩

/-- Whether no region reaches into the line on which a masked text ends. -/
def Undisturbed (front : List Char) : Prop := ∀ c ∈ lastLine front, ¬IsPrivate c

lemma byteSize_ascii {cs : List Char} (h : ∀ c ∈ cs, c.toNat < 128) : byteSize cs = cs.length := by
  induction cs with
  | nil => rfl
  | cons c cs ih =>
    obtain ⟨hc, hcs⟩ := List.forall_mem_cons.1 h
    have hsize : c.utf8Size = 1 := by
      rw [Char.utf8Size_eq_one_iff, UInt32.le_iff_toNat_le]
      exact Nat.le_of_lt_succ hc
    rw [byteSize_cons, hsize, ih hcs, List.length_cons, Nat.add_comm]

/-- Where no region reaches into the line, the column is that of the source. -/
lemma Masks.maskedColumn_eq {m : Masked} {front cs : List Char} (h : Masks m.regions front cs)
    (hascii : ∀ c ∈ cs, c.toNat < 128) (hline : Undisturbed front) :
    maskedColumn front = widthAfter cs + 1 := by
  obtain ⟨hfeed, hfront⟩ := lastLine_cases front
  have hplain : ∀ c ∈ (lastLine front).reverse, (!isLineEnd c) = true := by
    intro c hc
    have hc := List.mem_reverse.1 hc
    have hmark : c ≠ maskLine := fun h => hline c hc (.inr (.inr h))
    have hnewline : c ≠ '
' := fun h => hfeed (h ▸ hc)
    simp [isLineEnd, hmark, hnewline]
  have hnewline : ∀ c ∈ (lastLine front).reverse, (c != '
') = true := by
    intro c hc
    rw [bne_iff_ne]
    rintro rfl
    exact hfeed (List.mem_reverse.1 hc)
  have hfeedEnds : isLineEnd '
' = true := by decide
  -- the last line is the end of the source, and in front of it there is nothing or a line feed
  obtain ⟨before, hcs, hcolumn, hwidth⟩ : ∃ before, cs = before ++ lastLine front ∧
      maskedColumn front = 1 + byteSize (lastLine front) ∧
          widthAfter cs = (lastLine front).length := by
    rcases hfront with hwhole | ⟨before, hwhole⟩
    · rw [hwhole] at h
      have hopen : maskOpen ∉ lastLine front := fun hmem => hline maskOpen hmem (.inl rfl)
      have hcs : lastLine front = cs := h.eq_of_not_mem hopen
      refine ⟨[], hcs.symm, ?_, ?_⟩
      · rw [maskedColumn]
        nth_rewrite 1 [hwhole]
        rw [List.takeWhile_eq_self_iff.2 hplain, List.reverse_reverse]
      · rw [widthAfter, ← hcs, List.takeWhile_eq_self_iff.2 hnewline, List.length_reverse]
    · rw [hwhole] at h
      have hprivate : ∀ c ∈ '
' :: lastLine front, ¬IsPrivate c := by
        refine List.forall_mem_cons.2 ⟨?_, hline⟩
        rintro (h | h | h) <;> exact absurd h (by decide)
      obtain ⟨before', rfl, -⟩ := h.split_last hprivate
      refine ⟨before' ++ ['
'], by simp, ?_, ?_⟩
      · rw [maskedColumn]
        nth_rewrite 1 [hwhole]
        rw [List.reverse_append, List.reverse_cons, List.append_assoc,
          List.takeWhile_append_of_pos hplain]
        simp [hfeedEnds]
      · rw [widthAfter, List.reverse_append, List.reverse_cons, List.append_assoc,
          List.takeWhile_append_of_pos hnewline]
        simp
  have hlast : ∀ c ∈ lastLine front, c.toNat < 128 := by
    intro c hc
    refine hascii c ?_
    rw [hcs]
    exact List.mem_append_right _ hc
  rw [hcolumn, hwidth, byteSize_ascii hlast, Nat.add_comm]

/-! ### Start tags -/

/-- A start tag of a masked text: what stands in front of it, and its name. -/
structure StartTag where
  front : List Char
  name : String

/-- The name in the source of a start tag. -/
def startName (source : List Char) : String := (scanTag ⟨[], []⟩ 0 0 source).1

/-- The start tags among tokens, the first of which stands behind `front`. -/
def startsFrom : List Char → List Html.Token → List StartTag
  | _, [] => []
  | front, t :: ts =>
    (if t.IsStart then [⟨front, startName t.source⟩] else []) ++ startsFrom (front ++ t.source) ts

/-- The start tags of a masked text, in order. -/
def Masked.startTags (m : Masked) : List StartTag := startsFrom [] (Html.tokenize m.text)

/-- The source in front of a start tag. -/
def StartTag.before (m : Masked) (t : StartTag) : List Char :=
  (m.unmask (String.ofList t.front)).toList

/-- What a node says of its tag: the name, the line and the column. -/
abbrev Place := String × Nat × Nat

/-- The place at which a tag is read. -/
def StartTag.place (t : StartTag) : Place := (t.name, maskedLine t.front, maskedColumn t.front)

lemma dropPiece?_eq {piece cs rest : List Char} (h : Text.dropPiece? piece cs = some rest) :
    cs = piece ++ rest := by
  induction piece generalizing cs with
  | nil =>
    cases h
    rfl
  | cons p ps ih =>
    cases cs with
    | nil => cases h
    | cons c cs =>
      rw [Text.dropPiece?] at h
      split at h
      · next hc => rw [ih h, beq_iff_eq.1 hc, List.cons_append]
      · cases h

lemma prefix_dropBack (s piece : String) : (Text.dropBack s piece).toList <+: s.toList := by
  unfold Text.dropBack
  split
  · next rest hrest =>
    have hs := congrArg List.reverse (dropPiece?_eq hrest)
    rw [List.reverse_reverse, List.reverse_append, List.reverse_reverse] at hs
    rw [hs, String.toList_ofList]
    exact List.prefix_append _ _
  · exact List.prefix_rfl

/-- A start tag begins with its bracket and its name. -/
lemma startName_prefix (cs : List Char) :
    ∃ back, '<' :: cs = '<' :: ((startName ('<' :: cs)).toList ++ back) := by
  have hdrop : Text.dropFront (String.ofList ('<' :: cs)) "<" = String.ofList cs := by
    have htext : (String.ofList ('<' :: cs)).toList = '<' :: cs := String.toList_ofList
    have hpiece : Text.dropPiece? "<".toList ('<' :: cs) = some cs := rfl
    unfold Text.dropFront
    rw [htext, hpiece]
  have hname : (startName ('<' :: cs)).toList <+: cs := by
    rw [startName, scanTag, hdrop, String.toList_ofList]
    refine (List.takeWhile_prefix _).trans ((prefix_dropBack _ "/").trans ?_)
    have hbracket := prefix_dropBack (String.ofList cs) ">"
    rwa [String.toList_ofList] at hbracket
  obtain ⟨back, hback⟩ := hname
  exact ⟨back, by rw [hback]⟩

/-- Where the start tags stand among tokens whose sources are a part of a text: one after the other.
-/
lemma startsFrom_spec (front rest : List Char) (ts : List Html.Token)
    (hhead : ∀ t ∈ ts, t.IsStart → t.source.head? = some '<') :
    (∀ s ∈ startsFrom front ts, front <+: s.front ∧
      ∃ back, front ++ ts.flatMap Html.Token.source ++ rest = s.front ++ '<' ::
      (s.name.toList ++ back)) ∧
    (startsFrom front ts).Pairwise fun s s' => ∃ more, s'.front = s.front ++ '<' :: more := by
  induction ts generalizing front with
  | nil => exact ⟨fun s hs => absurd hs List.not_mem_nil, .nil⟩
  | cons t ts ih =>
    obtain ⟨ht, hts⟩ := List.forall_mem_cons.1 hhead
    obtain ⟨hlater, hpairs⟩ := ih (front ++ t.source) hts
    have hwhole : front ++ (t :: ts).flatMap Html.Token.source ++ rest =
        front ++ t.source ++ ts.flatMap Html.Token.source ++ rest := by
      rw [List.flatMap_cons, ← List.append_assoc]
    rw [hwhole, startsFrom]
    have hrest : ∀ s ∈ startsFrom (front ++ t.source) ts, front <+: s.front ∧
        ∃ back, front ++ t.source ++ ts.flatMap Html.Token.source ++ rest =
          s.front ++ '<' :: (s.name.toList ++ back) := by
      intro s hs
      obtain ⟨hfront, hback⟩ := hlater s hs
      exact ⟨(List.prefix_append _ _).trans hfront, hback⟩
    split
    · next hstart =>
      obtain ⟨cs, hcs⟩ : ∃ cs, t.source = '<' :: cs := List.head?_eq_some_iff.1 (ht hstart)
      obtain ⟨back, hback⟩ := startName_prefix cs
      rw [← hcs] at hback
      refine ⟨List.forall_mem_cons.2
        ⟨⟨List.prefix_rfl, back ++ (ts.flatMap Html.Token.source ++ rest), ?_⟩,
        hrest⟩, List.pairwise_cons.2 ⟨fun s hs => ?_, hpairs⟩⟩
      · nth_rewrite 1 [hback]
        simp only [List.append_assoc, List.cons_append]
      · obtain ⟨more, hmore⟩ := (hlater s hs).1
        rw [hcs, List.append_assoc, List.cons_append] at hmore
        exact ⟨cs ++ more, hmore.symm⟩
    · exact ⟨hrest, hpairs⟩

/-! ### The tree of tags -/

mutual
/-- The places of a tag and of the tags in it. -/
def Tag.places : Tag → List Place
  | .text _ _ _ => []
  | .element line column name _ children => (name, line, column) :: Tag.placesList children

def Tag.placesList : List Tag → List Place
  | [] => []
  | t :: ts => t.places ++ Tag.placesList ts
end

lemma Tag.placesList_append (ts us : List Tag) :
    Tag.placesList (ts ++ us) = Tag.placesList ts ++ Tag.placesList us := by
  induction ts with
  | nil => rfl
  | cons t ts ih => rw [List.cons_append, Tag.placesList, Tag.placesList, ih, List.append_assoc]

lemma Tag.placesList_reverse (ts : List Tag) :
    (Tag.placesList ts.reverse).Perm (Tag.placesList ts) := by
  induction ts with
  | nil => exact .nil
  | cons t ts ih =>
    rw [List.reverse_cons, Tag.placesList_append, Tag.placesList]
    refine List.perm_append_comm.trans ?_
    rw [Tag.placesList, Tag.placesList, List.append_nil]
    exact ih.append_left _

/-- The places of an open tag and of what it holds. -/
def OpenTag.places (o : OpenTag) : List Place := (o.name, o.line, o.column) :: Tag.placesList o.held

/-- The places of the tags that have been read. -/
def Outline.places (o : Outline) : List Place :=
  o.open_.flatMap OpenTag.places ++ Tag.placesList o.roots.held

lemma OpenTag.held_push (o : OpenTag) (t : Tag) :
    Tag.placesList (o.push t).held = t.places ++ Tag.placesList o.held := by
  unfold OpenTag.push
  split
  · next hheld => simp [hheld, Tag.placesList, Tag.places]
  · rfl

lemma OpenTag.places_push (o : OpenTag) (t : Tag) :
    (o.push t).places.Perm (t.places ++ o.places) := by
  have hsame : (o.push t).name = o.name ∧ (o.push t).line = o.line ∧
      (o.push t).column = o.column := by
    unfold OpenTag.push
    split <;> exact ⟨rfl, rfl, rfl⟩
  rw [OpenTag.places, OpenTag.held_push, hsame.1, hsame.2.1, hsame.2.2]
  exact List.perm_middle.symm

lemma Outline.places_push (o : Outline) (t : Tag) :
    (o.push t).places.Perm (t.places ++ o.places) := by
  unfold Outline.push
  split
  · next hopen =>
    rw [Outline.places, Outline.places, hopen, OpenTag.held_push]
    exact .refl _
  · next top rest hopen =>
    rw [Outline.places, Outline.places, hopen, List.flatMap_cons, List.flatMap_cons,
      ← List.append_assoc,
      ← List.append_assoc]
    exact ((OpenTag.places_push top t).append_right _).append_right _

lemma OpenTag.places_close (o : OpenTag) : o.close.places.Perm o.places := by
  rw [OpenTag.close, Tag.places, OpenTag.places]
  exact (Tag.placesList_reverse o.held).cons _

/-- A token adds its place if it opens a tag, and nothing else changes. -/
lemma Outline.places_take {m : Masked} {o o' : Outline} {line column : Nat} {t : Html.Token}
    (h : o.take m line column t = .ok o') :
    o'.places.Perm ((if t.IsStart then [(startName t.source, line, column)] else []) ++
    o.places) := by
  have hname : (scanTag m line column t.source).1 = startName t.source := rfl
  unfold Outline.take at h
  split at h
  · next hkind =>
    cases h
    have hstart : ¬t.IsStart := by rintro (h | h) <;> rw [hkind] at h <;> cases h
    rw [if_neg hstart]
    exact o.places_push _
  · next hkind =>
    rw [if_pos (show t.IsStart from .inl hkind)]
    dsimp only at h
    rw [hname] at h
    split at h
    · cases h
      exact o.places_push _
    · cases h
      rw [Outline.places, Outline.places, List.flatMap_cons, List.append_assoc]
      exact .refl _
  · next hkind =>
    rw [if_pos (show t.IsStart from .inr hkind)]
    cases h
    exact o.places_push _
  · next hkind =>
    have hstart : ¬t.IsStart := by rintro (h | h) <;> rw [hkind] at h <;> cases h
    rw [if_neg hstart, List.nil_append]
    dsimp only at h
    split at h
    · cases h
      exact .refl _
    · split at h
      · cases h
      · split at h
        · cases h
          exact .refl _
        · next top rest hopen =>
          split at h
          · cases h
            refine (Outline.places_push _ _).trans ?_
            rw [Outline.places, Outline.places, hopen, List.flatMap_cons, List.append_assoc]
            exact (OpenTag.places_close top).append_right _
          · cases h
  · next hkind =>
    cases h
    have hstart : ¬t.IsStart := by rintro (h | h) <;> rw [hkind] at h <;> cases h
    rw [if_neg hstart]
    exact .refl _
  · next hkind =>
    cases h
    have hstart : ¬t.IsStart := by rintro (h | h) <;> rw [hkind] at h <;> cases h
    rw [if_neg hstart]
    exact .refl _

/-- Taking in tokens adds the places of their start tags. -/
lemma Outline.places_takeAll {m : Masked} {o o' : Outline} {front rest : List Char}
    {ts : List Html.Token}
    (h : Outline.takeAll m (spotAt front (ts.flatMap Html.Token.source ++ rest)) o ts = .ok o') :
    o'.places.Perm ((startsFrom front ts).map StartTag.place ++ o.places) := by
  induction ts generalizing front o with
  | nil =>
    cases h
    exact .refl _
  | cons t ts ih =>
    rw [Outline.takeAll] at h
    obtain ⟨o₁, htake, h⟩ := bind_eq_ok.1 h
    rw [List.flatMap_cons, List.append_assoc, Spot.forward_spotAt] at h
    have hplaces := Outline.places_take htake
    have hstarts : ((startsFrom front (t :: ts)).map StartTag.place) =
        (if t.IsStart then [(startName t.source, maskedLine front, maskedColumn front)] else []) ++
          (startsFrom (front ++ t.source) ts).map StartTag.place := by
      rw [startsFrom, List.map_append]
      split <;> rfl
    rw [hstarts, List.append_assoc]
    refine (ih h).trans ((hplaces.append_left _).trans ?_)
    rw [← List.append_assoc, ← List.append_assoc]
    exact List.perm_append_comm.append_right _

/-- The tags of a masked text have the places of its start tags. -/
lemma Masked.places_tags {m : Masked} {tags : List Tag} (h : m.tags = .ok tags) :
    (Tag.placesList tags).Perm (m.startTags.map StartTag.place) := by
  obtain ⟨o, htakes, h⟩ := bind_eq_ok.1 h
  obtain ⟨rest, hrest⟩ := Html.tokenize_prefix m.text
  have hspot : ({ rest := m.text } : Spot) =
      spotAt [] ((Html.tokenize m.text).flatMap Html.Token.source ++ rest) := by
    rw [hrest]
    rfl
  rw [hspot] at htakes
  have hplaces := Outline.places_takeAll htakes
  split at h
  · next hopen =>
    cases h
    rw [Outline.places, hopen, List.flatMap_nil, List.nil_append] at hplaces
    refine (Tag.placesList_reverse _).trans (hplaces.trans ?_)
    rw [Outline.places, List.flatMap_nil, Tag.placesList, List.append_nil, List.append_nil]
    exact .refl _
  · cases h

/-! ### Nodes -/

mutual
/-- The places of the elements and components of a node. -/
def Node.places : Node → List Place
  | .text _ _ => []
  | .element info name _ children _ => (name, info.line, info.column) :: Node.placesList children
  | .component info name _ _ contents =>
    (name, info.line, info.column) :: Content.placesList contents
  | .partialCall _ _ _ _ contents => Content.placesList contents
  | .template _ _ children => Node.placesList children
  | .branches _ _ children others => Node.placesList children ++ Branch.placesList others
  | .loop _ _ _ _ _ children => Node.placesList children
  | .each _ _ _ _ children => Node.placesList children

def Node.placesList : List Node → List Place
  | [] => []
  | n :: ns => n.places ++ Node.placesList ns

def Branch.placesList : List Branch → List Place
  | [] => []
  | .mk _ _ children :: bs => Node.placesList children ++ Branch.placesList bs

def Content.placesList : List Content → List Place
  | [] => []
  | .mk _ _ children :: cs => Node.placesList children ++ Content.placesList cs
end

lemma Node.placesList_append (ns ms : List Node) :
    Node.placesList (ns ++ ms) = Node.placesList ns ++ Node.placesList ms := by
  induction ns with
  | nil => rfl
  | cons n ns ih => rw [List.cons_append, Node.placesList, Node.placesList, ih, List.append_assoc]

lemma Node.placesList_reverse (ns : List Node) :
    (Node.placesList ns.reverse).Perm (Node.placesList ns) := by
  induction ns with
  | nil => exact .nil
  | cons n ns ih =>
    rw [List.reverse_cons, Node.placesList_append, Node.placesList]
    refine List.perm_append_comm.trans ?_
    rw [Node.placesList, Node.placesList, List.append_nil]
    exact ih.append_left _

lemma Branch.placesList_append (bs cs : List Branch) :
    Branch.placesList (bs ++ cs) = Branch.placesList bs ++ Branch.placesList cs := by
  induction bs with
  | nil => rfl
  | cons b bs ih =>
    rcases b with ⟨info, test, children⟩
    rw [List.cons_append, Branch.placesList, Branch.placesList, ih, List.append_assoc]

lemma Content.placesList_append (bs cs : List Content) :
    Content.placesList (bs ++ cs) = Content.placesList bs ++ Content.placesList cs := by
  induction bs with
  | nil => rfl
  | cons b bs ih =>
    rcases b with ⟨info, name, children⟩
    rw [List.cons_append, Content.placesList, Content.placesList, ih, List.append_assoc]

/-- A branch brings its places to the condition that it is added to. -/
lemma count_addBranch? {b : Branch} {ns ms : List Node} (h : addBranch? b ns = some ms)
    (p : Place) :
    (Node.placesList ms).count p = (Node.placesList ns).count p +
    (Branch.placesList [b]).count p := by
  induction ns generalizing ms with
  | nil => cases h
  | cons n ns ih =>
    unfold addBranch? at h
    split at h
    · next hnil => cases hnil
    · next hcons =>
      cases hcons
      split at h
      · cases h
      · cases h
        simp only [Node.placesList, Node.places, Branch.placesList_append, List.count_append]
        omega
    · next hcons =>
      cases hcons
      obtain ⟨ms', hms', rfl⟩ := Option.map_eq_some_iff.1 h
      simp only [Node.placesList, List.count_append, ih hms']
      omega

/-- A loop over a list keeps what it has done in step with what it has passed. -/
lemma ensures_foldlM_passed {α β : Type} {xs : List α} {f : β → α → Except Fault β}
    {R : List α → β → Prop}
    (h : ∀ passed x b, R passed b → Ensures (f b x) (R (passed ++ [x]))) {b : β} (hb : R [] b) :
    Ensures (xs.foldlM f b) (R xs) := by
  have hall : ∀ (ys passed : List α) (b : β), R passed b →
      Ensures (ys.foldlM f b) (R (passed ++ ys)) := by
    intro ys
    induction ys with
    | nil =>
      intro passed b hb
      rw [List.append_nil]
      exact ensures_pure hb
    | cons y ys ih =>
      intro passed b hb
      rw [List.foldlM_cons]
      refine ensures_bind (h passed y b hb) fun b' hb' => ?_
      have hrest := ih (passed ++ [y]) b' hb'
      rwa [List.append_assoc, List.singleton_append] at hrest
  exact hall xs [] b hb

/-- Whether each place occurs as often in a list as in another at most. -/
def Within (ps qs : List Place) : Prop := ∀ p, ps.count p ≤ qs.count p

lemma within_children (t : Tag) : Within (Tag.placesList t.children) t.places := by
  intro p
  cases t with
  | text => exact Nat.zero_le _
  | element line column name attrs children =>
    rw [Tag.children, Tag.places, List.count_cons]
    exact Nat.le_add_right _ _

lemma within_trans {ps qs rs : List Place} (h : Within ps qs) (h' : Within qs rs) : Within ps rs :=
  fun p => (h p).trans (h' p)

/-- A header has no nodes. -/
lemma LoopHeader.places_node (info : Meta) (children : List Node) (header : LoopHeader) :
    (header.node info children).places = Node.placesList children := by
  cases header <;> rfl

mutual
lemma within_readList (o : ReadOptions) : ∀ (n : Nat) (tags : List Tag) (stem : String),
    Ensures (readList o n tags stem) fun ns => Within (Node.placesList ns) (Tag.placesList tags)
  | 0, _, _ => ensures_error _
  | n + 1, tags, stem => by
    rw [readList]
    refine ensures_bind (ensures_foldlM_passed
      (R := fun passed s =>
        Within (Node.placesList (Siblings.nodes s)) (Tag.placesList (passed.map Prod.fst)))
      (fun passed item s hs => ?_) fun p => le_rfl) fun s hs => ensures_pure fun p => ?_
    · rcases item with ⟨t, i⟩
      have hmore : ∀ ns, (∀ p, (Node.placesList ns).count p ≤ (Node.placesList s.nodes).count p +
        t.places.count p) →
          Within (Node.placesList ns) (Tag.placesList ((passed ++ [(t, i)]).map Prod.fst)) := by
        intro ns hns p
        have hs := hs p
        have hns := hns p
        simp only [List.map_append, List.map_singleton, Tag.placesList_append, Tag.placesList,
          List.append_nil,
          List.count_append]
        omega
      dsimp only
      refine ensures_ite (ensures_pure (hmore _ fun p => Nat.le_add_right _ _))
        (ensures_ite (ensures_ite (ensures_error _) ?_) ?_)
      · refine ensures_bind (within_readBranch o n t _) fun b hb => ?_
        split
        · next nodes hnodes =>
          refine ensures_pure (hmore _ fun p => ?_)
          rw [count_addBranch? hnodes]
          exact Nat.add_le_add_left (hb p) _
        · exact ensures_error _
      · refine ensures_bind (within_readNode o n t _) fun node hnode =>
          ensures_pure (hmore _ fun p => ?_)
        have hnode := hnode p
        rw [Node.placesList, List.count_append]
        omega
    · have hs := hs p
      rw [List.zipIdx_map_fst] at hs
      rw [(Node.placesList_reverse s.nodes).count_eq]
      exact hs

lemma within_readBranch (o : ReadOptions) : ∀ (n : Nat) (t : Tag) (key : String),
    Ensures (readBranch o n t key) fun b => Within (Branch.placesList [b]) t.places
  | 0, _, _ => ensures_error _
  | n + 1, t, key => by
    have hchildren : ∀ test : Option Program, Ensures (do
        let children ← readList o n t.children key
        return Branch.mk ⟨key, t.line, t.column, false, none⟩ test children)
          fun b => Within (Branch.placesList [b]) t.places := by
      refine fun test => ensures_bind (within_readList o n t.children key) fun children hchildren =>
        ensures_pure ?_
      rw [Branch.placesList, Branch.placesList, List.append_nil]
      exact within_trans hchildren (within_children t)
    rw [readBranch]
    split
    · exact ensures_then fun p => hchildren (some p)
    · exact hchildren none

lemma within_readNode (o : ReadOptions) : ∀ (n : Nat) (t : Tag) (key : String),
    Ensures (readNode o n t key) fun node => Within node.places t.places
  | 0, _, _ => ensures_error _
  | n + 1, .text line column value, key => by
    rw [readNode]
    exact ensures_then fun ss => ensures_pure fun p => le_rfl
  | n + 1, .element line column name attrs children, key => by
    -- the node of a tag has the place of the tag, and its children have those of the tag's
    have hown : ∀ {ps : List Place}, Within ps (Tag.placesList children) →
        Within ((name, line, column) :: ps)
            (Tag.element line column name attrs children).places := by
      intro ps hps p
      rw [Tag.places, List.count_cons, List.count_cons]
      exact Nat.add_le_add_right (hps p) _
    have hinner : ∀ {ps : List Place}, Within ps (Tag.placesList children) →
        Within ps (Tag.element line column name attrs children).places :=
      fun hps => within_trans hps (within_children (.element line column name attrs children))
    rw [readNode]
    refine ensures_ite ?_
      (ensures_ite ?_ (ensures_ite ?_ (ensures_ite ?_ (ensures_ite (ensures_error _)
      (ensures_ite ?_ ?_)))))
    · refine ensures_then fun data => ensures_then fun test => ?_
      refine ensures_bind (within_readList o n children key) fun ns hns => ensures_pure ?_
      rw [Node.places, Branch.placesList, List.append_nil]
      exact hinner hns
    · exact within_readLoop o n _ key
    · exact ensures_then fun a => ensures_bind (within_readList o n children key) fun ns hns =>
        ensures_pure (hinner hns)
    · refine ensures_then fun a => ?_
      have hrest : ∀ target : PartialTarget, Ensures (do
          let as ← ((Tag.element line column name attrs children).attrs.filter
            (·.name != "template")).mapM TagAttr.read
          let (options, contents) ← readBody o n (.element line column name attrs children) key
          return Node.partialCall ⟨key, line, column, false, none⟩ target as options contents)
            fun node => Within node.places (Tag.element line column name attrs children).places :=
        fun target => ensures_then fun as => ensures_bind (within_readBody o n _ key) fun r hr =>
          ensures_pure (hinner hr)
      dsimp only
      exact ensures_ite (ensures_then fun p => hrest _) (ensures_ite (hrest _) (hrest _))
    · exact ensures_then fun as => ensures_bind (within_readBody o n _ key) fun r hr =>
        ensures_pure (hown hr)
    · exact ensures_then fun as => ensures_bind (within_readList o n children key) fun ns hns =>
        ensures_pure (hown hns)

lemma within_readLoop (o : ReadOptions) : ∀ (n : Nat) (t : Tag) (key : String),
    Ensures (readLoop o n t key) fun node => Within node.places t.places
  | 0, _, _ => ensures_error _
  | n + 1, t, key => by
    rw [readLoop]
    refine ensures_then fun header => ensures_bind (within_readList o n t.children key)
      fun ns hns => ensures_pure ?_
    rw [LoopHeader.places_node]
    exact within_trans hns (within_children t)

lemma within_readBody (o : ReadOptions) : ∀ (n : Nat) (t : Tag) (key : String),
    Ensures (readBody o n t key) fun r => Within (Content.placesList r.2)
    (Tag.placesList t.children)
  | 0, _, _ => ensures_error _
  | n + 1, t, key => by
    rw [readBody]
    -- what is loose becomes content in the end, so its places are kept for that
    refine ensures_bind (ensures_foldlM_passed
      (R := fun passed b =>
        Within (Content.placesList (ComponentBody.contents b) ++ Tag.placesList b.loose)
        (Tag.placesList passed))
      (fun passed child b hb => ?_) fun p => le_rfl) fun b hb => ?_
    · have hmore : ∀ ps : List Place, (∀ p, ps.count p ≤
          (Content.placesList b.contents ++ Tag.placesList b.loose).count p +
            child.places.count p) →
          Within ps (Tag.placesList (passed ++ [child])) := by
        intro ps hps p
        have hb := hb p
        have hps := hps p
        rw [Tag.placesList_append, List.count_append, Tag.placesList, Tag.placesList,
          List.append_nil]
        omega
      dsimp only
      refine ensures_ite (ensures_pure (hmore _ fun p => ?_)) ?_
      · simp only [Tag.placesList_append, Tag.placesList, List.append_nil, List.count_append]
        omega
      · split
        · exact ensures_then fun value => ensures_pure (hmore _ fun p => Nat.le_add_right _ _)
        · refine ensures_bind (within_readList o n child.children _) fun children hchildren => ?_
          refine ensures_pure (hmore _ fun p => ?_)
          have hchildren := within_trans hchildren (within_children child) p
          simp only [Content.placesList_append, Content.placesList, List.append_nil,
            List.count_append]
          omega
    · dsimp only
      refine ensures_ite ?_ (ensures_pure fun p => ?_)
      · refine ensures_bind (within_readList o n b.loose _) fun children hchildren =>
          ensures_pure fun p => ?_
        have hb := hb p
        have hchildren := hchildren p
        simp only [Content.placesList_append, Content.placesList, List.append_nil,
          List.count_append] at hb ⊢
        omega
      · have hb := hb p
        rw [List.count_append] at hb
        exact (Nat.le_add_right _ _).trans hb
end

/-- The nodes of an accepted source are read from its tags. -/
lemma tags_of_read {o : ReadOptions} {source : String} {nodes : List Node}
    (h : read o source = .ok nodes) :
    ∃ tags, (mask source).tags = .ok tags ∧ readList o (4 * (mask source).text.length + 8) tags "" =
    .ok nodes := by
  refine bind_eq_ok.1 (?_ : (do
      let tags ← (mask source).tags
      readList o (4 * (mask source).text.length + 8) tags "") = .ok nodes)
  unfold read at h
  dsimp only at h
  revert h
  cases (do
    let tags ← (mask source).tags
    readList o (4 * (mask source).text.length + 8) tags "") with
  | error f =>
    intro h
    cases h
  | ok found => exact id

/-- The nodes of an accepted source have the places of start tags. -/
lemma within_read {o : ReadOptions} {source : String} {nodes : List Node}
    (h : read o source = .ok nodes) :
    Within (Node.placesList nodes) ((mask source).startTags.map StartTag.place) := by
  obtain ⟨tags, htags, hnodes⟩ := tags_of_read h
  intro p
  rw [← (Masked.places_tags htags).count_eq]
  exact within_readList o _ tags "" nodes hnodes p

/-- **Places of nodes.** The elements and components of an accepted ASCII source belong to different
start tags.  Each has the name of its tag and the line of the bracket that opens the tag in the
source; the column is the bracket's in the masked text, and in the source if no region reaches into
the line in front of it. -/
theorem read_places (o : ReadOptions) (source : String) (nodes : List Node)
    (hascii : ∀ c ∈ source.toList, c.toNat < 128) (h : read o source = .ok nodes) :
    (Node.placesList nodes).Subperm ((mask source).startTags.map fun t =>
        (t.name, lineAfter (t.before (mask source)), maskedColumn t.front)) ∧
      ((mask source).startTags.Pairwise fun t t' =>
        t.before (mask source) ++ ['<'] <+: t'.before (mask source)) ∧
      ∀ t ∈ (mask source).startTags,
        (∃ back, (mask source).text = t.front ++ '<' :: (t.name.toList ++ back)) ∧
        (∃ back, source.toList = t.before (mask source) ++ '<' :: back) ∧
        (Undisturbed t.front → maskedColumn t.front = widthAfter (t.before (mask source)) + 1) := by
  have hclean : ∀ c ∈ source.toList, ¬IsPrivate c := by
    intro c hc
    have hsmall := hascii c hc
    rintro (rfl | rfl | rfl) <;> exact absurd hsmall (by decide)
  have hmasks := masks_mask hclean
  have hbefore : ∀ {t : StartTag} {cs : List Char}, Masks (mask source).regions t.front cs →
      t.before (mask source) = cs := by
    intro t cs ht
    rw [StartTag.before, ht.unmask_eq, String.toList_ofList]
  obtain ⟨rest, hrest⟩ := Html.tokenize_prefix (mask source).text
  obtain ⟨hspec, hpairs⟩ := startsFrom_spec [] rest (Html.tokenize (mask source).text)
    fun t ht => Html.head?_of_isStart ht
  rw [List.nil_append, hrest] at hspec
  have hplaces : ∀ t ∈ (mask source).startTags, ∃ before back, source.toList = before ++ '<' ::
    back ∧
      Masks (mask source).regions t.front before := by
    intro t ht
    obtain ⟨back, hback⟩ := (hspec t ht).2
    rw [hback] at hmasks
    obtain ⟨before, after, hsource, hfront, -⟩ := hmasks.split_char (by decide) rfl
    exact ⟨before, after, hsource, hfront⟩
  refine ⟨?_, ?_, ?_⟩
  · have hmap : (mask source).startTags.map StartTag.place = (mask source).startTags.map fun t =>
        (t.name, lineAfter (t.before (mask source)), maskedColumn t.front) := by
      refine List.map_congr_left fun t ht => ?_
      obtain ⟨before, back, -, hfront⟩ := hplaces t ht
      rw [StartTag.place, hfront.maskedLine_eq, hbefore hfront]
    rw [← hmap]
    exact List.subperm_ext_iff.2 fun p _ => within_read h p
  · refine List.Pairwise.imp_of_mem ?_ hpairs
    rintro t t' - ht' ⟨more, hmore⟩
    obtain ⟨before', back, -, hfront'⟩ := hplaces t' ht'
    rw [hbefore hfront']
    rw [hmore] at hfront'
    obtain ⟨before, after, rfl, hfront, -⟩ := hfront'.split_char (by decide) rfl
    rw [hbefore hfront]
    exact ⟨after, by simp⟩
  · intro t ht
    obtain ⟨before, back, hsource, hfront⟩ := hplaces t ht
    rw [hbefore hfront]
    refine ⟨(hspec t ht).2, ⟨back, hsource⟩, hfront.maskedColumn_eq fun c hc => hascii c ?_⟩
    rw [hsource]
    exact List.mem_append_left _ hc

/-- An expression of two lines in front of two tags on lines of their own. -/
theorem read_places_lines : ∃ nodes, (∀ c ∈ "{{ a
 }}
<b><C/></b>".toList, c.toNat < 128) ∧
    read {} "{{ a
 }}
<b><C/></b>" = .ok nodes ∧
    Node.placesList nodes = [("b", 3, 1), ("C", 3, 4)] ∧
    (Node.placesList nodes).Subperm ((mask "{{ a
 }}
<b><C/></b>").startTags.map fun t =>
        (t.name, lineAfter (t.before (mask "{{ a
 }}
<b><C/></b>")), maskedColumn t.front)) := by
  have hascii : ∀ c ∈ "{{ a
 }}
<b><C/></b>".toList, c.toNat < 128 :=
    List.all_iff_forall_prop.1 (by decide)
  have hknown : (read {} "{{ a
 }}
<b><C/></b>").toOption.map Node.placesList =
      some [("b", 3, 1), ("C", 3, 4)] := by decide +kernel
  obtain ⟨nodes, hnodes, hplaces⟩ := eq_ok_of_toOption hknown
  exact ⟨nodes, hascii, hnodes, hplaces, (read_places {} _ nodes hascii hnodes).1⟩

/-- Behind an expression that is longer than its placeholder, the column is not that of any tag:
there is no bracket where the node is said to begin. -/
theorem read_places_moved : ∃ nodes, (∀ c ∈ "{{ abc }}<b></b>".toList, c.toNat < 128) ∧
    read {} "{{ abc }}<b></b>" = .ok nodes ∧ ("b", 1, 8) ∈ Node.placesList nodes ∧
    ¬∃ front back, "{{ abc }}<b></b>".toList = front ++ '<' :: back ∧
      lineAfter front = 1 ∧ widthAfter front + 1 = 8 := by
  have hknown : (read {} "{{ abc }}<b></b>").toOption.map Node.placesList =
      some [("b", 1, 8)] := by decide +kernel
  obtain ⟨nodes, hnodes, hplaces⟩ := eq_ok_of_toOption hknown
  refine ⟨nodes, List.all_iff_forall_prop.1 (by decide), hnodes,
    by rw [hplaces]; exact List.mem_cons_self, ?_⟩
  rintro ⟨front, back, hsource, -, hwidth⟩
  have hall : ∀ i < 16, "{{ abc }}<b></b>".toList[i]? = some '<' →
      widthAfter ("{{ abc }}<b></b>".toList.take i) + 1 ≠ 8 := by decide
  have hlength : front.length < 16 := by
    have hlength := congrArg List.length hsource
    rw [List.length_append, List.length_cons, show "{{ abc }}<b></b>".toList.length = 16 by decide]
      at hlength
    omega
  have hfront := hall front.length hlength (by rw [hsource]; simp)
  rw [hsource, List.take_left] at hfront
  exact hfront hwidth

end Trellis.Markup
