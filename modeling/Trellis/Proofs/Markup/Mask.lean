/-
Masking is undone by unmasking.

A masked text and its source run side by side: a character stands for itself, and a placeholder for
the region with its number (`Masks`).  When the source has none of the private characters, a
placeholder is read to its end and no further, for what comes next is no line mark
(`placeholder?_append`); so the masked text, and every part of it that begins and ends between
placeholders, gives its part of the source back (`Masks.unmaskChars_eq`, `Masks.split`).
-/
import Mathlib.Data.Bool.AllAny
import Trellis.Markup.Tag
import Trellis.Proofs.Segment

namespace Trellis.Markup

/-- A character that masking uses for itself. -/
def IsPrivate (c : Char) : Prop := c = maskOpen ∨ c = maskClose ∨ c = maskLine

instance (c : Char) : Decidable (IsPrivate c) := inferInstanceAs (Decidable (_ ∨ _))

/-- Whether a masked text stands for a text, when the numbers of its placeholders stand for regions.
-/
inductive Masks (regions : List (List Char)) : List Char → List Char → Prop where
  | nil : Masks regions [] []
  | plain {c : Char} {text cs : List Char} (hc : ¬IsPrivate c) (hrest : Masks regions text cs) :
    Masks regions (c :: text) (c :: cs)
  | region {index : Nat} {region text cs : List Char} (hindex : regions[index]? = some region)
    (hrest : Masks regions text cs) : Masks regions (placeholder index region ++ text)
      (region ++ cs)

/-- Whether a masked text is cut inside a placeholder: some of its characters, not all, stand in
front of the cut, and the others behind it. -/
def Masked.CutsPlaceholder (m : Masked) (front back : List Char) : Prop :=
  ∃ index : Fin m.regions.length, ∃ k : Fin (placeholder index m.regions[index]).length,
    0 < k.val ∧ (placeholder index m.regions[index]).take k <:+ front ∧
      (placeholder index m.regions[index]).drop k <+: back

instance (m : Masked) (front back : List Char) : Decidable (m.CutsPlaceholder front back) :=
  inferInstanceAs (Decidable (∃ index : Fin m.regions.length,
    ∃ k : Fin (placeholder index m.regions[index]).length, 0 < k.val ∧
      (placeholder index m.regions[index]).take k <:+ front ∧
      (placeholder index m.regions[index]).drop k <+: back))

lemma masks_placeholder {regions : List (List Char)} {index : Nat} {region : List Char}
    (hindex : regions[index]? = some region) : Masks regions (placeholder index region) region := by
  have hmasks : Masks regions (placeholder index region ++ []) (region ++ []) := .region hindex .nil
  rwa [List.append_nil, List.append_nil] at hmasks

/-! ### Masking -/

/-- A text and its masked text run side by side, whatever regions came before. -/
lemma masks_maskFrom {n : Nat} {cs : List Char} (hn : cs.length < n)
    (hclean : ∀ c ∈ cs, ¬IsPrivate c) (before : List (List Char)) :
    Masks (before ++ (maskFrom n before.length cs).2) (maskFrom n before.length cs).1 cs := by
  induction n generalizing cs before with
  | zero => omega
  | succ n ih =>
    cases cs with
    | nil => exact .nil
    | cons c cs =>
      have hplain : ∀ before : List (List Char), Masks (before ++ (maskFrom n before.length cs).2)
          (c :: (maskFrom n before.length cs).1) (c :: cs) := by
        rw [List.length_cons] at hn
        exact fun before => .plain (hclean c List.mem_cons_self)
          (ih (by omega) (fun d hd => hclean d (List.mem_cons_of_mem c hd)) before)
      rw [maskFrom]
      split
      · exact hplain before
      · next region inner hopens =>
        split
        · exact hplain before
        · next inside rest hbody =>
          have hcs : c :: cs = region.opening ++ inside ++ region.closing ++ rest := by
            rw [Region.opens?_eq hopens, Region.body?_eq hbody]
            simp only [List.append_assoc]
          have hlength : rest.length < n := by
            have hwhole := congrArg List.length hcs
            have hopening : 0 < region.opening.length := by cases region <;> decide
            simp only [List.length_append, List.length_cons] at hwhole hn
            omega
          have hrest : ∀ d ∈ rest, ¬IsPrivate d := by
            intro d hd
            refine hclean d ?_
            rw [hcs]
            exact List.mem_append_right _ hd
          have hmasks := ih hlength hrest (before ++ [region.opening ++ inside ++ region.closing])
          rw [List.append_assoc, List.length_append, List.length_singleton,
            List.singleton_append] at hmasks
          rw [hcs]
          refine Masks.region ?_ hmasks
          simp

/-- The masked text of a source without private characters. -/
lemma masks_mask {source : String} (hclean : ∀ c ∈ source.toList, ¬IsPrivate c) :
    Masks (mask source).regions (mask source).text source.toList :=
  masks_maskFrom (Nat.lt_succ_self _) hclean []

/-! ### Placeholders -/

lemma isDigit_of_mem_toString {index : Nat} : ∀ c ∈ (toString index).toList, c.isDigit = true := by
  intro c hc
  rw [Nat.toString_eq_ofList_toDigits, String.toList_ofList] at hc
  exact Nat.isDigit_of_mem_toDigits (by decide) (by decide) hc

lemma digitsValue_toString (index : Nat) : Expr.digitsValue (toString index).toList = index := by
  rw [Nat.toString_eq_ofList_toDigits, String.toList_ofList]
  exact Nat.ofDigitChars_ten_toDigits

/-- What follows is no line mark. -/
def NoMark (cs : List Char) : Prop := ∀ c ∈ cs.head?, c ≠ maskLine

lemma Masks.noMark {regions : List (List Char)} {text cs : List Char} (h : Masks regions text cs) :
    NoMark text := by
  intro c hc
  cases h with
  | nil => cases hc
  | plain hplain hrest =>
    cases hc
    exact fun hline => hplain (.inr (.inr hline))
  | region hindex hrest =>
    cases hc
    decide

/-- A placeholder ends where its line marks end. -/
lemma placeholder?_append (index : Nat) (region : List Char) {text : List Char} (h : NoMark text) :
    placeholder? (placeholder index region ++ text) = some ((toString index).toList, text) := by
  have hclose : maskClose.isDigit = false := by decide
  have hmarks : (List.replicate (region.count '\n') maskLine ++ text).dropWhile (· == maskLine) =
      text := by
    rw [List.dropWhile_append_of_pos fun c hc => by simp [List.eq_of_mem_replicate hc]]
    cases text with
    | nil => rfl
    | cons c cs =>
      have hc : c ≠ maskLine := h c rfl
      simp [hc]
  simp only [placeholder, List.cons_append, List.append_assoc, placeholder?, beq_self_eq_true,
    if_true,
    List.takeWhile_append_of_pos isDigit_of_mem_toString,
      List.dropWhile_append_of_pos isDigit_of_mem_toString]
  simp [hclose, hmarks]

lemma placeholder?_plain {c : Char} (hc : ¬IsPrivate c) (cs : List Char) :
    placeholder? (c :: cs) = none := by
  have hopen : c ≠ maskOpen := fun h => hc (.inl h)
  simp [placeholder?, hopen]

/-! ### Unmasking -/

lemma unmaskChars_placeholder {regions : List (List Char)} {n index : Nat} {region text : List Char}
    (hindex : regions[index]? = some region) (h : NoMark text) :
    unmaskChars regions (n + 1) (placeholder index region ++ text) = region ++
    unmaskChars regions n text := by
  have hread := placeholder?_append index region h
  obtain ⟨marks, hmarks⟩ : ∃ marks, placeholder index region ++ text = maskOpen :: marks := ⟨_, rfl⟩
  rw [hmarks] at hread ⊢
  rw [unmaskChars, hread]
  simp only [digitsValue_toString, List.getD_eq_getElem?_getD, hindex, Option.getD_some]

lemma Masks.unmaskChars_eq {regions : List (List Char)} {text cs : List Char}
    (h : Masks regions text cs)
    {n : Nat} (hn : text.length < n) : unmaskChars regions n text = cs := by
  induction h generalizing n with
  | nil =>
    cases n with
    | zero => omega
    | succ n => rfl
  | @plain c text cs hc hrest ih =>
    cases n with
    | zero => omega
    | succ n =>
      rw [List.length_cons] at hn
      rw [unmaskChars, placeholder?_plain hc, ih (by omega)]
  | @region index region text cs hindex hrest ih =>
    cases n with
    | zero => omega
    | succ n =>
      have hlength : text.length < n := by
        simp only [placeholder, List.length_append, List.length_cons] at hn
        omega
      rw [unmaskChars_placeholder hindex hrest.noMark, ih hlength]

/-- Where no placeholder stands, the masked text is the source. -/
lemma Masks.eq_of_not_mem {regions : List (List Char)} {text cs : List Char}
    (h : Masks regions text cs) (hopen : maskOpen ∉ text) : text = cs := by
  induction h with
  | nil => rfl
  | plain hc hrest ih => rw [ih fun hmem => hopen (List.mem_cons_of_mem _ hmem)]
  | region hindex hrest ih => exact absurd List.mem_cons_self hopen

lemma Masks.unmask_eq {m : Masked} {text cs : List Char} (h : Masks m.regions text cs) :
    m.unmask (String.ofList text) = String.ofList cs := by
  unfold Masked.unmask
  rw [String.toList_ofList]
  split
  · rw [h.unmaskChars_eq (by simp)]
  · next hopen =>
    rw [h.eq_of_not_mem fun hmem => hopen (List.contains_iff_mem.2 hmem)]

/-! ### Pieces -/

lemma Masked.CutsPlaceholder.append {m : Masked} {front back : List Char}
    (h : m.CutsPlaceholder front back)
    (before : List Char) : m.CutsPlaceholder (before ++ front) back := by
  obtain ⟨index, k, hk, hfront, hback⟩ := h
  exact ⟨index, k, hk, hfront.trans (List.suffix_append _ _), hback⟩

lemma Masked.cutsPlaceholder_of_parts {m : Masked} {index : Nat} {region p q rest : List Char}
    (hindex : m.regions[index]? = some region) (hp : p ≠ []) (hq : q ≠ [])
    (hwhole : p ++ q = placeholder index region) : m.CutsPlaceholder p (q ++ rest) := by
  obtain ⟨hlt, rfl⟩ := List.getElem?_eq_some_iff.1 hindex
  have hk : p.length < (placeholder index m.regions[index]).length := by
    rw [← hwhole, List.length_append]
    have hpos : 0 < q.length := List.length_pos_iff.2 hq
    omega
  refine ⟨⟨index, hlt⟩, ⟨p.length, hk⟩, List.length_pos_iff.2 hp, ?_, ?_⟩
  · simp only [Fin.getElem_fin, ← hwhole, List.take_left]
    exact List.suffix_rfl
  · simp only [Fin.getElem_fin, ← hwhole, List.drop_left]
    exact List.prefix_append _ _

/-- A cut between placeholders cuts the source, too. -/
lemma Masks.split {m : Masked} {front back cs : List Char} (h : Masks m.regions (front ++ back) cs)
    (hcut : ¬m.CutsPlaceholder front back) :
    ∃ before after, cs = before ++ after ∧ Masks m.regions front before ∧
    Masks m.regions back after := by
  generalize hwhole : front ++ back = text at h
  induction h generalizing front with
  | nil =>
    obtain ⟨rfl, rfl⟩ := List.append_eq_nil_iff.1 hwhole
    exact ⟨[], [], rfl, .nil, .nil⟩
  | @plain c text cs hc hrest ih =>
    cases front with
    | nil =>
      obtain rfl : back = c :: text := hwhole
      exact ⟨[], c :: cs, rfl, .nil, .plain hc hrest⟩
    | cons d front =>
      obtain ⟨rfl, htext⟩ := List.cons.inj hwhole
      have hcut' : ¬m.CutsPlaceholder front back := fun hinside => hcut (hinside.append [d])
      obtain ⟨before, after, rfl, hfront, hback⟩ := ih hcut' htext
      exact ⟨d :: before, after, rfl, .plain hc hfront, hback⟩
  | @region index region text cs hindex hrest ih =>
    rcases List.append_eq_append_iff.1 hwhole with ⟨q, hq, hback⟩ | ⟨front', rfl, htext⟩
    · -- the cut is not behind the placeholder, so it is in front of it
      cases front with
      | nil =>
        obtain rfl : back = placeholder index region ++ text := hwhole
        exact ⟨[], region ++ cs, rfl, .nil, .region hindex hrest⟩
      | cons d front =>
        cases q with
        | nil =>
          rw [List.append_nil] at hq
          rw [List.nil_append] at hback
          subst hback
          refine ⟨region, cs, rfl, ?_, hrest⟩
          rw [← hq]
          exact masks_placeholder hindex
        | cons c q =>
          have hinside : m.CutsPlaceholder (d :: front) (c :: q ++ text) :=
            Masked.cutsPlaceholder_of_parts hindex (List.cons_ne_nil _ _) (List.cons_ne_nil _ _)
              hq.symm
          rw [← hback] at hinside
          exact absurd hinside hcut
    · have hcut' : ¬m.CutsPlaceholder front' back := fun hinside => hcut (hinside.append _)
      obtain ⟨before, after, rfl, hfront, hback⟩ := ih hcut' htext.symm
      exact ⟨region ++ before, after, (List.append_assoc _ _ _).symm, .region hindex hfront, hback⟩

lemma Masks.eq_nil {regions : List (List Char)} {cs : List Char} (h : Masks regions [] cs) :
    cs = [] := by
  generalize htext : ([] : List Char) = text at h
  cases h with
  | nil => rfl
  | plain => cases htext
  | region => cases htext

/-- Characters in front that are not private stand for themselves. -/
lemma Masks.append_plain {regions : List (List Char)} (front : List Char) {text cs : List Char}
    (hfront : ∀ c ∈ front, ¬IsPrivate c) (h : Masks regions (front ++ text) cs) :
    ∃ after, cs = front ++ after ∧ Masks regions text after := by
  induction front generalizing cs with
  | nil => exact ⟨cs, rfl, h⟩
  | cons c front ih =>
    obtain ⟨hc, hfront⟩ := List.forall_mem_cons.1 hfront
    generalize htext : c :: front ++ text = whole at h
    cases h with
    | nil => cases htext
    | plain _ hrest =>
      cases htext
      obtain ⟨after, rfl, hafter⟩ := ih hfront hrest
      exact ⟨after, rfl, hafter⟩
    | region => exact absurd (.inl (List.cons.inj htext).1) hc

lemma Masks.append {regions : List (List Char)} {text text' cs cs' : List Char}
    (h : Masks regions text cs)
    (h' : Masks regions text' cs') : Masks regions (text ++ text') (cs ++ cs') := by
  induction h with
  | nil => exact h'
  | plain hc _ ih => exact .plain hc ih
  | region hindex _ ih =>
    rw [List.append_assoc, List.append_assoc]
    exact .region hindex ih

/-- No placeholder has a character in it that is neither private nor a digit. -/
lemma not_mem_placeholder {c : Char} (hc : ¬IsPrivate c) (hdigit : c.isDigit = false) (index : Nat)
    (region : List Char) : c ∉ placeholder index region := by
  intro hmem
  simp only [placeholder, List.mem_cons, List.mem_append, List.mem_replicate] at hmem
  rcases hmem with (h | h) | h | h
  · exact hc (.inl h)
  · rw [isDigit_of_mem_toString c h] at hdigit
    cases hdigit
  · exact hc (.inr (.inl h))
  · exact hc (.inr (.inr h.2))

/-- At such a character a masked text can be cut. -/
lemma Masks.split_char {m : Masked} {front back cs : List Char} {c : Char} (hc : ¬IsPrivate c)
    (hdigit : c.isDigit = false) (h : Masks m.regions (front ++ c :: back) cs) :
    ∃ before after, cs = before ++ c :: after ∧ Masks m.regions front before ∧
    Masks m.regions back after := by
  have hcut : ¬m.CutsPlaceholder front (c :: back) := by
    rintro ⟨index, k, -, -, hback⟩
    have hne : (placeholder index m.regions[index]).drop k ≠ [] := by
      rw [ne_eq, List.drop_eq_nil_iff]
      exact Nat.not_le.2 k.isLt
    obtain ⟨d, more, hmore⟩ := List.exists_cons_of_ne_nil hne
    rw [hmore, List.cons_prefix_cons] at hback
    refine not_mem_placeholder hc hdigit index m.regions[index] (List.mem_of_mem_drop (i := k) ?_)
    rw [hmore, hback.1]
    exact List.mem_cons_self
  obtain ⟨before, after, rfl, hfront, hafter⟩ := h.split hcut
  generalize htext : c :: back = text at hafter
  cases hafter with
  | nil => cases htext
  | plain _ hback =>
    cases htext
    exact ⟨before, _, rfl, hfront, hback⟩
  | region => exact absurd (.inl (List.cons.inj htext).1) hc

lemma Masks.unmask_pieces {m : Masked} {ps : List (List Char)} {cs : List Char}
    (h : Masks m.regions ps.flatten cs)
    (hcuts : ∀ i < ps.length, ¬m.CutsPlaceholder (ps.take i).flatten (ps.drop i).flatten) :
    String.join (ps.map fun p => m.unmask (String.ofList p)) = String.ofList cs := by
  induction ps generalizing cs with
  | nil =>
    rw [List.flatten_nil] at h
    cases h
    rfl
  | cons p ps ih =>
    have hcuts' : ∀ i ≤ ps.length, ¬m.CutsPlaceholder (p ++ (ps.take i).flatten)
        (ps.drop i).flatten := by
      intro i hi
      rcases hi.lt_or_eq with hlt | rfl
      · have hcut := hcuts (i + 1) (by simpa using hlt)
        rwa [List.take_succ_cons, List.flatten_cons, List.drop_succ_cons] at hcut
      · rintro ⟨index, k, -, -, hback⟩
        rw [List.drop_length, List.flatten_nil, List.prefix_nil, List.drop_eq_nil_iff] at hback
        exact absurd k.isLt (by omega)
    rw [List.flatten_cons] at h
    have hfirst : ¬m.CutsPlaceholder p ps.flatten := by
      have hcut := hcuts' 0 (Nat.zero_le _)
      rwa [List.take_zero, List.flatten_nil, List.append_nil, List.drop_zero] at hcut
    obtain ⟨before, after, rfl, hp, hps⟩ := h.split hfirst
    have hrest : ∀ i < ps.length, ¬m.CutsPlaceholder (ps.take i).flatten (ps.drop i).flatten :=
      fun i hi hinside => hcuts' i hi.le (hinside.append p)
    rw [List.map_cons, String.join_cons, hp.unmask_eq, ih hps hrest, String.ofList_append]

/-- **Masking is reversible.** For a source without private characters, unmasking the masked text
gives the source; and so do the unmasked pieces of the masked text, one after the other, however it
is cut outside placeholders. -/
theorem unmask_mask (source : String)
    (hclean : ∀ c ∈ source.toList, c ≠ '\ue000' ∧ c ≠ '\ue001' ∧ c ≠ '\ue002') :
    (mask source).unmask (String.ofList (mask source).text) = source ∧
      ∀ ps : List (List Char), ps.flatten = (mask source).text →
        (∀ i < ps.length, ¬(mask source).CutsPlaceholder (ps.take i).flatten (ps.drop i).flatten) →
        String.join (ps.map fun p => (mask source).unmask (String.ofList p)) = source := by
  have hmasks : Masks (mask source).regions (mask source).text source.toList := by
    refine masks_mask fun c hc => ?_
    obtain ⟨hopen, hclose, hline⟩ := hclean c hc
    rintro (h | h | h)
    · exact hopen h
    · exact hclose h
    · exact hline h
  constructor
  · rw [hmasks.unmask_eq, String.ofList_toList]
  · intro ps hps hcuts
    rw [← hps] at hmasks
    rw [hmasks.unmask_pieces hcuts, String.ofList_toList]

/-- Two placeholders side by side, digits behind them and a region that is never closed; cut between
the placeholders. -/
theorem unmask_mask_adjacent :
    (∀ c ∈ "\x7b\x7ba\x7d\x7d\x7b[b\n]\x7d12\x7b\x7bc".toList, c ≠ '\ue000' ∧ c ≠ '\ue001' ∧
    c ≠ '\ue002') ∧
    (mask "\x7b\x7ba\x7d\x7d\x7b[b\n]\x7d12\x7b\x7bc").text =
      "\ue0000\ue001\ue0001\ue001\ue00212\x7b\x7bc".toList ∧
    (mask "\x7b\x7ba\x7d\x7d\x7b[b\n]\x7d12\x7b\x7bc").unmask
        (String.ofList (mask "\x7b\x7ba\x7d\x7d\x7b[b\n]\x7d12\x7b\x7bc").text) =
      "\x7b\x7ba\x7d\x7d\x7b[b\n]\x7d12\x7b\x7bc" ∧
    String.join (["\ue0000\ue001".toList, "\ue0001\ue001\ue0021".toList, "2\x7b\x7bc".toList].map
    fun p =>
        (mask "\x7b\x7ba\x7d\x7d\x7b[b\n]\x7d12\x7b\x7bc").unmask (String.ofList p)) =
      "\x7b\x7ba\x7d\x7d\x7b[b\n]\x7d12\x7b\x7bc" := by
  have hclean : ∀ c ∈ "\x7b\x7ba\x7d\x7d\x7b[b\n]\x7d12\x7b\x7bc".toList,
      c ≠ '\ue000' ∧ c ≠ '\ue001' ∧ c ≠ '\ue002' := List.all_iff_forall_prop.1 (by decide)
  obtain ⟨hwhole, hpieces⟩ := unmask_mask "\x7b\x7ba\x7d\x7d\x7b[b\n]\x7d12\x7b\x7bc" hclean
  exact ⟨hclean, by decide +kernel, hwhole, hpieces _ (by decide +kernel) (by decide +kernel)⟩

end Trellis.Markup
