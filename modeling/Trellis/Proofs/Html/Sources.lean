/-
The sources of tokens make up the text.

Whatever is read of a tag, a comment or a declaration, what is left is an end of what there was, and
it stands behind a closing bracket if it is not empty (`suffix_of_tag?`, `behindAngle_afterComment`,
`behindAngle_afterAngle`).  So the source of a token and the rest after it are the text at which the
token was read (`markupToken?_reads`), the sources of all tokens, one after the other, begin the
text (`tokenize_prefix`), and what is left is an unfinished tag.

A token ends with a closing bracket, or the next one begins with an opening one (`Token.Form`).
-/
import Mathlib.Tactic.Common
import Trellis.Html.Token

namespace Trellis.Html

/-! ### Ends of the text -/

lemma suffix_skipSpace (cs : List Char) : skipSpace cs <:+ cs := List.dropWhile_suffix _

/-- An end of a text is an end of a longer one. -/
lemma suffix_cons {c : Char} {rest cs : List Char} (h : rest <:+ cs) : rest <:+ c :: cs :=
  h.trans (List.suffix_cons c cs)

/-- What stands behind the first character of an end is an end. -/
lemma suffix_of_cons {c : Char} {rest cs : List Char} (h : c :: rest <:+ cs) : rest <:+ cs :=
  (List.suffix_cons c rest).trans h

lemma suffix_of_attrValue? {cs value rest : List Char} {endsTag : Bool}
    (h : attrValue? cs = some (value, endsTag, rest)) : rest <:+ cs := by
  refine List.IsSuffix.trans ?_ (suffix_skipSpace cs)
  simp only [attrValue?, spanUntil] at h
  split at h
  · cases h
  · next more hmore =>
    cases h
    rw [hmore]
    exact List.suffix_cons _ _
  · next more hmore =>
    rw [hmore]
    refine suffix_cons (List.IsSuffix.trans ?_ (suffix_skipSpace more))
    split at h
    · cases h
    · next q inner hinner =>
      rw [hinner]
      have hafter : ∀ p : Char → Bool, inner.dropWhile p <:+ q :: inner :=
        fun p => suffix_cons (List.dropWhile_suffix p)
      split at h
      · cases h
        exact List.suffix_rfl
      · split at h
        · split at h
          · cases h
          · next c after hspan =>
            cases h
            exact suffix_of_cons (hspan ▸ hafter _)
        · split at h
          · cases h
          · cases h
            exact hafter _
          · next c after hne hspan =>
            cases h
            exact suffix_of_cons (hspan ▸ hafter _)
  · cases h
    exact List.suffix_rfl

lemma suffix_of_attrs? {n : Nat} {cs rest : List Char} {as : List RawAttr}
    (h : attrs? n cs = some (as, rest)) : '>' :: rest <:+ cs := by
  induction n generalizing cs rest as with
  | zero => cases h
  | succ n ih =>
    refine List.IsSuffix.trans ?_ (suffix_skipSpace cs)
    simp only [attrs?, spanUntil] at h
    split at h
    · cases h
    · next more hmore =>
      cases h
      exact hmore ▸ List.suffix_rfl
    · next c more hne hmore =>
      rw [hmore]
      -- a name may begin with an equals sign, and is read in the same way else
      split at h
      all_goals
        split at h
        · cases h
        · split at h
          · cases h
          · next hvalue =>
            split at h
            · cases h
            · next hrest =>
              cases h
              refine (ih hrest).trans ((suffix_of_attrValue? hvalue).trans ?_)
              first
                | exact suffix_cons (List.dropWhile_suffix _)
                | exact List.dropWhile_suffix _

lemma suffix_of_tag? {cs name rest : List Char} {as : List RawAttr}
    (h : tag? cs = some (name, as, rest)) :
    '>' :: rest <:+ cs := by
  simp only [tag?, spanUntil] at h
  split at h
  · cases h
  · split at h
    · cases h
    · next hattrs =>
      cases h
      exact (suffix_of_attrs? hattrs).trans (List.dropWhile_suffix _)

/-- Whether `rest` is what stands behind a closing bracket of a text, if it is not empty. -/
def IsBehindAngle (rest cs : List Char) : Prop := rest = [] ∨ '>' :: rest <:+ cs

namespace IsBehindAngle

variable {rest cs cs' : List Char}

lemma suffix (h : IsBehindAngle rest cs) : rest <:+ cs := by
  rcases h with rfl | hangle
  · exact List.nil_suffix
  · exact suffix_of_cons hangle

lemma trans (h : IsBehindAngle rest cs) (hcs : cs <:+ cs') : IsBehindAngle rest cs' :=
  h.imp_right fun hangle => hangle.trans hcs

lemma cons (h : IsBehindAngle rest cs) (c : Char) : IsBehindAngle rest (c :: cs) :=
  h.trans (List.suffix_cons c cs)

end IsBehindAngle

lemma behindAngle_afterAngle (cs : List Char) : IsBehindAngle (afterAngle cs) cs := by
  induction cs with
  | nil => exact .inl rfl
  | cons c cs ih =>
    by_cases hc : c = '>'
    · exact .inr (by simp [afterAngle, hc])
    · have hskip : afterAngle (c :: cs) = afterAngle cs := by simp [afterAngle, hc]
      exact hskip ▸ ih.cons c

lemma behindAngle_afterComment (dashes : Nat) (beginning : Bool) (cs : List Char) :
    IsBehindAngle (afterComment dashes beginning cs) cs := by
  fun_induction afterComment dashes beginning cs with
  | case1 => exact .inl rfl
  | case2 dashes beginning c cs hdash ih => exact ih.cons c
  | case3 dashes beginning c cs hdash hclose =>
    rw [Bool.and_eq_true, beq_iff_eq] at hclose
    exact .inr (hclose.1 ▸ List.suffix_rfl)
  | case4 dashes beginning c hdash hclose hbang => exact .inl rfl
  | case5 dashes beginning c hdash hclose hbang rest => exact .inr (List.suffix_cons _ _)
  | case6 dashes beginning c hdash hclose hbang rest ih => exact (ih.cons _).cons c
  | case7 dashes beginning c hdash hclose hbang d rest _ _ ih => exact (ih.cons d).cons c
  | case8 dashes beginning c cs hdash hclose hbang ih => exact ih.cons c

lemma suffix_of_dropWord? {word cs rest : List Char} (h : dropWord? word cs = some rest) :
    rest <:+ cs := by
  induction word generalizing cs with
  | nil =>
    cases h
    exact List.suffix_rfl
  | cons w ws ih =>
    cases cs with
    | nil => cases h
    | cons c cs =>
      rw [dropWord?] at h
      split at h
      · exact suffix_cons (ih h)
      · cases h

/-! ### Text -/

lemma plainText_eq (cs : List Char) : (plainText cs).1 ++ (plainText cs).2 = cs := by
  induction cs with
  | nil => rfl
  | cons c cs ih =>
    rw [plainText]
    split
    · rfl
    · simpa using ih

lemma rawText_eq (name cs : List Char) : (rawText name cs).1 ++ (rawText name cs).2 = cs := by
  fun_induction rawText name cs <;> simp_all

lemma elementText_eq (name : String) (cs : List Char) :
    (elementText name cs).1 ++ (elementText name cs).2 = cs := by
  unfold elementText
  split
  · exact List.append_nil cs
  · split
    · exact List.take_append_drop _ _
    · exact rawText_eq _ _

/-- Whether a text is empty or begins with an opening bracket. -/
def StartsAngle (cs : List Char) : Prop := ∀ c ∈ cs.head?, c = '<'

lemma StartsAngle.of_isPrefix {front cs : List Char} (h : StartsAngle cs) (hfront : front <+: cs) :
    StartsAngle front := by
  cases front with
  | nil => nofun
  | cons c front =>
    obtain ⟨back, rfl⟩ := hfront
    exact h

/-- Whether a text is empty or ends with a closing bracket. -/
def EndsAngle (cs : List Char) : Prop := ∀ c ∈ cs.getLast?, c = '>'

lemma endsAngle_snoc (cs : List Char) : EndsAngle (cs ++ ['>']) := by
  intro c hc
  simpa using hc.symm

lemma EndsAngle.of_suffix {back cs : List Char} (h : EndsAngle cs) (hback : back <:+ cs) :
    EndsAngle back := by
  obtain ⟨front, rfl⟩ := hback
  exact fun c hc => h c (by rw [List.getLast?_append, hc]; rfl)

lemma startsAngle_plainText (cs : List Char) : StartsAngle (plainText cs).2 := by
  induction cs with
  | nil => nofun
  | cons c cs ih =>
    rw [plainText]
    split
    · next hopens =>
      intro d hd
      cases hd
      unfold opensMarkup at hopens
      split at hopens <;> simp_all
    · exact ih

/-- Where no text stands, markup begins. -/
lemma opensMarkup_of_plainText {cs : List Char} (hcs : cs ≠ []) (htext : (plainText cs).1 = []) :
    opensMarkup cs = true := by
  obtain ⟨c, cs, rfl⟩ := List.exists_cons_of_ne_nil hcs
  rw [plainText] at htext
  split at htext
  · assumption
  · cases htext

lemma startsAngle_rawText (name cs : List Char) : StartsAngle (rawText name cs).2 := by
  fun_induction rawText name cs with
  | case1 => nofun
  | case2 cs hend => exact fun c hc => (Option.some.inj hc).symm
  | case3 cs hend text rest hrest ih => simpa [hrest] using ih
  | case4 c cs hne text rest hrest ih => simpa [hrest] using ih

/-- The text of a script ends in front of an opening bracket. -/
lemma startsAngle_scriptLength {n : Nat} {s : ScriptState} {cs : List Char} (hn : cs.length < n) :
    StartsAngle (cs.drop (scriptLength n s cs)) := by
  have hskip : ∀ {k l : Nat} {xs : List Char}, StartsAngle ((xs.drop k).drop l) →
      StartsAngle (xs.drop (k + l)) := by
    intro k l xs h
    rwa [List.drop_drop] at h
  have hangle : ∀ xs : List Char, StartsAngle ('<' :: xs) :=
    fun xs c hc => (Option.some.inj hc).symm
  fun_induction scriptLength n s cs with
  | case1 => exact absurd hn (Nat.not_lt_zero _)
  | case2 | case7 | case13 => nofun
  | case3 => exact hangle _
  | case8 _ _ _ _ _ hc => exact beq_iff_eq.1 hc ▸ hangle _
  | case10 _ _ _ _ _ _ _ _ _ _ hend ih =>
    rw [if_pos hend]
    exact hskip (ih (by simp only [List.length_cons, List.length_drop] at hn ⊢; omega))
  | case11 _ _ _ _ _ _ _ _ _ _ hend ih =>
    rw [if_neg hend]
    exact hskip (ih (Nat.lt_of_succ_lt_succ hn))
  | _ =>
    -- some characters are taken, and the rest goes on
    rename_i ih
    refine hskip (ih ?_)
    simp only [List.length_cons, List.length_drop] at hn ⊢
    omega

lemma startsAngle_elementText (name : String) (cs : List Char) :
    StartsAngle (elementText name cs).2 := by
  unfold elementText
  split
  · nofun
  · split
    · exact startsAngle_scriptLength (Nat.lt_succ_self _)
    · exact startsAngle_rawText _ _

/-! ### Tokens -/

/-- Whether a token opens a tag, closed or not. -/
def Token.IsStart (t : Token) : Prop := t.kind = .startTag ∨ t.kind = .selfClosing

instance (t : Token) : Decidable t.IsStart := inferInstanceAs (Decidable (_ ∨ _))

/-- The source of a token in front of what is left: a tag between its brackets, or something else
that is set apart by a bracket. -/
inductive Token.Form (t : Token) (rest : List Char) : Prop where
  | start {d : Char} {body : List Char} (hkind : t.IsStart) (hletter : isTagLetter d = true)
    (hsource : t.source = '<' :: d :: (body ++ ['>'])) (hslash : t.kind = .selfClosing →
      body.getLast? = some '/')
  | close {d : Char} {body : List Char} (hkind : t.kind = .endTag) (hletter : isTagLetter d = true)
    (hsource : t.source = '<' :: '/' :: d :: (body ++ ['>']))
  | other (hstart : ¬t.IsStart) (hclose : t.kind ≠ .endTag)
    (hapart : StartsAngle rest ∨ EndsAngle t.source)

lemma Token.Form.of_isPrefix {t : Token} {front rest : List Char} (h : t.Form rest)
    (hfront : front <+: rest) :
    t.Form front := by
  cases h with
  | start hkind hletter hsource hslash => exact .start hkind hletter hsource hslash
  | close hkind hletter hsource => exact .close hkind hletter hsource
  | other hstart hclose hapart =>
    exact .other hstart hclose (hapart.imp_left (·.of_isPrefix hfront))

/-- The source of a token and what is left after it. -/
structure Token.Reads (t : Token) (all rest : List Char) : Prop where
  source_eq : t.source ++ rest = all
  form : t.Form rest

/-- The characters in front of an end of a text. -/
lemma take_append_suffix {rest all : List Char} (h : rest <:+ all) :
    all.take (all.length - rest.length) ++ rest = all := by
  obtain ⟨front, rfl⟩ := h
  simp

/-- The characters up to a closing bracket. -/
lemma take_suffix_angle {rest all : List Char} (front : List Char)
    (h : all = front ++ '>' :: rest) :
    all.take (all.length - rest.length) = front ++ ['>'] := by
  have hall : all = (front ++ ['>']) ++ rest := by rw [h, List.append_assoc, List.singleton_append]
  have hrest : rest <:+ all := ⟨_, hall.symm⟩
  exact List.append_cancel_right ((take_append_suffix hrest).trans hall)

/-- Comments and declarations end with their bracket or with the text. -/
lemma reads_of_behindAngle {kind : TokenKind} {all rest : List Char}
    (hkind : kind = .comment ∨ kind = .doctype) (h : IsBehindAngle rest all) :
    Token.Reads ⟨kind, all.take (all.length - rest.length), [], [], false, false⟩ all rest := by
  refine ⟨take_append_suffix h.suffix, .other ?_ ?_ ?_⟩
  · rintro (hstart | hstart) <;> rcases hkind with rfl | rfl <;> cases hstart
  · rcases hkind with rfl | rfl <;> exact TokenKind.noConfusion
  · rcases h with rfl | ⟨front, hall⟩
    · exact .inl nofun
    · exact .inr (by rw [take_suffix_angle front hall.symm]; exact endsAngle_snoc front)

lemma declaration_reads {cs : List Char} (all : List Char) (h : cs <:+ all) :
    (declaration all cs).1.Reads all (declaration all cs).2 := by
  unfold declaration
  split
  · next body =>
    exact reads_of_behindAngle (.inl rfl)
      ((behindAngle_afterComment _ _ _).trans (suffix_of_cons (suffix_of_cons h)))
  · split
    · next rest hword =>
      exact reads_of_behindAngle (.inr rfl) ((behindAngle_afterAngle _).trans
        ((suffix_skipSpace _).trans ((suffix_of_dropWord? hword).trans h)))
    · exact reads_of_behindAngle (.inl rfl) ((behindAngle_afterAngle _).trans h)
  · exact reads_of_behindAngle (.inl rfl) (.inl rfl)

/-- A tag is read up to a closing bracket behind its first letter. -/
lemma tag?_eq {c : Char} {cs name rest : List Char} {as : List RawAttr} (hc : isTagLetter c = true)
    (h : tag? (c :: cs) = some (name, as, rest)) : ∃ body, cs = body ++ '>' :: rest := by
  obtain ⟨front, hfront⟩ := suffix_of_tag? h
  cases front with
  | nil =>
    rw [← (List.cons.inj hfront).1] at hc
    exact absurd hc (by decide)
  | cons d body => exact ⟨body, (List.cons.inj hfront).2.symm⟩

lemma markupToken?_reads {all rest : List Char} {t : Token} (hopens : opensMarkup all = true)
    (h : markupToken? all = some (t, rest)) : t.Reads all rest := by
  unfold markupToken? at h
  dsimp only at h
  split at h
  · cases h
    refine ⟨List.append_nil _, .other ?_ TokenKind.noConfusion (.inl nofun)⟩
    rintro (hstart | hstart) <;> cases hstart
  · next c cs =>
    split at h
    · next hc =>
      cases h
      rw [beq_iff_eq] at hc
      exact reads_of_behindAngle (.inl rfl) (.inr (hc ▸ suffix_cons (List.suffix_cons _ _)))
    · split at h
      · next hc =>
        obtain ⟨⟨name, as, rest'⟩, htag, heq⟩ := Option.map_eq_some_iff.1 h
        cases heq
        obtain ⟨body, rfl⟩ := tag?_eq hc htag
        have hsource : ('<' :: '/' :: c :: (body ++ '>' :: rest')).take
            (('<' :: '/' :: c :: (body ++ '>' :: rest')).length - rest'.length) = '<' :: '/' :: c ::
              (body ++ ['>']) :=
          take_suffix_angle ('<' :: '/' :: c :: body) rfl
        exact ⟨take_append_suffix ⟨'<' :: '/' :: c :: body ++ ['>'], by simp⟩,
          .close rfl hc hsource⟩
      · cases h
        exact reads_of_behindAngle (.inl rfl) (((behindAngle_afterAngle _).cons _).cons _)
  · next cs =>
    have hreads := declaration_reads ('<' :: '!' :: cs) (suffix_cons (List.suffix_cons _ _))
    rwa [Option.some.inj h] at hreads
  · next cs =>
    cases h
    exact reads_of_behindAngle (.inl rfl) (((behindAngle_afterAngle _).cons _).cons _)
  · next cs hend hslash hbang hquestion =>
    obtain ⟨⟨name, as, rest'⟩, htag, heq⟩ := Option.map_eq_some_iff.1 h
    cases heq
    cases cs with
    | nil => cases htag
    | cons d cs =>
      have hd : isTagLetter d = true := by
        simp only [opensMarkup, Bool.or_eq_true, beq_iff_eq] at hopens
        rcases hopens with ((hd | rfl) | rfl) | rfl
        · exact hd
        · cases cs with
          | nil => exact absurd rfl hend
          | cons c cs => exact absurd rfl (hslash c cs)
        · exact absurd rfl (hbang _)
        · exact absurd rfl (hquestion _)
      obtain ⟨body, rfl⟩ := tag?_eq hd htag
      have hsource : ('<' :: d :: (body ++ '>' :: rest')).take
          (('<' :: d :: (body ++ '>' :: rest')).length - rest'.length) = '<' :: d ::
            (body ++ ['>']) :=
        take_suffix_angle ('<' :: d :: body) rfl
      refine ⟨take_append_suffix ⟨'<' :: d :: body ++ ['>'], by simp⟩, .start ?_ hd hsource ?_⟩
      · unfold Token.IsStart
        dsimp only
        split
        · exact .inr rfl
        · exact .inl rfl
      · intro hself
        dsimp only at hself
        split at hself
        · next hboth =>
          rw [hsource, Bool.and_eq_true, beq_iff_eq] at hboth
          have hlast : body.getLast?.or (some d) = some '/' := by simpa using hboth.1
          cases hbody : body.getLast? with
          | none =>
            obtain rfl : d = '/' := by simpa [hbody] using hlast
            exact absurd hd (by decide)
          | some c => simpa [hbody] using hlast
        · cases hself
  · cases h

/-- Whether tokens stand one behind the other. -/
inductive Formed : List Token → Prop where
  | nil : Formed []
  | cons {t : Token} {ts : List Token} (ht : t.Form (ts.flatMap Token.source)) (hts : Formed ts) :
      Formed (t :: ts)

/-- Tokens whose sources begin a text. -/
structure AreRead (ts : List Token) (cs : List Char) : Prop where
  isPrefix : ts.flatMap Token.source <+: cs
  formed : Formed ts

lemma areRead_nil (cs : List Char) : AreRead [] cs := ⟨List.nil_prefix, .nil⟩

lemma Token.Reads.cons {t : Token} {ts : List Token} {all rest : List Char} (ht : t.Reads all rest)
    (hts : AreRead ts rest) : AreRead (t :: ts) all := by
  refine ⟨?_, .cons (ht.form.of_isPrefix hts.isPrefix) hts.formed⟩
  rw [List.flatMap_cons, ← ht.source_eq]
  exact (List.prefix_append_right_inj _).2 hts.isPrefix

/-- Text is read up to an opening bracket. -/
lemma reads_text (source : List Char) {rest : List Char} (raw clean : Bool) (h : StartsAngle rest) :
    Token.Reads ⟨.text, source, [], [], raw, clean⟩ (source ++ rest) rest := by
  refine ⟨rfl, .other ?_ TokenKind.noConfusion (.inl h)⟩
  rintro (hstart | hstart) <;> cases hstart

/-- The sources of tokens begin the text. -/
lemma areRead_tokens (n : Nat) (inside : Option String) (cs : List Char) :
    AreRead (tokens n inside cs) cs := by
  induction n generalizing inside cs with
  | zero => exact areRead_nil cs
  | succ n ih =>
    cases inside with
    | some name =>
      rw [tokens]
      dsimp only
      split
      · exact ih none cs
      · have hfront := (reads_text (elementText name cs).1 (name != "textarea" &&
          name != "title") true
          (startsAngle_elementText name cs)).cons (ih none _)
        rwa [elementText_eq] at hfront
    | none =>
      rw [tokens]
      dsimp only
      split
      · exact areRead_nil cs
      · next hcs =>
        split
        · have hfront := (reads_text (plainText cs).1 false false (startsAngle_plainText cs)).cons
            (ih none _)
          rwa [plainText_eq] at hfront
        · next htext =>
          split
          · exact areRead_nil cs
          · next t after hread =>
            exact (markupToken?_reads (opensMarkup_of_plainText (by simpa using hcs)
              (by simpa using htext)) hread).cons (ih _ after)

/-- The sources of the tokens of a text begin it. -/
lemma tokenize_prefix (cs : List Char) : (tokenize cs).flatMap Token.source <+: cs :=
  (areRead_tokens _ none cs).isPrefix

lemma formed_tokenize (cs : List Char) : Formed (tokenize cs) := (areRead_tokens _ none cs).formed

lemma Formed.form {ts : List Token} (h : Formed ts) {t : Token} (ht : t ∈ ts) :
    ∃ rest, t.Form rest := by
  induction h with
  | nil => cases ht
  | cons hform _ ih =>
    rcases List.mem_cons.1 ht with rfl | ht
    · exact ⟨_, hform⟩
    · exact ih ht

/-- The source of a start tag begins with its bracket. -/
lemma head?_of_isStart {cs : List Char} {t : Token} (ht : t ∈ tokenize cs) (hstart : t.IsStart) :
    t.source.head? = some '<' := by
  obtain ⟨rest, hform⟩ := (formed_tokenize cs).form ht
  cases hform with
  | start _ _ hsource => rw [hsource]; rfl
  | close hkind => rcases hstart with h | h <;> rw [hkind] at h <;> cases h
  | other hother => exact absurd hstart hother

end Trellis.Html
