/-
Reading a text token by token, without places.

`scan` gives the tokens of a list of characters as `Face`s, that is, without their lines and
columns.  It comes in two forms.  The fused one is what `Token.all` computes (`face_all`).  The
other one never takes two signs for `++` or `--` where no operand stands before them; it recovers
the signs that were written one by one.

`Emits` says that a piece of text gives certain tokens in front of the text that follows it, and
pieces are put together by `Emits.append`.

What is valid as an identifier is mostly what is read as one, but the two do not have the same
digits (`isSoleIdentifier_iff_isIdentifier`).
-/
import Mathlib.Data.List.TakeWhile
import Trellis.Proofs.Token.Lexeme
import Trellis.Token.Lexeme

namespace Trellis.Token

/-- A token but for its place. -/
structure Face where
  kind : Kind
  literal : String
  raw : String
  newLine : Bool
deriving DecidableEq, Repr

/-- What a token says, wherever it stands. -/
def face (t : Token) : Face := ⟨t.kind, t.literal, t.raw, t.newLine⟩

/-- A token whose text stands for itself, on the line of the token before it. -/
def Face.plain (kind : Kind) (text : String) : Face := ⟨kind, text, text, false⟩

/-- The token at the end of a text. -/
def Face.atEnd : Face := .plain .eof ""

/-- Whether the text of a token, in front of some text, is read as that token. -/
def Face.Sound (f : Face) : Prop :=
  ∃ rest, Lexeme.next (f.raw.toList ++ rest) = ⟨f.kind, f.literal.toList, f.raw.toList.length⟩

/-- Where a token stands: before an operand, after one, or after a point. -/
inductive Spot where
  | before | after | point
deriving DecidableEq

/-- Where the token after one of the given kind stands. -/
def Spot.next : Spot → Kind → Spot
  | s, .plusPlus | s, .minusMinus => s
  | _, .dot => .point
  | _, .ident | _, .number | _, .string | _, .true | _, .false | _, .null | _, .this
  | _, .rparen | _, .rbracket | _, .rbrace => .after
  | .point, .typeof => .after
  | _, _ => .before

/-- The lexeme at the front; unless fused, two signs before an operand are read one by one. -/
def lexemeAt (fused : Bool) (s : Spot) (cs : List Char) : Lexeme :=
  let l := Lexeme.next cs
  if fused || s == .after then l
  else match l.kind with
    | .plusPlus => ⟨.plus, ['+'], 1⟩
    | .minusMinus => ⟨.minus, ['-'], 1⟩
    | _ => l

/-- A lexeme after the gap at the front of a text, as a token. -/
def Lexeme.face (l : Lexeme) (cs : List Char) : Face :=
  ⟨l.kind, String.ofList l.literal, String.ofList ((cs.dropWhile isGap).take l.size),
    (cs.takeWhile isGap).contains '\n'⟩

/-- The tokens of a text, at most `n` of them. -/
def scan (fused : Bool) : Nat → Spot → List Char → List Face
  | 0, _, _ => []
  | n + 1, s, cs =>
    let l := lexemeAt fused s (cs.dropWhile isGap)
    if l.kind = .eof then [l.face cs]
    else l.face cs :: scan fused n (s.next l.kind) ((cs.dropWhile isGap).drop l.size)

/-! ### The tokens of a text -/

lemma skipGap_rest (c : Cursor) : c.skipGap.1.rest = c.rest.dropWhile isGap := by
  simp only [Cursor.skipGap, Cursor.rest_steps]
  induction c.rest with
  | nil => rfl
  | cons d ds ih => by_cases hd : isGap d <;> simp [hd, ih]

lemma face_next (c : Cursor) :
    c.next.1.face = (Lexeme.next (c.rest.dropWhile isGap)).face c.rest := by
  simp only [face, Lexeme.face, ← skipGap_rest]
  rfl

lemma rest_next (c : Cursor) : c.next.2.rest =
    (c.rest.dropWhile isGap).drop (Lexeme.next (c.rest.dropWhile isGap)).size := by
  rw [← skipGap_rest, ← Cursor.rest_steps]
  rfl

lemma face_tokens (n : Nat) (s : Spot) (c : Cursor) :
    (Cursor.tokens n c).map face = scan true n s c.rest := by
  induction n generalizing s c with
  | zero => rfl
  | succ n ih =>
    have hkind : c.next.1.kind = (Lexeme.next (c.rest.dropWhile isGap)).kind :=
      congrArg Face.kind (face_next c)
    have htokens : Cursor.tokens (n + 1) c =
        if c.next.1.kind = .eof then [c.next.1] else c.next.1 :: Cursor.tokens n c.next.2 := rfl
    simp only [htokens, scan, lexemeAt, Bool.true_or, if_true, hkind]
    split
    · simp [face_next]
    · rw [List.map_cons, face_next, ih (s.next (Lexeme.next (c.rest.dropWhile isGap)).kind),
        rest_next]

/-- The tokens of a text, without their places. -/
lemma face_all (text : String) :
    (Token.all text).map face = scan true (text.length + 1) .before text.toList := by
  rw [Token.all, face_tokens _ .before, Cursor.start, Cursor.rest_enter]

lemma Lexeme.sound_face (cs : List Char) :
    ((Lexeme.next (cs.dropWhile isGap)).face cs).Sound := by
  have hle := Lexeme.size_le (cs.dropWhile isGap)
  refine ⟨(cs.dropWhile isGap).drop (Lexeme.next (cs.dropWhile isGap)).size, ?_⟩
  simp only [Lexeme.face, String.toList_ofList, List.take_append_drop, List.length_take]
  rw [Nat.min_eq_left hle]

/-- Every token of a text is read from its own characters. -/
lemma sound_scan {n : Nat} {s : Spot} {cs : List Char} {f : Face}
    (h : f ∈ scan true n s cs) : f.Sound := by
  induction n generalizing s cs with
  | zero => simp [scan] at h
  | succ n ih =>
    simp only [scan, lexemeAt, Bool.true_or, if_true] at h
    split at h
    · rw [List.mem_singleton] at h
      exact h ▸ Lexeme.sound_face cs
    · rcases List.mem_cons.1 h with rfl | h
      · exact Lexeme.sound_face cs
      · exact ih h

lemma sound_all {text : String} {t : Token} (h : t ∈ Token.all text) : t.face.Sound := by
  have hmem : t.face ∈ (Token.all text).map face := List.mem_map_of_mem h
  rw [face_all] at hmem
  exact sound_scan hmem

/-- Words and numbers stand for themselves. -/
lemma Face.Sound.literal_eq {f : Face} (h : f.Sound) (hatom : f.kind.isAtom = true)
    (hstring : f.kind ≠ .string) : f.literal = f.raw := by
  obtain ⟨r, hr⟩ := h
  obtain ⟨c, cs, hcs, hform⟩ := Lexeme.next_atom (f.raw.toList ++ r) (by rw [hr]; exact hatom)
  have htake : ∀ n, n = f.raw.toList.length → f.raw.toList = (c :: cs).take n := by
    rintro n rfl
    rw [← hcs, List.take_left]
  rw [hcs] at hr
  apply String.toList_inj.1
  rcases hform with hw | hn | ⟨hq, hclosed⟩
  · rw [Lexeme.next_word hw] at hr
    simp only [Lexeme.mk.injEq] at hr
    rw [← hr.2.1, htake _ hr.2.2, List.take_succ_cons]
    exact congrArg _ (List.prefix_iff_eq_take.1 (List.takeWhile_prefix _))
  · rw [Lexeme.next_number hn] at hr
    simp only [Lexeme.mk.injEq] at hr
    rw [← hr.2.1, ← htake _ hr.2.2]
  · rw [Lexeme.next_string hq] at hr
    simp only [Lexeme.mk.injEq, hclosed, if_true] at hr
    exact absurd hr.1.symm hstring

lemma Face.Sound.kind_eq {f : Face} (h : f.Sound) (hword : f.kind.isWord = true) :
    f.kind = Kind.ofWord f.literal := by
  have hatom : f.kind.isAtom = true := by
    revert hword
    cases f.kind <;> decide
  obtain ⟨r, hr⟩ := h
  obtain ⟨c, cs, hcs, hform⟩ := Lexeme.next_atom (f.raw.toList ++ r) (by rw [hr]; exact hatom)
  rw [hcs] at hr
  rcases hform with hw | hn | ⟨hq, hclosed⟩
  · rw [Lexeme.next_word hw] at hr
    simp only [Lexeme.mk.injEq] at hr
    rw [← hr.1, hr.2.1, String.ofList_toList]
  · rw [Lexeme.next_number hn] at hr
    simp only [Lexeme.mk.injEq] at hr
    rw [← hr.1] at hword
    exact absurd hword (by decide)
  · rw [Lexeme.next_string hq] at hr
    simp only [Lexeme.mk.injEq, hclosed, if_true] at hr
    rw [← hr.1] at hword
    exact absurd hword (by decide)

/-- A word, a number or a string starts with a character that starts no operator but a point. -/
lemma Face.Sound.head {f : Face} (h : f.Sound) (hatom : f.kind.isAtom = true) :
    ∃ c cs, f.raw.toList = c :: cs ∧ (f.kind.isWord = true → isWordStart c = true) ∧
      (isWordStart c = true ∨ isDigit c = true ∨ c = '.' ∨ c = '"' ∨ c = '\'') := by
  obtain ⟨r, hr⟩ := h
  have hatom' : (Lexeme.next (f.raw.toList ++ r)).kind.isAtom = true := by rw [hr]; exact hatom
  obtain ⟨c, ds, hcs, hform⟩ := Lexeme.next_atom _ hatom'
  have hsize := Lexeme.size_atom _ hatom'
  rw [hr] at hsize
  obtain ⟨c', cs, hraw⟩ := List.exists_cons_of_length_pos (Nat.pos_of_ne_zero hsize)
  rw [hraw, List.cons_append] at hcs hr
  obtain ⟨rfl, rfl⟩ := List.cons.inj hcs
  refine ⟨c', cs, hraw, ?_, ?_⟩
  · intro hword
    rcases hform with hw | hn | ⟨hq, hclosed⟩
    · exact hw
    · rw [Lexeme.next_number hn] at hr
      simp only [Lexeme.mk.injEq] at hr
      rw [← hr.1] at hword
      cases hword
    · rw [Lexeme.next_string hq] at hr
      simp only [Lexeme.mk.injEq, hclosed, if_true] at hr
      rw [← hr.1] at hword
      cases hword
  · rcases hform with hw | (hn | ⟨rfl, -⟩) | ⟨hq, -⟩
    · exact .inl hw
    · exact .inr (.inl hn)
    · exact .inr (.inr (.inl rfl))
    · exact .inr (.inr (.inr hq))

/-- A word or a number can be written on the line of the token before it. -/
lemma Face.Sound.plain {f : Face} (h : f.Sound) (hatom : f.kind.isAtom = true)
    (hstring : f.kind ≠ .string) : (Face.plain f.kind f.literal).Sound := by
  have heq := h.literal_eq hatom hstring
  obtain ⟨r, hr⟩ := h
  exact ⟨r, by simpa [Face.plain, heq] using hr⟩

/-! ### Pieces of text -/

/-- A piece of text that gives the tokens `fs` in front of `rest`; `s` and `t` are the spots
before and after it. -/
def Emits (fused : Bool) (s : Spot) (cs : List Char) (fs : List Face) (t : Spot)
    (rest : List Char) : Prop :=
  ∀ n, scan fused (n + fs.length) s (cs ++ rest) = fs ++ scan fused n t rest

section
variable {fused : Bool} {s t u : Spot} {cs ds rest : List Char} {fs gs : List Face}

lemma Emits.append (h₁ : Emits fused s cs fs t (ds ++ rest)) (h₂ : Emits fused t ds gs u rest) :
    Emits fused s (cs ++ ds) (fs ++ gs) u rest := by
  intro n
  have hlen : n + (fs ++ gs).length = n + gs.length + fs.length := by
    rw [List.length_append]; omega
  rw [hlen, List.append_assoc, h₁, h₂, List.append_assoc]

lemma scan_space (n : Nat) : scan fused n s (' ' :: cs) = scan fused n s cs := by
  cases n with
  | zero => rfl
  | succ n =>
    have hgap : isGap ' ' = true := by decide
    simp [scan, Lexeme.face, hgap]

/-- A space gives no token. -/
lemma emits_space : Emits fused s [' '] [] s rest := fun n => scan_space n

/-- The lexeme at the front gives one token. -/
lemma emits_lexeme {kind : Kind} {c : Char} {literal : List Char}
    (h : lexemeAt fused s (c :: cs ++ rest) = ⟨kind, literal, cs.length + 1⟩)
    (hgap : isGap c = false) (hkind : kind ≠ .eof) :
    Emits fused s (c :: cs) [⟨kind, String.ofList literal, String.ofList (c :: cs), false⟩]
      (s.next kind) rest := by
  intro n
  have hdrop : (c :: cs ++ rest).dropWhile isGap = c :: cs ++ rest := by simp [hgap]
  have htake : (c :: cs ++ rest).takeWhile isGap = [] := by simp [hgap]
  simp only [List.length_singleton, scan, hdrop, h, hkind, if_false, Lexeme.face, htake]
  simp

/-- A word, a number or a string in front of what can follow an operand. -/
lemma emits_atom {f : Face} (hf : f.Sound) (hatom : f.kind.isAtom = true)
    (hline : f.newLine = false) (hrest : Clear rest) :
    Emits fused s f.raw.toList [f] (s.next f.kind) rest := by
  obtain ⟨r, hr⟩ := hf
  have hnext := Lexeme.next_swap hr hatom hrest
  cases hraw : f.raw.toList with
  | nil =>
    have hsize := Lexeme.size_atom (f.raw.toList ++ r) (by rw [hr]; exact hatom)
    rw [hr, hraw] at hsize
    exact absurd rfl hsize
  | cons c ds =>
    rw [hraw] at hnext
    have hgap : isGap c = false := Lexeme.isGap_atom (ds ++ rest)
      (by rw [← List.cons_append, hnext]; exact hatom)
    have hat : lexemeAt fused s (c :: ds ++ rest) = ⟨f.kind, f.literal.toList, ds.length + 1⟩ := by
      simp only [lexemeAt, hnext]
      split
      · rfl
      · split <;> simp_all [Kind.isAtom, Kind.isWord]
    have hne : f.kind ≠ .eof := by
      intro he
      rw [he] at hatom
      exact absurd hatom (by decide)
    have hemits := emits_lexeme hat hgap hne
    rw [← hraw, String.ofList_toList, String.ofList_toList, ← hline] at hemits
    rwa [← hraw]

/-- An operator; two signs are one only where they may be. -/
lemma emits_mark {kind : Kind} {text : String}
    (h : punctuation? (text.toList ++ rest) = some (kind, text.toList.length))
    (hs : kind = .plusPlus ∨ kind = .minusMinus → fused = true ∨ s = .after) :
    Emits fused s text.toList [.plain kind text] (s.next kind) rest := by
  obtain ⟨c, cs, hcs⟩ := List.exists_cons_of_length_pos
    (Nat.pos_of_ne_zero (punctuation?_mem h).2.1)
  have htext : text = String.ofList (c :: cs) := by rw [← hcs, String.ofList_toList]
  rw [htext]
  rw [hcs] at h
  rw [String.toList_ofList]
  have hat : lexemeAt fused s (c :: cs ++ rest) = ⟨kind, c :: cs, cs.length + 1⟩ := by
    simp only [lexemeAt, Lexeme.next_punctuation h]
    split
    · simp
    · next hne =>
      simp only [Bool.or_eq_true, beq_iff_eq, not_or] at hne
      split
      · exact absurd (hs (.inl rfl)) (by simp [hne])
      · exact absurd (hs (.inr rfl)) (by simp [hne])
      · simp
  exact emits_lexeme hat (punctuation?_head h).2.2.2.2.1 (marks_kind _ (punctuation?_mem h).1).2

/-- A sign before an operand.  Where two signs are read as one token, the operand must not start
with the same sign. -/
lemma emits_sign {kind : Kind} {c : Char} (h : c = '-' ∧ kind = .minus ∨ c = '+' ∧ kind = .plus)
    (heq : rest.head? ≠ some '=') (hfused : fused = true → rest.head? ≠ some c) :
    Emits fused .before [c] [.plain kind (String.ofList [c])] .before rest := by
  have hat : lexemeAt fused .before ([c] ++ rest) = ⟨kind, [c], 1⟩ := by
    cases rest with
    | nil => rcases h with ⟨rfl, rfl⟩ | ⟨rfl, rfl⟩ <;> cases fused <;> rfl
    | cons d ds =>
      by_cases hd : d = c
      · have hf : fused = false := by simpa [hd] using hfused
        rcases h with ⟨rfl, rfl⟩ | ⟨rfl, rfl⟩ <;> subst hd <;> subst hf <;> rfl
      · have hd' : d ≠ '=' := by simpa using heq
        have hnext : Lexeme.next ([c] ++ d :: ds) = ⟨kind, [c], 1⟩ := by
          refine Lexeme.next_punctuation (punctuation?_single ds ?_)
          rcases h with ⟨rfl, rfl⟩ | ⟨rfl, rfl⟩ <;> simp [hd, hd']
        rcases h with ⟨rfl, rfl⟩ | ⟨rfl, rfl⟩ <;> cases fused <;>
          simp only [lexemeAt, hnext] <;> rfl
  have hemits := emits_lexeme hat (by rcases h with ⟨rfl, -⟩ | ⟨rfl, -⟩ <;> decide)
    (by rcases h with ⟨-, rfl⟩ | ⟨-, rfl⟩ <;> decide)
  rcases h with ⟨rfl, rfl⟩ | ⟨rfl, rfl⟩ <;> exact hemits

lemma lexemeAt_size_ne (h : (lexemeAt fused s cs).kind ≠ .eof) :
    (lexemeAt fused s cs).size ≠ 0 := by
  unfold lexemeAt at h ⊢
  simp only at h ⊢
  split_ifs at h ⊢
  · exact Lexeme.size_ne h
  · split at h
    · exact Nat.one_ne_zero
    · exact Nat.one_ne_zero
    · exact Lexeme.size_ne h

/-- The bound does not matter as soon as it exceeds the number of characters. -/
lemma scan_stable {n m : Nat} (hn : cs.length < n) (hm : cs.length < m) :
    scan fused n s cs = scan fused m s cs := by
  induction n generalizing m s cs with
  | zero => omega
  | succ n ih =>
    obtain ⟨m, rfl⟩ : ∃ m', m = m' + 1 := ⟨m - 1, by omega⟩
    simp only [scan]
    split
    · rfl
    · next hk =>
      have hsize := lexemeAt_size_ne hk
      have hgap : (cs.dropWhile isGap).length ≤ cs.length := (List.dropWhile_sublist _).length_le
      by_cases hnil : cs = []
      · subst hnil
        exact absurd (by cases fused <;> cases s <;> rfl) hk
      · have hpos := List.length_pos_iff.2 hnil
        rw [ih] <;> rw [List.length_drop] <;> omega

/-- A text that gives tokens as a whole. -/
lemma Emits.scan_eq {n : Nat} (h : Emits fused s cs fs t []) (hn : cs.length < n) :
    scan fused n s cs = fs ++ [Face.atEnd] := by
  have hall := h (n + 1)
  rw [List.append_nil, scan_stable (m := n) (by omega) hn] at hall
  rw [hall]
  congr 1
  cases fused <;> cases t <;> rfl

end

/-! ### Texts that are one identifier -/

/-- The ASCII digits are decimal digits. -/
lemma isDecimalDigit_of_isDigit {c : Char} (h : isDigit c = true) :
    Text.isDecimalDigit c = true := by
  simp only [isDigit, Bool.and_eq_true, decide_eq_true_eq, Char.le_def] at h
  have hlo : 48 ≤ c.toNat := UInt32.le_iff_toNat_le.1 h.1
  have hhi : c.toNat ≤ 57 := UInt32.le_iff_toNat_le.1 h.2
  rw [Text.isDecimalDigit, Text.digitRanges, Text.inRanges, if_neg (Nat.not_lt.2 hlo), if_pos hhi]

/-- Whether a text is one token, an identifier, from its first character to its last. -/
def IsSoleIdentifier (s : String) : Prop :=
  ∃ t last, all s = [t, last] ∧ t.kind = .ident ∧ t.literal = s ∧ last.kind = .eof

lemma isSoleIdentifier_iff {s : String} : IsSoleIdentifier s ↔
    ∃ c cs, s.toList = c :: cs ∧ isWordStart c = true ∧ (∀ d ∈ cs, isWordChar d = true) ∧
    Kind.ofWord s = .ident := by
  have hfaces := face_all s
  constructor
  · rintro ⟨t, last, hall, hkind, hliteral, -⟩
    -- the first lexeme is a word, and as long as the text
    have hface : t.face = (Lexeme.next (s.toList.dropWhile isGap)).face s.toList := by
      rw [hall] at hfaces
      simp only [List.map_cons, scan, lexemeAt, Bool.true_or, if_true] at hfaces
      split at hfaces
      · exact absurd hfaces (by simp)
      · exact (List.cons.inj hfaces).1
    have hword : (Lexeme.next (s.toList.dropWhile isGap)).kind = .ident :=
      (congrArg Face.kind hface).symm.trans hkind
    have hsame : (Lexeme.next (s.toList.dropWhile isGap)).literal = s.toList := by
      have hlit : t.literal = String.ofList (Lexeme.next (s.toList.dropWhile isGap)).literal :=
        congrArg Face.literal hface
      rw [← String.toList_ofList (l := (Lexeme.next _).literal), ← hlit, hliteral]
    obtain ⟨c, ds, hcs, hform⟩ := Lexeme.next_atom _ (by rw [hword]; rfl)
    rw [hcs] at hword hsame
    rcases hform with hw | hn | ⟨hq, hclosed⟩
    · rw [Lexeme.next_word hw] at hword hsame
      simp only at hword hsame
      refine ⟨c, ds.takeWhile isWordChar, hsame.symm, hw, List.all_eq_true.1 List.all_takeWhile, ?_⟩
      rwa [hsame, String.ofList_toList] at hword
    · rw [Lexeme.next_number hn] at hword
      cases hword
    · rw [Lexeme.next_string hq, hclosed] at hword
      cases hword
  · rintro ⟨c, cs, hcs, hc, hall, hkind⟩
    have htake : cs.takeWhile isWordChar = cs := List.takeWhile_eq_self_iff.2 hall
    have hnext : Lexeme.next s.toList = ⟨.ident, s.toList, s.toList.length⟩ := by
      rw [hcs, Lexeme.next_word hc, htake, ← hcs, String.ofList_toList, hkind, hcs,
        List.length_cons]
    have hgap : s.toList.dropWhile isGap = s.toList := by
      rw [hcs, List.dropWhile_cons, (isWordStart_not hc).2.2.2.2.2, if_neg Bool.false_ne_true]
    have hpos : s.length = cs.length + 1 := by rw [← String.length_toList, hcs, List.length_cons]
    simp only [scan, lexemeAt, Bool.true_or, if_true, hgap, hnext, hpos, List.drop_length,
      List.dropWhile_nil] at hfaces
    obtain ⟨t, ts, hts, ht, hrest⟩ := List.map_eq_cons_iff.1 hfaces
    obtain ⟨last, hlast, hend⟩ := List.map_eq_singleton_iff.1 hrest
    subst hlast
    exact ⟨t, last, hts, congrArg Face.kind ht,
      (congrArg Face.literal ht).trans String.ofList_toList,
      congrArg Face.kind hend⟩

/-- **Identifiers and tokens.** A text is one token, an identifier, exactly if it is valid as an
identifier and has no digits but those of ASCII: every character can start a word or is such a
digit. -/
theorem isSoleIdentifier_iff_isIdentifier (s : String) :
    IsSoleIdentifier s ↔
      isIdentifier s = true ∧ ∀ c ∈ s.toList, isWordStart c = true ∨ isDigit c = true := by
  rw [isSoleIdentifier_iff]
  constructor
  · rintro ⟨c, cs, hcs, hc, hall, hkind⟩
    have hchars : ∀ d ∈ cs, isWordStart d = true ∨ isDigit d = true :=
      fun d hd => Bool.or_eq_true _ _ ▸ hall d hd
    have hrest : isNameRest cs = true :=
      List.all_eq_true.2 fun d hd =>
        Bool.or_eq_true _ _ ▸ (hchars d hd).imp_right isDecimalDigit_of_isDigit
    refine ⟨?_, ?_⟩
    · simp [isIdentifier, hcs, hc, hrest, hkind]
    · rw [hcs]
      exact List.forall_mem_cons.2 ⟨.inl hc, hchars⟩
  · rintro ⟨hvalid, hchars⟩
    unfold isIdentifier at hvalid
    split at hvalid
    · cases hvalid
    · next c cs hcs =>
      rw [hcs] at hchars
      simp only [Bool.and_eq_true, beq_iff_eq] at hvalid
      obtain ⟨⟨hc, -⟩, hkind⟩ := hvalid
      exact ⟨c, cs, hcs, hc, fun d hd => Bool.or_eq_true _ _ ▸ hchars d (List.mem_cons_of_mem c hd),
        hkind⟩

/-- A letter with a digit of another script is valid as an identifier, but read as two tokens. -/
theorem isIdentifier_foreign_digit :
    isIdentifier "a\u0663" = true ∧ ¬IsSoleIdentifier "a\u0663" := by
  refine ⟨by decide +kernel, ?_⟩
  rintro ⟨t, last, hall, -⟩
  have hthree : (all "a\u0663").length = 3 := by decide +kernel
  rw [hall] at hthree
  cases hthree

end Trellis.Token
