/-
Lexemes in front of different texts.

The same characters may be a token in front of one text and part of a longer token in front of
another.  Words, numbers and strings stay what they are in front of every text that is `Clear`,
that is, in front of every text that can follow an operand; for operators the next character
decides.
-/
import Mathlib.Tactic.Common
import Trellis.Token.Lexeme

namespace Trellis.Token

/-- The kinds of words, numbers and strings. -/
def Kind.isAtom : Kind → Bool
  | .number | .string => Bool.true
  | k => k.isWord

/-! ### Operators -/

/-- The operators and delimiters with their characters. -/
def marks : List (Kind × List Char) :=
  [(.strictEq, ['=', '=', '=']), (.eq, ['=', '=']), (.assign, ['=']),
    (.strictNotEq, ['!', '=', '=']), (.notEq, ['!', '=']), (.bang, ['!']), (.plusPlus, ['+', '+']),
    (.plusAssign, ['+', '=']), (.plus, ['+']), (.minusMinus, ['-', '-']),
    (.minusAssign, ['-', '=']), (.minus, ['-']), (.asterisk, ['*']), (.slash, ['/']),
    (.percent, ['%']), (.lte, ['<', '=']), (.lt, ['<']), (.gte, ['>', '=']), (.gt, ['>']),
    (.and, ['&', '&']), (.illegal, ['&']), (.or, ['|', '|']), (.pipe, ['|']), (.question, ['?']),
    (.comma, [',']), (.semicolon, [';']), (.colon, [':']), (.dotDotDot, ['.', '.', '.']),
    (.dot, ['.']), (.lparen, ['(']), (.rparen, [')']), (.lbrace, ['\x7b']), (.rbrace, ['\x7d']),
    (.lbracket, ['[']), (.rbracket, [']'])]

/-- What is found at the front is one of the operators. -/
lemma punctuation?_mem {cs : List Char} {kind : Kind} {size : Nat}
    (h : punctuation? cs = some (kind, size)) :
    (kind, cs.take size) ∈ marks ∧ size ≠ 0 ∧ size ≤ cs.length := by
  unfold punctuation? at h
  split at h
  all_goals first
    | (cases h; exact ⟨List.mem_of_elem_eq_true rfl, Nat.succ_ne_zero _, by simp⟩)
    | (split at h <;> cases h; exact ⟨List.mem_of_elem_eq_true rfl, Nat.succ_ne_zero _, by simp⟩)
    | cases h

lemma marks_kind : ∀ m ∈ marks, m.1.isAtom = false ∧ m.1 ≠ .eof := by decide

/-- An operator starts with a character that is neither a digit, a quote, a blank nor part of a
word. -/
lemma marks_head : marks.all (fun m => m.2.head?.all fun c => !isWordStart c && !isDigit c &&
    c != '"' && c != '\'' && !isGap c && c != '\x00') = true := by decide

lemma punctuation?_head {c : Char} {cs : List Char} {kind : Kind} {size : Nat}
    (h : punctuation? (c :: cs) = some (kind, size)) :
    isWordStart c = false ∧ isDigit c = false ∧ c ≠ '"' ∧ c ≠ '\'' ∧ isGap c = false ∧
      c ≠ '\x00' := by
  obtain ⟨hmem, hne, -⟩ := punctuation?_mem h
  obtain ⟨n, rfl⟩ := Nat.exists_eq_succ_of_ne_zero hne
  have hhead := List.all_eq_true.1 marks_head _ hmem
  simp only [List.take_succ_cons, List.head?_cons, Option.all_some, Bool.and_eq_true,
    Bool.not_eq_eq_eq_not, Bool.not_true, bne_iff_ne] at hhead
  obtain ⟨⟨⟨⟨⟨h₁, h₂⟩, h₃⟩, h₄⟩, h₅⟩, h₆⟩ := hhead
  exact ⟨h₁, h₂, h₃, h₄, h₅, h₆⟩

lemma punctuation?_eq_none {c : Char} (cs : List Char)
    (h : isWordStart c = true ∨ isDigit c = true ∨ c = '"' ∨ c = '\'') :
    punctuation? (c :: cs) = none := by
  cases hp : punctuation? (c :: cs) with
  | none => rfl
  | some r =>
    obtain ⟨h₁, h₂, h₃, h₄, -⟩ := punctuation?_head hp
    simp_all

/-- A character that is an operator by itself, in front of one that does not continue it. -/
lemma punctuation?_single {c d : Char} {kind : Kind} (cs : List Char)
    (h : c = '!' ∧ kind = .bang ∧ d ≠ '=' ∨ c = '|' ∧ kind = .pipe ∧ d ≠ '|' ∨
      c = '-' ∧ kind = .minus ∧ d ≠ '=' ∧ d ≠ '-' ∨ c = '+' ∧ kind = .plus ∧ d ≠ '=' ∧ d ≠ '+' ∨
      c = '.' ∧ kind = .dot ∧ d ≠ '.' ∧ isDigit d = false) :
    punctuation? (c :: d :: cs) = some (kind, 1) := by
  rcases h with ⟨rfl, rfl, h⟩ | ⟨rfl, rfl, h⟩ | ⟨rfl, rfl, h⟩ | ⟨rfl, rfl, h⟩ | ⟨rfl, rfl, h⟩ <;>
    rw [punctuation?] <;> simp [h]

/-! ### Numbers -/

/-- A text that can follow an operand: it does not continue a word or a number. -/
def Clear : List Char → Prop
  | [] => True
  | c :: cs => isWordChar c = false ∧ (c = '.' → digitCount cs = 0)

lemma Clear.digitCount_eq {rest : List Char} (h : Clear rest) : digitCount rest = 0 := by
  cases rest with
  | nil => rfl
  | cons c cs =>
    have hc : isDigit c = false := by
      have := h.1
      simp only [isWordChar, Bool.or_eq_false_iff] at this
      exact this.2
    simp [digitCount, hc]

lemma Clear.fractionSize_eq {rest : List Char} (h : Clear rest) : fractionSize rest = 0 := by
  fun_cases fractionSize rest with
  | case1 cs hd => rfl
  | case2 cs hd => exact absurd (by simpa using h.2 rfl) hd
  | case3 => rfl

lemma Clear.exponentSize_eq {rest : List Char} (h : Clear rest) : exponentSize rest = 0 := by
  cases rest with
  | nil => rfl
  | cons c cs =>
    have hc : (c == 'e' || c == 'E') = false := by
      cases hb : (c == 'e' || c == 'E') with
      | false => rfl
      | true =>
        simp only [Bool.or_eq_true, beq_iff_eq] at hb
        rcases hb with rfl | rfl <;> exact absurd h.1 (by decide)
    simp [exponentSize, hc]

lemma digitCount_swap (xs r : List Char) {rest : List Char} (h : digitCount (xs ++ r) ≤ xs.length)
    (hrest : digitCount rest = 0) : digitCount (xs ++ rest) = digitCount (xs ++ r) := by
  induction xs with
  | nil => simp only [List.nil_append, List.length_nil] at h ⊢; omega
  | cons c xs ih =>
    by_cases hc : isDigit c
    · simp only [digitCount, List.cons_append, List.takeWhile_cons, hc, if_true,
        List.length_cons] at h ih ⊢
      have := ih (by omega)
      omega
    · simp [digitCount, hc]

lemma fractionSize_swap (xs r : List Char) {rest : List Char}
    (h : fractionSize (xs ++ r) ≤ xs.length)
    (hrest : Clear rest) : fractionSize (xs ++ rest) = fractionSize (xs ++ r) := by
  cases xs with
  | nil =>
    simp only [List.nil_append, List.length_nil] at h ⊢
    rw [hrest.fractionSize_eq]
    omega
  | cons c xs =>
    by_cases hc : c = '.'
    · subst hc
      have hle : digitCount (xs ++ r) ≤ xs.length := by
        simp only [List.cons_append, fractionSize, List.length_cons] at h
        split at h
        · simp_all
        · omega
      have hd := digitCount_swap _ _ hle hrest.digitCount_eq
      simp only [List.cons_append, fractionSize, hd]
    · simp [fractionSize, hc]

/-- An exponent has two characters at least. -/
lemma exponentSize_ne_one (cs : List Char) : exponentSize cs ≠ 1 := by
  fun_cases exponentSize cs <;> simp_all
  omega

/-- A whole exponent stays one: here `xs` is all of it, or there is none. -/
lemma exponentSize_swap (xs r : List Char) {rest : List Char}
    (h : exponentSize (xs ++ r) = xs.length)
    (hrest : Clear rest) : exponentSize (xs ++ rest) = xs.length := by
  match xs with
  | [] => simpa using hrest.exponentSize_eq
  | [e] => exact absurd h (exponentSize_ne_one _)
  | e :: s :: ds =>
    simp only [List.cons_append, exponentSize, List.length_cons] at h ⊢
    split at h
    · next he =>
      rw [if_pos he]
      split at h
      · next hs =>
        rw [if_pos hs]
        split at h
        · omega
        · have hd := digitCount_swap ds r (by omega) hrest.digitCount_eq
          simp_all
      · next hs =>
        rw [if_neg hs]
        split at h
        · omega
        · have hd := digitCount_swap (s :: ds) r
            (by simp only [List.cons_append, List.length_cons]; omega) hrest.digitCount_eq
          simp only [List.cons_append] at hd
          simp_all
    · omega

/-- A number is the same number in front of every text that does not continue it. -/
lemma numberSize_swap (xs : List Char) {r rest : List Char} (h : numberSize (xs ++ r) = xs.length)
    (hrest : Clear rest) : numberSize (xs ++ rest) = xs.length := by
  simp only [numberSize] at h ⊢
  have hw := digitCount_swap xs r (by omega) hrest.digitCount_eq
  have hdrop : ∀ t : List Char, ∀ k ≤ xs.length, (xs ++ t).drop k = xs.drop k ++ t :=
    fun t k hk => List.drop_append_of_le_length hk
  rw [hw]
  generalize digitCount (xs ++ r) = w at h ⊢
  rw [hdrop r w (by omega)] at h
  rw [hdrop rest w (by omega)]
  have hf := fractionSize_swap (xs.drop w) r (by simp; omega) hrest
  rw [hf]
  generalize fractionSize (xs.drop w ++ r) = f at h ⊢
  rw [hdrop r (w + f) (by omega)] at h
  rw [hdrop rest (w + f) (by omega)]
  have he := exponentSize_swap (xs.drop (w + f)) r
    (by simp only [List.length_drop]; omega) hrest
  rw [he, List.length_drop]
  omega

/-! ### Strings and words -/

section
variable {quote c : Char}

lemma stringBody_cons (c : Char) (cs : List Char) : stringBody quote (c :: cs) =
    if c == quote then ([], 1, true)
    else if c == '\x00' then ([], 0, false)
    else if c == '\\' then
      match cs with
      | [] => ([], 1, false)
      | d :: ds =>
        if d == '\x00' then ([], 1, false)
        else (unescape d :: (stringBody quote ds).1, (stringBody quote ds).2.1 + 2,
          (stringBody quote ds).2.2)
    else (c :: (stringBody quote cs).1, (stringBody quote cs).2.1 + 1,
      (stringBody quote cs).2.2) := stringBody.eq_def quote (c :: cs)

/-- After a backslash the next character is taken as it is, the end of the input apart. -/
lemma stringBody_escape (cs : List Char) (hq : '\\' ≠ quote) :
    stringBody quote ('\\' :: c :: cs) =
      if c = '\x00' then ([], 1, false)
      else (unescape c :: (stringBody quote cs).1, (stringBody quote cs).2.1 + 2,
        (stringBody quote cs).2.2) := by
  simp [stringBody_cons, hq]

lemma stringBody_plain (cs : List Char) (hq : c ≠ quote) (hz : c ≠ '\x00') (hb : c ≠ '\\') :
    stringBody quote (c :: cs) =
      (c :: (stringBody quote cs).1, (stringBody quote cs).2.1 + 1, (stringBody quote cs).2.2) := by
  simp [stringBody_cons, hq, hz, hb]

/-- The closing quote counts. -/
lemma stringBody_pos {cs text : List Char} {n : Nat}
    (h : stringBody quote cs = (text, n, true)) : n ≠ 0 := by
  cases cs with
  | nil => cases h
  | cons c cs =>
    rw [stringBody_cons] at h
    repeat' split at h
    all_goals simp_all
    all_goals omega

/-- The characters of a string behind its quote, up to the quote that ends it. -/
inductive IsQuoted (quote : Char) : List Char → Prop where
  | close : IsQuoted quote [quote]
  | escape {cs : List Char} (c : Char) (hq : '\\' ≠ quote) (hz : c ≠ '\x00')
      (hrest : IsQuoted quote cs) :
    IsQuoted quote ('\\' :: c :: cs)
  | plain {c : Char} {cs : List Char} (hq : c ≠ quote) (hz : c ≠ '\x00') (hb : c ≠ '\\')
    (hrest : IsQuoted quote cs) : IsQuoted quote (c :: cs)

/-- What is taken as a closed string is quoted. -/
lemma isQuoted_of_stringBody {xs r text : List Char}
    (h : stringBody quote (xs ++ r) = (text, xs.length, true)) :
    IsQuoted quote xs := by
  -- two characters go at once after a backslash, so the induction is on the length
  induction hn : xs.length using Nat.strongRecOn generalizing xs text with
  | ind n ih =>
    subst hn
    cases xs with
    | nil => exact absurd rfl (stringBody_pos h)
    | cons c xs =>
      by_cases hq : c = quote
      · subst hq
        simp only [List.cons_append, stringBody_cons, beq_self_eq_true, if_true] at h
        have hxs : xs = [] := by simpa using (Prod.mk.inj (Prod.mk.inj h).2).1.symm
        exact hxs ▸ .close
      by_cases hz : c = '\x00'
      · subst hz
        simp [stringBody_cons, hq] at h
      by_cases hb : c = '\\'
      · subst hb
        cases xs with
        | nil =>
          exfalso
          cases r with
          | nil => simp [stringBody_cons, hq] at h
          | cons d ds =>
            simp only [List.singleton_append, stringBody_escape _ hq] at h
            split at h <;> simp_all
        | cons d ds =>
          simp only [List.cons_append, List.length_cons, stringBody_escape _ hq] at h
          split at h
          · simp at h
          · next hd =>
            simp only [Prod.mk.injEq] at h
            exact .escape d hq hd (ih ds.length (by simp only [List.length_cons]; omega)
              (Prod.ext rfl (Prod.ext (by simpa using h.2.1) h.2.2)) rfl)
      · simp only [List.cons_append, List.length_cons, stringBody_plain _ hq hz hb,
          Prod.mk.injEq] at h
        exact .plain hq hz hb (ih xs.length (by simp)
          (Prod.ext rfl (Prod.ext (by simpa using h.2.1) h.2.2)) rfl)

lemma IsQuoted.stringBody_eq {xs : List Char} (h : IsQuoted quote xs) :
    ∃ text, ∀ rest, stringBody quote (xs ++ rest) = (text, xs.length, true) := by
  induction h with
  | close => exact ⟨[], fun rest => by simp [stringBody_cons]⟩
  | escape c hq hz _ ih =>
    obtain ⟨text, htext⟩ := ih
    exact ⟨unescape c :: text, fun rest => by simp [stringBody_escape _ hq, hz, htext]⟩
  | @plain c cs hq hz hb _ ih =>
    obtain ⟨text, htext⟩ := ih
    exact ⟨c :: text, fun rest => by simp [stringBody_plain _ hq hz hb, htext]⟩

/-- A closed string ends at its quote, whatever follows. -/
lemma stringBody_swap (xs r : List Char) {text : List Char}
    (h : stringBody quote (xs ++ r) = (text, xs.length, true)) (rest : List Char) :
    stringBody quote (xs ++ rest) = (text, xs.length, true) := by
  obtain ⟨text', htext⟩ := (isQuoted_of_stringBody h).stringBody_eq
  have hsame := htext r
  rw [h] at hsame
  rw [htext rest, (Prod.mk.inj hsame).1]

end

lemma takeWhile_swap {p : Char → Bool} {xs r rest : List Char}
    (h : (xs ++ r).takeWhile p = xs) (hrest : rest.takeWhile p = []) :
    (xs ++ rest).takeWhile p = xs := by
  induction xs with
  | nil => simpa using hrest
  | cons c xs ih =>
    by_cases hc : p c
    · simp only [List.cons_append, List.takeWhile_cons, hc, if_true, List.cons.injEq,
        true_and] at h ⊢
      exact ih h
    · simp [hc] at h

lemma Clear.takeWhile_eq {rest : List Char} (h : Clear rest) :
    rest.takeWhile isWordChar = [] := by
  cases rest with
  | nil => rfl
  | cons c cs => simp [h.1]

/-! ### Lexemes -/

/-- A point is an operator unless a digit follows. -/
lemma punctuation?_point (cs : List Char) :
    punctuation? ('.' :: cs) = none ↔ digitCount cs ≠ 0 := by
  cases cs with
  | nil => decide
  | cons d ds =>
    have hcount : digitCount (d :: ds) ≠ 0 ↔ isDigit d = true := by
      by_cases hd : isDigit d <;> simp [digitCount, hd]
    rw [hcount]
    by_cases hd : d = '.'
    · subst hd
      have hdot : isDigit '.' = false := by decide
      rw [hdot]
      rcases ds with _ | ⟨e, es⟩
      · decide
      · by_cases he : e = '.'
        · subst he
          rw [punctuation?]
          simp
        · rw [punctuation?] <;> simp [he, hdot]
    · rw [punctuation?] <;> simp [hd]

lemma isWord_ofWord (w : String) : (Kind.ofWord w).isWord = true := by
  unfold Kind.ofWord
  repeat' split
  all_goals rfl

lemma isWordStart_of_isDigit {c : Char} (h : isDigit c = true) : isWordStart c = false := by
  simp only [isDigit, Bool.and_eq_true, decide_eq_true_eq, Char.le_def] at h
  have h₁ : 48 ≤ c.toNat := UInt32.le_iff_toNat_le.1 h.1
  have h₂ : c.toNat ≤ 57 := UInt32.le_iff_toNat_le.1 h.2
  have hne : ∀ d : Char, d.toNat < 48 ∨ 57 < d.toNat → c ≠ d := by
    rintro d hd rfl
    omega
  have hlt : c.toNat < 128 := by omega
  simp only [isWordStart, Text.isLetter, hlt, if_true, Bool.or_eq_false_iff, beq_eq_false_iff_ne]
  refine ⟨⟨hne _ (by decide), hne _ (by decide)⟩, ?_⟩
  change (decide (c.val ≥ 'A'.val ∧ c.val ≤ 'Z'.val) ||
    (decide (c.val ≥ 'a'.val) && decide (c.val ≤ 'z'.val))) = false
  simp only [Bool.or_eq_false_iff, Bool.and_eq_false_imp, decide_eq_true_eq,
    decide_eq_false_iff_not]
  constructor
  · intro h
    have : 65 ≤ c.toNat := UInt32.le_iff_toNat_le.1 h.1
    omega
  · intro h
    have : 97 ≤ c.toNat := UInt32.le_iff_toNat_le.1 h
    omega

lemma isWordStart_not {c : Char} (h : isWordStart c = true) :
    c ≠ '\x00' ∧ c ≠ '"' ∧ c ≠ '\'' ∧ c ≠ '.' ∧ isDigit c = false ∧ isGap c = false := by
  refine ⟨?_, ?_, ?_, ?_, ?_, ?_⟩
  · rintro rfl; exact absurd h (by decide)
  · rintro rfl; exact absurd h (by decide)
  · rintro rfl; exact absurd h (by decide)
  · rintro rfl; exact absurd h (by decide)
  · by_contra hd
    exact absurd h (by simp [isWordStart_of_isDigit (by simpa using hd)])
  · by_contra hg
    simp only [isGap, Bool.not_eq_false, Bool.or_eq_true, beq_iff_eq] at hg
    rcases hg with (((rfl | rfl) | rfl) | rfl) | rfl <;> exact absurd h (by decide)

lemma Lexeme.next_punctuation {cs : List Char} {kind : Kind} {size : Nat}
    (h : punctuation? cs = some (kind, size)) : Lexeme.next cs = ⟨kind, cs.take size, size⟩ := by
  cases cs with
  | nil => cases h
  | cons c cs =>
    obtain ⟨-, -, -, -, -, hz⟩ := punctuation?_head h
    simp [Lexeme.next, hz, h]

lemma Lexeme.next_word {c : Char} (hc : isWordStart c = true) (cs : List Char) :
    Lexeme.next (c :: cs) =
      ⟨Kind.ofWord (String.ofList (c :: cs.takeWhile isWordChar)), c :: cs.takeWhile isWordChar,
        (cs.takeWhile isWordChar).length + 1⟩ := by
  obtain ⟨h₀, h₁, h₂, h₃, h₄, -⟩ := isWordStart_not hc
  simp [Lexeme.next, punctuation?_eq_none cs (.inl hc), h₀, h₁, h₂, h₃, h₄, hc]

lemma Lexeme.next_string {c : Char} (hc : c = '"' ∨ c = '\'') (cs : List Char) :
    Lexeme.next (c :: cs) =
      ⟨if (stringBody c cs).2.2 then .string else .illegal, (stringBody c cs).1,
        (stringBody c cs).2.1 + 1⟩ := by
  rcases hc with rfl | rfl <;>
    simp [Lexeme.next, punctuation?_eq_none]

/-- What starts a number: a digit, or a point before a digit. -/
def startsNumber (c : Char) (cs : List Char) : Prop :=
  isDigit c = true ∨ c = '.' ∧ digitCount cs ≠ 0

lemma isDigit_not {c : Char} (h : isDigit c = true) :
    c ≠ '\x00' ∧ c ≠ '"' ∧ c ≠ '\'' ∧ isGap c = false := by
  refine ⟨?_, ?_, ?_, ?_⟩
  · rintro rfl; exact absurd h (by decide)
  · rintro rfl; exact absurd h (by decide)
  · rintro rfl; exact absurd h (by decide)
  · by_contra hg
    simp only [isGap, Bool.not_eq_false, Bool.or_eq_true, beq_iff_eq] at hg
    rcases hg with (((rfl | rfl) | rfl) | rfl) | rfl <;> exact absurd h (by decide)

lemma Lexeme.next_number {c : Char} {cs : List Char} (hc : startsNumber c cs) :
    Lexeme.next (c :: cs) =
      ⟨.number, (c :: cs).take (numberSize (c :: cs)), numberSize (c :: cs)⟩ := by
  rcases hc with hc | ⟨rfl, hc⟩
  · obtain ⟨h₀, h₁, h₂, -⟩ := isDigit_not hc
    simp [Lexeme.next, punctuation?_eq_none cs (.inr (.inl hc)), h₀, h₁, h₂, hc]
  · simp [Lexeme.next, (punctuation?_point cs).2 hc]

/-- A word, a number or a string starts with one of its own characters. -/
lemma Lexeme.next_atom (cs : List Char) (h : (Lexeme.next cs).kind.isAtom = true) :
    ∃ c ds, cs = c :: ds ∧ (isWordStart c = true ∨ startsNumber c ds ∨
      (c = '"' ∨ c = '\'') ∧ (stringBody c ds).2.2 = true) := by
  cases cs with
  | nil => exact absurd h (by decide)
  | cons c ds =>
    refine ⟨c, ds, rfl, ?_⟩
    by_contra hnot
    simp only [not_or] at hnot
    obtain ⟨hw, hn, hs⟩ := hnot
    by_cases hq : c = '"' ∨ c = '\''
    · rw [Lexeme.next_string hq] at h
      have hopen : (stringBody c ds).2.2 = false := by simpa [hq] using hs
      simp [hopen, Kind.isAtom, Kind.isWord] at h
    unfold Lexeme.next at h
    simp only at h
    split at h
    · exact absurd h (by decide)
    split at h
    · next hp => rw [(marks_kind _ (punctuation?_mem hp).1).1] at h; exact absurd h (by decide)
    · next hp =>
      have hdot : c ≠ '.' := by
        rintro rfl
        exact hn (.inr ⟨rfl, (punctuation?_point ds).1 hp⟩)
      have hdig : isDigit c = false := by
        by_contra hd
        exact hn (.inl (by simpa using hd))
      simp only [not_or] at hq
      simp [hq, hdig, hdot, Kind.isAtom, Kind.isWord] at h

lemma numberSize_pos {c : Char} {cs : List Char} (hc : startsNumber c cs) :
    numberSize (c :: cs) ≠ 0 := by
  rcases hc with hc | ⟨rfl, hc⟩
  · simp [numberSize, digitCount, hc]
  · have hdot : digitCount ('.' :: cs) = 0 := by simp [digitCount, isDigit]
    simp [numberSize, hdot, fractionSize, hc]

/-- A number that starts with a point has its digits with it. -/
lemma startsNumber_swap {c : Char} {cs r rest : List Char} (hc : startsNumber c (cs ++ r))
    (h : numberSize (c :: (cs ++ r)) = cs.length + 1) (hrest : Clear rest) :
    startsNumber c (cs ++ rest) := by
  rcases hc with hc | ⟨rfl, hc⟩
  · exact .inl hc
  · have hdot : digitCount ('.' :: (cs ++ r)) = 0 := by simp [digitCount, isDigit]
    have hle : digitCount (cs ++ r) ≤ cs.length := by
      simp only [numberSize, hdot, List.drop_zero, Nat.zero_add, fractionSize, beq_iff_eq, hc,
        if_false] at h
      omega
    refine .inr ⟨rfl, ?_⟩
    rw [digitCount_swap _ _ hle hrest.digitCount_eq]
    exact hc

lemma Lexeme.size_atom (cs : List Char) (h : (Lexeme.next cs).kind.isAtom = true) :
    (Lexeme.next cs).size ≠ 0 := by
  obtain ⟨c, ds, rfl, hw | hn | ⟨hq, -⟩⟩ := Lexeme.next_atom _ h
  · simp [Lexeme.next_word hw]
  · simpa [Lexeme.next_number hn] using numberSize_pos hn
  · simp [Lexeme.next_string hq]

/-- A word, a number or a string stays what it is in front of every clear text. -/
lemma Lexeme.next_swap {cs r : List Char} {kind : Kind} {literal : List Char}
    (h : Lexeme.next (cs ++ r) = ⟨kind, literal, cs.length⟩) (hk : kind.isAtom = true)
    {rest : List Char} (hrest : Clear rest) :
    Lexeme.next (cs ++ rest) = ⟨kind, literal, cs.length⟩ := by
  obtain ⟨c, ds, hcs, hform⟩ := Lexeme.next_atom (cs ++ r) (by rw [h]; exact hk)
  cases cs with
  | nil => exact absurd (by rw [h]; rfl) (Lexeme.size_atom ([] ++ r) (by rw [h]; exact hk))
  | cons c' cs =>
    simp only [List.cons_append, List.cons.injEq] at hcs h ⊢
    obtain ⟨rfl, rfl⟩ := hcs
    rcases hform with hw | hn | ⟨hq, hclosed⟩
    · rw [Lexeme.next_word hw] at h ⊢
      simp only [Lexeme.mk.injEq, List.length_cons, Nat.add_right_cancel_iff] at h ⊢
      have hall : (cs ++ r).takeWhile isWordChar = cs := by
        have hpre : (cs ++ r).takeWhile isWordChar <+: cs ++ r := List.takeWhile_prefix _
        have := List.prefix_iff_eq_take.1 hpre
        rw [h.2.2, List.take_left] at this
        exact this
      rw [takeWhile_swap hall hrest.takeWhile_eq]
      rw [hall] at h
      exact ⟨h.1, h.2.1, rfl⟩
    · rw [Lexeme.next_number hn] at h
      simp only [Lexeme.mk.injEq, List.length_cons] at h
      have hsize : numberSize (c' :: (cs ++ rest)) = cs.length + 1 :=
        numberSize_swap (c' :: cs) h.2.2 hrest
      rw [Lexeme.next_number (startsNumber_swap hn h.2.2 hrest), hsize]
      rw [h.2.2] at h
      obtain ⟨rfl, rfl, -⟩ := h
      simp
    · rw [Lexeme.next_string hq] at h ⊢
      simp only [Lexeme.mk.injEq, List.length_cons, Nat.add_right_cancel_iff] at h
      have hclosed' : stringBody c' (cs ++ r) = (_, cs.length, true) :=
        Prod.ext rfl (Prod.ext h.2.2 hclosed)
      have hbody := stringBody_swap cs r hclosed' rest
      rw [hbody]
      simp only [hclosed, if_true] at h
      simp [← h.1, h.2.1]

/-- Only the end of the input takes no character. -/
lemma Lexeme.size_ne {cs : List Char} (h : (Lexeme.next cs).kind ≠ .eof) :
    (Lexeme.next cs).size ≠ 0 := by
  by_cases hatom : (Lexeme.next cs).kind.isAtom = true
  · exact Lexeme.size_atom cs hatom
  · unfold Lexeme.next at h hatom ⊢
    split
    · exact absurd rfl h
    · split
      · next hc => simp [hc] at h
      · split
        · next hp => exact (punctuation?_mem hp).2.1
        · split
          · simp
          · split
            · simp_all [Kind.isAtom]
            · split <;> simp

/-! ### A lexeme takes no more than there is -/

lemma stringBody_size_le (quote : Char) (cs : List Char) :
    (stringBody quote cs).2.1 ≤ cs.length := by
  induction hn : cs.length using Nat.strongRecOn generalizing cs with
  | ind n ih =>
    subst hn
    cases cs with
    | nil => exact Nat.zero_le _
    | cons c cs =>
      have hcs := ih cs.length (by simp) cs rfl
      rw [stringBody_cons]
      split_ifs
      · simp
      · simp
      · cases cs with
        | nil => simp
        | cons d ds =>
          have hds := ih ds.length (by simp only [List.length_cons]; omega) ds rfl
          simp only
          split_ifs
          · simp
          · simpa using hds
      · simpa using hcs

lemma digitCount_le (cs : List Char) : digitCount cs ≤ cs.length :=
  (List.takeWhile_prefix isDigit).length_le

lemma fractionSize_le (cs : List Char) : fractionSize cs ≤ cs.length := by
  fun_cases fractionSize cs with
  | case1 cs hd => simp
  | case2 cs hd => have := digitCount_le cs; simp; omega
  | case3 => simp

lemma exponentSize_le (cs : List Char) : exponentSize cs ≤ cs.length := by
  match cs with
  | [] => simp [exponentSize]
  | [e] => simp [exponentSize]
  | e :: s :: ds =>
    have h₁ := digitCount_le ds
    have h₂ := digitCount_le (s :: ds)
    simp only [exponentSize, List.length_cons] at h₂ ⊢
    repeat' split
    all_goals omega

lemma numberSize_le (cs : List Char) : numberSize cs ≤ cs.length := by
  have h₁ := digitCount_le cs
  have h₂ := fractionSize_le (cs.drop (digitCount cs))
  have h₃ := exponentSize_le (cs.drop (digitCount cs + fractionSize (cs.drop (digitCount cs))))
  simp only [List.length_drop] at h₂ h₃
  simp only [numberSize]
  omega

lemma Lexeme.size_le (cs : List Char) : (Lexeme.next cs).size ≤ cs.length := by
  cases cs with
  | nil => simp [Lexeme.next]
  | cons c cs =>
    unfold Lexeme.next
    simp only
    split
    · simp
    split
    · next hp => exact (punctuation?_mem hp).2.2
    split
    · have := stringBody_size_le c cs
      simpa using this
    split
    · exact numberSize_le _
    split
    · have := (List.takeWhile_prefix (l := cs) isWordChar).length_le
      simpa using this
    · simp

/-- What is no gap at the front of a word, a number or a string. -/
lemma Lexeme.isGap_atom {c : Char} (cs : List Char)
    (h : (Lexeme.next (c :: cs)).kind.isAtom = true) : isGap c = false := by
  obtain ⟨d, ds, hcs, hform⟩ := Lexeme.next_atom _ h
  obtain ⟨rfl, rfl⟩ := List.cons.inj hcs
  rcases hform with hw | (hn | ⟨rfl, -⟩) | ⟨rfl | rfl, -⟩
  · exact (isWordStart_not hw).2.2.2.2.2
  · exact (isDigit_not hn).2.2.2
  all_goals decide

end Trellis.Token
