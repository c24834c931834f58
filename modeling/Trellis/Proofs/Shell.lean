/-
Input that the shell waits for.

The shell tells by a scan of its own whether input is finished.  It counts double braces, the
parentheses between them, and elements, and ends tags and strings by rules of its own.  The reader
of markup masks the expressions first, then parts the masked text into tokens and keeps a stack of
open elements.

The two are compared token by token (`scan_tokens`): behind a token, no more elements are open for
the shell than for the reader (`scan_token`, `opened_le`), and neither double braces nor parentheses
are.  The expressions in a token's source are behind it because an accepted one closes the
parentheses that it opens and has no two opening braces in a row (`Expr.tidy`), and its strings end
where the shell ends them (`Skims`).  At the end the reader has no element open, so the shell has
none.

This holds where the shell sees tags as they are (`SeesToken`), which takes a condition that is not
met by all templates: the shell looks for tags in comments as well.
-/
import Mathlib
import Trellis.Proofs.Markup.Places
import Trellis.Proofs.Markup.Quotes
import Trellis.Shell.Basic

namespace Trellis

open Token (Face Kind)

/-! ### Parentheses and braces of an expression -/

namespace Written

variable {ts : List Token} {fs : List Face}

/-- Semicolons and commas apart, a kind of token stands as often as in the tree. -/
lemma count_eq (h : Written ts fs) {k : Kind} (hk : k ≠ .semicolon ∧ k ≠ .comma) :
    (ts.map Token.kind).count k = (fs.map Face.kind).count k := by
  induction h with
  | nil => rfl
  | @token t f ts fs ht _ ih =>
    have hkind : t.kind = f.kind := ht ▸ rfl
    rw [List.map_cons, List.map_cons, List.count_cons, List.count_cons, ih, hkind]
  | semicolon ht _ ih => rw [List.map_cons, List.count_cons_of_ne (ht ▸ hk.1.symm), ih]
  | comma ht _ _ ih => rw [List.map_cons, List.count_cons_of_ne (ht ▸ hk.2.symm), ih]

lemma bracesApart (h : Written ts fs) (hfs : BracesApart (fs.map Face.kind)) :
    BracesApart (ts.map Token.kind) := by
  induction h with
  | nil => trivial
  | @token t f ts fs ht hrest ih =>
    refine ⟨fun hbrace => ?_, ih hfs.2⟩
    obtain ⟨l, hl, hne⟩ := hfs.1 ((congrArg Face.kind ht).symm.trans hbrace)
    cases hrest with
    | nil => cases hl
    | token hu _ => exact ⟨_, rfl, fun hkind => hne (by cases hl; exact hu ▸ hkind)⟩
    | semicolon hu _ => exact ⟨_, rfl, by rw [hu]; exact nofun⟩
    | comma hu _ _ => exact ⟨_, rfl, by rw [hu]; exact nofun⟩
  | semicolon ht _ ih => exact ⟨by rw [ht]; exact nofun, ih hfs⟩
  | comma ht _ _ ih => exact ⟨by rw [ht]; exact nofun, ih hfs⟩

end Written

/-! ### The scan of a character -/

namespace Shell

variable {o : Open} {c : Char} {cs : List Char}

/-- Whether no two braces of a kind begin here. -/
def NoPair (c : Char) (cs : List Char) : Prop := c = '\x7b' ∨ c = '\x7d' → cs.head? ≠ some c

/-- A character between double braces. -/
lemma scan_inside (ho : 0 < o.mustaches) (hpair : NoPair c cs) : scan o .plain (c :: cs) =
    if isQuote c then scan o (.quoted c) cs
    else if c == '(' then scan { o with parens := o.parens + 1 } .plain cs
    else if c == ')' then scan { o with parens := o.parens - 1 } .plain cs
    else scan o .plain cs := by
  rw [scan.eq_def]
  split <;> simp_all [NoPair]

/-- A character outside of double braces where no tag begins. -/
lemma scan_outside (ho : ¬0 < o.mustaches) (hpair : NoPair c cs)
    (hc : ¬(o.mustaches == 0 && c == '<') = true) :
    scan o .plain (c :: cs) = scan o .plain cs := by
  have hlast : (o.mustaches == 0 && c == '<') = false := Bool.eq_false_iff.2 hc
  rw [scan.eq_def]
  split <;> simp_all only [NoPair, List.cons.injEq, reduceCtorEq, List.head?_cons]
  all_goals simp_all

/-- A start tag is looked at up to its end. -/
lemma scan_open (k : Int) (cs : List Char) (hc : startsName c = true) :
    scan ⟨0, 0, k⟩ .plain ('<' :: c :: cs) = scan ⟨0, 0, k⟩ (.tag [] none) (c :: cs) := by
  have hslash : c ≠ '/' := by
    rintro rfl
    cases hc
  rw [scan.eq_def]
  simp [hc, hslash]

/-- An end tag closes an element. -/
lemma scan_close {k : Int} (hc : startsName c = true) :
    scan ⟨0, 0, k⟩ .plain ('<' :: '/' :: c :: cs) = scan ⟨0, 0, k - 1⟩ .plain ('/' :: c :: cs) := by
  simp [scan, hc]

/-- A bracket in front of no name closes an element at most. -/
lemma scan_bracket {k : Int} (hname : ∀ d ∈ cs.head?, startsName d = false) :
    ∃ l ≤ k, scan ⟨0, 0, k⟩ .plain ('<' :: cs) = scan ⟨0, 0, l⟩ .plain cs := by
  cases cs with
  | nil => exact ⟨k, Int.le_refl k, by simp [scan]⟩
  | cons d cs =>
    have hd : startsName d = false := hname d rfl
    by_cases hslash : d = '/'
    · subst hslash
      cases cs with
      | nil => exact ⟨k, Int.le_refl k, by simp [scan, hd]⟩
      | cons e cs =>
        by_cases he : startsName e = true
        · exact ⟨k - 1, by omega, scan_close he⟩
        · exact ⟨k, Int.le_refl k, by simp [scan, he]⟩
    · refine ⟨k, Int.le_refl k, ?_⟩
      rw [scan.eq_def]
      simp [hd, hslash]

/-! ### The scan of an expression -/

lemma expressionBody_cons {inside rest : List Char} (hquote : c ≠ '\'' ∧ c ≠ '"')
    (h : Region.expressionBody none false (c :: cs) = some (c :: inside, rest)) :
    Region.expressionBody none false cs = some (inside, rest) ∧
    (c = '\x7d' → cs.head? ≠ some '\x7d') := by
  by_cases hend : c = '\x7d' ∧ cs.head? = some '\x7d'
  · obtain ⟨rfl, hhead⟩ := hend
    obtain ⟨cs, rfl⟩ : ∃ cs', cs = '\x7d' :: cs' := List.head?_eq_some_iff.1 hhead
    simp [Region.expressionBody] at h
  · have hclose : c = '\x7d' → cs.head? ≠ some '\x7d' := fun hc hhead => hend ⟨hc, hhead⟩
    have hpasses := Region.passes_single hquote hclose
    rw [Region.Passes, List.singleton_append, h, eq_comm, Option.map_eq_some_iff] at hpasses
    obtain ⟨body, hbody, heq⟩ := hpasses
    cases heq
    exact ⟨hbody, hclose⟩

/-- The quotes, the parentheses and the opening brace. -/
def special : List Char := ['\'', '"', '(', ')', '\x7b']

/-- Whether the shell, between double braces, stands behind `front` as in front of it but for `d`
more parentheses that are open, and the reader of an expression's body goes on with what is left of
the body. -/
def Skims (d : Int) (front back : List Char) : Prop :=
  ∀ inside rest, Region.expressionBody none false (front ++ back) = some (front ++ inside, rest) →
    Region.expressionBody none false back = some (inside, rest) ∧ ∀ o : Open, 0 < o.mustaches →
      scan o .plain (front ++ back) = scan { o with parens := o.parens + d } .plain back

namespace Skims

variable {d e : Int} {front xs ys back : List Char}

lemma nil : Skims 0 [] back := fun _ _ h => ⟨h, fun o _ => by simp⟩

lemma append (hxs : Skims d xs (ys ++ back)) (hys : Skims e ys back) : Skims (d + e)
    (xs ++ ys) back := by
  intro inside rest h
  rw [List.append_assoc, List.append_assoc] at h
  obtain ⟨hmiddle, hscan⟩ := hxs _ _ h
  obtain ⟨hbody, hscan'⟩ := hys _ _ hmiddle
  refine ⟨hbody, fun o ho => ?_⟩
  have hlast := hscan' { o with parens := o.parens + d } ho
  rw [Int.add_assoc] at hlast
  rw [List.append_assoc, hscan o ho, hlast]

/-- A character that is no quote. -/
lemma char (hquote : c ≠ '\'' ∧ c ≠ '"') (hopen : c = '\x7b' → back.head? ≠ some '\x7b') :
    Skims (if c = '(' then 1 else if c = ')' then -1 else 0) [c] back := by
  intro inside rest h
  obtain ⟨hbody, hclose⟩ := expressionBody_cons hquote h
  refine ⟨hbody, fun o ho => ?_⟩
  have hpair : NoPair c back := by
    rintro (rfl | rfl)
    · exact hopen rfl
    · exact hclose rfl
  have hplain : isQuote c = false := by simp [isQuote, hquote]
  rw [List.singleton_append, scan_inside ho hpair, hplain]
  split_ifs <;> simp_all [Int.sub_eq_add_neg]

lemma chars (h : ∀ c ∈ front, c ∉ special) : Skims 0 front back := by
  induction front with
  | nil => exact nil
  | cons c front ih =>
    have hc : c ≠ '\'' ∧ c ≠ '"' ∧ c ≠ '(' ∧ c ≠ ')' ∧ c ≠ '\x7b' := by
      simpa [special] using h c List.mem_cons_self
    have hfirst : Skims _ [c] (front ++ back) := char ⟨hc.1, hc.2.1⟩ fun hbrace =>
      absurd hbrace hc.2.2.2.2
    rw [if_neg hc.2.2.1, if_neg hc.2.2.2.1] at hfirst
    exact hfirst.append (ih fun d hd => h d (List.mem_cons_of_mem c hd))

/-- A string ends for the shell where it ends for the reader. -/
lemma string {q : Char} (hq : q = '"' ∨ q = '\'') (h : Token.IsQuoted q xs) :
    Skims 0 (q :: xs) back := by
  intro inside rest hread
  have hpasses := Region.passes_string hq h back
  rw [Region.Passes, hread, eq_comm, Option.map_eq_some_iff] at hpasses
  obtain ⟨body, hbody, heq⟩ := hpasses
  obtain rfl : body = (inside, rest) :=
    Prod.ext (List.append_cancel_left (Prod.mk.inj heq).1) (Prod.mk.inj heq).2
  refine ⟨hbody, fun o ho => ?_⟩
  have hquote : isQuote q = true := by rcases hq with rfl | rfl <;> rfl
  have hpair : NoPair q (xs ++ back) := by rcases hq with rfl | rfl <;> rintro (h | h) <;> cases h
  have hslash : q ≠ '\\' := by rcases hq with rfl | rfl <;> decide
  have hstring : scan o (.quoted q) (xs ++ back) = scan o .plain back := by
    clear hread hbody heq hpair
    induction h with
    | close => simp [scan, hslash]
    | escape c _ _ _ ih => simp [scan, ih]
    | plain hc _ hb _ ih => simp [scan, ih, hc, hb]
  rw [List.cons_append, scan_inside ho hpair, hquote, if_pos rfl, hstring, Int.add_zero]

end Skims

/-- How many more parentheses tokens open than they close. -/
def balance (ks : List Kind) : Int := ks.count .lparen - ks.count .rparen

lemma balance_cons (k : Kind) (ks : List Kind) : balance (k :: ks) = balance [k] + balance ks := by
  simp only [balance, List.count_cons, List.count_nil]
  omega

lemma isGap_plain (h : Token.isGap c = true) : c ∉ special := by
  have hnone : ∀ d ∈ special, (!Token.isGap d) = true := List.all_eq_true.1 (by decide)
  intro hc
  simpa [h] using hnone c hc

lemma isWordChar_plain (h : Token.isWordChar c = true ∨ Token.IsNumeric c) : c ∉ special := by
  have hnone : ∀ d ∈ special,
      (!(Token.isWordChar d || Token.isDigit d || ['.', 'e', 'E', '+', '-'].contains d)) = true :=
    List.all_eq_true.1 (by decide)
  intro hc
  have hplain := hnone c hc
  rcases h with h | h | h
  · simp [h] at hplain
  · simp [h] at hplain
  · rw [List.contains_iff_mem.2 h, Bool.or_true] at hplain
    cases hplain

/-- A token is a string, a parenthesis, an opening brace, or has none of these characters in it. -/
lemma token_form {t : Token} (ht : t.face.Sound) (hkind : t.kind ≠ .illegal ∧ t.kind ≠ .eof) :
    (∃ q xs, t.kind = .string ∧ (q = '"' ∨ q = '\'') ∧ t.raw.toList = q :: xs ∧
    Token.IsQuoted q xs) ∨
      (t.kind, t.raw.toList) ∈ [(.lparen, ['(']), (.rparen, [')']), (.lbrace, ['\x7b'])] ∨
      balance [t.kind] = 0 ∧ ∀ c ∈ t.raw.toList, c ∉ special := by
  by_cases hstring : t.kind = .string
  · obtain ⟨q, xs, hq, hxs, hquoted⟩ := Token.Face.Sound.string_eq ht hstring
    exact .inl ⟨q, xs, hstring, hq, hxs, hquoted⟩
  · rcases Token.Face.Sound.chars ht hstring hkind.1 hkind.2 with ⟨hatom, hchars⟩ | hmark
    · have hbalance : ∀ k : Kind, k.isAtom = true → balance [k] = 0 := by
        intro k
        cases k <;> decide
      exact .inr (.inr ⟨hbalance _ hatom, fun c hc => isWordChar_plain (hchars c hc)⟩)
    · have hmarks : ∀ m ∈ Token.marks, m ∈ [(.lparen, ['(']), (.rparen, [')']),
        (.lbrace, ['\x7b'])] ∨
          balance [m.1] = 0 ∧ m.2.all (fun c => !special.contains c) = true := by decide
      refine .inr ((hmarks _ hmark).imp_right (And.imp_right fun hall c hc => ?_))
      simpa using List.all_eq_true.1 hall c hc

lemma skims_token {t : Token} {back : List Char} (ht : t.face.Sound)
    (hkind : t.kind ≠ .illegal ∧ t.kind ≠ .eof)
    (hopen : t.kind = .lbrace → back.head? ≠ some '\x7b') :
    Skims (balance [t.kind]) t.raw.toList back := by
  rcases token_form ht hkind with ⟨q, xs, hstring, hq, hxs, hquoted⟩ | hmark | ⟨hbalance, hchars⟩
  · rw [hstring, hxs]
    exact Skims.string hq hquoted
  · simp only [List.mem_cons, Prod.mk.injEq, List.not_mem_nil, or_false] at hmark
    rcases hmark with ⟨hk, hraw⟩ | ⟨hk, hraw⟩ | ⟨hk, hraw⟩
    · rw [hk, hraw]
      exact Skims.char (by decide) fun hbrace => absurd hbrace (by decide)
    · rw [hk, hraw]
      exact Skims.char (by decide) fun hbrace => absurd hbrace (by decide)
    · rw [hk, hraw]
      exact Skims.char (by decide) fun _ => hopen hk
  · rw [hbalance]
    exact Skims.chars hchars

/-- A token that begins with a brace is that brace. -/
lemma kind_of_brace {t : Token} (ht : t.face.Sound) (hkind : t.kind ≠ .illegal ∧ t.kind ≠ .eof)
    (hhead : t.raw.toList.head? = some '\x7b') : t.kind = .lbrace := by
  rcases token_form ht hkind with ⟨q, xs, -, hq, hxs, -⟩ | hmark | ⟨-, hchars⟩
  · rw [hxs] at hhead
    rcases hq with rfl | rfl <;> cases hhead
  · simp only [List.mem_cons, Prod.mk.injEq, List.not_mem_nil, or_false] at hmark
    rcases hmark with ⟨-, hraw⟩ | ⟨-, hraw⟩ | ⟨hk, -⟩
    · rw [hraw] at hhead
      cases hhead
    · rw [hraw] at hhead
      cases hhead
    · exact hk
  · exact absurd (by decide) (hchars '\x7b' (List.mem_of_mem_head? hhead))

lemma skims_tiles (tail : List Char) {before rest : List Char} {ts : List Token}
    (h : Token.Tiles before rest ts)
    (hsound : ∀ t ∈ ts, t.face.Sound) (hkinds : ∀ t ∈ ts, t.kind ≠ .illegal ∧ t.kind ≠ .eof)
    (hbraces : BracesApart (ts.map Token.kind)) : Skims (balance (ts.map Token.kind)) rest
    ('\x7d' :: tail) := by
  induction h with
  | blank hrest => exact Skims.chars fun c hc => isGap_plain (hrest c hc)
  | @token before gap rest t ts hgap _ _ _ hrest ih =>
    obtain ⟨ht, hts⟩ := List.forall_mem_cons.1 hsound
    obtain ⟨hkind, hkinds⟩ := List.forall_mem_cons.1 hkinds
    have hopen : t.kind = .lbrace → (rest ++ '\x7d' :: tail).head? ≠ some '\x7b' := by
      intro hlbrace hhead
      obtain ⟨k, hk, hne⟩ := hbraces.1 hlbrace
      cases hrest with
      | blank => cases hk
      | @token _ gap' rest' u us hgap' _ _ hraw =>
        cases hk
        cases gap' with
        | cons g gap' =>
          cases hhead
          exact absurd (hgap' _ List.mem_cons_self) (by decide)
        | nil =>
          refine hne (kind_of_brace (hts u List.mem_cons_self) (hkinds u List.mem_cons_self) ?_)
          cases hu : u.raw.toList with
          | nil => exact absurd (String.toList_eq_nil_iff.1 hu) hraw
          | cons d ds => simpa [hu] using hhead
    rw [List.map_cons, balance_cons, List.append_assoc, ← Int.zero_add (balance [t.kind] + _)]
    refine Skims.append (Skims.chars fun c hc => isGap_plain (hgap c hc)) ?_
    exact (skims_token ht hkind hopen).append (ih hts hkinds hbraces.2)

/-- An accepted expression between double braces leaves nothing open. -/
lemma scan_expression (e : String) (tail : List Char) (k : Int) {p : Program}
    (hnul : '\x00' ∉ e.toList) (hread : Program.parse e = .ok p)
    (hbody : Region.expressionBody none false (e.toList ++ '\x7d' :: '\x7d' :: tail) =
      some (e.toList, tail)) :
      scan ⟨0, 0, k⟩ .plain ('\x7b' :: '\x7b' :: (e.toList ++ '\x7d' :: '\x7d' :: tail)) =
        scan ⟨0, 0, k⟩ .plain tail := by
  obtain ⟨ts, -, -, -, htiles, hwritten, hsound, hkinds⟩ := Program.parse_sound hnul hread
  have hbalance : balance (ts.map Token.kind) = 0 := by
    rw [balance, hwritten.count_eq (by decide), hwritten.count_eq (by decide), p.tidy.parens,
      Int.sub_self]
  have hskims := skims_tiles ('\x7d' :: tail) htiles hsound hkinds
    (hwritten.bracesApart p.tidy.braces)
  rw [hbalance] at hskims
  obtain ⟨-, hscan⟩ := hskims [] tail (by rwa [List.append_nil])
  rw [scan, hscan _ Int.one_pos]
  simp [scan]

/-! ### Text between tags -/

/-- Whether the shell finds nothing open in a text: no tag begins in it, and two braces in a row
stand around accepted expressions only. -/
def isCalm : Nat → List Char → Bool
  | 0, _ => false
  | _ + 1, [] => true
  | n + 1, '\x7b' :: '\x7b' :: cs =>
    match Region.expressionBody none false cs with
    | some (inside, rest) =>
      !inside.contains '\x00' && (Program.parse (String.ofList inside)).toOption.isSome &&
        isCalm n rest
    | none => false
  | _ + 1, '\x7d' :: '\x7d' :: _ => false
  | n + 1, c :: cs => !(c == '<' && cs.head?.any startsName) && isCalm n cs

/-- Behind a calm text that is set apart by a bracket, no more is open than in front of it. -/
lemma scan_calm {n : Nat} {cs back : List Char} (h : isCalm n cs = true)
    (hapart : Html.StartsAngle back ∨ Html.EndsAngle cs) (k : Int) :
    ∃ l ≤ k, scan ⟨0, 0, k⟩ .plain (cs ++ back) = scan ⟨0, 0, l⟩ .plain back := by
  fun_induction isCalm n cs generalizing k with
  | case1 => cases h
  | case2 => exact ⟨k, Int.le_refl k, rfl⟩
  | case3 n cs inside rest hbody ih =>
    rw [Bool.and_eq_true, Bool.and_eq_true, Option.isSome_iff_exists] at h
    obtain ⟨⟨hnul, p, hp⟩, hrest⟩ := h
    obtain ⟨p, hread, -⟩ := eq_ok_of_toOption (g := id) (y := p) (by rw [hp]; rfl)
    have hcs := Region.expressionBody_eq hbody
    have hwhole := Region.expressionBody_append hbody back
    have hscan := scan_expression (String.ofList inside) (rest ++ back) k (by simpa using hnul)
      hread
      (by simpa [hcs, Region.closing] using hwhole)
    have hsuffix : rest <:+ '\x7b' :: '\x7b' :: cs := by
      rw [hcs]
      exact Html.suffix_cons (Html.suffix_cons (List.suffix_append _ _))
    obtain ⟨l, hl, hlast⟩ := ih hrest (hapart.imp_right (·.of_suffix hsuffix)) k
    refine ⟨l, hl, ?_⟩
    rw [← hlast, ← hscan, hcs]
    simp [Region.closing]
  | case4 => cases h
  | case5 => cases h
  | case6 n c cs hopen hclose ih =>
    rw [Bool.and_eq_true] at h
    obtain ⟨hname, hrest⟩ := h
    replace ih := ih hrest (hapart.imp_right (·.of_suffix (List.suffix_cons c cs)))
    -- the next character may be the first one behind the text
    have hnext : ∀ d ∈ (cs ++ back).head?, d ∈ cs.head? ∨ d = '<' ∨ c = '>' := by
      intro d hd
      cases cs with
      | cons e cs => exact .inl hd
      | nil => exact .inr (hapart.imp (· d hd) (· c rfl))
    have hpair : NoPair c (cs ++ back) := by
      intro hc hhead
      rcases hnext c hhead with hin | rfl | rfl
      · obtain ⟨cs, rfl⟩ := List.head?_eq_some_iff.1 hin
        exact hc.elim (fun h => hopen cs h (h ▸ rfl)) fun h => hclose cs h (h ▸ rfl)
      · exact absurd hc (by decide)
      · exact absurd hc (by decide)
    by_cases hc : c = '<'
    · subst hc
      have hfree : ∀ d ∈ (cs ++ back).head?, startsName d = false := by
        intro d hd
        rcases hnext d hd with hin | rfl | h
        · simpa [Option.mem_def.1 hin] using hname
        · rfl
        · cases h
      obtain ⟨l, hl, hscan⟩ := scan_bracket (k := k) hfree
      obtain ⟨l', hl', hlast⟩ := ih l
      exact ⟨l', by omega, hscan.trans hlast⟩
    · obtain ⟨l, hl, hlast⟩ := ih k
      exact ⟨l, hl, (scan_outside (by simp) hpair (by simpa using hc)).trans hlast⟩

/-! ### Start tags -/

/-- Whether a tag, from behind its bracket on, ends at the first closing bracket outside of quotes.
-/
def endsTag : Option Char → List Char → Bool
  | _, [] => false
  | some q, c :: cs => endsTag (if c == q then none else some q) cs
  | none, c :: cs =>
    if isQuote c then endsTag (some c) cs else if c == '>' then cs.isEmpty else endsTag none cs

lemma scan_tag {quote : Option Char} {cs : List Char} (h : endsTag quote cs = true) (o : Open)
    (held back : List Char) : ∃ body, cs = body ++ ['>'] ∧ scan o (.tag held quote) (cs ++ back) =
      scan (if opensElement (body.reverse ++ held) then { o with elements := o.elements + 1 }
      else o) .plain
        back := by
  fun_induction endsTag quote cs generalizing held with
  | case1 => cases h
  | case2 q c cs ih =>
    obtain ⟨body, rfl, hscan⟩ := ih h (c :: held)
    exact ⟨c :: body, rfl, by simpa [scan] using hscan⟩
  | case3 c cs hquote ih =>
    obtain ⟨body, rfl, hscan⟩ := ih h (c :: held)
    exact ⟨c :: body, rfl, by simpa [scan, hquote] using hscan⟩
  | case4 c cs hquote hend =>
    obtain rfl := List.isEmpty_iff.1 h
    obtain rfl := beq_iff_eq.1 hend
    exact ⟨[], rfl, by rw [List.singleton_append, scan, if_neg hquote, if_pos hend]; rfl⟩
  | case5 c cs hquote hend ih =>
    obtain ⟨body, rfl, hscan⟩ := ih h (c :: held)
    exact ⟨c :: body, rfl, by simpa [scan, hquote, hend] using hscan⟩

/-- The name of a tag for the shell, from behind its bracket on. -/
def tagName (cs : List Char) : List Char := cs.takeWhile fun c => !" \t\n/>".toList.contains c

/-- Whether the shell sees a start tag as it is: the tag ends at its first closing bracket outside
of quotes, no carriage return or form feed follows the name, and the name is not `param`. -/
def isPlainTag : List Char → Bool
  | '<' :: cs =>
    endsTag none cs && (tagName cs).all (fun c => c != '\r' && c != '\x0c') &&
      Text.lower (String.ofList (tagName cs)) != "param"
  | _ => false

/-- The elements without content that the shell knows. -/
lemma isVoid_lower {name : String} (h : Markup.isVoid name = true)
    (hparam : Text.lower name ≠ "param") :
    Rendered.isVoid (Text.lower name) = true := by
  rw [Markup.isVoid] at h
  generalize Text.lower name = word at h hparam
  rw [List.contains_iff_mem] at h
  simp only [Markup.voidElements, List.mem_cons, List.not_mem_nil, or_false] at h
  rcases h with rfl | rfl | rfl | rfl | rfl | rfl | rfl | rfl | rfl | rfl | rfl | rfl | rfl | rfl
  all_goals first | rfl | exact absurd rfl hparam

/-- The name of an element without content is made of letters, so of no private characters. -/
lemma plain_of_isVoid {name : List Char} (h : Markup.isVoid (String.ofList name) = true) :
    ∀ c ∈ name, ¬Markup.IsPrivate c ∧ c ≠ '>' := by
  have hletters : ∀ word ∈ Markup.voidElements, word.toList.all Char.isLower = true := by decide
  intro c hc
  rw [Markup.isVoid, List.contains_iff_mem] at h
  have hlower : (Text.lowerChar c).isLower = true := by
    refine List.all_eq_true.1 (hletters _ h) _ ?_
    rw [Text.lower, String.toList_map, String.toList_ofList]
    exact List.mem_map_of_mem hc
  constructor
  · rintro (rfl | rfl | rfl) <;> exact absurd hlower (by decide +kernel)
  · rintro rfl
    exact absurd hlower (by decide +kernel)

end Shell

namespace Markup

lemma dropBack_snoc (cs : List Char) (c : Char) : Text.dropBack (String.ofList (cs ++ [c]))
    (String.ofList [c]) =
    String.ofList cs := by
  simp [Text.dropBack, Text.dropPiece?]

lemma dropBack_other {cs : List Char} {c d : Char} (hne : d ≠ c) :
    Text.dropBack (String.ofList (cs ++ [c])) (String.ofList [d]) = String.ofList (cs ++ [c]) := by
  simp [Text.dropBack, Text.dropPiece?, hne]

lemma takeWhile_snoc {p : Char → Bool} {c : Char} (hc : p c = false) (cs : List Char) :
    (cs ++ [c]).takeWhile p = cs.takeWhile p := by
  rw [List.takeWhile_append]
  split
  · next hall => rw [(List.takeWhile_prefix _).eq_of_length hall]; simp [hc]
  · rfl

/-- The name of a start tag; a slash in front of the last bracket is not part of it. -/
lemma startName_eq (cs : List Char) : startName ('<' :: (cs ++ ['>'])) =
    String.ofList (cs.takeWhile fun c => !(Html.isTagSpace c || c == '/')) := by
  have hfront : Text.dropFront (String.ofList ('<' :: (cs ++ ['>']))) "<" = String.ofList
      (cs ++ ['>']) := by
    simp [Text.dropFront, Text.dropPiece?]
  rw [startName, scanTag, hfront]
  dsimp only
  rw [show ">" = String.ofList ['>'] from rfl, dropBack_snoc,
    show "/" = String.ofList ['/'] from rfl]
  rcases List.eq_nil_or_concat' cs with rfl | ⟨cs, c, rfl⟩
  · rfl
  · by_cases hc : '/' = c
    · subst hc
      rw [dropBack_snoc, String.toList_ofList, takeWhile_snoc (by rfl)]
    · rw [dropBack_other hc, String.toList_ofList]

/-- Where a bracket sets two parts of a masked text apart, it can be cut, and a bracket sets the
parts of the source apart. -/
lemma Masks.split_apart {m : Masked} {front back cs : List Char}
    (h : Masks m.regions (front ++ back) cs)
    (hapart : Html.StartsAngle back ∨ Html.EndsAngle front) :
    ∃ before after, cs = before ++ after ∧ Masks m.regions front before ∧
    Masks m.regions back after ∧
      (Html.StartsAngle after ∨ Html.EndsAngle before) := by
  rcases hapart with hstart | hend
  · cases back with
    | nil =>
      rw [List.append_nil] at h
      exact ⟨cs, [], (List.append_nil cs).symm, h, .nil, .inl nofun⟩
    | cons c back =>
      obtain rfl : c = '<' := hstart c rfl
      obtain ⟨before, after, rfl, hfront, hback⟩ := h.split_char (by decide) rfl
      exact ⟨before, '<' :: after, rfl, hfront, .plain (by decide) hback,
        .inl fun c hc => (Option.some.inj hc).symm⟩
  · rcases List.eq_nil_or_concat' front with rfl | ⟨front, c, rfl⟩
    · exact ⟨[], cs, rfl, .nil, h, .inr nofun⟩
    · obtain rfl : c = '>' := hend c (by simp)
      rw [List.append_assoc] at h
      obtain ⟨before, after, rfl, hfront, hback⟩ := h.split_char (by decide) rfl
      exact ⟨before ++ ['>'], after, by simp, hfront.append (.plain (by decide) .nil), hback,
        .inr (Html.endsAngle_snoc before)⟩

end Markup

namespace Shell

open Markup (Masked Masks Outline startName)

/-- How many elements a token leaves open, at least. -/
def opened (t : Html.Token) : Int :=
  match t.kind with
  | .startTag => if Markup.isVoid (startName t.source) then 0 else 1
  | .endTag => -1
  | _ => 0

lemma length_push (o : Outline) (t : Markup.Tag) : (o.push t).open_.length = o.open_.length := by
  unfold Outline.push
  split
  · rfl
  · next hopen => rw [hopen]; rfl

lemma opened_le {m : Masked} {o o' : Outline} {line column : Nat} {t : Html.Token}
    (h : o.take m line column t = .ok o') : (o.open_.length : Int) + opened t ≤
    o'.open_.length := by
  have hname : (Markup.scanTag m line column t.source).1 = startName t.source := rfl
  unfold Outline.take at h
  unfold opened
  split at h
  · next hkind =>
    cases h
    simp [hkind, length_push]
  · next hkind =>
    rw [hkind]
    dsimp only at h ⊢
    rw [hname] at h
    split at h
    · next hvoid =>
      cases h
      simp [hvoid, length_push]
    · next hvoid =>
      cases h
      simp [hvoid]
  · next hkind =>
    cases h
    simp [hkind, length_push]
  · next hkind =>
    rw [hkind]
    dsimp only at h ⊢
    split at h
    · cases h
      omega
    · split at h
      · cases h
      · split at h
        · cases h
          omega
        · next top rest hopen =>
          split at h
          · cases h
            rw [length_push, hopen, List.length_cons]
            dsimp only
            omega
          · cases h
  · next hkind =>
    cases h
    simp [hkind]
  · next hkind =>
    cases h
    simp [hkind]

/-- Whether the shell sees a token of a masked template as it is. -/
def SeesToken (m : Masked) (t : Html.Token) : Prop :=
  if t.IsStart then isPlainTag (m.unmask (String.ofList t.source)).toList = true
  else isCalm ((m.unmask (String.ofList t.source)).length + 1)
    (m.unmask (String.ofList t.source)).toList = true

instance (m : Masked) (t : Html.Token) : Decidable (SeesToken m t) :=
  inferInstanceAs (Decidable (ite _ _ _))

lemma startsName_of_isTagLetter {c : Char} (h : Html.isTagLetter c = true) :
    startsName c = true := by
  simp only [Html.isTagLetter, startsName, Char.isAlpha, Char.isUpper, Char.isLower,
    Bool.or_eq_true,
    Bool.and_eq_true, decide_eq_true_eq] at h ⊢
  exact .inl h.symm

lemma not_isPrivate_of_isTagLetter {c : Char} (h : Html.isTagLetter c = true) :
    ¬Markup.IsPrivate c := by
  rintro (rfl | rfl | rfl) <;> exact absurd h (by decide)

lemma tagName_snoc (cs : List Char) : tagName (cs ++ ['>']) = tagName cs :=
  Markup.takeWhile_snoc (by rfl) cs

/-- Where no carriage return or form feed follows the name, the shell reads the name of an element
without content as the reader does. -/
lemma tagName_eq {m : Masked} {text cs : List Char} (hmasks : Masks m.regions text cs)
    (hblanks : ∀ c ∈ tagName cs, c ≠ '\r' ∧ c ≠ '\x0c')
    (hvoid : Markup.isVoid (startName ('<' :: (text ++ ['>']))) = true) :
    String.ofList (tagName cs) = startName ('<' :: (text ++ ['>'])) := by
  rw [Markup.startName_eq] at hvoid ⊢
  have hplain := plain_of_isVoid hvoid
  have hsplit := List.takeWhile_append_dropWhile (p := fun c => !(Html.isTagSpace c || c == '/'))
    (l := text)
  generalize hname : text.takeWhile (fun c => !(Html.isTagSpace c || c == '/')) =
    name at hplain hsplit ⊢
  generalize hrest : text.dropWhile (fun c => !(Html.isTagSpace c || c == '/')) = rest at hsplit
  subst hsplit
  obtain ⟨after, rfl, hafter⟩ := hmasks.append_plain name fun c hc => (hplain c hc).1
  have hall : ∀ c ∈ name, !" \t\n/>".toList.contains c := by
    intro c hc
    have hangle := (hplain c hc).2
    rw [← hname] at hc
    have hstop := List.all_eq_true.1 List.all_takeWhile c hc
    simp only [Html.isTagSpace, Bool.not_eq_true', Bool.or_eq_false_iff,
      beq_eq_false_iff_ne] at hstop
    simp [hstop, hangle]
  have hown : tagName (name ++ after) = name ++ tagName after := List.takeWhile_append_of_pos hall
  rw [hown] at hblanks ⊢
  suffices htail : tagName after = [] by rw [htail, List.append_nil]
  cases rest with
  | nil => rw [hafter.eq_nil]; rfl
  | cons x rest =>
    have hx : Html.isTagSpace x = true ∨ x = '/' := by
      have hhead := List.head?_dropWhile_not (fun c => !(Html.isTagSpace c || c == '/'))
        (name ++ x :: rest)
      rw [hrest] at hhead
      by_contra hnot
      simp_all
    have hfree : ∀ c ∈ [x], ¬Markup.IsPrivate c := by
      intro c hc
      rw [List.mem_singleton.1 hc]
      simp only [Html.isTagSpace, Bool.or_eq_true, beq_iff_eq] at hx
      rcases hx with ((((rfl | rfl) | rfl) | rfl) | rfl) | rfl <;> decide
    obtain ⟨after, rfl, -⟩ := hafter.append_plain [x] hfree
    simp only [Html.isTagSpace, Bool.or_eq_true, beq_iff_eq] at hx
    rcases hx with ((((rfl | rfl) | rfl) | rfl) | rfl) | rfl
    · rfl
    · rfl
    · exact absurd rfl (hblanks '\r' (by simp [tagName])).1
    · rfl
    · exact absurd rfl (hblanks '\x0c' (by simp [tagName])).2
    · rfl

/-- A start tag that opens an element for the shell opens one for the reader. -/
lemma opened_eq {m : Masked} {t : Html.Token} (text : List Char) {before : List Char}
    (hkind : t.IsStart)
    (hsource : t.source = '<' :: (text ++ ['>'])) (hslash : t.kind = .selfClosing →
    text.getLast? = some '/')
    (hmasks : Masks m.regions text before) (hplain : isPlainTag ('<' :: (before ++ ['>'])) = true)
    (hopens : opensElement before.reverse = true) : opened t = 1 := by
  rw [opensElement, Bool.and_eq_true, List.reverse_reverse, List.head?_reverse] at hopens
  obtain ⟨hlast, hvoid⟩ := hopens
  rw [isPlainTag, tagName_snoc, Bool.and_eq_true, Bool.and_eq_true] at hplain
  obtain ⟨⟨-, hblanks⟩, hparam⟩ := hplain
  rcases hkind with hkind | hkind
  · have hnot : Markup.isVoid (startName t.source) = false := by
      rw [hsource, Bool.eq_false_iff]
      intro hreader
      rw [← tagName_eq hmasks (by simpa using hblanks) hreader] at hreader
      have hshell := isVoid_lower hreader (by simpa using hparam)
      rw [Bool.not_eq_true'] at hvoid
      exact absurd (hshell.symm.trans hvoid) Bool.noConfusion
    simp [opened, hkind, hnot]
  · obtain ⟨text, rfl⟩ := List.getLast?_eq_some_iff.1 (hslash hkind)
    obtain ⟨before, after, rfl, -, hafter⟩ := hmasks.split_char (by decide) rfl
    rw [hafter.eq_nil] at hlast
    simp at hlast

/-- Behind a token that the shell sees as it is, no more is open for the shell than the token leaves
open. -/
lemma scan_token {m : Masked} {t : Html.Token} {rest cs back : List Char} (hform : t.Form rest)
    (hmasks : Masks m.regions t.source cs) (hapart : Html.StartsAngle back ∨ Html.EndsAngle cs)
    (hsees : SeesToken m t) (k : Int) :
    ∃ l ≤ k + opened t, scan ⟨0, 0, k⟩ .plain (cs ++ back) = scan ⟨0, 0, l⟩ .plain back := by
  rw [SeesToken, hmasks.unmask_eq, String.toList_ofList] at hsees
  cases hform with
  | @start d body hkind hletter hsource hslash =>
    rw [if_pos hkind] at hsees
    have hfree := not_isPrivate_of_isTagLetter hletter
    rw [hsource] at hmasks
    obtain ⟨after, rfl, hafter⟩ := hmasks.append_plain ['<', d]
      (List.forall_mem_cons.2 ⟨by decide, List.forall_mem_singleton.2 hfree⟩)
    obtain ⟨before, last, rfl, hbefore, hlast⟩ := hafter.split_char (by decide) rfl
    obtain rfl := hlast.eq_nil
    have hplain : endsTag none (d :: (before ++ ['>'])) = true := by
      change isPlainTag ('<' :: d :: (before ++ ['>'])) = true at hsees
      rw [isPlainTag, Bool.and_eq_true, Bool.and_eq_true] at hsees
      exact hsees.1.1
    obtain ⟨held, hheld, hscan⟩ := scan_tag hplain ⟨0, 0, k⟩ [] back
    obtain rfl : d :: before = held := List.append_cancel_right hheld
    have hopened : opensElement (d :: before).reverse = true → opened t = 1 :=
      opened_eq (d :: body) hkind hsource (fun h => by rw [List.getLast?_cons, hslash h]; rfl)
        (Masks.plain hfree hbefore) hsees
    have hnonneg : 0 ≤ opened t := by
      unfold opened
      rcases hkind with hkind | hkind
      · rw [hkind]
        dsimp only
        split <;> decide
      · rw [hkind]
    have hwhole := (scan_open k (before ++ ['>'] ++ back) (startsName_of_isTagLetter hletter)).trans
      hscan
    rw [List.append_nil] at hwhole
    by_cases hopens : opensElement (d :: before).reverse = true
    · rw [if_pos hopens] at hwhole
      exact ⟨k + 1, by rw [hopened hopens], hwhole⟩
    · rw [if_neg hopens] at hwhole
      exact ⟨k, by omega, hwhole⟩
  | @close d body hkind hletter hsource =>
    have hstart : ¬t.IsStart := by rintro (h | h) <;> rw [hkind] at h <;> cases h
    rw [if_neg hstart] at hsees
    rw [hsource] at hmasks
    obtain ⟨after, rfl, -⟩ := hmasks.append_plain ['<', '/', d] (List.forall_mem_cons.2 ⟨by decide,
      List.forall_mem_cons.2 ⟨by decide, List.forall_mem_singleton.2
        (not_isPrivate_of_isTagLetter hletter)⟩⟩)
    change isCalm _ ('<' :: '/' :: d :: after) = true at hsees
    rw [isCalm, Bool.and_eq_true] at hsees
    · have hapart := hapart.imp_right (·.of_suffix (List.suffix_cons '<' _))
      obtain ⟨l, hl, hscan⟩ := scan_calm hsees.2 hapart (k - 1)
      have hopened : opened t = -1 := by rw [opened, hkind]
      exact ⟨l, by omega, (scan_close (startsName_of_isTagLetter hletter)).trans hscan⟩
    · exact nofun
    · exact nofun
  | other hstart hclose _ =>
    rw [if_neg hstart] at hsees
    have hnone : opened t = 0 := by
      unfold opened
      split
      · next h => exact absurd (.inl h) hstart
      · next h => exact absurd h hclose
      · rfl
    rw [hnone, Int.add_zero]
    exact scan_calm hsees hapart k

lemma apart_of_form {t : Html.Token} {rest : List Char} (h : t.Form rest) :
    Html.StartsAngle rest ∨ Html.EndsAngle t.source := by
  cases h with
  | @start d body _ _ hsource =>
    exact .inr (by rw [hsource]; exact Html.endsAngle_snoc ('<' :: d :: body))
  | @close d body _ _ hsource =>
    exact .inr (by rw [hsource]; exact Html.endsAngle_snoc ('<' :: '/' :: d :: body))
  | other _ _ hapart => exact hapart

/-- Behind all tokens no more is open for the shell than for the reader. -/
lemma scan_tokens {m : Masked} {ts : List Html.Token} {cs : List Char} (hformed : Html.Formed ts)
    (hmasks : Masks m.regions (ts.flatMap Html.Token.source) cs) (hsees : ∀ t ∈ ts, SeesToken m t)
    {s : Markup.Spot} {o o' : Outline} (htakes : Outline.takeAll m s o ts = .ok o') {k : Int}
    (hk : k ≤ o.open_.length) :
    ∃ l : Int, l ≤ o'.open_.length ∧ scan ⟨0, 0, k⟩ .plain cs = scan ⟨0, 0, l⟩ .plain [] := by
  induction hformed generalizing cs s o k with
  | nil =>
    cases htakes
    rw [hmasks.eq_nil]
    exact ⟨k, hk, rfl⟩
  | @cons t ts hform _ ih =>
    obtain ⟨ht, hts⟩ := List.forall_mem_cons.1 hsees
    rw [Outline.takeAll] at htakes
    obtain ⟨o₁, htake, htakes⟩ := bind_eq_ok.1 htakes
    obtain ⟨before, after, rfl, hbefore, hafter, hapart⟩ := hmasks.split_apart (apart_of_form hform)
    obtain ⟨l, hl, hscan⟩ := scan_token hform hbefore hapart ht k
    have hle := opened_le htake
    obtain ⟨l', hl', hlast⟩ := ih hafter hts htakes (k := l) (by omega)
    exact ⟨l', hl', hscan.trans hlast⟩

/-! ### Blanks at the end -/

lemma isBlank_plain {c : Char} (h : Text.isBlank c = true) :
    c ∉ ['\x7b', '\x7d', '<', '>', '/', '(', ')', '\'', '"'] ∧ startsName c = false := by
  have hnone : ∀ d ∈ ['\x7b', '\x7d', '<', '>', '/', '(', ')', '\'', '"', '_'], (!Text.isBlank d) =
    true :=
    List.all_eq_true.1 (by decide)
  have hother : ∀ d, (!Text.isBlank d) = true → c ≠ d := by
    rintro d hd rfl
    simp [h] at hd
  constructor
  · exact fun hc => hother c (hnone c (List.mem_append_left ['_'] hc)) rfl
  · rw [startsName, Bool.or_eq_false_iff, beq_eq_false_iff_ne]
    refine ⟨?_, hother '_' (hnone '_' (by decide))⟩
    rw [Bool.eq_false_iff]
    intro hname
    simp only [Char.isAlpha, Char.isUpper, Char.isLower, Bool.or_eq_true, Bool.and_eq_true,
      decide_eq_true_eq, ge_iff_le, UInt32.le_iff_toNat_le] at hname
    simp only [Text.isBlank, Bool.or_eq_true, Bool.and_eq_true, decide_eq_true_eq, beq_iff_eq] at h
    simp only [show c.val.toNat = c.toNat from rfl, show 'A'.val.toNat = 65 from rfl,
      show 'Z'.val.toNat = 90 from rfl,
      show 'a'.val.toNat = 97 from rfl, show 'z'.val.toNat = 122 from rfl] at hname
    omega

/-- Blanks neither open nor close anything. -/
lemma scan_blanks {blanks : List Char} (h : ∀ c ∈ blanks, Text.isBlank c = true) (o : Open)
    (mode : Mode) :
    scan o mode blanks = scan o mode [] := by
  induction blanks generalizing mode with
  | nil => rfl
  | cons c cs ih =>
    obtain ⟨hc, hcs⟩ := List.forall_mem_cons.1 h
    obtain ⟨hmarks, hname⟩ := isBlank_plain hc
    cases mode with
    | plain =>
      rw [scan.eq_def]
      split <;> simp_all [scan, isQuote]
    | quoted q =>
      simp only [scan, ih hcs]
      split_ifs <;> simp [scan]
    | escaped q => simp [scan, ih hcs]
    | tag held quote =>
      have hangle : c ≠ '>' := by
        rintro rfl
        exact absurd (by decide) hmarks
      cases quote with
      | some q => simp [scan, ih hcs]
      | none => simp [scan, hangle, ih hcs]

/-- Blanks behind the input change nothing. -/
lemma scan_append_blanks {o : Open} {mode : Mode} {cs blanks : List Char}
    (h : ∀ c ∈ blanks, Text.isBlank c = true) : scan o mode (cs ++ blanks) = scan o mode cs := by
  -- a blank that comes to stand behind a character makes neither double braces nor a tag with it
  have hnext : ∀ d ∈ blanks.head?, d ∉ ['\x7b', '\x7d', '/'] ∧ startsName d = false := by
    intro d hd
    obtain ⟨hmarks, hname⟩ := isBlank_plain (h d (List.mem_of_mem_head? hd))
    exact ⟨fun hmem => hmarks (by simp at hmem ⊢; tauto), hname⟩
  have hpair : ∀ {c : Char} {cs : List Char}, (∀ ds, c = '\x7b' → cs = '\x7b' :: ds → False) →
      (∀ ds, c = '\x7d' → cs = '\x7d' :: ds → False) → NoPair c (cs ++ blanks) := by
    rintro c (_ | ⟨d, cs⟩) hopen hclose hc hhead
    · exact (hnext c hhead).1 (by rcases hc with rfl | rfl <;> simp)
    · obtain rfl := Option.some.inj hhead
      exact hc.elim (fun hc => hopen cs hc (hc ▸ rfl)) fun hc => hclose cs hc (hc ▸ rfl)
  fun_induction scan o mode cs
  case case1 => exact scan_blanks h _ _
  case case2 hmode => rw [List.nil_append, scan_blanks h, scan]; exact hmode
  case case3 | case4 | case5 | case6 | case7 | case8 | case9 | case10 | case15 =>
    clear hnext hpair
    simp_all [scan]
  case case11 c cs hopen hclose ho hquote ih =>
    rw [List.cons_append, scan_inside ho (hpair hopen hclose), if_pos hquote, ih]
  case case12 c cs hopen hclose ho hquote hparen ih =>
    rw [List.cons_append, scan_inside ho (hpair hopen hclose), if_neg hquote, if_pos hparen, ih]
  case case13 c cs hopen hclose ho hquote hparen hclosing ih =>
    rw [List.cons_append, scan_inside ho (hpair hopen hclose), if_neg hquote, if_neg hparen,
      if_pos hclosing, ih]
  case case14 c cs hopen hclose ho hquote hparen hclosing ih =>
    rw [List.cons_append, scan_inside ho (hpair hopen hclose), if_neg hquote, if_neg hparen,
      if_neg hclosing, ih]
  case case16 c ho hangle d tail hslash hopen hclose ih =>
    by_cases hd : d = '/'
    · cases tail with
      | nil => cases blanks <;> simp_all [scan, show startsName '/' = false from rfl]
      | cons e tail => exact absurd rfl (hslash e tail hd)
    · rw [scan.eq_def]
      simp_all
  case case17 c ho hangle hopen hclose ih =>
    cases blanks with
    | nil => simp_all [scan]
    | cons d blanks =>
      rw [scan.eq_def]
      simp_all
  case case18 c cs hopen hclose ho hangle ih =>
    rw [List.cons_append, scan_outside ho (hpair hopen hclose) hangle, ih]

lemma needsMore_eq {source : String} (h : source.toList.head? = some '<') :
    needsMore source = scan {} .plain source.toList := by
  obtain ⟨cs, hcs⟩ := List.head?_eq_some_iff.1 h
  have hleft : Text.trimLeftChars Text.isBlank source.toList = source.toList := by
    rw [hcs]
    rfl
  have hsplit := List.takeWhile_append_dropWhile (p := Text.isBlank) (l := source.toList.reverse)
  have hsource : source.toList = Text.trimRightChars Text.isBlank source.toList ++
      (source.toList.reverse.takeWhile Text.isBlank).reverse := by
    rw [Text.trimRightChars, ← List.reverse_append, hsplit, List.reverse_reverse]
  rw [needsMore, Text.trim, hleft, String.toList_ofList]
  conv_rhs => rw [hsource]
  refine (scan_append_blanks fun c hc => ?_).symm
  exact List.all_eq_true.1 List.all_takeWhile c (List.mem_reverse.1 hc)

/-- **The shell does not wait for input that it has.** Take an accepted template that begins with a
bracket, has no private characters and ends behind its last token, not within a tag.  The shell
needs no more input, if it sees each token as it is.  A start tag has to end at its first closing
bracket outside of quotes and must not be `param`, and no carriage return or form feed may follow
its name.  In any other token no tag begins, and two braces in a row stand around accepted
expressions. -/
theorem needsMore_of_read (o : Markup.ReadOptions) (source : String) (nodes : List Markup.Node)
    (hstart : source.toList.head? = some '<') (hread : Markup.read o source = .ok nodes)
    (hclean : ∀ c ∈ source.toList, c ≠ '\ue000' ∧ c ≠ '\ue001' ∧ c ≠ '\ue002')
    (hwhole : (Html.tokenize (Markup.mask source).text).flatMap Html.Token.source =
    (Markup.mask source).text)
    (hsees : ∀ t ∈ Html.tokenize (Markup.mask source).text, SeesToken (Markup.mask source) t) :
    needsMore source = false := by
  have hmasks : Masks (Markup.mask source).regions (Markup.mask source).text source.toList := by
    refine Markup.masks_mask fun c hc => ?_
    obtain ⟨hopen, hclose, hline⟩ := hclean c hc
    rintro (h | h | h)
    · exact hopen h
    · exact hclose h
    · exact hline h
  obtain ⟨tags, htags, -⟩ := Markup.tags_of_read hread
  obtain ⟨o', htakes, hclosed⟩ := bind_eq_ok.1 htags
  rw [← hwhole] at hmasks
  obtain ⟨l, hl, hscan⟩ := scan_tokens (Html.formed_tokenize _) hmasks hsees htakes (k :=
    0) (Int.le_refl 0)
  have hnone : o'.open_ = [] := by
    split at hclosed
    · assumption
    · cases hclosed
  rw [hnone] at hl
  have hl : ¬0 < l := by simpa using hl
  rw [needsMore_eq hstart]
  exact hscan.trans (by simp [scan, Open.any, hl])

/-- Quoted brackets and braces, a comment, elements without content and raw text. -/
theorem needsMore_of_read_page : ∃ nodes,
    Markup.read {} "<p id='a>b'><!-- 1 < 2 --><br>\x7b\x7b f(\")\x7d\x7d\") \x7d\x7d</p><style>p\x7b\x7d</style>" =
      .ok nodes ∧
    needsMore "<p id='a>b'><!-- 1 < 2 --><br>\x7b\x7b f(\")\x7d\x7d\") \x7d\x7d</p><style>p\x7b\x7d</style>" = false := by
  have hknown : (Markup.read {}
      "<p id='a>b'><!-- 1 < 2 --><br>\x7b\x7b f(\")\x7d\x7d\") \x7d\x7d</p><style>p\x7b\x7d</style>").toOption.map List.length =
        some 2 := by
    decide +kernel
  obtain ⟨nodes, hnodes, -⟩ := eq_ok_of_toOption hknown
  exact ⟨nodes, hnodes, needsMore_of_read {} _ nodes rfl hnodes
    (List.all_iff_forall_prop.1 (by decide +kernel))
    (by decide +kernel) (by decide +kernel)⟩

/-- A tag in a comment opens no element for the reader, but it does for the shell. -/
theorem needsMore_comment :
    ∃ nodes, Markup.read {} "<!-- <p> -->" = .ok nodes ∧ needsMore "<!-- <p> -->" = true := by
  have hknown : (Markup.read {} "<!-- <p> -->").toOption.map List.length = some 0 := by
    decide +kernel
  obtain ⟨nodes, hnodes, -⟩ := eq_ok_of_toOption hknown
  exact ⟨nodes, hnodes, by decide +kernel⟩

end Shell

end Trellis
