/-
The reader of regions agrees with the scanner on strings.

`Region.Passes` says that the reader of an expression's body passes some characters and stands
outside quotes behind them.  A string token is passed as a whole, whatever stands in it, because its
quotes and backslashes are counted in the same way (`Region.passes_string`).  All other tokens of an
accepted expression have no quotes in them (`Token.Face.Sound.no_quote`), so their characters are
passed one by one as long as no closing pair begins there.  Along the tokens of a text this makes an
expression end at the brackets that stand behind its text (`Token.Tiles.passes`).
-/
import Mathlib
import Trellis.Proofs.Expr.RoundTrip
import Trellis.Proofs.Markup.Mask

namespace Trellis

/-! ### The body of an expression -/

namespace Region

/-- Whether the body of an expression goes on with all of `front` when `back` follows, and is
outside quotes again behind it. -/
def Passes (front back : List Char) : Prop :=
  expressionBody none false (front ++ back) =
    (expressionBody none false back).map fun body => (front ++ body.1, body.2)

variable {front back : List Char} {c : Char}

lemma passes_nil (back : List Char) : Passes [] back := by
  simp [Passes]

lemma Passes.append {xs ys : List Char} (hx : Passes xs (ys ++ back)) (hy : Passes ys back) :
    Passes (xs ++ ys) back := by
  unfold Passes at hx hy ⊢
  rw [List.append_assoc, hx, hy, Option.map_map]
  simp [Function.comp_def]

/-- A character that is no quote, and does not begin a closing pair. -/
lemma passes_single (hquote : c ≠ '\'' ∧ c ≠ '"') (hclose : c = '\x7d' → back.head? ≠ some '\x7d') :
    Passes [c] back := by
  rw [Passes, List.singleton_append, expressionBody]
  · simp [hquote]
  · rintro rest hc rfl
    exact hclose hc rfl

/-- Characters none of which is a quote, and none of which begins a closing pair. -/
lemma passes_plain (hquote : ∀ c ∈ front, c ≠ '\'' ∧ c ≠ '"')
    (hclose : ∀ xs ys, front = xs ++ '\x7d' :: ys → (ys ++ back).head? ≠ some '\x7d') :
    Passes front back := by
  induction front with
  | nil => exact passes_nil back
  | cons c cs ih =>
    have hhead : Passes [c] (cs ++ back) := by
      refine passes_single (hquote c List.mem_cons_self) ?_
      rintro rfl
      exact hclose [] cs rfl
    have htail : Passes cs back := by
      refine ih (fun d hd => hquote d (List.mem_cons_of_mem c hd)) ?_
      rintro xs ys rfl
      exact hclose (c :: xs) ys rfl
    exact hhead.append htail

/-- Inside a string, the body goes on up to the quote at which the scanner ends the string. -/
lemma expressionBody_string {q : Char} {xs : List Char} (hq : q ≠ '\\') (h : Token.IsQuoted q xs)
    (back : List Char) :
    expressionBody (some q) false (xs ++ back) =
      (expressionBody none false back).map fun body => (xs ++ body.1, body.2) := by
  induction h with
  | close => simp [expressionBody, hq]
  | escape c _ _ _ ih => simp [expressionBody, ih, Function.comp_def]
  | @plain c cs hc _ hb _ ih => simp [expressionBody, ih, hc, hb, Function.comp_def]

/-- A closed string is passed as a whole. -/
lemma passes_string {q : Char} {xs : List Char} (hq : q = '"' ∨ q = '\'') (h : Token.IsQuoted q xs)
    (back : List Char) : Passes (q :: xs) back := by
  have hslash : q ≠ '\\' := by rcases hq with rfl | rfl <;> decide
  have hquote : (q == '\'' || q == '"') = true := by rcases hq with rfl | rfl <;> decide
  rw [Passes, List.cons_append, expressionBody]
  · simp only [hquote, if_true, expressionBody_string hslash h, Option.map_map]
    rfl
  · rintro rest rfl -
    exact absurd hquote (by decide)

/-- An expression that is passed up to its closing pair ends there. -/
lemma Passes.body?_eq {tail : List Char} (h : Passes front (closing .expression ++ tail)) :
    body? .expression (front ++ closing .expression ++ tail) = some (front, tail) := by
  rw [body?, List.append_assoc, h]
  simp [closing, expressionBody]

end Region

/-! ### Tokens and quotes -/

namespace Token

/-- The characters of a number. -/
def IsNumeric (c : Char) : Prop := isDigit c = true ∨ c ∈ ['.', 'e', 'E', '+', '-']

lemma IsNumeric.no_quote {c : Char} (h : IsNumeric c) : c ≠ '\'' ∧ c ≠ '"' := by
  rcases h with hdigit | hmem
  · obtain ⟨-, hdouble, hsingle, -⟩ := isDigit_not hdigit
    exact ⟨hsingle, hdouble⟩
  · constructor <;> rintro rfl <;> exact absurd hmem (by decide)

lemma numeric_digits (cs : List Char) : ∀ c ∈ cs.take (digitCount cs), IsNumeric c := by
  intro c hc
  rw [digitCount, ← List.prefix_iff_eq_take.1 (List.takeWhile_prefix isDigit)] at hc
  exact .inl (List.all_eq_true.1 List.all_takeWhile c hc)

lemma numeric_fraction (cs : List Char) : ∀ c ∈ cs.take (fractionSize cs), IsNumeric c := by
  fun_cases fractionSize cs with
  | case1 cs hd => simp
  | case2 cs hd =>
    intro c hc
    rw [Nat.add_comm, List.take_succ_cons] at hc
    rcases List.mem_cons.1 hc with rfl | hc
    · exact .inr (by decide)
    · exact numeric_digits cs c hc
  | case3 => simp

lemma numeric_exponent (cs : List Char) : ∀ c ∈ cs.take (exponentSize cs), IsNumeric c := by
  have hletter : ∀ e : Char, (e == 'e' || e == 'E') = true → IsNumeric e := by
    intro e he
    rcases Bool.or_eq_true_iff.1 he with h | h <;> exact .inr (by simp [beq_iff_eq.1 h])
  have hsign : ∀ s : Char, (s == '+' || s == '-') = true → IsNumeric s := by
    intro s hs
    rcases Bool.or_eq_true_iff.1 hs with h | h <;> exact .inr (by simp [beq_iff_eq.1 h])
  rcases cs with _ | ⟨e, _ | ⟨s, ds⟩⟩
  · simp
  · simp [exponentSize]
  · intro c hc
    rw [exponentSize] at hc
    split at hc
    · next he =>
      split at hc
      · next hs =>
        split at hc
        · cases hc
        · rw [Nat.add_comm, List.take_succ_cons, List.take_succ_cons] at hc
          rcases List.mem_cons.1 hc with rfl | hc
          · exact hletter _ he
          · rcases List.mem_cons.1 hc with rfl | hc
            · exact hsign _ hs
            · exact numeric_digits ds c hc
      · split at hc
        · cases hc
        · rw [Nat.add_comm, List.take_succ_cons] at hc
          rcases List.mem_cons.1 hc with rfl | hc
          · exact hletter _ he
          · exact numeric_digits (s :: ds) c hc
    · cases hc

lemma numeric_number (cs : List Char) : ∀ c ∈ cs.take (numberSize cs), IsNumeric c := by
  intro c hc
  rw [numberSize, List.take_add, List.take_add] at hc
  simp only [List.mem_append] at hc
  rcases hc with (hc | hc) | hc
  · exact numeric_digits cs c hc
  · exact numeric_fraction _ c hc
  · exact numeric_exponent _ c hc

/-- No operator has a quote in it. -/
lemma marks_no_quote : ∀ m ∈ marks, ∀ c ∈ m.2, c ≠ '\'' ∧ c ≠ '"' := by
  have hall : ∀ m ∈ marks, (m.2.all fun c => decide (c ≠ '\'' ∧ c ≠ '"')) = true := by decide
  exact fun m hm => List.all_iff_forall_prop.1 (hall m hm)

lemma isWordChar_no_quote {c : Char} (h : isWordChar c = true) : c ≠ '\'' ∧ c ≠ '"' := by
  rcases Bool.or_eq_true_iff.1 h with hstart | hdigit
  · obtain ⟨-, hdouble, hsingle, -⟩ := isWordStart_not hstart
    exact ⟨hsingle, hdouble⟩
  · exact IsNumeric.no_quote (.inl hdigit)

/-- A token that is no string is made of the characters of a word or a number, or is an operator,
unless it is illegal. -/
lemma Face.Sound.chars {f : Face} (h : f.Sound) (hstring : f.kind ≠ .string)
    (hillegal : f.kind ≠ .illegal) (heof : f.kind ≠ .eof) :
    (f.kind.isAtom = true ∧ ∀ c ∈ f.raw.toList, isWordChar c = true ∨ IsNumeric c) ∨
      (f.kind, f.raw.toList) ∈ marks := by
  obtain ⟨r, hr⟩ := h
  by_cases hatom : f.kind.isAtom = true
  · refine .inl ⟨hatom, ?_⟩
    obtain ⟨c, cs, hcs, hform⟩ := Lexeme.next_atom (f.raw.toList ++ r) (by rw [hr]; exact hatom)
    have htake : ∀ n, n = f.raw.toList.length → f.raw.toList = (c :: cs).take n := by
      rintro n rfl
      rw [← hcs, List.take_left]
    rw [hcs] at hr
    rcases hform with hw | hn | ⟨hq, hclosed⟩
    · rw [Lexeme.next_word hw] at hr
      simp only [Lexeme.mk.injEq] at hr
      rw [htake _ hr.2.2, List.take_succ_cons,
        ← List.prefix_iff_eq_take.1 (List.takeWhile_prefix isWordChar), List.forall_mem_cons]
      exact ⟨.inl (by simp [isWordChar, hw]), fun d hd =>
        .inl (List.all_eq_true.1 List.all_takeWhile d hd)⟩
    · rw [Lexeme.next_number hn] at hr
      simp only [Lexeme.mk.injEq] at hr
      rw [htake _ hr.2.2]
      exact fun d hd => .inr (numeric_number _ d hd)
    · rw [Lexeme.next_string hq] at hr
      simp only [Lexeme.mk.injEq, hclosed, if_true] at hr
      exact absurd hr.1.symm hstring
  · have hmem := Lexeme.mem_marks (f.raw.toList ++ r)
    rw [hr] at hmem
    obtain ⟨hmark, hraw⟩ := hmem (by simpa using hatom) hillegal heof
    rw [List.take_left] at hraw
    exact .inr (hraw ▸ hmark)

/-- A token that is no string has no quote in it, unless it is illegal. -/
lemma Face.Sound.no_quote {f : Face} (h : f.Sound) (hstring : f.kind ≠ .string)
    (hillegal : f.kind ≠ .illegal) (heof : f.kind ≠ .eof) : ∀ c ∈ f.raw.toList, c ≠ '\'' ∧
    c ≠ '"' := by
  rcases h.chars hstring hillegal heof with ⟨-, hchars⟩ | hmark
  · exact fun c hc => (hchars c hc).elim isWordChar_no_quote IsNumeric.no_quote
  · exact marks_no_quote _ hmark

/-- A string token is a quote and what it quotes. -/
lemma Face.Sound.string_eq {f : Face} (h : f.Sound) (hstring : f.kind = .string) :
    ∃ q xs, (q = '"' ∨ q = '\'') ∧ f.raw.toList = q :: xs ∧ IsQuoted q xs := by
  obtain ⟨r, hr⟩ := h
  have hatom : (Lexeme.next (f.raw.toList ++ r)).kind.isAtom = true := by
    rw [hr, hstring]
    rfl
  obtain ⟨c, cs, hcs, hform⟩ := Lexeme.next_atom _ hatom
  have hsize := Lexeme.size_atom _ hatom
  rw [hr] at hsize
  obtain ⟨c', xs, hraw⟩ := List.exists_cons_of_length_pos (Nat.pos_of_ne_zero hsize)
  rw [hraw, List.cons_append] at hcs hr
  obtain ⟨rfl, rfl⟩ := List.cons.inj hcs
  rcases hform with hw | hn | ⟨hq, hclosed⟩
  · rw [Lexeme.next_word hw] at hr
    simp only [Lexeme.mk.injEq] at hr
    have hword := isWord_ofWord (String.ofList (c' :: (xs ++ r).takeWhile isWordChar))
    rw [hr.1, hstring] at hword
    cases hword
  · rw [Lexeme.next_number hn] at hr
    simp only [Lexeme.mk.injEq] at hr
    rw [hstring] at hr
    cases hr.1
  · rw [Lexeme.next_string hq] at hr
    simp only [Lexeme.mk.injEq, List.length_cons, Nat.add_right_cancel_iff] at hr
    exact ⟨c', xs, hq, hraw, isQuoted_of_stringBody (r :=
      r) (Prod.ext rfl (Prod.ext hr.2.2 hclosed))⟩

lemma isGap_no_quote {c : Char} (h : isGap c = true) : (c ≠ '\'' ∧ c ≠ '"') ∧ c ≠ '\x7d' := by
  refine ⟨⟨?_, ?_⟩, ?_⟩ <;> rintro rfl <;> exact absurd h (by decide)

end Token

/-! ### The tokens of a tree -/

open Token (Face Kind)

/-- Whether a token can stand by itself: it is no parenthesis and no opening brace, and not illegal.
-/
def Token.Kind.isLoose : Kind → Bool
  | .lparen | .rparen | .lbrace | .illegal => Bool.false
  | _ => Bool.true

/-- Whether behind every opening brace stands a token that is none. -/
def BracesApart : List Kind → Prop
  | [] => True
  | k :: ks => (k = .lbrace → ∃ l ∈ ks.head?, l ≠ .lbrace) ∧ BracesApart ks

lemma BracesApart.append {ks ls : List Kind} (hks : BracesApart ks) (hls : BracesApart ls) :
    BracesApart (ks ++ ls) := by
  induction ks with
  | nil => exact hls
  | cons k ks ih =>
    rw [List.cons_append]
    refine ⟨fun hk => ?_, ih hks.2⟩
    obtain ⟨l, hl, hne⟩ := hks.1 hk
    exact ⟨l, by rw [List.head?_append, hl]; rfl, hne⟩

/-- Whether tokens are not illegal, close the parentheses that they open, and open no two braces in
a row. -/
structure Tidy (fs : List Face) : Prop where
  legal : ∀ f ∈ fs, f.kind ≠ .illegal
  parens : (fs.map Face.kind).count .lparen = (fs.map Face.kind).count .rparen
  braces : BracesApart (fs.map Face.kind)

namespace Tidy

variable {f : Face} {fs gs : List Face}

lemma nil : Tidy [] := ⟨nofun, rfl, trivial⟩

lemma append (hfs : Tidy fs) (hgs : Tidy gs) : Tidy (fs ++ gs) := by
  refine ⟨List.forall_mem_append.2 ⟨hfs.legal, hgs.legal⟩, ?_, ?_⟩
  · rw [List.map_append, List.count_append, List.count_append, hfs.parens, hgs.parens]
  · rw [List.map_append]
    exact hfs.braces.append hgs.braces

lemma cons (hf : f.kind.isLoose = true) (hfs : Tidy fs) : Tidy (f :: fs) := by
  have hne : ∀ k : Kind, k.isLoose = false → f.kind ≠ k := by
    rintro k hk rfl
    rw [hf] at hk
    cases hk
  refine ⟨List.forall_mem_cons.2 ⟨hne _ rfl, hfs.legal⟩, ?_, fun hbrace =>
    absurd hbrace (hne _ rfl), hfs.braces⟩
  rw [List.map_cons, List.count_cons_of_ne (hne _ rfl), List.count_cons_of_ne (hne _ rfl),
    hfs.parens]

lemma inParens (hfs : Tidy fs) {l r : String} :
    Tidy (Face.plain .lparen l :: (fs ++ [Face.plain .rparen r])) := by
  have hopen : (Face.plain .lparen l).kind ≠ .illegal := Kind.noConfusion
  have hclose : (Face.plain .rparen r).kind ≠ .illegal := Kind.noConfusion
  refine ⟨List.forall_mem_cons.2
    ⟨hopen, List.forall_mem_append.2 ⟨hfs.legal, List.forall_mem_singleton.2 hclose⟩⟩,
    ?_, Kind.noConfusion, ?_⟩
  · simp [Face.plain, hfs.parens]
  · rw [List.map_append]
    exact hfs.braces.append ⟨Kind.noConfusion, trivial⟩

lemma inBraces (hfs : Tidy fs) (hhead : ∀ g ∈ fs.head?, g.kind ≠ .lbrace) {l r : String} :
    Tidy (Face.plain .lbrace l :: (fs ++ [Face.plain .rbrace r])) := by
  have hopen : (Face.plain .lbrace l).kind ≠ .illegal := Kind.noConfusion
  have hrest : Tidy (fs ++ [Face.plain .rbrace r]) := hfs.append (cons rfl nil)
  refine ⟨List.forall_mem_cons.2 ⟨hopen, hrest.legal⟩, ?_, fun _ => ?_, hrest.braces⟩
  · simpa [Face.plain] using hrest.parens
  · cases fs with
    | nil => exact ⟨.rbrace, rfl, Kind.noConfusion⟩
    | cons g fs => exact ⟨g.kind, rfl, hhead g rfl⟩

end Tidy

lemma Token.Face.word_isLoose (name : String) : (Face.word name).kind.isLoose = true := by
  have hloose : ∀ k : Kind, k.isWord = true → k.isLoose = true := by
    intro k
    cases k <;> decide
  exact hloose _ (Token.isWord_ofWord name)

lemma Expr.UnaryOp.isLoose (op : UnaryOp) : op.kind.isLoose = true := by cases op <;> rfl

lemma Expr.BinaryOp.isLoose (op : BinaryOp) : op.kind.isLoose = true := by cases op <;> rfl

lemma Expr.LogicalOp.isLoose (op : LogicalOp) : op.kind.isLoose = true := by cases op <;> rfl

lemma Expr.AssignOp.isLoose (op : AssignOp) : op.kind.isLoose = true := by cases op <;> rfl

lemma Expr.UpdateOp.isLoose (op : UpdateOp) : op.kind.isLoose = true := by cases op <;> rfl

lemma Expr.Literal.face_isLoose (l : Literal) : l.face.kind.isLoose = true := by
  rcases l with _ | _ | (_ | _) | _ <;> rfl

lemma Expr.Key.face_isLoose (k : Key) : k.face.kind.isLoose = true := by
  cases k with
  | word s name => exact Face.word_isLoose name
  | string s value raw => rfl
  | number s raw => rfl

lemma Property.head_facesList (ps : List Property) :
    ∀ f ∈ (Property.facesList ps).head?, f.kind ≠ .lbrace := by
  intro f hf hbrace
  have hfree : f.kind.isLoose = true := by
    match ps, hf with
    | [.mk k v], hf => exact Option.some.inj hf ▸ k.face_isLoose
    | .mk k v :: q :: ps, hf => exact Option.some.inj hf ▸ k.face_isLoose
  rw [hbrace] at hfree
  cases hfree

mutual
lemma Expr.tidy : (e : Expr) → Tidy e.faces
  | .this _ | .ident _ _ => .cons rfl .nil
  | .lit _ l => .cons l.face_isLoose .nil
  | .array _ es => .cons rfl ((Expr.tidy_list es).append (.cons rfl .nil))
  | .object _ ps => (Property.tidy_list ps).inBraces (Property.head_facesList ps)
  | .seq _ es => Expr.tidy_list es
  | .unary _ op e => .cons op.isLoose e.tidy
  | .binary _ op l r => l.tidy.append (.cons op.isLoose r.tidy)
  | .logical _ op l r => l.tidy.append (.cons op.isLoose r.tidy)
  | .cond _ t c a => t.tidy.append (.cons rfl (c.tidy.append (.cons rfl a.tidy)))
  | .assign _ op t v => t.tidy.append (.cons op.isLoose v.tidy)
  | .update _ op true t => .cons op.isLoose t.tidy
  | .update _ op false t => t.tidy.append (.cons op.isLoose .nil)
  | .call _ f as => f.tidy.append (Expr.tidy_list as).inParens
  | .member _ o _ name => o.tidy.append (.cons rfl (.cons (Face.word_isLoose name) .nil))
  | .index _ o i => o.tidy.append (.cons rfl (i.tidy.append (.cons rfl .nil)))
  | .pipe _ e _ ds => e.tidy.append (.cons rfl (Decorator.tidy_chain ds))
  | .paren _ e => e.tidy.inParens

lemma Expr.tidy_list : (es : List Expr) → Tidy (Expr.facesList es)
  | [] => .nil
  | [e] => e.tidy
  | e :: f :: es => e.tidy.append (.cons rfl (Expr.tidy_list (f :: es)))

lemma Property.tidy : (p : Property) → Tidy (Property.faces p)
  | .mk k v => .cons k.face_isLoose (.cons rfl v.tidy)

lemma Property.tidy_list : (ps : List Property) → Tidy (Property.facesList ps)
  | [] => .nil
  | [p] => Property.tidy p
  | p :: q :: ps => (Property.tidy p).append (.cons rfl (Property.tidy_list (q :: ps)))

lemma Decorator.tidy : (d : Decorator) → Tidy (Decorator.faces d)
  | .mk _ _ as true => .cons rfl (Expr.tidy_list as).inParens
  | .mk _ _ _ false => .cons rfl .nil

lemma Decorator.tidy_chain : (ds : List Decorator) → Tidy (Decorator.facesChain ds)
  | [] => .nil
  | [d] => Decorator.tidy d
  | d :: e :: ds => (Decorator.tidy d).append (.cons rfl (Decorator.tidy_chain (e :: ds)))
end

lemma Program.tidy (p : Program) : Tidy (p.exprs.flatMap Expr.faces) := by
  induction p.exprs with
  | nil => exact .nil
  | cons e es ih => exact e.tidy.append ih

/-- Semicolons and commas are legal, too. -/
lemma Written.legal {ts : List Token} {fs : List Face} (h : Written ts fs)
    (hfs : ∀ f ∈ fs, f.kind ≠ .illegal) :
    ∀ t ∈ ts, t.kind ≠ .illegal := by
  induction h with
  | nil => exact fun _ ht => absurd ht List.not_mem_nil
  | @token t f ts fs ht hrest ih =>
    obtain ⟨hf, hfs⟩ := List.forall_mem_cons.1 hfs
    rw [← ht] at hf
    exact List.forall_mem_cons.2 ⟨hf, ih hfs⟩
  | @semicolon t ts fs ht hrest ih =>
    exact List.forall_mem_cons.2 ⟨by rw [ht]; exact Kind.noConfusion, ih hfs⟩
  | @comma t close ts fs ht hclose hrest ih =>
    exact List.forall_mem_cons.2 ⟨by rw [ht]; exact Kind.noConfusion, ih hfs⟩

/-! ### Passing the tokens of a text -/

namespace Token

/-- The tokens of a tiling stand after what comes before it. -/
lemma Tiles.le_offset {before rest : List Char} {ts : List Token} (h : Tiles before rest ts) :
    ∀ t ∈ ts, bytesOf before ≤ t.offset := by
  induction h with
  | blank => exact fun _ ht => absurd ht List.not_mem_nil
  | @token before gap rest t ts _ hplace _ _ _ ih =>
    have hgap : bytesOf before ≤ bytesOf (before ++ gap) := by
      rw [bytesOf_append]
      omega
    refine List.forall_mem_cons.2 ⟨?_, fun u hu => ?_⟩
    · rw [hplace.offset_eq]
      exact hgap
    · have hu := ih u hu
      rw [bytesOf_append] at hu
      omega

/-- Where the text of a token ends. -/
lemma StartsAfter.end_eq {t : Token} {before : List Char} (h : t.StartsAfter before) :
    t.offset + t.raw.utf8ByteSize = bytesOf (before ++ t.raw.toList) := by
  rw [h.offset_eq, bytesOf_append]
  simp [bytesOf]

/-- A tiled text is passed up to the brackets behind it, when in it and in front of them closing
pairs begin in strings only. -/
lemma Tiles.passes {before rest tail : List Char} {ts : List Token} (h : Tiles before rest ts)
    (hsound : ∀ t ∈ ts, t.face.Sound) (hkinds : ∀ t ∈ ts, t.kind ≠ .illegal ∧ t.kind ≠ .eof)
    (hclose : ∀ front back, rest ++ ['\x7d', '\x7d'] = front ++ '\x7d' :: '\x7d' :: back →
    back ≠ [] →
      ∃ t ∈ ts, t.kind = .string ∧ t.Covers (before ++ front)) :
    Region.Passes rest ('\x7d' :: '\x7d' :: tail) := by
  have hblanks : ∀ gap back : List Char, (∀ c ∈ gap, isGap c = true) → Region.Passes gap back := by
    intro gap back hgap
    refine Region.passes_plain (fun c hc => (isGap_no_quote (hgap c hc)).1) ?_
    rintro xs ys rfl
    exact absurd rfl (isGap_no_quote (hgap '\x7d' (by simp))).2
  induction h with
  | blank hrest => exact hblanks _ _ hrest
  | @token before gap rest t ts hgap hplace _ _ hrest ih =>
    obtain ⟨ht, hts⟩ := List.forall_mem_cons.1 hsound
    obtain ⟨hkind, hkinds⟩ := List.forall_mem_cons.1 hkinds
    have hend := hplace.end_eq
    have hlater : ∀ u ∈ ts, bytesOf (before ++ gap ++ t.raw.toList) ≤ u.offset := hrest.le_offset
    -- a later closing pair is not in this token
    have hrest' : Region.Passes rest ('\x7d' :: '\x7d' :: tail) := by
      refine ih hts hkinds fun front back hsplit hback => ?_
      obtain ⟨u, hu, hstring, hcovers⟩ := hclose (gap ++ t.raw.toList ++ front) back
        (by rw [List.append_assoc, hsplit, List.append_assoc (gap ++ t.raw.toList)]) hback
      have hplace' : before ++ (gap ++ t.raw.toList ++ front) = before ++ gap ++ t.raw.toList ++
          front := by
        simp only [List.append_assoc]
      rw [hplace'] at hcovers
      rcases List.mem_cons.1 hu with rfl | hu
      · have hpast := hcovers.2
        rw [hend, bytesOf_append (before ++ gap ++ u.raw.toList)] at hpast
        omega
      · exact ⟨u, hu, hstring, hcovers⟩
    have hraw : Region.Passes t.raw.toList (rest ++ '\x7d' :: '\x7d' :: tail) := by
      by_cases hstring : t.kind = .string
      · obtain ⟨q, xs, hq, hxs, hquoted⟩ := Face.Sound.string_eq ht hstring
        change t.raw.toList = q :: xs at hxs
        rw [hxs]
        exact Region.passes_string hq hquoted _
      · refine Region.passes_plain (Face.Sound.no_quote ht hstring hkind.1 hkind.2) ?_
        intro own ys hown hhead
        -- a closing pair that begins here would have to be in a string
        obtain ⟨zs, hzs, hne⟩ : ∃ zs, ys ++ (rest ++ ['\x7d', '\x7d']) = '\x7d' :: zs ∧
            zs ≠ [] := by
          cases hall : ys ++ rest with
          | nil =>
            rw [← List.append_assoc, hall]
            exact ⟨['\x7d'], rfl, List.cons_ne_nil _ _⟩
          | cons d ds =>
            rw [← List.append_assoc, hall] at hhead ⊢
            obtain rfl : d = '\x7d' := by simpa using hhead
            exact ⟨ds ++ ['\x7d', '\x7d'], rfl, by simp⟩
        obtain ⟨u, hu, hstring', hcovers⟩ := hclose (gap ++ own) zs
          (by rw [hown]; simp only [List.append_assoc, List.cons_append, hzs]) hne
        rcases List.mem_cons.1 hu with rfl | hu
        · exact hstring hstring'
        · have hpast := hcovers.1
          have hu := hlater u hu
          have hpos := Char.utf8Size_pos '\x7d'
          rw [← List.append_assoc] at hpast
          rw [hown, ← List.append_assoc, bytesOf_append, ← List.singleton_append,
            bytesOf_append ['\x7d'], bytesOf_singleton] at hu
          omega
    rw [List.append_assoc]
    refine (hblanks gap _ hgap).append ?_
    exact hraw.append hrest'

end Token

/-! ### Whole expressions -/

/-- The tokens of an accepted expression, in front of the end of input. -/
lemma Program.parse_sound {e : String} {p : Program} (hnul : '\x00' ∉ e.toList)
    (h : Program.parse e = .ok p) :
    ∃ ts last, Token.all e = ts ++ [last] ∧ last.kind = .eof ∧ Token.Tiles [] e.toList ts ∧
      Written ts (p.exprs.flatMap Expr.faces) ∧ (∀ t ∈ ts, t.face.Sound) ∧
      ∀ t ∈ ts, t.kind ≠ .illegal ∧ t.kind ≠ .eof := by
  obtain ⟨ts, last, hall, hkinds, heof, htiles, hwritten⟩ := parse_tokens hnul h
  exact ⟨ts, last, hall, heof, htiles, hwritten, fun t ht =>
    Token.sound_all (hall ▸ List.mem_append_left _ ht),
    fun t ht => ⟨hwritten.legal p.tidy.legal t ht, hkinds t ht⟩⟩

/-- An accepted expression without closing pairs outside its strings is passed up to its brackets.
-/
lemma Program.passes {e : String} {p : Program} (hnul : '\x00' ∉ e.toList)
    (h : Program.parse e = .ok p)
    (hinside : ∀ front back, e.toList = front ++ '\x7d' :: '\x7d' :: back →
      ∃ t ∈ Token.all e, t.kind = .string ∧ t.Covers front)
    (hlast : ∀ front, e.toList = front ++ ['\x7d'] →
      ∃ t ∈ Token.all e, t.kind = .string ∧ t.Covers front) (tail : List Char) :
    Region.Passes e.toList ('\x7d' :: '\x7d' :: tail) := by
  obtain ⟨ts, last, hall, heof, htiles, -, hsound, hkinds⟩ := parse_sound hnul h
  have hmem : ∀ front, (∃ t ∈ Token.all e, t.kind = .string ∧ t.Covers front) →
      ∃ t ∈ ts, t.kind = .string ∧ t.Covers front := by
    rintro front ⟨t, ht, hstring, hcovers⟩
    rw [hall, List.mem_append, List.mem_singleton] at ht
    rcases ht with ht | rfl
    · exact ⟨t, ht, hstring, hcovers⟩
    · rw [hstring] at heof
      cases heof
  refine htiles.passes hsound hkinds fun front back hsplit hback => ?_
  rw [List.nil_append]
  refine hmem front ?_
  rcases Token.append_eq_append_cons hsplit with ⟨more, he⟩ | ⟨more, rfl, hends⟩
  · cases more with
    | nil => exact hlast front he
    | cons c more =>
      rw [he] at hsplit
      obtain rfl : c = '\x7d' := by
        simp only [List.append_assoc, List.cons_append] at hsplit
        exact (List.cons.inj (List.cons.inj (List.append_cancel_left hsplit)).2).1
      exact hinside front more he
  · -- the pair is the brackets, and nothing stands behind them
    have hlength := congrArg List.length hends
    have hpos := List.length_pos_iff.2 hback
    simp only [List.length_append, List.length_cons, List.length_nil] at hlength
    omega

/-- **Regions and strings.** Take an accepted expression that is not blank, has no NUL, has closing
pairs in its string tokens only, and does not end in a closing brace outside them.  Between double
braces it is cut into one segment, which is that expression with its program; it is the inside of
the region, which ends at the last bracket; and masking replaces all of it by one placeholder. -/
theorem Segment.split_expression (o : Segment.Options) (e : String) (p : Program)
    (hallowed : o.allowed.expression = true) (hparse : o.parse = Program.parse)
    (hblank : Text.isBlankText e = false) (hnul : '\x00' ∉ e.toList)
    (hread : Program.parse e = .ok p)
    (hinside : ∀ front back, e.toList = front ++ '\x7d' :: '\x7d' :: back →
      ∃ t ∈ Token.all e, t.kind = .string ∧ t.Covers front)
    (hlast : ∀ front, e.toList = front ++ ['\x7d'] →
      ∃ t ∈ Token.all e, t.kind = .string ∧ t.Covers front) :
    Segment.split o ("\x7b\x7b" ++ e ++ "\x7d\x7d") = .ok [⟨o.keyStem ++ "0_", .expression e p⟩] ∧
      Region.expressionBody none false (e.toList ++ ['\x7d', '\x7d']) = some (e.toList, []) ∧
      Markup.mask ("\x7b\x7b" ++ e ++ "\x7d\x7d") =
        ⟨Markup.placeholder 0 ("\x7b\x7b" ++ e ++ "\x7d\x7d").toList,
          [("\x7b\x7b" ++ e ++ "\x7d\x7d").toList]⟩ := by
  have hbody : Region.body? .expression (e.toList ++ ['\x7d', '\x7d']) = some (e.toList, []) := by
    have hends := (Program.passes hnul hread hinside hlast []).body?_eq
    rwa [List.append_nil] at hends
  have htext : ("\x7b\x7b" ++ e ++ "\x7d\x7d").toList =
      '\x7b' :: '\x7b' :: (e.toList ++ ['\x7d', '\x7d']) := by
    simp [String.toList_append]
  have hopens : Region.opens? ('\x7b' :: '\x7b' :: (e.toList ++ ['\x7d', '\x7d'])) =
      some (.expression, e.toList ++ ['\x7d', '\x7d']) := rfl
  refine ⟨?_, hbody, ?_⟩
  · have hpieces : Region.split ("\x7b\x7b" ++ e ++ "\x7d\x7d").toList =
        [.closed .expression e.toList] := by
      simp only [Region.split, htext, List.length_cons, Region.pieces, hopens, hbody]
      rfl
    have hkey : o.keyStem ++ Nat.repr 0 ++ "_" = o.keyStem ++ "0_" := String.append_assoc
    simp only [Segment.split, hpieces, List.mapM_cons, List.mapM_nil, Segment.Content.ofPiece,
      Segment.Content.ofExpression, String.ofList_toList, hblank, hparse, hread]
    simp [bind, Except.bind, pure, Except.pure, List.forM, Segment.Content.check,
      Segment.Allowed.accepts,
      hallowed, Segment.settle, Segment.number, hkey]
  · simp only [Markup.mask, htext, List.length_cons, Markup.maskFrom, hopens, hbody]
    simp [Region.opening, Region.closing]

/-- What holds at every position of two characters holds at every cut in front of them. -/
lemma forall_cut {cs : List Char} {x y : Char} {P : List Char → Prop}
    (h : ∀ i < cs.length, cs[i]? = some x → cs[i + 1]? = some y → P (cs.take i)) :
    ∀ front back, cs = front ++ x :: y :: back → P front := by
  rintro front back rfl
  have hfront := h front.length (by simp) (by simp) (by simp)
  rwa [List.take_left] at hfront

/-- A string with an escaped quote and a closing pair in it, and a closing brace behind it that
begins none. -/
theorem Segment.split_expression_string : ∃ p,
    Program.parse "\x7ba: '\\'\x7d\x7d'\x7d.a" = .ok p ∧ p.text = "\x7ba: '\\'\x7d\x7d'\x7d.a" ∧
      Segment.split {} ("\x7b\x7b" ++ "\x7ba: '\\'\x7d\x7d'\x7d.a" ++ "\x7d\x7d") =
        .ok [⟨"0_", .expression "\x7ba: '\\'\x7d\x7d'\x7d.a" p⟩] ∧
      Region.expressionBody none false ("\x7ba: '\\'\x7d\x7d'\x7d.a".toList ++ ['\x7d', '\x7d']) =
        some ("\x7ba: '\\'\x7d\x7d'\x7d.a".toList, []) := by
  have hknown : (Program.parse "\x7ba: '\\'\x7d\x7d'\x7d.a").toOption.map Program.text =
      some "\x7ba: '\\'\x7d\x7d'\x7d.a" := by decide +kernel
  obtain ⟨p, hp, htext⟩ := eq_ok_of_toOption hknown
  have hlast : ∀ front, "\x7ba: '\\'\x7d\x7d'\x7d.a".toList = front ++ ['\x7d'] →
      ∃ t ∈ Token.all "\x7ba: '\\'\x7d\x7d'\x7d.a", t.kind = .string ∧ t.Covers front := by
    intro front h
    have hend := congrArg List.getLast? h
    rw [List.getLast?_concat] at hend
    exact absurd hend (by decide)
  obtain ⟨hsplit, hbody, -⟩ :=
    split_expression {} "\x7ba: '\\'\x7d\x7d'\x7d.a" p rfl rfl (by decide)
    (by decide) hp (forall_cut (by decide +kernel)) hlast
  exact ⟨p, hp, htext, hsplit, hbody⟩

end Trellis
