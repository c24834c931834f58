/-
The tokens that reading takes.

A successful run of the reader takes the tokens from the current one on, up to some point.
`Reading.Took` says that it takes exactly these, and that nothing behind the next token matters: the
same tokens are read in the same way in front of every text that starts with that token, as soon as
the bound is four for each token and a little more.

`Written` says what the tokens have to do with the tree: they are its tokens, one by one, but for
semicolons and for a comma in front of a closing brace.  Both are proved together for all functions
of the reader, in `Reading.Takes`, by induction on the bound.
-/
import Trellis.Proofs.Expr.Reread

namespace Trellis

open Trellis.Expr (Key Literal UnaryOp BinaryOp LogicalOp AssignOp UpdateOp)
open Token (Kind Face)
open Reading (Level)

/-! ### Tokens as they are written -/

namespace Token

/-- A token as it is written on the line of the token before it. -/
def flat (t : Token) : Face := ⟨t.kind, t.literal, t.raw, false⟩

/-- Whether every operator of a kind has the given text. -/
def Kind.HasText (k : Kind) (text : String) : Prop :=
  k.isAtom = Bool.false ∧ k ≠ .illegal ∧ k ≠ .eof ∧ ∀ m ∈ marks, m.1 = k → m.2 = text.toList

instance (k : Kind) (text : String) : Decidable (k.HasText text) :=
  inferInstanceAs (Decidable (_ ∧ _ ∧ _ ∧ _))

/-- A lexeme that is neither a word, a number or a string nor the end is one of the operators. -/
lemma Lexeme.mem_marks (cs : List Char) (hatom : (Lexeme.next cs).kind.isAtom = false)
    (hillegal : (Lexeme.next cs).kind ≠ .illegal) (heof : (Lexeme.next cs).kind ≠ .eof) :
    ((Lexeme.next cs).kind, (Lexeme.next cs).literal) ∈ marks ∧
      (Lexeme.next cs).literal = cs.take (Lexeme.next cs).size := by
  cases cs with
  | nil => exact absurd rfl heof
  | cons c cs =>
    cases hp : punctuation? (c :: cs) with
    | some r =>
      obtain ⟨kind, size⟩ := r
      rw [Lexeme.next_punctuation hp]
      exact ⟨(punctuation?_mem hp).1, rfl⟩
    | none =>
      -- all other lexemes are words, numbers and strings
      have hword : ∀ w, (Kind.ofWord w).isAtom = true := by
        intro w
        have := isWord_ofWord w
        revert this
        cases Kind.ofWord w <;> decide
      exfalso
      revert hatom hillegal heof
      simp only [Lexeme.next, hp]
      split_ifs <;> simp_all [Kind.isAtom]

/-- An operator is written as the text of its kind. -/
lemma flat_of_kind {t : Token} {k : Kind} {text : String} (h : t.face.Sound) (hk : t.kind = k)
    (htext : k.HasText text) : t.flat = .plain k text := by
  subst hk
  obtain ⟨hatom, hillegal, heof, hmarks⟩ := htext
  obtain ⟨rest, hrest⟩ := h
  change Lexeme.next (t.raw.toList ++ rest) = ⟨t.kind, t.literal.toList,
    t.raw.toList.length⟩ at hrest
  have hmem := Lexeme.mem_marks (t.raw.toList ++ rest)
  rw [hrest] at hmem
  obtain ⟨hmark, hraw⟩ := hmem hatom hillegal heof
  have hliteral : t.literal = text := String.toList_inj.1 (hmarks _ hmark rfl)
  have hraw' : t.raw = t.literal := by
    rw [List.take_left] at hraw
    exact (String.toList_inj.1 hraw).symm
  rw [flat, Face.plain, hraw', hliteral]

/-- Words and numbers are written as what they say. -/
lemma flat_of_atom {t : Token} {k : Kind} (h : t.face.Sound) (hk : t.kind = k)
    (hatom : k.isAtom = true) (hstring : k ≠ .string) : t.flat = .plain k t.literal := by
  subst hk
  have hraw : t.literal = t.raw := h.literal_eq hatom hstring
  rw [flat, Face.plain, ← hraw]

lemma flat_of_word {t : Token} (h : t.face.Sound) (hword : t.kind.isWord = true) :
    t.flat = .word t.literal := by
  have hkind : t.kind = Kind.ofWord t.literal := h.kind_eq hword
  refine flat_of_atom h hkind ?_ ?_ <;> rw [← hkind] <;> revert hword <;> cases t.kind <;> decide

/-- The words that are no identifiers, with their kinds. -/
def keywords : List (Kind × String) :=
  [(.true, "true"), (.false, "false"), (.null, "null"), (.this, "this"), (.typeof, "typeof")]

lemma flat_of_keyword {t : Token} {k : Kind} {text : String} (h : t.face.Sound) (hk : t.kind = k)
    (hkeyword : (k, text) ∈ keywords) : t.flat = .plain k text := by
  subst hk
  have hword : t.kind.isWord = true := by
    revert hkeyword
    cases t.kind <;> simp [keywords, Kind.isWord]
  have hkind : t.kind = Kind.ofWord t.literal := h.kind_eq hword
  have htext : t.literal = text := by
    rw [hkind] at hkeyword
    revert hkeyword
    unfold Kind.ofWord
    split_ifs <;> simp_all [keywords]
  rw [flat_of_word h hword, Face.word, ← hkind, htext]

lemma flat_of_string {t : Token} (hk : t.kind = .string) : t.flat = .string t.literal t.raw := by
  rw [flat, hk, Face.string]

end Token

lemma Expr.BinaryOp.hasText (op : BinaryOp) : op.kind.HasText op.text := by
  cases op <;> decide

lemma Expr.LogicalOp.hasText (op : LogicalOp) : op.kind.HasText op.text := by
  cases op <;> decide

lemma Expr.AssignOp.hasText (op : AssignOp) : op.kind.HasText op.text := by
  cases op <;> decide

lemma Expr.UpdateOp.hasText (op : UpdateOp) : op.kind.HasText op.text := by
  cases op <;> decide

/-- A unary operator is written as its text; `typeof` is a keyword. -/
lemma Expr.UnaryOp.flat_eq (op : UnaryOp) {t : Token} (h : t.face.Sound) (hk : t.kind = op.kind) :
    t.flat = .plain op.kind op.text := by
  cases op with
  | typeof =>
    exact Token.flat_of_keyword h hk (by simp [UnaryOp.kind, UnaryOp.text, Token.keywords])
  | not | neg | pos => exact Token.flat_of_kind h hk (by decide)

/-- Whether the tokens of a text are the tokens `fs` of a tree: each of them is the next one of the
tree, a semicolon, or a comma directly before a closing brace. -/
inductive Written : List Token → List Face → Prop where
  | nil : Written [] []
  | token {t : Token} {f : Face} {ts : List Token} {fs : List Face} (ht : t.flat = f)
    (hrest : Written ts fs) : Written (t :: ts) (f :: fs)
  | semicolon {t : Token} {ts : List Token} {fs : List Face} (ht : t.kind = .semicolon)
    (hrest : Written ts fs) : Written (t :: ts) fs
  | comma {t close : Token} {ts : List Token} {fs : List Face} (ht : t.kind = .comma)
    (hclose : close.kind = .rbrace) (hrest : Written (close :: ts) fs) :
    Written (t :: close :: ts) fs

namespace Written

lemma ne_nil {ts : List Token} {f : Face} {fs : List Face} (h : Written ts (f :: fs)) :
    ts ≠ [] := by
  rintro rfl
  cases h

lemma single {t : Token} {f : Face} (h : t.flat = f) : Written [t] [f] := .token h .nil

lemma append {us vs : List Token} {fs gs : List Face} (hu : Written us fs) (hv : Written vs gs) :
    Written (us ++ vs) (fs ++ gs) := by
  induction hu with
  | nil => exact hv
  | token ht _ ih => exact .token ht ih
  | semicolon ht _ ih => exact .semicolon ht ih
  | comma ht hclose _ ih => exact .comma ht hclose ih

end Written

/-! ### Feeds of a text -/

/-- Whether the tokens to be read are tokens of some text, closed by the end of input. -/
structure Feed.Real (f : Feed) : Prop where
  sound : f.Sound
  ends : (f.rest.getLastD f.current).kind = .eof

namespace Feed

variable {f f' : Feed}

lemma getLastD_append {α : Type} (us vs : List α) (c : α) :
    (us ++ vs).getLastD c = vs.getLastD (us.getLastD c) := by
  induction us generalizing c with
  | nil => rfl
  | cons u us ih => rw [List.cons_append, List.getLastD_cons, List.getLastD_cons, ih]

lemma Real.current (h : f.Real) : f.current.face.Sound := h.sound.current

lemma Real.next (h : f.Real) : f.next.Real := by
  refine ⟨h.sound.next, ?_⟩
  obtain ⟨c, rest⟩ := f
  cases rest with
  | nil => exact h.ends
  | cons t ts => simpa only [List.getLastD_cons, Feed.next_cons] using h.ends

/-- Before the end of input and behind every other token there is one more token. -/
lemma Real.rest_eq (h : f.Real) (hopen : f.current.kind ≠ .eof ∨ f.peek.kind ≠ .eof) :
    f.rest = f.peek :: f.next.rest := by
  obtain ⟨c, rest⟩ := f
  cases rest with
  | nil => exact absurd h.ends (or_self_iff.1 hopen)
  | cons t ts => rfl

/-- Whether a feed comes from another one by taking tokens. -/
structure Moves (f : Feed) (us : List Token) (f' : Feed) : Prop where
  rest_eq : f.rest = us ++ f'.rest
  current_eq : f'.current = us.getLastD f.current

lemma Moves.real {us : List Token} (h : f.Moves us f') (hf : f.Real) : f'.Real := by
  have hends := hf.ends
  rw [h.rest_eq, getLastD_append, ← h.current_eq] at hends
  refine ⟨fun t ht => hf.sound t ?_, hends⟩
  rw [h.rest_eq]
  rcases List.mem_cons.1 ht with rfl | ht
  · have hmem : us.getLastD f.current ∈ f.current :: us := List.getLastD_mem_cons
    rw [← h.current_eq] at hmem
    exact List.mem_append_left f'.rest hmem
  · exact List.mem_cons_of_mem _ (List.mem_append_right _ ht)

end Feed

/-! ### Runs -/

namespace Reading

variable {α β : Type} {f f₁ f' : Feed} {us vs : List Token} {k j : Nat}

/-- Whether a reader takes the tokens `us` on its way from `f` to `f'`, and gives `a`.  It does so
in front of every text that starts with the next token of `f'`, with every bound that allows four
for each token and `k`. -/
structure Took (read : Nat → Reading α) (k : Nat) (f : Feed) (us : List Token) (f' : Feed) (a : α) :
    Prop extends f.Moves us f' where
  rerun : ∀ m s, 4 * us.length + k ≤ m → s.head? = f'.rest.head? →
    (read m).run ⟨f.current, us ++ s⟩ = .ok (a, ⟨f'.current, s⟩)

namespace Took

variable {read : Nat → Reading α} {g : Nat → α → Reading β} {a : α} {b : β}

lemma pure (a : α) : Took (fun _ => Pure.pure a) k f [] f a where
  rest_eq := rfl
  current_eq := rfl
  rerun _ _ _ _ := rfl

lemma weaken (h : Took read k f us f' a) (hk : k ≤ j) : Took read j f us f' a where
  toMoves := h.toMoves
  rerun m s hm hs := h.rerun m s (by omega) hs

/-- One call uses up one of the bound. -/
lemma succ (h : Took (fun m => read (m + 1)) k f us f' a) : Took read (k + 1) f us f' a where
  toMoves := h.toMoves
  rerun m s hm hs := by
    obtain ⟨m, rfl⟩ : ∃ m', m = m' + 1 := ⟨m - 1, by omega⟩
    exact h.rerun m s (by omega) hs

/-- Each of two parts may count the tokens of the other one. -/
lemma bind (h : Took read (k + 4 * vs.length) f us f₁ a)
    (hg : Took (fun m => g m a) (k + 4 * us.length) f₁ vs f' b) :
    Took (fun m => read m >>= g m) k f (us ++ vs) f' b where
  rest_eq := by rw [h.rest_eq, hg.rest_eq, List.append_assoc]
  current_eq := by rw [hg.current_eq, h.current_eq, Feed.getLastD_append]
  rerun m s hm hs := by
    rw [List.length_append] at hm
    -- what follows the first part starts like what followed it before
    have hhead : (vs ++ s).head? = f₁.rest.head? := by
      rw [hg.rest_eq, List.head?_append, List.head?_append, hs]
    have hfirst := h.rerun m (vs ++ s) (by omega) hhead
    rw [List.append_assoc, run_bind_eq hfirst]
    exact hg.rerun m s (by omega) hs

/-- A part after which nothing is taken any more. -/
lemma last (h : Took read k f us f' a) (hg : Took (fun m => g m a) k f' [] f' b) :
    Took (fun m => read m >>= g m) k f us f' b := by
  rw [← List.append_nil us]
  exact bind h (hg.weaken (Nat.le_add_right _ _))

/-- Looking takes nothing. -/
lemma look {x : Reading α} (hx : ∀ us s, s.head? = f'.rest.head? → f.rest = us ++ f'.rest →
      x.run ⟨f.current, us ++ s⟩ = .ok (a, ⟨f.current, us ++ s⟩))
    (h : Took (fun m => g m a) k f us f' b) : Took (fun m => x >>= g m) k f us f' b where
  toMoves := h.toMoves
  rerun m s hm hs := by
    rw [run_bind_eq (hx us s hs h.rest_eq)]
    exact h.rerun m s hm hs

lemma current {g : Nat → Token → Reading β} (h : Took (fun m => g m f.current) k f us f' b) :
    Took (fun m => current >>= g m) k f us f' b :=
  look (fun _ _ _ _ => rfl) h

lemma peek {g : Nat → Token → Reading β} (h : Took (fun m => g m f.peek) k f us f' b) :
    Took (fun m => Reading.peek >>= g m) k f us f' b := by
  refine look (fun us s hs hrest => ?_) h
  rw [run_peek, Feed.peek, Feed.peek, hrest, List.head?_append, List.head?_append, hs]

lemma spanOf {t : Token} {g : Nat → Span → Reading β}
    (h : Took (fun m => g m (f.spanFrom t.line t.column)) k f us f' b) :
    Took (fun m => Reading.spanOf t >>= g m) k f us f' b :=
  look (fun _ _ _ _ => rfl) h

lemma spanFrom {line column : Nat} {g : Nat → Span → Reading β}
    (h : Took (fun m => g m (f.spanFrom line column)) k f us f' b) :
    Took (fun m => Reading.spanFrom line column >>= g m) k f us f' b :=
  look (fun _ _ _ _ => rfl) h

lemma spanAfter {e : Expr} {g : Nat → Span → Reading β}
    (h : Took (fun m => g m (f.spanFrom e.span.startLine e.span.startColumn)) k f us f' b) :
    Took (fun m => Reading.spanAfter e >>= g m) k f us f' b :=
  look (fun _ _ _ _ => rfl) h

/-- Moving on takes the next token. -/
lemma advance {g : Nat → Unit → Reading β} (hrest : f.rest = f.peek :: f.next.rest)
    (h : Took (fun m => g m ()) (k + 4) f.next us f' b) :
    Took (fun m => Reading.advance >>= g m) k f (f.peek :: us) f' b where
  rest_eq := by rw [hrest, h.rest_eq, List.cons_append]
  current_eq := by rw [h.current_eq, Feed.next_current, List.getLastD_cons]
  rerun m s hm hs := by
    have hnext := h.rerun m s (by rw [List.length_cons] at hm; omega) hs
    rw [Feed.next_current] at hnext
    rw [run_bind_eq run_advance, List.cons_append, Feed.next_cons]
    exact hnext

lemma expect {kind : Kind} {what : String} {g : Nat → Unit → Reading β}
    (hkind : f.peek.kind = kind) (hrest : f.rest = f.peek :: f.next.rest)
    (h : Took (fun m => g m ()) (k + 4) f.next us f' b) :
    Took (fun m => Reading.expect kind what >>= g m) k f (f.peek :: us) f' b where
  toMoves := (advance hrest h).toMoves
  rerun m s hm hs := by
    have hnext := h.rerun m s (by rw [List.length_cons] at hm; omega) hs
    rw [Feed.next_current] at hnext
    rw [List.cons_append, run_bind_eq (run_expect hkind)]
    exact hnext

end Took

/-- What each function of the reader, bounded by `n`, takes when it succeeds. -/
structure Takes (n : Nat) : Prop where
  expr : ∀ {level f e f'}, (expr n level).run f = .ok (e, f') → f.Real →
    ∃ us, Took (fun m => expr m level) 4 f us f' e ∧ f'.current.kind ≠ .eof ∧
      Written (f.current :: us) e.faces
  operators : ∀ {level left f e f'}, (operators n level left).run f = .ok (e, f') → f.Real →
    f.current.kind ≠ .eof →
    ∃ us fs, Took (fun m => operators m level left) 3 f us f' e ∧ f'.current.kind ≠ .eof ∧
      Written us fs ∧ e.faces = left.faces ++ fs
  operand : ∀ {f e f'}, (operand n).run f = .ok (e, f') → f.Real →
    ∃ us, Took operand 3 f us f' e ∧ f'.current.kind ≠ .eof ∧ Written (f.current :: us) e.faces
  unary : ∀ {t op f e f'}, (unary n t op).run f = .ok (e, f') → f.Real →
    f.current.kind = op.kind →
    ∃ us, Took (fun m => unary m t op) 1 f us f' e ∧ f'.current.kind ≠ .eof ∧
      Written (f.current :: us) e.faces
  updateBefore : ∀ {t op f e f'}, (updateBefore n t op).run f = .ok (e, f') → f.Real →
    f.current.kind = op.kind →
    ∃ us, Took (fun m => updateBefore m t op) 1 f us f' e ∧ f'.current.kind ≠ .eof ∧
      Written (f.current :: us) e.faces
  extend : ∀ {left f e f'}, (extend n left).run f = .ok (e, f') → f.Real →
    ∃ us fs, Took (fun m => extend m left) 3 f us f' e ∧ f'.current.kind ≠ .eof ∧
      Written (f.current :: us) fs ∧ e.faces = left.faces ++ fs
  logical : ∀ {t op left f e f'}, (logical n t op left).run f = .ok (e, f') → f.Real →
    f.current.kind = op.kind →
    ∃ us fs, Took (fun m => logical m t op left) 1 f us f' e ∧ f'.current.kind ≠ .eof ∧
      Written (f.current :: us) fs ∧ e.faces = left.faces ++ fs
  assignment : ∀ {t op target f e f'}, (assignment n t op target).run f = .ok (e, f') → f.Real →
    f.current.kind = op.kind →
    ∃ us fs, Took (fun m => assignment m t op target) 1 f us f' e ∧ f'.current.kind ≠ .eof ∧
      Written (f.current :: us) fs ∧ e.faces = target.faces ++ fs
  chain : ∀ {f ds f'}, (chain n).run f = .ok (ds, f') → f.Real → f.current.kind ≠ .eof →
    ∃ us, Took chain 1 f us f' ds ∧ f'.current.kind ≠ .eof ∧ Written us (Decorator.facesChain ds)
  list : ∀ {close what f es f'}, (list n close what).run f = .ok (es, f') → f.Real →
    f.current.kind ≠ .eof →
    ∃ us, Took (fun m => list m close what) 2 f (us ++ [f'.current]) f' es ∧
      f'.current.kind = close ∧ Written us (Expr.facesList es)
  items : ∀ {f es f'}, (items n).run f = .ok (es, f') → f.Real → f.current.kind ≠ .eof →
    ∃ us, Took items 1 f us f' es ∧ f'.current.kind ≠ .eof ∧ Written us (Expr.facesList es)
  properties : ∀ {f ps f'}, (properties n).run f = .ok (ps, f') → f.Real → f.current.kind ≠ .eof →
    ∃ us, Took properties 1 f us f' ps ∧ f'.current.kind ≠ .eof ∧
      Written us (Property.facesList ps ++ [Face.plain .rbrace "\x7d"]) ∧
      (ps = [] ↔ f.peek.kind = .rbrace)

variable {n : Nat} {e : Expr}

lemma takes_zero : Takes 0 where
  expr h := absurd h (run_exhausted _)
  operators h := absurd h (run_exhausted _)
  operand h := absurd h (run_exhausted _)
  unary h := absurd h (run_exhausted _)
  updateBefore h := absurd h (run_exhausted _)
  extend h := absurd h (run_exhausted _)
  logical h := absurd h (run_exhausted _)
  assignment h := absurd h (run_exhausted _)
  chain h := absurd h (run_exhausted _)
  list h := absurd h (run_exhausted _)
  items h := absurd h (run_exhausted _)
  properties h := absurd h (run_exhausted _)

lemma takes_expr (ih : Takes n) {level : Level} (h : (expr (n + 1) level).run f = .ok (e, f'))
    (hf : f.Real) :
    ∃ us, Took (fun m => expr m level) 4 f us f' e ∧ f'.current.kind ≠ .eof ∧
      Written (f.current :: us) e.faces := by
  simp only [expr, run_bind_iff] at h
  obtain ⟨left, f₁, hleft, hops⟩ := h
  obtain ⟨us, htook, hopen, hwritten⟩ := ih.operand hleft hf
  obtain ⟨vs, fs, htook', hopen', hwritten', hfaces⟩ :=
    ih.operators hops (htook.real hf) hopen
  refine ⟨us ++ vs, .succ ?_, hopen', ?_⟩
  · simp only [expr]
    exact .bind (htook.weaken (by omega)) (htook'.weaken (by omega))
  · rw [hfaces]
    exact hwritten.append hwritten'

lemma takes_operators (ih : Takes n) {level : Level} {left : Expr}
    (h : (operators (n + 1) level left).run f = .ok (e, f')) (hf : f.Real)
    (hopen : f.current.kind ≠ .eof) :
    ∃ us fs, Took (fun m => operators m level left) 3 f us f' e ∧ f'.current.kind ≠ .eof ∧
      Written us fs ∧ e.faces = left.faces ++ fs := by
  simp only [operators] at h
  rw [run_bind_eq run_peek] at h
  split at h
  · next hc =>
    rw [run_bind_eq run_advance, run_bind_iff] at h
    obtain ⟨e₁, f₁, hext, hops⟩ := h
    obtain ⟨us, fs, htook, hopen₁, hwritten, hfaces⟩ := ih.extend hext hf.next
    obtain ⟨vs, gs, htook', hopen', hwritten', hfaces'⟩ :=
      ih.operators hops (htook.real hf.next) hopen₁
    refine ⟨f.peek :: (us ++ vs), fs ++ gs, .succ ?_, hopen', ?_, ?_⟩
    · simp only [operators]
      refine .peek ?_
      simp only [if_pos hc]
      exact .advance (hf.rest_eq (.inl hopen))
        (.bind (htook.weaken (by omega)) (htook'.weaken (by omega)))
    · rw [Feed.next_current] at hwritten
      exact hwritten.append hwritten'
    · rw [hfaces', hfaces, List.append_assoc]
  · next hc =>
    obtain ⟨rfl, rfl⟩ := run_pure_iff.1 h
    refine ⟨[], [], .succ ?_, hopen, .nil, (List.append_nil _).symm⟩
    simp only [operators]
    refine .peek ?_
    simp only [if_neg hc]
    exact .pure _

lemma takes_operand (ih : Takes n) (h : (operand (n + 1)).run f = .ok (e, f')) (hf : f.Real) :
    ∃ us, Took operand 3 f us f' e ∧ f'.current.kind ≠ .eof ∧
      Written (f.current :: us) e.faces := by
  simp only [operand] at h
  rw [run_bind_eq run_current] at h
  split at h
  case h_1 hk =>
    rw [run_bind_eq (run_spanOf _), run_pure_iff] at h
    obtain ⟨rfl, rfl⟩ := h
    refine ⟨[], .succ ?_, by simp [hk],
      .single (Token.flat_of_atom hf.current hk rfl (by decide))⟩
    simp only [operand]
    refine .current ?_
    simp only [hk]
    exact .spanOf (.pure _)
  case h_2 hk =>
    rw [run_bind_eq (run_spanOf _), run_bind_iff] at h
    obtain ⟨raw, f₁, hnumber, hpure⟩ := h
    obtain ⟨hfinite, rfl, rfl⟩ := run_number_iff.1 hnumber
    obtain ⟨rfl, rfl⟩ := run_pure_iff.1 hpure
    refine ⟨[], .succ ?_, by simp [hk],
      .single (Token.flat_of_atom hf.current hk rfl (by decide))⟩
    simp only [operand]
    refine .current ?_
    simp only [hk]
    exact .spanOf (.look (fun _ _ _ _ => run_number_iff.2 ⟨hfinite, rfl, rfl⟩) (.pure _))
  case h_3 hk =>
    rw [run_bind_eq (run_spanOf _), run_pure_iff] at h
    obtain ⟨rfl, rfl⟩ := h
    refine ⟨[], .succ ?_, by simp [hk], .single (Token.flat_of_string hk)⟩
    simp only [operand]
    refine .current ?_
    simp only [hk]
    exact .spanOf (.pure _)
  case h_4 hk | h_5 hk | h_6 hk | h_7 hk =>
    rw [run_bind_eq (run_spanOf _), run_pure_iff] at h
    obtain ⟨rfl, rfl⟩ := h
    refine ⟨[], .succ ?_, by simp [hk],
      .single (Token.flat_of_keyword hf.current hk (by simp [Token.keywords]))⟩
    simp only [operand]
    refine .current ?_
    simp only [hk]
    exact .spanOf (.pure _)
  case h_8 hk | h_9 hk | h_10 hk | h_11 hk =>
    obtain ⟨us, htook, hopen, hwritten⟩ := ih.unary h hf hk
    refine ⟨us, .succ ?_, hopen, hwritten⟩
    simp only [operand]
    refine .current ?_
    simp only [hk]
    exact htook.weaken (by decide)
  case h_12 hk | h_13 hk =>
    obtain ⟨us, htook, hopen, hwritten⟩ := ih.updateBefore h hf hk
    refine ⟨us, .succ ?_, hopen, hwritten⟩
    simp only [operand]
    refine .current ?_
    simp only [hk]
    exact htook.weaken (by decide)
  case h_14 hk =>
    rw [run_bind_eq run_advance, run_bind_iff] at h
    obtain ⟨inner, f₁, hinner, h⟩ := h
    obtain ⟨us, htook, hopen, hwritten⟩ := ih.expr hinner hf.next
    have hf₁ : f₁.Real := htook.real hf.next
    obtain ⟨hclose, h⟩ := run_bind_expect_iff.1 h
    rw [run_bind_eq (run_spanOf _), run_pure_iff] at h
    obtain ⟨rfl, rfl⟩ := h
    have hclose' : f₁.next.current.kind = .rparen := by rw [Feed.next_current, hclose]
    refine ⟨f.peek :: (us ++ [f₁.peek]), .succ ?_, by simp [hclose'], ?_⟩
    · simp only [operand]
      refine .current ?_
      simp only [hk]
      exact .advance (hf.rest_eq (.inl (by simp [hk]))) (.bind (htook.weaken (by omega))
        (.expect hclose (hf₁.rest_eq (.inl hopen)) (.spanOf (.pure _))))
    · rw [← Feed.next_current, ← Feed.next_current]
      exact .token (Token.flat_of_kind hf.current hk (by decide))
        (hwritten.append (.single (Token.flat_of_kind hf₁.next.current hclose' (by decide))))
  case h_15 hk =>
    rw [run_bind_iff] at h
    obtain ⟨elements, f₁, hlist, h⟩ := h
    obtain ⟨us, htook, hclose, hwritten⟩ := ih.list hlist hf (by simp [hk])
    rw [run_bind_eq (run_spanOf _), run_pure_iff] at h
    obtain ⟨rfl, rfl⟩ := h
    have hf₁ : f₁.Real := htook.real hf
    refine ⟨us ++ [f₁.current], .succ ?_, by simp [hclose], ?_⟩
    · simp only [operand]
      refine .current ?_
      simp only [hk]
      exact .last htook (.spanOf (.pure _))
    · exact .token (Token.flat_of_kind hf.current hk (by decide))
        (hwritten.append (.single (Token.flat_of_kind hf₁.current hclose (by decide))))
  case h_16 hk =>
    rw [run_bind_iff] at h
    obtain ⟨ps, f₁, hps, h⟩ := h
    obtain ⟨us, htook, hopen, hwritten, -⟩ := ih.properties hps hf (by simp [hk])
    rw [run_bind_eq (run_spanOf _), run_pure_iff] at h
    obtain ⟨rfl, rfl⟩ := h
    refine ⟨us, .succ ?_, hopen, ?_⟩
    · simp only [operand]
      refine .current ?_
      simp only [hk]
      exact .last (htook.weaken (by decide)) (.spanOf (.pure _))
    · exact .token (Token.flat_of_kind hf.current hk (by decide)) hwritten
  case h_17 => exact absurd h (run_noOperand _ _)

lemma takes_unary (ih : Takes n) {t : Token} {op : UnaryOp}
    (h : (unary (n + 1) t op).run f = .ok (e, f')) (hf : f.Real) (hk : f.current.kind = op.kind) :
    ∃ us, Took (fun m => unary m t op) 1 f us f' e ∧ f'.current.kind ≠ .eof ∧
      Written (f.current :: us) e.faces := by
  simp only [unary] at h
  rw [run_bind_eq run_advance, run_bind_iff] at h
  obtain ⟨argument, f₁, hargument, h⟩ := h
  obtain ⟨us, htook, hopen, hwritten⟩ := ih.expr hargument hf.next
  rw [run_bind_eq (run_spanOf _), run_pure_iff] at h
  obtain ⟨rfl, rfl⟩ := h
  have hne : f.current.kind ≠ .eof := by
    rw [hk]
    cases op <;> decide
  refine ⟨f.peek :: us, .succ ?_, hopen, ?_⟩
  · simp only [unary]
    exact .advance (hf.rest_eq (.inl hne)) (.last htook (.spanOf (.pure _)))
  · rw [← Feed.next_current]
    exact .token (op.flat_eq hf.current hk) hwritten

lemma takes_updateBefore (ih : Takes n) {t : Token} {op : UpdateOp}
    (h : (updateBefore (n + 1) t op).run f = .ok (e, f')) (hf : f.Real)
    (hk : f.current.kind = op.kind) :
    ∃ us, Took (fun m => updateBefore m t op) 1 f us f' e ∧ f'.current.kind ≠ .eof ∧
      Written (f.current :: us) e.faces := by
  simp only [updateBefore] at h
  rw [run_bind_eq run_advance, run_bind_iff] at h
  obtain ⟨target, f₁, htarget, h⟩ := h
  obtain ⟨us, htook, hopen, hwritten⟩ := ih.expr htarget hf.next
  rw [run_bind_iff] at h
  obtain ⟨_, f₂, hcheck, h⟩ := h
  obtain ⟨hassignable, rfl⟩ := run_assignable_iff.1 hcheck
  rw [run_bind_eq (run_spanOf _), run_pure_iff] at h
  obtain ⟨rfl, rfl⟩ := h
  have hne : f.current.kind ≠ .eof := by
    rw [hk]
    cases op <;> decide
  refine ⟨f.peek :: us, .succ ?_, hopen, ?_⟩
  · simp only [updateBefore]
    exact .advance (hf.rest_eq (.inl hne)) (.last htook
      (.look (fun _ _ _ _ => run_assignable_iff.2 ⟨hassignable, rfl⟩) (.spanOf (.pure _))))
  · rw [← Feed.next_current]
    exact .token (Token.flat_of_kind hf.current hk op.hasText) hwritten

lemma takes_logical (ih : Takes n) {t : Token} {op : LogicalOp} {left : Expr}
    (h : (logical (n + 1) t op left).run f = .ok (e, f')) (hf : f.Real)
    (hk : f.current.kind = op.kind) :
    ∃ us fs, Took (fun m => logical m t op left) 1 f us f' e ∧ f'.current.kind ≠ .eof ∧
      Written (f.current :: us) fs ∧ e.faces = left.faces ++ fs := by
  simp only [logical] at h
  rw [run_bind_eq run_advance, run_bind_iff] at h
  obtain ⟨right, f₁, hright, h⟩ := h
  obtain ⟨us, htook, hopen, hwritten⟩ := ih.expr hright hf.next
  rw [run_bind_eq (run_spanAfter _), run_pure_iff] at h
  obtain ⟨rfl, rfl⟩ := h
  have hne : f.current.kind ≠ .eof := by
    rw [hk]
    cases op <;> decide
  refine ⟨f.peek :: us, .plain op.kind op.text :: right.faces, .succ ?_, hopen, ?_, rfl⟩
  · simp only [logical]
    exact .advance (hf.rest_eq (.inl hne)) (.last htook (.spanAfter (.pure _)))
  · rw [← Feed.next_current]
    exact .token (Token.flat_of_kind hf.current hk op.hasText) hwritten

lemma takes_assignment (ih : Takes n) {t : Token} {op : AssignOp} {target : Expr}
    (h : (assignment (n + 1) t op target).run f = .ok (e, f')) (hf : f.Real)
    (hk : f.current.kind = op.kind) :
    ∃ us fs, Took (fun m => assignment m t op target) 1 f us f' e ∧ f'.current.kind ≠ .eof ∧
      Written (f.current :: us) fs ∧ e.faces = target.faces ++ fs := by
  simp only [assignment] at h
  rw [run_bind_iff] at h
  obtain ⟨_, f₁, hcheck, h⟩ := h
  obtain ⟨hassignable, rfl⟩ := run_assignable_iff.1 hcheck
  rw [run_bind_eq run_advance, run_bind_iff] at h
  obtain ⟨value, f₂, hvalue, h⟩ := h
  obtain ⟨us, htook, hopen, hwritten⟩ := ih.expr hvalue hf.next
  rw [run_bind_eq (run_spanAfter _), run_pure_iff] at h
  obtain ⟨rfl, rfl⟩ := h
  have hne : f₁.current.kind ≠ .eof := by
    rw [hk]
    cases op <;> decide
  refine ⟨f₁.peek :: us, .plain op.kind op.text :: value.faces, .succ ?_, hopen, ?_, rfl⟩
  · simp only [assignment]
    refine .look (fun _ _ _ _ => run_assignable_iff.2 ⟨hassignable, rfl⟩) ?_
    exact .advance (hf.rest_eq (.inl hne)) (.last htook (.spanAfter (.pure _)))
  · rw [← Feed.next_current]
    exact .token (Token.flat_of_kind hf.current hk op.hasText) hwritten

lemma takes_extend (ih : Takes n) {left : Expr} (h : (extend (n + 1) left).run f = .ok (e, f'))
    (hf : f.Real) :
    ∃ us fs, Took (fun m => extend m left) 3 f us f' e ∧ f'.current.kind ≠ .eof ∧
      Written (f.current :: us) fs ∧ e.faces = left.faces ++ fs := by
  simp only [extend] at h
  rw [run_bind_eq run_current] at h
  split at h
  case h_1 hk | h_2 hk =>
    obtain ⟨us, fs, htook, hopen, hwritten, hfaces⟩ := ih.logical h hf hk
    refine ⟨us, fs, .succ ?_, hopen, hwritten, hfaces⟩
    simp only [extend]
    refine .current ?_
    simp only [hk]
    exact htook.weaken (by decide)
  case h_3 hk =>
    rw [run_bind_eq run_advance, run_bind_iff] at h
    obtain ⟨consequent, f₁, hconsequent, h⟩ := h
    obtain ⟨us, htook, hopen, hwritten⟩ := ih.expr hconsequent hf.next
    have hf₁ : f₁.Real := htook.real hf.next
    obtain ⟨hcolon, h⟩ := run_bind_expect_iff.1 h
    have hcolon' : f₁.next.current.kind = .colon := by rw [Feed.next_current, hcolon]
    rw [run_bind_eq run_advance, run_bind_iff] at h
    obtain ⟨alternate, f₃, halternate, h⟩ := h
    obtain ⟨vs, htook', hopen', hwritten'⟩ := ih.expr halternate hf₁.next.next
    rw [run_bind_eq (run_spanAfter _), run_pure_iff] at h
    obtain ⟨rfl, rfl⟩ := h
    refine ⟨f.peek :: (us ++ f₁.peek :: f₁.next.peek :: vs),
      .plain .question "?" :: (consequent.faces ++ .plain .colon ":" :: alternate.faces),
      .succ ?_, hopen', ?_, rfl⟩
    · simp only [extend]
      refine .current ?_
      simp only [hk]
      refine .advance (hf.rest_eq (.inl (by simp [hk]))) (.bind (htook.weaken (by omega)) ?_)
      refine .expect hcolon (hf₁.rest_eq (.inl hopen)) ?_
      exact .advance (hf₁.next.rest_eq (.inl (by simp [hcolon'])))
        (.last (htook'.weaken (by omega)) (.spanAfter (.pure _)))
    · rw [← Feed.next_current f, ← Feed.next_current f₁, ← Feed.next_current f₁.next]
      exact .token (Token.flat_of_kind hf.current hk (by decide)) (hwritten.append
        (.token (Token.flat_of_kind hf₁.next.current hcolon' (by decide)) hwritten'))
  case h_4 hk =>
    rw [run_bind_iff] at h
    obtain ⟨ds, f₁, hchain, h⟩ := h
    obtain ⟨us, htook, hopen, hwritten⟩ := ih.chain hchain hf (by simp [hk])
    have hflat : f.current.flat = .plain .pipe "|" :=
      Token.flat_of_kind hf.current hk (by decide)
    cases ds with
    | nil =>
      simp only at h
      rw [run_bind_eq (run_spanOf _), run_bind_eq (run_spanAfter _), run_pure_iff] at h
      obtain ⟨rfl, rfl⟩ := h
      refine ⟨us, _, .succ ?_, hopen, .token hflat hwritten, rfl⟩
      simp only [extend]
      refine .current ?_
      simp only [hk]
      exact .last (htook.weaken (by decide)) (.spanOf (.spanAfter (.pure _)))
    | cons d ds =>
      simp only at h
      rw [run_bind_eq (run_spanFrom _ _), run_bind_eq (run_spanAfter _), run_pure_iff] at h
      obtain ⟨rfl, rfl⟩ := h
      refine ⟨us, _, .succ ?_, hopen, .token hflat hwritten, rfl⟩
      simp only [extend]
      refine .current ?_
      simp only [hk]
      exact .last (htook.weaken (by decide)) (.spanFrom (.spanAfter (.pure _)))
  case h_5 hk =>
    rw [sequence_eq_items, run_bind_iff] at h
    obtain ⟨es, f₁, hes, h⟩ := h
    obtain ⟨us, htook, hopen, hwritten⟩ := ih.items hes hf (by simp [hk])
    rw [run_bind_eq (run_spanAfter _), run_pure_iff] at h
    obtain ⟨rfl, rfl⟩ := h
    have hfaces : Expr.facesList (left :: es) =
        left.faces ++ .plain .comma "," :: Expr.facesList es := by
      rw [← sequence_eq_items] at hes
      obtain ⟨hne, -⟩ := (keeps n).sequence hes hf.sound
      obtain ⟨first, es, rfl⟩ := List.exists_cons_of_ne_nil hne
      rfl
    refine ⟨us, _, .succ ?_, hopen,
      .token (Token.flat_of_kind hf.current hk (by decide)) hwritten, hfaces⟩
    simp only [extend]
    refine .current ?_
    simp only [hk, sequence_eq_items]
    exact .last (htook.weaken (by decide)) (.spanAfter (.pure _))
  case h_6 hk | h_7 hk | h_8 hk =>
    obtain ⟨us, fs, htook, hopen, hwritten, hfaces⟩ := ih.assignment h hf hk
    refine ⟨us, fs, .succ ?_, hopen, hwritten, hfaces⟩
    simp only [extend]
    refine .current ?_
    simp only [hk]
    exact htook.weaken (by decide)
  case h_9 hk | h_10 hk =>
    rw [run_bind_iff] at h
    obtain ⟨_, f₁, hcheck, h⟩ := h
    obtain ⟨hassignable, rfl⟩ := run_assignable_iff.1 hcheck
    rw [run_bind_eq (run_spanAfter _), run_pure_iff] at h
    obtain ⟨rfl, rfl⟩ := h
    refine ⟨[], _, .succ ?_, by simp [hk],
      .single (Token.flat_of_kind hf.current hk (by decide)), rfl⟩
    simp only [extend]
    refine .current ?_
    simp only [hk]
    exact .look (fun _ _ _ _ => run_assignable_iff.2 ⟨hassignable, rfl⟩) (.spanAfter (.pure _))
  case h_11 hk =>
    rw [run_bind_iff] at h
    obtain ⟨arguments, f₁, hlist, h⟩ := h
    obtain ⟨us, htook, hclose, hwritten⟩ := ih.list hlist hf (by simp [hk])
    have hf₁ : f₁.Real := htook.real hf
    rw [run_bind_eq (run_spanAfter _), run_pure_iff] at h
    obtain ⟨rfl, rfl⟩ := h
    refine ⟨us ++ [f₁.current], _, .succ ?_, by simp [hclose], ?_, rfl⟩
    · simp only [extend]
      refine .current ?_
      simp only [hk]
      exact .last htook (.spanAfter (.pure _))
    · exact .token (Token.flat_of_kind hf.current hk (by decide))
        (hwritten.append (.single (Token.flat_of_kind hf₁.current hclose (by decide))))
  case h_12 hk =>
    rw [run_bind_eq run_advance, run_bind_iff] at h
    obtain ⟨index, f₁, hindex, h⟩ := h
    obtain ⟨us, htook, hopen, hwritten⟩ := ih.expr hindex hf.next
    have hf₁ : f₁.Real := htook.real hf.next
    obtain ⟨hclose, h⟩ := run_bind_expect_iff.1 h
    have hclose' : f₁.next.current.kind = .rbracket := by rw [Feed.next_current, hclose]
    rw [run_bind_eq (run_spanAfter _), run_pure_iff] at h
    obtain ⟨rfl, rfl⟩ := h
    refine ⟨f.peek :: (us ++ [f₁.peek]), _, .succ ?_, by simp [hclose'], ?_, rfl⟩
    · simp only [extend]
      refine .current ?_
      simp only [hk]
      exact .advance (hf.rest_eq (.inl (by simp [hk]))) (.bind (htook.weaken (by omega))
        (.expect hclose (hf₁.rest_eq (.inl hopen)) (.spanAfter (.pure _))))
    · rw [← Feed.next_current, ← Feed.next_current]
      exact .token (Token.flat_of_kind hf.current hk (by decide))
        (hwritten.append (.single (Token.flat_of_kind hf₁.next.current hclose' (by decide))))
  case h_13 hk =>
    rw [run_bind_eq run_advance, run_bind_eq run_current] at h
    split at h
    · next hword =>
      rw [run_bind_eq (run_spanOf _), run_bind_eq (run_spanAfter _), run_pure_iff] at h
      obtain ⟨rfl, rfl⟩ := h
      have hopen : f.next.current.kind ≠ .eof := by
        intro heof
        rw [heof] at hword
        cases hword
      refine ⟨[f.peek], _, .succ ?_, hopen, ?_, rfl⟩
      · simp only [extend]
        refine .current ?_
        simp only [hk]
        refine .advance (hf.rest_eq (.inl (by simp [hk]))) (.current ?_)
        simp only [if_pos hword]
        exact .spanOf (.spanAfter (.pure _))
      · rw [← Feed.next_current]
        exact .token (Token.flat_of_kind hf.current hk (by decide))
          (.single (Token.flat_of_word hf.next.current hword))
    · exact absurd h (run_expected _ _ _ _)
  case h_14 hk =>
    split at h
    · next op hop =>
      rw [run_bind_eq run_advance, run_bind_iff] at h
      obtain ⟨right, f₁, hright, h⟩ := h
      obtain ⟨us, htook, hopen, hwritten⟩ := ih.expr hright hf.next
      rw [run_bind_eq (run_spanAfter _), run_pure_iff] at h
      obtain ⟨rfl, rfl⟩ := h
      have hk' : f.current.kind = op.kind := (binaryOp?_kind hop).symm
      have hne : f.current.kind ≠ .eof := by
        rw [hk']
        cases op <;> decide
      refine ⟨f.peek :: us, _, .succ ?_, hopen, ?_, rfl⟩
      · rw [hk'] at htook
        have hright : Took (fun m => expr m (Level.ofKind op.kind) >>= fun right =>
            Reading.spanAfter left >>= fun s => Pure.pure (Expr.binary s op left right)) 6 f.next us
              f₁ _ := .last (htook.weaken (by decide)) (.spanAfter (.pure _))
        simp only [extend]
        refine .current ?_
        cases op <;> simp only [hk', BinaryOp.kind, binaryOp?] <;>
          exact .advance (hf.rest_eq (.inl hne)) hright
      · rw [← Feed.next_current]
        exact .token (Token.flat_of_kind hf.current hk' op.hasText) hwritten
    · exact absurd h (run_noOperand _ _)

lemma takes_items (ih : Takes n) {es : List Expr} (h : (items (n + 1)).run f = .ok (es, f'))
    (hf : f.Real) (hopen : f.current.kind ≠ .eof) :
    ∃ us, Took items 1 f us f' es ∧ f'.current.kind ≠ .eof ∧ Written us (Expr.facesList es) := by
  simp only [items] at h
  rw [run_bind_eq run_advance, run_bind_iff] at h
  obtain ⟨first, f₁, hfirst, h⟩ := h
  obtain ⟨us, htook, hopen₁, hwritten⟩ := ih.expr hfirst hf.next
  have hf₁ : f₁.Real := htook.real hf.next
  rw [Feed.next_current] at hwritten
  rw [run_bind_eq run_peek] at h
  split at h
  · next hcomma =>
    rw [run_bind_eq run_advance, run_bind_iff] at h
    obtain ⟨es', f₂, hes, h⟩ := h
    have hcomma' : f₁.next.current.kind = .comma := by rw [Feed.next_current, hcomma]
    obtain ⟨vs, htook', hopen', hwritten'⟩ := ih.items hes hf₁.next (by simp [hcomma'])
    obtain ⟨rfl, rfl⟩ := run_pure_iff.1 h
    have hfaces : Expr.facesList (first :: es') =
        first.faces ++ .plain .comma "," :: Expr.facesList es' := by
      rw [← sequence_eq_items] at hes
      obtain ⟨hne, -⟩ := (keeps n).sequence hes hf₁.next.sound
      obtain ⟨second, es'', rfl⟩ := List.exists_cons_of_ne_nil hne
      rfl
    refine ⟨f.peek :: (us ++ f₁.peek :: vs), .succ ?_, hopen', ?_⟩
    · simp only [items]
      refine .advance (hf.rest_eq (.inl hopen)) (.bind (htook.weaken (by omega)) (.peek ?_))
      simp only [if_pos hcomma]
      exact .advance (hf₁.rest_eq (.inl hopen₁)) (.last (htook'.weaken (by omega)) (.pure _))
    · rw [hfaces, ← Feed.next_current f₁]
      exact hwritten.append
        (.token (Token.flat_of_kind hf₁.next.current hcomma' (by decide)) hwritten')
  · next hcomma =>
    obtain ⟨rfl, rfl⟩ := run_pure_iff.1 h
    refine ⟨f.peek :: us, .succ ?_, hopen₁, hwritten⟩
    simp only [items]
    refine .advance (hf.rest_eq (.inl hopen)) (.last (htook.weaken (by omega)) (.peek ?_))
    simp only [if_neg hcomma]
    exact .pure _

lemma takes_list (ih : Takes n) {close : Kind} {what : String} {es : List Expr}
    (h : (list (n + 1) close what).run f = .ok (es, f')) (hf : f.Real)
    (hopen : f.current.kind ≠ .eof) :
    ∃ us, Took (fun m => list m close what) 2 f (us ++ [f'.current]) f' es ∧
      f'.current.kind = close ∧ Written us (Expr.facesList es) := by
  simp only [list] at h
  rw [run_bind_eq run_peek] at h
  split at h
  · next hclose =>
    rw [run_bind_eq run_advance] at h
    obtain ⟨rfl, rfl⟩ := run_pure_iff.1 h
    refine ⟨[], .succ ?_, by rw [Feed.next_current, hclose], .nil⟩
    simp only [list]
    refine .peek ?_
    simp only [if_pos hclose]
    rw [Feed.next_current, List.nil_append]
    exact .advance (hf.rest_eq (.inl hopen)) (.pure _)
  · next hclose =>
    rw [run_bind_iff] at h
    obtain ⟨es', f₁, hes, h⟩ := h
    obtain ⟨us, htook, hopen₁, hwritten⟩ := ih.items hes hf hopen
    have hf₁ : f₁.Real := htook.real hf
    obtain ⟨hclose', h⟩ := run_bind_expect_iff.1 h
    obtain ⟨rfl, rfl⟩ := run_pure_iff.1 h
    refine ⟨us, .succ ?_, by rw [Feed.next_current, hclose'], hwritten⟩
    simp only [list]
    refine .peek ?_
    simp only [if_neg hclose]
    rw [Feed.next_current]
    exact .bind (htook.weaken (by omega))
      (.expect hclose' (hf₁.rest_eq (.inl hopen₁)) (.pure _))

/-- The links of a chain from the end of a decorator on. -/
lemma takes_links (ih : Takes n) {d : Decorator} {ds : List Decorator}
    (h : (links n d).run f = .ok (ds, f')) (hf : f.Real) (hopen : f.current.kind ≠ .eof) :
    ∃ us fs, Took (fun m => links m d) 1 f us f' ds ∧ f'.current.kind ≠ .eof ∧ Written us fs ∧
      Decorator.facesChain ds = Decorator.faces d ++ fs := by
  simp only [links] at h
  rw [run_bind_eq run_peek] at h
  split at h
  · next hpipe =>
    rw [run_bind_eq run_advance, run_bind_iff] at h
    obtain ⟨ds', f₁, hds, h⟩ := h
    have hpipe' : f.next.current.kind = .pipe := by rw [Feed.next_current, hpipe]
    obtain ⟨us, htook, hopen₁, hwritten⟩ := ih.chain hds hf.next (by simp [hpipe'])
    obtain ⟨rfl, rfl⟩ := run_pure_iff.1 h
    have hfaces : Decorator.facesChain (d :: ds') =
        Decorator.faces d ++ .plain .pipe "|" :: Decorator.facesChain ds' := by
      obtain ⟨hne, -⟩ := (keeps n).chain hds hf.next.sound
      obtain ⟨d', ds'', rfl⟩ := List.exists_cons_of_ne_nil hne
      rfl
    refine ⟨f.peek :: us, _, ?_, hopen₁, ?_, hfaces⟩
    · simp only [links]
      refine .peek ?_
      simp only [if_pos hpipe]
      exact .advance (hf.rest_eq (.inl hopen)) (.last (htook.weaken (by omega)) (.pure _))
    · rw [← Feed.next_current]
      exact .token (Token.flat_of_kind hf.next.current hpipe' (by decide)) hwritten
  · next hpipe =>
    obtain ⟨rfl, rfl⟩ := run_pure_iff.1 h
    refine ⟨[], [], ?_, hopen, .nil, (List.append_nil _).symm⟩
    simp only [links]
    refine .peek ?_
    simp only [if_neg hpipe]
    exact .pure _

lemma takes_chain (ih : Takes n) {ds : List Decorator}
    (h : (chain (n + 1)).run f = .ok (ds, f')) (hf : f.Real) (hopen : f.current.kind ≠ .eof) :
    ∃ us, Took chain 1 f us f' ds ∧ f'.current.kind ≠ .eof ∧
      Written us (Decorator.facesChain ds) := by
  simp only [chain] at h
  obtain ⟨hname, h⟩ := run_bind_expect_iff.1 h
  have hname' : f.next.current.kind = .ident := by rw [Feed.next_current, hname]
  have hflat := Token.flat_of_atom hf.next.current hname' rfl (by decide)
  have hrest := hf.rest_eq (.inl hopen)
  rw [run_bind_eq run_current, run_bind_eq run_peek] at h
  split at h
  · next hparen =>
    rw [run_bind_eq run_advance, run_bind_iff] at h
    obtain ⟨arguments, f₂, hlist, h⟩ := h
    have hparen' : f.next.next.current.kind = .lparen := by rw [Feed.next_current, hparen]
    obtain ⟨us, htook, hclose, hwritten⟩ := ih.list hlist hf.next.next (by simp [hparen'])
    have hf₂ : f₂.Real := htook.real hf.next.next
    rw [run_bind_eq (run_spanOf _)] at h
    obtain ⟨vs, fs, htook', hopen', hwritten', hfaces⟩ := takes_links ih h hf₂ (by simp [hclose])
    refine ⟨f.peek :: f.next.peek :: (us ++ [f₂.current] ++ vs), .succ ?_, hopen', ?_⟩
    · simp only [chain]
      refine .expect hname hrest (.current (.peek ?_))
      simp only [if_pos hparen]
      exact .advance (hf.next.rest_eq (.inl (by simp [hname']))) (.bind (htook.weaken (by omega))
        (.spanOf (htook'.weaken (by omega))))
    · have hopening : f.next.next.current.flat = .plain .lparen "(" :=
        Token.flat_of_kind hf.next.next.current hparen' (by decide)
      have hclosing : f₂.current.flat = .plain .rparen ")" :=
        Token.flat_of_kind hf₂.current hclose (by decide)
      simp only [hfaces, Decorator.faces, hparen, decide_true, if_true]
      rw [← Feed.next_current f, ← Feed.next_current f.next]
      exact .token hflat (.token hopening ((hwritten.append (.single hclosing)).append hwritten'))
  · next hparen =>
    rw [run_bind_eq (run_pure _), run_bind_eq (run_spanOf _)] at h
    obtain ⟨us, fs, htook, hopen', hwritten, hfaces⟩ :=
      takes_links ih h hf.next (by simp [hname'])
    refine ⟨f.peek :: us, .succ ?_, hopen', ?_⟩
    · simp only [chain]
      refine .expect hname hrest (.current (.peek ?_))
      simp only [if_neg hparen]
      exact .look (fun _ _ _ _ => rfl) (.spanOf (htook.weaken (by decide)))
    · rw [hfaces, ← Feed.next_current]
      simp only [Decorator.faces, hparen, decide_false, Bool.false_eq_true, if_false]
      exact .token hflat hwritten

/-- The name of a property is the current token. -/
lemma takes_key {k : Key} (h : key.run f = .ok (k, f')) (hf : f.Real) :
    f' = f ∧ f.current.flat = k.face ∧ ∀ j, Took (fun _ => key) j f [] f k := by
  simp only [key] at h ⊢
  rw [run_bind_eq run_current] at h
  split at h
  · next hword =>
    rw [run_bind_eq (run_spanOf _), run_pure_iff] at h
    obtain ⟨rfl, rfl⟩ := h
    refine ⟨rfl, Token.flat_of_word hf.current hword, fun j => .current ?_⟩
    rw [if_pos hword]
    exact .spanOf (.pure _)
  · next hword =>
    split at h
    · next hk =>
      rw [run_bind_eq (run_spanOf _), run_pure_iff] at h
      obtain ⟨rfl, rfl⟩ := h
      refine ⟨rfl, Token.flat_of_string hk, fun j => .current ?_⟩
      rw [if_neg hword]
      simp only [hk]
      exact .spanOf (.pure _)
    · next hk =>
      rw [run_bind_eq (run_spanOf _), run_bind_iff] at h
      obtain ⟨raw, f₁, hnumber, h⟩ := h
      obtain ⟨hfinite, rfl, rfl⟩ := run_number_iff.1 hnumber
      obtain ⟨rfl, rfl⟩ := run_pure_iff.1 h
      refine ⟨rfl, Token.flat_of_atom hf.current hk rfl (by decide), fun j => .current ?_⟩
      rw [if_neg hword]
      simp only [hk]
      exact .spanOf (.look (fun _ _ _ _ => run_number_iff.2 ⟨hfinite, rfl, rfl⟩) (.pure _))
    · exact absurd h (run_expected _ _ _ _)

lemma takes_properties (ih : Takes n) {ps : List Property}
    (h : (properties (n + 1)).run f = .ok (ps, f')) (hf : f.Real) (hopen : f.current.kind ≠ .eof) :
    ∃ us, Took properties 1 f us f' ps ∧ f'.current.kind ≠ .eof ∧
      Written us (Property.facesList ps ++ [Face.plain .rbrace "\x7d"]) ∧
      (ps = [] ↔ f.peek.kind = .rbrace) := by
  have hrest := hf.rest_eq (.inl hopen)
  simp only [properties] at h
  rw [run_bind_eq run_peek] at h
  split at h
  · next hclose =>
    rw [run_bind_eq run_advance] at h
    obtain ⟨rfl, rfl⟩ := run_pure_iff.1 h
    have hclose' : f.next.current.kind = .rbrace := by rw [Feed.next_current, hclose]
    refine ⟨[f.peek], .succ ?_, by simp [hclose'], ?_, by simp [hclose]⟩
    · simp only [properties]
      refine .peek ?_
      simp only [if_pos hclose]
      exact .advance hrest (.pure _)
    · rw [← Feed.next_current]
      exact .single (Token.flat_of_kind hf.next.current hclose' (by decide))
  · next hclose =>
    rw [run_bind_eq run_advance, run_bind_iff] at h
    obtain ⟨k, f₁, hkey, h⟩ := h
    obtain ⟨rfl, hflat, hkey'⟩ := takes_key hkey hf.next
    obtain ⟨hcolon, h⟩ := run_bind_expect_iff.1 h
    have hcolon' : f.next.next.current.kind = .colon := by rw [Feed.next_current, hcolon]
    have hcolonFlat : f.next.next.current.flat = .plain .colon ":" :=
      Token.flat_of_kind hf.next.next.current hcolon' (by decide)
    rw [run_bind_eq run_advance, run_bind_iff] at h
    obtain ⟨value, f₃, hvalue, h⟩ := h
    obtain ⟨us, htook, hopen₃, hwritten⟩ := ih.expr hvalue hf.next.next.next
    have hf₃ : f₃.Real := htook.real hf.next.next.next
    have hrest₁ := hf.next.rest_eq (.inr (by simp [hcolon]))
    have hrest₂ := hf.next.next.rest_eq (.inl (by simp [hcolon']))
    rw [run_bind_eq run_peek] at h
    split at h
    · next hcomma =>
      rw [run_bind_eq run_advance, run_bind_iff] at h
      obtain ⟨ps', f₄, hps, h⟩ := h
      have hcomma' : f₃.next.current.kind = .comma := by rw [Feed.next_current, hcomma]
      obtain ⟨vs, htook', hopen', hwritten', hnil⟩ :=
        ih.properties hps hf₃.next (by simp [hcomma'])
      obtain ⟨rfl, rfl⟩ := run_pure_iff.1 h
      refine ⟨f.peek :: f.next.peek :: f.next.next.peek :: (us ++ f₃.peek :: vs), .succ ?_,
        hopen', ?_, by simp [hclose]⟩
      · simp only [properties]
        refine .peek ?_
        simp only [if_neg hclose]
        refine .advance hrest (.bind (hkey' _) (.expect hcolon hrest₁ (.advance hrest₂
          (.bind (htook.weaken (by omega)) (.peek ?_)))))
        simp only [if_pos hcomma]
        exact .advance (hf₃.rest_eq (.inl hopen₃)) (.last (htook'.weaken (by omega)) (.pure _))
      · rw [← Feed.next_current f, ← Feed.next_current f.next, ← Feed.next_current f.next.next,
          ← Feed.next_current f₃]
        have hcommaFlat : f₃.next.current.flat = .plain .comma "," :=
          Token.flat_of_kind hf₃.next.current hcomma' (by decide)
        cases ps' with
        | nil =>
          -- nothing but the brace follows the comma
          obtain ⟨v, vs, rfl⟩ := List.exists_cons_of_ne_nil hwritten'.ne_nil
          have hv : v.kind = .rbrace := by
            have hbrace := hnil.1 rfl
            rwa [Feed.peek, htook'.rest_eq] at hbrace
          exact .token hflat (.token hcolonFlat (hwritten.append (.comma hcomma' hv hwritten')))
        | cons p ps' =>
          have hall := hwritten.append (.token hcommaFlat hwritten')
          simp only [Property.facesList, Property.faces, List.cons_append,
            List.append_assoc] at hall ⊢
          exact .token hflat (.token hcolonFlat hall)
    · next hcomma =>
      split at h
      · next hbrace =>
        rw [run_bind_iff] at h
        obtain ⟨ps', f₄, hps, h⟩ := h
        obtain ⟨vs, htook', hopen', hwritten', hnil⟩ := ih.properties hps hf₃ hopen₃
        obtain ⟨rfl, rfl⟩ := run_pure_iff.1 h
        refine ⟨f.peek :: f.next.peek :: f.next.next.peek :: (us ++ vs), .succ ?_,
          hopen', ?_, by simp [hclose]⟩
        · simp only [properties]
          refine .peek ?_
          simp only [if_neg hclose]
          refine .advance hrest (.bind (hkey' _) (.expect hcolon hrest₁ (.advance hrest₂
            (.bind (htook.weaken (by omega)) (.peek ?_)))))
          simp only [if_neg hcomma, if_pos hbrace]
          exact .last (htook'.weaken (by omega)) (.pure _)
        · obtain rfl := hnil.2 hbrace
          rw [← Feed.next_current f, ← Feed.next_current f.next, ← Feed.next_current f.next.next]
          exact .token hflat (.token hcolonFlat (hwritten.append hwritten'))
      · exact absurd h (run_expected _ _ _ _)

/-- **What the reader takes.** Each function takes the tokens of the tree that it gives, and does so
in front of every text that goes on with the same token. -/
theorem takes : ∀ n, Takes n
  | 0 => takes_zero
  | n + 1 =>
    have ih := takes n
    { expr := takes_expr ih
      operators := takes_operators ih
      operand := takes_operand ih
      unary := takes_unary ih
      updateBefore := takes_updateBefore ih
      extend := takes_extend ih
      logical := takes_logical ih
      assignment := takes_assignment ih
      chain := takes_chain ih
      list := takes_list ih
      items := takes_items ih
      properties := takes_properties ih }

end Reading

end Trellis
