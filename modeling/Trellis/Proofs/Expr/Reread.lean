/-
The tokens of a tree that fits the grammar are read as that tree.

`Expr.Reads` says it for an expression in front of a token that does not belong to it: reading
comes to the point where the whole expression is the left operand and looks at that token.  There
is one lemma for each constructor.  An operand is read at once; an expression with an operator at
its top is read by reading its left part and extending it (`Expr.Reads.extended`).

The bound of the reader is counted in tokens: four for each is enough, and a whole expression uses
up at most one for each token before it becomes the left operand.
-/
import Trellis.Proofs.Expr.Parsed

namespace Trellis

open Token (Kind Face)
open Reading (Level)

/-! ### Tokens -/

lemma Token.of_face {o : Token} {k : Kind} {s : String} (h : o.face = .plain k s) :
    o.kind = k ∧ o.literal = s ∧ o.newLine = false := by
  obtain ⟨kind, literal, raw, line, column, offset, newLine⟩ := o
  simp only [Token.face, Face.plain, Face.mk.injEq] at h
  exact ⟨h.1, h.2.1, h.2.2.2⟩

lemma Token.of_face_string {o : Token} {value raw : String} (h : o.face = .string value raw) :
    o.kind = .string ∧ o.literal = value ∧ o.raw = raw := by
  obtain ⟨kind, literal, raw', line, column, offset, newLine⟩ := o
  simp only [Token.face, Face.string, Face.mk.injEq] at h
  exact ⟨h.1, h.2.1, h.2.2.1⟩

lemma Token.not_splits_of_face {o : Token} {k : Kind} {s : String} (h : o.face = .plain k s) :
    ¬ o.Splits := by
  rintro ⟨-, hline⟩
  rw [(Token.of_face h).2.2] at hline
  cases hline

lemma Token.not_splits_of_rank {o : Token} (h : o.kind.rank ≤ Level.unary.rank) : ¬ o.Splits := by
  rintro ⟨hk | hk, -⟩ <;> rw [hk] at h <;> exact absurd h (by decide)

/-- An expression that fits a level is complete before every token that does not bind tighter. -/
lemma Expr.Fits.endsAt {e : Expr} {r : Nat} {k : Kind} (h : e.Fits r) (hk : k.rank ≤ r)
    (hr : r ≤ Level.unary.rank) : e.endsAt k = true := by
  have hbelow : ∀ {r'}, r < r' → k.rank ≤ r' := fun h => Nat.le_trans hk (Nat.le_of_lt h)
  cases e with
  | unary s op a => exact decide_eq_true (Nat.le_trans hk hr)
  | update s op before a =>
    cases before with
    | true => exact decide_eq_true (Nat.le_trans hk hr)
    | false => rfl
  | binary s op a b => exact decide_eq_true (hbelow h.1)
  | logical s op a b => exact decide_eq_true (hbelow h.1)
  | cond s a b c => exact decide_eq_true (Nat.le_trans hk (Nat.le_of_lt_succ h.1))
  | assign s op a b => exact decide_eq_true (Nat.le_trans hk (Nat.le_of_lt_succ h.1))
  | seq s items => exact decide_eq_true (Nat.le_trans hk (Nat.le_of_lt_succ h.1))
  | pipe s a s' chain =>
    have hlt : k.rank < Level.pipe.rank := Nat.lt_of_le_of_lt hk h.1
    have hpipe : k ≠ .pipe := by
      rintro rfl
      exact absurd hlt (by decide)
    have hparen : k ≠ .lparen := by
      rintro rfl
      exact absurd hlt (by decide)
    simp [Expr.endsAt, hpipe, hparen]
  | this | ident | lit | array | object | call | member | index | paren => rfl

lemma Expr.isAssignable_bare (e : Expr) : e.bare.isAssignable = e.isAssignable := by
  cases e <;> simp [Expr.bare, Expr.isAssignable]

lemma Expr.isAssignable_of_bare {e e' : Expr} (h : e'.bare = e.bare)
    (he : e.isAssignable = true) : e'.isAssignable = true := by
  rw [← isAssignable_bare, h, isAssignable_bare, he]

/-- What may be assigned to is complete before every token. -/
lemma Expr.endsAt_of_isAssignable {e : Expr} (he : e.isAssignable = true) (k : Kind) :
    e.endsAt k = true := by
  cases e <;> first | rfl | cases he

lemma Feed.next_eq_start (c : Token) {ts : List Token} (h : ts ≠ []) :
    Feed.next ⟨c, ts⟩ = .start ts := by
  cases ts with
  | nil => exact absurd rfl h
  | cons t ts => rfl

namespace Reading

lemma exists_spanFrom (f : Feed) (line column : Nat) :
    ∃ s, (spanFrom line column).run f = .ok (s, f) := ⟨_, rfl⟩

lemma exists_spanOf (f : Feed) (t : Token) : ∃ s, (spanOf t).run f = .ok (s, f) := ⟨_, rfl⟩

lemma exists_spanAfter (f : Feed) (e : Expr) : ∃ s, (spanAfter e).run f = .ok (s, f) := ⟨_, rfl⟩

/-- No expression starts with a token that ends something. -/
lemma expr_current {n : Nat} {level : Level} {f f' : Feed} {e : Expr}
    (h : (expr n level).run f = .ok (e, f')) :
    f.current.kind ≠ .rparen ∧ f.current.kind ≠ .rbracket ∧ f.current.kind ≠ .semicolon ∧
      f.current.kind ≠ .eof := by
  match n with
  | 0 => exact absurd h (run_exhausted _)
  | 1 => exact absurd h (run_exhausted _)
  | n + 2 =>
    simp only [expr, run_bind_iff, operand] at h
    obtain ⟨a, f₁, ⟨t, f₂, ht, h⟩, -⟩ := h
    rw [run_current] at ht
    cases ht
    refine ⟨?_, ?_, ?_, ?_⟩ <;> intro hk <;> rw [hk] at h <;> exact absurd h (run_noOperand _ _)

lemma items_peek {n : Nat} {f f' : Feed} {es : List Expr} (h : (items n).run f = .ok (es, f')) :
    f.peek.kind ≠ .rparen ∧ f.peek.kind ≠ .rbracket := by
  cases n with
  | zero => exact absurd h (run_exhausted _)
  | succ n =>
    simp only [items] at h
    rw [run_bind_eq run_advance, run_bind_iff] at h
    obtain ⟨first, f₁, hfirst, -⟩ := h
    obtain ⟨hparen, hbracket, -⟩ := expr_current hfirst
    rw [Feed.next_current] at hparen hbracket
    exact ⟨hparen, hbracket⟩

/-- Items after a comma are read like items of a list. -/
lemma sequence_eq_items : ∀ n, sequence n = items n
  | 0 => rfl
  | n + 1 => by simp only [sequence, items, sequence_eq_items n]

end Reading

/-! ### Expressions -/

namespace Expr

open Reading

/-- Whether the tokens of an expression are read as that expression. -/
def Reads (e : Expr) : Prop :=
  ∀ ⦃level : Level⦄ ⦃n : Nat⦄ ⦃ts : List Token⦄ ⦃t : Token⦄ ⦃r : List Token⦄,
    e.Fits level.rank → ts.map Token.face = e.faces → ¬ t.Splits → e.endsAt t.kind = true →
    4 * ts.length + 2 ≤ n →
    ∃ m e' c, n ≤ m + ts.length ∧
      (expr n level).run (.start (ts ++ t :: r)) = (operators m level e').run ⟨c, t :: r⟩ ∧
      e'.bare = e.bare

lemma Reads.complete {e : Expr} (he : e.Reads) (level : Level) (n : Nat) {ts : List Token}
    {t : Token} (r : List Token) (hfits : e.Fits level.rank) (hts : ts.map Token.face = e.faces)
    (ht : t.kind.rank ≤ level.rank)
    (hlevel : level.rank ≤ Level.unary.rank) (hn : 4 * ts.length + 2 ≤ n) :
    ∃ e' c, (expr n level).run (.start (ts ++ t :: r)) = .ok (e', ⟨c, t :: r⟩) ∧
      e'.bare = e.bare := by
  have hs : ¬ t.Splits := Token.not_splits_of_rank (Nat.le_trans ht hlevel)
  obtain ⟨m, e', c, hm, hrun, hbare⟩ := he (r := r) hfits hts hs (hfits.endsAt ht hlevel) hn
  refine ⟨e', c, ?_, hbare⟩
  obtain ⟨m, rfl⟩ : ∃ m', m = m' + 1 := ⟨m - 1, by omega⟩
  rw [hrun]
  simp only [operators]
  rw [run_bind_eq run_peek, if_neg]
  · rfl
  · rintro ⟨hlt, -⟩
    exact absurd ht (Nat.not_le_of_lt hlt)

/-- An expression that is read as one operand. -/
lemma reads_of_operand {e : Expr}
    (h : ∀ {rank n : Nat} {ts : List Token} {t : Token} {r : List Token}, e.Fits rank →
    ts.map Token.face = e.faces →
      e.endsAt t.kind = true → 4 * ts.length ≤ n → ts ≠ [] ∧
      ∃ e' c, (operand n).run (.start (ts ++ t :: r)) = .ok (e', ⟨c, t :: r⟩) ∧
        e'.bare = e.bare) : e.Reads := by
  intro level n ts t r hfits hts hs hends hn
  obtain ⟨n, rfl⟩ : ∃ n', n = n' + 1 := ⟨n - 1, by omega⟩
  obtain ⟨hne, e', c, hrun, hbare⟩ := h (n := n) (r := r) hfits hts hends (by omega)
  refine ⟨n, e', c, ?_, ?_, hbare⟩
  · have := List.length_pos_iff.2 hne
    omega
  · simp only [expr]
    rw [run_bind_eq hrun]

/-- An expression that is read by extending its left part at a token. -/
lemma reads_of_extended {left e : Expr} (hleft : left.Reads) {k : Kind} {x : String}
    {fs : List Face} (hfaces : e.faces = left.faces ++ .plain k x :: fs)
    (hparts : ∀ {rank : Nat}, e.Fits rank → rank < k.rank ∧ left.Fits rank ∧ left.endsAt k = true)
    (hext : ∀ {rank m : Nat} {o : Token} {us : List Token} {t : Token} {r : List Token}
    {left' : Expr}, e.Fits rank →
      o.kind = k → us.map Token.face = fs → e.endsAt t.kind = true → 4 * us.length + 4 ≤ m →
      left'.bare = left.bare →
      ∃ e' c, (extend (m + 1) left').run ⟨o, us ++ t :: r⟩ = .ok (e', ⟨c, t :: r⟩) ∧
      e'.bare = e.bare) : e.Reads := by
  intro level n ts t r hfits hall hs hends hn
  obtain ⟨hrank, hleftFits, hleftEnds⟩ := hparts hfits
  rw [hfaces] at hall
  obtain ⟨ts, us, rfl, hts, hrest⟩ := List.map_eq_append_iff.1 hall
  obtain ⟨o, us, rfl, ho, hus⟩ := List.map_eq_cons_iff.1 hrest
  have hsplits := Token.not_splits_of_face ho
  obtain ⟨rfl, -⟩ := Token.of_face ho
  simp only [List.length_append, List.length_cons] at hn ⊢
  obtain ⟨m, left', c, hm, hrun, hbare⟩ :=
    hleft (r := us ++ t :: r) hleftFits hts hsplits hleftEnds (n := n) (by omega)
  obtain ⟨m, rfl⟩ : ∃ m', m = m' + 2 := ⟨m - 2, by omega⟩
  obtain ⟨e', c', hrun', hbare'⟩ := hext (m := m) (r := r) hfits rfl hus hends (by omega) hbare
  refine ⟨m + 1, e', c', by omega, ?_, hbare'⟩
  rw [List.append_assoc, List.cons_append, hrun]
  simp only [operators]
  rw [run_bind_eq run_peek, if_pos ⟨hrank, hsplits⟩, run_bind_eq run_advance]
  exact run_bind_eq hrun' _

/-! ### Operands -/

/-- An operand of one token. -/
lemma reads_of_token {e : Expr} {f : Face} (hfaces : e.faces = [f])
    (h : ∀ {rank n : Nat} {o : Token} {r : List Token}, e.Fits rank → o.face = f →
      ∃ e', (operand (n + 1)).run ⟨o, r⟩ = .ok (e', ⟨o, r⟩) ∧ e'.bare = e.bare) : e.Reads := by
  refine reads_of_operand ?_
  intro rank n ts t r hfits hts hends hn
  rw [hfaces] at hts
  obtain ⟨o, rfl, ho⟩ := List.map_eq_singleton_iff.1 hts
  obtain ⟨n, rfl⟩ : ∃ n', n = n' + 1 := ⟨n - 1, by simp only [List.length_singleton] at hn; omega⟩
  obtain ⟨e', hrun, hbare⟩ := h (n := n) (r := t :: r) hfits ho
  exact ⟨by simp, e', o, hrun, hbare⟩

lemma reads_this (s : Span) : (Expr.this s).Reads := by
  refine reads_of_token rfl ?_
  intro rank n o r hfits ho
  obtain ⟨hk, -⟩ := Token.of_face ho
  obtain ⟨s', hs⟩ := exists_spanOf ⟨o, r⟩ o
  refine ⟨.this s', ?_, rfl⟩
  simp only [operand]
  rw [run_bind_eq run_current]
  simp only [hk]
  rw [run_bind_eq hs]
  rfl

lemma reads_ident (s : Span) (name : String) : (Expr.ident s name).Reads := by
  refine reads_of_token rfl ?_
  intro rank n o r hfits ho
  obtain ⟨hk, hname, -⟩ := Token.of_face ho
  obtain ⟨s', hs⟩ := exists_spanOf ⟨o, r⟩ o
  refine ⟨.ident s' name, ?_, rfl⟩
  simp only [operand]
  rw [run_bind_eq run_current]
  simp only [hk, hname]
  rw [run_bind_eq hs]
  rfl

lemma reads_lit (s : Span) (l : Literal) : (Expr.lit s l).Reads := by
  refine reads_of_token rfl ?_
  intro rank n o r hfits ho
  obtain ⟨s', hs⟩ := exists_spanOf ⟨o, r⟩ o
  refine ⟨.lit s' l, ?_, rfl⟩
  simp only [operand]
  rw [run_bind_eq run_current]
  cases l with
  | string value raw =>
    obtain ⟨hk, hvalue, hraw⟩ := Token.of_face_string ho
    simp only [hk, hvalue, hraw]
    rw [run_bind_eq hs]
    rfl
  | number raw =>
    obtain ⟨hk, hraw, -⟩ := Token.of_face ho
    have hnumber : (number o).run ⟨o, r⟩ = .ok (raw, ⟨o, r⟩) :=
      run_number_iff.2 ⟨by rw [hraw]; exact hfits.2, hraw.symm, rfl⟩
    simp only [hk]
    rw [run_bind_eq hs, run_bind_eq hnumber]
    rfl
  | bool b =>
    cases b with
    | true =>
      obtain ⟨hk, -⟩ := Token.of_face ho
      simp only [hk]
      rw [run_bind_eq hs]
      rfl
    | false =>
      obtain ⟨hk, -⟩ := Token.of_face ho
      simp only [hk]
      rw [run_bind_eq hs]
      rfl
  | null =>
    obtain ⟨hk, -⟩ := Token.of_face ho
    simp only [hk]
    rw [run_bind_eq hs]
    rfl

lemma reads_unary (s : Span) (op : UnaryOp) {argument : Expr} (h : argument.Reads) :
    (Expr.unary s op argument).Reads := by
  refine reads_of_operand ?_
  intro rank n ts t r hfits hts hends hn
  obtain ⟨o, us, rfl, ho, hus⟩ := List.map_eq_cons_iff.1 hts
  obtain ⟨hk, -⟩ := Token.of_face ho
  simp only [List.length_cons] at hn
  obtain ⟨n, rfl⟩ : ∃ n', n = n' + 2 := ⟨n - 2, by omega⟩
  obtain ⟨argument', c, hrun, hbare⟩ := h.complete .unary n r hfits hus
    (of_decide_eq_true hends) (Nat.le_refl _) (by omega)
  obtain ⟨s', hs⟩ := exists_spanOf ⟨c, t :: r⟩ o
  refine ⟨by simp, .unary s' op argument', c, ?_, by simp [Expr.bare, hbare]⟩
  have hunary : (Reading.unary (n + 1) o op).run ⟨o, us ++ t :: r⟩ =
      .ok (.unary s' op argument', ⟨c, t :: r⟩) := by
    simp only [Reading.unary]
    rw [run_bind_eq run_advance, Feed.next_eq_start _ (by simp), run_bind_eq hrun, run_bind_eq hs]
    rfl
  change (operand (n + 2)).run ⟨o, us ++ t :: r⟩ = _
  simp only [operand]
  rw [run_bind_eq run_current]
  cases op <;> simp only [hk, UnaryOp.kind] <;> exact hunary

lemma reads_updateBefore (s : Span) (op : UpdateOp) {target : Expr} (h : target.Reads) :
    (Expr.update s op true target).Reads := by
  refine reads_of_operand ?_
  intro rank n ts t r hfits hts hends hn
  obtain ⟨o, us, rfl, ho, hus⟩ := List.map_eq_cons_iff.1 hts
  obtain ⟨hk, -⟩ := Token.of_face ho
  simp only [List.length_cons] at hn
  obtain ⟨n, rfl⟩ : ∃ n', n = n' + 2 := ⟨n - 2, by omega⟩
  obtain ⟨target', c, hrun, hbare⟩ := h.complete .unary n r hfits.2 hus
    (of_decide_eq_true hends) (Nat.le_refl _) (by omega)
  obtain ⟨s', hs⟩ := exists_spanOf ⟨c, t :: r⟩ o
  refine ⟨by simp, .update s' op true target', c, ?_, by simp [Expr.bare, hbare]⟩
  have hassignable : target'.isAssignable = true := isAssignable_of_bare hbare hfits.1
  have hupdate : (updateBefore (n + 1) o op).run ⟨o, us ++ t :: r⟩ =
      .ok (.update s' op true target', ⟨c, t :: r⟩) := by
    simp only [updateBefore]
    rw [run_bind_eq run_advance, Feed.next_eq_start _ (by simp), run_bind_eq hrun,
      run_bind_eq (run_assignable_iff.2 ⟨hassignable, rfl⟩), run_bind_eq hs]
    rfl
  change (operand (n + 2)).run ⟨o, us ++ t :: r⟩ = _
  simp only [operand]
  rw [run_bind_eq run_current]
  cases op <;> simp only [hk, UpdateOp.kind] <;> exact hupdate

/-- An operand between two tokens. -/
lemma reads_of_enclosed {e : Expr} {opening closing : Kind} {x y : String} {fs : List Face}
    (hfaces : e.faces = .plain opening x :: (fs ++ [Face.plain closing y]))
    (h : ∀ {rank n : Nat} {o : Token} {ts : List Token} {close : Token} {r : List Token},
    e.Fits rank →
      o.kind = opening → ts.map Token.face = fs → close.kind = closing → 4 * ts.length + 7 ≤ n →
      ∃ e', (operand (n + 1)).run ⟨o, ts ++ close :: r⟩ = .ok (e', ⟨close, r⟩) ∧ e'.bare = e.bare) :
      e.Reads := by
  refine reads_of_operand ?_
  intro rank n ts t r hfits hts hends hn
  rw [hfaces] at hts
  obtain ⟨o, us, rfl, ho, hts⟩ := List.map_eq_cons_iff.1 hts
  obtain ⟨us, vs, rfl, hus, hvs⟩ := List.map_eq_append_iff.1 hts
  obtain ⟨close, rfl, hclose⟩ := List.map_eq_singleton_iff.1 hvs
  simp only [List.length_cons, List.length_append, List.length_nil] at hn
  obtain ⟨n, rfl⟩ : ∃ n', n = n' + 1 := ⟨n - 1, by omega⟩
  obtain ⟨e', hrun, hbare⟩ :=
    h (n := n) (r := t :: r) hfits (Token.of_face ho).1 hus (Token.of_face hclose).1 (by omega)
  refine ⟨by simp, e', close, ?_, hbare⟩
  rwa [List.append_cons] at hrun

lemma reads_paren (s : Span) {inner : Expr} (h : inner.Reads) : (Expr.paren s inner).Reads := by
  refine reads_of_enclosed rfl ?_
  intro rank n o ts close r hfits hk hts hk' hn
  obtain ⟨inner', c, hrun, hbare⟩ := h.complete .lowest n r hfits hts
    (t := close) (by rw [hk']; decide) (by decide) (by omega)
  obtain ⟨s', hs⟩ := exists_spanOf ⟨close, r⟩ o
  refine ⟨.paren s' inner', ?_, by simp [Expr.bare, hbare]⟩
  simp only [operand]
  rw [run_bind_eq run_current]
  simp only [hk]
  rw [run_bind_eq run_advance, Feed.next_eq_start _ (by simp), run_bind_eq hrun,
    run_bind_eq (run_expect hk'), run_bind_eq hs]
  rfl

/-! ### Lists -/

lemma reads_items {es : List Expr} (hes : ∀ e ∈ es, e.Reads) {n : Nat} {ts : List Token}
    {c t : Token} {r : List Token} (hfits : FitsAll es) (hne : es ≠ [])
    (hts : ts.map Token.face = facesList es) (ht : t.kind.rank ≤ Level.lowest.rank)
    (hn : 4 * ts.length + 3 ≤ n) :
    ∃ es' c', (items n).run ⟨c, ts ++ t :: r⟩ = .ok (es', ⟨c', t :: r⟩) ∧
      bareList es' = bareList es := by
  induction es generalizing n ts c with
  | nil => exact absurd rfl hne
  | cons e es ih =>
    obtain ⟨n, rfl⟩ : ∃ n', n = n' + 1 := ⟨n - 1, by omega⟩
    have he : e.Reads := hes e (by simp)
    cases es with
    | nil =>
      obtain ⟨e', c', hrun, hbare⟩ := he.complete .sequence n r hfits.1 hts
        (Nat.le_trans ht (by decide)) (by decide) (by omega)
      refine ⟨[e'], c', ?_, by simp [bareList, hbare]⟩
      simp only [items]
      rw [run_bind_eq run_advance, Feed.next_eq_start _ (by simp), run_bind_eq hrun,
        run_bind_eq run_peek, if_neg]
      · rfl
      · intro hcomma
        rw [Feed.peek_cons] at hcomma
        rw [hcomma] at ht
        exact absurd ht (by decide)
    | cons f es =>
      obtain ⟨us, vs, rfl, hus, hvs⟩ := List.map_eq_append_iff.1 hts
      obtain ⟨comma, vs, rfl, hcomma, hvs⟩ := List.map_eq_cons_iff.1 hvs
      obtain ⟨hk, -⟩ := Token.of_face hcomma
      simp only [List.length_append, List.length_cons] at hn
      obtain ⟨e', c', hrun, hbare⟩ := he.complete .sequence n (vs ++ t :: r) hfits.1 hus
        (t := comma) (by rw [hk]; decide) (by decide) (by omega)
      obtain ⟨es', c'', hrun', hbare'⟩ := ih (fun x hx => hes x (by simp [hx])) (c := comma)
        (n := n) hfits.2 (by simp) hvs (by omega)
      refine ⟨e' :: es', c'', ?_, by simp [bareList, hbare, hbare']⟩
      simp only [items, List.append_assoc, List.cons_append]
      rw [run_bind_eq run_advance, Feed.next_eq_start _ (by simp), run_bind_eq hrun,
        run_bind_eq run_peek, if_pos (by simpa using hk), run_bind_eq run_advance, Feed.next_cons,
        run_bind_eq hrun']
      rfl

lemma reads_list {es : List Expr} (hes : ∀ e ∈ es, e.Reads) {n : Nat} {close : Kind}
    {what : String} {ts : List Token} {c t : Token} {r : List Token} (hfits : FitsAll es)
    (hts : ts.map Token.face = facesList es) (ht : t.kind = close)
    (hclose : close = .rparen ∨ close = .rbracket) (hn : 4 * ts.length + 4 ≤ n) :
    ∃ es', (list n close what).run ⟨c, ts ++ t :: r⟩ = .ok (es', ⟨t, r⟩) ∧
      bareList es' = bareList es := by
  obtain ⟨n, rfl⟩ : ∃ n', n = n' + 1 := ⟨n - 1, by omega⟩
  simp only [list]
  rw [run_bind_eq run_peek]
  cases es with
  | nil =>
    obtain rfl := List.map_eq_nil_iff.1 hts
    refine ⟨[], ?_, rfl⟩
    rw [List.nil_append, if_pos (by simpa using ht), run_bind_eq run_advance]
    rfl
  | cons e es =>
    have hrank : t.kind.rank ≤ Level.lowest.rank := by
      rw [ht]
      rcases hclose with rfl | rfl <;> decide
    obtain ⟨es', c', hrun, hbare⟩ := reads_items hes (c := c) (r := r) hfits (by simp) hts hrank
      (n := n) (by omega)
    refine ⟨es', ?_, hbare⟩
    rw [if_neg, run_bind_eq hrun, run_bind_eq (run_expect ht)]
    · rfl
    · obtain ⟨hparen, hbracket⟩ := items_peek hrun
      rcases hclose with rfl | rfl
      · exact hparen
      · exact hbracket

lemma reads_array (s : Span) {elements : List Expr} (h : ∀ e ∈ elements, e.Reads) :
    (Expr.array s elements).Reads := by
  refine reads_of_enclosed rfl ?_
  intro rank n o ts close r hfits hk hts hk' hn
  obtain ⟨es', hrun, hbare⟩ := reads_list h (c := o) (r := r) hfits hts hk' (.inr rfl) (n :=
    n) (by omega)
  obtain ⟨s', hs⟩ := exists_spanOf ⟨close, r⟩ o
  refine ⟨.array s' es', ?_, by simp [Expr.bare, hbare]⟩
  simp only [operand]
  rw [run_bind_eq run_current]
  simp only [hk]
  rw [run_bind_eq hrun, run_bind_eq hs]
  rfl

/-! ### Object literals -/

lemma reads_key {k : Key} {o : Token} {r : List Token} (hfits : k.Fits) (ho : o.face = k.face) :
    ∃ k', key.run ⟨o, r⟩ = .ok (k', ⟨o, r⟩) ∧ k'.bare = k.bare := by
  obtain ⟨s', hs⟩ := exists_spanOf ⟨o, r⟩ o
  simp only [key]
  rw [run_bind_eq run_current]
  cases k with
  | word s name =>
    obtain ⟨hk, hname, -⟩ := Token.of_face ho
    refine ⟨.word s' name, ?_, rfl⟩
    simp only [hk, hname, Token.isWord_ofWord, if_true]
    rw [run_bind_eq hs]
    rfl
  | string s value raw =>
    obtain ⟨hk, hvalue, hraw⟩ := Token.of_face_string ho
    refine ⟨.string s' value raw, ?_, rfl⟩
    simp only [hk, hvalue, hraw, Kind.isWord, Bool.false_eq_true, if_false]
    rw [run_bind_eq hs]
    rfl
  | number s raw =>
    obtain ⟨hk, hraw, -⟩ := Token.of_face ho
    refine ⟨.number s' raw, ?_, rfl⟩
    have hnumber : (number o).run ⟨o, r⟩ = .ok (raw, ⟨o, r⟩) :=
      run_number_iff.2 ⟨by rw [hraw]; exact hfits.2, hraw.symm, rfl⟩
    simp only [hk, Kind.isWord, Bool.false_eq_true, if_false]
    rw [run_bind_eq hs, run_bind_eq hnumber]
    rfl

lemma Key.face_kind (k : Key) : k.face.kind ≠ .rbrace := by
  cases k with
  | word s name =>
    intro h
    have hword := Token.isWord_ofWord name
    rw [show Kind.ofWord name = .rbrace from h] at hword
    cases hword
  | string s value raw => exact fun h => by cases h
  | number s raw => exact fun h => by cases h

lemma reads_properties {ps : List Property} (hps : ∀ p ∈ ps, p.value.Reads) {n : Nat}
    {ts : List Token} {c t : Token} {r : List Token} (hfits : Property.FitsAll ps)
    (hts : ts.map Token.face = Property.facesList ps) (ht : t.kind = .rbrace)
    (hn : 4 * ts.length + 1 ≤ n) :
    ∃ ps', (properties n).run ⟨c, ts ++ t :: r⟩ = .ok (ps', ⟨t, r⟩) ∧
      Property.bareList ps' = Property.bareList ps := by
  induction ps generalizing n ts c with
  | nil =>
    obtain ⟨n, rfl⟩ : ∃ n', n = n' + 1 := ⟨n - 1, by omega⟩
    obtain rfl := List.map_eq_nil_iff.1 hts
    refine ⟨[], ?_, rfl⟩
    simp only [properties]
    rw [run_bind_eq run_peek, List.nil_append, if_pos (by simpa using ht),
      run_bind_eq run_advance]
    rfl
  | cons p ps ih =>
    obtain ⟨n, rfl⟩ : ∃ n', n = n' + 1 := ⟨n - 1, by omega⟩
    obtain ⟨k, v⟩ := p
    obtain ⟨hkey, hvalue, hrest⟩ := hfits
    have hv : v.Reads := hps (.mk k v) (by simp)
    have hps' : ∀ p ∈ ps, p.value.Reads := fun p hp => hps p (by simp [hp])
    simp only [properties]
    cases ps with
    | nil =>
      obtain ⟨o, ts, rfl, ho, hts⟩ := List.map_eq_cons_iff.1 hts
      obtain ⟨colon, us, rfl, hcolon, hus⟩ := List.map_eq_cons_iff.1 hts
      simp only [List.length_cons] at hn
      have hk : o.kind ≠ .rbrace := fun h => k.face_kind (by rw [← ho]; exact h)
      obtain ⟨k', hkrun, hkbare⟩ := reads_key (r := colon :: us ++ t :: r) hkey ho
      obtain ⟨v', c', hrun, hbare⟩ := hv.complete .sequence n r hvalue hus (t := t)
        (by rw [ht]; decide) (by decide) (by omega)
      obtain ⟨ps', hrun', hbare'⟩ := ih hps' (n := n) (c := c') hrest
        (List.map_nil (f := Token.face)) (by simp; omega)
      refine ⟨.mk k' v' :: ps', ?_, by simp [Property.bareList, hkbare, hbare, hbare']⟩
      rw [run_bind_eq run_peek, if_neg (by simpa using hk), run_bind_eq run_advance,
        List.cons_append, Feed.next_cons, run_bind_eq hkrun, List.cons_append,
        run_bind_eq (run_expect (Token.of_face hcolon).1), run_bind_eq run_advance,
        Feed.next_eq_start _ (by simp), run_bind_eq hrun, run_bind_eq run_peek,
        if_neg (by simp [ht]), if_pos (by simpa using ht)]
      exact run_bind_eq hrun' _
    | cons q ps =>
      obtain ⟨us, vs, rfl, hus, hvs⟩ := List.map_eq_append_iff.1 hts
      obtain ⟨o, us, rfl, ho, hus⟩ := List.map_eq_cons_iff.1 hus
      obtain ⟨colon, us, rfl, hcolon, hus⟩ := List.map_eq_cons_iff.1 hus
      obtain ⟨comma, vs, rfl, hcomma, hvs⟩ := List.map_eq_cons_iff.1 hvs
      obtain ⟨hk', -⟩ := Token.of_face hcomma
      simp only [List.length_cons, List.length_append] at hn
      have hk : o.kind ≠ .rbrace := fun h => k.face_kind (by rw [← ho]; exact h)
      obtain ⟨k', hkrun, hkbare⟩ := reads_key (r := colon :: us ++ comma :: (vs ++ t :: r)) hkey ho
      obtain ⟨v', c', hrun, hbare⟩ := hv.complete .sequence n (vs ++ t :: r) hvalue hus (t := comma)
        (by rw [hk']; decide) (by decide) (by omega)
      obtain ⟨ps', hrun', hbare'⟩ := ih hps' (n := n) (c := comma) hrest hvs (by omega)
      refine ⟨.mk k' v' :: ps', ?_, by simp [Property.bareList, hkbare, hbare, hbare']⟩
      simp only [List.append_assoc, List.cons_append] at hkrun ⊢
      rw [run_bind_eq run_peek, if_neg (by simpa using hk), run_bind_eq run_advance,
        Feed.next_cons, run_bind_eq hkrun,
        run_bind_eq (run_expect (Token.of_face hcolon).1), run_bind_eq run_advance,
        Feed.next_eq_start _ (by simp), run_bind_eq hrun, run_bind_eq run_peek,
        if_pos (by simpa using hk'), run_bind_eq run_advance, Feed.next_cons]
      exact run_bind_eq hrun' _

lemma reads_object (s : Span) {ps : List Property} (h : ∀ p ∈ ps, p.value.Reads) :
    (Expr.object s ps).Reads := by
  refine reads_of_enclosed rfl ?_
  intro rank n o ts close r hfits hk hts hk' hn
  obtain ⟨ps', hrun, hbare⟩ := reads_properties h (c := o) (r := r) hfits hts hk' (n :=
    n) (by omega)
  obtain ⟨s', hs⟩ := exists_spanOf ⟨close, r⟩ o
  refine ⟨.object s' ps', ?_, by simp [Expr.bare, hbare]⟩
  simp only [operand]
  rw [run_bind_eq run_current]
  simp only [hk]
  rw [run_bind_eq hrun, run_bind_eq hs]
  rfl

/-! ### Operators -/

lemma BinaryOp.kind_rank (op : BinaryOp) : op.kind.rank ≤ Level.unary.rank := by
  cases op <;> decide

lemma reads_binary (s : Span) (op : BinaryOp) {left right : Expr} (hl : left.Reads)
    (hr : right.Reads) : (Expr.binary s op left right).Reads := by
  refine reads_of_extended hl rfl (fun h => ⟨h.1, h.2.1, h.2.2.1⟩) ?_
  intro rank m o us t r left' hfits hk hus hends hm hbare
  obtain ⟨-, -, -, hright⟩ := hfits
  obtain ⟨right', c, hrun, hbare'⟩ := hr.complete (Level.ofKind op.kind) m r hright hus
    (of_decide_eq_true hends) op.kind_rank (by omega)
  obtain ⟨s', hs'⟩ := exists_spanAfter ⟨c, t :: r⟩ left'
  refine ⟨.binary s' op left' right', c, ?_, by simp [Expr.bare, hbare, hbare']⟩
  have hright' : (do
      advance
      let right ← expr m (Level.ofKind op.kind)
      return .binary (← spanAfter left') op left' right : Reading Expr).run ⟨o, us ++ t :: r⟩ =
      .ok (.binary s' op left' right', ⟨c, t :: r⟩) := by
    rw [run_bind_eq run_advance, Feed.next_eq_start _ (by simp), run_bind_eq hrun,
      run_bind_eq hs']
    rfl
  simp only [extend]
  rw [run_bind_eq run_current]
  cases op <;> simp only [hk, BinaryOp.kind, binaryOp?] <;> exact hright'

lemma reads_logical (s : Span) (op : LogicalOp) {left right : Expr} (hl : left.Reads)
    (hr : right.Reads) : (Expr.logical s op left right).Reads := by
  refine reads_of_extended hl rfl (fun h => ⟨h.1, h.2.1, h.2.2.1⟩) ?_
  intro rank m o us t r left' hfits hk hus hends hm hbare
  obtain ⟨-, -, -, hright⟩ := hfits
  obtain ⟨m, rfl⟩ : ∃ m', m = m' + 1 := ⟨m - 1, by omega⟩
  obtain ⟨right', c, hrun, hbare'⟩ := hr.complete (Level.ofKind op.kind) m r hright hus
    (of_decide_eq_true hends) (by cases op <;> decide) (by omega)
  obtain ⟨s', hs'⟩ := exists_spanAfter ⟨c, t :: r⟩ left'
  refine ⟨.logical s' op left' right', c, ?_, by simp [Expr.bare, hbare, hbare']⟩
  have hlogical : (Reading.logical (m + 1) o op left').run ⟨o, us ++ t :: r⟩ =
      .ok (.logical s' op left' right', ⟨c, t :: r⟩) := by
    simp only [Reading.logical, hk]
    rw [run_bind_eq run_advance, Feed.next_eq_start _ (by simp), run_bind_eq hrun,
      run_bind_eq hs']
    rfl
  simp only [extend]
  rw [run_bind_eq run_current]
  cases op <;> simp only [hk, LogicalOp.kind] <;> exact hlogical

lemma reads_cond (s : Span) {test consequent alternate : Expr} (ht : test.Reads)
    (hc : consequent.Reads) (ha : alternate.Reads) :
    (Expr.cond s test consequent alternate).Reads := by
  refine reads_of_extended ht rfl (fun h => ⟨h.1, h.2.1, h.2.2.1⟩) ?_
  intro rank m o us t r test' hfits hk hall hends hm hbare
  obtain ⟨-, -, -, hconsequent, halternate⟩ := hfits
  obtain ⟨us, vs, rfl, hus, hlast⟩ := List.map_eq_append_iff.1 hall
  obtain ⟨colon, vs, rfl, hcolon, hvs⟩ := List.map_eq_cons_iff.1 hlast
  obtain ⟨hk', -⟩ := Token.of_face hcolon
  simp only [List.length_append, List.length_cons] at hm
  obtain ⟨consequent', c₁, hrun₁, hbare₁⟩ := hc.complete .sequence m (vs ++ t :: r) hconsequent hus
    (t := colon) (by rw [hk']; decide) (by decide) (by omega)
  obtain ⟨alternate', c₂, hrun₂, hbare₂⟩ := ha.complete .pipe m r halternate hvs
    (of_decide_eq_true hends) (by decide) (by omega)
  obtain ⟨s', hs'⟩ := exists_spanAfter ⟨c₂, t :: r⟩ test'
  refine ⟨.cond s' test' consequent' alternate', c₂, ?_,
    by simp [Expr.bare, hbare, hbare₁, hbare₂]⟩
  simp only [extend, List.append_assoc, List.cons_append]
  rw [run_bind_eq run_current]
  simp only [hk]
  rw [run_bind_eq run_advance, Feed.next_eq_start _ (by simp), run_bind_eq hrun₁,
    run_bind_eq (run_expect hk'), run_bind_eq run_advance, Feed.next_eq_start _ (by simp),
    run_bind_eq hrun₂, run_bind_eq hs']
  rfl

lemma reads_assign (s : Span) (op : AssignOp) {target value : Expr} (ht : target.Reads)
    (hv : value.Reads) : (Expr.assign s op target value).Reads := by
  refine reads_of_extended ht rfl ?_ ?_
  · rintro rank ⟨hrank, hfits, hassignable, -⟩
    exact ⟨by cases op <;> exact hrank, hfits, endsAt_of_isAssignable hassignable _⟩
  intro rank m o us t r target' hfits hk hus hends hm hbare
  obtain ⟨-, -, hassignable, hvalue⟩ := hfits
  obtain ⟨m, rfl⟩ : ∃ m', m = m' + 1 := ⟨m - 1, by omega⟩
  obtain ⟨value', c, hrun, hbare'⟩ := hv.complete .sequence m r hvalue hus
    (of_decide_eq_true hends) (by decide) (by omega)
  obtain ⟨s', hs'⟩ := exists_spanAfter ⟨c, t :: r⟩ target'
  refine ⟨.assign s' op target' value', c, ?_, by simp [Expr.bare, hbare, hbare']⟩
  have hassign : (Reading.assignment (m + 1) o op target').run ⟨o, us ++ t :: r⟩ =
      .ok (.assign s' op target' value', ⟨c, t :: r⟩) := by
    simp only [Reading.assignment]
    rw [run_bind_eq (run_assignable_iff.2 ⟨isAssignable_of_bare hbare hassignable, rfl⟩),
      run_bind_eq run_advance, Feed.next_eq_start _ (by simp), run_bind_eq hrun,
      run_bind_eq hs']
    rfl
  simp only [extend]
  rw [run_bind_eq run_current]
  cases op <;> simp only [hk, AssignOp.kind] <;> exact hassign

lemma reads_updateAfter (s : Span) (op : UpdateOp) {target : Expr} (h : target.Reads) :
    (Expr.update s op false target).Reads := by
  refine reads_of_extended h rfl ?_ ?_
  · rintro rank ⟨hassignable, hrank, hfits⟩
    exact ⟨by cases op <;> exact hrank, hfits, endsAt_of_isAssignable hassignable _⟩
  intro rank m o us t r target' hfits hk hus hends hm hbare
  obtain ⟨hassignable, -⟩ := hfits
  obtain rfl := List.map_eq_nil_iff.1 hus
  obtain ⟨s', hs'⟩ := exists_spanAfter ⟨o, t :: r⟩ target'
  refine ⟨.update s' op false target', o, ?_, by simp [Expr.bare, hbare]⟩
  simp only [extend, List.nil_append]
  rw [run_bind_eq run_current]
  cases op <;> simp only [hk, UpdateOp.kind] <;>
    rw [run_bind_eq (run_assignable_iff.2 ⟨isAssignable_of_bare hbare hassignable, rfl⟩),
      run_bind_eq hs'] <;> rfl

lemma reads_call (s : Span) {callee : Expr} {arguments : List Expr} (hc : callee.Reads)
    (ha : ∀ e ∈ arguments, e.Reads) : (Expr.call s callee arguments).Reads := by
  refine reads_of_extended hc rfl (fun h => ⟨h.1, h.2.1, h.2.2.1⟩) ?_
  intro rank m o us t r callee' hfits hk hall hends hm hbare
  obtain ⟨-, -, -, harguments⟩ := hfits
  obtain ⟨us, vs, rfl, hus, hlast⟩ := List.map_eq_append_iff.1 hall
  obtain ⟨close, rfl, hclose⟩ := List.map_eq_singleton_iff.1 hlast
  simp only [List.length_append, List.length_cons] at hm
  obtain ⟨es', hrun, hbare'⟩ := reads_list ha (c := o) (r := t :: r) harguments hus
    (Token.of_face hclose).1 (.inl rfl) (n := m) (by omega)
  obtain ⟨s', hs'⟩ := exists_spanAfter ⟨close, t :: r⟩ callee'
  refine ⟨.call s' callee' es', close, ?_, by simp [Expr.bare, hbare, hbare']⟩
  simp only [extend, List.append_assoc, List.singleton_append]
  rw [run_bind_eq run_current]
  simp only [hk]
  rw [run_bind_eq hrun, run_bind_eq hs']
  rfl

lemma reads_member (s : Span) {object : Expr} (ns : Span) (name : String) (h : object.Reads) :
    (Expr.member s object ns name).Reads := by
  refine reads_of_extended h rfl (fun h => ⟨h.1, h.2.1, h.2.2.1⟩) ?_
  intro rank m o us t r object' hfits hk hus hends hm hbare
  obtain ⟨-, -, -, hname⟩ := hfits
  obtain ⟨w, rfl, hw⟩ := List.map_eq_singleton_iff.1 hus
  obtain ⟨hk', hname', -⟩ := Token.of_face hw
  obtain ⟨s₁, hs₁⟩ := exists_spanOf ⟨w, t :: r⟩ w
  obtain ⟨s₂, hs₂⟩ := exists_spanAfter ⟨w, t :: r⟩ object'
  refine ⟨.member s₂ object' s₁ name, w, ?_, by simp [Expr.bare, hbare]⟩
  simp only [extend, List.singleton_append]
  rw [run_bind_eq run_current]
  simp only [hk]
  rw [run_bind_eq run_advance, Feed.next_cons, run_bind_eq run_current]
  simp only [hk', hname', Token.isWord_ofWord, if_true]
  rw [run_bind_eq hs₁, run_bind_eq hs₂]
  rfl

lemma reads_index (s : Span) {object index : Expr} (ho : object.Reads) (hi : index.Reads) :
    (Expr.index s object index).Reads := by
  refine reads_of_extended ho rfl (fun h => ⟨h.1, h.2.1, h.2.2.1⟩) ?_
  intro rank m o us t r object' hfits hk hall hends hm hbare
  obtain ⟨-, -, -, hindex⟩ := hfits
  obtain ⟨us, vs, rfl, hus, hlast⟩ := List.map_eq_append_iff.1 hall
  obtain ⟨close, rfl, hclose⟩ := List.map_eq_singleton_iff.1 hlast
  obtain ⟨hk', -⟩ := Token.of_face hclose
  simp only [List.length_append, List.length_cons] at hm
  obtain ⟨index', c, hrun, hbare'⟩ := hi.complete .lowest m (t :: r) hindex hus
    (t := close) (by rw [hk']; decide) (by decide) (by omega)
  obtain ⟨s', hs'⟩ := exists_spanAfter ⟨close, t :: r⟩ object'
  refine ⟨.index s' object' index', close, ?_, by simp [Expr.bare, hbare, hbare']⟩
  simp only [extend, List.append_assoc, List.singleton_append]
  rw [run_bind_eq run_current]
  simp only [hk]
  rw [run_bind_eq run_advance, Feed.next_eq_start _ (by simp), run_bind_eq hrun,
    run_bind_eq (run_expect hk'), run_bind_eq hs']
  rfl

lemma reads_seq (s : Span) {es : List Expr} (h : ∀ e ∈ es, e.Reads) : (Expr.seq s es).Reads := by
  match es, h with
  | [], _ | [_], _ =>
    intro level n ts t r hfits
    exact hfits.2.elim
  | first :: second :: es, h =>
    refine reads_of_extended (h first List.mem_cons_self) rfl (fun h => ⟨h.1, h.2.1, h.2.2.1⟩) ?_
    intro rank m o us t r first' hfits hk hus hends hm hbare
    obtain ⟨-, -, -, hitems⟩ := hfits
    have hsecond : ∀ e ∈ second :: es, e.Reads := fun e he => h e (List.mem_cons_of_mem _ he)
    obtain ⟨es', c, hrun, hbare'⟩ := reads_items hsecond (c := o) (r := r) hitems (by simp) hus
      (of_decide_eq_true hends) (n := m) (by omega)
    obtain ⟨s', hs'⟩ := exists_spanAfter ⟨c, t :: r⟩ first'
    refine ⟨.seq s' (first' :: es'), c, ?_, ?_⟩
    · simp only [extend]
      rw [run_bind_eq run_current]
      simp only [hk]
      rw [sequence_eq_items, run_bind_eq hrun, run_bind_eq hs']
      rfl
    · rw [Expr.bare, Expr.bare, bareList, hbare, hbare', ← bareList]

/-! ### Decorators -/

lemma reads_decorator {d : Decorator} (hd : ∀ e ∈ d.arguments, e.Reads) {n : Nat}
    {ts : List Token} {c t : Token} {r : List Token} (hfits : Decorator.FitsAll [d])
    (hts : ts.map Token.face = Decorator.faces d) (ht : d.parens = false → t.kind ≠ .lparen)
    (hn : 4 * ts.length ≤ n + 1) :
    ∃ d' c', (chain (n + 1)).run ⟨c, ts ++ t :: r⟩ = (links n d').run ⟨c', t :: r⟩ ∧
      Decorator.bareList [d'] = Decorator.bareList [d] := by
  obtain ⟨s, name, arguments, parens⟩ := d
  obtain ⟨hname, hall, hnone, -⟩ := hfits
  simp only [chain]
  cases parens with
  | false =>
    obtain ⟨o, rfl, ho⟩ := List.map_eq_singleton_iff.1 hts
    obtain ⟨hk, hname', -⟩ := Token.of_face ho
    obtain ⟨s', hs⟩ := exists_spanOf ⟨o, t :: r⟩ o
    refine ⟨.mk s' name [] false, o, ?_, by rw [hnone rfl]; rfl⟩
    rw [List.singleton_append, run_bind_eq (run_expect hk), run_bind_eq run_current,
      run_bind_eq run_peek]
    simp only [Feed.peek_cons, ht rfl, if_false, hname', decide_false]
    rw [run_bind_eq (run_pure _), run_bind_eq hs]
    rfl
  | true =>
    obtain ⟨o, ts, rfl, ho, hrest⟩ := List.map_eq_cons_iff.1 hts
    obtain ⟨l, ts, rfl, hl, hmore⟩ := List.map_eq_cons_iff.1 hrest
    obtain ⟨us, vs, rfl, hus, hlast⟩ := List.map_eq_append_iff.1 hmore
    obtain ⟨close, rfl, hclose⟩ := List.map_eq_singleton_iff.1 hlast
    obtain ⟨hk, hname', -⟩ := Token.of_face ho
    obtain ⟨hk', -⟩ := Token.of_face hl
    simp only [List.length_cons, List.length_append] at hn
    obtain ⟨es', hrun, hbare⟩ := reads_list hd (c := l) (r := t :: r) hall hus
      (Token.of_face hclose).1 (.inl rfl) (n := n) (by omega)
    obtain ⟨s', hs⟩ := exists_spanOf ⟨close, t :: r⟩ o
    refine ⟨.mk s' name es' true, close, ?_, ?_⟩
    · simp only [List.cons_append, List.append_assoc, List.nil_append]
      rw [run_bind_eq (run_expect hk), run_bind_eq run_current, run_bind_eq run_peek]
      simp only [Feed.peek_cons, hk', if_true, hname', decide_true]
      rw [run_bind_eq run_advance, Feed.next_cons, run_bind_eq hrun, run_bind_eq hs]
      rfl
    · simp only [Decorator.bareList]
      rw [hbare]
      rfl

lemma reads_chain {ds : List Decorator} (hds : ∀ d ∈ ds, ∀ e ∈ d.arguments, e.Reads) {n : Nat}
    {ts : List Token} {c t : Token} {r : List Token} (hne : ds ≠ [])
    (hfits : Decorator.FitsAll ds) (hts : ts.map Token.face = Decorator.facesChain ds)
    (hpipe : t.kind ≠ .pipe) (hparen : Decorator.lastParens ds = false → t.kind ≠ .lparen)
    (hn : 4 * ts.length + 1 ≤ n) :
    ∃ ds' c', (chain n).run ⟨c, ts ++ t :: r⟩ = .ok (ds', ⟨c', t :: r⟩) ∧
      Decorator.bareList ds' = Decorator.bareList ds := by
  induction ds generalizing n ts c with
  | nil => exact absurd rfl hne
  | cons d ds ih =>
    obtain ⟨n, rfl⟩ : ∃ n', n = n' + 1 := ⟨n - 1, by omega⟩
    have hd : ∀ e ∈ d.arguments, e.Reads := hds d (by simp)
    obtain ⟨s, name, arguments, parens⟩ := d
    obtain ⟨hname, hall, hnone, hrest⟩ := hfits
    cases ds with
    | nil =>
      obtain ⟨d', c', hrun, hbare⟩ := reads_decorator hd (c := c) (r := r) (n := n)
        ⟨hname, hall, hnone, trivial⟩ hts hparen (by omega)
      refine ⟨[d'], c', ?_, hbare⟩
      rw [hrun]
      simp only [links]
      rw [run_bind_eq run_peek, if_neg (by simpa using hpipe)]
      rfl
    | cons d₂ ds =>
      obtain ⟨us, vs, rfl, hus, hmore⟩ := List.map_eq_append_iff.1 hts
      obtain ⟨bar, vs, rfl, hbar, hvs⟩ := List.map_eq_cons_iff.1 hmore
      obtain ⟨hk, -⟩ := Token.of_face hbar
      simp only [List.length_append, List.length_cons] at hn
      obtain ⟨d', c', hrun, hbare⟩ := reads_decorator hd (c := c) (r := vs ++ t :: r) (t := bar)
        (n := n) ⟨hname, hall, hnone, trivial⟩ hus (by simp [hk]) (by omega)
      obtain ⟨ds', c'', hrun', hbare'⟩ := ih (fun d hd => hds d (List.mem_cons_of_mem _ hd))
        (c := bar) (n := n) (by simp) hrest hvs hparen (by omega)
      refine ⟨d' :: ds', c'', ?_, ?_⟩
      · rw [List.append_assoc, List.cons_append, hrun]
        simp only [links]
        rw [run_bind_eq run_peek, if_pos (by simpa using hk), run_bind_eq run_advance,
          Feed.next_cons]
        exact run_bind_eq hrun' _
      · obtain ⟨s', name', arguments', parens'⟩ := d'
        simp only [Decorator.bareList, List.cons.injEq, and_true] at hbare hbare' ⊢
        exact ⟨hbare, hbare'⟩

lemma reads_pipe (s : Span) {entity : Expr} (cs : Span) {ds : List Decorator} (he : entity.Reads)
    (hds : ∀ d ∈ ds, ∀ e ∈ d.arguments, e.Reads) : (Expr.pipe s entity cs ds).Reads := by
  refine reads_of_extended he rfl (fun h => ⟨h.1, h.2.1, h.2.2.1⟩) ?_
  intro rank m o us t r entity' hfits hk hus hends hm hbare
  obtain ⟨-, -, -, hne, hchain⟩ := hfits
  simp only [Expr.endsAt, Bool.and_eq_true, bne_iff_ne, Bool.or_eq_true] at hends
  obtain ⟨ds', c, hrun, hbare'⟩ := reads_chain hds (c := o) (r := r) (n := m) hne hchain hus
    hends.1 (fun hlast => hends.2.resolve_left (by simp [hlast])) (by omega)
  obtain ⟨s', hs'⟩ := exists_spanAfter ⟨c, t :: r⟩ entity'
  cases ds' with
  | nil =>
    cases ds with
    | nil => exact absurd rfl hne
    | cons d ds =>
      obtain ⟨s, name, arguments, parens⟩ := d
      cases hbare'
  | cons d ds' =>
    obtain ⟨cs', hcs⟩ := exists_spanFrom ⟨c, t :: r⟩ d.span.startLine d.span.startColumn
    refine ⟨.pipe s' entity' cs' (d :: ds'), c, ?_, by simp [Expr.bare, hbare, hbare']⟩
    simp only [extend]
    rw [run_bind_eq run_current]
    simp only [hk]
    rw [run_bind_eq hrun]
    simp only
    rw [run_bind_eq hcs, run_bind_eq hs']
    rfl

/-! ### All expressions -/

mutual
/-- The tokens of every expression are read as that expression, if it fits. -/
theorem reads : (e : Expr) → e.Reads
  | .this s => reads_this s
  | .ident s name => reads_ident s name
  | .lit s l => reads_lit s l
  | .array s elements => reads_array s (readsAll elements)
  | .object s ps => reads_object s (readsProperties ps)
  | .seq s items => reads_seq s (readsAll items)
  | .unary s op argument => reads_unary s op argument.reads
  | .binary s op left right => reads_binary s op left.reads right.reads
  | .logical s op left right => reads_logical s op left.reads right.reads
  | .cond s test consequent alternate => reads_cond s test.reads consequent.reads alternate.reads
  | .assign s op target value => reads_assign s op target.reads value.reads
  | .update s op true target => reads_updateBefore s op target.reads
  | .update s op false target => reads_updateAfter s op target.reads
  | .call s callee arguments => reads_call s callee.reads (readsAll arguments)
  | .member s base ns name => reads_member s ns name base.reads
  | .index s base i => reads_index s base.reads i.reads
  | .pipe s entity cs chain => reads_pipe s cs entity.reads (readsChain chain)
  | .paren s inner => reads_paren s inner.reads

theorem readsAll : (es : List Expr) → ∀ e ∈ es, e.Reads
  | [] => by simp
  | e :: es => by
    rintro x (_ | ⟨_, hx⟩)
    · exact e.reads
    · exact readsAll es x hx

theorem readsProperties : (ps : List Property) → ∀ p ∈ ps, p.value.Reads
  | [] => by simp
  | .mk k v :: ps => by
    rintro x (_ | ⟨_, hx⟩)
    · exact v.reads
    · exact readsProperties ps x hx

theorem readsChain : (ds : List Decorator) → ∀ d ∈ ds, ∀ e ∈ d.arguments, e.Reads
  | [] => by simp
  | .mk s name arguments parens :: ds => by
    rintro x (_ | ⟨_, hx⟩)
    · exact readsAll arguments
    · exact readsChain ds x hx
end

end Expr

/-! ### Programs -/

open Reading in
/-- Expressions with semicolons between them are read as statements. -/
lemma Expr.reads_statements {es : List Expr} (hfits : ∀ e ∈ es, e.Fits Level.lowest.rank)
    {n m : Nat} {ts : List Token} {t : Token} (hts : ts.map Token.face = Expr.facesLines es)
    (ht : t.kind = .eof) (hn : 4 * ts.length + 2 ≤ n) (hm : es.length + 1 ≤ m) :
    ∃ ss f', (statements n m).run (.start (ts ++ [t])) = .ok (ss, f') ∧
      (ss.filterMap Stmt.expr?).map Expr.bare = es.map Expr.bare := by
  obtain ⟨m, rfl⟩ : ∃ m', m = m' + 1 := ⟨m - 1, by omega⟩
  induction es generalizing ts m with
  | nil =>
    obtain rfl := List.map_eq_nil_iff.1 hts
    refine ⟨[], ⟨t, []⟩, ?_, rfl⟩
    simp only [statements]
    rw [run_bind_eq run_current, List.nil_append, if_pos (by simpa [Feed.start] using ht)]
    rfl
  | cons e es ih =>
    obtain ⟨m, rfl⟩ : ∃ m', m = m' + 1 := ⟨m - 1, by simp only [List.length_cons] at hm; omega⟩
    have hfit : e.Fits Level.lowest.rank := hfits e (by simp)
    rw [statements]
    cases es with
    | nil =>
      obtain ⟨e', c, hrun, hbare⟩ := e.reads.complete .lowest n [] hfit hts (t := t)
        (by rw [ht]; decide) (by decide) hn
      obtain ⟨-, -, hsemicolon, heof⟩ := expr_current hrun
      obtain ⟨s, hs⟩ := exists_spanOf ⟨c, [t]⟩ (Feed.start (ts ++ [t])).current
      have hstmt : (statement n).run (.start (ts ++ [t])) = .ok (.expr s e', ⟨c, [t]⟩) := by
        simp only [statement]
        rw [run_bind_eq run_current, if_neg hsemicolon, run_bind_eq hrun, run_bind_eq hs,
          run_bind_eq run_peek, if_neg (by simp [ht]), if_neg (by simp [ht]),
          if_pos (by simp [ht])]
        rfl
      refine ⟨[.expr s e'], ⟨t, []⟩, ?_, by simp [Stmt.expr?, hbare]⟩
      rw [run_bind_eq run_current, if_neg heof, run_bind_eq hstmt, run_bind_eq run_advance,
        Feed.next_cons]
      simp only [statements]
      rw [bind_assoc, run_bind_eq run_current, if_pos (by simpa using ht)]
      rfl
    | cons f es =>
      obtain ⟨us, vs, rfl, hus, hrest⟩ := List.map_eq_append_iff.1 hts
      obtain ⟨semi, vs, rfl, hsemi, hvs⟩ := List.map_eq_cons_iff.1 hrest
      obtain ⟨hk, -⟩ := Token.of_face hsemi
      simp only [List.length_append, List.length_cons] at hn hm
      rw [List.append_assoc, List.cons_append]
      obtain ⟨e', c, hrun, hbare⟩ := e.reads.complete .lowest n (vs ++ [t]) hfit hus (t := semi)
        (by rw [hk]; decide) (by decide) (by omega)
      obtain ⟨-, -, hsemicolon, heof⟩ := expr_current hrun
      obtain ⟨s, hs⟩ := exists_spanOf ⟨c, semi :: (vs ++ [t])⟩
        (Feed.start (us ++ semi :: (vs ++ [t]))).current
      have hstmt : (statement n).run (.start (us ++ semi :: (vs ++ [t]))) =
          .ok (.expr s e', ⟨semi, vs ++ [t]⟩) := by
        simp only [statement]
        rw [run_bind_eq run_current, if_neg hsemicolon, run_bind_eq hrun, run_bind_eq hs,
          run_bind_eq run_peek, if_pos (by simpa using hk), run_bind_eq run_advance]
        rfl
      obtain ⟨ss, f', hrun', hbare'⟩ := ih (fun x hx => hfits x (List.mem_cons_of_mem _ hx)) hvs
        (by omega) m (by simp only [List.length_cons]; omega)
      refine ⟨.expr s e' :: ss, f', ?_, ?_⟩
      · rw [run_bind_eq run_current, if_neg heof, run_bind_eq hstmt, run_bind_eq run_advance,
          Feed.next_eq_start _ (by simp), run_bind_eq hrun']
        rfl
      · change e'.bare :: (ss.filterMap Stmt.expr?).map Expr.bare = _
        rw [hbare, hbare']
        rfl

lemma Expr.length_le_facesLines (es : List Expr) :
    es.length ≤ (Expr.facesLines es).length + 1 := by
  fun_induction Expr.facesLines es with
  | case1 => simp
  | case2 e => simp
  | case3 e f rest ih =>
    simp only [List.length_cons, List.length_append] at ih ⊢
    omega

/-- A text whose tokens are those of fitting expressions is read as these expressions. -/
theorem Program.parse_of_faces {text : String} {es : List Expr}
    (hfits : ∀ e ∈ es, e.Fits Level.lowest.rank)
    (h : (Token.all text).map Token.face = Expr.facesLines es ++ [Face.atEnd]) :
    ∃ q, Program.parse text = .ok q ∧ q.tree = es.map Expr.bare := by
  obtain ⟨ts, us, hall, hts, hus⟩ := List.map_eq_append_iff.1 h
  obtain ⟨t, rfl, ht⟩ := List.map_eq_singleton_iff.1 hus
  have hlen := Expr.length_le_facesLines es
  rw [← hts, List.length_map] at hlen
  have hall' : (Token.all text).length = ts.length + 1 := by rw [hall]; simp
  obtain ⟨ss, f', hrun, hbare⟩ := Expr.reads_statements hfits hts (Token.of_face ht).1
    (n := 4 * (Token.all text).length + 8) (m := (Token.all text).length + 1) (by omega) (by omega)
  rw [← hall] at hrun
  obtain ⟨q, hq, rfl⟩ := Program.parse_iff.2 ⟨f', hrun⟩
  exact ⟨q, hq, hbare⟩

/-- Two lists of fitting expressions with the same tokens are the same but for places. -/
theorem Expr.bare_of_faces {es fs : List Expr} (hes : ∀ e ∈ es, e.Fits Level.lowest.rank)
    (hfs : ∀ e ∈ fs, e.Fits Level.lowest.rank) (h : Expr.facesLines es = Expr.facesLines fs) :
    es.map Expr.bare = fs.map Expr.bare := by
  -- the tokens are read once, and what is read is both
  let ts : List Token := (Expr.facesLines es).map fun f =>
    ⟨f.kind, f.literal, f.raw, 0, 0, 0, f.newLine⟩
  have hts : ts.map Token.face = Expr.facesLines es := by
    simp only [ts, List.map_map]
    exact List.map_id _
  have hlen : ts.length = (Expr.facesLines es).length := List.length_map _
  have hes' := Expr.length_le_facesLines es
  have hfs' := Expr.length_le_facesLines fs
  rw [← h] at hfs'
  obtain ⟨ss, f', hrun, hbare⟩ := Expr.reads_statements hes hts (t := Token.atEnd) rfl
    (n := 4 * ts.length + 2) (m := ts.length + 2) (Nat.le_refl _) (by omega)
  obtain ⟨ss', f'', hrun', hbare'⟩ := Expr.reads_statements hfs (hts.trans h) (t := Token.atEnd) rfl
    (n := 4 * ts.length + 2) (m := ts.length + 2) (Nat.le_refl _) (by omega)
  rw [hrun] at hrun'
  cases hrun'
  rw [← hbare, hbare']

end Trellis
