/-
What is read fits the grammar.

Every function of the reader is described by one field of `Reading.Keeps`: the tree it gives fits
the level at which it was read, and it is complete before the token that follows.  That token may
also be a `++` or `--` on a new line, which no operand takes.  The fields are proved together by
induction on the bound of the reader, one lemma for each function.

A step of reading looks at the current token and the next one, moves on, or fails.  What each of
them does to the tokens comes first, in the form in which both directions of the theory use it: a
run that succeeds is taken apart by `run_bind_iff` and its companions, and put together by the
equations.
-/
import Mathlib.Tactic.Common
import Trellis.Proofs.Expr.Grammar

namespace Trellis

/-! ### Single steps of reading -/

/-- The token after the current one. -/
def Feed.peek (f : Feed) : Token := f.rest.head?.getD f.current

/-- The tokens after moving on by one. -/
def Feed.next (f : Feed) : Feed :=
  match f.rest with
  | [] => f
  | t :: ts => ⟨t, ts⟩

@[simp] lemma Feed.peek_cons (c t : Token) (ts : List Token) : Feed.peek ⟨c, t :: ts⟩ = t := rfl

@[simp] lemma Feed.next_cons (c t : Token) (ts : List Token) :
    Feed.next ⟨c, t :: ts⟩ = ⟨t, ts⟩ := rfl

/-- The span from a place to the end of the current token. -/
def Feed.spanFrom (f : Feed) (line column : Nat) : Span :=
  ⟨line, column, f.current.line, f.current.column + max 1 f.current.raw.utf8ByteSize - 1⟩

namespace Reading

variable {α β : Type} {f f' : Feed}

lemma run_bind_iff {x : Reading α} {g : α → Reading β} {b : β} :
    (x >>= g).run f = .ok (b, f') ↔
      ∃ a f₁, x.run f = .ok (a, f₁) ∧ (g a).run f₁ = .ok (b, f') := by
  constructor
  · intro h
    cases hx : x.run f with
    | error e =>
      rw [StateT.run_bind, hx] at h
      cases h
    | ok r =>
      rw [StateT.run_bind, hx] at h
      exact ⟨r.1, r.2, rfl, h⟩
  · rintro ⟨a, f₁, hx, hg⟩
    rw [StateT.run_bind, hx]
    exact hg

lemma run_pure_iff {a b : α} :
    (pure a : Reading α).run f = .ok (b, f') ↔ a = b ∧ f = f' := by
  constructor
  · intro h
    cases h
    exact ⟨rfl, rfl⟩
  · rintro ⟨rfl, rfl⟩
    rfl

/-- A run whose first part is known. -/
lemma run_bind_eq {x : Reading α} {a : α} {f₁ : Feed} (h : x.run f = .ok (a, f₁))
    (g : α → Reading β) : (x >>= g).run f = (g a).run f₁ := by
  rw [StateT.run_bind, h]
  rfl

@[simp] lemma run_current : current.run f = .ok (f.current, f) := rfl

@[simp] lemma run_peek : peek.run f = .ok (f.peek, f) := rfl

@[simp] lemma run_advance : advance.run f = .ok ((), f.next) := rfl

@[simp] lemma run_spanFrom (line column : Nat) :
    (spanFrom line column).run f = .ok (f.spanFrom line column, f) := rfl

@[simp] lemma run_spanOf (t : Token) :
    (spanOf t).run f = .ok (f.spanFrom t.line t.column, f) := rfl

@[simp] lemma run_spanAfter (e : Expr) : (spanAfter e).run f =
    .ok (f.spanFrom e.span.startLine e.span.startColumn, f) := rfl

@[simp] lemma run_pure (a : α) : (pure a : Reading α).run f = .ok (a, f) := rfl

lemma run_failAt (t : Token) (code : Fault.Code) (details : List (String × String)) (r : α × Feed) :
    (failAt t code details : Reading α).run f ≠ .ok r := by
  intro h
  cases h

lemma run_expected (t : Token) (what got : String) (r : α × Feed) :
    (expected t what got : Reading α).run f ≠ .ok r := run_failAt t _ _ r

lemma run_exhausted (r : α × Feed) : (exhausted : Reading α).run f ≠ .ok r := by
  intro h
  cases h

lemma run_noOperand (t : Token) (r : α × Feed) : (noOperand t : Reading α).run f ≠ .ok r := by
  unfold noOperand
  simp only
  split_ifs
  · intro h
    cases h
  · exact run_expected _ _ _ _
  · exact run_failAt _ _ _ _

lemma run_expect_iff {kind : Token.Kind} {what : String} :
    (expect kind what).run f = .ok ((), f') ↔ f.peek.kind = kind ∧ f' = f.next := by
  unfold expect
  rw [run_bind_eq run_peek]
  split
  · next h => simp [h, eq_comm]
  · next h => simp [h, run_expected]

lemma run_bind_expect_iff {kind : Token.Kind} {what : String} {g : Unit → Reading β} {b : β} :
    (expect kind what >>= g).run f = .ok (b, f') ↔ f.peek.kind = kind ∧
    (g ()).run f.next = .ok (b, f') := by
  rw [run_bind_iff]
  constructor
  · rintro ⟨_, f₁, hexpect, h⟩
    obtain ⟨hkind, rfl⟩ := run_expect_iff.1 hexpect
    exact ⟨hkind, h⟩
  · exact fun ⟨hkind, h⟩ => ⟨(), f.next, run_expect_iff.2 ⟨hkind, rfl⟩, h⟩

lemma run_expect {kind : Token.Kind} {what : String} {c t : Token} {ts : List Token}
    (h : t.kind = kind) : (expect kind what).run ⟨c, t :: ts⟩ = .ok ((), ⟨t, ts⟩) :=
  run_expect_iff.2 ⟨h, rfl⟩

lemma run_number_iff {t : Token} {raw : String} :
    (number t).run f = .ok (raw, f') ↔
      (Expr.numberValue t.literal).isInf = false ∧ raw = t.literal ∧ f' = f := by
  unfold number
  split
  · next h => simp [h, run_failAt]
  · next h =>
    rw [run_pure_iff]
    simp [h, eq_comm]

lemma run_assignable_iff {t : Token} {what : String} {e : Expr} :
    (assignable t what e).run f = .ok ((), f') ↔ e.isAssignable = true ∧ f' = f := by
  unfold assignable
  split
  · next h =>
    rw [run_pure_iff]
    simp [h, eq_comm]
  · next h => simp [h, run_expected]

end Reading

/-! ### What is read -/

open Token (Kind Face)
open Reading (Level)

/-- Whether a token ends a statement although it could extend an operand. -/
def Token.Splits (t : Token) : Prop :=
  (t.kind = .plusPlus ∨ t.kind = .minusMinus) ∧ t.newLine = true

/-- Whether all tokens to be read are tokens of some text. -/
def Feed.Sound (f : Feed) : Prop := ∀ t ∈ f.current :: f.rest, t.face.Sound

/-- Whether an expression that was just read is complete. -/
def Feed.Closes (f : Feed) (e : Expr) : Prop := ¬ f.peek.Splits → e.endsAt f.peek.kind = true

/-- Whether the next token does not extend an operand at a level. -/
def Feed.Below (f : Feed) (level : Level) : Prop :=
  ¬ f.peek.Splits → f.peek.kind.rank ≤ level.rank

/-- What extends no operand is taken by none. -/
lemma Expr.endsAt_of_rank {k : Kind} (h : k.rank ≤ Level.lowest.rank) (e : Expr) :
    e.endsAt k = true := by
  have hle : ∀ level : Level, k.rank ≤ level.rank := by
    intro level
    refine Nat.le_trans h ?_
    cases level <;> decide
  have hop : ∀ k' : Kind, k.rank ≤ k'.rank := fun k' => hle (Level.ofKind k')
  have hpipe : k ≠ .pipe := by
    rintro rfl
    exact absurd h (by decide)
  have hparen : k ≠ .lparen := by
    rintro rfl
    exact absurd h (by decide)
  fun_cases Expr.endsAt e k <;> simp_all

namespace Feed

variable {f : Feed}

lemma Sound.current (h : f.Sound) : f.current.face.Sound := h _ (by simp)

lemma Sound.next (h : f.Sound) : f.next.Sound := by
  intro t ht
  apply h
  unfold Feed.next at ht
  split at ht
  · exact ht
  · next hr => rw [hr]; exact List.mem_cons_of_mem _ ht

lemma next_current (f : Feed) : f.next.current = f.peek := by
  obtain ⟨c, rest⟩ := f
  cases rest <;> rfl

lemma Closes.of_below {e : Expr} (h : f.Below .lowest) : f.Closes e :=
  fun hs => e.endsAt_of_rank (h hs)

end Feed

namespace Reading

/-- What each function of the reader, bounded by `n`, gives when it succeeds. -/
structure Keeps (n : Nat) : Prop where
  expr : ∀ {level f e f'}, (expr n level).run f = .ok (e, f') → f.Sound →
    e.Fits level.rank ∧ f'.Below level ∧ f'.Sound
  operators : ∀ {level left f e f'}, (operators n level left).run f = .ok (e, f') → f.Sound →
    left.Fits level.rank → f.Closes left →
    e.Fits level.rank ∧ f'.Below level ∧ f'.Sound
  operand : ∀ {f e f'}, (operand n).run f = .ok (e, f') → f.Sound →
    (∀ r, e.Fits r) ∧ f'.Closes e ∧ f'.Sound
  unary : ∀ {t op f e f'}, (unary n t op).run f = .ok (e, f') → f.Sound →
    (∀ r, e.Fits r) ∧ f'.Closes e ∧ f'.Sound
  updateBefore : ∀ {t op f e f'}, (updateBefore n t op).run f = .ok (e, f') → f.Sound →
    (∀ r, e.Fits r) ∧ f'.Closes e ∧ f'.Sound
  extend : ∀ {left f e f' r}, (extend n left).run f = .ok (e, f') → f.Sound → left.Fits r →
    r < f.current.kind.rank → left.endsAt f.current.kind = true →
    e.Fits r ∧ f'.Closes e ∧ f'.Sound
  logical : ∀ {t op left f e f' r}, (logical n t op left).run f = .ok (e, f') → f.Sound →
    left.Fits r → t.kind = op.kind → r < op.kind.rank → left.endsAt op.kind = true →
    e.Fits r ∧ f'.Closes e ∧ f'.Sound
  assignment : ∀ {t op target f e f' r}, (assignment n t op target).run f = .ok (e, f') →
    f.Sound → target.Fits r → r < Level.assignment.rank →
    e.Fits r ∧ f'.Closes e ∧ f'.Sound
  sequence : ∀ {f es f'}, (sequence n).run f = .ok (es, f') → f.Sound →
    es ≠ [] ∧ Expr.FitsAll es ∧ f'.Below .lowest ∧ f'.Sound
  chain : ∀ {f ds f'}, (chain n).run f = .ok (ds, f') → f.Sound →
    ds ≠ [] ∧ Decorator.FitsAll ds ∧ f'.peek.kind ≠ .pipe ∧
      (Decorator.lastParens ds = false → f'.peek.kind ≠ .lparen) ∧ f'.Sound
  list : ∀ {close what f es f'}, (list n close what).run f = .ok (es, f') → f.Sound →
    Expr.FitsAll es ∧ f'.Sound
  items : ∀ {f es f'}, (items n).run f = .ok (es, f') → f.Sound → Expr.FitsAll es ∧ f'.Sound
  properties : ∀ {f ps f'}, (properties n).run f = .ok (ps, f') → f.Sound →
    Property.FitsAll ps ∧ f'.Sound

variable {n : Nat} {f f' : Feed} {e : Expr}

lemma keeps_zero : Keeps 0 where
  expr h := absurd h (run_exhausted _)
  operators h := absurd h (run_exhausted _)
  operand h := absurd h (run_exhausted _)
  unary h := absurd h (run_exhausted _)
  updateBefore h := absurd h (run_exhausted _)
  extend h := absurd h (run_exhausted _)
  logical h := absurd h (run_exhausted _)
  assignment h := absurd h (run_exhausted _)
  sequence h := absurd h (run_exhausted _)
  chain h := absurd h (run_exhausted _)
  list h := absurd h (run_exhausted _)
  items h := absurd h (run_exhausted _)
  properties h := absurd h (run_exhausted _)

lemma keeps_expr (ih : Keeps n) {level : Level} (h : (expr (n + 1) level).run f = .ok (e, f'))
    (hf : f.Sound) : e.Fits level.rank ∧ f'.Below level ∧ f'.Sound := by
  simp only [expr, run_bind_iff] at h
  obtain ⟨left, f₁, hleft, hops⟩ := h
  obtain ⟨hfits, hcloses, hsound⟩ := ih.operand hleft hf
  exact ih.operators hops hsound (hfits _) hcloses

lemma keeps_operators (ih : Keeps n) {level : Level} {left : Expr}
    (h : (operators (n + 1) level left).run f = .ok (e, f')) (hf : f.Sound)
    (hfits : left.Fits level.rank) (hcloses : f.Closes left) :
    e.Fits level.rank ∧ f'.Below level ∧ f'.Sound := by
  simp only [operators] at h
  rw [run_bind_eq run_peek] at h
  split at h
  · next hc =>
    rw [run_bind_eq run_advance, run_bind_iff] at h
    obtain ⟨e₁, f₁, hext, hops⟩ := h
    obtain ⟨hfits₁, hcloses₁, hsound₁⟩ := ih.extend hext hf.next hfits
      (by rw [Feed.next_current]; exact hc.1) (by rw [Feed.next_current]; exact hcloses hc.2)
    exact ih.operators hops hsound₁ hfits₁ hcloses₁
  · next hc =>
    rw [run_pure_iff] at h
    obtain ⟨rfl, rfl⟩ := h
    refine ⟨hfits, fun hs => ?_, hf⟩
    by_contra hlt
    exact hc ⟨by simpa [Kind.rank] using hlt, hs⟩

/-- What is read as a word or a number can be written as one. -/
lemma sound_plain {k : Kind} (hf : f.Sound) (hk : f.current.kind = k) (hatom : k.isAtom = true)
    (hstring : k ≠ .string) : (Face.plain k f.current.literal).Sound := by
  subst hk
  exact hf.current.plain hatom hstring

/-- A string token can be written on the line of the token before it. -/
lemma sound_string (hf : f.Sound) (hk : f.current.kind = .string) :
    (Face.string f.current.literal f.current.raw).Sound := by
  obtain ⟨rest, hrest⟩ := hf.current
  exact ⟨rest, by simpa [Token.face, Face.string, hk] using hrest⟩

lemma sound_word (hf : f.Sound) (hk : f.current.kind.isWord = true) :
    (Face.word f.current.literal).Sound := by
  have hkind : f.current.kind = Kind.ofWord f.current.literal := hf.current.kind_eq hk
  refine sound_plain hf hkind ?_ ?_ <;> rw [← hkind] <;> revert hk <;>
    cases f.current.kind <;> decide

lemma keeps_operand (ih : Keeps n) (h : (operand (n + 1)).run f = .ok (e, f')) (hf : f.Sound) :
    (∀ r, e.Fits r) ∧ f'.Closes e ∧ f'.Sound := by
  simp only [operand] at h
  rw [run_bind_eq run_current] at h
  split at h
  case h_1 hk =>
    rw [run_bind_eq (run_spanOf _), run_pure_iff] at h
    obtain ⟨rfl, rfl⟩ := h
    exact ⟨fun _ => sound_plain hf hk rfl (by decide), fun _ => rfl, hf⟩
  case h_2 hk =>
    rw [run_bind_eq (run_spanOf _), run_bind_iff] at h
    obtain ⟨raw, f₁, hnumber, hpure⟩ := h
    obtain ⟨hfinite, rfl, rfl⟩ := run_number_iff.1 hnumber
    obtain ⟨rfl, rfl⟩ := run_pure_iff.1 hpure
    exact ⟨fun _ => ⟨sound_plain hf hk rfl (by decide), hfinite⟩, fun _ => rfl, hf⟩
  case h_3 hk =>
    rw [run_bind_eq (run_spanOf _), run_pure_iff] at h
    obtain ⟨rfl, rfl⟩ := h
    exact ⟨fun _ => sound_string hf hk, fun _ => rfl, hf⟩
  case h_4 | h_5 | h_6 | h_7 =>
    rw [run_bind_eq (run_spanOf _), run_pure_iff] at h
    obtain ⟨rfl, rfl⟩ := h
    exact ⟨fun _ => trivial, fun _ => rfl, hf⟩
  case h_8 | h_9 | h_10 | h_11 => exact ih.unary h hf
  case h_12 | h_13 => exact ih.updateBefore h hf
  case h_14 =>
    rw [run_bind_eq run_advance, run_bind_iff] at h
    obtain ⟨inner, f₁, hinner, h⟩ := h
    obtain ⟨hfits, -, hsound⟩ := ih.expr hinner hf.next
    obtain ⟨-, h⟩ := run_bind_expect_iff.1 h
    rw [run_bind_eq (run_spanOf _), run_pure_iff] at h
    obtain ⟨rfl, rfl⟩ := h
    exact ⟨fun _ => hfits, fun _ => rfl, hsound.next⟩
  case h_15 =>
    rw [run_bind_iff] at h
    obtain ⟨elements, f₁, hlist, h⟩ := h
    obtain ⟨hfits, hsound⟩ := ih.list hlist hf
    rw [run_bind_eq (run_spanOf _), run_pure_iff] at h
    obtain ⟨rfl, rfl⟩ := h
    exact ⟨fun _ => hfits, fun _ => rfl, hsound⟩
  case h_16 =>
    rw [run_bind_iff] at h
    obtain ⟨ps, f₁, hps, h⟩ := h
    obtain ⟨hfits, hsound⟩ := ih.properties hps hf
    rw [run_bind_eq (run_spanOf _), run_pure_iff] at h
    obtain ⟨rfl, rfl⟩ := h
    exact ⟨fun _ => hfits, fun _ => rfl, hsound⟩
  case h_17 => exact absurd h (run_noOperand _ _)

lemma keeps_unary (ih : Keeps n) {t : Token} {op : Expr.UnaryOp}
    (h : (unary (n + 1) t op).run f = .ok (e, f')) (hf : f.Sound) :
    (∀ r, e.Fits r) ∧ f'.Closes e ∧ f'.Sound := by
  simp only [unary] at h
  rw [run_bind_eq run_advance, run_bind_iff] at h
  obtain ⟨argument, f₁, hargument, h⟩ := h
  obtain ⟨hfits, hbelow, hsound⟩ := ih.expr hargument hf.next
  rw [run_bind_eq (run_spanOf _), run_pure_iff] at h
  obtain ⟨rfl, rfl⟩ := h
  refine ⟨fun _ => hfits, fun hs => ?_, hsound⟩
  exact decide_eq_true (hbelow hs)

lemma keeps_updateBefore (ih : Keeps n) {t : Token} {op : Expr.UpdateOp}
    (h : (updateBefore (n + 1) t op).run f = .ok (e, f')) (hf : f.Sound) :
    (∀ r, e.Fits r) ∧ f'.Closes e ∧ f'.Sound := by
  simp only [updateBefore] at h
  rw [run_bind_eq run_advance, run_bind_iff] at h
  obtain ⟨target, f₁, htarget, h⟩ := h
  obtain ⟨hfits, hbelow, hsound⟩ := ih.expr htarget hf.next
  rw [run_bind_iff] at h
  obtain ⟨_, f₂, hcheck, h⟩ := h
  obtain ⟨hassignable, rfl⟩ := run_assignable_iff.1 hcheck
  rw [run_bind_eq (run_spanOf _), run_pure_iff] at h
  obtain ⟨rfl, rfl⟩ := h
  refine ⟨fun _ => ⟨hassignable, hfits⟩, fun hs => ?_, hsound⟩
  exact decide_eq_true (hbelow hs)

lemma keeps_logical (ih : Keeps n) {t : Token} {op : Expr.LogicalOp} {left : Expr} {r : Nat}
    (h : (logical (n + 1) t op left).run f = .ok (e, f')) (hf : f.Sound) (hfits : left.Fits r)
    (hk : t.kind = op.kind) (hr : r < op.kind.rank) (hends : left.endsAt op.kind = true) :
    e.Fits r ∧ f'.Closes e ∧ f'.Sound := by
  simp only [logical, hk] at h
  rw [run_bind_eq run_advance, run_bind_iff] at h
  obtain ⟨right, f₁, hright, h⟩ := h
  obtain ⟨hfits', hbelow, hsound⟩ := ih.expr hright hf.next
  rw [run_bind_eq (run_spanAfter _), run_pure_iff] at h
  obtain ⟨rfl, rfl⟩ := h
  refine ⟨⟨hr, hfits, hends, hfits'⟩, fun hs => ?_, hsound⟩
  exact decide_eq_true (hbelow hs)

lemma keeps_assignment (ih : Keeps n) {t : Token} {op : Expr.AssignOp} {target : Expr} {r : Nat}
    (h : (assignment (n + 1) t op target).run f = .ok (e, f')) (hf : f.Sound)
    (hfits : target.Fits r) (hr : r < Level.assignment.rank) :
    e.Fits r ∧ f'.Closes e ∧ f'.Sound := by
  simp only [assignment] at h
  rw [run_bind_iff] at h
  obtain ⟨_, f₁, hcheck, h⟩ := h
  obtain ⟨hassignable, rfl⟩ := run_assignable_iff.1 hcheck
  rw [run_bind_eq run_advance, run_bind_iff] at h
  obtain ⟨value, f₂, hvalue, h⟩ := h
  obtain ⟨hfits', hbelow, hsound⟩ := ih.expr hvalue hf.next
  rw [run_bind_eq (run_spanAfter _), run_pure_iff] at h
  obtain ⟨rfl, rfl⟩ := h
  refine ⟨⟨hr, hfits, hassignable, hfits'⟩, fun hs => ?_, hsound⟩
  exact decide_eq_true (hbelow hs)

lemma binaryOp?_kind {k : Kind} {op : Expr.BinaryOp} (h : binaryOp? k = some op) :
    op.kind = k := by
  unfold binaryOp? at h
  split at h <;> cases h <;> rfl

lemma keeps_extend (ih : Keeps n) {left : Expr} {r : Nat}
    (h : (extend (n + 1) left).run f = .ok (e, f')) (hf : f.Sound) (hfits : left.Fits r)
    (hr : r < f.current.kind.rank) (hends : left.endsAt f.current.kind = true) :
    e.Fits r ∧ f'.Closes e ∧ f'.Sound := by
  simp only [extend] at h
  rw [run_bind_eq run_current] at h
  split at h
  case h_1 hk | h_2 hk =>
    rw [hk] at hr hends
    exact ih.logical h hf hfits hk hr hends
  case h_3 hk =>
    rw [hk] at hr hends
    rw [run_bind_eq run_advance, run_bind_iff] at h
    obtain ⟨consequent, f₁, hconsequent, h⟩ := h
    obtain ⟨hfits₁, -, hsound₁⟩ := ih.expr hconsequent hf.next
    obtain ⟨-, h⟩ := run_bind_expect_iff.1 h
    rw [run_bind_eq run_advance, run_bind_iff] at h
    obtain ⟨alternate, f₃, halternate, h⟩ := h
    obtain ⟨hfits₂, hbelow, hsound₂⟩ := ih.expr halternate hsound₁.next.next
    rw [run_bind_eq (run_spanAfter _), run_pure_iff] at h
    obtain ⟨rfl, rfl⟩ := h
    refine ⟨⟨hr, hfits, hends, hfits₁, hfits₂⟩, fun hs => ?_, hsound₂⟩
    exact decide_eq_true (hbelow hs)
  case h_4 hk =>
    rw [hk] at hr hends
    rw [run_bind_iff] at h
    obtain ⟨ds, f₁, hchain, h⟩ := h
    obtain ⟨hne, hfits₁, hpipe, hparen, hsound⟩ := ih.chain hchain hf
    split at h
    · rw [run_bind_eq (run_spanFrom _ _), run_bind_eq (run_spanAfter _), run_pure_iff] at h
      obtain ⟨rfl, rfl⟩ := h
      refine ⟨⟨hr, hfits, hends, hne, hfits₁⟩, fun hs => ?_, hsound⟩
      simp only [Expr.endsAt, Bool.and_eq_true, bne_iff_ne, Bool.or_eq_true]
      exact ⟨hpipe, or_iff_not_imp_left.2 fun hlast => hparen (by simpa using hlast)⟩
    · exact absurd rfl hne
  case h_5 hk =>
    rw [hk] at hr hends
    rw [run_bind_iff] at h
    obtain ⟨es, f₁, hes, h⟩ := h
    obtain ⟨hne, hall, hbelow, hsound⟩ := ih.sequence hes hf
    rw [run_bind_eq (run_spanAfter _), run_pure_iff] at h
    obtain ⟨rfl, rfl⟩ := h
    refine ⟨⟨hr, ?_⟩, Feed.Closes.of_below hbelow, hsound⟩
    cases es with
    | nil => exact absurd rfl hne
    | cons e' es' => exact ⟨hfits, hends, hall⟩
  case h_6 hk | h_7 hk | h_8 hk =>
    rw [hk] at hr
    exact ih.assignment h hf hfits hr
  case h_9 hk | h_10 hk =>
    rw [hk] at hr
    rw [run_bind_iff] at h
    obtain ⟨_, f₁, hcheck, h⟩ := h
    obtain ⟨hassignable, rfl⟩ := run_assignable_iff.1 hcheck
    rw [run_bind_eq (run_spanAfter _), run_pure_iff] at h
    obtain ⟨rfl, rfl⟩ := h
    exact ⟨⟨hassignable, hr, hfits⟩, fun _ => rfl, hf⟩
  case h_11 hk =>
    rw [hk] at hr hends
    rw [run_bind_iff] at h
    obtain ⟨arguments, f₁, hlist, h⟩ := h
    obtain ⟨hall, hsound⟩ := ih.list hlist hf
    rw [run_bind_eq (run_spanAfter _), run_pure_iff] at h
    obtain ⟨rfl, rfl⟩ := h
    exact ⟨⟨hr, hfits, hends, hall⟩, fun _ => rfl, hsound⟩
  case h_12 hk =>
    rw [hk] at hr hends
    rw [run_bind_eq run_advance, run_bind_iff] at h
    obtain ⟨index, f₁, hindex, h⟩ := h
    obtain ⟨hfits₁, -, hsound⟩ := ih.expr hindex hf.next
    obtain ⟨-, h⟩ := run_bind_expect_iff.1 h
    rw [run_bind_eq (run_spanAfter _), run_pure_iff] at h
    obtain ⟨rfl, rfl⟩ := h
    exact ⟨⟨hr, hfits, hends, hfits₁⟩, fun _ => rfl, hsound.next⟩
  case h_13 hk =>
    rw [hk] at hr hends
    rw [run_bind_eq run_advance, run_bind_eq run_current] at h
    split at h
    · next hword =>
      rw [run_bind_eq (run_spanOf _), run_bind_eq (run_spanAfter _), run_pure_iff] at h
      obtain ⟨rfl, rfl⟩ := h
      exact ⟨⟨hr, hfits, hends, sound_word hf.next hword⟩, fun _ => rfl, hf.next⟩
    · exact absurd h (run_expected _ _ _ _)
  case h_14 =>
    split at h
    · next op hop =>
      rw [run_bind_eq run_advance, run_bind_iff] at h
      obtain ⟨right, f₁, hright, h⟩ := h
      obtain ⟨hfits₁, hbelow, hsound⟩ := ih.expr hright hf.next
      rw [run_bind_eq (run_spanAfter _), run_pure_iff] at h
      obtain ⟨rfl, rfl⟩ := h
      rw [← binaryOp?_kind hop] at hr hends hfits₁ hbelow
      refine ⟨⟨hr, hfits, hends, hfits₁⟩, fun hs => ?_, hsound⟩
      exact decide_eq_true (hbelow hs)
    · exact absurd h (run_noOperand _ _)

lemma keeps_sequence (ih : Keeps n) {es : List Expr}
    (h : (sequence (n + 1)).run f = .ok (es, f')) (hf : f.Sound) :
    es ≠ [] ∧ Expr.FitsAll es ∧ f'.Below .lowest ∧ f'.Sound := by
  simp only [sequence] at h
  rw [run_bind_eq run_advance, run_bind_iff] at h
  obtain ⟨next, f₁, hnext, h⟩ := h
  obtain ⟨hfits, hbelow, hsound⟩ := ih.expr hnext hf.next
  rw [run_bind_eq run_peek] at h
  split at h
  · rw [run_bind_eq run_advance, run_bind_iff] at h
    obtain ⟨es', f₂, hes, h⟩ := h
    obtain ⟨-, hall, hbelow', hsound'⟩ := ih.sequence hes hsound.next
    obtain ⟨rfl, rfl⟩ := run_pure_iff.1 h
    exact ⟨by simp, ⟨hfits, hall⟩, hbelow', hsound'⟩
  · next hcomma =>
    obtain ⟨rfl, rfl⟩ := run_pure_iff.1 h
    refine ⟨by simp, ⟨hfits, trivial⟩, fun hs => ?_, hsound⟩
    have hrank := hbelow hs
    revert hrank hcomma
    cases f₁.peek.kind <;> decide

/-- A chain from the end of a decorator on: it continues as long as bars follow. -/
def links (n : Nat) (d : Decorator) : Reading (List Decorator) := do
  if (← peek).kind = .pipe then
    advance
    return d :: (← chain n)
  else return [d]

lemma keeps_links (ih : Keeps n) {d : Decorator} {ds : List Decorator}
    (h : (links n d).run f = .ok (ds, f')) (hf : f.Sound) (hd : Decorator.FitsAll [d])
    (hparen : d.parens = false → f.peek.kind ≠ .lparen) :
    ds ≠ [] ∧ Decorator.FitsAll ds ∧ f'.peek.kind ≠ .pipe ∧
      (Decorator.lastParens ds = false → f'.peek.kind ≠ .lparen) ∧ f'.Sound := by
  obtain ⟨s, name, arguments, parens⟩ := d
  obtain ⟨hname, hall, hnone, -⟩ := hd
  simp only [links] at h
  rw [run_bind_eq run_peek] at h
  split at h
  · rw [run_bind_eq run_advance, run_bind_iff] at h
    obtain ⟨ds', f₁, hds, h⟩ := h
    obtain ⟨hne, hfits, hpipe, hlast, hsound⟩ := ih.chain hds hf.next
    obtain ⟨rfl, rfl⟩ := run_pure_iff.1 h
    refine ⟨by simp, ⟨hname, hall, hnone, hfits⟩, hpipe, ?_, hsound⟩
    cases ds' with
    | nil => exact absurd rfl hne
    | cons d' ds' => exact hlast
  · next hpipe =>
    obtain ⟨rfl, rfl⟩ := run_pure_iff.1 h
    exact ⟨by simp, ⟨hname, hall, hnone, trivial⟩, hpipe, hparen, hf⟩

lemma keeps_chain (ih : Keeps n) {ds : List Decorator}
    (h : (chain (n + 1)).run f = .ok (ds, f')) (hf : f.Sound) :
    ds ≠ [] ∧ Decorator.FitsAll ds ∧ f'.peek.kind ≠ .pipe ∧
      (Decorator.lastParens ds = false → f'.peek.kind ≠ .lparen) ∧ f'.Sound := by
  simp only [chain] at h
  obtain ⟨hkind, h⟩ := run_bind_expect_iff.1 h
  rw [← Feed.next_current] at hkind
  have hname := sound_plain hf.next hkind rfl (by decide)
  rw [run_bind_eq run_current, run_bind_eq run_peek] at h
  split at h
  · next hparen =>
    rw [run_bind_eq run_advance, run_bind_iff] at h
    obtain ⟨arguments, f₂, hlist, h⟩ := h
    obtain ⟨hall, hsound⟩ := ih.list hlist hf.next.next
    rw [run_bind_eq (run_spanOf _)] at h
    exact keeps_links ih h hsound ⟨hname, hall, by simp [hparen], trivial⟩
      (by simp [Decorator.parens, hparen])
  · next hparen =>
    rw [run_bind_eq (run_pure _), run_bind_eq (run_spanOf _)] at h
    exact keeps_links ih h hf.next ⟨hname, trivial, fun _ => rfl, trivial⟩ fun _ => hparen

lemma keeps_list (ih : Keeps n) {close : Kind} {what : String} {es : List Expr}
    (h : (list (n + 1) close what).run f = .ok (es, f')) (hf : f.Sound) :
    Expr.FitsAll es ∧ f'.Sound := by
  simp only [list] at h
  rw [run_bind_eq run_peek] at h
  split at h
  · rw [run_bind_eq run_advance] at h
    obtain ⟨rfl, rfl⟩ := run_pure_iff.1 h
    exact ⟨trivial, hf.next⟩
  · rw [run_bind_iff] at h
    obtain ⟨es', f₁, hes, h⟩ := h
    obtain ⟨hall, hsound⟩ := ih.items hes hf
    obtain ⟨-, h⟩ := run_bind_expect_iff.1 h
    obtain ⟨rfl, rfl⟩ := run_pure_iff.1 h
    exact ⟨hall, hsound.next⟩

lemma keeps_items (ih : Keeps n) {es : List Expr}
    (h : (items (n + 1)).run f = .ok (es, f')) (hf : f.Sound) : Expr.FitsAll es ∧ f'.Sound := by
  simp only [items] at h
  rw [run_bind_eq run_advance, run_bind_iff] at h
  obtain ⟨first, f₁, hfirst, h⟩ := h
  obtain ⟨hfits, -, hsound⟩ := ih.expr hfirst hf.next
  rw [run_bind_eq run_peek] at h
  split at h
  · rw [run_bind_eq run_advance, run_bind_iff] at h
    obtain ⟨es', f₂, hes, h⟩ := h
    obtain ⟨hall, hsound'⟩ := ih.items hes hsound.next
    obtain ⟨rfl, rfl⟩ := run_pure_iff.1 h
    exact ⟨⟨hfits, hall⟩, hsound'⟩
  · obtain ⟨rfl, rfl⟩ := run_pure_iff.1 h
    exact ⟨⟨hfits, trivial⟩, hsound⟩

lemma keeps_key {k : Expr.Key} (h : key.run f = .ok (k, f')) (hf : f.Sound) :
    k.Fits ∧ f'.Sound := by
  simp only [key] at h
  rw [run_bind_eq run_current] at h
  split at h
  · next hword =>
    rw [run_bind_eq (run_spanOf _), run_pure_iff] at h
    obtain ⟨rfl, rfl⟩ := h
    exact ⟨sound_word hf hword, hf⟩
  · split at h
    · next hk =>
      rw [run_bind_eq (run_spanOf _), run_pure_iff] at h
      obtain ⟨rfl, rfl⟩ := h
      exact ⟨sound_string hf hk, hf⟩
    · next hk =>
      rw [run_bind_eq (run_spanOf _), run_bind_iff] at h
      obtain ⟨raw, f₁, hnumber, h⟩ := h
      obtain ⟨hfinite, rfl, rfl⟩ := run_number_iff.1 hnumber
      obtain ⟨rfl, rfl⟩ := run_pure_iff.1 h
      exact ⟨⟨sound_plain hf hk rfl (by decide), hfinite⟩, hf⟩
    · exact absurd h (run_expected _ _ _ _)

lemma keeps_properties (ih : Keeps n) {ps : List Property}
    (h : (properties (n + 1)).run f = .ok (ps, f')) (hf : f.Sound) :
    Property.FitsAll ps ∧ f'.Sound := by
  simp only [properties] at h
  rw [run_bind_eq run_peek] at h
  split at h
  · rw [run_bind_eq run_advance] at h
    obtain ⟨rfl, rfl⟩ := run_pure_iff.1 h
    exact ⟨trivial, hf.next⟩
  · rw [run_bind_eq run_advance, run_bind_iff] at h
    obtain ⟨k, f₁, hkey, h⟩ := h
    obtain ⟨hk, hsound₁⟩ := keeps_key hkey hf.next
    obtain ⟨-, h⟩ := run_bind_expect_iff.1 h
    rw [run_bind_eq run_advance, run_bind_iff] at h
    obtain ⟨value, f₃, hvalue, h⟩ := h
    obtain ⟨hfits, -, hsound₃⟩ := ih.expr hvalue hsound₁.next.next
    rw [run_bind_eq run_peek] at h
    split at h
    · rw [run_bind_eq run_advance, run_bind_iff] at h
      obtain ⟨ps', f₄, hps, h⟩ := h
      obtain ⟨hall, hsound₄⟩ := ih.properties hps hsound₃.next
      obtain ⟨rfl, rfl⟩ := run_pure_iff.1 h
      exact ⟨⟨hk, hfits, hall⟩, hsound₄⟩
    · split at h
      · rw [run_bind_iff] at h
        obtain ⟨ps', f₄, hps, h⟩ := h
        obtain ⟨hall, hsound₄⟩ := ih.properties hps hsound₃
        obtain ⟨rfl, rfl⟩ := run_pure_iff.1 h
        exact ⟨⟨hk, hfits, hall⟩, hsound₄⟩
      · exact absurd h (run_expected _ _ _ _)

theorem keeps : ∀ n, Keeps n
  | 0 => keeps_zero
  | n + 1 =>
    have ih := keeps n
    { expr := keeps_expr ih
      operators := keeps_operators ih
      operand := keeps_operand ih
      unary := keeps_unary ih
      updateBefore := keeps_updateBefore ih
      extend := keeps_extend ih
      logical := keeps_logical ih
      assignment := keeps_assignment ih
      sequence := keeps_sequence ih
      chain := keeps_chain ih
      list := keeps_list ih
      items := keeps_items ih
      properties := keeps_properties ih }

/-! ### Programs -/

lemma keeps_statement {s : Stmt} (h : (statement n).run f = .ok (s, f')) (hf : f.Sound) :
    (∀ e, s.expr? = some e → e.Fits Level.lowest.rank) ∧ f'.Sound := by
  simp only [statement] at h
  rw [run_bind_eq run_current] at h
  split at h
  · rw [run_bind_eq (run_spanOf _)] at h
    obtain ⟨rfl, rfl⟩ := run_pure_iff.1 h
    exact ⟨by simp [Stmt.expr?], hf⟩
  · rw [run_bind_iff] at h
    obtain ⟨e, f₁, he, h⟩ := h
    obtain ⟨hfits, -, hsound⟩ := (keeps n).expr he hf
    have hstmt : ∀ span e', (Stmt.expr span e).expr? = some e' → e'.Fits Level.lowest.rank := by
      rintro span e' ⟨⟩
      exact hfits
    rw [run_bind_eq (run_spanOf _), run_bind_eq run_peek] at h
    split at h
    · rw [run_bind_eq run_advance] at h
      obtain ⟨rfl, rfl⟩ := run_pure_iff.1 h
      exact ⟨hstmt _, hsound.next⟩
    · split at h
      · exact absurd h (run_noOperand _ _)
      · split at h
        · obtain ⟨rfl, rfl⟩ := run_pure_iff.1 h
          exact ⟨hstmt _, hsound⟩
        · exact absurd h (run_failAt _ _ _ _)

lemma keeps_statements {m : Nat} {ss : List Stmt} (h : (statements n m).run f = .ok (ss, f'))
    (hf : f.Sound) : ∀ e ∈ ss.filterMap Stmt.expr?, e.Fits Level.lowest.rank := by
  induction m generalizing f ss with
  | zero => exact absurd h (run_exhausted _)
  | succ m ih =>
    simp only [statements] at h
    rw [run_bind_eq run_current] at h
    split at h
    · obtain ⟨rfl, rfl⟩ := run_pure_iff.1 h
      simp
    · rw [run_bind_iff] at h
      obtain ⟨s, f₁, hs, h⟩ := h
      obtain ⟨hfits, hsound⟩ := keeps_statement hs hf
      rw [run_bind_eq run_advance, run_bind_iff] at h
      obtain ⟨ss', f₂, hss, h⟩ := h
      obtain ⟨rfl, rfl⟩ := run_pure_iff.1 h
      intro e hmem
      obtain ⟨s', hs', he⟩ := List.mem_filterMap.1 hmem
      rcases List.mem_cons.1 hs' with rfl | hs'
      · exact hfits e he
      · exact ih hss hsound.next e (List.mem_filterMap.2 ⟨s', hs', he⟩)

end Reading

/-- The tokens of a text before any is read. -/
def Feed.start (ts : List Token) : Feed :=
  match ts with
  | [] => ⟨Token.atEnd, []⟩
  | t :: ts => ⟨t, ts⟩

/-- Reading a program is reading its statements. -/
lemma Program.parse_iff {source : String} {body : List Stmt} :
    (∃ p, Program.parse source = .ok p ∧ p.body = body) ↔
      ∃ after, (Reading.statements (4 * (Token.all source).length + 8)
        ((Token.all source).length + 1)).run (.start (Token.all source)) = .ok (body, after) := by
  constructor
  · rintro ⟨p, hp, rfl⟩
    change (Reading.statements _ _).run (.start (Token.all source)) >>= _ = _ at hp
    cases hrun : (Reading.statements (4 * (Token.all source).length + 8)
        ((Token.all source).length + 1)).run (.start (Token.all source)) with
    | error e => rw [hrun] at hp; cases hp
    | ok r => rw [hrun] at hp; cases hp; exact ⟨r.2, rfl⟩
  · rintro ⟨after, hrun⟩
    cases hp : Program.parse source with
    | error e =>
      change (Reading.statements _ _).run (.start (Token.all source)) >>= _ = _ at hp
      rw [hrun] at hp
      cases hp
    | ok p =>
      change (Reading.statements _ _).run (.start (Token.all source)) >>= _ = _ at hp
      rw [hrun] at hp
      cases hp
      exact ⟨_, rfl, rfl⟩

lemma Feed.sound_start (source : String) : (Feed.start (Token.all source)).Sound := by
  have hall : ∀ t ∈ Token.all source, t.face.Sound := fun t => Token.sound_all
  cases hts : Token.all source with
  | nil =>
    intro t ht
    obtain rfl : t = Token.atEnd := by simpa [Feed.start] using ht
    exact ⟨[], rfl⟩
  | cons t ts => rwa [hts] at hall

/-- A program that is accepted consists of expressions that fit the grammar. -/
lemma Program.parse_fits {source : String} {p : Program} (h : Program.parse source = .ok p) :
    ∀ e ∈ p.exprs, e.Fits Level.lowest.rank := by
  obtain ⟨after, hrun⟩ := Program.parse_iff.1 ⟨p, h, rfl⟩
  exact Reading.keeps_statements hrun (Feed.sound_start source)

end Trellis
