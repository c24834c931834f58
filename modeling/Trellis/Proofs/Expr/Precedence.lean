/-
Precedence and associativity.

Operands with infix operators between them are grouped by position: the root is the rightmost of
the loosest operators, and its operands are the trees of what stands on either side.  `Grouped` is
this reference grammar; it gives every list exactly one tree.

The reader climbs instead.  The invariant that connects the two is `ReadsAs`: reading at a level
below all operators of a list comes to the point where the tree of the whole list is the left
operand and the reader looks at the next token.  For a split list, the part before the root is read
like this in front of the root; the root binds tighter than the level, so the part after it is read
at the level of the root, and ends where nothing binds tighter.

**Main result.**  `Program.parse_infix`: a text of primary expressions with infix operators between
them is read as the tree of the reference grammar.
-/
import Trellis.Proofs.Expr.RoundTrip
import Trellis.Proofs.Expr.Taken

namespace Trellis

open Trellis.Expr (BinaryOp LogicalOp)
open Token (Kind)
open Reading (Level)

/-- The operators that stand between two operands. -/
inductive Infix where
  | logical (op : LogicalOp)
  | binary (op : BinaryOp)

namespace Infix

/-- The kind of token of an operator. -/
def kind : Infix → Kind
  | .logical op => op.kind
  | .binary op => op.kind

/-- The tree of an operator with its operands. -/
def join : Infix → Expr → Expr → Expr
  | .logical op, left, right => .logical .nowhere op left right
  | .binary op, left, right => .binary .nowhere op left right

/-- The levels of the reference grammar, from the loosest to the tightest: `||`, `&&`, equality,
relations, sums, products. -/
def level : Infix → Nat
  | .logical .or => 0
  | .logical .and => 1
  | .binary .eq | .binary .ne | .binary .strictEq | .binary .strictNe => 2
  | .binary .lt | .binary .gt | .binary .le | .binary .ge => 3
  | .binary .add | .binary .sub => 4
  | .binary .mul | .binary .div | .binary .mod => 5

lemma rank_kind (op : Infix) : op.kind.rank = op.level + 6 := by
  rcases op with op | op <;> cases op <;> rfl

lemma kind_rank_eq (op : Infix) : (Level.ofKind op.kind).rank = op.level + 6 := op.rank_kind

lemma not_splits (op : Infix) {t : Token} (h : t.kind = op.kind) : ¬ t.Splits := by
  rintro ⟨hk | hk, -⟩ <;> rw [h] at hk <;> rcases op with op | op <;> cases op <;> cases hk

end Infix

/-! ### The reference grammar -/

/-- The tree of an operand and the operators with operands after it: the root is the rightmost
operator of the loosest level, its operands are the trees of the lists on either side. -/
inductive Grouped : Expr → List (Infix × Expr) → Expr → Prop where
  | single (e : Expr) : Grouped e [] e
  | split {first second left right : Expr} {op : Infix} {before after : List (Infix × Expr)}
    (hbefore : ∀ x ∈ before, op.level ≤ x.1.level) (hafter : ∀ x ∈ after, op.level < x.1.level)
    (hleft : Grouped first before left) (hright : Grouped second after right) :
    Grouped first (before ++ (op, second) :: after) (op.join left right)

/-- The rightmost element of the least level: nothing before it is below it, everything after it is
above it. -/
lemma exists_loosest {α : Type} (level : α → Nat) {xs : List α} (h : xs ≠ []) :
    ∃ before x after, xs = before ++ x :: after ∧ (∀ y ∈ before, level x ≤ level y) ∧
      ∀ y ∈ after, level x < level y := by
  induction xs with
  | nil => exact absurd rfl h
  | cons y ys ih =>
    by_cases hys : ys = []
    · subst hys
      exact ⟨[], y, [], rfl, by simp, by simp⟩
    · obtain ⟨before, x, after, rfl, hbefore, hafter⟩ := ih hys
      by_cases hle : level x ≤ level y
      · exact ⟨y :: before, x, after, rfl, List.forall_mem_cons.2 ⟨hle, hbefore⟩, hafter⟩
      · -- the new element is below all the others
        have hlt : level y < level x := Nat.lt_of_not_le hle
        refine ⟨[], y, before ++ x :: after, rfl, by simp, ?_⟩
        intro z hz
        rcases List.mem_append.1 hz with hz | hz
        · exact Nat.lt_of_lt_of_le hlt (hbefore z hz)
        · rcases List.mem_cons.1 hz with rfl | hz
          · exact hlt
          · exact Nat.lt_trans hlt (hafter z hz)

/-- There is only one such element. -/
lemma loosest_unique {α : Type} (level : α → Nat) {before before' after after' : List α} {x x' : α}
    (h : before ++ x :: after = before' ++ x' :: after') (hbefore : ∀ y ∈ before, level x ≤ level y)
    (hafter : ∀ y ∈ after, level x < level y) (hbefore' : ∀ y ∈ before', level x' ≤ level y)
    (hafter' : ∀ y ∈ after', level x' < level y) :
    before = before' ∧ x = x' ∧ after = after' := by
  -- of two different places, the left one would be loosest and also tighter than the right one
  rcases List.append_eq_append_iff.1 h with ⟨more, hfront, hback⟩ | ⟨more, hfront, hback⟩
  · cases more with
    | nil =>
      obtain ⟨rfl, rfl⟩ := List.cons.inj hback
      exact ⟨by simpa using hfront.symm, rfl, rfl⟩
    | cons y more =>
      obtain ⟨rfl, rfl⟩ := List.cons.inj hback
      have hle := hbefore' x (by simp [hfront])
      have hlt := hafter x' (by simp)
      exact absurd hle (Nat.not_le_of_lt hlt)
  · cases more with
    | nil =>
      obtain ⟨rfl, rfl⟩ := List.cons.inj hback
      exact ⟨by simpa using hfront, rfl, rfl⟩
    | cons y more =>
      obtain ⟨rfl, rfl⟩ := List.cons.inj hback
      have hle := hbefore x' (by simp [hfront])
      have hlt := hafter' x (by simp)
      exact absurd hle (Nat.not_le_of_lt hlt)

/-- A list has at most one tree. -/
lemma Grouped.unique {first e e' : Expr} {rest : List (Infix × Expr)} (h : Grouped first rest e)
    (h' : Grouped first rest e') : e = e' := by
  induction h generalizing e' with
  | single e =>
    generalize hrest : ([] : List (Infix × Expr)) = rest at h'
    cases h' with
    | single => rfl
    | split => simp at hrest
  | @split first second left right op before after hbefore hafter _ _ ihl ihr =>
    generalize hrest : before ++ (op, second) :: after = rest at h'
    cases h' with
    | single => simp at hrest
    | split hbefore' hafter' hleft hright =>
      obtain ⟨rfl, hx, rfl⟩ := loosest_unique (fun x : Infix × Expr => x.1.level) hrest hbefore
        hafter hbefore' hafter'
      obtain ⟨rfl, rfl⟩ := Prod.mk.inj hx
      rw [ihl hleft, ihr hright]

/-! ### Primary expressions -/

/-- The kinds of token that start a name, a constant, `this` or an expression in parentheses. -/
def Token.Kind.startsPrimary : Kind → Bool
  | .ident | .number | .string | .true | .false | .null | .this | .lparen => Bool.true
  | _ => Bool.false

/-- A primary expression: the tokens of a name, of a constant, of `this` or of an expression in
parentheses, which are read as an operand. -/
structure Primary where
  first : Token
  more : List Token
  tree : Expr
  starts : first.kind.startsPrimary = true
  read : ∃ n last, (Reading.operand n).run ⟨first, more ++ [.atEnd]⟩ = .ok (tree, ⟨last, [.atEnd]⟩)

def Primary.tokens (p : Primary) : List Token := p.first :: p.more

/-- An infix operator with the operand on its right. -/
structure Link where
  op : Infix
  token : Token
  token_kind : token.kind = op.kind
  operand : Primary

def Link.tokens (x : Link) : List Token := x.token :: x.operand.tokens

/-- The operator and the tree of its operand. -/
def Link.entry (x : Link) : Infix × Expr := (x.op, x.operand.tree.bare)

/-- The tokens of operands with infix operators between them. -/
def linkTokens (first : Primary) (rest : List Link) : List Token :=
  first.tokens ++ rest.flatMap Link.tokens

lemma linkTokens_append (first : Primary) (before after : List Link) (x : Link) :
    linkTokens first (before ++ x :: after) =
      linkTokens first before ++ x.token :: linkTokens x.operand after := by
  simp [linkTokens, Link.tokens]

lemma Token.sound_atEnd : Token.atEnd.face.Sound := ⟨[], rfl⟩

open Reading

/-- A primary expression is read in the same way whatever follows it: only what stands inside its
parentheses looks ahead. -/
lemma Primary.operand_run (p : Primary) (hsound : ∀ t ∈ p.tokens, t.face.Sound) :
    ∃ last, ∀ m s, 4 * p.more.length + 3 ≤ m →
      (operand m).run ⟨p.first, p.more ++ s⟩ = .ok (p.tree, ⟨last, s⟩) := by
  obtain ⟨first, more, tree, starts, n, last, h⟩ := p
  have hreal : Feed.Real ⟨first, more ++ [.atEnd]⟩ := by
    refine ⟨?_, by simp [Token.atEnd]⟩
    intro t ht
    rcases List.mem_append.1 (show t ∈ (first :: more) ++ [.atEnd] from ht) with ht | ht
    · exact hsound t ht
    · rw [List.mem_singleton.1 ht]
      exact Token.sound_atEnd
  clear hsound
  refine ⟨last, fun m s hm => ?_⟩
  obtain ⟨m, rfl⟩ : ∃ m', m = m' + 1 := ⟨m - 1, by simp only at hm; omega⟩
  cases n with
  | zero => exact absurd h (run_exhausted _)
  | succ n =>
    simp only [operand] at h ⊢
    rw [run_bind_eq run_current] at h
    rw [run_bind_eq run_current]
    simp only at h hm starts ⊢
    generalize hrest : more ++ [Token.atEnd] = rest at h hreal
    split at h
    case h_1 hk | h_3 hk | h_4 hk | h_5 hk | h_6 hk | h_7 hk =>
      rw [run_bind_eq (run_spanOf _), run_pure_iff] at h
      obtain ⟨rfl, hfeed⟩ := h
      obtain ⟨rfl, rfl⟩ := Feed.mk.inj hfeed
      obtain rfl : more = [] := List.append_left_eq_self.1 hrest
      rfl
    case h_2 hk =>
      rw [run_bind_eq (run_spanOf _), run_bind_iff] at h
      obtain ⟨raw, f₁, hnumber, hpure⟩ := h
      obtain ⟨hfinite, rfl, rfl⟩ := run_number_iff.1 hnumber
      obtain ⟨rfl, hfeed⟩ := run_pure_iff.1 hpure
      obtain ⟨rfl, rfl⟩ := Feed.mk.inj hfeed
      obtain rfl : more = [] := List.append_left_eq_self.1 hrest
      rw [run_bind_eq (run_spanOf _), run_bind_eq (run_number_iff.2 ⟨hfinite, rfl, rfl⟩)]
      rfl
    case h_14 hk =>
      rw [run_bind_eq run_advance, run_bind_iff] at h
      obtain ⟨inner, f₁, hinner, h⟩ := h
      obtain ⟨us, htook, hopen, -⟩ := (takes n).expr hinner hreal.next
      have hf₁ : f₁.Real := htook.real hreal.next
      obtain ⟨hclose, h⟩ := run_bind_expect_iff.1 h
      rw [run_bind_eq (run_spanOf _), run_pure_iff] at h
      obtain ⟨rfl, hfeed⟩ := h
      -- the tokens are the parentheses and what is read between them
      have hfirst := hreal.rest_eq (.inl (by simp [hk]))
      have hlast := hf₁.rest_eq (.inl hopen)
      obtain ⟨t, us', ht⟩ : ∃ t us', rest = t :: us' := ⟨_, _, hfirst⟩
      subst ht
      rw [Feed.next_cons] at htook
      have htokens : more ++ [Token.atEnd] = t :: (us ++ [f₁.peek]) ++ [Token.atEnd] := by
        rw [hrest, show us' = _ from htook.rest_eq, hlast, hfeed]
        simp
      obtain rfl : more = t :: (us ++ [f₁.peek]) := List.append_cancel_right htokens
      have hinner' := htook.rerun m (f₁.peek :: s) (by simp at hm; omega) (by rw [hlast]; rfl)
      have hlast' : f₁.peek = last := by rw [← Feed.next_current, hfeed]
      rw [hlast'] at hinner' hclose
      rw [hfeed, hlast', List.cons_append, List.append_assoc, List.singleton_append,
        run_bind_eq run_advance, Feed.next_cons, run_bind_eq hinner',
        run_bind_eq (run_expect hclose), run_bind_eq (run_spanOf _)]
      rfl
    all_goals
      next hk =>
        simp [hk, Kind.startsPrimary] at starts

/-! ### Climbing -/

/-- An infix operator takes the operand on its right, which is read at its own level. -/
lemma extend_infix (op : Infix) (left : Expr) {right : Expr} {o t : Token} {ts r : List Token}
    {k m : Nat} (ho : o.kind = op.kind) (hm : k + 2 ≤ m)
    (hright : ∀ n, k ≤ n → ∃ right' c, (expr n (Level.ofKind op.kind)).run (.start (ts ++ t :: r)) =
      .ok (right', ⟨c, t :: r⟩) ∧ right'.bare = right) :
    ∃ e c, (extend m left).run ⟨o, ts ++ t :: r⟩ = .ok (e, ⟨c, t :: r⟩) ∧
      e.bare = op.join left.bare right := by
  obtain ⟨m, rfl⟩ : ∃ m', m = m' + 2 := ⟨m - 2, by omega⟩
  have hnext : Feed.next ⟨o, ts ++ t :: r⟩ = .start (ts ++ t :: r) := Feed.next_eq_start _ (by simp)
  cases op with
  | logical op =>
    obtain ⟨right', c, hrun, hbare⟩ := hright m (by omega)
    obtain ⟨s, hs⟩ := exists_spanAfter ⟨c, t :: r⟩ left
    refine ⟨.logical s op left right', c, ?_, by simp [Expr.bare, Infix.join, hbare]⟩
    have hlogical : (logical (m + 1) o op left).run ⟨o, ts ++ t :: r⟩ =
        .ok (.logical s op left right', ⟨c, t :: r⟩) := by
      simp only [logical, ho]
      rw [run_bind_eq run_advance, hnext, run_bind_eq hrun, run_bind_eq hs]
      rfl
    simp only [extend]
    rw [run_bind_eq run_current]
    cases op <;> simp only [ho, Infix.kind, LogicalOp.kind] <;> exact hlogical
  | binary op =>
    obtain ⟨right', c, hrun, hbare⟩ := hright (m + 1) (by omega)
    obtain ⟨s, hs⟩ := exists_spanAfter ⟨c, t :: r⟩ left
    refine ⟨.binary s op left right', c, ?_, by simp [Expr.bare, Infix.join, hbare]⟩
    have hbinary : (advance >>= fun _ => expr (m + 1) (Level.ofKind op.kind) >>= fun right =>
        spanAfter left >>= fun s => pure (Expr.binary s op left right)).run ⟨o, ts ++ t :: r⟩ =
        .ok (.binary s op left right', ⟨c, t :: r⟩) := by
      have hrun' : (expr (m + 1) (Level.ofKind op.kind)).run (.start (ts ++ t :: r)) =
        .ok (right', ⟨c, t :: r⟩) := hrun
      rw [run_bind_eq run_advance, hnext, run_bind_eq hrun', run_bind_eq hs]
      rfl
    simp only [extend]
    rw [run_bind_eq run_current]
    cases op <;> simp only [ho, Infix.kind, BinaryOp.kind, binaryOp?] <;> exact hbinary

/-- Whether reading the tokens `ts` at a level below all operators `ops` comes to the point where
`e` is the left operand, in front of every token that binds no tighter than any of them. -/
def ReadsAs (ts : List Token) (ops : List Infix) (e : Expr) : Prop :=
  ∀ ⦃level : Level⦄ ⦃n : Nat⦄ ⦃t : Token⦄ ⦃r : List Token⦄,
    (∀ op ∈ ops, level.rank < op.kind.rank) → (∀ op ∈ ops, t.kind.rank ≤ op.kind.rank) →
    4 * ts.length + 4 ≤ n →
    ∃ m e' c, n ≤ m + ts.length ∧
      (expr n level).run (.start (ts ++ t :: r)) = (operators m level e').run ⟨c, t :: r⟩ ∧
      e'.bare = e

/-- What is read like this is complete before a token that does not bind tighter than the level. -/
lemma ReadsAs.complete {ts : List Token} {ops : List Infix} {e : Expr} (h : ReadsAs ts ops e)
    {level : Level} {n : Nat} {t : Token} {r : List Token}
    (hlevel : ∀ op ∈ ops, level.rank < op.kind.rank) (ht : t.kind.rank ≤ level.rank)
    (hn : 4 * ts.length + 4 ≤ n) :
    ∃ e' c, (expr n level).run (.start (ts ++ t :: r)) = .ok (e', ⟨c, t :: r⟩) ∧ e'.bare = e := by
  have hops : ∀ op ∈ ops, t.kind.rank ≤ op.kind.rank :=
    fun op hop => Nat.le_trans ht (Nat.le_of_lt (hlevel op hop))
  obtain ⟨m, e', c, hm, hrun, hbare⟩ := h (r := r) hlevel hops hn
  obtain ⟨m, rfl⟩ : ∃ m', m = m' + 1 := ⟨m - 1, by omega⟩
  refine ⟨e', c, ?_, hbare⟩
  rw [hrun]
  simp only [operators]
  rw [run_bind_eq run_peek, if_neg]
  · rfl
  · rintro ⟨hlt, -⟩
    exact absurd ht (Nat.not_le_of_lt hlt)

lemma Primary.readsAs (p : Primary) (hsound : ∀ t ∈ p.tokens, t.face.Sound) :
    ReadsAs p.tokens [] p.tree.bare := by
  intro level n t r _ _ hn
  obtain ⟨last, hread⟩ := p.operand_run hsound
  simp only [Primary.tokens, List.length_cons] at hn ⊢
  obtain ⟨n, rfl⟩ : ∃ n', n = n' + 1 := ⟨n - 1, by omega⟩
  refine ⟨n, p.tree, last, by omega, ?_, rfl⟩
  simp only [expr]
  exact run_bind_eq (hread n (t :: r) (by omega)) _

/-- A list that is split at an operator which is loosest and rightmost. -/
lemma ReadsAs.split {ls rs : List Token} {before after : List Infix} {left right : Expr} {o : Token}
    {op : Infix} (hl : ReadsAs ls before left) (hr : ReadsAs rs after right) (ho : o.kind = op.kind)
    (hbefore : ∀ x ∈ before, op.level ≤ x.level) (hafter : ∀ x ∈ after, op.level < x.level) :
    ReadsAs (ls ++ o :: rs) (before ++ op :: after) (op.join left right) := by
  intro level n t r hlevel ht hn
  simp only [List.length_append, List.length_cons] at hn ⊢
  have hop : op ∈ before ++ op :: after := by simp
  -- what stands before the operator is complete there
  obtain ⟨m, left', c, hm, hrun, hbare⟩ := @hl level n o (rs ++ t :: r)
    (fun x hx => hlevel x (List.mem_append_left _ hx))
    (fun x hx => by
      have := hbefore x hx
      rw [ho, op.rank_kind, x.rank_kind]
      omega) (by omega)
  obtain ⟨m, rfl⟩ : ∃ m', m = m' + 1 := ⟨m - 1, by omega⟩
  -- what stands after it binds tighter and is read at its level
  have hright : ∀ n, 4 * rs.length + 4 ≤ n → ∃ right' c,
      (expr n (Level.ofKind op.kind)).run (.start (rs ++ t :: r)) = .ok (right', ⟨c, t :: r⟩) ∧
        right'.bare = right := by
    intro n hn
    refine hr.complete (fun x hx => ?_) (ht op hop) hn
    have := hafter x hx
    rw [op.kind_rank_eq, x.rank_kind]
    omega
  obtain ⟨e, c', hext, hbare'⟩ := extend_infix op left' (m := m) ho (by omega) hright
  refine ⟨m, e, c', by omega, ?_, by rw [hbare', hbare]⟩
  have hrank : level.rank < (Level.ofKind o.kind).rank := by
    rw [ho]
    exact hlevel op hop
  rw [List.append_assoc, List.cons_append, hrun]
  simp only [operators]
  rw [run_bind_eq run_peek, if_pos ⟨hrank, op.not_splits ho⟩, run_bind_eq run_advance]
  exact run_bind_eq hext _

/-- Operands with infix operators between them have a tree, and are read as it. -/
lemma exists_grouped (rest : List Link) (first : Primary)
    (hsound : ∀ t ∈ linkTokens first rest, t.face.Sound) :
    ∃ e, Grouped first.tree.bare (rest.map Link.entry) e ∧
      ReadsAs (linkTokens first rest) (rest.map Link.op) e := by
  induction hn : rest.length using Nat.strongRecOn generalizing first rest with
  | ind n ih =>
    subst hn
    by_cases hnil : rest = []
    · subst hnil
      simp only [linkTokens, List.flatMap_nil, List.append_nil] at hsound ⊢
      exact ⟨_, .single _, first.readsAs hsound⟩
    · obtain ⟨before, x, after, rfl, hbefore, hafter⟩ :=
        exists_loosest (fun x : Link => x.op.level) hnil
      rw [linkTokens_append] at hsound ⊢
      simp only [List.length_append, List.length_cons] at ih
      obtain ⟨left, hleft, hreadsl⟩ := ih before.length (by omega) before first
        (fun t ht => hsound t (List.mem_append_left _ ht)) rfl
      obtain ⟨right, hright, hreadsr⟩ := ih after.length (by omega) after x.operand
        (fun t ht => hsound t (List.mem_append_right _ (List.mem_cons_of_mem _ ht))) rfl
      refine ⟨x.op.join left right, ?_, ?_⟩
      · rw [List.map_append, List.map_cons]
        refine .split ?_ ?_ hleft hright
        · simpa [Link.entry] using hbefore
        · simpa [Link.entry] using hafter
      · rw [List.map_append, List.map_cons]
        exact hreadsl.split hreadsr x.token_kind (by simpa using hbefore) (by simpa using hafter)

/-! ### Programs -/

/-- An expression up to the end of input is a program of one statement. -/
lemma statements_single {n m : Nat} {ts : List Token} {t c : Token} {e : Expr}
    (h : (expr n .lowest).run (.start (ts ++ [t])) = .ok (e, ⟨c, [t]⟩)) (ht : t.kind = .eof) :
    ∃ s f, (statements n (m + 2)).run (.start (ts ++ [t])) = .ok ([.expr s e], f) := by
  obtain ⟨-, -, hsemicolon, heof⟩ := expr_current h
  obtain ⟨s, hs⟩ := exists_spanOf ⟨c, [t]⟩ (Feed.start (ts ++ [t])).current
  have hstatement : (statement n).run (.start (ts ++ [t])) = .ok (.expr s e, ⟨c, [t]⟩) := by
    simp only [statement]
    rw [run_bind_eq run_current, if_neg hsemicolon, run_bind_eq h, run_bind_eq hs,
      run_bind_eq run_peek, if_neg (by simp [ht]), if_neg (by simp [ht]), if_pos (by simp [ht])]
    rfl
  have hend : (statements n (m + 1)).run ⟨t, []⟩ = .ok ([], ⟨t, []⟩) := by
    simp only [statements]
    rw [run_bind_eq run_current, if_pos ht]
    rfl
  refine ⟨s, ⟨t, []⟩, ?_⟩
  rw [statements, run_bind_eq run_current, if_neg heof, run_bind_eq hstatement,
    run_bind_eq run_advance, Feed.next_cons, run_bind_eq hend]
  rfl

/-- **Precedence and associativity.**  A text of primary expressions with infix operators between
them is read as one expression: the tree of the reference grammar. -/
theorem Program.parse_infix (s : String) (first : Primary) (rest : List Link) (last : Token)
    (htokens : Token.all s = linkTokens first rest ++ [last]) (hlast : last.kind = .eof) :
    ∃ p e, Program.parse s = .ok p ∧ p.tree = [e] ∧
      Grouped first.tree.bare (rest.map Link.entry) e ∧
      ∀ e', Grouped first.tree.bare (rest.map Link.entry) e' → e' = e := by
  have hsound : ∀ t ∈ linkTokens first rest, t.face.Sound := by
    intro t ht
    have hmem : t ∈ Token.all s := by
      rw [htokens]
      exact List.mem_append_left _ ht
    exact Token.sound_all hmem
  obtain ⟨e, hgrouped, hreads⟩ := exists_grouped rest first hsound
  have hlevel : ∀ op ∈ rest.map Link.op, Level.lowest.rank < op.kind.rank := by
    intro op _
    rw [op.rank_kind]
    exact Nat.lt_of_lt_of_le (by decide) (Nat.le_add_left 6 op.level)
  have hlength : (Token.all s).length = (linkTokens first rest).length + 1 := by
    rw [htokens, List.length_append, List.length_singleton]
  obtain ⟨e', c, hrun, hbare⟩ := hreads.complete (n := 4 * (Token.all s).length + 8) (t := last)
    (r := []) hlevel (by rw [hlast]; decide) (by omega)
  obtain ⟨span, f, hstatements⟩ :=
    statements_single (m := (linkTokens first rest).length) hrun hlast
  rw [← htokens, show (linkTokens first rest).length + 2 = (Token.all s).length + 1 by
    rw [hlength]] at hstatements
  obtain ⟨p, hp, hbody⟩ := Program.parse_iff.2 ⟨f, hstatements⟩
  refine ⟨p, e, hp, ?_, hgrouped, fun e' h => h.unique hgrouped⟩
  rw [Program.tree, Program.exprs, hbody, ← hbare]
  rfl

/-- A sum before a comparison, with a product on its right. -/
theorem Program.parse_infix_mixed : ∃ first rest last,
    Token.all "a + (b || 'c') * this === d" = linkTokens first rest ++ [last] ∧
      last.kind = .eof ∧
      rest.map Link.op = [.binary .add, .binary .mul, .binary .strictEq] ∧
      ∃ p e, Program.parse "a + (b || 'c') * this === d" = .ok p ∧ p.tree = [e] ∧
        Grouped first.tree.bare (rest.map Link.entry) e ∧
        ∀ e', Grouped first.tree.bare (rest.map Link.entry) e' → e' = e := by
  let a : Primary := ⟨⟨.ident, "a", "a", 1, 1, 0, false⟩, [], _, rfl, 1, _, rfl⟩
  let b : Primary := ⟨⟨.lparen, "(", "(", 1, 5, 4, false⟩, [⟨.ident, "b", "b", 1, 6, 5, false⟩,
    ⟨.or, "||", "||", 1, 8, 7, false⟩, ⟨.string, "c", "'c'", 1, 11, 10, false⟩,
    ⟨.rparen, ")", ")", 1, 14, 13, false⟩], _, rfl, 8, _, rfl⟩
  let c : Primary := ⟨⟨.this, "this", "this", 1, 18, 17, false⟩, [], _, rfl, 1, _, rfl⟩
  let d : Primary := ⟨⟨.ident, "d", "d", 1, 27, 26, false⟩, [], _, rfl, 1, _, rfl⟩
  have htokens : Token.all "a + (b || 'c') * this === d" =
      linkTokens a [⟨.binary .add, ⟨.plus, "+", "+", 1, 3, 2, false⟩, rfl, b⟩,
        ⟨.binary .mul, ⟨.asterisk, "*", "*", 1, 16, 15, false⟩, rfl, c⟩,
        ⟨.binary .strictEq, ⟨.strictEq, "===", "===", 1, 23, 22, false⟩, rfl, d⟩] ++
        [⟨.eof, "", "", 1, 27, 27, false⟩] := by decide +kernel
  exact ⟨a, _, _, htokens, rfl, rfl, parse_infix _ _ _ _ htokens rfl⟩
end Trellis
