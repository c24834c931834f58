/-
What a text that is not read is blamed on.

A text that is no program is refused at one of its tokens: the fault is one of the five faults of
syntax, and it stands where that token starts (`Program.parse_blames`).  In particular the bound of
the reader is never used up, so this is shown together with it (`Reading.Settles`): a run either
goes on, with at most so many tokens left, or it fails at a token.  The fields of `Reading.Blaming`
say so of each function of the reader, and they are proved together by induction on the bound.
-/
import Trellis.Proofs.Expr.RoundTrip
import Trellis.Proofs.Token.Tiling

namespace Trellis

open Token (Kind)

/-! ### Faults of syntax -/

/-- What can be wrong with the syntax of an expression. -/
def Fault.syntaxCodes : List Fault.Code :=
  [.expected, .unexpectedToken, .unterminatedString, .badNumber, .missingTerminator]

/-- Whether a fault is one of syntax. -/
def Fault.IsSyntax (g : Fault) : Prop :=
  ∃ code ∈ Fault.syntaxCodes, g.label?.map (·.code) = some code.entry.label

instance (g : Fault) : Decidable g.IsSyntax :=
  inferInstanceAs (Decidable (∃ code ∈ Fault.syntaxCodes, _))

/-- Whether a fault is one of syntax, at the place of a token. -/
structure Fault.Blames (g : Fault) (t : Token) : Prop where
  line_eq : g.line = t.line
  column_eq : g.column = t.column
  isSyntax : g.IsSyntax

/-! ### Feeds within a text -/

/-- Whether the tokens to be read are the last ones of `S`, which ends with the end of input. -/
structure Feed.Within (S : List Token) (f : Feed) : Prop extends f.Real where
  suffix : f.current :: f.rest <:+ S

namespace Feed

variable {S : List Token} {f : Feed}

lemma Within.current_mem (h : f.Within S) : f.current ∈ S := h.suffix.subset List.mem_cons_self

lemma Within.peek_mem (h : f.Within S) : f.peek ∈ S := by
  refine h.suffix.subset ?_
  obtain ⟨c, rest⟩ := f
  cases rest <;> simp [Feed.peek]

lemma Within.next (h : f.Within S) : f.next.Within S := by
  refine ⟨h.toReal.next, ?_⟩
  obtain ⟨c, rest⟩ := f
  cases rest with
  | nil => exact h.suffix
  | cons t ts => exact (List.suffix_cons c (t :: ts)).trans h.suffix

lemma next_length (f : Feed) : f.next.rest.length = f.rest.length - 1 := by
  obtain ⟨c, rest⟩ := f
  cases rest <;> rfl

/-- Behind a token that is not the end of input, and before one, a token is left. -/
lemma Within.length_pos (h : f.Within S) (hopen : f.current.kind ≠ .eof ∨ f.peek.kind ≠ .eof) :
    0 < f.rest.length := by
  rw [h.toReal.rest_eq hopen]
  exact Nat.succ_pos _

end Feed

namespace Reading

variable {α β : Type} {S : List Token} {f : Feed} {k j n : Nat}

/-! ### Single steps -/

/-- Whether a run goes on with at most `k` tokens behind the current one, or fails at a token. -/
def Settles (S : List Token) (k : Nat) : Except Fault (α × Feed) → Prop
  | .ok r => r.2.Within S ∧ r.2.rest.length ≤ k
  | .error g => ∃ t ∈ S, g.Blames t

lemma Settles.mono {r : Except Fault (α × Feed)} (h : Settles S k r) (hk : k ≤ j) :
    Settles S j r := by
  cases r with
  | error g => exact h
  | ok r => exact ⟨h.1, Nat.le_trans h.2 hk⟩

lemma Settles.bind {x : Reading α} {g : α → Reading β} (hx : Settles S k (x.run f))
    (hg : ∀ a f₁, x.run f = .ok (a, f₁) → f₁.Within S → f₁.rest.length ≤ k →
      Settles S j ((g a).run f₁)) : Settles S j ((x >>= g).run f) := by
  rw [StateT.run_bind]
  cases hrun : x.run f with
  | error e =>
    rw [hrun] at hx
    exact hx
  | ok r =>
    rw [hrun] at hx
    exact hg r.1 r.2 hrun hx.1 hx.2

lemma settles_pure {a : α} (hf : f.Within S) (hk : f.rest.length ≤ k) :
    Settles S k ((pure a : Reading α).run f) := ⟨hf, hk⟩

/-- What ends with taking a span. -/
lemma settles_span {line column : Nat} {a : Span → α} (hf : f.Within S) (hk : f.rest.length ≤ k) :
    Settles S k ((do return a (← spanFrom line column) : Reading α).run f) := ⟨hf, hk⟩

lemma settles_failAt {t : Token} {code : Fault.Code} {details : List (String × String)} (ht : t ∈ S)
    (hcode : code ∈ Fault.syntaxCodes) : Settles S k ((failAt t code details : Reading α).run f) :=
  ⟨t, ht, rfl, rfl, code, hcode, rfl⟩

lemma settles_expected {t : Token} {what got : String} (ht : t ∈ S) :
    Settles S k ((expected t what got : Reading α).run f) := settles_failAt ht (by decide)

lemma settles_noOperand {t : Token} (ht : t ∈ S) :
    Settles S k ((noOperand t : Reading α).run f) := by
  unfold noOperand
  simp only
  split_ifs
  · exact ⟨t, ht, rfl, rfl, .unterminatedString, by decide, rfl⟩
  · exact settles_expected ht
  · exact settles_failAt ht (by decide)

lemma settles_advance (hf : f.Within S) : Settles S (f.rest.length - 1) (advance.run f) :=
  ⟨hf.next, Nat.le_of_eq f.next_length⟩

lemma settles_expect {kind : Kind} {what : String} (hf : f.Within S) :
    Settles S (f.rest.length - 1) ((expect kind what).run f) := by
  unfold expect
  rw [run_bind_eq run_peek]
  split
  · exact settles_advance hf
  · exact settles_expected hf.peek_mem

lemma settles_number {t : Token} (hf : f.Within S) (ht : t ∈ S) (hk : f.rest.length ≤ k) :
    Settles S k ((number t).run f) := by
  unfold number
  split
  · exact settles_failAt ht (by decide)
  · exact settles_pure hf hk

lemma settles_assignable {t : Token} {what : String} {e : Expr} (hf : f.Within S) (ht : t ∈ S)
    (hk : f.rest.length ≤ k) : Settles S k ((assignable t what e).run f) := by
  unfold assignable
  split
  · exact settles_pure hf hk
  · exact settles_expected ht

lemma settles_key (hf : f.Within S) (hk : f.rest.length ≤ k) : Settles S k (key.run f) := by
  unfold key
  rw [run_bind_eq run_current]
  split
  · exact settles_span hf hk
  · split
    · exact settles_span hf hk
    · rw [run_bind_eq (run_spanOf _)]
      refine (settles_number hf hf.current_mem hk).bind fun raw f₁ _ hf₁ hk₁ => ?_
      exact settles_pure hf₁ hk₁
    · exact settles_expected hf.current_mem

/-! ### The functions of the reader -/

/-- How each function of the reader, bounded by `n`, settles: the bound allows four for each token
that is left, and some more for the calls before the first one is taken. -/
structure Blaming (S : List Token) (n : Nat) : Prop where
  expr : ∀ {level f}, f.Within S → 4 * f.rest.length + 4 ≤ n →
    Settles S f.rest.length ((expr n level).run f)
  operators : ∀ {level left f}, f.Within S → 4 * f.rest.length + 1 ≤ n →
    Settles S f.rest.length ((operators n level left).run f)
  operand : ∀ {f}, f.Within S → 4 * f.rest.length + 3 ≤ n →
    Settles S f.rest.length ((operand n).run f)
  unary : ∀ {t op f}, f.Within S → f.current.kind ≠ .eof → 4 * f.rest.length + 1 ≤ n →
    Settles S f.rest.length ((unary n t op).run f)
  updateBefore : ∀ {t op f}, f.Within S → f.current.kind ≠ .eof → t ∈ S →
    4 * f.rest.length + 1 ≤ n → Settles S f.rest.length ((updateBefore n t op).run f)
  extend : ∀ {left f}, f.Within S → 4 * f.rest.length + 3 ≤ n →
    Settles S f.rest.length ((extend n left).run f)
  logical : ∀ {t op left f}, f.Within S → f.current.kind ≠ .eof → 4 * f.rest.length + 1 ≤ n →
    Settles S f.rest.length ((logical n t op left).run f)
  assignment : ∀ {t op target f}, f.Within S → f.current.kind ≠ .eof → t ∈ S →
    4 * f.rest.length + 1 ≤ n → Settles S f.rest.length ((assignment n t op target).run f)
  sequence : ∀ {f}, f.Within S → f.current.kind ≠ .eof → 4 * f.rest.length + 1 ≤ n →
    Settles S f.rest.length ((sequence n).run f)
  chain : ∀ {f}, f.Within S → 4 * f.rest.length + 1 ≤ n →
    Settles S f.rest.length ((chain n).run f)
  list : ∀ {close what f}, f.Within S → f.current.kind ≠ .eof → 4 * f.rest.length + 2 ≤ n →
    Settles S f.rest.length ((list n close what).run f)
  items : ∀ {f}, f.Within S → f.current.kind ≠ .eof → 4 * f.rest.length + 1 ≤ n →
    Settles S f.rest.length ((items n).run f)
  properties : ∀ {f}, f.Within S → 4 * f.rest.length + 1 ≤ n →
    Settles S f.rest.length ((properties n).run f)

-- without a bound nothing may be asked: every field allows at least one call
lemma blames_zero : Blaming S 0 where
  expr _ hn := absurd hn (by omega)
  operators _ hn := absurd hn (by omega)
  operand _ hn := absurd hn (by omega)
  unary _ _ hn := absurd hn (by omega)
  updateBefore _ _ _ hn := absurd hn (by omega)
  extend _ hn := absurd hn (by omega)
  logical _ _ hn := absurd hn (by omega)
  assignment _ _ _ hn := absurd hn (by omega)
  sequence _ _ hn := absurd hn (by omega)
  chain _ hn := absurd hn (by omega)
  list _ _ hn := absurd hn (by omega)
  items _ _ hn := absurd hn (by omega)
  properties _ hn := absurd hn (by omega)

lemma blames_expr (ih : Blaming S n) {level : Level} (hf : f.Within S)
    (hn : 4 * f.rest.length + 4 ≤ n + 1) :
    Settles S f.rest.length ((expr (n + 1) level).run f) := by
  simp only [expr]
  refine (ih.operand hf (by omega)).bind fun left f₁ _ hf₁ hk => ?_
  exact (ih.operators hf₁ (by omega)).mono hk

lemma blames_operators (ih : Blaming S n) {level : Level} {left : Expr} (hf : f.Within S)
    (hn : 4 * f.rest.length + 1 ≤ n + 1) :
    Settles S f.rest.length ((operators (n + 1) level left).run f) := by
  simp only [operators]
  rw [run_bind_eq run_peek]
  split
  · next hc =>
    -- nothing is extended by the end of input
    have hpeek : f.peek.kind ≠ .eof := by
      intro heof
      rw [heof] at hc
      have hrank := hc.1
      cases level <;> simp [Level.rank, Level.ofKind] at hrank
    have hpos := hf.length_pos (.inr hpeek)
    have hlength := f.next_length
    rw [run_bind_eq run_advance]
    refine (ih.extend hf.next (by omega)).bind fun e f₁ _ hf₁ hk => ?_
    exact (ih.operators hf₁ (by omega)).mono (by omega)
  · exact settles_pure hf (Nat.le_refl _)

/-- An expression behind the current token. -/
lemma blames_behind (ih : Blaming S n) {level : Level} (hf : f.Within S)
    (hopen : f.current.kind ≠ .eof) (hn : 4 * f.rest.length ≤ n) :
    Settles S (f.rest.length - 1) ((expr n level).run f.next) := by
  have hpos := hf.length_pos (.inl hopen)
  have hlength := f.next_length
  exact (ih.expr hf.next (by omega)).mono (by omega)

lemma blames_operand (ih : Blaming S n) (hf : f.Within S) (hn : 4 * f.rest.length + 3 ≤ n + 1) :
    Settles S f.rest.length ((operand (n + 1)).run f) := by
  simp only [operand]
  rw [run_bind_eq run_current]
  have ht := hf.current_mem
  split
  case h_2 =>
    rw [run_bind_eq (run_spanOf _)]
    exact (settles_number hf ht (Nat.le_refl _)).bind fun raw f₁ _ hf₁ hk => settles_pure hf₁ hk
  case h_1 | h_3 | h_4 | h_5 | h_6 | h_7 => exact settles_span hf (Nat.le_refl _)
  case h_8 hk | h_9 hk | h_10 hk | h_11 hk => exact ih.unary hf (by simp [hk]) (by omega)
  case h_12 hk | h_13 hk => exact ih.updateBefore hf (by simp [hk]) ht (by omega)
  case h_14 hk =>
    -- a parenthesis: the expression inside, then the token that closes it
    rw [run_bind_eq run_advance]
    refine (blames_behind ih hf (by simp [hk]) (by omega)).bind fun inner f₁ _ hf₁ hk₁ => ?_
    refine (settles_expect hf₁).bind fun _ f₂ _ hf₂ hk₂ => ?_
    exact settles_span hf₂ (by omega)
  case h_15 hk =>
    refine (ih.list hf (by simp [hk]) (by omega)).bind fun elements f₁ _ hf₁ hk₁ => ?_
    exact settles_span hf₁ hk₁
  case h_16 =>
    refine (ih.properties hf (by omega)).bind fun ps f₁ _ hf₁ hk₁ => ?_
    exact settles_span hf₁ hk₁
  case h_17 => exact settles_noOperand ht

lemma blames_unary (ih : Blaming S n) {t : Token} {op : Expr.UnaryOp} (hf : f.Within S)
    (hopen : f.current.kind ≠ .eof) (hn : 4 * f.rest.length + 1 ≤ n + 1) :
    Settles S f.rest.length ((unary (n + 1) t op).run f) := by
  simp only [unary]
  rw [run_bind_eq run_advance]
  refine (blames_behind ih hf hopen (by omega)).bind fun argument f₁ _ hf₁ hk => ?_
  exact settles_span hf₁ (by omega)

lemma blames_updateBefore (ih : Blaming S n) {t : Token} {op : Expr.UpdateOp} (hf : f.Within S)
    (hopen : f.current.kind ≠ .eof) (ht : t ∈ S) (hn : 4 * f.rest.length + 1 ≤ n + 1) :
    Settles S f.rest.length ((updateBefore (n + 1) t op).run f) := by
  simp only [updateBefore]
  rw [run_bind_eq run_advance]
  refine (blames_behind ih hf hopen (by omega)).bind fun target f₁ _ hf₁ hk => ?_
  refine (settles_assignable hf₁ ht hk).bind fun _ f₂ _ hf₂ hk₂ => ?_
  exact settles_span hf₂ (by omega)

lemma blames_logical (ih : Blaming S n) {t : Token} {op : Expr.LogicalOp} {left : Expr}
    (hf : f.Within S) (hopen : f.current.kind ≠ .eof) (hn : 4 * f.rest.length + 1 ≤ n + 1) :
    Settles S f.rest.length ((logical (n + 1) t op left).run f) := by
  simp only [logical]
  rw [run_bind_eq run_advance]
  refine (blames_behind ih hf hopen (by omega)).bind fun right f₁ _ hf₁ hk => ?_
  exact settles_span hf₁ (by omega)

lemma blames_assignment (ih : Blaming S n) {t : Token} {op : Expr.AssignOp} {target : Expr}
    (hf : f.Within S) (hopen : f.current.kind ≠ .eof) (ht : t ∈ S)
    (hn : 4 * f.rest.length + 1 ≤ n + 1) :
    Settles S f.rest.length ((assignment (n + 1) t op target).run f) := by
  simp only [assignment]
  refine (settles_assignable hf ht (Nat.le_refl _)).bind fun _ f₁ hcheck hf₁ hk => ?_
  obtain ⟨-, rfl⟩ := run_assignable_iff.1 hcheck
  rw [run_bind_eq run_advance]
  refine (blames_behind ih hf hopen (by omega)).bind fun value f₂ _ hf₂ hk₂ => ?_
  exact settles_span hf₂ (by omega)

lemma blames_extend (ih : Blaming S n) {left : Expr} (hf : f.Within S)
    (hn : 4 * f.rest.length + 3 ≤ n + 1) :
    Settles S f.rest.length ((extend (n + 1) left).run f) := by
  simp only [extend]
  rw [run_bind_eq run_current]
  have ht := hf.current_mem
  split
  case h_1 hk | h_2 hk => exact ih.logical hf (by simp [hk]) (by omega)
  case h_3 hk =>
    rw [run_bind_eq run_advance]
    refine (blames_behind ih hf (by simp [hk]) (by omega)).bind fun consequent f₁ _ hf₁ hk₁ => ?_
    refine (settles_expect hf₁).bind fun _ f₂ hexpect hf₂ hk₂ => ?_
    -- the colon is not the end of input, so moving on from it takes one more token
    obtain ⟨hcolon, rfl⟩ := run_expect_iff.1 hexpect
    rw [← Feed.next_current] at hcolon
    rw [run_bind_eq run_advance]
    refine (blames_behind ih hf₂ (by simp [hcolon]) (by omega)).bind fun alternate f₃ _ hf₃ hk₃ =>
      ?_
    exact settles_span hf₃ (by omega)
  case h_4 =>
    refine (ih.chain hf (by omega)).bind fun ds f₁ _ hf₁ hk₁ => ?_
    cases ds with
    | nil =>
      rw [run_bind_eq (run_spanOf _)]
      exact settles_span hf₁ hk₁
    | cons d ds =>
      rw [run_bind_eq (run_spanFrom _ _)]
      exact settles_span hf₁ hk₁
  case h_5 hk =>
    refine (ih.sequence hf (by simp [hk]) (by omega)).bind fun es f₁ _ hf₁ hk₁ => ?_
    exact settles_span hf₁ hk₁
  case h_6 hk | h_7 hk | h_8 hk => exact ih.assignment hf (by simp [hk]) ht (by omega)
  case h_9 | h_10 =>
    refine (settles_assignable hf ht (Nat.le_refl _)).bind fun _ f₁ _ hf₁ hk₁ => ?_
    exact settles_span hf₁ hk₁
  case h_11 hk =>
    refine (ih.list hf (by simp [hk]) (by omega)).bind fun arguments f₁ _ hf₁ hk₁ => ?_
    exact settles_span hf₁ hk₁
  case h_12 hk =>
    rw [run_bind_eq run_advance]
    refine (blames_behind ih hf (by simp [hk]) (by omega)).bind fun index f₁ _ hf₁ hk₁ => ?_
    refine (settles_expect hf₁).bind fun _ f₂ _ hf₂ hk₂ => ?_
    exact settles_span hf₂ (by omega)
  case h_13 =>
    rw [run_bind_eq run_advance, run_bind_eq run_current]
    split
    · rw [run_bind_eq (run_spanOf _)]
      exact settles_span hf.next (by rw [f.next_length]; exact Nat.sub_le _ _)
    · exact settles_expected hf.next.current_mem
  case h_14 =>
    split
    · next op hop =>
      have hopen : f.current.kind ≠ .eof := by
        intro heof
        rw [heof] at hop
        cases hop
      rw [run_bind_eq run_advance]
      refine (blames_behind ih hf hopen (by omega)).bind fun right f₁ _ hf₁ hk₁ => ?_
      exact settles_span hf₁ (by omega)
    · exact settles_noOperand ht

/-- An expression, and more after a comma. -/
lemma blames_further (ih : Blaming S n) {more : Reading (List Expr)} (hf : f.Within S)
    (hopen : f.current.kind ≠ .eof) (hn : 4 * f.rest.length ≤ n)
    (hmore : ∀ {f}, f.Within S → f.current.kind ≠ .eof → 4 * f.rest.length + 1 ≤ n →
      Settles S f.rest.length (more.run f)) :
    Settles S f.rest.length ((do
      advance
      let e ← expr n .sequence
      if (← peek).kind = .comma then
        advance
        return e :: (← more)
      else return [e] : Reading (List Expr)).run f) := by
  rw [run_bind_eq run_advance]
  refine (blames_behind ih hf hopen hn).bind fun e f₁ _ hf₁ hk => ?_
  rw [run_bind_eq run_peek]
  split
  · next hcomma =>
    have hpos := hf₁.length_pos (.inr (by simp [hcomma]))
    have hlength := f₁.next_length
    rw [← Feed.next_current] at hcomma
    rw [run_bind_eq run_advance]
    refine (hmore hf₁.next (by simp [hcomma]) (by omega)).bind fun es f₂ _ hf₂ hk₂ => ?_
    exact settles_pure hf₂ (by omega)
  · exact settles_pure hf₁ (by omega)

lemma blames_sequence (ih : Blaming S n) (hf : f.Within S) (hopen : f.current.kind ≠ .eof)
    (hn : 4 * f.rest.length + 1 ≤ n + 1) :
    Settles S f.rest.length ((sequence (n + 1)).run f) := by
  simp only [sequence]
  exact blames_further ih hf hopen (by omega) ih.sequence

lemma blames_items (ih : Blaming S n) (hf : f.Within S) (hopen : f.current.kind ≠ .eof)
    (hn : 4 * f.rest.length + 1 ≤ n + 1) :
    Settles S f.rest.length ((items (n + 1)).run f) := by
  simp only [items]
  exact blames_further ih hf hopen (by omega) ih.items

lemma blames_list (ih : Blaming S n) {close : Kind} {what : String} (hf : f.Within S)
    (hopen : f.current.kind ≠ .eof) (hn : 4 * f.rest.length + 2 ≤ n + 1) :
    Settles S f.rest.length ((list (n + 1) close what).run f) := by
  simp only [list]
  rw [run_bind_eq run_peek]
  split
  · rw [run_bind_eq run_advance]
    exact settles_pure hf.next (by rw [f.next_length]; exact Nat.sub_le _ _)
  · refine (ih.items hf hopen (by omega)).bind fun es f₁ _ hf₁ hk => ?_
    refine (settles_expect hf₁).bind fun _ f₂ _ hf₂ hk₂ => ?_
    exact settles_pure hf₂ (by omega)

lemma blames_links (ih : Blaming S n) {d : Decorator} (hf : f.Within S)
    (hn : 4 * f.rest.length ≤ n) :
    Settles S f.rest.length ((links n d).run f) := by
  unfold links
  rw [run_bind_eq run_peek]
  split
  · next hpipe =>
    have hpos := hf.length_pos (.inr (by simp [hpipe]))
    have hlength := f.next_length
    rw [run_bind_eq run_advance]
    refine (ih.chain hf.next (by omega)).bind fun ds f₁ _ hf₁ hk => ?_
    exact settles_pure hf₁ (by omega)
  · exact settles_pure hf (Nat.le_refl _)

lemma blames_chain (ih : Blaming S n) (hf : f.Within S) (hn : 4 * f.rest.length + 1 ≤ n + 1) :
    Settles S f.rest.length ((chain (n + 1)).run f) := by
  simp only [chain]
  refine (settles_expect hf).bind fun _ f₁ hexpect hf₁ hk => ?_
  obtain ⟨hname, rfl⟩ := run_expect_iff.1 hexpect
  have hpos := hf.length_pos (.inr (by simp [hname]))
  rw [run_bind_eq run_current, run_bind_eq run_peek]
  split
  · next hparen =>
    have hlength := f.next.next_length
    rw [← Feed.next_current] at hparen
    rw [run_bind_eq run_advance]
    refine (ih.list hf₁.next (by simp [hparen]) (by omega)).bind fun es f₂ _ hf₂ hk₂ => ?_
    rw [run_bind_eq (run_spanOf _)]
    exact (blames_links ih hf₂ (by omega)).mono (by omega)
  · rw [run_bind_eq (run_pure _), run_bind_eq (run_spanOf _)]
    exact (blames_links ih hf₁ (by omega)).mono (by omega)

lemma blames_properties (ih : Blaming S n) (hf : f.Within S) (hn : 4 * f.rest.length + 1 ≤ n + 1) :
    Settles S f.rest.length ((properties (n + 1)).run f) := by
  simp only [properties]
  rw [run_bind_eq run_peek]
  split
  · rw [run_bind_eq run_advance]
    exact settles_pure hf.next (by rw [f.next_length]; exact Nat.sub_le _ _)
  · rw [run_bind_eq run_advance]
    refine (settles_key hf.next (Nat.le_of_eq f.next_length)).bind fun name f₁ _ hf₁ hk₁ => ?_
    refine (settles_expect hf₁).bind fun _ f₂ hexpect hf₂ hk₂ => ?_
    obtain ⟨hcolon, rfl⟩ := run_expect_iff.1 hexpect
    have hpos := hf₁.length_pos (.inr (by simp [hcolon]))
    rw [← Feed.next_current] at hcolon
    rw [run_bind_eq run_advance]
    refine (blames_behind ih hf₂ (by simp [hcolon]) (by omega)).bind fun value f₃ _ hf₃ hk₃ => ?_
    rw [run_bind_eq run_peek]
    split
    · rw [run_bind_eq run_advance]
      have hlength := f₃.next_length
      refine (ih.properties hf₃.next (by omega)).bind fun ps f₄ _ hf₄ hk₄ => ?_
      exact settles_pure hf₄ (by omega)
    · split
      · refine (ih.properties hf₃ (by omega)).bind fun ps f₄ _ hf₄ hk₄ => ?_
        exact settles_pure hf₄ (by omega)
      · exact settles_expected hf₃.peek_mem

theorem blames (S : List Token) : ∀ n, Blaming S n
  | 0 => blames_zero
  | n + 1 =>
    have ih := blames S n
    { expr := blames_expr ih
      operators := blames_operators ih
      operand := blames_operand ih
      unary := blames_unary ih
      updateBefore := blames_updateBefore ih
      extend := blames_extend ih
      logical := blames_logical ih
      assignment := blames_assignment ih
      sequence := blames_sequence ih
      chain := blames_chain ih
      list := blames_list ih
      items := blames_items ih
      properties := blames_properties ih }

/-! ### Programs -/

lemma blames_statement (hf : f.Within S) (hn : 4 * f.rest.length + 4 ≤ n) :
    Settles S f.rest.length ((statement n).run f) := by
  unfold statement
  rw [run_bind_eq run_current]
  split
  · exact settles_span hf (Nat.le_refl _)
  · refine ((blames S n).expr hf hn).bind fun e f₁ _ hf₁ hk => ?_
    rw [run_bind_eq (run_spanOf _), run_bind_eq run_peek]
    split
    · rw [run_bind_eq run_advance]
      exact settles_pure hf₁.next (by rw [f₁.next_length]; omega)
    · split
      · exact settles_noOperand hf₁.peek_mem
      · split
        · exact settles_pure hf₁ hk
        · exact settles_failAt hf₁.peek_mem (by decide)

lemma blames_statements {m : Nat} (hf : f.Within S) (hn : 4 * f.rest.length + 4 ≤ n)
    (hm : f.rest.length < m) : Settles S f.rest.length ((statements n m).run f) := by
  induction m generalizing f with
  | zero => omega
  | succ m ih =>
    unfold statements
    rw [run_bind_eq run_current]
    split
    · exact settles_pure hf (Nat.le_refl _)
    · next hopen =>
      -- a token is left behind one that is not the end of input, so the bound on statements falls
      -- with it
      have hpos := hf.length_pos (.inl hopen)
      refine (blames_statement hf hn).bind fun s f₁ _ hf₁ hk => ?_
      have hlength := f₁.next_length
      rw [run_bind_eq run_advance]
      refine (ih hf₁.next (by omega) (by omega)).bind fun ss f₂ _ hf₂ hk₂ => ?_
      exact settles_pure hf₂ (by omega)

end Reading

lemma Feed.within_start (s : String) : (Feed.start (Token.all s)).Within (Token.all s) := by
  obtain ⟨ts, last, hall, hlast⟩ := Token.all_end s
  refine ⟨⟨Feed.sound_start s, ?_⟩, ?_⟩
  · rw [hall, ← List.getLastD_cons (a := Token.atEnd), Feed.start_append, Feed.getLastD_append]
    exact hlast
  · have htokens : (Feed.start (Token.all s)).current :: (Feed.start (Token.all s)).rest =
        Token.all s := by
      rw [hall]
      exact Feed.start_append ts last
    exact ⟨[], htokens⟩

/-- **Blame.**  A text is refused at one of its tokens. -/
theorem Program.parse_blames {s : String} {g : Fault} (h : Program.parse s = .error g) :
    ∃ t ∈ Token.all s, g.Blames t := by
  have hsettles : Reading.Settles (Token.all s) (Feed.start (Token.all s)).rest.length
      ((Reading.statements (4 * (Token.all s).length + 8) ((Token.all s).length + 1)).run
        (.start (Token.all s))) := by
    have hlength := (Feed.within_start s).suffix.length_le
    rw [List.length_cons] at hlength
    exact Reading.blames_statements (Feed.within_start s) (by omega) (by omega)
  change (Reading.statements _ _).run (.start (Token.all s)) >>= _ = _ at h
  cases hrun : (Reading.statements (4 * (Token.all s).length + 8) ((Token.all s).length + 1)).run
      (.start (Token.all s)) with
  | error e =>
    rw [hrun] at h hsettles
    cases h
    exact hsettles
  | ok r =>
    rw [hrun] at h
    cases h

end Trellis
