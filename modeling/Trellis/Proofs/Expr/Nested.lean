/-
How the places of a program nest.

Every node of a program that is read starts where its first token starts and ends where the token
ends that was current when the node was complete.  So the places of its children and of its names
lie within its own place, as long as moving on moves the end of the current token forward; and the
place of a node that is one token is the place of that token (`Program.parse_nested`).  Both are so
for texts whose tokens each lie on one line and have as many bytes as characters: the last column of
a token is counted from its bytes.

Each field of `Reading.Nests` says so of one function of the reader, and they are proved together by
induction on the bound.
-/
import Trellis.Expr.Names
import Trellis.Proofs.Expr.Blamed

namespace Trellis

open Token (Place Follows IsPlain)

/-! ### Places of nodes -/

namespace Span

/-- The place of the first character of a span. -/
def start (s : Span) : Place := toLex (s.startLine, s.startColumn)

/-- The place of the last character of a span. -/
def stop (s : Span) : Place := toLex (s.endLine, s.endColumn)

/-- Whether a span lies within another one. -/
structure Inside (s outer : Span) : Prop where
  start_le : outer.start ≤ s.start
  stop_le : s.stop ≤ outer.stop

/-- Whether a span is the place of one of the tokens: it starts where the token starts, and on its
line it has as many columns as the token has characters. -/
def IsToken (S : List Token) (s : Span) : Prop :=
  ∃ t ∈ S, s.start = t.start ∧ s.endLine = s.startLine ∧
    s.endColumn + 1 = s.startColumn + t.raw.length

end Span

/-- The place of the name of a property. -/
def Expr.Key.span : Expr.Key → Span
  | .word s _ | .string s _ _ | .number s _ => s

/-- The place of the name of a decorator, which stands in front. -/
def Decorator.nameSpan (d : Decorator) : Span :=
  ⟨d.span.startLine, d.span.startColumn, d.span.startLine,
    d.span.startColumn + max 1 d.name.utf8ByteSize - 1⟩

namespace Node

/-- The place of a node. -/
def span : Node → Span
  | .program p => p.span
  | .stmt s => s.span
  | .expr e => e.span
  | .chain s _ => s
  | .decorator d => d.span

/-- The places of the names in a node: of properties, after dots and of decorators. -/
def labels : Node → List Span
  | .expr (.object _ ps) => ps.map (·.key.span)
  | .expr (.member _ _ s _) => [s]
  | .decorator d => [d.nameSpan]
  | _ => []

/-- Whether a node is a single token. -/
def isLeaf : Node → Bool
  | .expr (.this _) | .expr (.ident _ _) | .expr (.lit _ _) | .stmt (.empty _) => true
  | _ => false

/-- Whether the place of a node is right among the tokens: it contains the places of the node's
children and names, and names and nodes of a single token have the place of a token. -/
structure Sits (S : List Token) (n : Node) : Prop where
  children : ∀ c ∈ n.children, c.span.Inside n.span
  labels : ∀ s ∈ n.labels, s.Inside n.span ∧ s.IsToken S
  leaf : n.isLeaf = true → n.span.IsToken S

variable {S : List Token} {n : Node}

/-- A node without names that is no leaf. -/
lemma sits_children (h : ∀ c ∈ n.children, c.span.Inside n.span) (hlabels : n.labels = [])
    (hleaf : n.isLeaf = false) : n.Sits S where
  children := h
  labels s hs := by simp [hlabels] at hs
  leaf h := by simp [hleaf] at h

/-- A node that is one token. -/
lemma sits_leaf (h : n.span.IsToken S) (hchildren : n.children = []) (hlabels : n.labels = []) :
    n.Sits S where
  children c hc := by simp [hchildren] at hc
  labels s hs := by simp [hlabels] at hs
  leaf _ := h

end Node

/-! ### Tokens in order -/

/-- Whether tokens are those of a text in which columns count as they should. -/
structure Token.Lined (S : List Token) : Prop where
  plain : ∀ t ∈ S, t.IsPlain
  chain : S.IsChain Follows

namespace Feed

variable {S : List Token} {f f₁ f₂ f' : Feed} {s : Span}

/-- Whether one current token stands before another one, or is the same. -/
structure Before (f f' : Feed) : Prop where
  start_le : f.current.start ≤ f'.current.start
  stop_le : f.current.stop ≤ f'.current.stop

lemma Before.refl (f : Feed) : f.Before f := ⟨le_refl _, le_refl _⟩

lemma Before.trans (h : f.Before f₁) (h' : f₁.Before f₂) : f.Before f₂ :=
  ⟨h.start_le.trans h'.start_le, h.stop_le.trans h'.stop_le⟩

/-- Moving on moves the current token forward. -/
lemma Within.before_next (hS : Token.Lined S) (hf : f.Within S) : f.Before f.next := by
  have hchain := hS.chain.suffix hf.suffix
  obtain ⟨c, rest⟩ := f
  cases rest with
  | nil => exact .refl _
  | cons t ts =>
    -- the current token ends before the next one starts
    have hfollows : c.stop ≤ t.start := (List.isChain_cons_cons.1 hchain).1
    exact ⟨c.start_le_stop.trans hfollows, hfollows.trans t.start_le_stop⟩

/-- Whether a span lies between two current tokens, both included. -/
structure Covers (f f' : Feed) (s : Span) : Prop where
  start_le : f.current.start ≤ s.start
  stop_le : s.stop ≤ f'.current.stop

lemma Covers.mono (h : f₁.Covers f₂ s) (hfirst : f.Before f₁) (hlast : f₂.Before f') :
    f.Covers f' s :=
  ⟨hfirst.start_le.trans h.start_le, h.stop_le.trans hlast.stop_le⟩

/-- What starts early enough and ends at the last of the tokens contains what lies between them. -/
lemma Covers.inside (h : f.Covers f' s) {outer : Span} (hstart : outer.start ≤ f.current.start)
    (hstop : outer.stop = f'.current.stop) : s.Inside outer :=
  ⟨hstart.trans h.start_le, h.stop_le.trans hstop.ge⟩

/-- The place of the current token. -/
lemma Within.isToken (hS : Token.Lined S) (hf : f.Within S) (hopen : f.current.kind ≠ .eof) :
    (f.spanFrom f.current.line f.current.column).IsToken S := by
  have hplain := hS.plain _ hf.current_mem
  -- only the end of input takes no character
  have hlength : 0 < f.current.raw.length := by
    rw [← String.length_toList]
    obtain ⟨rest, hrest⟩ := hf.toReal.current
    have hkind : (Token.Lexeme.next (f.current.face.raw.toList ++ rest)).kind ≠ .eof := by
      rw [hrest]
      exact hopen
    have hsize := Token.Lexeme.size_ne hkind
    rw [hrest] at hsize
    exact Nat.pos_of_ne_zero hsize
  refine ⟨f.current, hf.current_mem, rfl, rfl, ?_⟩
  rw [spanFrom, hplain.bytes_eq]
  dsimp only
  omega

end Feed

namespace Reading

variable {S : List Token} {n : Nat} {f f' : Feed} {e : Expr}

/-! ### Expressions -/

/-- Whether every node of an expression has its right place. -/
def Seated (S : List Token) (ns : List Node) : Prop := ∀ m ∈ ns, m.Sits S

lemma Seated.append {ms ns : List Node} (hm : Seated S ms) (hn : Seated S ns) :
    Seated S (ms ++ ns) :=
  List.forall_mem_append.2 ⟨hm, hn⟩

lemma Seated.single {m : Node} (h : m.Sits S) : Seated S [m] := List.forall_mem_singleton.2 h

lemma seated_nil : Seated S [] := fun _ hm => absurd hm List.not_mem_nil

/-- Whether reading from `f` to `f'` moved forward. -/
structure Moved (S : List Token) (f f' : Feed) : Prop where
  within : f'.Within S
  before : f.Before f'

lemma Moved.refl (hf : f.Within S) : Moved S f f := ⟨hf, .refl f⟩

lemma Moved.trans {f₁ : Feed} (h : Moved S f f₁) (h' : Moved S f₁ f') : Moved S f f' :=
  ⟨h'.within, h.before.trans h'.before⟩

lemma moved_next (hS : Token.Lined S) (hf : f.Within S) : Moved S f f.next :=
  ⟨hf.next, hf.before_next hS⟩

/-- Whether an expression was read from the given place on, up to the current token of `f'`. -/
structure Placed (S : List Token) (f f' : Feed) (place : Place) (e : Expr) :
    Prop extends Moved S f f' where
  start_eq : e.span.start = place
  stop_eq : e.span.stop = f'.current.stop
  seated : Seated S e.nodes

/-- Whether expressions were read between two current tokens. -/
structure Between (S : List Token) (f f' : Feed) (es : List Expr) : Prop extends Moved S f f' where
  covers : ∀ e ∈ es, f.Covers f' e.span
  seated : Seated S (Expr.nodesList es)

/-- An expression read behind a current token lies behind it. -/
lemma Placed.covers {f₁ : Feed} (h : Placed S f₁ f' f₁.current.start e) (hfirst : f.Before f₁) :
    f.Covers f' e.span := ⟨hfirst.start_le.trans h.start_eq.ge, h.stop_eq.le⟩

lemma Between.nil {f₁ : Feed} (h : Moved S f f₁) : Between S f f₁ [] where
  toMoved := h
  covers _ he := absurd he List.not_mem_nil
  seated _ hm := absurd hm List.not_mem_nil

lemma Between.cons {f₁ f₂ : Feed} {es : List Expr} (hfirst : Moved S f f₁)
    (h : Placed S f₁ f₂ f₁.current.start e) (hes : Between S f₂ f' es) :
    Between S f f' (e :: es) where
  toMoved := hfirst.trans (h.toMoved.trans hes.toMoved)
  covers := by
    refine List.forall_mem_cons.2 ⟨?_, fun e' he' => ?_⟩
    · exact (h.covers (.refl f₁)).mono hfirst.before hes.before
    · exact (hes.covers e' he').mono (hfirst.before.trans h.before) (.refl f')
  seated := h.seated.append hes.seated

lemma Between.mono {f₁ f₂ : Feed} {es : List Expr} (h : Between S f₁ f₂ es) (hfirst : Moved S f f₁)
    (hlast : Moved S f₂ f') : Between S f f' es where
  toMoved := hfirst.trans (h.toMoved.trans hlast)
  covers e he := (h.covers e he).mono hfirst.before hlast.before
  seated := h.seated

/-- Whether decorators were read between two current tokens, none of them in front of the given
place. -/
structure Linked (S : List Token) (f f' : Feed) (place : Place) (ds : List Decorator) : Prop
    extends Moved S f f' where
  start_le : ∀ d ∈ ds, place ≤ d.span.start
  stop_le : ∀ d ∈ ds, d.span.stop ≤ f'.current.stop
  seated : Seated S (Decorator.nodesList ds)

/-- How the places come out of each function of the reader, bounded by `n`. -/
structure Nests (S : List Token) (n : Nat) : Prop where
  expr : ∀ {level f e f'}, (expr n level).run f = .ok (e, f') → f.Within S →
    Placed S f f' f.current.start e
  operators : ∀ {level left f e f'}, (operators n level left).run f = .ok (e, f') → f.Within S →
    left.span.start ≤ f.current.start → left.span.stop = f.current.stop → Seated S left.nodes →
    Placed S f f' left.span.start e
  operand : ∀ {f e f'}, (operand n).run f = .ok (e, f') → f.Within S →
    Placed S f f' f.current.start e
  unary : ∀ {t op f e f'}, (unary n t op).run f = .ok (e, f') → f.Within S → t = f.current →
    Placed S f f' f.current.start e
  updateBefore : ∀ {t op f e f'}, (updateBefore n t op).run f = .ok (e, f') → f.Within S →
    t = f.current → Placed S f f' f.current.start e
  extend : ∀ {left f e f'}, (extend n left).run f = .ok (e, f') → f.Within S →
    left.span.start ≤ f.current.start → left.span.stop ≤ f.current.stop → Seated S left.nodes →
    Placed S f f' left.span.start e
  logical : ∀ {t op left f e f'}, (logical n t op left).run f = .ok (e, f') → f.Within S →
    left.span.start ≤ f.current.start → left.span.stop ≤ f.current.stop → Seated S left.nodes →
    Placed S f f' left.span.start e
  assignment : ∀ {t op target f e f'}, (assignment n t op target).run f = .ok (e, f') → f.Within S →
    target.span.start ≤ f.current.start → target.span.stop ≤ f.current.stop →
      Seated S target.nodes →
    Placed S f f' target.span.start e
  sequence : ∀ {f es f'}, (sequence n).run f = .ok (es, f') → f.Within S → Between S f f' es
  chain : ∀ {f ds f'}, (chain n).run f = .ok (ds, f') → f.Within S →
    ∃ d rest, ds = d :: rest ∧ f.current.start ≤ d.span.start ∧ Linked S f f' d.span.start ds
  list : ∀ {close what f es f'}, (list n close what).run f = .ok (es, f') → f.Within S →
    Between S f f' es
  items : ∀ {f es f'}, (items n).run f = .ok (es, f') → f.Within S → Between S f f' es
  properties : ∀ {f ps f'}, (properties n).run f = .ok (ps, f') → f.Within S →
    Between S f f' (ps.map (·.value)) ∧
      ∀ p ∈ ps, f.Covers f' p.key.span ∧ p.key.span.IsToken S

lemma nests_zero : Nests S 0 where
  expr h := absurd h (run_exhausted _)
  operators h := absurd h (run_exhausted _)
  operand h := absurd h (run_exhausted _)
  unary h := absurd h (run_exhausted _)
  updateBefore h := absurd h (run_exhausted _)
  extend h := absurd h (run_exhausted _)
  logical h := absurd h (run_exhausted _)
  assignment h := absurd h (run_exhausted _)
  sequence h := absurd h (run_exhausted _)
  chain h := absurd h (run_exhausted _)
  list h := absurd h (run_exhausted _)
  items h := absurd h (run_exhausted _)
  properties h := absurd h (run_exhausted _)

lemma nests_expr (ih : Nests S n) {level : Level} (h : (expr (n + 1) level).run f = .ok (e, f'))
    (hf : f.Within S) : Placed S f f' f.current.start e := by
  simp only [expr, run_bind_iff] at h
  obtain ⟨left, f₁, hleft, hops⟩ := h
  have hfirst := ih.operand hleft hf
  have hstart : left.span.start ≤ f₁.current.start :=
    hfirst.start_eq.le.trans hfirst.before.start_le
  have hwhole := ih.operators hops hfirst.within hstart hfirst.stop_eq hfirst.seated
  exact ⟨hfirst.toMoved.trans hwhole.toMoved, hwhole.start_eq.trans hfirst.start_eq, hwhole.stop_eq,
    hwhole.seated⟩

lemma nests_operators (hS : Token.Lined S) (ih : Nests S n) {level : Level} {left : Expr}
    (h : (operators (n + 1) level left).run f = .ok (e, f')) (hf : f.Within S)
    (hstart : left.span.start ≤ f.current.start) (hstop : left.span.stop = f.current.stop)
    (hseated : Seated S left.nodes) : Placed S f f' left.span.start e := by
  simp only [operators] at h
  rw [run_bind_eq run_peek] at h
  split at h
  · rw [run_bind_eq run_advance, run_bind_iff] at h
    obtain ⟨e₁, f₁, hext, hops⟩ := h
    -- one operator more, and the expression still starts where its first operand does
    have hnext := moved_next hS hf
    have hfirst := ih.extend hext hf.next (hstart.trans hnext.before.start_le)
      (hstop.le.trans hnext.before.stop_le) hseated
    have hmoved : Moved S f f₁ := hnext.trans hfirst.toMoved
    have hwhole := ih.operators hops hfirst.within
      (hfirst.start_eq.le.trans (hstart.trans hmoved.before.start_le)) hfirst.stop_eq hfirst.seated
    exact ⟨hmoved.trans hwhole.toMoved, hwhole.start_eq.trans hfirst.start_eq, hwhole.stop_eq,
      hwhole.seated⟩
  · obtain ⟨rfl, rfl⟩ := run_pure_iff.1 h
    exact ⟨.refl hf, rfl, hstop, hseated⟩

/-! ### Whole expressions -/

/-- An expression that is one token. -/
lemma placed_leaf (hS : Token.Lined S) (hf : f.Within S) (hopen : f.current.kind ≠ .eof)
    (hspan : e.span = f.spanFrom f.current.line f.current.column)
    (hchildren : (Node.expr e).children = [])
    (hlabels : (Node.expr e).labels = []) (hnodes : e.nodes = [.expr e]) :
    Placed S f f f.current.start e where
  toMoved := .refl hf
  start_eq := by rw [hspan]; rfl
  stop_eq := by rw [hspan]; rfl
  seated := by
    rw [hnodes]
    refine .single (Node.sits_leaf ?_ hchildren hlabels)
    rw [Node.span, hspan]
    exact hf.isToken hS hopen

/-- An expression that starts with the current token, of which the children and names come later. -/
lemma placed_from (hmoved : Moved S f f')
    (hspan : e.span = f'.spanFrom f.current.line f.current.column)
    {ns : List Node} (hnodes : e.nodes = ns ++ [Node.expr e]) (hns : Seated S ns)
    (hchildren : ∀ c ∈ (Node.expr e).children, f.Covers f' c.span)
    (hlabels : ∀ s ∈ (Node.expr e).labels, f.Covers f' s ∧ s.IsToken S)
    (hleaf : (Node.expr e).isLeaf = false) : Placed S f f' f.current.start e where
  toMoved := hmoved
  start_eq := by rw [hspan]; rfl
  stop_eq := by rw [hspan]; rfl
  seated := by
    have hinside : ∀ {s}, f.Covers f' s → s.Inside (Node.expr e).span := by
      intro s hs
      rw [Node.span, hspan]
      exact hs.inside (le_refl _) rfl
    rw [hnodes]
    refine hns.append (.single ⟨fun c hc => hinside (hchildren c hc), fun s hs =>
      ?_, by simp [hleaf]⟩)
    exact ⟨hinside (hlabels s hs).1, (hlabels s hs).2⟩

/-- An expression that starts with one that was read before, of which the other children and the
names come later. -/
lemma placed_after {left : Expr} (hmoved : Moved S f f')
    (hstart : left.span.start ≤ f.current.start)
    (hstop : left.span.stop ≤ f.current.stop) (hleft : Seated S left.nodes)
    (hspan : e.span = f'.spanFrom left.span.startLine left.span.startColumn)
    {ns : List Node} (hnodes : e.nodes = left.nodes ++ (ns ++ [Node.expr e])) (hns : Seated S ns)
    {cs : List Node}
    (hchildren : (Node.expr e).children = .expr left :: cs) (hcs : ∀ c ∈ cs, f.Covers f' c.span)
    (hlabels : ∀ s ∈ (Node.expr e).labels, f.Covers f' s ∧ s.IsToken S)
    (hleaf : (Node.expr e).isLeaf = false) : Placed S f f' left.span.start e where
  toMoved := hmoved
  start_eq := by rw [hspan]; rfl
  stop_eq := by rw [hspan]; rfl
  seated := by
    have hinside : ∀ {s}, f.Covers f' s → s.Inside (Node.expr e).span := by
      intro s hs
      rw [Node.span, hspan]
      exact hs.inside hstart rfl
    have hfirst : left.span.Inside (Node.expr e).span := by
      rw [Node.span, hspan]
      exact ⟨le_refl _, hstop.trans hmoved.before.stop_le⟩
    rw [hnodes]
    refine hleft.append (hns.append (.single ⟨?_, fun s hs => ?_, by simp [hleaf]⟩))
    · rw [hchildren]
      exact List.forall_mem_cons.2 ⟨hfirst, fun c hc => hinside (hcs c hc)⟩
    · exact ⟨hinside (hlabels s hs).1, (hlabels s hs).2⟩

section

variable {left : Expr} (hstart : left.span.start ≤ f.current.start)
  (hstop : left.span.stop ≤ f.current.stop)
  (hleft : Seated S left.nodes)

include hstart hstop hleft

/-- An expression of one that was read before and one that comes later. -/
lemma placed_right {right : Expr} (hmoved : Moved S f f') (hcovers : f.Covers f' right.span)
    (hright : Seated S right.nodes)
    (hspan : e.span = f'.spanFrom left.span.startLine left.span.startColumn)
    (hnodes : e.nodes = left.nodes ++ right.nodes ++ [Node.expr e])
    (hchildren : (Node.expr e).children = [.expr left, .expr right])
    (hlabels : (Node.expr e).labels = [])
    (hleaf : (Node.expr e).isLeaf = false) : Placed S f f' left.span.start e := by
  refine placed_after hmoved hstart hstop hleft hspan (hnodes.trans (List.append_assoc _ _ _))
    hright hchildren
    (List.forall_mem_singleton.2 hcovers) ?_ hleaf
  rw [hlabels]
  exact List.forall_mem_nil _

/-- An expression of one that was read before and any number that come later. -/
lemma placed_more {es : List Expr} (hes : Between S f f' es)
    (hspan : e.span = f'.spanFrom left.span.startLine left.span.startColumn)
    (hnodes : e.nodes = left.nodes ++ Expr.nodesList es ++ [.expr e])
    (hchildren : (Node.expr e).children = .expr left :: es.map .expr)
    (hlabels : (Node.expr e).labels = [])
    (hleaf : (Node.expr e).isLeaf = false) : Placed S f f' left.span.start e := by
  refine placed_after hes.toMoved hstart hstop hleft hspan (hnodes.trans (List.append_assoc _ _ _))
    hes.seated
    hchildren (List.forall_mem_map.2 hes.covers) ?_ hleaf
  rw [hlabels]
  exact List.forall_mem_nil _

/-- A condition with what stands behind the question mark and behind the colon. -/
lemma placed_cond {consequent alternate : Expr} (hes : Between S f f' [consequent, alternate]) :
    Placed S f f' left.span.start
      (.cond (f'.spanFrom left.span.startLine left.span.startColumn) left consequent
      alternate) := by
  have hcovers : ∀ c ∈ [consequent, alternate].map Node.expr, f.Covers f' c.span :=
    List.forall_mem_map.2 hes.covers
  refine placed_after hes.toMoved hstart hstop hleft rfl ?_ hes.seated rfl hcovers
    (List.forall_mem_nil _) rfl
  simp [Expr.nodes, Expr.nodesList]

/-- What is piped into a chain of decorators: the chain starts with its first name behind the bar,
the pipe with what it is applied to. -/
lemma placed_pipe {d : Decorator} {ds : List Decorator} (hfirst : f.current.start ≤ d.span.start)
    (hlinked : Linked S f f' d.span.start ds) :
    Placed S f f' left.span.start (.pipe (f'.spanFrom left.span.startLine left.span.startColumn)
    left
      (f'.spanFrom d.span.startLine d.span.startColumn) ds) := by
  have hcovers : f.Covers f' (f'.spanFrom d.span.startLine d.span.startColumn) :=
    ⟨hfirst, le_refl _⟩
  have hchain : (Node.chain (f'.spanFrom d.span.startLine d.span.startColumn) ds).Sits S := by
    refine Node.sits_children (List.forall_mem_map.2 fun d' hd' => ?_) rfl rfl
    exact ⟨hlinked.start_le d' hd', hlinked.stop_le d' hd'⟩
  refine placed_after hlinked.toMoved hstart hstop hleft rfl ?_
    (hlinked.seated.append (.single hchain)) rfl
    (List.forall_mem_singleton.2 hcovers) (List.forall_mem_nil _) rfl
  simp [Expr.nodes]

/-- A member, whose name is the token behind the dot. -/
lemma placed_member (hS : Token.Lined S) (hf : f.Within S)
    (hword : f.next.current.kind.isWord = true) :
    Placed S f f.next left.span.start
    (.member (f.next.spanFrom left.span.startLine left.span.startColumn) left
      (f.next.spanFrom f.next.current.line f.next.current.column) f.next.current.literal) := by
  have hopen : f.next.current.kind ≠ .eof := by
    intro heof
    rw [heof] at hword
    cases hword
  have hnext := moved_next hS hf
  refine placed_after hnext hstart hstop hleft rfl rfl seated_nil rfl (List.forall_mem_nil _) ?_ rfl
  exact List.forall_mem_singleton.2 ⟨⟨hnext.before.start_le, le_refl _⟩, hf.next.isToken hS hopen⟩

end

/-- An expression behind the current token. -/
lemma nests_behind (hS : Token.Lined S) (ih : Nests S n) {level : Level}
    (h : (expr n level).run f.next = .ok (e, f')) (hf : f.Within S) :
    Moved S f f' ∧ f.Covers f' e.span ∧ Seated S e.nodes := by
  have hnext := moved_next hS hf
  have hplaced := ih.expr h hf.next
  exact ⟨hnext.trans hplaced.toMoved, hplaced.covers hnext.before, hplaced.seated⟩

/-- The nodes of properties are those of their values. -/
lemma nodesList_values (ps : List Property) :
    Property.nodesList ps = Expr.nodesList (ps.map (·.value)) := by
  induction ps with
  | nil => rfl
  | cons p ps ih =>
    obtain ⟨k, v⟩ := p
    rw [List.map_cons, Property.nodesList, Expr.nodesList, ih]
    rfl

/-! ### The functions of the reader -/

lemma nests_operand (hS : Token.Lined S) (ih : Nests S n)
    (h : (operand (n + 1)).run f = .ok (e, f'))
    (hf : f.Within S) : Placed S f f' f.current.start e := by
  simp only [operand] at h
  rw [run_bind_eq run_current] at h
  split at h
  case h_2 hk =>
    rw [run_bind_eq (run_spanOf _), run_bind_iff] at h
    obtain ⟨raw, f₁, hnumber, hpure⟩ := h
    obtain ⟨-, rfl, rfl⟩ := run_number_iff.1 hnumber
    obtain ⟨rfl, rfl⟩ := run_pure_iff.1 hpure
    exact placed_leaf hS hf (by simp [hk]) rfl rfl rfl rfl
  case h_1 hk | h_3 hk | h_4 hk | h_5 hk | h_6 hk | h_7 hk =>
    rw [run_bind_eq (run_spanOf _)] at h
    obtain ⟨rfl, rfl⟩ := run_pure_iff.1 h
    exact placed_leaf hS hf (by simp [hk]) rfl rfl rfl rfl
  case h_8 | h_9 | h_10 | h_11 => exact ih.unary h hf rfl
  case h_12 | h_13 => exact ih.updateBefore h hf rfl
  case h_14 =>
    rw [run_bind_eq run_advance, run_bind_iff] at h
    obtain ⟨inner, f₁, hinner, h⟩ := h
    obtain ⟨hmoved, hcovers, hseated⟩ := nests_behind hS ih hinner hf
    obtain ⟨-, h⟩ := run_bind_expect_iff.1 h
    rw [run_bind_eq (run_spanOf _)] at h
    obtain ⟨rfl, rfl⟩ := run_pure_iff.1 h
    have hclose := moved_next hS hmoved.within
    have hcovers' := hcovers.mono (.refl f) hclose.before
    exact placed_from (hmoved.trans hclose) rfl rfl hseated (List.forall_mem_singleton.2 hcovers')
      (List.forall_mem_nil _) rfl
  case h_15 =>
    rw [run_bind_iff] at h
    obtain ⟨elements, f₁, hlist, h⟩ := h
    have hbetween := ih.list hlist hf
    rw [run_bind_eq (run_spanOf _)] at h
    obtain ⟨rfl, rfl⟩ := run_pure_iff.1 h
    exact placed_from hbetween.toMoved rfl rfl hbetween.seated
      (List.forall_mem_map.2 hbetween.covers) (List.forall_mem_nil _) rfl
  case h_16 =>
    rw [run_bind_iff] at h
    obtain ⟨ps, f₁, hps, h⟩ := h
    obtain ⟨hvalues, hkeys⟩ := ih.properties hps hf
    rw [run_bind_eq (run_spanOf _)] at h
    obtain ⟨rfl, rfl⟩ := run_pure_iff.1 h
    have hseated := hvalues.seated
    rw [← nodesList_values] at hseated
    refine placed_from hvalues.toMoved rfl rfl hseated (List.forall_mem_map.2 fun p hp => ?_)
      (List.forall_mem_map.2 hkeys) rfl
    exact hvalues.covers _ (List.mem_map_of_mem hp)
  case h_17 => exact absurd h (run_noOperand _ _)

lemma nests_unary (hS : Token.Lined S) (ih : Nests S n) {t : Token} {op : Expr.UnaryOp}
    (h : (unary (n + 1) t op).run f = .ok (e, f')) (hf : f.Within S) (ht : t = f.current) :
    Placed S f f' f.current.start e := by
  subst ht
  simp only [unary] at h
  rw [run_bind_eq run_advance, run_bind_iff] at h
  obtain ⟨argument, f₁, hargument, h⟩ := h
  obtain ⟨hmoved, hcovers, hseated⟩ := nests_behind hS ih hargument hf
  rw [run_bind_eq (run_spanOf _)] at h
  obtain ⟨rfl, rfl⟩ := run_pure_iff.1 h
  exact placed_from hmoved rfl rfl hseated (List.forall_mem_singleton.2 hcovers)
    (List.forall_mem_nil _) rfl

lemma nests_updateBefore (hS : Token.Lined S) (ih : Nests S n) {t : Token} {op : Expr.UpdateOp}
    (h : (updateBefore (n + 1) t op).run f = .ok (e, f')) (hf : f.Within S) (ht : t = f.current) :
    Placed S f f' f.current.start e := by
  subst ht
  simp only [updateBefore] at h
  rw [run_bind_eq run_advance, run_bind_iff] at h
  obtain ⟨target, f₁, htarget, h⟩ := h
  obtain ⟨hmoved, hcovers, hseated⟩ := nests_behind hS ih htarget hf
  rw [run_bind_iff] at h
  obtain ⟨_, f₂, hcheck, h⟩ := h
  obtain ⟨-, rfl⟩ := run_assignable_iff.1 hcheck
  rw [run_bind_eq (run_spanOf _)] at h
  obtain ⟨rfl, rfl⟩ := run_pure_iff.1 h
  exact placed_from hmoved rfl rfl hseated (List.forall_mem_singleton.2 hcovers)
    (List.forall_mem_nil _) rfl

section

variable {left : Expr} (hf : f.Within S) (hstart : left.span.start ≤ f.current.start)
  (hstop : left.span.stop ≤ f.current.stop) (hleft : Seated S left.nodes)

include hf hstart hstop hleft

lemma nests_logical (hS : Token.Lined S) (ih : Nests S n) {t : Token} {op : Expr.LogicalOp}
    (h : (logical (n + 1) t op left).run f = .ok (e, f')) : Placed S f f' left.span.start e := by
  simp only [logical] at h
  rw [run_bind_eq run_advance, run_bind_iff] at h
  obtain ⟨right, f₁, hright, h⟩ := h
  obtain ⟨hmoved, hcovers, hseated⟩ := nests_behind hS ih hright hf
  rw [run_bind_eq (run_spanAfter _)] at h
  obtain ⟨rfl, rfl⟩ := run_pure_iff.1 h
  exact placed_right hstart hstop hleft hmoved hcovers hseated rfl rfl rfl rfl rfl

lemma nests_assignment (hS : Token.Lined S) (ih : Nests S n) {t : Token} {op : Expr.AssignOp}
    (h : (assignment (n + 1) t op left).run f = .ok (e, f')) : Placed S f f' left.span.start e := by
  simp only [assignment] at h
  rw [run_bind_iff] at h
  obtain ⟨_, f₁, hcheck, h⟩ := h
  obtain ⟨-, rfl⟩ := run_assignable_iff.1 hcheck
  rw [run_bind_eq run_advance, run_bind_iff] at h
  obtain ⟨value, f₂, hvalue, h⟩ := h
  obtain ⟨hmoved, hcovers, hseated⟩ := nests_behind hS ih hvalue hf
  rw [run_bind_eq (run_spanAfter _)] at h
  obtain ⟨rfl, rfl⟩ := run_pure_iff.1 h
  exact placed_right hstart hstop hleft hmoved hcovers hseated rfl rfl rfl rfl rfl

lemma nests_extend (hS : Token.Lined S) (ih : Nests S n)
    (h : (extend (n + 1) left).run f = .ok (e, f')) : Placed S f f' left.span.start e := by
  simp only [extend] at h
  rw [run_bind_eq run_current] at h
  split at h
  case h_1 | h_2 => exact ih.logical h hf hstart hstop hleft
  case h_3 =>
    rw [run_bind_eq run_advance, run_bind_iff] at h
    obtain ⟨consequent, f₁, hconsequent, h⟩ := h
    have hplaced₁ := ih.expr hconsequent hf.next
    obtain ⟨-, h⟩ := run_bind_expect_iff.1 h
    have hcolon := moved_next hS hplaced₁.within
    rw [run_bind_eq run_advance, run_bind_iff] at h
    obtain ⟨alternate, f₃, halternate, h⟩ := h
    have hplaced₂ := ih.expr halternate hcolon.within.next
    rw [run_bind_eq (run_spanAfter _)] at h
    obtain ⟨rfl, rfl⟩ := run_pure_iff.1 h
    exact placed_cond hstart hstop hleft
      (.cons (moved_next hS hf) hplaced₁
        (.cons (hcolon.trans (moved_next hS hcolon.within)) hplaced₂
        (.nil (.refl hplaced₂.within))))
  case h_4 =>
    rw [run_bind_iff] at h
    obtain ⟨ds, f₁, hchain, h⟩ := h
    obtain ⟨d, rest, hds, hfirst, hlinked⟩ := ih.chain hchain hf
    rw [hds] at h
    dsimp only at h
    rw [run_bind_eq (run_spanFrom _ _), run_bind_eq (run_spanAfter _)] at h
    obtain ⟨rfl, rfl⟩ := run_pure_iff.1 h
    rw [← hds]
    exact placed_pipe hstart hstop hleft hfirst hlinked
  case h_5 =>
    rw [run_bind_iff] at h
    obtain ⟨es, f₁, hes, h⟩ := h
    have hbetween := ih.sequence hes hf
    rw [run_bind_eq (run_spanAfter _)] at h
    obtain ⟨rfl, rfl⟩ := run_pure_iff.1 h
    exact placed_more hstart hstop hleft hbetween rfl rfl rfl rfl rfl
  case h_6 | h_7 | h_8 => exact ih.assignment h hf hstart hstop hleft
  case h_9 | h_10 =>
    rw [run_bind_iff] at h
    obtain ⟨_, f₁, hcheck, h⟩ := h
    obtain ⟨-, rfl⟩ := run_assignable_iff.1 hcheck
    rw [run_bind_eq (run_spanAfter _)] at h
    obtain ⟨rfl, rfl⟩ := run_pure_iff.1 h
    exact placed_after (.refl hf) hstart hstop hleft rfl rfl seated_nil rfl (List.forall_mem_nil _)
      (List.forall_mem_nil _) rfl
  case h_11 =>
    rw [run_bind_iff] at h
    obtain ⟨arguments, f₁, hlist, h⟩ := h
    have hbetween := ih.list hlist hf
    rw [run_bind_eq (run_spanAfter _)] at h
    obtain ⟨rfl, rfl⟩ := run_pure_iff.1 h
    exact placed_more hstart hstop hleft hbetween rfl rfl rfl rfl rfl
  case h_12 =>
    rw [run_bind_eq run_advance, run_bind_iff] at h
    obtain ⟨index, f₁, hindex, h⟩ := h
    obtain ⟨hmoved, hcovers, hseated⟩ := nests_behind hS ih hindex hf
    obtain ⟨-, h⟩ := run_bind_expect_iff.1 h
    rw [run_bind_eq (run_spanAfter _)] at h
    obtain ⟨rfl, rfl⟩ := run_pure_iff.1 h
    have hclose := moved_next hS hmoved.within
    exact placed_right hstart hstop hleft (hmoved.trans hclose)
      (hcovers.mono (.refl f) hclose.before) hseated
      rfl rfl rfl rfl rfl
  case h_13 =>
    rw [run_bind_eq run_advance, run_bind_eq run_current] at h
    split at h
    · next hword =>
      rw [run_bind_eq (run_spanOf _), run_bind_eq (run_spanAfter _)] at h
      obtain ⟨rfl, rfl⟩ := run_pure_iff.1 h
      exact placed_member hstart hstop hleft hS hf hword
    · exact absurd h (run_expected _ _ _ _)
  case h_14 =>
    split at h
    · rw [run_bind_eq run_advance, run_bind_iff] at h
      obtain ⟨right, f₁, hright, h⟩ := h
      obtain ⟨hmoved, hcovers, hseated⟩ := nests_behind hS ih hright hf
      rw [run_bind_eq (run_spanAfter _)] at h
      obtain ⟨rfl, rfl⟩ := run_pure_iff.1 h
      exact placed_right hstart hstop hleft hmoved hcovers hseated rfl rfl rfl rfl rfl
    · exact absurd h (run_noOperand _ _)

end

/-- An expression, and more after a comma. -/
lemma nests_further (hS : Token.Lined S) (ih : Nests S n) {more : Reading (List Expr)}
    {es : List Expr} (h : (do
      advance
      let e ← expr n .sequence
      if (← peek).kind = .comma then
        advance
        return e :: (← more)
      else return [e] : Reading (List Expr)).run f = .ok (es, f')) (hf : f.Within S)
    (hmore : ∀ {f es f'}, more.run f = .ok (es, f') → f.Within S → Between S f f' es) :
    Between S f f' es := by
  rw [run_bind_eq run_advance, run_bind_iff] at h
  obtain ⟨e, f₁, he, h⟩ := h
  have hnext := moved_next hS hf
  have hplaced := ih.expr he hf.next
  rw [run_bind_eq run_peek] at h
  split at h
  · rw [run_bind_eq run_advance, run_bind_iff] at h
    obtain ⟨es', f₂, hes, h⟩ := h
    have hcomma := moved_next hS hplaced.within
    have hbetween := hmore hes hcomma.within
    obtain ⟨rfl, rfl⟩ := run_pure_iff.1 h
    exact .cons hnext hplaced (hbetween.mono hcomma (.refl hbetween.within))
  · obtain ⟨rfl, rfl⟩ := run_pure_iff.1 h
    exact .cons hnext hplaced (.nil (.refl hplaced.within))

lemma nests_sequence (hS : Token.Lined S) (ih : Nests S n) {es : List Expr}
    (h : (sequence (n + 1)).run f = .ok (es, f')) (hf : f.Within S) : Between S f f' es := by
  simp only [sequence] at h
  exact nests_further hS ih h hf ih.sequence

lemma nests_items (hS : Token.Lined S) (ih : Nests S n) {es : List Expr}
    (h : (items (n + 1)).run f = .ok (es, f')) (hf : f.Within S) : Between S f f' es := by
  simp only [items] at h
  exact nests_further hS ih h hf ih.items

lemma nests_list (hS : Token.Lined S) (ih : Nests S n) {close : Token.Kind} {what : String}
    {es : List Expr} (h : (list (n + 1) close what).run f = .ok (es, f')) (hf : f.Within S) :
    Between S f f' es := by
  simp only [list] at h
  rw [run_bind_eq run_peek] at h
  split at h
  · rw [run_bind_eq run_advance] at h
    obtain ⟨rfl, rfl⟩ := run_pure_iff.1 h
    exact .nil (moved_next hS hf)
  · rw [run_bind_iff] at h
    obtain ⟨es', f₁, hes, h⟩ := h
    have hbetween := ih.items hes hf
    obtain ⟨-, h⟩ := run_bind_expect_iff.1 h
    obtain ⟨rfl, rfl⟩ := run_pure_iff.1 h
    exact hbetween.mono (.refl hf) (moved_next hS hbetween.within)

lemma nests_links (hS : Token.Lined S) (ih : Nests S n) {d : Decorator} {ds : List Decorator}
    (h : (links n d).run f = .ok (ds, f')) (hf : f.Within S)
    (hstart : d.span.start ≤ f.current.start)
    (hstop : d.span.stop = f.current.stop) (hd : Seated S d.nodes) :
    ∃ rest, ds = d :: rest ∧ Linked S f f' d.span.start ds := by
  simp only [links] at h
  rw [run_bind_eq run_peek] at h
  split at h
  · rw [run_bind_eq run_advance, run_bind_iff] at h
    obtain ⟨ds', f₁, hds, h⟩ := h
    have hnext := moved_next hS hf
    obtain ⟨d', rest, -, hfirst, hlinked⟩ := ih.chain hds hf.next
    obtain ⟨rfl, rfl⟩ := run_pure_iff.1 h
    -- what stands behind the bar stands behind this decorator too
    have hmoved := hnext.trans hlinked.toMoved
    have hbehind : d.span.start ≤ d'.span.start := hstart.trans (hnext.before.start_le.trans hfirst)
    refine ⟨ds', rfl, hmoved, List.forall_mem_cons.2 ⟨le_refl _, fun d'' hd'' => ?_⟩,
      List.forall_mem_cons.2 ⟨hstop.le.trans hmoved.before.stop_le, hlinked.stop_le⟩,
      hd.append hlinked.seated⟩
    exact hbehind.trans (hlinked.start_le d'' hd'')
  · obtain ⟨rfl, rfl⟩ := run_pure_iff.1 h
    refine ⟨[], rfl, .refl hf, List.forall_mem_singleton.2 (le_refl _),
      List.forall_mem_singleton.2 hstop.le, ?_⟩
    exact hd.append seated_nil

/-- A decorator that starts with the current token, which is its name. -/
lemma seated_decorator (hS : Token.Lined S) (hf : f.Within S) (hname : f.current.kind = .ident)
    {arguments : List Expr} (hbetween : Between S f f' arguments) (parens : Bool) :
    Seated S (Decorator.nodes (.mk (f'.spanFrom f.current.line f.current.column) f.current.literal
      arguments parens)) := by
  refine hbetween.seated.append (.single ⟨List.forall_mem_map.2 fun e he => ?_,
    List.forall_mem_singleton.2 ?_, fun hleaf => absurd hleaf Bool.false_ne_true⟩)
  · exact (hbetween.covers e he).inside (le_refl _) rfl
  · have hliteral : f.current.literal = f.current.raw :=
      hf.toReal.current.literal_eq (by rw [Token.face, hname]; rfl) (by simp [Token.face, hname])
    have hspan : Decorator.nameSpan
      (.mk (f'.spanFrom f.current.line f.current.column) f.current.literal
        arguments parens) = f.spanFrom f.current.line f.current.column := by
      rw [Decorator.nameSpan, Decorator.name, hliteral]
      rfl
    rw [hspan]
    exact ⟨⟨le_refl _, hbetween.before.stop_le⟩, hf.isToken hS (by simp [hname])⟩

lemma nests_chain (hS : Token.Lined S) (ih : Nests S n) {ds : List Decorator}
    (h : (chain (n + 1)).run f = .ok (ds, f')) (hf : f.Within S) :
    ∃ d rest, ds = d :: rest ∧ f.current.start ≤ d.span.start ∧ Linked S f f' d.span.start ds := by
  simp only [chain] at h
  obtain ⟨hname, h⟩ := run_bind_expect_iff.1 h
  rw [← Feed.next_current] at hname
  have hnext := moved_next hS hf
  -- the arguments, if there are any, and then the rest of the chain
  have hrest : ∀ {f₂ arguments parens}, Between S f.next f₂ arguments →
      (links n (.mk (f₂.spanFrom f.next.current.line f.next.current.column) f.next.current.literal
        arguments parens)).run f₂ = .ok (ds, f') →
      ∃ d rest, ds = d :: rest ∧ f.current.start ≤ d.span.start ∧
          Linked S f f' d.span.start ds := by
    intro f₂ arguments parens hbetween hlinks
    obtain ⟨rest, hds, hlinked⟩ :=
      nests_links hS ih hlinks hbetween.within hbetween.before.start_le rfl
      (seated_decorator hS hf.next hname hbetween parens)
    exact ⟨_, rest, hds, hnext.before.start_le,
      hnext.trans (hbetween.toMoved.trans hlinked.toMoved), hlinked.start_le, hlinked.stop_le,
        hlinked.seated⟩
  rw [run_bind_eq run_current, run_bind_eq run_peek] at h
  split at h
  · rw [run_bind_eq run_advance, run_bind_iff] at h
    obtain ⟨arguments, f₂, hlist, h⟩ := h
    have hparen := moved_next hS hf.next
    have hbetween := ih.list hlist hparen.within
    rw [run_bind_eq (run_spanOf _)] at h
    exact hrest (hbetween.mono hparen (.refl hbetween.within)) h
  · rw [run_bind_eq (run_pure _), run_bind_eq (run_spanOf _)] at h
    exact hrest (.nil (.refl hf.next)) h

/-- The name of a property is the current token. -/
lemma nests_key {k : Expr.Key} (h : key.run f = .ok (k, f')) :
    f' = f ∧ k.span = f.spanFrom f.current.line f.current.column ∧ f.current.kind ≠ .eof := by
  simp only [key] at h
  rw [run_bind_eq run_current] at h
  split at h
  · next hword =>
    rw [run_bind_eq (run_spanOf _)] at h
    obtain ⟨rfl, rfl⟩ := run_pure_iff.1 h
    refine ⟨rfl, rfl, fun heof => ?_⟩
    rw [heof] at hword
    cases hword
  · split at h
    · next hk =>
      rw [run_bind_eq (run_spanOf _)] at h
      obtain ⟨rfl, rfl⟩ := run_pure_iff.1 h
      exact ⟨rfl, rfl, by simp [hk]⟩
    · next hk =>
      rw [run_bind_eq (run_spanOf _), run_bind_iff] at h
      obtain ⟨raw, f₁, hnumber, h⟩ := h
      obtain ⟨-, rfl, rfl⟩ := run_number_iff.1 hnumber
      obtain ⟨rfl, rfl⟩ := run_pure_iff.1 h
      exact ⟨rfl, rfl, by simp [hk]⟩
    · exact absurd h (run_expected _ _ _ _)

lemma nests_properties (hS : Token.Lined S) (ih : Nests S n) {ps : List Property}
    (h : (properties (n + 1)).run f = .ok (ps, f')) (hf : f.Within S) :
    Between S f f' (ps.map (·.value)) ∧ ∀ p ∈ ps, f.Covers f' p.key.span ∧
    p.key.span.IsToken S := by
  simp only [properties] at h
  have hnext := moved_next hS hf
  rw [run_bind_eq run_peek] at h
  split at h
  · rw [run_bind_eq run_advance] at h
    obtain ⟨rfl, rfl⟩ := run_pure_iff.1 h
    exact ⟨.nil hnext, List.forall_mem_nil _⟩
  · rw [run_bind_eq run_advance, run_bind_iff] at h
    obtain ⟨k, f₁, hkey, h⟩ := h
    obtain ⟨rfl, hspan, hopen⟩ := nests_key hkey
    have htoken : k.span.IsToken S := hspan ▸ hf.next.isToken hS hopen
    obtain ⟨-, h⟩ := run_bind_expect_iff.1 h
    have hcolon := moved_next hS hf.next
    rw [run_bind_eq run_advance, run_bind_iff] at h
    obtain ⟨value, f₃, hvalue, h⟩ := h
    have hbehind := moved_next hS hcolon.within
    have hplaced := ih.expr hvalue hbehind.within
    have hfirst : Moved S f f.next.next.next := hnext.trans (hcolon.trans hbehind)
    -- the properties behind this one
    have hrest : ∀ {f₄ ps'}, Between S f₃ f₄ (ps'.map (·.value)) →
        (∀ p ∈ ps', f₃.Covers f₄ p.key.span ∧ p.key.span.IsToken S) →
        Between S f f₄ ((Property.mk k value :: ps').map (·.value)) ∧
          ∀ p ∈ Property.mk k value :: ps', f.Covers f₄ p.key.span ∧ p.key.span.IsToken S := by
      intro f₄ ps' hbetween hkeys
      have hlater := hplaced.toMoved.trans hbetween.toMoved
      refine ⟨.cons hfirst hplaced hbetween, List.forall_mem_cons.2 ⟨⟨?_, htoken⟩, fun p hp => ?_⟩⟩
      · have hcovers : f.next.Covers f.next k.span := hspan ▸ ⟨le_refl _, le_refl _⟩
        exact hcovers.mono hnext.before ((hcolon.trans hbehind).trans hlater).before
      · exact ⟨(hkeys p hp).1.mono (hfirst.trans hplaced.toMoved).before (.refl f₄), (hkeys p hp).2⟩
    rw [run_bind_eq run_peek] at h
    split at h
    · rw [run_bind_eq run_advance, run_bind_iff] at h
      obtain ⟨ps', f₄, hps, h⟩ := h
      have hcomma := moved_next hS hplaced.within
      obtain ⟨hbetween, hkeys⟩ := ih.properties hps hcomma.within
      obtain ⟨rfl, rfl⟩ := run_pure_iff.1 h
      exact hrest (hbetween.mono hcomma (.refl hbetween.within))
        fun p hp => ⟨(hkeys p hp).1.mono hcomma.before (.refl _), (hkeys p hp).2⟩
    · split at h
      · rw [run_bind_iff] at h
        obtain ⟨ps', f₄, hps, h⟩ := h
        obtain ⟨hbetween, hkeys⟩ := ih.properties hps hplaced.within
        obtain ⟨rfl, rfl⟩ := run_pure_iff.1 h
        exact hrest hbetween hkeys
      · exact absurd h (run_expected _ _ _ _)

theorem nests (hS : Token.Lined S) : ∀ n, Nests S n
  | 0 => nests_zero
  | n + 1 =>
    have ih := nests hS n
    { expr := nests_expr ih
      operators := nests_operators hS ih
      operand := nests_operand hS ih
      unary := nests_unary hS ih
      updateBefore := nests_updateBefore hS ih
      extend := fun h hf hstart hstop hleft => nests_extend hf hstart hstop hleft hS ih h
      logical := fun h hf hstart hstop hleft => nests_logical hf hstart hstop hleft hS ih h
      assignment := fun h hf hstart hstop hleft => nests_assignment hf hstart hstop hleft hS ih h
      sequence := nests_sequence hS ih
      chain := nests_chain hS ih
      list := nests_list hS ih
      items := nests_items hS ih
      properties := nests_properties hS ih }

/-! ### Programs -/

lemma nests_statement (hS : Token.Lined S) {st : Stmt} (h : (statement n).run f = .ok (st, f'))
    (hf : f.Within S) (hopen : f.current.kind ≠ .eof) :
    Moved S f f' ∧ f.Covers f' st.span ∧ Seated S st.nodes := by
  simp only [statement] at h
  rw [run_bind_eq run_current] at h
  split at h
  · rw [run_bind_eq (run_spanOf _)] at h
    obtain ⟨rfl, rfl⟩ := run_pure_iff.1 h
    exact ⟨.refl hf, ⟨le_refl _, le_refl _⟩, .single (Node.sits_leaf (hf.isToken hS hopen) rfl rfl)⟩
  · rw [run_bind_iff] at h
    obtain ⟨e, f₁, he, h⟩ := h
    have hplaced := (nests hS n).expr he hf
    -- a statement has the place of its expression; the semicolon is not part of it
    let whole : Span := f₁.spanFrom f.current.line f.current.column
    have hcovers : f.Covers f₁ whole := ⟨le_refl _, le_refl _⟩
    have hinside : e.span.Inside whole := (hplaced.covers (.refl f)).inside (le_refl _) rfl
    have hseated : Seated S (Stmt.expr whole e).nodes :=
      hplaced.seated.append
        (.single (Node.sits_children (List.forall_mem_singleton.2 hinside) rfl rfl))
    rw [run_bind_eq (run_spanOf _), run_bind_eq run_peek] at h
    split at h
    · rw [run_bind_eq run_advance] at h
      obtain ⟨rfl, rfl⟩ := run_pure_iff.1 h
      have hnext := moved_next hS hplaced.within
      exact ⟨hplaced.toMoved.trans hnext, hcovers.mono (.refl f) hnext.before, hseated⟩
    · split at h
      · exact absurd h (run_noOperand _ _)
      · split at h
        · obtain ⟨rfl, rfl⟩ := run_pure_iff.1 h
          exact ⟨hplaced.toMoved, hcovers, hseated⟩
        · exact absurd h (run_failAt _ _ _ _)

lemma nests_statements (hS : Token.Lined S) {m : Nat} {ss : List Stmt}
    (h : (statements n m).run f = .ok (ss, f')) (hf : f.Within S) :
    Moved S f f' ∧ (∀ st ∈ ss, f.Covers f' st.span) ∧ Seated S (ss.flatMap Stmt.nodes) := by
  induction m generalizing f ss with
  | zero => exact absurd h (run_exhausted _)
  | succ m ih =>
    simp only [statements] at h
    rw [run_bind_eq run_current] at h
    split at h
    · obtain ⟨rfl, rfl⟩ := run_pure_iff.1 h
      exact ⟨.refl hf, List.forall_mem_nil _, seated_nil⟩
    · next hopen =>
      rw [run_bind_iff] at h
      obtain ⟨st, f₁, hst, h⟩ := h
      obtain ⟨hmoved, hcovers, hseated⟩ := nests_statement hS hst hf hopen
      have hnext := moved_next hS hmoved.within
      rw [run_bind_eq run_advance, run_bind_iff] at h
      obtain ⟨ss', f₂, hss, h⟩ := h
      obtain ⟨rfl, rfl⟩ := run_pure_iff.1 h
      obtain ⟨hmoved', hcovers', hseated'⟩ := ih hss hnext.within
      have hlater := hnext.trans hmoved'
      refine ⟨hmoved.trans hlater, List.forall_mem_cons.2 ⟨hcovers.mono (.refl f) hlater.before,
        fun st' hst' => ?_⟩, hseated.append hseated'⟩
      exact (hcovers' st' hst').mono (hmoved.trans hnext).before (.refl _)

end Reading

/-- The tokens of a text on one line each, without characters of more than one byte. -/
lemma Token.lined_all {s : String} (h : ∀ t ∈ Token.all s, t.IsPlain) : Lined (Token.all s) :=
  ⟨h, all_ordered h⟩

/-- **Nesting.** In a program that is read from a text whose tokens each lie on one line and have as
many bytes as characters, the place of every node contains the places of its children and of the
names in it, in the order of lines and columns; and a node or name that is one token has the place
of that token, as many columns as the token has characters. -/
theorem Program.parse_nested (s : String) (p : Program) (h : Program.parse s = .ok p)
    (hlines : ∀ t ∈ Token.all s, '\n' ∉ t.raw.toList)
    (hbytes : ∀ t ∈ Token.all s, t.raw.utf8ByteSize = t.raw.length) :
    ∀ n ∈ p.nodes, n.Sits (Token.all s) := by
  have hS : Token.Lined (Token.all s) := Token.lined_all fun t ht => ⟨hlines t ht, hbytes t ht⟩
  change (Reading.statements _ _).run (.start (Token.all s)) >>= _ = _ at h
  obtain ⟨⟨body, after⟩, hrun, h⟩ := bind_eq_ok.1 h
  cases h
  obtain ⟨hmoved, hcovers, hseated⟩ := Reading.nests_statements hS hrun (Feed.within_start s)
  refine hseated.append (.single (Node.sits_children (List.forall_mem_map.2 fun st hst =>
    ?_) rfl rfl))
  exact (hcovers st hst).inside (le_refl _) rfl

/-- Two statements, with names in an object, behind a dot and in a pipe, and a line break inside the
call. -/
theorem Program.parse_nested_call : ∃ p,
    Program.parse "a.b(['c'],\n \x7bd: 1\x7d)|up(2)|low; -e" = .ok p ∧
      (∀ t ∈ Token.all "a.b(['c'],\n \x7bd: 1\x7d)|up(2)|low; -e", '\n' ∉ t.raw.toList) ∧
      (∀ t ∈ Token.all "a.b(['c'],\n \x7bd: 1\x7d)|up(2)|low; -e", t.raw.utf8ByteSize = t.raw.length) ∧
      ∀ n ∈ p.nodes, n.Sits (Token.all "a.b(['c'],\n \x7bd: 1\x7d)|up(2)|low; -e") := by
  have hread : (Program.parse "a.b(['c'],\n \x7bd: 1\x7d)|up(2)|low; -e").toOption.map (fun _ =>
      ()) = some () := by
    decide +kernel
  obtain ⟨p, hp, -⟩ := eq_ok_of_toOption hread
  have hlines : ∀ t ∈ Token.all "a.b(['c'],\n \x7bd: 1\x7d)|up(2)|low; -e",
      '\n' ∉ t.raw.toList := by
    decide +kernel
  have hbytes : ∀ t ∈ Token.all "a.b(['c'],\n \x7bd: 1\x7d)|up(2)|low; -e",
      t.raw.utf8ByteSize = t.raw.length := by
    decide +kernel
  exact ⟨p, hp, hlines, hbytes, parse_nested _ p hp hlines hbytes⟩

/-- Two letters of two bytes each: the string ends in column 7, behind the end of the array in
column 6, and it spans six columns with four characters. -/
theorem Program.parse_nested_letters : ∃ p, Program.parse "['éé']" = .ok p ∧
    (∀ t ∈ Token.all "['éé']", '\n' ∉ t.raw.toList) ∧ "'éé'".length = 4 ∧
    ∃ n ∈ p.nodes, ∃ c ∈ n.children, n.span = ⟨1, 1, 1, 6⟩ ∧ c.isLeaf = true ∧ c.text = "'éé'" ∧
      c.span = ⟨1, 2, 1, 7⟩ ∧ ¬ c.span.Inside n.span := by
  have hread : (Program.parse "['éé']").toOption.map (fun p => p.nodes.any fun n =>
      n.children.any fun c =>
      decide (n.span = ⟨1, 1, 1, 6⟩ ∧ c.isLeaf = true ∧ c.text = "'éé'" ∧ c.span = ⟨1, 2, 1, 7⟩)) =
          some true := by
    decide +kernel
  obtain ⟨p, hp, hany⟩ := eq_ok_of_toOption hread
  obtain ⟨n, hn, hany⟩ := List.any_eq_true.1 hany
  obtain ⟨c, hc, hfacts⟩ := List.any_eq_true.1 hany
  obtain ⟨hspan, hleaf, htext, hchild⟩ := of_decide_eq_true hfacts
  refine ⟨p, hp, by decide +kernel, by decide, n, hn, c, hc, hspan, hleaf, htext, hchild,
    fun hinside => ?_⟩
  have hstop := hinside.stop_le
  rw [hspan, hchild] at hstop
  rcases Prod.Lex.toLex_le_toLex.1 hstop with hline | ⟨-, hcolumn⟩
  · exact absurd hline (by decide)
  · exact absurd hcolumn (by decide)

end Trellis
