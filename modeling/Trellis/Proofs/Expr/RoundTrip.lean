/-
Reading undoes the canonical text.

A program that was read fits the grammar (`Program.parse_fits`), its text gives the tokens of its
expressions (`Expr.scan_lines`), and these are read as the same expressions
(`Program.parse_of_faces`).  Together: the text of a program is read as that program, provided no
unary sign stands in front of the same sign.

Where one does, the text says less than the tree: `- -a` and `--a` share it.  This is the only way
in which two programs share a text, so programs with one text are those that agree once all signs
are written one by one.

`++x` and `--x` have the same text as `+` in front of `+x` and `-` in front of `-x`.  `Expr.spelled`
turns the former into the latter.  It keeps the text, and it keeps what can be read at a level, so
the trees it gives are again trees with a text; among them the text determines the tree.

A program also accounts for its text.  Reading statements takes every token up to the end of input,
and the tokens that an expression takes are those of its tree (`Reading.takes`).  So the tokens of
an accepted text are the tokens of the program, but for semicolons and commas before a closing
brace.  Between the tokens there are only blanks (`Token.Tiles`): no character of the text is passed
over.  The end of input is found at a NUL as well as at the end of the text, and what stands behind
a NUL is never looked at, so this is about texts without one.
-/
import Trellis.Proofs.Expr.Parsed
import Trellis.Proofs.Expr.Printed
import Trellis.Proofs.Expr.Reread
import Trellis.Proofs.Expr.Taken
import Trellis.Proofs.Outcome
import Trellis.Proofs.Token.Tiling

namespace Trellis

open Token (Kind)

def Expr.UpdateOp.sign : Expr.UpdateOp → Expr.UnaryOp
  | .inc => .pos
  | .dec => .neg

mutual
/-- An expression with `++x` and `--x` as two signs. -/
def Expr.spelled : Expr → Expr
  | .array s es => .array s (Expr.spelledList es)
  | .object s ps => .object s (Property.spelledList ps)
  | .seq s es => .seq s (Expr.spelledList es)
  | .unary s op a => .unary s op a.spelled
  | .binary s op l r => .binary s op l.spelled r.spelled
  | .logical s op l r => .logical s op l.spelled r.spelled
  | .cond s t c a => .cond s t.spelled c.spelled a.spelled
  | .assign s op t v => .assign s op t.spelled v.spelled
  | .update s op before t =>
    if before then .unary s op.sign (.unary s op.sign t.spelled) else .update s op false t.spelled
  | .call s f es => .call s f.spelled (Expr.spelledList es)
  | .member s o ns name => .member s o.spelled ns name
  | .index s o i => .index s o.spelled i.spelled
  | .pipe s e cs ds => .pipe s e.spelled cs (Decorator.spelledList ds)
  | .paren s inner => .paren s inner.spelled
  | e => e

def Expr.spelledList : List Expr → List Expr
  | [] => []
  | e :: es => e.spelled :: Expr.spelledList es

def Property.spelledList : List Property → List Property
  | [] => []
  | .mk k v :: ps => .mk k v.spelled :: Property.spelledList ps

def Decorator.spelledList : List Decorator → List Decorator
  | [] => []
  | .mk s name arguments parens :: ds =>
    .mk s name (Expr.spelledList arguments) parens :: Decorator.spelledList ds
end

/-- The expressions of a program, with all signs one by one and without places. -/
def Program.spelled (p : Program) : List Expr := p.exprs.map fun e => e.spelled.bare

/-! ### The text stays -/

mutual
lemma Expr.text_spelled : (e : Expr) → e.spelled.text = e.text
  | .this _ | .ident _ _ | .lit _ _ => by simp only [Expr.spelled]
  | .array _ es => by simp only [Expr.spelled, Expr.text, Expr.textList_spelled es]
  | .object _ ps => by simp only [Expr.spelled, Expr.text, Property.textList_spelled ps]
  | .seq _ es => by simp only [Expr.spelled, Expr.text, Expr.textList_spelled es]
  | .unary _ op a => by cases op <;> simp only [Expr.spelled, Expr.text, a.text_spelled]
  | .binary _ _ l r => by simp only [Expr.spelled, Expr.text, l.text_spelled, r.text_spelled]
  | .logical _ _ l r => by simp only [Expr.spelled, Expr.text, l.text_spelled, r.text_spelled]
  | .cond _ t c a => by
    simp only [Expr.spelled, Expr.text, t.text_spelled, c.text_spelled, a.text_spelled]
  | .assign _ _ t v => by simp only [Expr.spelled, Expr.text, t.text_spelled, v.text_spelled]
  | .update _ op true t => by
    cases op <;> simp only [Expr.spelled, Expr.UpdateOp.sign, Expr.text, t.text_spelled, if_true,
      ← String.append_assoc] <;> rfl
  | .update _ _ false t => by
    simp only [Expr.spelled, Expr.text, t.text_spelled, Bool.false_eq_true, if_false]
  | .call _ f es => by
    simp only [Expr.spelled, Expr.text, f.text_spelled, Expr.textList_spelled es]
  | .member _ o _ _ => by simp only [Expr.spelled, Expr.text, o.text_spelled]
  | .index _ o i => by simp only [Expr.spelled, Expr.text, o.text_spelled, i.text_spelled]
  | .pipe _ e _ ds => by
    simp only [Expr.spelled, Expr.text, e.text_spelled, Decorator.textChain_spelled ds]
  | .paren _ inner => by simp only [Expr.spelled, Expr.text, inner.text_spelled]

lemma Expr.textList_spelled : (es : List Expr) →
    Expr.textList (Expr.spelledList es) = Expr.textList es
  | [] => rfl
  | [e] => e.text_spelled
  | e :: f :: es => by
    have ih := Expr.textList_spelled (f :: es)
    simp only [Expr.spelledList, Expr.textList, e.text_spelled] at ih ⊢
    rw [ih]

lemma Property.textList_spelled : (ps : List Property) →
    Property.textList (Property.spelledList ps) = Property.textList ps
  | [] => rfl
  | [.mk k v] => by
    simp only [Property.spelledList, Property.textList, Property.text, v.text_spelled]
  | .mk k v :: .mk k' v' :: ps => by
    have ih := Property.textList_spelled (.mk k' v' :: ps)
    simp only [Property.spelledList, Property.textList, Property.text, v.text_spelled] at ih ⊢
    rw [ih]

lemma Decorator.textChain_spelled : (ds : List Decorator) →
    Decorator.textChain (Decorator.spelledList ds) = Decorator.textChain ds
  | [] => rfl
  | [.mk _ _ es _] => by
    simp only [Decorator.spelledList, Decorator.textChain, Decorator.text,
      Expr.textList_spelled es]
  | .mk _ _ es _ :: .mk s name es' parens :: ds => by
    have ih := Decorator.textChain_spelled (.mk s name es' parens :: ds)
    simp only [Decorator.spelledList, Decorator.textChain, Decorator.text,
      Expr.textList_spelled es] at ih ⊢
    rw [ih]
end

/-! ### What can be read can be read with its signs one by one -/

lemma Expr.isAssignable_spelled {e : Expr} (h : e.isAssignable = true) :
    e.spelled.isAssignable = true := by
  cases e <;> first | rfl | cases h

lemma Decorator.lastParens_spelled : (ds : List Decorator) →
    Decorator.lastParens (Decorator.spelledList ds) = Decorator.lastParens ds
  | [] => rfl
  | [.mk _ _ _ _] => rfl
  | .mk _ _ _ _ :: .mk s name es parens :: ds => by
    have ih := Decorator.lastParens_spelled (.mk s name es parens :: ds)
    simpa only [Decorator.spelledList, Decorator.lastParens] using ih

lemma Decorator.spelledList_ne {ds : List Decorator} (h : ds ≠ []) :
    Decorator.spelledList ds ≠ [] := by
  rcases ds with _ | ⟨⟨_, _, _, _⟩, _⟩
  · exact absurd rfl h
  · simp [Decorator.spelledList]

lemma Expr.endsAt_spelled (e : Expr) (k : Kind) : e.spelled.endsAt k = e.endsAt k := by
  cases e with
  | update s op before t => cases before <;> simp [Expr.spelled, Expr.endsAt]
  | pipe s e cs ds => simp only [Expr.spelled, Expr.endsAt, Decorator.lastParens_spelled]
  | _ => simp only [Expr.spelled, Expr.endsAt]

mutual
lemma Expr.fits_spelled : (e : Expr) → ∀ {r}, e.Fits r → e.spelled.Fits r
  | .this _, _, h | .ident _ _, _, h | .lit _ _, _, h => h
  | .array _ es, _, h => Expr.fitsAll_spelled es h
  | .object _ ps, _, h => Property.fitsAll_spelled ps h
  | .seq _ es, _, h => ⟨h.1, Expr.fitsItems_spelled es h.2⟩
  | .unary _ _ a, _, h => a.fits_spelled h
  | .binary _ _ l r, _, h =>
    ⟨h.1, l.fits_spelled h.2.1, (l.endsAt_spelled _).trans h.2.2.1, r.fits_spelled h.2.2.2⟩
  | .logical _ _ l r, _, h =>
    ⟨h.1, l.fits_spelled h.2.1, (l.endsAt_spelled _).trans h.2.2.1, r.fits_spelled h.2.2.2⟩
  | .cond _ t c a, _, h =>
    ⟨h.1, t.fits_spelled h.2.1, (t.endsAt_spelled _).trans h.2.2.1, c.fits_spelled h.2.2.2.1,
      a.fits_spelled h.2.2.2.2⟩
  | .assign _ _ t v, _, h =>
    ⟨h.1, t.fits_spelled h.2.1, Expr.isAssignable_spelled h.2.2.1, v.fits_spelled h.2.2.2⟩
  | .update _ _ true t, _, h => t.fits_spelled h.2
  | .update _ _ false t, _, h => ⟨Expr.isAssignable_spelled h.1, h.2.1, t.fits_spelled h.2.2⟩
  | .call _ f es, _, h =>
    ⟨h.1, f.fits_spelled h.2.1, (f.endsAt_spelled _).trans h.2.2.1,
      Expr.fitsAll_spelled es h.2.2.2⟩
  | .member _ o _ _, _, h =>
    ⟨h.1, o.fits_spelled h.2.1, (o.endsAt_spelled _).trans h.2.2.1, h.2.2.2⟩
  | .index _ o i, _, h =>
    ⟨h.1, o.fits_spelled h.2.1, (o.endsAt_spelled _).trans h.2.2.1, i.fits_spelled h.2.2.2⟩
  | .pipe _ e _ ds, _, h =>
    ⟨h.1, e.fits_spelled h.2.1, (e.endsAt_spelled _).trans h.2.2.1,
      Decorator.spelledList_ne h.2.2.2.1, Decorator.fitsAll_spelled ds h.2.2.2.2⟩
  | .paren _ inner, _, h => inner.fits_spelled h

lemma Expr.fitsAll_spelled : (es : List Expr) → Expr.FitsAll es →
    Expr.FitsAll (Expr.spelledList es)
  | [], _ => trivial
  | e :: es, h => ⟨e.fits_spelled h.1, Expr.fitsAll_spelled es h.2⟩

lemma Expr.fitsItems_spelled : (es : List Expr) → ∀ {r}, Expr.FitsItems es r →
    Expr.FitsItems (Expr.spelledList es) r
  | e :: f :: es, _, h =>
    ⟨e.fits_spelled h.1, (e.endsAt_spelled _).trans h.2.1, Expr.fitsAll_spelled (f :: es) h.2.2⟩

lemma Property.fitsAll_spelled : (ps : List Property) → Property.FitsAll ps →
    Property.FitsAll (Property.spelledList ps)
  | [], _ => trivial
  | .mk _ v :: ps, h => ⟨h.1, v.fits_spelled h.2.1, Property.fitsAll_spelled ps h.2.2⟩

lemma Decorator.fitsAll_spelled : (ds : List Decorator) → Decorator.FitsAll ds →
    Decorator.FitsAll (Decorator.spelledList ds)
  | [], _ => trivial
  | .mk _ _ es _ :: ds, h =>
    ⟨h.1, Expr.fitsAll_spelled es h.2.1, fun hp => by rw [h.2.2.1 hp]; rfl,
      Decorator.fitsAll_spelled ds h.2.2.2⟩
end

/-! ### Nothing is updated before it is read -/

mutual
lemma Expr.updatesAfter_spelled : (e : Expr) → e.spelled.nodes.all Node.updatesAfter = true
  | .this _ | .ident _ _ | .lit _ _ => rfl
  | .array _ es => by
    simp [Expr.spelled, Expr.nodes, Node.updatesAfter, Expr.updatesAfterList es]
  | .object _ ps => by
    simp [Expr.spelled, Expr.nodes, Node.updatesAfter, Property.updatesAfterList ps]
  | .seq _ es => by
    simp [Expr.spelled, Expr.nodes, Node.updatesAfter, Expr.updatesAfterList es]
  | .unary _ _ a => by
    simp [Expr.spelled, Expr.nodes, Node.updatesAfter, a.updatesAfter_spelled]
  | .binary _ _ l r | .logical _ _ l r => by
    simp [Expr.spelled, Expr.nodes, Node.updatesAfter, l.updatesAfter_spelled,
      r.updatesAfter_spelled]
  | .cond _ t c a => by
    simp [Expr.spelled, Expr.nodes, Node.updatesAfter, t.updatesAfter_spelled,
      c.updatesAfter_spelled, a.updatesAfter_spelled]
  | .assign _ _ t v => by
    simp [Expr.spelled, Expr.nodes, Node.updatesAfter, t.updatesAfter_spelled,
      v.updatesAfter_spelled]
  | .update _ _ before t => by
    cases before <;>
      simp [Expr.spelled, Expr.nodes, Node.updatesAfter, t.updatesAfter_spelled]
  | .call _ f es => by
    simp [Expr.spelled, Expr.nodes, Node.updatesAfter, f.updatesAfter_spelled,
      Expr.updatesAfterList es]
  | .member _ o _ _ => by
    simp [Expr.spelled, Expr.nodes, Node.updatesAfter, o.updatesAfter_spelled]
  | .index _ o i => by
    simp [Expr.spelled, Expr.nodes, Node.updatesAfter, o.updatesAfter_spelled,
      i.updatesAfter_spelled]
  | .pipe _ e _ ds => by
    simp [Expr.spelled, Expr.nodes, Node.updatesAfter, e.updatesAfter_spelled,
      Decorator.updatesAfterList ds]
  | .paren _ inner => by
    simp [Expr.spelled, Expr.nodes, Node.updatesAfter, inner.updatesAfter_spelled]

lemma Expr.updatesAfterList : (es : List Expr) →
    (Expr.nodesList (Expr.spelledList es)).all Node.updatesAfter = true
  | [] => rfl
  | e :: es => by
    simp [Expr.spelledList, Expr.nodesList, e.updatesAfter_spelled, Expr.updatesAfterList es]

lemma Property.updatesAfterList : (ps : List Property) →
    (Property.nodesList (Property.spelledList ps)).all Node.updatesAfter = true
  | [] => rfl
  | .mk _ v :: ps => by
    simp [Property.spelledList, Property.nodesList, Property.nodes, v.updatesAfter_spelled,
      Property.updatesAfterList ps]

lemma Decorator.updatesAfterList : (ds : List Decorator) →
    (Decorator.nodesList (Decorator.spelledList ds)).all Node.updatesAfter = true
  | [] => rfl
  | .mk _ _ es _ :: ds => by
    simp [Decorator.spelledList, Decorator.nodesList, Decorator.nodes, Node.updatesAfter,
      Expr.updatesAfterList es, Decorator.updatesAfterList ds]
end

/-! ### Trees that are spelled already -/

mutual
/-- Without `++x` and `--x` there is nothing to spell. -/
lemma Expr.spelled_eq : (e : Expr) → e.nodes.all Node.updatesAfter = true → e.spelled = e
  | .this _, _ | .ident _ _, _ | .lit _ _, _ => rfl
  | .array _ es, h => by
    simp only [Expr.nodes, List.all_append, Bool.and_eq_true] at h
    rw [Expr.spelled, Expr.spelledList_eq es h.1]
  | .object _ ps, h => by
    simp only [Expr.nodes, List.all_append, Bool.and_eq_true] at h
    rw [Expr.spelled, Property.spelledList_eq ps h.1]
  | .seq _ es, h => by
    simp only [Expr.nodes, List.all_append, Bool.and_eq_true] at h
    rw [Expr.spelled, Expr.spelledList_eq es h.1]
  | .unary _ _ a, h => by
    simp only [Expr.nodes, List.all_append, Bool.and_eq_true] at h
    rw [Expr.spelled, a.spelled_eq h.1]
  | .binary _ _ l r, h | .logical _ _ l r, h => by
    simp only [Expr.nodes, List.all_append, Bool.and_eq_true] at h
    rw [Expr.spelled, l.spelled_eq h.1.1, r.spelled_eq h.1.2]
  | .cond _ t c a, h => by
    simp only [Expr.nodes, List.all_append, Bool.and_eq_true] at h
    rw [Expr.spelled, t.spelled_eq h.1.1.1, c.spelled_eq h.1.1.2, a.spelled_eq h.1.2]
  | .assign _ _ t v, h => by
    simp only [Expr.nodes, List.all_append, Bool.and_eq_true] at h
    rw [Expr.spelled, t.spelled_eq h.1.1, v.spelled_eq h.1.2]
  | .update _ _ true _, h => by simp [Expr.nodes, Node.updatesAfter] at h
  | .update _ _ false t, h => by
    simp only [Expr.nodes, List.all_append, Bool.and_eq_true] at h
    simp only [Expr.spelled, Bool.false_eq_true, if_false, t.spelled_eq h.1]
  | .call _ f es, h => by
    simp only [Expr.nodes, List.all_append, Bool.and_eq_true] at h
    rw [Expr.spelled, f.spelled_eq h.1.1, Expr.spelledList_eq es h.1.2]
  | .member _ o _ _, h => by
    simp only [Expr.nodes, List.all_append, Bool.and_eq_true] at h
    rw [Expr.spelled, o.spelled_eq h.1]
  | .index _ o i, h => by
    simp only [Expr.nodes, List.all_append, Bool.and_eq_true] at h
    rw [Expr.spelled, o.spelled_eq h.1.1, i.spelled_eq h.1.2]
  | .pipe _ e _ ds, h => by
    simp only [Expr.nodes, List.all_append, Bool.and_eq_true] at h
    rw [Expr.spelled, e.spelled_eq h.1.1, Decorator.spelledList_eq ds h.1.2]
  | .paren _ inner, h => by
    simp only [Expr.nodes, List.all_append, Bool.and_eq_true] at h
    rw [Expr.spelled, inner.spelled_eq h.1]

lemma Expr.spelledList_eq : (es : List Expr) →
    (Expr.nodesList es).all Node.updatesAfter = true → Expr.spelledList es = es
  | [], _ => rfl
  | e :: es, h => by
    simp only [Expr.nodesList, List.all_append, Bool.and_eq_true] at h
    rw [Expr.spelledList, e.spelled_eq h.1, Expr.spelledList_eq es h.2]

lemma Property.spelledList_eq : (ps : List Property) →
    (Property.nodesList ps).all Node.updatesAfter = true → Property.spelledList ps = ps
  | [], _ => rfl
  | .mk _ v :: ps, h => by
    simp only [Property.nodesList, Property.nodes, List.all_append, Bool.and_eq_true] at h
    rw [Property.spelledList, v.spelled_eq h.1, Property.spelledList_eq ps h.2]

lemma Decorator.spelledList_eq : (ds : List Decorator) →
    (Decorator.nodesList ds).all Node.updatesAfter = true → Decorator.spelledList ds = ds
  | [], _ => rfl
  | .mk _ _ es _ :: ds, h => by
    simp only [Decorator.nodesList, Decorator.nodes, List.all_append, Bool.and_eq_true] at h
    rw [Decorator.spelledList, Expr.spelledList_eq es h.1.1, Decorator.spelledList_eq ds h.2]
end

end Trellis

/-!
### Programs
-/

namespace Trellis

open Token (Face)
open Reading (Level)

/-! ### The text does not show places -/

lemma Expr.Key.text_bare (k : Expr.Key) : k.bare.text = k.text := by cases k <;> rfl

mutual
lemma Expr.text_bare : (e : Expr) → e.bare.text = e.text
  | .this _ | .ident _ _ | .lit _ _ => by simp only [Expr.bare, Expr.text]
  | .array _ es => by simp only [Expr.bare, Expr.text, Expr.textList_bare es]
  | .object _ ps => by simp only [Expr.bare, Expr.text, Property.textList_bare ps]
  | .seq _ es => by simp only [Expr.bare, Expr.text, Expr.textList_bare es]
  | .unary _ op a => by cases op <;> simp only [Expr.bare, Expr.text, a.text_bare]
  | .binary _ _ l r => by simp only [Expr.bare, Expr.text, l.text_bare, r.text_bare]
  | .logical _ _ l r => by simp only [Expr.bare, Expr.text, l.text_bare, r.text_bare]
  | .cond _ t c a => by simp only [Expr.bare, Expr.text, t.text_bare, c.text_bare, a.text_bare]
  | .assign _ _ t v => by simp only [Expr.bare, Expr.text, t.text_bare, v.text_bare]
  | .update _ _ _ t => by simp only [Expr.bare, Expr.text, t.text_bare]
  | .call _ f es => by simp only [Expr.bare, Expr.text, f.text_bare, Expr.textList_bare es]
  | .member _ o _ _ => by simp only [Expr.bare, Expr.text, o.text_bare]
  | .index _ o i => by simp only [Expr.bare, Expr.text, o.text_bare, i.text_bare]
  | .pipe _ e _ ds => by
    simp only [Expr.bare, Expr.text, e.text_bare, Decorator.textChain_bare ds]
  | .paren _ inner => by simp only [Expr.bare, Expr.text, inner.text_bare]

lemma Expr.textList_bare : (es : List Expr) → Expr.textList (Expr.bareList es) = Expr.textList es
  | [] => rfl
  | [e] => e.text_bare
  | e :: f :: es => by
    have ih := Expr.textList_bare (f :: es)
    simp only [Expr.bareList, Expr.textList, e.text_bare] at ih ⊢
    rw [ih]

lemma Property.textList_bare : (ps : List Property) →
    Property.textList (Property.bareList ps) = Property.textList ps
  | [] => rfl
  | [.mk k v] => by
    simp only [Property.bareList, Property.textList, Property.text, k.text_bare, v.text_bare]
  | .mk k v :: .mk k' v' :: ps => by
    have ih := Property.textList_bare (.mk k' v' :: ps)
    simp only [Property.bareList, Property.textList, Property.text, k.text_bare,
      v.text_bare] at ih ⊢
    rw [ih]

lemma Decorator.textChain_bare : (ds : List Decorator) →
    Decorator.textChain (Decorator.bareList ds) = Decorator.textChain ds
  | [] => rfl
  | [.mk _ _ es _] => by
    simp only [Decorator.bareList, Decorator.textChain, Decorator.text, Expr.textList_bare es]
  | .mk _ _ es _ :: .mk s name es' parens :: ds => by
    have ih := Decorator.textChain_bare (.mk s name es' parens :: ds)
    simp only [Decorator.bareList, Decorator.textChain, Decorator.text,
      Expr.textList_bare es] at ih ⊢
    rw [ih]
end

namespace Program

variable {p q : Program}

lemma text_eq_tree (p : Program) : p.text = "; ".intercalate (p.tree.map Expr.text) := by
  simp only [text, tree, List.map_map]
  congr 2
  funext e
  exact e.text_bare.symm

lemma text_eq_spelled (p : Program) : p.text = "; ".intercalate (p.spelled.map Expr.text) := by
  simp only [text, spelled, List.map_map]
  congr 2
  funext e
  exact (e.spelled.text_bare.trans e.text_spelled).symm

/-- What holds of all nodes of a program holds of those of its expressions. -/
lemma nodes_all_exprs {check : Node → Bool} (h : p.nodes.all check = true) :
    ∀ e ∈ p.exprs, e.nodes.all check = true := by
  intro e he
  obtain ⟨s, hs, hse⟩ := List.mem_filterMap.1 he
  cases s with
  | empty span => cases hse
  | expr span e' =>
    cases hse
    rw [List.all_eq_true] at h ⊢
    intro n hn
    refine h n (List.mem_append_left _ (List.mem_flatMap.2 ⟨_, hs, ?_⟩))
    exact List.mem_append_left _ hn

lemma fits_spelled {source : String} (h : Program.parse source = .ok p) :
    ∀ e ∈ p.exprs.map Expr.spelled, e.Fits Level.lowest.rank := by
  intro e he
  obtain ⟨e', he', rfl⟩ := List.mem_map.1 he
  exact e'.fits_spelled (parse_fits h e' he')

/-! ### Reading the text again -/

/-- The tokens of the text of a program whose signs stand apart. -/
lemma scan_text {source : String} (h : Program.parse source = .ok p)
    (hsigns : p.signsApart = true) :
    Token.scan true (p.text.length + 1) .before p.text.toList =
      Expr.facesLines p.exprs ++ [Face.atEnd] := by
  have hparts : ∀ e ∈ p.exprs, e.nodes.all (Node.parts true) = true := nodes_all_exprs hsigns
  exact Expr.scan_lines (parse_fits h) hparts (Nat.lt_succ_self _)

/-- The canonical text of a program is read as the same program, and its text is the same again,
unless a unary sign stands in front of the same sign. -/
theorem parse_text {source : String} (h : Program.parse source = .ok p)
    (hsigns : p.signsApart = true) :
    ∃ q, Program.parse p.text = .ok q ∧ q.tree = p.tree ∧ q.text = p.text := by
  have hscan := scan_text h hsigns
  rw [← Token.face_all] at hscan
  obtain ⟨q, hq, htree⟩ := parse_of_faces (parse_fits h) hscan
  exact ⟨q, hq, htree, by rw [text_eq_tree, htree, ← tree, ← text_eq_tree]⟩

theorem parse_text_typeof : ∃ p, Program.parse "- a.typeof\n|b(c, 'd')" = .ok p ∧
    p.signsApart = true ∧
    ∃ q, Program.parse p.text = .ok q ∧ q.tree = p.tree ∧ q.text = p.text := by
  have hread : (Program.parse "- a.typeof\n|b(c, 'd')").toOption.map signsApart = some true := by
    decide +kernel
  obtain ⟨p, hp, hsigns⟩ := eq_ok_of_toOption hread
  exact ⟨p, hp, hsigns, parse_text hp hsigns⟩

/-! ### Programs with one text -/

/-- The tokens of a program with its signs one by one can be read off its text. -/
lemma scan_spelled {source : String} (h : Program.parse source = .ok p) :
    Token.scan false (p.text.length + 1) .before p.text.toList =
      Expr.facesLines (p.exprs.map Expr.spelled) ++ [Face.atEnd] := by
  have htext : p.text = "; ".intercalate ((p.exprs.map Expr.spelled).map Expr.text) := by
    rw [List.map_map, text]
    congr 2
    funext e
    exact e.text_spelled.symm
  rw [htext]
  refine Expr.scan_lines (fits_spelled h) ?_ (Nat.lt_succ_self _)
  intro e he
  obtain ⟨e', -, rfl⟩ := List.mem_map.1 he
  exact e'.updatesAfter_spelled

lemma spelled_of_text {source source' : String} (hp : Program.parse source = .ok p)
    (hq : Program.parse source' = .ok q) (htext : p.text = q.text) : p.spelled = q.spelled := by
  have hscan := scan_spelled hp
  rw [htext, scan_spelled hq] at hscan
  have hbare := Expr.bare_of_faces (fits_spelled hp) (fits_spelled hq)
    (List.append_cancel_right hscan).symm
  rwa [List.map_map, List.map_map] at hbare

/-- Without `++x` and `--x` a program is its spelled tree. -/
lemma spelled_eq_tree (h : p.updatesAfter = true) : p.spelled = p.tree := by
  refine List.map_congr_left fun e he => ?_
  rw [e.spelled_eq (nodes_all_exprs h e he)]

/-- Two programs have one text exactly if they are the same once `++x` and `--x` are taken for two
signs.  So programs with one text are the same if neither has a sign in front of the same sign, and
also if neither has `++x` or `--x`. -/
theorem text_eq_iff {source source' : String} (hp : Program.parse source = .ok p)
    (hq : Program.parse source' = .ok q) :
    (p.text = q.text ↔ p.spelled = q.spelled) ∧
    (p.text = q.text → p.signsApart = true → q.signsApart = true → p.tree = q.tree) ∧
    (p.text = q.text → p.updatesAfter = true → q.updatesAfter = true → p.tree = q.tree) := by
  refine ⟨⟨spelled_of_text hp hq, fun h => ?_⟩, fun htext hps hqs => ?_, fun htext hpu hqu => ?_⟩
  · rw [text_eq_spelled, text_eq_spelled, h]
  · have hscan := scan_text hp hps
    rw [htext, scan_text hq hqs] at hscan
    exact Expr.bare_of_faces (parse_fits hp) (parse_fits hq) (List.append_cancel_right hscan).symm
  · rw [← spelled_eq_tree hpu, ← spelled_eq_tree hqu]
    exact spelled_of_text hp hq htext

/-- The text of a program and the kinds of its expressions. -/
def shape (p : Program) : String × List String :=
  (p.text, p.tree.map fun e => (Node.expr e).kindName)

theorem signs_share_text : ∃ p q, Program.parse "- -a" = .ok p ∧ Program.parse "--a" = .ok q ∧
    p.text = q.text ∧ p.tree ≠ q.tree := by
  have hminus : (Program.parse "- -a").toOption.map shape = some ("--a", ["UnaryExpression"]) := by
    decide +kernel
  have hupdate : (Program.parse "--a").toOption.map shape = some ("--a", ["UpdateExpression"]) := by
    decide +kernel
  obtain ⟨p, hp, hpshape⟩ := eq_ok_of_toOption hminus
  obtain ⟨q, hq, hqshape⟩ := eq_ok_of_toOption hupdate
  have htext : p.text = q.text :=
    (congrArg Prod.fst hpshape).trans (congrArg Prod.fst hqshape).symm
  refine ⟨p, q, hp, hq, htext, fun htree => ?_⟩
  have hshape : p.shape = q.shape := by simp only [shape, htext, htree]
  rw [hpshape, hqshape] at hshape
  exact absurd hshape (by decide)

theorem text_eq_iff_signs : ∃ p q, Program.parse "- -a" = .ok p ∧ Program.parse "--a" = .ok q ∧
    p.text = q.text ∧ p.spelled = q.spelled := by
  have hminus : (Program.parse "- -a").toOption.map text = some "--a" := by decide +kernel
  have hupdate : (Program.parse "--a").toOption.map text = some "--a" := by decide +kernel
  obtain ⟨p, hp, hptext⟩ := eq_ok_of_toOption hminus
  obtain ⟨q, hq, hqtext⟩ := eq_ok_of_toOption hupdate
  have htext : p.text = q.text := hptext.trans hqtext.symm
  exact ⟨p, q, hp, hq, htext, (text_eq_iff hp hq).1.1 htext⟩

end Program

namespace Reading

variable {n m : Nat} {f f' : Feed}

/-- A statement takes the tokens of its expression, and a semicolon if one follows. -/
lemma takes_statement {s : Stmt} (h : (statement n).run f = .ok (s, f')) (hf : f.Real)
    (hopen : f.current.kind ≠ .eof) :
    ∃ us, f.Moves us f' ∧ f'.current.kind ≠ .eof ∧
      Written (f.current :: us) (s.expr?.toList.flatMap Expr.faces) := by
  simp only [statement] at h
  rw [run_bind_eq run_current] at h
  split at h
  · next hempty =>
    rw [run_bind_eq (run_spanOf _)] at h
    obtain ⟨rfl, rfl⟩ := run_pure_iff.1 h
    exact ⟨[], ⟨rfl, rfl⟩, hopen, .semicolon hempty .nil⟩
  · rw [run_bind_iff] at h
    obtain ⟨e, f₁, he, h⟩ := h
    obtain ⟨us, htook, hopen₁, hwritten⟩ := (takes n).expr he hf
    have hf₁ : f₁.Real := htook.real hf
    have hfaces : ∀ span, (Stmt.expr span e).expr?.toList.flatMap Expr.faces = e.faces := by
      simp [Stmt.expr?]
    rw [run_bind_eq (run_spanOf _), run_bind_eq run_peek] at h
    split at h
    · next hsemicolon =>
      have hkind : f₁.next.current.kind = .semicolon := by rw [Feed.next_current, hsemicolon]
      rw [run_bind_eq run_advance] at h
      obtain ⟨rfl, rfl⟩ := run_pure_iff.1 h
      refine ⟨us ++ [f₁.next.current], ⟨?_, ?_⟩, by simp [hkind], ?_⟩
      · rw [htook.rest_eq, hf₁.rest_eq (.inl hopen₁), Feed.next_current, List.append_assoc,
          List.singleton_append]
      · rw [Feed.getLastD_append]
        rfl
      · rw [hfaces, ← List.append_nil e.faces]
        exact hwritten.append (.semicolon hkind .nil)
    · split at h
      · exact absurd h (run_noOperand _ _)
      · split at h
        · obtain ⟨rfl, rfl⟩ := run_pure_iff.1 h
          exact ⟨us, htook.toMoves, hopen₁, (hfaces _).symm ▸ hwritten⟩
        · exact absurd h (run_failAt _ _ _ _)

/-- Statements take all tokens up to the end of input. -/
lemma takes_statements {ss : List Stmt} (h : (statements n m).run f = .ok (ss, f')) (hf : f.Real) :
    ∃ us, f.current :: f.rest = us ++ f'.current :: f'.rest ∧ f'.current.kind = .eof ∧
      Written us ((ss.filterMap Stmt.expr?).flatMap Expr.faces) := by
  induction m generalizing f ss with
  | zero => exact absurd h (run_exhausted _)
  | succ m ih =>
    simp only [statements] at h
    rw [run_bind_eq run_current] at h
    split at h
    · next heof =>
      obtain ⟨rfl, rfl⟩ := run_pure_iff.1 h
      exact ⟨[], rfl, heof, .nil⟩
    · next hopen =>
      rw [run_bind_iff] at h
      obtain ⟨s, f₁, hs, h⟩ := h
      obtain ⟨us, hmoves, hopen₁, hwritten⟩ := takes_statement hs hf hopen
      have hf₁ : f₁.Real := hmoves.real hf
      rw [run_bind_eq run_advance, run_bind_iff] at h
      obtain ⟨ss', f₂, hss, h⟩ := h
      obtain ⟨rfl, rfl⟩ := run_pure_iff.1 h
      obtain ⟨vs, hrest, heof, hwritten'⟩ := ih hss hf₁.next
      refine ⟨f.current :: us ++ vs, ?_, heof, ?_⟩
      · rw [List.append_assoc, ← hrest, Feed.next_current, ← hf₁.rest_eq (.inl hopen₁),
          hmoves.rest_eq, List.cons_append]
      · have hfaces : ((s :: ss').filterMap Stmt.expr?).flatMap Expr.faces =
            s.expr?.toList.flatMap Expr.faces ++
              (ss'.filterMap Stmt.expr?).flatMap Expr.faces := by
          cases hs : s.expr? <;> simp [hs]
        rw [hfaces]
        exact hwritten.append hwritten'

end Reading

/-- Tokens with the end of input behind them can be split at an end of input only there. -/
lemma Token.split_last {ts us vs : List Token} {last t : Token} (hkinds : ∀ t ∈ ts, t.kind ≠ .eof)
    (ht : t.kind = .eof) (h : ts ++ [last] = us ++ t :: vs) : us = ts := by
  rcases append_eq_append_cons h with ⟨more, hts⟩ | ⟨more, rfl, hlast⟩
  · exact absurd ht (hkinds t (by rw [hts]; simp))
  · cases more with
    | nil => exact List.append_nil ts
    | cons u more => simp at hlast

/-- The tokens of a text that ends with the end of input. -/
lemma Feed.start_append (ts : List Token) (last : Token) :
    (start (ts ++ [last])).current :: (start (ts ++ [last])).rest = ts ++ [last] := by
  cases ts <;> rfl

/-- The tokens of an accepted text without a NUL tile it, and they are those of its program. -/
lemma Program.parse_tokens {s : String} {p : Program} (hnul : '\x00' ∉ s.toList)
    (h : Program.parse s = .ok p) :
    ∃ ts, ∃ last : Token, Token.all s = ts ++ [last] ∧ (∀ t ∈ ts, t.kind ≠ .eof) ∧
    last.kind = .eof ∧
      Token.Tiles [] s.toList ts ∧ Written ts (p.exprs.flatMap Expr.faces) := by
  have hbound : s.toList.length < s.length + 1 := by
    rw [String.length_toList]
    exact Nat.lt_succ_self _
  obtain ⟨ts, last, hall, -, hkinds, hlast, -, -, htiles⟩ :=
    Token.gives_tiles _ [] hbound hnul
  rw [← Token.Cursor.start_eq_at] at hall
  change Token.all s = ts ++ [last] at hall
  refine ⟨ts, last, hall, hkinds, hlast, htiles, ?_⟩
  obtain ⟨after, hrun⟩ := Program.parse_iff.1 ⟨p, h, rfl⟩
  have hreal : (Feed.start (Token.all s)).Real := by
    refine ⟨Feed.sound_start s, ?_⟩
    rw [hall, ← List.getLastD_cons (a := Token.atEnd), Feed.start_append, Feed.getLastD_append]
    exact hlast
  obtain ⟨us, htokens, heof, hwritten⟩ := Reading.takes_statements hrun hreal
  rw [hall, Feed.start_append] at htokens
  rwa [← Token.split_last hkinds heof htokens]

/-- An accepted text without a NUL is tiled by the tokens of its program: a character that belongs
to none of them is a blank, and a token that is not part of the tree is a semicolon or a comma
before a closing brace. -/
theorem Program.parse_accounts (s : String) (p : Program) (hnul : '\x00' ∉ s.toList)
    (h : Program.parse s = .ok p) :
    ∃ ts last, Token.all s = ts ++ [last] ∧ last.kind = .eof ∧ Token.Tiles [] s.toList ts ∧
      (∀ front c back, s.toList = front ++ c :: back →
        Token.isGap c = true ∨ ∃ t ∈ ts, t.Covers front) ∧
      Written ts (p.exprs.flatMap Expr.faces) := by
  obtain ⟨ts, last, hall, -, hlast, htiles, hwritten⟩ := parse_tokens hnul h
  exact ⟨ts, last, hall, hlast, htiles, fun front c back => htiles.covers, hwritten⟩

/-- Two statements, with a semicolon and a comma that stand for nothing. -/
theorem Program.parse_accounts_object : '\x00' ∉ "a = [b];\n\x7bc: 'd',\x7d".toList ∧
    ∃ p, Program.parse "a = [b];\n\x7bc: 'd',\x7d" = .ok p ∧ p.text = "a = [b]; \x7bc: 'd'\x7d" ∧
      ∃ ts last, Token.all "a = [b];\n\x7bc: 'd',\x7d" = ts ++ [last] ∧ last.kind = .eof ∧
        Token.Tiles [] "a = [b];\n\x7bc: 'd',\x7d".toList ts ∧
        (∀ front c back, "a = [b];\n\x7bc: 'd',\x7d".toList = front ++ c :: back →
          Token.isGap c = true ∨ ∃ t ∈ ts, t.Covers front) ∧
        Written ts (p.exprs.flatMap Expr.faces) := by
  have hnul : '\x00' ∉ "a = [b];\n\x7bc: 'd',\x7d".toList := by decide
  have hread : (Program.parse "a = [b];\n\x7bc: 'd',\x7d").toOption.map Program.text =
      some "a = [b]; \x7bc: 'd'\x7d" := by decide +kernel
  obtain ⟨p, hp, htext⟩ := eq_ok_of_toOption hread
  exact ⟨hnul, p, hp, htext, parse_accounts _ p hnul hp⟩

/-- Behind a NUL the text is passed over: here a letter that belongs to no token. -/
theorem Program.parse_nul : ∃ p, Program.parse "a\x00b" = .ok p ∧ p.text = "a" ∧
    ¬ ∀ front c back, "a\x00b".toList = front ++ c :: back →
      Token.isGap c = true ∨ ∃ t ∈ Token.all "a\x00b", t.Covers front := by
  have hread : (Program.parse "a\x00b").toOption.map Program.text = some "a" := by decide +kernel
  obtain ⟨p, hp, htext⟩ := eq_ok_of_toOption hread
  refine ⟨p, hp, htext, fun hall => ?_⟩
  have hletter := hall ['a', '\x00'] 'b' [] (by decide)
  exact absurd hletter (by decide +kernel)

end Trellis
