/-
What compiling says besides its text.

The text of a compiled expression depends on the table of symbols and on whether string constants
are kept there.  Whether compiling succeeds, what the expression depends on and whether it is
constant do not: `Code.Alike` compares two pieces of compiling in this way.  They do not depend on
the places of the expression either, which `Expr.bare` leaves out.  An expression is constant
exactly if it is closed (`Code.expr_alike`), so a constant evaluates to the same everywhere.
-/
import Trellis.Code.Fragment
import Trellis.Proofs.Eval.Closed
import Trellis.Proofs.Expr.Paths

namespace Trellis

/-! ### Expressions without places -/

namespace Expr

lemma unwrap_bare (e : Expr) : e.bare.unwrap = e.unwrap.bare := by
  fun_induction Expr.unwrap e with
  | case1 s inner ih => exact ih
  | case2 e hparen =>
    cases e with
    | paren s inner => exact absurd rfl (hparen s inner)
    | _ => rfl

lemma staticName?_bare (e : Expr) : e.bare.staticName? = e.staticName? := by
  cases e with
  | index s base key =>
    cases key with
    | lit s l => cases l <;> rfl
    | _ => rfl
  | _ => rfl

end Expr

namespace Code

/-! ### Compiling that ends alike -/

section Alike

variable {α β γ δ : Type} {R : α → β → Prop} {S : γ → δ → Prop}

/-- Two results that `R` relates, or two faults. -/
def Ends (R : α → β → Prop) : Except Fault α → Except Fault β → Prop
  | .ok a, .ok b => R a b
  | .error _, .error _ => True
  | _, _ => False

/-- Compiling that goes on. -/
lemma run_bind_ok {c : Compile α} {s : Symbols} {a : α} (h : (c.run.run s).1 = .ok a)
    (k : α → Compile γ) : (c >>= k).run.run s = (k a).run.run (c.run.run s).2 := by
  change (ExceptT.bindCont k (c.run.run s).1).run (c.run.run s).2 = _
  rw [h]
  rfl

lemma run_bind_error {c : Compile α} {s : Symbols} {f : Fault} (h : (c.run.run s).1 = .error f)
    (k : α → Compile γ) : ((c >>= k).run.run s).1 = .error f := by
  change (ExceptT.bindCont k (c.run.run s).1 (c.run.run s).2).1 = _
  rw [h]
  rfl

/-- Whatever the symbols, two pieces of compiling end in the same way. -/
def Alike (R : α → β → Prop) (c : Compile α) (d : Compile β) : Prop :=
  ∀ s t : Symbols, Ends R (c.run.run s).1 (d.run.run t).1

lemma alike_pure {a : α} {b : β} (h : R a b) : Alike R (pure a) (pure b) := fun _ _ => h

lemma Alike.mono {R' : α → β → Prop} {c : Compile α} {d : Compile β} (h : Alike R c d)
    (hR : ∀ a b, R a b → R' a b) : Alike R' c d := by
  intro s t
  have hst := h s t
  rcases hc : (c.run.run s).1 with f | a <;> rcases hd : (d.run.run t).1 with g | b <;>
    rw [hc, hd] at hst
  · exact True.intro
  · exact (hst : False).elim
  · exact (hst : False).elim
  · exact hR a b hst

lemma alike_throw (f g : Fault) : Alike R (throw f) (throw g) := fun _ _ => True.intro

lemma alike_bind {c : Compile α} {d : Compile β} {k : α → Compile γ} {l : β → Compile δ}
    (h : Alike R c d) (hk : ∀ a b, R a b → Alike S (k a) (l b)) : Alike S (c >>= k) (d >>= l) := by
  intro s t
  have hst := h s t
  change Ends S (ExceptT.bindCont k (c.run.run s).1 (c.run.run s).2).1
    (ExceptT.bindCont l (d.run.run t).1 (d.run.run t).2).1
  rcases hc : c.run.run s with ⟨r, s'⟩
  rcases hd : d.run.run t with ⟨q, t'⟩
  rw [hc, hd] at hst
  cases r with
  | error f =>
    cases q with
    | error g => exact True.intro
    | ok b => exact (hst : False).elim
  | ok a =>
    cases q with
    | error g => exact (hst : False).elim
    | ok b => exact hk a b hst s' t'

lemma Ends.mono {R' : α → β → Prop} {r : Except Fault α} {q : Except Fault β} (h : Ends R r q)
    (hR : ∀ a b, R a b → R' a b) : Ends R' r q := by
  cases r with
  | error f =>
    cases q with
    | error g => exact True.intro
    | ok b => exact (h : False).elim
  | ok a =>
    cases q with
    | error g => exact (h : False).elim
    | ok b => exact hR a b h

lemma Ends.bind {r : Except Fault α} {q : Except Fault β} {k : α → Except Fault γ}
    {l : β → Except Fault δ} (h : Ends R r q) (hk : ∀ a b, R a b → Ends S (k a) (l b)) :
    Ends S (r >>= k) (q >>= l) := by
  cases r with
  | error f =>
    cases q with
    | error g => exact True.intro
    | ok b => exact (h : False).elim
  | ok a =>
    cases q with
    | error g => exact (h : False).elim
    | ok b => exact hk a b h

lemma Ends.map {r : Except Fault α} {q : Except Fault β} {k : α → γ} {l : β → δ} (h : Ends R r q)
    (hk : ∀ a b, R a b → S (k a) (l b)) : Ends S (r.map k) (q.map l) := h.bind hk

lemma Ends.ok {r : Except Fault β} {a : α} (h : Ends R (.ok a) r) : ∃ b, r = .ok b ∧ R a b := by
  cases r with
  | error g => exact (h : False).elim
  | ok b => exact ⟨b, rfl, h⟩

lemma Ends.ok_right {r : Except Fault α} {b : β} (h : Ends R r (.ok b)) : ∃ a, r = .ok a ∧
    R a b := by
  cases r with
  | error f => exact (h : False).elim
  | ok a => exact ⟨a, rfl, h⟩

lemma Alike.symm {c : Compile α} {d : Compile β} (h : Alike R c d) :
    Alike (fun b a => R a b) d c := by
  intro s t
  have hts := h t s
  rcases hc : (c.run.run t).1 with f | a <;> rcases hd : (d.run.run s).1 with g | b <;>
    rw [hc, hd] at hts <;> exact hts

/-- Comparing goes through pieces in the middle. -/
lemma Alike.trans {T : β → γ → Prop} {c : Compile α} {d : Compile β} {e : Compile γ}
    (h : Alike R c d) (h' : Alike T d e) : Alike (fun a b => ∃ x, R a x ∧ T x b) c e := by
  intro s t
  have hs := h s s
  have ht := h' s t
  rcases hc : (c.run.run s).1 with f | a <;> rcases hd : (d.run.run s).1 with g | b <;>
    rcases he : (e.run.run t).1 with j | x <;> rw [hc, hd] at hs <;> rw [hd, he] at ht
  all_goals first
    | exact True.intro
    | exact (hs : False).elim
    | exact (ht : False).elim
    | exact ⟨_, hs, ht⟩

/-- Whatever the symbols, `P` holds of what compiling gives. -/
def Yields (P : α → Prop) (c : Compile α) : Prop :=
  ∀ (s : Symbols) (a : α), (c.run.run s).1 = .ok a → P a

variable {P : α → Prop} {Q : β → Prop} {c : Compile α} {d : Compile β} {k : α → Compile β}

lemma yields_pure {a : α} (h : P a) : Yields P (pure a) := by
  rintro s b ⟨⟩
  exact h

lemma yields_throw (f : Fault) : Yields P (throw f) := by
  rintro s b ⟨⟩

lemma yields_except (r : Except Fault α) : Yields (fun a => r = .ok a) (ExceptT.mk (pure r)) :=
  fun _ _ h => h

lemma yields_true (c : Compile α) : Yields (fun _ => True) c := fun _ _ _ => True.intro

lemma yields_bind (hc : Yields P c) (hk : ∀ a, P a → Yields Q (k a)) : Yields Q (c >>= k) := by
  intro s b hrun
  change (ExceptT.bindCont k (c.run.run s).1 (c.run.run s).2).1 = _ at hrun
  rcases h : c.run.run s with ⟨r, s'⟩
  rw [h] at hrun
  cases r with
  | error f => cases hrun
  | ok a => exact hk a (hc s a (by rw [h])) s' b hrun

lemma Alike.yields (h : Alike R c d) (hR : ∀ a b, R a b → P a) : Yields P c := by
  intro s a hrun
  have hends := h s s
  rw [hrun] at hends
  obtain ⟨b, _, hab⟩ := hends.ok
  exact hR a b hab

/-- What compiling gives on each side adds to the comparison. -/
lemma Alike.and (h : Alike R c d) (hc : Yields P c) (hd : Yields Q d) :
    Alike (fun a b => R a b ∧ P a ∧ Q b) c d := by
  intro s t
  have hst := h s t
  rcases hs : (c.run.run s).1 with f | a <;> rcases ht : (d.run.run t).1 with g | b <;>
    rw [hs, ht] at hst
  · exact True.intro
  · exact (hst : False).elim
  · exact (hst : False).elim
  · exact ⟨hst, hc s a hs, hd t b ht⟩

end Alike

/-! ### Expressions -/

/-- Two compiled expressions depend on the same; whether they are constant is known. -/
structure Piece.Same (closed : Bool) (p q : Piece) : Prop where
  flags : p.flags = q.flags
  left : p.constant = closed
  right : q.constant = closed

/-- The same of several expressions. -/
structure Piece.SameAll (closed : Bool) (ps qs : List Piece) : Prop where
  flags : ps.map (·.flags) = qs.map (·.flags)
  left : ps.all (·.constant) = closed
  right : qs.all (·.constant) = closed

/-- The same of the owner and the key of a place. -/
inductive Place.Same : Place → Place → Prop
  | name (n : String) : Same (.name n) (.name n)
  | property {owner owner' key key' : Piece} (howner : owner.flags = owner'.flags)
    (hkey : key.flags = key'.flags) : Same (.property owner key) (.property owner' key')

lemma Place.Same.flags_eq {p q : Place} (h : p.Same q) : p.flags = q.flags := by
  cases h with
  | name n => rfl
  | property howner hkey => simp only [Place.flags, howner, hkey]

lemma flagsOf_eq {ps qs : List Piece} (h : ps.map (·.flags) = qs.map (·.flags)) :
    flagsOf ps = flagsOf qs := by
  rw [flagsOf, flagsOf, h]

lemma thisPath?_bare (e : Expr) : thisPath? e.bare = thisPath? e := by
  fun_induction thisPath? e with
  | case1 s s' ns name => rfl
  | case2 s s' ls name raw => rfl
  | case3 s base ns name hthis ih =>
    cases base with
    | this s' => exact absurd rfl (hthis s')
    | _ => simp only [Expr.bare, thisPath?] at ih ⊢ <;> rw [ih]
  | case4 s base ls name raw hthis ih =>
    cases base with
    | this s' => exact absurd rfl (hthis s')
    | _ => simp only [Expr.bare, thisPath?] at ih ⊢ <;> rw [ih]
  | case5 e _ _ hmember hindex =>
    cases e with
    | member s base ns name => exact absurd rfl (hmember s base ns name)
    | index s base key =>
      cases key with
      | lit ls l =>
        cases l with
        | string name raw => exact absurd rfl (hindex s base ls name raw)
        | _ => cases base <;> rfl
      | _ => cases base <;> rfl
    | _ => rfl

/-- A path piece is never constant, and depends on what the path begins with. -/
lemma pathPiece?_bare (e : Expr) : pathPiece? e.bare = pathPiece? e := by
  rw [pathPiece?, pathPiece?, Expr.path?_bare, thisPath?_bare]

lemma constant_of_pathPiece? {e : Expr} {p : Piece} (h : pathPiece? e = some p) :
    p.constant = false := by
  rw [pathPiece?] at h
  split at h
  · cases h
    simp only [dataPath]
    split <;> rfl
  · obtain ⟨path, _, rfl⟩ := Option.map_eq_some_iff.1 h
    rfl

lemma literal_alike (o o' : Options) (l : Expr.Literal) :
    Alike (Piece.Same true) (literal o l) (literal o' l) := by
  have hrun : ∀ (o : Options) (s : Symbols), ∃ text,
      ((literal o l).run.run s).1 = .ok { text, constant := true } := by
    intro o s
    cases l with
    | string value raw =>
      rw [literal]
      cases o.interned
      · exact ⟨_, rfl⟩
      · exact ⟨_, rfl⟩
    | _ => exact ⟨_, rfl⟩
  intro s t
  obtain ⟨text, hs⟩ := hrun o s
  obtain ⟨text', ht⟩ := hrun o' t
  rw [hs, ht]
  exact ⟨rfl, rfl, rfl⟩

section

set_option linter.unusedSectionVars false

variable {o o' : Options} (ho : o.decorators = o'.decorators)

/-- A property that is read depends on what its owner and its key depend on. -/
lemma propertyPiece_same {p p' q q' : Piece} (hp : p.flags = p'.flags) (hq : q.flags = q'.flags) :
    Piece.Same false (propertyPiece p q) (propertyPiece p' q') :=
  ⟨by simp only [propertyPiece, hp, hq], rfl, rfl⟩

lemma constant_identifier (name : String) : (identifier name).constant = (name == "undefined") := by
  simp only [identifier]
  split <;> simp_all

/-- Several expressions together are constant if each of them is. -/
lemma sequence_same {closed : Bool} {ps qs : List Piece} (h : Piece.SameAll closed ps qs)
    (separator : String) : Piece.Same closed (sequence separator ps) (sequence separator qs) :=
  ⟨flagsOf_eq h.flags, h.left, h.right⟩

/-- Another text changes nothing else. -/
lemma Piece.Same.with_text {closed : Bool} {p q : Piece} (h : p.Same closed q) (s t : String) :
    Piece.Same closed { p with text := s } { q with text := t } :=
  ⟨h.flags, h.left, h.right⟩

lemma sameAll_nil : Piece.SameAll true [] [] := ⟨rfl, rfl, rfl⟩

lemma Piece.Same.cons {closed closed' : Bool} {p q : Piece} {ps qs : List Piece}
    (h : p.Same closed q)
    (h' : Piece.SameAll closed' ps qs) : Piece.SameAll (closed && closed') (p :: ps) (q :: qs) :=
  ⟨by rw [List.map_cons, List.map_cons, h.flags, h'.flags],
    by rw [List.all_cons, h.left, h'.left], by rw [List.all_cons, h.right, h'.right]⟩

lemma bareCall_same (name : String) {ps qs : List Piece} (h : flagsOf ps = flagsOf qs) :
    Piece.Same false (bareCall name ps) (bareCall name qs) := by
  simp only [bareCall]
  split
  · rename_i i _
    cases i <;> exact ⟨by simp only [intrinsicCall, h], rfl, rfl⟩
  · exact ⟨by simp only [h], rfl, rfl⟩

include ho

mutual
/-- An expression is compiled like the same one elsewhere, and is constant exactly if it is closed.
-/
theorem expr_alike (bare : Bool) : ∀ e : Expr,
    Alike (Piece.Same e.isClosed) (expr o bare e) (expr o' bare e.bare)
  | .lit _ l => literal_alike o o' l
  | .this _ => alike_pure ⟨rfl, rfl, rfl⟩
  | .ident _ name => alike_pure ⟨rfl, constant_identifier name, constant_identifier name⟩
  | .member s base ns name => by
    have hpath := pathPiece?_bare (.member s base ns name)
    simp only [Expr.bare] at hpath
    simp only [Expr.bare, expr, hpath]
    cases hpiece : pathPiece? (.member s base ns name) with
    | some p =>
      exact alike_pure ⟨rfl, constant_of_pathPiece? hpiece, constant_of_pathPiece? hpiece⟩
    | none =>
      refine alike_bind (expr_alike false base) fun p q h => ?_
      exact alike_pure (propertyPiece_same h.flags rfl)
  | .index s base key => by
    have hpath := pathPiece?_bare (.index s base key)
    have hbase := expr_alike false base
    cases key with
    | lit ls l =>
      simp only [Expr.bare] at hpath
      simp only [Expr.bare, expr, hpath]
      cases hpiece : pathPiece? (.index s base (.lit ls l)) with
      | some p =>
        exact alike_pure ⟨rfl, constant_of_pathPiece? hpiece, constant_of_pathPiece? hpiece⟩
      | none =>
        cases l with
        | string value raw =>
          exact alike_bind hbase fun p q h => alike_pure (propertyPiece_same h.flags rfl)
        | _ =>
          refine alike_bind hbase fun p q h => ?_
          refine alike_bind (literal_alike o o' _) fun p' q' h' => ?_
          exact alike_pure (propertyPiece_same h.flags h'.flags)
    | _ =>
      refine alike_bind hbase fun p q h => ?_
      refine alike_bind (expr_alike false _) fun p' q' h' => ?_
      exact alike_pure (propertyPiece_same h.flags h'.flags)
  | .call _ callee args => by
    simp only [Expr.bare, expr]
    refine alike_bind (exprs_alike args) fun ps qs h => ?_
    rw [Expr.unwrap_bare, Expr.isAssignable_bare]
    split
    · refine alike_bind (place_alike callee) fun p q h' => ?_
      cases h' with
      | name n => exact alike_pure (bareCall_same n (flagsOf_eq h.flags))
      | property howner hkey =>
        exact alike_pure ⟨by simp only [methodCall, howner, hkey, flagsOf_eq h.flags], rfl, rfl⟩
    · refine alike_bind (expr_alike true callee) fun p q h' => ?_
      exact alike_pure ⟨by simp only [valueCall, h'.flags, flagsOf_eq h.flags], rfl, rfl⟩
  | .pipe _ entity _ chain => by
    simp only [Expr.bare, expr]
    exact alike_bind (expr_alike false entity) fun p q h => decorators_alike chain h
  | .array _ es => by
    simp only [Expr.bare, expr]
    refine alike_bind (exprs_alike es) fun ps qs h => alike_pure ?_
    exact (sequence_same h ", ").with_text _ _
  | .object _ ps => by
    simp only [Expr.bare, expr]
    refine alike_bind (object_alike ps) fun xs ys h => alike_pure ?_
    exact ⟨flagsOf_eq h.flags, List.all_map.symm.trans h.left, List.all_map.symm.trans h.right⟩
  | .seq _ es => by
    simp only [Expr.bare, expr]
    refine alike_bind (exprs_alike es) fun ps qs h => alike_pure ?_
    exact (sequence_same h ", ").with_text _ _
  | .unary _ op e => by
    simp only [Expr.bare, expr]
    exact alike_bind (expr_alike false e) fun p q h => alike_pure (h.with_text _ _)
  | .binary _ op l r | .logical _ op l r => by
    simp only [Expr.bare, expr]
    refine alike_bind (expr_alike false l) fun p q h => ?_
    refine alike_bind (expr_alike false r) fun p' q' h' => alike_pure ?_
    have hboth := h.cons (h'.cons sameAll_nil)
    rw [Bool.and_true] at hboth
    exact sequence_same hboth _
  | .cond _ t c a => by
    simp only [Expr.bare, expr]
    refine alike_bind (expr_alike false t) fun p q h => ?_
    refine alike_bind (expr_alike false c) fun p' q' h' => ?_
    refine alike_bind (expr_alike false a) fun p'' q'' h'' => alike_pure ?_
    have hall := h.cons (h'.cons (h''.cons sameAll_nil))
    rw [Bool.and_true, ← Bool.and_assoc] at hall
    exact (sequence_same hall "").with_text _ _
  | .paren _ e => by
    simp only [Expr.bare, expr]
    refine alike_bind (expr_alike bare e) fun p q h => alike_pure ?_
    cases bare
    · exact h.with_text _ _
    · exact h
  | .assign _ op target value => by
    simp only [Expr.bare, expr]
    refine alike_bind (place_alike target) fun p q h => ?_
    refine alike_bind (expr_alike false value) fun p' q' h' => alike_pure ?_
    exact ⟨by simp only [h.flags_eq, h'.flags], rfl, rfl⟩
  | .update s op before target => by
    simp only [Expr.bare, expr]
    exact alike_bind (place_alike target) fun p q h => alike_pure ⟨h.flags_eq, rfl, rfl⟩

theorem exprs_alike : ∀ es : List Expr,
    Alike (Piece.SameAll (Expr.areClosed es)) (exprs o es) (exprs o' (Expr.bareList es))
  | [] => alike_pure sameAll_nil
  | e :: es => by
    simp only [Expr.bareList, exprs]
    refine alike_bind (expr_alike false e) fun p q h => ?_
    exact alike_bind (exprs_alike es) fun ps qs h' => alike_pure (h.cons h')

theorem object_alike : ∀ ps : List Property,
    Alike (fun xs ys => Piece.SameAll (Property.areClosed ps) (xs.map (·.2)) (ys.map (·.2)))
      (object o ps) (object o' (Property.bareList ps))
  | [] => alike_pure sameAll_nil
  | .mk key value :: ps => by
    simp only [Property.bareList, object]
    refine alike_bind (expr_alike false value) fun p q h => ?_
    exact alike_bind (object_alike ps) fun xs ys h' => alike_pure (h.cons h')

theorem decorators_alike : ∀ (chain : List Decorator) {closed : Bool} {p q : Piece},
    p.Same closed q →
    Alike (Piece.Same (closed && chain.all fun d => isBindingMark d.name)) (decorators o p chain)
      (decorators o' q (Decorator.bareList chain))
  | [], _, _, _, h => alike_pure (by rwa [List.all_nil, Bool.and_true])
  | .mk at_ name args parens :: ds, closed, p, q, h => by
    simp only [Decorator.bareList, decorators, List.all_cons, Decorator.name]
    by_cases hmark : isBindingMark name
    · rw [if_pos hmark, if_pos hmark, hmark, Bool.true_and]
      exact decorators_alike ds h
    · rw [if_neg hmark, if_neg hmark, Bool.eq_false_iff.mpr hmark, Bool.false_and, Bool.and_false]
      have hgo : Alike (Piece.Same false)
          (do decorators o (decorated name p (← exprs o args)) ds)
          (do
            let ps ← exprs o' (Expr.bareList args)
            decorators o' (decorated name q ps) (Decorator.bareList ds)) := by
        refine alike_bind (exprs_alike args) fun ps qs h' => ?_
        have hdecorated : Piece.Same false (decorated name p ps) (decorated name q qs) :=
          ⟨by simp only [decorated, h.flags, flagsOf_eq h'.flags], rfl, rfl⟩
        have hrest := decorators_alike ds hdecorated
        rwa [Bool.false_and] at hrest
      rw [← ho]
      cases o.decorators with
      | none => exact hgo
      | some known =>
        cases hknown : known.contains name with
        | true =>
          simp only [hknown]
          exact hgo
        | false =>
          simp only [hknown]
          exact alike_throw _ _

theorem place_alike : ∀ e : Expr, Alike Place.Same (place o e) (place o' e.bare)
  | .ident _ name => alike_pure (.name name)
  | .member _ base _ name => by
    simp only [Expr.bare, place]
    exact alike_bind (expr_alike false base) fun p q h => alike_pure (.property h.flags rfl)
  | .index _ base key => by
    have hbase := expr_alike false base
    have hgeneral : Alike Place.Same
        (do return Place.property (← expr o false base) (← expr o false key))
        (do return Place.property (← expr o' false base.bare) (← expr o' false key.bare)) :=
      alike_bind hbase fun p q h =>
        alike_bind (expr_alike false key) fun p' q' h' => alike_pure (.property h.flags h'.flags)
    cases key with
    | lit ls l =>
      cases l with
      | string value raw =>
        simp only [Expr.bare, place]
        exact alike_bind hbase fun p q h => alike_pure (.property h.flags rfl)
      | _ => exact hgeneral
    | _ => exact hgeneral
  | .paren _ inner => place_alike inner
  | .lit _ _ | .this _ | .call _ _ _ | .pipe _ _ _ _ | .array _ _ | .object _ _ | .seq _ _
  | .unary _ _ _ | .binary _ _ _ _ | .logical _ _ _ _ | .cond _ _ _ _ | .assign _ _ _ _
  | .update _ _ _ _ => alike_throw _ _
end

end

end Code

end Trellis
