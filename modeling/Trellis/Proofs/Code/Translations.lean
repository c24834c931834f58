/-
Whether an expression asks for a translation.

Two parts of the program answer this.  Annotating looks for a call of the translation function by
its bare name among the nodes of a program (`Node.callsTranslation`).  Compiling collects it among
the flags; it looks through parentheses around what is called, and leaves out what a binding mark is
given.  For programs that do not call the translation function in parentheses, what marks are given
is all in which the two differ (`Code.value_callsTranslation`).
-/
import Trellis.Proofs.Code.Flags

namespace Trellis

namespace Node

/-- A node that does not call the translation function in parentheses. -/
def callsPlainly : Node → Bool
  | .expr (.call _ (.paren _ inner) _) =>
    (Node.expr inner.unwrap).ident? != some translationFunction
  | _ => true

/-- A binding mark that is given a translation. -/
def isGivenTranslation : Node → Bool
  | .decorator (.mk _ name args _) =>
    isBindingMark name && (Expr.nodesList args).any isTranslationCall
  | _ => false

/-- A node that asks for a translation, or is given one. -/
def concernsTranslation (n : Node) : Bool := n.isTranslationCall || n.isGivenTranslation

/-! ### What marks are given -/

/-- What is given to a mark among the nodes is asked for by a node among them. -/
def Given (ns : List Node) : Prop := ns.any isGivenTranslation = true →
    ns.any isTranslationCall = true

namespace Given

variable {ns ms : List Node} {n : Node}

lemma append (h : Given ns) (h' : Given ms) : Given (ns ++ ms) := by
  rw [Given, List.any_append, List.any_append, Bool.or_eq_true, Bool.or_eq_true]
  exact Or.imp h h'

lemma snoc (h : Given ns) (hn : n.isGivenTranslation = false) : Given (ns ++ [n]) := by
  refine h.append fun hmark => ?_
  rw [List.any_cons, hn] at hmark
  cases hmark

lemma decorator (s : Span) (name : String) {args : List Expr} (parens : Bool)
    (h : Given (Expr.nodesList args)) :
    Given (Expr.nodesList args ++ [Node.decorator (.mk s name args parens)]) := by
  rw [Given, List.any_append, List.any_append, Bool.or_eq_true, Bool.or_eq_true]
  rintro (hmark | hmark)
  · exact .inl (h hmark)
  · rw [List.any_cons, List.any_nil, Bool.or_false, isGivenTranslation, Bool.and_eq_true] at hmark
    exact .inl hmark.2

end Given

mutual
/-- What a mark in an expression is given is a part of the expression. -/
theorem given_expr : ∀ e : Expr, Given e.nodes
  | .this _ | .ident _ _ | .lit _ _ => nofun
  | .array _ es | .seq _ es => (given_exprs es).snoc rfl
  | .object _ ps => (given_properties ps).snoc rfl
  | .unary _ _ e | .update _ _ _ e | .member _ e _ _ | .paren _ e => (given_expr e).snoc rfl
  | .binary _ _ l r | .logical _ _ l r | .assign _ _ l r | .index _ l r =>
    ((given_expr l).append (given_expr r)).snoc rfl
  | .cond _ t c a => (((given_expr t).append (given_expr c)).append (given_expr a)).snoc rfl
  | .call _ f args => ((given_expr f).append (given_exprs args)).snoc rfl
  | .pipe s e cs ds => by
    rw [Expr.nodes, List.append_cons]
    exact (((given_expr e).append (given_decorators ds)).snoc rfl).snoc rfl

theorem given_exprs : ∀ es : List Expr, Given (Expr.nodesList es)
  | [] => nofun
  | e :: es => (given_expr e).append (given_exprs es)

theorem given_properties : ∀ ps : List Property, Given (Property.nodesList ps)
  | [] => nofun
  | .mk _ e :: ps => (given_expr e).append (given_properties ps)

theorem given_decorators : ∀ ds : List Decorator, Given (Decorator.nodesList ds)
  | [] => nofun
  | .mk s name args parens :: ds =>
    ((given_exprs args).decorator s name parens).append (given_decorators ds)
end

/-! ### What is detected -/

/-- If no node calls in parentheses, `asked` says whether one of them calls the translation
function, but for what marks are given. -/
def Detects (ns : List Node) (asked : Bool) : Prop :=
  ns.all callsPlainly = true → ns.any isTranslationCall = (asked || ns.any isGivenTranslation)

namespace Detects

variable {ns ms : List Node} {b c : Bool} {n : Node}

lemma of_none (h : ns.any concernsTranslation = false) : Detects ns false := by
  intro _
  simp only [List.any_eq_false, concernsTranslation, Bool.or_eq_true, not_or] at h
  rw [Bool.false_or, List.any_eq_false.2 fun n hn => (h n hn).1, List.any_eq_false.2 fun n hn =>
    (h n hn).2]

lemma nil : Detects [] false := of_none rfl

lemma append (h : Detects ns b) (h' : Detects ms c) : Detects (ns ++ ms) (b || c) := by
  intro hplain
  rw [List.all_append, Bool.and_eq_true] at hplain
  rw [List.any_append, List.any_append, h hplain.1, h' hplain.2]
  ac_rfl

/-- A node behind the others that has nothing to do with translations. -/
lemma snoc (h : Detects ns b) (hn : n.concernsTranslation = false) : Detects (ns ++ [n]) b := by
  have hlast : Detects [n] false := of_none (by rw [List.any_cons, hn, List.any_nil, Bool.or_false])
  have hboth := h.append hlast
  rwa [Bool.or_false] at hboth

/-- What the first nodes ask for is asked for once more. -/
lemma or_left (h : Detects (ns ++ ms) b) (h' : Detects ns c) : Detects (ns ++ ms) (b || c) := by
  intro hplain
  have hleft := (Bool.and_eq_true_iff.1 (List.all_append.symm.trans hplain)).1
  have hall := h hplain
  cases c with
  | false => rwa [Bool.or_false]
  | true =>
    rw [List.any_append, h' hleft, Bool.true_or, Bool.true_or, Bool.or_true, Bool.true_or]

lemma of_unwrap {e : Expr} (h : Detects e.unwrap.nodes b) : Detects e.nodes b := by
  fun_induction Expr.unwrap e with
  | case1 s inner ih => exact (ih h).snoc rfl
  | case2 e _ => exact h

/-- A mark and what it is given, which is not compiled. -/
lemma snoc_mark {s : Span} {name : String} {args : List Expr} {parens : Bool} (h : Detects ns b)
    (hmark : isBindingMark name = true) :
    Detects (ns ++ Decorator.nodes (.mk s name args parens)) b := by
  intro hplain
  rw [List.all_append, Bool.and_eq_true] at hplain
  have hgiven : (Decorator.nodes (.mk s name args parens)).any isTranslationCall =
      (Decorator.nodes (.mk s name args parens)).any isGivenTranslation := by
    refine Bool.eq_iff_iff.2 ⟨fun hcall => ?_, (given_exprs args).decorator s name parens⟩
    have hargs : (Expr.nodesList args).any isTranslationCall = true := by
      simpa [Decorator.nodes, isTranslationCall] using hcall
    simp [Decorator.nodes, isGivenTranslation, hmark, hargs]
  rw [List.any_append, List.any_append, h hplain.1, hgiven, Bool.or_assoc]

end Detects

/-- A call by its bare name is one of the translation function if that is the name. -/
lemma isTranslationCall_call (s : Span) (callee : Expr) (args : List Expr) :
    (Node.expr (.call s callee args)).isTranslationCall =
      ((Node.expr callee).ident? == some translationFunction) := by
  cases callee with
  | ident s name => exact Bool.eq_iff_iff.2 (by simp [isTranslationCall, ident?])
  | _ => rfl

/-- Parentheses around what is called make no difference, unless they hold the translation function.
-/
lemma ident?_unwrap_of_callsPlainly {s : Span} {callee : Expr} {args : List Expr}
    (h : (Node.expr (.call s callee args)).callsPlainly = true) :
    ((Node.expr callee.unwrap).ident? == some translationFunction) =
      ((Node.expr callee).ident? == some translationFunction) := by
  cases callee with
  | paren s' inner =>
    have hname : ((Node.expr inner.unwrap).ident? != some translationFunction) = true := h
    have hfalse : ((Node.expr inner.unwrap).ident? == some translationFunction) = false := by
      simpa only [bne, Bool.not_eq_true'] using hname
    rw [Expr.unwrap, hfalse]
    rfl
  | _ => rfl

end Node

namespace Code

open Node (Detects)

/-! ### Paths -/

lemma any_nodes_of_path {e : Expr} (hpath : e.path?.isSome = true) :
    e.nodes.any Node.concernsTranslation = false := by
  induction e, hpath using Expr.path_induction with
  | ident s name => rfl
  | member s base ns name hbase ih _ =>
    rw [Expr.nodes, List.any_append, ih]
    rfl
  | index s base s' value raw hbase ih _ =>
    rw [Expr.nodes, Expr.nodes, List.any_append, List.any_append, ih]
    rfl

lemma any_nodes_of_thisPath {e : Expr} {steps : List String} (h : thisPath? e = some steps) :
    e.nodes.any Node.concernsTranslation = false := by
  fun_induction thisPath? e generalizing steps with
  | case1 s s' ns name => rfl
  | case2 s s' ls name raw => rfl
  | case3 s base ns name _ ih =>
    obtain ⟨_, hbase, _⟩ := Option.map_eq_some_iff.1 h
    rw [Expr.nodes, List.any_append, ih hbase]
    rfl
  | case4 s base ls name raw _ ih =>
    obtain ⟨_, hbase, _⟩ := Option.map_eq_some_iff.1 h
    rw [Expr.nodes, Expr.nodes, List.any_append, List.any_append, ih hbase]
    rfl
  | case5 e _ _ _ _ => cases h

/-! ### Flags -/

lemma translation_union (f g : Flags) : (f ∪ g).translation = (f.translation || g.translation) :=
  rfl

/-- What is compiled says of the nodes that it was compiled from whether they ask for a translation.
Constants never do. -/
structure Piece.Reports (ns : List Node) (p : Piece) : Prop where
  detects : Detects ns p.flags.translation
  constant : p.constant = true → p.flags.translation = false

/-- The same of several pieces. -/
structure ReportsAll (ns : List Node) (ps : List Piece) : Prop where
  detects : Detects ns (flagsOf ps).translation
  constant : ps.all (·.constant) = true → (flagsOf ps).translation = false

/-- The name of a place, if it has only that. -/
def Place.name? : Place → Option String
  | .name n => some n
  | .property _ _ => none

/-- A place says so, too, and it is a name where the expression is one. -/
structure Place.Reports (e : Expr) (p : Place) : Prop where
  detects : Detects e.nodes p.flags.translation
  name : p.name? = (Node.expr e.unwrap).ident?

section

variable {ns ms : List Node} {n : Node} {p q : Piece} {ps : List Piece} {e : Expr}

/-- A piece that is not constant. -/
lemma Piece.Reports.of_detects (h : Detects ns p.flags.translation)
    (hconstant : p.constant = false) : p.Reports ns :=
  ⟨h, fun h => absurd h (by simp [hconstant])⟩

lemma Piece.Reports.snoc (h : p.Reports ns) (hn : n.concernsTranslation = false) :
    p.Reports (ns ++ [n]) :=
  ⟨h.detects.snoc hn, h.constant⟩

/-- The text of a piece makes no difference. -/
lemma Piece.Reports.with_text (h : p.Reports ns) (text : String) :
    Piece.Reports ns { p with text } := ⟨h.detects, h.constant⟩

lemma reportsAll_nil : ReportsAll [] [] := ⟨.nil, fun _ => rfl⟩

lemma Piece.Reports.cons (h : p.Reports ns) (h' : ReportsAll ms ps) : ReportsAll (ns ++ ms)
    (p :: ps) := by
  refine ⟨?_, fun hconstant => ?_⟩
  · rw [flagsOf_cons]
    exact h.detects.append h'.detects
  · rw [List.all_cons, Bool.and_eq_true] at hconstant
    rw [flagsOf_cons, translation_union, h.constant hconstant.1, h'.constant hconstant.2]
    rfl

lemma ReportsAll.sequence (h : ReportsAll ns ps) (separator : String) :
    (sequence separator ps).Reports ns :=
  ⟨h.detects, h.constant⟩

/-- A path that is read asks for nothing. -/
lemma reports_pathPiece? (h : pathPiece? e = some p) : p.Reports e.nodes := by
  refine .of_detects ?_ (constant_of_pathPiece? h)
  have hnone : p.flags.translation = false ∧ e.nodes.any Node.concernsTranslation = false := by
    rw [pathPiece?] at h
    cases hpath : e.path? with
    | some steps =>
      rw [hpath] at h
      obtain rfl := Option.some.inj h
      refine ⟨?_, any_nodes_of_path (by rw [hpath]; rfl)⟩
      simp only [dataPath]
      split <;> rfl
    | none =>
      rw [hpath] at h
      obtain ⟨steps, hthis, rfl⟩ := Option.map_eq_some_iff.1 h
      exact ⟨rfl, any_nodes_of_thisPath hthis⟩
  rw [hnone.1]
  exact .of_none hnone.2

lemma reports_property {base key : Expr} {s : Span} (hp : p.Reports base.nodes)
    (hq : q.Reports key.nodes) :
    (propertyPiece p q).Reports (Expr.index s base key).nodes :=
  .of_detects ((hp.detects.append hq.detects).snoc rfl) rfl

/-- A place asks for what the property asks for that is read there. -/
lemma translation_property (p q : Piece) :
    (Place.property p q).flags.translation = (propertyPiece p q).flags.translation :=
  Bool.or_false _

lemma reports_member {base : Expr} {s s' : Span} {name : String} (hp : p.Reports base.nodes) :
    (propertyPiece p (fixedKey name)).Reports (Expr.member s base s' name).nodes := by
  refine .of_detects (Detects.snoc ?_ rfl) rfl
  rw [propertyPiece, translation_union, fixedKey, Bool.or_false]
  exact hp.detects

lemma reports_fixedKey (name : String) (s : Span) (l : Expr.Literal) :
    (fixedKey name).Reports (Expr.lit s l).nodes :=
  ⟨.of_none rfl, fun _ => rfl⟩

lemma reports_literal (o : Options) (s : Span) (l : Expr.Literal) :
    Yields (fun p => p.Reports (Expr.lit s l).nodes) (literal o l) := by
  have hnone : ∀ text, Piece.Reports (Expr.lit s l).nodes { text, constant := true } :=
    fun _ => ⟨.of_none rfl, fun _ => rfl⟩
  cases l with
  | string value raw =>
    rw [literal]
    split
    · refine yields_bind (yields_true _) fun symbols _ => ?_
      exact yields_bind (yields_true _) fun _ _ => yields_pure (hnone _)
    · exact yields_pure (hnone _)
  | _ => exact yields_pure (hnone _)

/-! ### Calls -/

lemma ofName?_eq_translate {name : String} :
    Intrinsic.ofName? name = some .translate ↔ name = translationFunction := by
  constructor
  · intro h
    exact (by simpa using List.find?_some h : Intrinsic.translate.name = name).symm
  · rintro rfl
    rfl

lemma translation_identifier (name : String) : (identifier name).flags.translation = false := by
  simp only [identifier]
  split <;> rfl

/-- The call of a function by its name asks for a translation if that is the translation function.
-/
lemma translation_bareCall (name : String) (ps : List Piece) :
    (bareCall name ps).flags.translation =
    ((flagsOf ps).translation || some name == some translationFunction) := by
  rw [bareCall]
  split
  · next i hi =>
    by_cases hname : name = translationFunction
    · subst hname
      obtain rfl : i = .translate := Option.some.inj (hi.symm.trans rfl)
      rfl
    · have hne : i ≠ .translate := fun h => hname (ofName?_eq_translate.1 (h ▸ hi))
      have hfalse : (some name == some translationFunction) = false := by simpa using hname
      rw [hfalse]
      cases i with
      | translate => exact absurd rfl hne
      | _ => rfl
  · next hi =>
    have hname : name ≠ translationFunction := fun h => by
      rw [ofName?_eq_translate.2 h] at hi; cases hi
    have hfalse : (some name == some translationFunction) = false := by simpa using hname
    rw [hfalse, translation_union, translation_union, translation_identifier]
    simp

lemma constant_bareCall (name : String) (ps : List Piece) :
    (bareCall name ps).constant = false := by
  rw [bareCall]
  split
  · next i _ => cases i <;> rfl
  · rfl

/-- What is compiled of a call says whether its parts ask for a translation, and whether what is
called is the translation function. -/
lemma reports_call {s : Span} {callee : Expr} {args : List Expr} {b : Bool}
    (hcallee : Detects callee.nodes b)
    (hargs : ReportsAll (Expr.nodesList args) ps) (hconstant : p.constant = false)
    (hp : p.flags.translation = (b || (flagsOf ps).translation ||
      (Node.expr callee.unwrap).ident? == some translationFunction)) :
      p.Reports (Expr.call s callee args).nodes := by
  refine .of_detects ?_ hconstant
  intro hplain
  rw [Expr.nodes, List.all_append, Bool.and_eq_true] at hplain
  have hcall : (Node.expr (.call s callee args)).callsPlainly = true := by simpa using hplain.2
  have hparts := (hcallee.append hargs.detects) hplain.1
  have hgiven : (Node.expr (.call s callee args)).isGivenTranslation = false := rfl
  simp only [Expr.nodes, List.any_append] at hparts ⊢
  rw [hparts, hp, Node.ident?_unwrap_of_callsPlainly hcall,
    ← Node.isTranslationCall_call s callee args]
  simp only [List.any_cons, List.any_nil, Bool.or_false, hgiven]
  ac_rfl

end

variable (o : Options)

mutual
/-- What an expression is compiled to says whether the expression asks for a translation. -/
theorem expr_reports (bare : Bool) : ∀ e : Expr, Yields (fun p => p.Reports e.nodes) (expr o bare e)
  | .lit s l => by
    rw [expr]
    exact reports_literal o s l
  | .this _ => yields_pure ⟨.of_none rfl, nofun⟩
  | .ident _ name => by
    refine yields_pure ⟨?_, fun _ => translation_identifier name⟩
    rw [translation_identifier]
    exact .of_none rfl
  | .member s base ns name => by
    rw [expr]
    cases hpiece : pathPiece? (.member s base ns name) with
    | some p => exact yields_pure (reports_pathPiece? hpiece)
    | none =>
      exact yields_bind (expr_reports false base) fun p hp => yields_pure (reports_member hp)
  | .index s base key => by
    have hbase := expr_reports false base
    cases key with
    | lit ls l =>
      simp only [expr]
      cases hpiece : pathPiece? (.index s base (.lit ls l)) with
      | some p => exact yields_pure (reports_pathPiece? hpiece)
      | none =>
        cases l with
        | string value raw =>
          exact yields_bind hbase fun p hp =>
            yields_pure (reports_property hp (reports_fixedKey _ ls _))
        | _ =>
          refine yields_bind hbase fun p hp => ?_
          exact yields_bind (reports_literal o ls _) fun q hq =>
            yields_pure (reports_property hp hq)
    | _ =>
      refine yields_bind hbase fun p hp => ?_
      exact yields_bind (expr_reports false _) fun q hq => yields_pure (reports_property hp hq)
  | .call s callee args => by
    rw [expr]
    refine yields_bind (exprs_reports args) fun ps hps => ?_
    split
    · refine yields_bind (place_reports callee) fun p hp => ?_
      cases p with
      | name n =>
        have hname : some n = (Node.expr callee.unwrap).ident? := hp.name
        refine yields_pure (reports_call hp.detects hps (constant_bareCall n ps) ?_)
        rw [translation_bareCall, hname]
        rfl
      | property owner key =>
        have hname : none = (Node.expr callee.unwrap).ident? := hp.name
        refine yields_pure (reports_call hp.detects hps rfl ?_)
        rw [← hname]
        simp [methodCall, Place.flags, translation_union]
    next hassignable =>
      refine yields_bind (expr_reports true callee) fun fn hfn => yields_pure ?_
      refine reports_call hfn.detects hps rfl ?_
      have hname : (Node.expr callee.unwrap).ident? = none := by
        cases hunwrap : callee.unwrap with
        | ident s n => exact absurd (by rw [hunwrap]; rfl) hassignable
        | _ => rfl
      rw [hname]
      simp [valueCall, translation_union]
  | .pipe s entity cs chain => by
    rw [expr]
    refine yields_bind (expr_reports false entity) fun p hp => ?_
    intro t q hq
    have hchain := (decorators_reports chain p t q hq) entity.nodes hp
    have hpipe : q.Reports (entity.nodes ++ Decorator.nodesList chain ++ [.chain cs chain] ++
      [.expr (.pipe s entity cs chain)]) :=
      (hchain.snoc rfl).snoc rfl
    rwa [List.append_assoc _ [_] [_]] at hpipe
  | .array _ es => by
    rw [expr]
    exact yields_bind (exprs_reports es) fun ps hps =>
      yields_pure (((hps.sequence ", ").with_text _).snoc rfl)
  | .object _ props => by
    rw [expr]
    refine yields_bind (object_reports props) fun xs hxs =>
      yields_pure (Piece.Reports.snoc ⟨hxs.detects, fun h => ?_⟩ rfl)
    exact hxs.constant (List.all_map.trans h)
  | .seq _ es => by
    rw [expr]
    exact yields_bind (exprs_reports es) fun ps hps =>
      yields_pure (((hps.sequence ", ").with_text _).snoc rfl)
  | .unary _ op e => by
    rw [expr]
    exact yields_bind (expr_reports false e) fun p hp => yields_pure ((hp.with_text _).snoc rfl)
  | .binary _ op l r | .logical _ op l r => by
    rw [expr]
    refine yields_bind (expr_reports false l) fun p hp => ?_
    refine yields_bind (expr_reports false r) fun q hq => yields_pure (Piece.Reports.snoc ?_ rfl)
    have hboth := (hp.cons (hq.cons reportsAll_nil)).sequence (" " ++ op.text ++ " ")
    rwa [List.append_nil] at hboth
  | .cond _ t c a => by
    rw [expr]
    refine yields_bind (expr_reports false t) fun p hp => ?_
    refine yields_bind (expr_reports false c) fun q hq => ?_
    refine yields_bind (expr_reports false a) fun r hr => yields_pure (Piece.Reports.snoc ?_ rfl)
    have hall := (hp.cons (hq.cons (hr.cons reportsAll_nil))).sequence ""
    rw [List.append_nil, ← List.append_assoc] at hall
    exact hall.with_text _
  | .paren _ e => by
    rw [expr]
    refine yields_bind (expr_reports bare e) fun p hp => yields_pure (Piece.Reports.snoc ?_ rfl)
    cases bare
    · exact hp.with_text _
    · exact hp
  | .assign _ op target value => by
    rw [expr]
    refine yields_bind (place_reports target) fun p hp => ?_
    refine yields_bind (expr_reports false value) fun q hq => yields_pure ?_
    exact .of_detects ((hp.detects.append hq.detects).snoc rfl) rfl
  | .update s op before target => by
    rw [expr]
    exact yields_bind (place_reports target) fun p hp =>
      yields_pure (.of_detects (hp.detects.snoc rfl) rfl)

theorem exprs_reports : ∀ es : List Expr, Yields (fun ps => ReportsAll (Expr.nodesList es) ps)
    (exprs o es)
  | [] => yields_pure reportsAll_nil
  | e :: es => by
    rw [exprs]
    refine yields_bind (expr_reports false e) fun p hp => ?_
    exact yields_bind (exprs_reports es) fun ps hps => yields_pure (hp.cons hps)

theorem object_reports : ∀ props : List Property,
    Yields (fun xs => ReportsAll (Property.nodesList props) (xs.map (·.2))) (object o props)
  | [] => yields_pure reportsAll_nil
  | .mk key value :: props => by
    rw [object]
    refine yields_bind (expr_reports false value) fun p hp => ?_
    exact yields_bind (object_reports props) fun xs hxs => yields_pure (hp.cons hxs)

/-- A chain of decorators adds to what the value before it asks for. -/
theorem decorators_reports : ∀ (chain : List Decorator) (p : Piece), Yields (fun q =>
    ∀ ns, p.Reports ns →
    q.Reports (ns ++ Decorator.nodesList chain)) (decorators o p chain)
  | [], p => yields_pure fun ns hp => by rwa [Decorator.nodesList, List.append_nil]
  | .mk at_ name args parens :: chain, p => by
    rw [decorators]
    by_cases hmark : isBindingMark name
    · rw [if_pos hmark]
      intro t q hq ns hp
      rw [Decorator.nodesList, ← List.append_assoc]
      exact decorators_reports chain p t q hq _ ⟨hp.detects.snoc_mark hmark, hp.constant⟩
    · have hgo : Yields (fun q => ∀ ns, p.Reports ns →
        q.Reports (ns ++ Decorator.nodesList (.mk at_ name args parens :: chain)))
          (do decorators o (decorated name p (← exprs o args)) chain) := by
        refine yields_bind (exprs_reports args) fun ps hps => ?_
        intro t q hq ns hp
        rw [Decorator.nodesList, ← List.append_assoc]
        refine decorators_reports chain _ t q hq _ (.of_detects ?_ rfl)
        rw [Decorator.nodes, ← List.append_assoc, decorated, translation_union, Bool.or_false]
        refine (hp.detects.append hps.detects).snoc ?_
        rw [Bool.not_eq_true] at hmark
        simp only [Node.concernsTranslation, Node.isTranslationCall, Node.isGivenTranslation, hmark,
          Bool.false_and,
          Bool.or_false]
      rw [if_neg hmark]
      cases o.decorators with
      | none => exact hgo
      | some known =>
        cases hknown : known.contains name with
        | true =>
          simp only [hknown]
          exact hgo
        | false =>
          simp only [hknown]
          rintro t q ⟨⟩

theorem place_reports : ∀ e : Expr, Yields (fun p => p.Reports e) (place o e)
  | .ident s n => yields_pure ⟨.of_none rfl, rfl⟩
  | .member s base ns n => by
    rw [place]
    refine yields_bind (expr_reports false base) fun p hp => yields_pure ⟨?_, rfl⟩
    rw [translation_property]
    exact (reports_member hp).detects
  | .index s base key => by
    have hbase := expr_reports false base
    have hgeneral : Yields (fun p => p.Reports (.index s base key))
        (do return Place.property (← expr o false base) (← expr o false key)) :=
      yields_bind hbase fun p hp => yields_bind (expr_reports false key) fun q hq =>
        yields_pure ⟨translation_property p q ▸ (reports_property hp hq).detects, rfl⟩
    cases key with
    | lit ls l =>
      cases l with
      | string value raw =>
        refine yields_bind hbase fun p hp => yields_pure ⟨?_, rfl⟩
        rw [translation_property]
        exact (reports_property hp (reports_fixedKey value ls _)).detects
      | _ => exact hgeneral
    | _ => exact hgeneral
  | .paren s inner => by
    rw [place]
    intro t p hp
    obtain ⟨hdetects, hname⟩ := place_reports inner t p hp
    exact ⟨hdetects.snoc rfl, hname⟩
  | .lit _ _ | .this _ | .call _ _ _ | .pipe _ _ _ _ | .array _ _ | .object _ _ | .seq _ _
  | .unary _ _ _ | .binary _ _ _ _ | .logical _ _ _ _ | .cond _ _ _ _ | .assign _ _ _ _
  | .update _ _ _ _ => yields_throw _
end

/-! ### Programs -/

/-- What no statement is, a statement of a program has only in its expression. -/
lemma any_stmtNodes {f : Node → Bool} (hf : ∀ s, f (.stmt s) = false) (body : List Stmt) :
    (body.flatMap Stmt.nodes).any f = (Expr.nodesList (body.filterMap Stmt.expr?)).any f := by
  induction body with
  | nil => rfl
  | cons s body ih =>
    rw [List.flatMap_cons, List.any_append, ih]
    cases s with
    | empty span =>
      rw [Stmt.nodes, List.any_cons, hf, List.any_nil, Bool.false_or, Bool.false_or]
      rfl
    | expr span e =>
      rw [Stmt.nodes, List.any_append, List.any_cons, hf, List.any_nil, Bool.or_false,
        Bool.or_false, ← List.any_append]
      rfl

/-- What a mark in a program is given is a part of the program. -/
lemma given_program (p : Program) : Node.Given p.nodes := by
  refine Node.Given.snoc ?_ rfl
  rw [Node.Given, any_stmtNodes fun _ => rfl, any_stmtNodes fun _ => rfl]
  exact Node.given_exprs p.exprs

/-- A program asks for what its expressions ask for. -/
lemma detects_program {p : Program} {b : Bool} (h : Detects (Expr.nodesList p.exprs) b) :
    Detects (Node.program p).postOrder b := by
  refine Detects.snoc (fun hplain => ?_) rfl
  rw [List.all_eq_not_any_not, any_stmtNodes (fun _ => rfl), ← List.all_eq_not_any_not] at hplain
  rw [any_stmtNodes fun _ => rfl, any_stmtNodes fun _ => rfl]
  exact h hplain

/-- What a program is compiled to says whether it asks for a translation. -/
lemma program_reports (p : Program) : Yields (fun v => v.Reports (Expr.nodesList p.exprs))
    (program o p) := by
  rw [program]
  split
  next h =>
    rw [h]
    exact yields_pure ⟨.nil, fun _ => rfl⟩
  next e h =>
    rw [h, Expr.nodesList, Expr.nodesList, List.append_nil]
    exact expr_reports o false e
  next es h =>
    exact yields_bind (exprs_reports o p.exprs) fun ps hps => yields_pure (hps.sequence "; ")

/-- **Translations are noticed.** A program that does not call the translation function in
parentheses calls it exactly if what it is compiled to for its value depends on translations, or a
mark in it is given one.  What is constant depends on no translation. -/
theorem value_callsTranslation (field : String) (forced : Bool) (p : Program) :
    Yields (fun f => (p.nodes.all Node.callsPlainly = true →
      (Node.program p).callsTranslation = (f.flags.translation ||
      p.nodes.any Node.isGivenTranslation)) ∧
        (f.constant = true → f.flags.translation = false)) (value o field forced p) := by
  suffices h : Yields (fun f => Detects (Expr.nodesList p.exprs) f.flags.translation ∧
      (f.constant = true → f.flags.translation = false)) (value o field forced p) from
    fun s f hf => ⟨detects_program (h s f hf).1, (h s f hf).2⟩
  rw [value]
  split
  next entity chain mark hmarked =>
    obtain ⟨e, s, inner, cs, hexprs, hunwrap, rfl⟩ := exprs_of_markedPipe hmarked
    refine yields_bind (yields_true _) fun b _ => yields_bind (place_reports o _) fun at_ hat => ?_
    refine yields_bind (expr_reports o false _) fun v hv =>
      yields_bind (decorators_reports o chain v) fun w hw => ?_
    refine yields_pure ⟨?_, fun hconstant => by cases hconstant⟩
    have hinner : v.Reports inner.nodes := ⟨hv.detects.of_unwrap, hv.constant⟩
    rw [hexprs, Expr.nodesList, Expr.nodesList, List.append_nil]
    refine Detects.of_unwrap ?_
    rw [hunwrap, Expr.nodes, List.append_cons, translation_union]
    exact (((hw _ hinner).detects.or_left hat.detects.of_unwrap).snoc rfl).snoc rfl
  next =>
    refine yields_bind (program_reports o p) fun v hv => yields_pure ⟨hv.detects, fun hconstant =>
      ?_⟩
    exact hv.constant (Bool.and_eq_true_iff.1 hconstant).1

end Code

end Trellis
