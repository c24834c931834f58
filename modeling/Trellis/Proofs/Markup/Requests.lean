/-
What a template asks for.

Going through a template one meets the programs of its expressions, the texts that it wants
translated, the modules that it refers to and the inline templates that it defines.
`Node.requestsList` is the list of them, in the order of the text but for calls, where attributes
and options with a type come before contents.  Something holds of all expressions of a template
(`Node.AllOf`) if it holds of the programs in this list (`Markup.allOf_requests`).
-/
import Mathlib.Tactic.Lemma
import Trellis.Markup.Node

namespace Trellis

/-- Something that a place of a template asks for.  The program of an attribute is compiled if the
attribute is a binding or an event; all other programs are. -/
inductive Request where
  | program (p : Program) (isCompiled : Bool)
  | require (path : String)
  | translate (text context : String)
  | define (name : String) (line column : Nat)

/-- The program that is asked for satisfies `P`. -/
def Request.All (P : Program → Prop) : Request → Prop
  | .program p _ => P p
  | .require _ | .translate _ _ | .define _ _ _ => True

/-! ### The expressions of a template -/

namespace Markup

/-- The expressions of a text satisfy `P`. -/
def TextAll (P : Program → Prop) (ss : List Segment) : Prop :=
  ∀ s ∈ ss, ∀ source p, s.content = .expression source p → P p

/-- The expressions of the value of an attribute satisfy `P`. -/
def AttrValue.All (P : Program → Prop) : AttrValue → Prop
  | .segments ss => TextAll P ss
  | .program p => P p

/-- The expressions of attributes satisfy `P`. -/
def AttrsAll (P : Program → Prop) (attrs : List Attribute) : Prop := ∀ a ∈ attrs, a.value.All P

/-- The target of a partial satisfies `P` if it is evaluated. -/
def PartialTarget.All (P : Program → Prop) : PartialTarget → Prop
  | .inline _ | .static _ => True
  | .dynamic p => P p

/-- A program that may be left out satisfies `P`. -/
def ClauseAll (P : Program → Prop) (clause : Option Program) : Prop := ∀ p ∈ clause, P p

mutual
/-- The expressions of a typed value satisfy `P`. -/
def TypedValue.All (P : Program → Prop) : TypedValue → Prop
  | .scalar _ ss => TextAll P ss
  | .array items => TypedValue.AllOf P items
  | .object properties => TypedOption.AllOf P properties

def TypedValue.AllOf (P : Program → Prop) : List TypedValue → Prop
  | [] => True
  | v :: vs => v.All P ∧ TypedValue.AllOf P vs

def TypedOption.AllOf (P : Program → Prop) : List TypedOption → Prop
  | [] => True
  | .mk _ _ v :: os => v.All P ∧ TypedOption.AllOf P os
end

mutual
/-- The expressions of a node satisfy `P`. -/
def Node.All (P : Program → Prop) : Node → Prop
  | .text _ ss => TextAll P ss
  | .element _ _ attrs children _ => AttrsAll P attrs ∧ Node.AllOf P children
  | .component _ _ attrs os cs => AttrsAll P attrs ∧ TypedOption.AllOf P os ∧ Content.AllOf P cs
  | .partialCall _ target attrs os cs =>
    target.All P ∧ AttrsAll P attrs ∧ TypedOption.AllOf P os ∧ Content.AllOf P cs
  | .template _ _ children => Node.AllOf P children
  | .branches _ test children others => P test ∧ Node.AllOf P children ∧ Branch.AllOf P others
  | .loop _ init test update _ children =>
    ClauseAll P init ∧ P test ∧ ClauseAll P update ∧ Node.AllOf P children
  | .each _ _ _ collection children => P collection ∧ Node.AllOf P children

def Node.AllOf (P : Program → Prop) : List Node → Prop
  | [] => True
  | n :: ns => n.All P ∧ Node.AllOf P ns

def Branch.AllOf (P : Program → Prop) : List Branch → Prop
  | [] => True
  | .mk _ test children :: bs => ClauseAll P test ∧ Node.AllOf P children ∧ Branch.AllOf P bs

def Content.AllOf (P : Program → Prop) : List Content → Prop
  | [] => True
  | .mk _ _ children :: cs => Node.AllOf P children ∧ Content.AllOf P cs
end

/-! ### What is asked for, in order -/

/-- What a segment of a text asks for. -/
def requestsOf (s : Segment) : List Request :=
  match s.content with
  | .text _ _ => []
  | .expression _ p => [.program p true]
  | .translation text context _ _ => [.translate text context]

/-- What a text asks for. -/
def textRequests (ss : List Segment) : List Request := ss.flatMap requestsOf

def Attribute.requests (a : Attribute) : List Request :=
  match a.value with
  | .segments ss => textRequests ss
  | .program p => [.program p (a.kind == .bind || a.kind == .event)]

def attrsRequests (attrs : List Attribute) : List Request := attrs.flatMap Attribute.requests

def PartialTarget.requests : PartialTarget → List Request
  | .inline _ => []
  | .static path => [.require path]
  | .dynamic p => [.program p true]

def clauseRequests (clause : Option Program) : List Request := clause.toList.map (.program · true)

mutual
/-- What a typed value asks for. -/
def TypedValue.requests : TypedValue → List Request
  | .scalar _ ss => textRequests ss
  | .array items => TypedValue.requestsList items
  | .object properties => TypedOption.requestsList properties

def TypedValue.requestsList : List TypedValue → List Request
  | [] => []
  | v :: vs => v.requests ++ TypedValue.requestsList vs

def TypedOption.requestsList : List TypedOption → List Request
  | [] => []
  | .mk _ _ v :: os => v.requests ++ TypedOption.requestsList os
end

mutual
/-- What a node asks for. -/
def Node.requests : Node → List Request
  | .text _ ss => textRequests ss
  | .element _ _ attrs children _ => attrsRequests attrs ++ Node.requestsList children
  | .component _ name attrs os cs =>
    .require name :: (attrsRequests attrs ++
      (TypedOption.requestsList os ++ Content.requestsList cs))
  | .partialCall _ target attrs os cs =>
    target.requests ++ (attrsRequests attrs ++
      (TypedOption.requestsList os ++ Content.requestsList cs))
  | .template info name children => .define name info.line info.column :: Node.requestsList children
  | .branches _ test children others =>
    .program test true :: (Node.requestsList children ++ Branch.requestsList others)
  | .loop _ init test update _ children =>
    clauseRequests init ++
      (.program test true :: (clauseRequests update ++ Node.requestsList children))
  | .each _ _ _ collection children => .program collection true :: Node.requestsList children

def Node.requestsList : List Node → List Request
  | [] => []
  | n :: ns => n.requests ++ Node.requestsList ns

def Branch.requestsList : List Branch → List Request
  | [] => []
  | .mk _ test children :: bs =>
    clauseRequests test ++ (Node.requestsList children ++ Branch.requestsList bs)

def Content.requestsList : List Content → List Request
  | [] => []
  | .mk _ _ children :: cs => Node.requestsList children ++ Content.requestsList cs
end

/-! ### Lists -/

lemma requestsList_eq_flatMap (ns : List Node) :
    Node.requestsList ns = ns.flatMap Node.requests := by
  induction ns with
  | nil => rfl
  | cons n ns ih => rw [Node.requestsList, ih, List.flatMap_cons]

lemma valueRequestsList_eq_flatMap (vs : List TypedValue) :
    TypedValue.requestsList vs = vs.flatMap TypedValue.requests := by
  induction vs with
  | nil => rfl
  | cons v vs ih => rw [TypedValue.requestsList, ih, List.flatMap_cons]

lemma optionRequestsList_eq_flatMap (os : List TypedOption) :
    TypedOption.requestsList os = os.flatMap (·.value.requests) := by
  induction os with
  | nil => rfl
  | cons o os ih =>
    rcases o with ⟨info, name, v⟩
    rw [TypedOption.requestsList, ih, List.flatMap_cons, TypedOption.value]

lemma branchRequestsList_append (bs cs : List Branch) :
    Branch.requestsList (bs ++ cs) = Branch.requestsList bs ++ Branch.requestsList cs := by
  induction bs with
  | nil => rfl
  | cons b bs ih =>
    rcases b with ⟨info, test, children⟩
    simp only [List.cons_append, Branch.requestsList, ih, List.append_assoc]

lemma contentRequestsList_append (bs cs : List Content) :
    Content.requestsList (bs ++ cs) = Content.requestsList bs ++ Content.requestsList cs := by
  induction bs with
  | nil => rfl
  | cons b bs ih =>
    rcases b with ⟨info, name, children⟩
    simp only [List.cons_append, Content.requestsList, ih, List.append_assoc]

/-- Looking for the only expression of a text, segment by segment. -/
def singleStep (found : Option (Option (String × Program))) (s : Segment) :
    Option (Option (String × Program)) :=
  match found, s.content with
  | some none, .expression source p => some (some (source, p))
  | some found, .text value _ => if Text.isBlankText value then some found else none
  | _, _ => none

lemma single?_eq (ss : List Segment) :
    Segment.single? ss = (ss.foldl singleStep (some none)).join := rfl

/-- What is found in the end was found before, or is asked for once. -/
lemma textRequests_foldl {ss : List Segment} {found : Option (Option (String × Program))}
    {r : String × Program} (h : ss.foldl singleStep found = some (some r)) :
    found = some (some r) ∧ textRequests ss = [] ∨ found = some none ∧
    textRequests ss = [.program r.2 true] := by
  induction ss generalizing found with
  | nil => exact .inl ⟨h, rfl⟩
  | cons s ss ih =>
    rw [textRequests, List.flatMap_cons, ← textRequests]
    obtain ⟨hstep, hrest⟩ | ⟨hstep, hrest⟩ := ih h
    · rw [hrest]
      revert hstep
      fun_cases singleStep found s <;> simp_all [requestsOf]
      rintro rfl
      rfl
    · rw [hrest]
      revert hstep
      fun_cases singleStep found s <;> simp_all [requestsOf]

/-- A text with one expression asks for that only. -/
lemma textRequests_single? {ss : List Segment} {source : String} {p : Program}
    (h : Segment.single? ss = some (source, p)) : textRequests ss = [.program p true] := by
  rw [single?_eq, Option.join_eq_some_iff] at h
  obtain ⟨hfound, -⟩ | ⟨-, hrequests⟩ := textRequests_foldl h
  · cases hfound
  · exact hrequests

/-! ### All expressions are asked for -/

section

variable {P : Program → Prop}

lemma textAll_requests {ss : List Segment} : TextAll P ss ↔ ∀ r ∈ textRequests ss, r.All P := by
  simp only [TextAll, textRequests, List.mem_flatMap, forall_exists_index, and_imp]
  constructor
  · intro h r s hs hr
    unfold requestsOf at hr
    split at hr
    · cases hr
    · next hcontent =>
      obtain rfl := List.mem_singleton.1 hr
      exact h s hs _ _ hcontent
    · obtain rfl := List.mem_singleton.1 hr
      trivial
  · intro h s hs source p hcontent
    exact h (.program p true) s hs (by simp [requestsOf, hcontent])

lemma attrsAll_requests {attrs : List Attribute} : AttrsAll P attrs ↔ ∀ r ∈ attrsRequests attrs,
    r.All P := by
  simp only [AttrsAll, attrsRequests, List.mem_flatMap, forall_exists_index, and_imp]
  refine ⟨fun h r a ha hr => ?_, fun h a ha => ?_⟩
  · have hvalue := h a ha
    unfold Attribute.requests at hr
    split at hr
    · next hss =>
      rw [hss] at hvalue
      exact textAll_requests.1 hvalue r hr
    · next hp =>
      rw [hp] at hvalue
      obtain rfl := List.mem_singleton.1 hr
      exact hvalue
  · have hrequests := fun r => h r a ha
    unfold Attribute.requests at hrequests
    cases hvalue : a.value with
    | segments ss =>
      simp only [hvalue] at hrequests
      exact textAll_requests.2 hrequests
    | program p =>
      simp only [hvalue] at hrequests
      exact hrequests _ (List.mem_singleton_self _)

lemma targetAll_requests {target : PartialTarget} : target.All P ↔ ∀ r ∈ target.requests,
    r.All P := by
  cases target <;> simp [PartialTarget.All, PartialTarget.requests, Request.All]

lemma clauseAll_requests {clause : Option Program} : ClauseAll P clause ↔
    ∀ r ∈ clauseRequests clause, r.All P := by
  cases clause <;> simp [ClauseAll, clauseRequests, Request.All]

mutual
lemma valueAll_requests : ∀ {v : TypedValue}, v.All P ↔ ∀ r ∈ v.requests, r.All P
  | .scalar _ _ => textAll_requests
  | .array _ => valuesAll_requests
  | .object _ => optionsAll_requests

lemma valuesAll_requests : ∀ {vs : List TypedValue}, TypedValue.AllOf P vs ↔
    ∀ r ∈ TypedValue.requestsList vs, r.All P
  | [] => iff_of_true trivial (List.forall_mem_nil _)
  | _ :: _ => (and_congr valueAll_requests valuesAll_requests).trans List.forall_mem_append.symm

lemma optionsAll_requests : ∀ {os : List TypedOption},
    TypedOption.AllOf P os ↔ ∀ r ∈ TypedOption.requestsList os, r.All P
  | [] => iff_of_true trivial (List.forall_mem_nil _)
  | .mk _ _ _ :: _ =>
    (and_congr valueAll_requests optionsAll_requests).trans List.forall_mem_append.symm
end

mutual
lemma all_requests : ∀ {n : Node}, n.All P ↔ ∀ r ∈ n.requests, r.All P
  | .text _ _ => textAll_requests
  | .element _ _ _ _ _ =>
    (and_congr attrsAll_requests allOf_requests).trans List.forall_mem_append.symm
  | .component _ _ _ _ _ => by
    simp only [Node.All, Node.requests, attrsAll_requests, optionsAll_requests,
      contentsAll_requests,
      List.forall_mem_cons, List.forall_mem_append, Request.All, true_and]
  | .partialCall _ _ _ _ _ => by
    simp only [Node.All, Node.requests, targetAll_requests, attrsAll_requests, optionsAll_requests,
      contentsAll_requests, List.forall_mem_append]
  | .template _ _ _ => by
    simp only [Node.All, Node.requests, allOf_requests, List.forall_mem_cons, Request.All, true_and]
  | .branches _ _ _ _ => by
    simp only [Node.All, Node.requests, allOf_requests, branchesAll_requests, List.forall_mem_cons,
      List.forall_mem_append, Request.All]
  | .loop _ _ _ _ _ _ => by
    simp only [Node.All, Node.requests, clauseAll_requests, allOf_requests, List.forall_mem_cons,
      List.forall_mem_append, Request.All]
  | .each _ _ _ _ _ => by
    simp only [Node.All, Node.requests, allOf_requests, List.forall_mem_cons, Request.All]

/-- Something holds of all expressions of a template if it holds of all programs that it asks for.
-/
theorem allOf_requests : ∀ {ns : List Node}, Node.AllOf P ns ↔ ∀ r ∈ Node.requestsList ns, r.All P
  | [] => iff_of_true trivial (List.forall_mem_nil _)
  | _ :: _ => (and_congr all_requests allOf_requests).trans List.forall_mem_append.symm

lemma branchesAll_requests : ∀ {bs : List Branch}, Branch.AllOf P bs ↔ ∀ r ∈ Branch.requestsList bs,
    r.All P
  | [] => iff_of_true trivial (List.forall_mem_nil _)
  | .mk _ _ _ :: _ => by
    simp only [Branch.AllOf, Branch.requestsList, clauseAll_requests, allOf_requests,
      branchesAll_requests,
      List.forall_mem_append]

lemma contentsAll_requests : ∀ {cs : List Content}, Content.AllOf P cs ↔
    ∀ r ∈ Content.requestsList cs, r.All P
  | [] => iff_of_true trivial (List.forall_mem_nil _)
  | .mk _ _ _ :: _ =>
    (and_congr allOf_requests contentsAll_requests).trans List.forall_mem_append.symm
end

end

end Markup

end Trellis
