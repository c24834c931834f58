/-
Walking over a program visits each node once.

A node is written with nodes and names: the name behind a dot, the name of a property of an object
and the name of a decorator are names.  Together these are the constituents of the node, and its
children are those of them that are nodes.  A place is the way to a constituent from the root, one
index for each step down.  Equal nodes of a tree stand at different places, so places tell what is
visited: the walk goes through the places of all nodes and of no name, in the order in which places
come before one another (`Visits`, `Node.walk_follows_children`).
-/
import Mathlib.Tactic.Common
import Trellis.Expr.Names

namespace Trellis

/-- What a node is written with: a node below it, or a name, which is no node. -/
inductive Constituent where
  | node (n : Node)
  /-- the name behind the dot of a property -/
  | property (span : Span) (name : String)
  /-- the name of a property of an object -/
  | key (k : Expr.Key)
  /-- the name of a decorator -/
  | decorator (name : String)

/-- The constituents of a node, in the order in which they are written. -/
def Node.constituents : Node → List Constituent
  | .expr (.object _ ps) => ps.flatMap fun p => [.key p.key, .node (.expr p.value)]
  | .expr (.member _ o span name) => [.node (.expr o), .property span name]
  | .decorator d => .decorator d.name :: d.arguments.map fun e => .node (.expr e)
  | n => n.children.map .node

namespace Constituent

/-- The node that a constituent is. -/
def node? : Constituent → Option Node
  | node n => some n
  | _ => none

/-- The constituent at a place. -/
def at? : Constituent → List Nat → Option Constituent
  | c, [] => some c
  | node n, i :: place => n.constituents[i]?.bind fun c => c.at? place
  | _, _ :: _ => none

/-- The constituent at a place below one of a list. -/
def among? (cs : List Constituent) : List Nat → Option Constituent
  | [] => none
  | i :: place => cs[i]?.bind fun c => c.at? place

end Constituent

open Constituent (node? among?)

/-! ### Children -/

lemma Expr.nodesList_eq (es : List Expr) : Expr.nodesList es = es.flatMap Expr.nodes := by
  induction es with
  | nil => rfl
  | cons e es ih => rw [Expr.nodesList, ih, List.flatMap_cons]

lemma Property.nodesList_eq (ps : List Property) :
    Property.nodesList ps = ps.flatMap fun p => p.value.nodes := by
  induction ps with
  | nil => rfl
  | cons p ps ih =>
    cases p
    rw [Property.nodesList, Property.nodes, ih, List.flatMap_cons, Property.value]

lemma Decorator.nodesList_eq (ds : List Decorator) :
    Decorator.nodesList ds = ds.flatMap Decorator.nodes := by
  induction ds with
  | nil => rfl
  | cons d ds ih => rw [Decorator.nodesList, ih, List.flatMap_cons]

namespace Node

/-- The children of a node are its constituents but for the names. -/
lemma children_eq (n : Node) : n.children = n.constituents.filterMap node? := by
  have hnodes : ∀ {α : Type} (f : α → Node) (xs : List α),
      (xs.map fun x => Constituent.node (f x)).filterMap node? = xs.map f := fun f xs => by
    rw [List.filterMap_map]
    exact congrFun List.filterMap_eq_map xs
  unfold constituents
  split
  · next ps =>
    rw [List.filterMap_flatMap]
    exact List.map_eq_flatMap
  · rfl
  · next d => exact (hnodes Node.expr d.arguments).symm
  · exact ((hnodes id _).trans (List.map_id _)).symm

/-- The walk goes through the children of a node one after the other, and then to the node. -/
lemma postOrder_eq (n : Node) : n.postOrder = n.children.flatMap postOrder ++ [n] := by
  cases n with
  | program p => simp [postOrder, Program.nodes, children, List.flatMap_map]
  | stmt s => cases s <;> simp [postOrder, Stmt.nodes, children]
  | chain span ds => simp [postOrder, Decorator.nodesList_eq, children, List.flatMap_map]
  | decorator d =>
    cases d
    simp [postOrder, Decorator.nodes, Decorator.arguments, Expr.nodesList_eq, children,
      List.flatMap_map]
  | expr e =>
    cases e <;> simp [postOrder, Expr.nodes, Expr.nodesList_eq, Property.nodesList_eq,
      Decorator.nodesList_eq, children, List.flatMap_map]

lemma length_postOrder_lt {n m : Node} (h : m ∈ n.children) :
    m.postOrder.length < n.postOrder.length := by
  have hle := (List.sublist_flatten_of_mem (List.mem_map_of_mem (f := postOrder) h)).length_le
  rw [postOrder_eq n, List.length_append, List.length_singleton, List.flatMap]
  omega

end Node

/-! ### Places -/

/-- Whether a place comes before another one: what is below a place comes before it, and what is on
the left before what is on the right. -/
def Precedes : List Nat → List Nat → Prop
  | i :: p, j :: q => i < j ∨ i = j ∧ Precedes p q
  | _ :: _, [] => True
  | [], _ => False

/-- The nodes `ns` are those that `find` finds at the places `places`, which are all the places of
nodes. -/
structure Visits (find : List Nat → Option Constituent) (ns : List Node)
    (places : List (List Nat)) : Prop where
  /-- the nodes stand at the places, one by one -/
  found : places.map find = ns.map fun n => some (.node n)
  /-- every place of a node is visited -/
  every : ∀ place n, find place = some (.node n) → place ∈ places
  /-- no place is visited twice, and none before those that precede it -/
  ordered : places.Pairwise Precedes

namespace Visits

variable {n : Node} {c : Constituent} {cs : List Constituent} {ns ms : List Node}
  {ps qs : List (List Nat)}
  {find : List Nat → Option Constituent}

lemma of_none (h : ∀ place n, find place ≠ some (.node n)) : Visits find [] [] :=
  ⟨rfl, fun place n hn => absurd hn (h place n), .nil⟩

/-- The places below the first constituent come before those below the others. -/
lemma cons (h : Visits c.at? ns ps) (h' : Visits (among? cs) ms qs) :
    Visits (among? (c :: cs)) (ns ++ ms) (ps.map (0 :: ·) ++ qs.map (List.modifyHead (· + 1))) := by
  have hnext : among? (c :: cs) ∘ List.modifyHead (· + 1) = among? cs := funext fun q => by
    cases q <;> rfl
  refine ⟨?_, ?_, List.pairwise_append.2 ⟨?_, ?_, ?_⟩⟩
  · rw [List.map_append, List.map_append, List.map_map, List.map_map, hnext, ← h.found, ← h'.found]
    rfl
  · intro place n hn
    match place, hn with
    | 0 :: p, hn => exact List.mem_append_left _ (List.mem_map_of_mem (h.every p n hn))
    | (i + 1) :: p, hn =>
      exact List.mem_append_right _ (List.mem_map.2 ⟨i :: p, h'.every _ n hn, rfl⟩)
  · exact List.pairwise_map.2 (h.ordered.imp fun h => .inr ⟨rfl, h⟩)
  · refine List.pairwise_map.2 (h'.ordered.imp fun {p q} h => ?_)
    match p, q, h with
    | i :: p, [], _ => trivial
    | i :: p, j :: q, h => exact h.imp Nat.succ_lt_succ (And.imp_left (congrArg (· + 1)))
  · intro p hp q hq
    obtain ⟨p, -, rfl⟩ := List.mem_map.1 hp
    obtain ⟨q, -, rfl⟩ := List.mem_map.1 hq
    cases q with
    | nil => trivial
    | cons j q => exact .inl (Nat.succ_pos j)

/-- A node is visited after all nodes below it. -/
lemma node (h : Visits (among? n.constituents) ns ps) : Visits (Constituent.node n).at? (ns ++ [n])
    (ps ++ [[]]) := by
  have hbelow : ∀ p ∈ ps, ∃ i q, p = i :: q := by
    intro p hp
    obtain ⟨m, -, hm⟩ := List.mem_map.1 (h.found ▸ List.mem_map_of_mem hp)
    cases p with
    | nil => cases hm
    | cons i q => exact ⟨i, q, rfl⟩
  refine ⟨?_, ?_, List.pairwise_append.2 ⟨h.ordered, List.pairwise_singleton _ _, fun p hp q hq =>
    ?_⟩⟩
  · rw [List.map_append, List.map_append, ← h.found]
    refine congrArg (· ++ _) (List.map_congr_left fun p hp => ?_)
    obtain ⟨i, q, rfl⟩ := hbelow p hp
    rfl
  · intro place m hm
    cases place with
    | nil => exact List.mem_append_right _ (List.mem_singleton_self _)
    | cons i q => exact List.mem_append_left _ (h.every _ m hm)
  · obtain rfl := List.mem_singleton.1 hq
    obtain ⟨i, q, rfl⟩ := hbelow p hp
    trivial

/-- What is visited below a list of constituents. -/
lemma exists_among : ∀ cs : List Constituent, (∀ n, .node n ∈ cs →
    ∃ ps, Visits (Constituent.node n).at? n.postOrder ps) →
    ∃ ps, Visits (among? cs) ((cs.filterMap node?).flatMap Node.postOrder) ps
  | [], _ => ⟨[], .of_none fun place n => by cases place <;> simp [among?]⟩
  | c :: cs, h => by
    obtain ⟨qs, hqs⟩ := exists_among cs fun n hn => h n (List.mem_cons_of_mem c hn)
    cases c with
    | node n =>
      obtain ⟨ps, hps⟩ := h n List.mem_cons_self
      exact ⟨_, hps.cons hqs⟩
    | _ =>
      refine ⟨_, Visits.cons (.of_none fun place n => ?_) hqs⟩
      cases place <;> simp [Constituent.at?]

end Visits

namespace Node

lemma exists_visits (n : Node) : ∃ places, Visits (Constituent.node n).at? n.postOrder places := by
  obtain ⟨ps, hps⟩ := Visits.exists_among n.constituents fun m hm => exists_visits m
  rw [postOrder_eq, children_eq]
  exact ⟨_, hps.node⟩
termination_by n.postOrder.length
decreasing_by exact length_postOrder_lt (children_eq n ▸ List.mem_filterMap.2 ⟨_, hm, rfl⟩)

/-- **Walking follows the children.** What a walk visits is what it visits below the children of a
node, one after the other, and then the node.  The children are what a node is written with but for
the names.  So each node below the root is visited once, at its place, and no name is: what is below
a node comes before it, and what is below a child before what is below the next one. -/
theorem walk_follows_children (n : Node) :
    n.postOrder = n.children.flatMap postOrder ++ [n] ∧
    n.children = n.constituents.filterMap node? ∧
      ∃ places, Visits (Constituent.node n).at? n.postOrder places :=
  ⟨postOrder_eq n, children_eq n, exists_visits n⟩

end Node

end Trellis
