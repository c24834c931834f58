/-
The identifiers of a program and the paths that it reads.

An expression that reads `a.b[i].c` is cut into the paths `a.b` and `i`.  No identifier is lost
that way: each one is the root of one of the paths (`Program.IsRead.exists_path`).  A path is kept
as a text of its own, and its text is read as a program that is this path and refers to its root
only (`IsPathText.parse`), also when an earlier program with the same text takes its place
(`IsPathText.of_text`).
-/
import Trellis.Expr.Names
import Trellis.Proofs.Expr.RoundTrip

namespace Trellis

open Reading (Level)

/-! ### Names -/

/-- The names of the identifiers among nodes. -/
def Node.names (ns : List Node) : List String := ns.filterMap Node.ident?

@[simp] lemma Node.names_nil : Node.names [] = [] := rfl

@[simp] lemma Node.names_cons (n : Node) (ns : List Node) :
    Node.names (n :: ns) = n.ident?.toList ++ Node.names ns := by
  cases h : n.ident? <;> simp [names, h]

@[simp] lemma Node.names_append (ns ms : List Node) :
    Node.names (ns ++ ms) = Node.names ns ++ Node.names ms := List.filterMap_append

lemma Text.mem_dedup {x : String} {xs : List String} : x ∈ Text.dedup xs ↔ x ∈ xs := by
  suffices h : ∀ acc, x ∈ xs.foldl (fun (acc : List String) x => if acc.contains x then acc
    else x :: acc) acc ↔
      x ∈ acc ∨ x ∈ xs by
    rw [Text.dedup, List.mem_reverse, h]
    simp
  induction xs with
  | nil => simp
  | cons y ys ih =>
    intro acc
    rw [List.foldl_cons, ih]
    by_cases hy : y ∈ acc
    · rw [if_pos (by simpa using hy), List.mem_cons]
      constructor
      · rintro (h | h)
        · exact .inl h
        · exact .inr (.inr h)
      · rintro (h | rfl | h)
        · exact .inl h
        · exact .inl hy
        · exact .inr h
    · rw [if_neg (by simpa using hy)]
      simp only [List.mem_cons]
      tauto

lemma Text.nodup_dedup (xs : List String) : (Text.dedup xs).Nodup := by
  suffices h : ∀ acc : List String, acc.Nodup →
      (xs.foldl (fun acc x => if acc.contains x then acc else x :: acc) acc).Nodup by
    exact (List.reverse_perm _).nodup_iff.2 (h [] List.nodup_nil)
  induction xs with
  | nil => exact fun _ hacc => hacc
  | cons y ys ih =>
    intro acc hacc
    rw [List.foldl_cons]
    refine ih _ ?_
    split
    · exact hacc
    · next hy => exact List.nodup_cons.2 ⟨by simpa using hy, hacc⟩

namespace Program

variable {p q : Program} {x : String}

lemma mem_identifiers : x ∈ p.identifiers ↔ ∃ e ∈ p.exprs, x ∈ Node.names e.nodes := by
  rw [identifiers, Node.identifiers, Text.mem_dedup]
  simp only [Node.postOrder, nodes, exprs, Node.names, List.mem_filterMap, List.mem_append,
    List.mem_flatMap, List.mem_singleton]
  constructor
  · rintro ⟨n, ⟨s, hs, hn⟩ | rfl, hx⟩
    · cases s with
      | empty span =>
        obtain rfl := List.mem_singleton.1 hn
        cases hx
      | expr span e =>
        rcases List.mem_append.1 hn with hn | hn
        · exact ⟨e, ⟨_, hs, rfl⟩, n, hn, hx⟩
        · obtain rfl := List.mem_singleton.1 hn
          cases hx
    · cases hx
  · rintro ⟨e, ⟨s, hs, hse⟩, n, hn, hx⟩
    cases s with
    | empty span => cases hse
    | expr span e' =>
      cases hse
      exact ⟨n, .inl ⟨_, hs, List.mem_append_left _ hn⟩, hx⟩

end Program

/-! ### Names and paths do not depend on how signs are written -/

mutual
lemma Expr.names_spelled : (e : Expr) → Node.names e.spelled.bare.nodes = Node.names e.nodes
  | .this _ | .ident _ _ | .lit _ _ => rfl
  | .array _ es => by
    simp [Expr.spelled, Expr.bare, Expr.nodes, Node.ident?, Expr.namesList_spelled es]
  | .object _ ps => by
    simp [Expr.spelled, Expr.bare, Expr.nodes, Node.ident?, Property.namesList_spelled ps]
  | .seq _ es => by
    simp [Expr.spelled, Expr.bare, Expr.nodes, Node.ident?, Expr.namesList_spelled es]
  | .unary _ _ a => by
    simp [Expr.spelled, Expr.bare, Expr.nodes, Node.ident?, a.names_spelled]
  | .binary _ _ l r | .logical _ _ l r => by
    simp [Expr.spelled, Expr.bare, Expr.nodes, Node.ident?, l.names_spelled, r.names_spelled]
  | .cond _ t c a => by
    simp [Expr.spelled, Expr.bare, Expr.nodes, Node.ident?, t.names_spelled, c.names_spelled,
      a.names_spelled]
  | .assign _ _ t v => by
    simp [Expr.spelled, Expr.bare, Expr.nodes, Node.ident?, t.names_spelled, v.names_spelled]
  | .update _ _ before t => by
    cases before <;> simp [Expr.spelled, Expr.bare, Expr.nodes, Node.ident?, t.names_spelled]
  | .call _ f es => by
    simp [Expr.spelled, Expr.bare, Expr.nodes, Node.ident?, f.names_spelled,
      Expr.namesList_spelled es]
  | .member _ o _ _ => by
    simp [Expr.spelled, Expr.bare, Expr.nodes, Node.ident?, o.names_spelled]
  | .index _ o i => by
    simp [Expr.spelled, Expr.bare, Expr.nodes, Node.ident?, o.names_spelled, i.names_spelled]
  | .pipe _ e _ ds => by
    simp [Expr.spelled, Expr.bare, Expr.nodes, Node.ident?, e.names_spelled,
      Decorator.namesList_spelled ds]
  | .paren _ inner => by
    simp [Expr.spelled, Expr.bare, Expr.nodes, Node.ident?, inner.names_spelled]

lemma Expr.namesList_spelled : (es : List Expr) →
    Node.names (Expr.nodesList (Expr.bareList (Expr.spelledList es))) =
      Node.names (Expr.nodesList es)
  | [] => rfl
  | e :: es => by
    simp [Expr.spelledList, Expr.bareList, Expr.nodesList, e.names_spelled,
      Expr.namesList_spelled es]

lemma Property.namesList_spelled : (ps : List Property) →
    Node.names (Property.nodesList (Property.bareList (Property.spelledList ps))) =
      Node.names (Property.nodesList ps)
  | [] => rfl
  | .mk _ v :: ps => by
    simp [Property.spelledList, Property.bareList, Property.nodesList, Property.nodes,
      v.names_spelled, Property.namesList_spelled ps]

lemma Decorator.namesList_spelled : (ds : List Decorator) →
    Node.names (Decorator.nodesList (Decorator.bareList (Decorator.spelledList ds))) =
      Node.names (Decorator.nodesList ds)
  | [] => rfl
  | .mk _ _ es _ :: ds => by
    simp [Decorator.spelledList, Decorator.bareList, Decorator.nodesList, Decorator.nodes,
      Node.ident?, Expr.namesList_spelled es, Decorator.namesList_spelled ds]
end

attribute [local simp] Expr.path?

lemma Expr.path?_bare (e : Expr) : e.bare.path? = e.path? := by
  fun_induction Expr.path? e with
  | case1 s name => rfl
  | case2 s base ns name ih => simp only [bare, path?, ih]
  | case3 s base s' value raw ih => simp only [bare, path?, ih]
  | case4 e hident hmember hindex =>
    cases e with
    | ident s name => exact absurd rfl (hident s name)
    | member s base ns name => exact absurd rfl (hmember s base ns name)
    | index s base i =>
      cases i with
      | lit s' l =>
        cases l with
        | string value raw => exact absurd rfl (hindex s base s' value raw)
        | _ => rfl
      | _ => rfl
    | _ => rfl

lemma Expr.path?_spelled (e : Expr) : e.spelled.path? = e.path? := by
  fun_induction Expr.path? e with
  | case1 s name => rfl
  | case2 s base ns name ih => simp only [spelled, path?, ih]
  | case3 s base s' value raw ih => simp only [spelled, path?, ih]
  | case4 e hident hmember hindex =>
    cases e with
    | ident s name => exact absurd rfl (hident s name)
    | member s base ns name => exact absurd rfl (hmember s base ns name)
    | update s op before t => cases before <;> rfl
    | index s base i =>
      cases i with
      | lit s' l =>
        cases l with
        | string value raw => exact absurd rfl (hindex s base s' value raw)
        | _ => rfl
      | update s' op before t => cases before <;> rfl
      | _ => rfl
    | _ => rfl

namespace Program

variable {p q : Program} {x : String}

lemma mem_identifiers_spelled : x ∈ p.identifiers ↔ ∃ e ∈ p.spelled, x ∈ Node.names e.nodes := by
  rw [mem_identifiers, spelled]
  simp [Expr.names_spelled]

/-- A program that some text is read as. -/
def IsRead (p : Program) : Prop := ∃ source, Program.parse source = .ok p

/-- Programs with one text refer to the same identifiers. -/
lemma IsRead.mem_identifiers_of_text (hp : p.IsRead) (hq : q.IsRead) (h : p.text = q.text) :
    x ∈ p.identifiers ↔ x ∈ q.identifiers := by
  obtain ⟨_, hp⟩ := hp
  obtain ⟨_, hq⟩ := hq
  rw [mem_identifiers_spelled, spelled_of_text hp hq h, ← mem_identifiers_spelled]

/-- The programs that a binding writes to are read from their texts. -/
lemma isRead_of_bindPrograms {ps : List Program} (h : p.bindPrograms = .ok ps) :
    ∀ q ∈ ps, q.IsRead := by
  unfold bindPrograms at h
  split at h
  · cases h
    simp
  · next e he =>
    obtain ⟨full, hfull, h⟩ := bind_eq_ok.1 h
    have hsplit : ∀ {o : Expr}, (do return [← Program.parse o.text, full]) = Except.ok ps →
        ∀ q ∈ ps, q.IsRead := by
      intro o ho
      obtain ⟨object, hobject, ho⟩ := bind_eq_ok.1 ho
      cases ho
      simpa using ⟨⟨_, hobject⟩, ⟨_, hfull⟩⟩
    split at h
    · exact hsplit h
    · exact hsplit h
    · cases h
      simpa using ⟨_, hfull⟩

end Program

/-! ### Paths and their texts -/

/-- A static path that can be read by itself, from a root. -/
def Expr.IsPath (e : Expr) (root : String) : Prop :=
  e.Fits Level.lowest.rank ∧ ∃ steps, e.path? = some (root :: steps)

/-- Whether a text is that of a static path from a root. -/
def IsPathText (root text : String) : Prop := ∃ e : Expr, e.IsPath root ∧ e.text = text

namespace Expr

variable {e : Expr} {root : String}

/-- A path grows from its root, step by step. -/
lemma path_induction {motive : (e : Expr) → e.path?.isSome = true → Prop}
    (ident : ∀ s name, motive (.ident s name) rfl)
    (member : ∀ s base ns name (h : base.path?.isSome = true), motive base h →
      ∀ h', motive (.member s base ns name) h')
    (index : ∀ s base s' value raw (h : base.path?.isSome = true), motive base h →
      ∀ h', motive (.index s base (.lit s' (.string value raw))) h')
    (e : Expr) (hpath : e.path?.isSome = true) : motive e hpath := by
  fun_induction path? e with
  | case1 s name => exact ident s name
  | case2 s base ns name ih =>
    have hbase : base.path?.isSome = true := by rwa [path?, Option.isSome_map] at hpath
    exact member s base ns name hbase (ih hbase) hpath
  | case3 s base s' value raw ih =>
    have hbase : base.path?.isSome = true := by rwa [path?, Option.isSome_map] at hpath
    exact index s base s' value raw hbase (ih hbase) hpath
  | case4 e hident hmember hindex =>
    rw [path?] at hpath
    · cases hpath
    all_goals assumption

/-- A path can be read wherever a part of an expression can. -/
lemma Fits.of_path {r : Nat} (h : e.Fits r) (hpath : e.path?.isSome = true) :
    e.Fits Level.lowest.rank := by
  induction e, hpath using path_induction with
  | ident s name => exact h
  | member s base ns name hbase ih _ => exact ⟨by decide, ih h.2.1, h.2.2⟩
  | index s base s' value raw hbase ih _ => exact ⟨by decide, ih h.2.1, h.2.2⟩

/-- A path is never empty, and its root is the only identifier in it. -/
lemma exists_root (hpath : e.path?.isSome = true) :
    ∃ root steps, e.path? = some (root :: steps) ∧ Node.names e.nodes = [root] := by
  induction e, hpath using path_induction with
  | ident s name => exact ⟨name, [], rfl, rfl⟩
  | member s base ns name hbase ih _ =>
    obtain ⟨root, steps, hpath, hnames⟩ := ih
    refine ⟨root, steps ++ [name], by rw [path?, hpath]; rfl, ?_⟩
    simp [nodes, Node.ident?, hnames]
  | index s base s' value raw hbase ih _ =>
    obtain ⟨root, steps, hpath, hnames⟩ := ih
    refine ⟨root, steps ++ [value], by rw [path?, hpath]; rfl, ?_⟩
    simp [nodes, Node.ident?, hnames]

/-- No sign stands in a path. -/
lemma signsApart_of_path (hpath : e.path?.isSome = true) :
    e.nodes.all (Node.parts true) = true := by
  induction e, hpath using path_induction with
  | ident s name => rfl
  | member s base ns name hbase ih _ =>
    simp only [nodes, List.all_append, ih]
    rfl
  | index s base s' value raw hbase ih _ =>
    simp only [nodes, List.all_append, ih]
    rfl

end Expr

namespace IsPathText

variable {root text : String} {p : Program}

/-- The text of a path is read as this path. -/
lemma parse (h : IsPathText root text) :
    ∃ q, Program.parse text = .ok q ∧ q.text = text ∧
      ∃ e : Expr, e.IsPath root ∧ q.tree = [e.bare] := by
  obtain ⟨e, hpath, rfl⟩ := h
  obtain ⟨hfits, steps, hsteps⟩ := hpath
  have hfits' : ∀ f ∈ [e], f.Fits Level.lowest.rank := by simpa using hfits
  have hparts : ∀ f ∈ [e], f.nodes.all (Node.parts true) = true := by
    simpa using e.signsApart_of_path (by rw [hsteps]; rfl)
  have hscan : Token.scan true (e.text.length + 1) .before e.text.toList =
      Expr.facesLines [e] ++ [Token.Face.atEnd] :=
    Expr.scan_lines hfits' hparts (by simp)
  rw [← Token.face_all] at hscan
  obtain ⟨q, hq, htree⟩ := Program.parse_of_faces hfits' hscan
  refine ⟨q, hq, ?_, e, ⟨hfits, steps, hsteps⟩, htree⟩
  rw [Program.text_eq_tree, htree]
  simp [Expr.text_bare]

/-- Every program with the text of a path is a path from the same root, and refers to the root
only. -/
lemma of_text (h : IsPathText root text) (hp : p.IsRead) (htext : p.text = text) :
    (∀ x, x ∈ p.identifiers ↔ x = root) ∧
      ∃ steps, p.single?.bind Expr.path? = some (root :: steps) := by
  obtain ⟨q, hq, hqtext, e, he, htree⟩ := h.parse
  obtain ⟨source, hp⟩ := hp
  obtain ⟨f, hf, hbare⟩ : ∃ f, q.exprs = [f] ∧ f.bare = e.bare := by
    simpa [Program.tree, List.map_eq_singleton_iff] using htree
  have hspelled : p.spelled = [f.spelled.bare] := by
    rw [Program.spelled_of_text hp hq (htext.trans hqtext.symm), Program.spelled, hf]
    rfl
  obtain ⟨g, hg, hgf⟩ : ∃ g, p.exprs = [g] ∧ g.spelled.bare = f.spelled.bare := by
    simpa [Program.spelled, List.map_eq_singleton_iff] using hspelled
  have hpath : g.path? = e.path? := by
    rw [← g.path?_spelled, ← g.spelled.path?_bare, hgf, f.spelled.path?_bare, f.path?_spelled,
      ← f.path?_bare, hbare, e.path?_bare]
  obtain ⟨hfits, steps, hsteps⟩ := he
  refine ⟨fun x => ?_, steps, ?_⟩
  · obtain ⟨root', steps', hroot, hnames⟩ := g.exists_root (by rw [hpath, hsteps]; rfl)
    rw [hpath, hsteps] at hroot
    cases hroot
    rw [Program.mem_identifiers, hg]
    simp [hnames]
  · rw [Program.single?, hg]
    exact hpath.trans hsteps

end IsPathText

/-! ### Every identifier is the root of a path -/

/-- The texts `ts` are those of paths from the identifiers among the nodes `ns`, with a path from
each of them. -/
structure Paths.Cover (ns : List Node) (ts : List String) : Prop where
  /-- every identifier is the root of a path -/
  exists_text : ∀ x ∈ Node.names ns, ∃ t ∈ ts, IsPathText x t
  /-- every text is that of a path from an identifier -/
  exists_root : ∀ t ∈ ts, ∃ x ∈ Node.names ns, IsPathText x t

namespace Paths.Cover

variable {ns ms : List Node} {ts us : List String}

lemma nil : Cover [] [] := ⟨by simp, by simp⟩

lemma append (h : Cover ns ts) (h' : Cover ms us) : Cover (ns ++ ms) (ts ++ us) := by
  constructor
  · intro x hx
    rw [Node.names_append, List.mem_append] at hx
    rcases hx with hx | hx
    · obtain ⟨t, ht, hpath⟩ := h.exists_text x hx
      exact ⟨t, List.mem_append_left _ ht, hpath⟩
    · obtain ⟨t, ht, hpath⟩ := h'.exists_text x hx
      exact ⟨t, List.mem_append_right _ ht, hpath⟩
  · intro t ht
    rw [Node.names_append]
    rcases List.mem_append.1 ht with ht | ht
    · obtain ⟨x, hx, hpath⟩ := h.exists_root t ht
      exact ⟨x, List.mem_append_left _ hx, hpath⟩
    · obtain ⟨x, hx, hpath⟩ := h'.exists_root t ht
      exact ⟨x, List.mem_append_right _ hx, hpath⟩

/-- A node that is no identifier adds nothing. -/
lemma snoc {n : Node} (h : Cover ns ts) (hn : n.ident? = none) : Cover (ns ++ [n]) ts := by
  have hnames : Node.names (ns ++ [n]) = Node.names ns := by simp [hn]
  exact ⟨fun x hx => h.exists_text x (hnames ▸ hx), fun t ht => by
    rw [hnames]; exact h.exists_root t ht⟩

/-- An expression that is a path is covered by its text. -/
lemma of_path {e : Expr} {r : Nat} (hfits : e.Fits r) (hpath : e.path?.isSome = true) :
    Cover e.nodes [e.text] := by
  obtain ⟨root, steps, hsteps, hnames⟩ := e.exists_root hpath
  have htext : IsPathText root e.text := ⟨e, ⟨hfits.of_path hpath, steps, hsteps⟩, rfl⟩
  constructor
  · intro x hx
    rw [hnames, List.mem_singleton] at hx
    subst hx
    exact ⟨_, List.mem_singleton_self _, htext⟩
  · intro t ht
    rw [List.mem_singleton] at ht
    subst ht
    exact ⟨root, by rw [hnames]; exact List.mem_singleton_self _, htext⟩

end Paths.Cover

open Paths (Cover)

mutual
lemma Expr.pathsRead_cover : (e : Expr) → ∀ {r}, e.Fits r → Cover e.nodes e.pathsRead
  | .ident s name, _, h => Cover.of_path (e := .ident s name) h rfl
  | .member s o ns name, _, h => by
    rw [Expr.pathsRead]
    split
    · next hpath => exact Cover.of_path h hpath
    · exact (o.pathsRead_cover h.2.1).snoc rfl
  | .index s o i, _, h => by
    rw [Expr.pathsRead]
    split
    · next hpath => exact Cover.of_path h hpath
    · exact ((o.pathsRead_cover h.2.1).append (i.pathsRead_cover h.2.2.2)).snoc rfl
  | .call s f args, _, h => by
    have hargs := Expr.pathsReadList_cover args h.2.2.2
    cases f with
    -- a callee that is a member is read as its object
    | member s' o ns name =>
      exact (((o.pathsRead_cover h.2.1.2.1).snoc rfl).append hargs).snoc rfl
    | index s' o i =>
      have hi := i.pathsRead_cover h.2.1.2.2.2
      exact ((((o.pathsRead_cover h.2.1.2.1).append hi).snoc rfl).append hargs).snoc rfl
    | _ => exact ((Expr.pathsRead_cover _ h.2.1).append hargs).snoc rfl
  | .this _, _, _ | .lit _ _, _, _ => ⟨by simp [Expr.nodes, Node.ident?], by simp [Expr.pathsRead]⟩
  | .array _ es, _, h => (Expr.pathsReadList_cover es h).snoc rfl
  | .seq _ es, _, h => (Expr.pathsReadItems_cover es h.2).snoc rfl
  | .object _ ps, _, h => (Property.pathsReadList_cover ps h).snoc rfl
  | .unary _ _ a, _, h => (a.pathsRead_cover h).snoc rfl
  | .binary _ _ l r, _, h => ((l.pathsRead_cover h.2.1).append (r.pathsRead_cover h.2.2.2)).snoc rfl
  | .logical _ _ l r, _, h =>
    ((l.pathsRead_cover h.2.1).append (r.pathsRead_cover h.2.2.2)).snoc rfl
  | .cond _ t c a, _, h =>
    (((t.pathsRead_cover h.2.1).append (c.pathsRead_cover h.2.2.2.1)).append
      (a.pathsRead_cover h.2.2.2.2)).snoc rfl
  | .assign _ _ t v, _, h => ((t.pathsRead_cover h.2.1).append (v.pathsRead_cover h.2.2.2)).snoc rfl
  | .update _ _ before t, _, h => by
    cases before with
    | true => exact (t.pathsRead_cover h.2).snoc rfl
    | false => exact (t.pathsRead_cover h.2.2).snoc rfl
  | .pipe s e cs ds, _, h => by
    have hparts := (e.pathsRead_cover h.2.1).append (Decorator.pathsReadList_cover ds h.2.2.2.2)
    have hchain := hparts.snoc (n := .chain cs ds) rfl
    simpa [Expr.nodes, Expr.pathsRead] using hchain.snoc (n := .expr (.pipe s e cs ds)) rfl
  | .paren _ inner, _, h => (inner.pathsRead_cover h).snoc rfl

lemma Expr.pathsReadList_cover : (es : List Expr) → Expr.FitsAll es →
    Cover (Expr.nodesList es) (Expr.pathsReadList es)
  | [], _ => .nil
  | e :: es, h => (e.pathsRead_cover h.1).append (Expr.pathsReadList_cover es h.2)

lemma Expr.pathsReadItems_cover : (es : List Expr) → ∀ {r}, Expr.FitsItems es r →
    Cover (Expr.nodesList es) (Expr.pathsReadList es)
  | e :: f :: es, _, h =>
    (e.pathsRead_cover h.1).append (Expr.pathsReadList_cover (f :: es) h.2.2)

lemma Property.pathsReadList_cover : (ps : List Property) → Property.FitsAll ps →
    Cover (Property.nodesList ps) (Property.pathsReadList ps)
  | [], _ => .nil
  | .mk _ v :: ps, h => (v.pathsRead_cover h.2.1).append (Property.pathsReadList_cover ps h.2.2)

lemma Decorator.pathsReadList_cover : (ds : List Decorator) → Decorator.FitsAll ds →
    Cover (Decorator.nodesList ds) (Decorator.pathsReadList ds)
  | [], _ => .nil
  | .mk _ _ es _ :: ds, h =>
    ((Expr.pathsReadList_cover es h.2.1).snoc rfl).append
      (Decorator.pathsReadList_cover ds h.2.2.2)
end

/-- The root of the path that a text is read as. -/
def Program.pathRoot? (text : String) : Option String :=
  ((Program.parse text).toOption.bind Program.single?).bind fun e => e.path?.bind List.head?

/-- The root of a path can be read off its text. -/
lemma IsPathText.pathRoot?_eq {root text : String} (h : IsPathText root text) :
    Program.pathRoot? text = some root := by
  obtain ⟨q, hq, htext, -⟩ := h.parse
  obtain ⟨-, steps, hsteps⟩ := h.of_text ⟨text, hq⟩ htext
  obtain ⟨e, he, hpath⟩ := Option.bind_eq_some_iff.1 hsteps
  simp [Program.pathRoot?, hq, Except.toOption, he, hpath]

namespace Program.IsRead

variable {p : Program}

/-- Every identifier of a program is the root of a path that it reads. -/
theorem exists_path (hp : p.IsRead) {x : String} (hx : x ∈ p.identifiers) :
    ∃ t ∈ p.paths, IsPathText x t := by
  obtain ⟨source, hp⟩ := hp
  obtain ⟨e, he, hxe⟩ := mem_identifiers.1 hx
  obtain ⟨t, ht, hpath⟩ := (e.pathsRead_cover (parse_fits hp e he)).exists_text x hxe
  exact ⟨t, Text.mem_dedup.2 (List.mem_flatMap.2 ⟨e, he, ht⟩), hpath⟩

/-- Every path that a program reads begins at one of its identifiers. -/
theorem exists_root (hp : p.IsRead) {t : String} (ht : t ∈ p.paths) :
    ∃ x ∈ p.identifiers, IsPathText x t := by
  obtain ⟨source, hp⟩ := hp
  obtain ⟨e, he, hte⟩ := List.mem_flatMap.1 (Text.mem_dedup.1 ht)
  obtain ⟨x, hx, hpath⟩ := (e.pathsRead_cover (parse_fits hp e he)).exists_root t hte
  exact ⟨x, mem_identifiers.2 ⟨e, he, hx⟩, hpath⟩

/-- **Identifiers and paths match.** The identifiers of a program are the roots of the paths that it
reads.  The text of each of these paths is read as a program that has this text and is one static
path, and neither the identifiers nor the paths have copies. -/
theorem identifiers_match_paths (hp : p.IsRead) :
    (∀ x, x ∈ p.identifiers ↔ ∃ t ∈ p.paths, Program.pathRoot? t = some x) ∧
      (∀ t ∈ p.paths, ∃ q e, Program.parse t = .ok q ∧ q.text = t ∧ q.single? = some e ∧
        e.path?.isSome = true) ∧
      p.identifiers.Nodup ∧ p.paths.Nodup := by
  refine ⟨fun x => ⟨fun hx => ?_, ?_⟩, fun t ht => ?_, Text.nodup_dedup _, Text.nodup_dedup _⟩
  · obtain ⟨t, ht, hpath⟩ := hp.exists_path hx
    exact ⟨t, ht, hpath.pathRoot?_eq⟩
  · rintro ⟨t, ht, hroot⟩
    obtain ⟨y, hy, hpath⟩ := hp.exists_root ht
    rw [hpath.pathRoot?_eq] at hroot
    cases hroot
    exact hy
  · obtain ⟨x, -, hpath⟩ := hp.exists_root ht
    obtain ⟨q, hq, htext, -⟩ := hpath.parse
    obtain ⟨-, steps, hsteps⟩ := hpath.of_text ⟨t, hq⟩ htext
    obtain ⟨e, he, hpath⟩ := Option.bind_eq_some_iff.1 hsteps
    exact ⟨q, e, hq, htext, he, by rw [hpath]; rfl⟩

/-- An index that is computed, a method, and a property of `this`. -/
theorem identifiers_match_paths_index :
    ∃ p, Program.parse "a['b c'].d[i.j] + f.g(this.x, a.k)" = .ok p ∧
      (p.identifiers = ["a", "i", "f"] ∧ p.paths = ["a['b c'].d", "i.j", "f", "a.k"]) ∧
      (∀ x, x ∈ p.identifiers ↔ ∃ t ∈ p.paths, Program.pathRoot? t = some x) ∧
      (∀ t ∈ p.paths, ∃ q e, Program.parse t = .ok q ∧ q.text = t ∧ q.single? = some e ∧
        e.path?.isSome = true) ∧
      p.identifiers.Nodup ∧ p.paths.Nodup := by
  have hread : (Program.parse "a['b c'].d[i.j] + f.g(this.x, a.k)").toOption.map
      (fun p => (p.identifiers, p.paths)) =
      some (["a", "i", "f"], ["a['b c'].d", "i.j", "f", "a.k"]) := by decide +kernel
  obtain ⟨p, hp, hlists⟩ := eq_ok_of_toOption hread
  exact ⟨p, hp, Prod.ext_iff.1 hlists, identifiers_match_paths ⟨_, hp⟩⟩

end Program.IsRead

end Trellis
