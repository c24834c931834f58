/-
Data cannot reshape rendered HTML.

The shape of nodes is what HTML is meant to show of them: neighbouring texts are one text, what a
control made stands in its place, void elements hold nothing, and keys, events and the marks of
loops are gone (`Rendered.shapes`).  Two things are to be seen.

* HTML shows nothing but the shape: `Shape.charsAll` writes the same text from the shapes
  (`Rendered.toList_htmlList`).
* HTML shows all of the shape.  Shapes that are settled, with names that can stand in markup as they
  are, are known by their text, even in front of a closing tag (`Shape.Settled.unique`).  The
  induction is on the shapes: an escaped text ends where `<` begins, a quoted value where `"`
  stands, a name before the first character that no name has, and children where a closing tag
  begins.

So two forests have the same HTML exactly if they have the same shape (`Rendered.htmlList_eq_iff`).
-/
import Mathlib.Tactic.Common
import Trellis.Render.Html
import Trellis.Text.Search

namespace Trellis

/-! ### Escaped text -/

namespace Html

/-- The character that stands escaped at the front, and the rest. -/
def firstChar? : List Char → Option (Char × List Char)
  | '&' :: 'a' :: 'm' :: 'p' :: ';' :: rest => some ('&', rest)
  | '&' :: '#' :: '3' :: '9' :: ';' :: rest => some ('\'', rest)
  | '&' :: 'l' :: 't' :: ';' :: rest => some ('<', rest)
  | '&' :: 'g' :: 't' :: ';' :: rest => some ('>', rest)
  | '&' :: '#' :: '3' :: '4' :: ';' :: rest => some ('"', rest)
  | '&' :: '#' :: '1' :: '3' :: ';' :: rest => some ('\r', rest)
  | c :: rest => some (c, rest)
  | [] => none

lemma firstChar?_escapeChar (c : Char) (rest : List Char) :
    firstChar? (escapeChar c ++ rest) = some (c, rest) := by
  by_cases hamp : c = '&'
  · subst hamp; rfl
  by_cases hapos : c = '\''
  · subst hapos; rfl
  by_cases hlt : c = '<'
  · subst hlt; rfl
  by_cases hgt : c = '>'
  · subst hgt; rfl
  by_cases hquot : c = '"'
  · subst hquot; rfl
  by_cases hcr : c = '\r'
  · subst hcr; rfl
  have hplain : escapeChar c = [c] := by simp [escapeChar, *]
  rw [hplain, List.cons_append, List.nil_append]
  -- only the last two rows are left for a character that is no `&`
  simp [firstChar?, hamp]

/-- Whether a text ends what is escaped in front of it: it's empty or begins with `<` or `"`. -/
def Stops (cs : List Char) : Prop := ∀ c ∈ cs.head?, c = '<' ∨ c = '"'

lemma stops_nil : Stops [] := by simp [Stops]

lemma stops_lt (cs : List Char) : Stops ('<' :: cs) := by simp [Stops]

lemma stops_quote (cs : List Char) : Stops ('"' :: cs) := by simp [Stops]

/-- What is escaped begins with no character that ends it. -/
lemma head_escapeChar (c : Char) : ∃ d ds, escapeChar c = d :: ds ∧ d ≠ '<' ∧ d ≠ '"' := by
  unfold escapeChar
  split_ifs with hamp hapos hlt hgt hquot hcr
  all_goals first
    | exact ⟨_, _, rfl, by decide, by decide⟩
    | exact ⟨c, [], rfl, by simpa using hlt, by simpa using hquot⟩

lemma not_stops_escapeChar (c : Char) (rest : List Char) : ¬Stops (escapeChar c ++ rest) := by
  obtain ⟨d, ds, hchar, hlt, hquote⟩ := head_escapeChar c
  rw [hchar]
  intro h
  rcases h d rfl with rfl | rfl
  · exact hlt rfl
  · exact hquote rfl

lemma not_stops_escaped {s : String} (hs : s ≠ "") (rest : List Char) :
    ¬Stops (s.toList.flatMap escapeChar ++ rest) := by
  cases hchars : s.toList with
  | nil => exact absurd (String.toList_eq_nil_iff.1 hchars) hs
  | cons c cs =>
    rw [List.flatMap_cons, List.append_assoc]
    exact not_stops_escapeChar c _

/-- An escaped text is known in front of whatever ends it. -/
lemma escaped_unique {s t r r' : List Char} (hr : Stops r) (hr' : Stops r')
    (h : s.flatMap escapeChar ++ r = t.flatMap escapeChar ++ r') : s = t ∧ r = r' := by
  induction s generalizing t with
  | nil =>
    cases t with
    | nil => exact ⟨rfl, h⟩
    | cons d t =>
      rw [List.flatMap_nil, List.nil_append, List.flatMap_cons, List.append_assoc] at h
      exact absurd (h ▸ hr) (not_stops_escapeChar d _)
  | cons c s ih =>
    cases t with
    | nil =>
      rw [List.flatMap_nil, List.nil_append, List.flatMap_cons, List.append_assoc] at h
      exact absurd (h ▸ hr') (not_stops_escapeChar c _)
    | cons d t =>
      simp only [List.flatMap_cons, List.append_assoc] at h
      have hfirst := congrArg firstChar? h
      rw [firstChar?_escapeChar, firstChar?_escapeChar] at hfirst
      simp only [Option.some.injEq, Prod.mk.injEq] at hfirst
      obtain ⟨rfl, hrest⟩ := hfirst
      obtain ⟨rfl, rfl⟩ := ih hrest
      exact ⟨rfl, rfl⟩

lemma toList_escape (s : String) : (escape s).toList = s.toList.flatMap escapeChar := by
  rw [escape, String.toList_ofList]

/-! ### Names -/

/-- Whether a character can stand in a name: it is no white space and means nothing in markup. -/
def isPlainChar (c : Char) : Bool := !(['<', '>', '"', '\'', '&', '=', '/'].contains c) &&
    !Text.isBlank c

/-- Whether a name can stand in markup as it is. -/
def isPlainName (s : String) : Bool := !s.isEmpty && s.toList.all isPlainChar

/-- Of two runs that end at their first character without `p`, neither is longer. -/
lemma run_unique {p : Char → Bool} {a b r r' : List Char} {c d : Char} (ha : ∀ x ∈ a, p x)
    (hb : ∀ x ∈ b, p x)
    (hc : p c = false) (hd : p d = false) (h : a ++ c :: r = b ++ d :: r') : a = b ∧ c = d ∧
    r = r' := by
  induction a generalizing b with
  | nil =>
    cases b with
    | nil => simpa using h
    | cons y b =>
      simp only [List.nil_append, List.cons_append, List.cons.injEq] at h
      have hy := hb y List.mem_cons_self
      rw [← h.1, hc] at hy
      cases hy
  | cons x a ih =>
    cases b with
    | nil =>
      simp only [List.nil_append, List.cons_append, List.cons.injEq] at h
      have hx := ha x List.mem_cons_self
      rw [h.1, hd] at hx
      cases hx
    | cons y b =>
      simp only [List.cons_append, List.cons.injEq] at h
      obtain ⟨rfl, h⟩ := h
      obtain ⟨rfl, hcd, hr⟩ := ih (fun z hz => ha z (List.mem_cons_of_mem _ hz))
        (fun z hz => hb z (List.mem_cons_of_mem _ hz)) h
      exact ⟨rfl, hcd, hr⟩

/-- A name is known in front of any character that no name has. -/
lemma name_unique {a b : String} {r r' : List Char} {c d : Char} (ha : isPlainName a)
    (hb : isPlainName b) (hc : isPlainChar c = false) (hd : isPlainChar d = false)
    (h : a.toList ++ c :: r = b.toList ++ d :: r') : a = b ∧ c = d ∧ r = r' := by
  simp only [isPlainName, Bool.and_eq_true, List.all_eq_true] at ha hb
  obtain ⟨hab, hcd, hr⟩ := run_unique ha.2 hb.2 hc hd h
  exact ⟨String.toList_inj.1 hab, hcd, hr⟩

/-- A name begins with a character that means nothing in markup. -/
lemma head_name {a : String} (ha : isPlainName a) : ∃ c cs, a.toList = c :: cs ∧ isPlainChar c := by
  simp only [isPlainName, Bool.and_eq_true, Bool.not_eq_true', List.all_eq_true] at ha
  cases hchars : a.toList with
  | nil => simp [String.toList_eq_nil_iff.1 hchars] at ha
  | cons c cs => exact ⟨c, cs, rfl, ha.2 c (hchars ▸ List.mem_cons_self)⟩

end Html

/-! ### Shapes -/

open Html

/-- What HTML shows of a node: a text, or an element with its attributes and what stands in it. -/
inductive Shape where
  | text (s : String)
  | element (tag : String) (attrs : List (String × String)) (children : List Shape)

namespace Shape

/-- Shapes with a text in front, which is dropped when it is empty and joins a text that it meets.
-/
def withText (s : String) (rest : List Shape) : List Shape :=
  if s.isEmpty then rest
  else
    match rest with
    | .text t :: rest => .text (s ++ t) :: rest
    | rest => .text s :: rest

/-- An attribute as HTML. -/
def attrChars (a : String × String) : List Char :=
  ' ' :: (a.1.toList ++ '=' :: '"' :: (a.2.toList.flatMap escapeChar ++ ['"']))

/-- The closing tag of an element. -/
def closingTag (tag : String) : List Char := '<' :: '/' :: (tag.toList ++ ['>'])

mutual
/-- A shape as HTML. -/
def chars : Shape → List Char
  | .text s => s.toList.flatMap escapeChar
  | .element tag attrs children =>
    '<' :: (tag.toList ++ (attrs.flatMap attrChars ++
      '>' :: (if Rendered.isVoid tag then [] else charsAll children ++ closingTag tag)))

/-- Shapes as HTML. -/
def charsAll : List Shape → List Char
  | [] => []
  | x :: xs => chars x ++ charsAll xs
end

/-- Shapes whose texts are not empty and stand apart, whose void elements are empty, and whose names
can stand in markup as they are. -/
inductive Settled : List Shape → Prop where
  | nil : Settled []
  | text {s : String} {rest : List Shape} (hs : s ≠ "") (happart : ∀ t more, rest ≠ .text t :: more)
      (hrest : Settled rest) : Settled (.text s :: rest)
  | element {tag : String} {attrs : List (String × String)} {children rest : List Shape}
      (htag : isPlainName tag) (hattrs : ∀ a ∈ attrs, isPlainName a.1)
      (hvoid : Rendered.isVoid tag → children = []) (hchildren : Settled children)
        (hrest : Settled rest) :
      Settled (.element tag attrs children :: rest)

lemma charsAll_withText (s : String) (rest : List Shape) :
    charsAll (withText s rest) = s.toList.flatMap escapeChar ++ charsAll rest := by
  unfold withText
  split_ifs with hs
  · rw [String.isEmpty_iff.1 hs]
    rfl
  · split
    · simp [charsAll, chars]
    · simp [charsAll, chars]

lemma settled_withText {rest : List Shape} (h : Settled rest) (s : String) :
    Settled (withText s rest) := by
  unfold withText
  split_ifs with hs
  · exact h
  · have hne : s ≠ "" := fun he => hs (String.isEmpty_iff.2 he)
    split
    · rename_i t more
      cases h with
      | text ht happart hmore =>
        exact .text (fun he => hne (String.append_eq_empty_iff.1 he).1) happart hmore
    · rename_i hapart
      exact .text hne (fun t more he => hapart t more he) h

/-! ### Shapes are known by their HTML -/

/-- Attributes are known in front of the end of a tag. -/
lemma attrs_unique {as bs : List (String × String)} {r r' : List Char}
    (has : ∀ a ∈ as, isPlainName a.1) (hbs : ∀ b ∈ bs, isPlainName b.1)
    (h : as.flatMap attrChars ++ '>' :: r = bs.flatMap attrChars ++ '>' :: r') : as = bs ∧
    r = r' := by
  induction as generalizing bs with
  | nil =>
    cases bs with
    | nil => simpa using h
    | cons b bs => simp [attrChars] at h
  | cons a as ih =>
    cases bs with
    | nil => simp [attrChars] at h
    | cons b bs =>
      simp only [List.flatMap_cons, attrChars, List.cons_append, List.append_assoc, List.cons.injEq,
        true_and,
        List.nil_append] at h
      obtain ⟨hname, -, h⟩ := name_unique (has a List.mem_cons_self) (hbs b List.mem_cons_self)
        (by decide)
        (by decide) h
      obtain ⟨hvalue, h⟩ := escaped_unique (stops_quote _) (stops_quote _) (List.cons.inj h).2
      obtain ⟨rfl, hr⟩ := ih (fun x hx => has x (List.mem_cons_of_mem _ hx))
        (fun x hx => hbs x (List.mem_cons_of_mem _ hx)) (List.cons.inj h).2
      exact ⟨congrArg (· :: as) (Prod.ext hname (String.toList_inj.1 hvalue)), hr⟩

/-- Whether a text ends the shapes in front of it: it is empty or begins with a closing tag. -/
def Closes (r : List Char) : Prop := r = [] ∨ ∃ more, r = '<' :: '/' :: more

lemma Closes.stops {r : List Char} (h : Closes r) : Stops r := by
  rcases h with rfl | ⟨more, rfl⟩
  · exact stops_nil
  · exact stops_lt _

lemma closes_closingTag (tag : String) (r : List Char) : Closes (closingTag tag ++ r) :=
  .inr ⟨_, rfl⟩

/-- A tag is known in front of attributes and the end of the tag. -/
lemma tag_unique {tag tag' : String} {as bs : List (String × String)} {r r' : List Char}
    (htag : isPlainName tag)
    (htag' : isPlainName tag') (has : ∀ a ∈ as, isPlainName a.1) (hbs : ∀ b ∈ bs, isPlainName b.1)
    (h : tag.toList ++ (as.flatMap attrChars ++ '>' :: r) = tag'.toList ++
    (bs.flatMap attrChars ++ '>' :: r')) :
    tag = tag' ∧ as = bs ∧ r = r' := by
  -- behind a tag stands a blank or its end
  have hbehind : ∀ (as : List (String × String)) (r : List Char),
      ∃ c cs, as.flatMap attrChars ++ '>' :: r = c :: cs ∧ isPlainChar c = false := by
    intro as r
    cases as with
    | nil => exact ⟨'>', r, rfl, by decide⟩
    | cons a as => exact ⟨' ', _, rfl, by decide⟩
  obtain ⟨c, cs, hc, hplain⟩ := hbehind as r
  obtain ⟨d, ds, hd, hplain'⟩ := hbehind bs r'
  have hall := h
  rw [hc, hd] at hall
  obtain ⟨rfl, rfl, rfl⟩ := name_unique htag htag' hplain hplain' hall
  obtain ⟨rfl, rfl⟩ := attrs_unique has hbs (hc.trans hd.symm)
  exact ⟨rfl, rfl, rfl⟩

/-- Settled shapes begin with no closing tag. -/
lemma Settled.not_closes {x : Shape} {xs : List Shape} (h : Settled (x :: xs)) (r : List Char) :
    ¬Closes (charsAll (x :: xs) ++ r) := by
  cases h with
  | text hs _ _ =>
    rw [charsAll, chars, List.append_assoc]
    exact fun hcloses => not_stops_escaped hs _ hcloses.stops
  | @element tag _ _ _ htag _ _ _ _ =>
    obtain ⟨c, cs, hchars, hc⟩ := head_name htag
    rw [charsAll, chars, hchars]
    rintro (hempty | ⟨more, hmore⟩)
    · simp at hempty
    · simp only [List.cons_append, List.cons.injEq, true_and] at hmore
      rw [hmore.1] at hc
      exact absurd hc (by decide)

/-- What stands behind a text of settled shapes ends it. -/
lemma Settled.stops {xs : List Shape} (h : Settled xs) (happart : ∀ t more, xs ≠ .text t :: more)
    {r : List Char} (hr : Closes r) : Stops (charsAll xs ++ r) := by
  cases h with
  | nil => exact hr.stops
  | text _ _ _ => exact absurd rfl (happart _ _)
  | element _ _ _ _ _ =>
    rw [charsAll, chars]
    exact stops_lt _

/-- **Shapes are known by their HTML.** Settled shapes that have the same HTML, each in front of
nothing or of a closing tag, are the same. -/
theorem Settled.unique {xs ys : List Shape} (hxs : Settled xs) (hys : Settled ys) {r r' : List Char}
    (hr : Closes r) (hr' : Closes r') (h : charsAll xs ++ r = charsAll ys ++ r') : xs = ys ∧
    r = r' := by
  induction hxs generalizing ys r r' with
  | nil =>
    cases ys with
    | nil => exact ⟨rfl, h⟩
    | cons y ys =>
      have hcloses : Closes (charsAll (y :: ys) ++ r') := h ▸ hr
      exact absurd hcloses (hys.not_closes r')
  | @text s rest hs happart hrest ih =>
    have hxs : Settled (.text s :: rest) := .text hs happart hrest
    cases hys with
    | nil =>
      have hcloses : Closes (charsAll (.text s :: rest) ++ r) := h ▸ hr'
      exact absurd hcloses (hxs.not_closes r)
    | @text t rest' ht happart' hrest' =>
      simp only [charsAll, chars, List.append_assoc] at h
      obtain ⟨hst, h⟩ := escaped_unique (hrest.stops happart hr) (hrest'.stops happart' hr') h
      obtain ⟨rfl, rfl⟩ := ih hrest' hr hr' h
      exact ⟨by rw [String.toList_inj.1 hst], rfl⟩
    | @element tag as children rest' _ _ _ _ _ =>
      -- a text begins with no tag
      simp only [charsAll, chars, List.append_assoc, List.cons_append] at h
      exact absurd (h ▸ stops_lt _) (not_stops_escaped hs _)
  | @element tag as children rest htag has hvoid hchildren hrest ihchildren ihrest =>
    have hxs : Settled (.element tag as children :: rest) := .element htag has hvoid hchildren hrest
    cases hys with
    | nil =>
      have hcloses : Closes (charsAll (.element tag as children :: rest) ++ r) := h ▸ hr'
      exact absurd hcloses (hxs.not_closes r)
    | @text t rest' ht happart' hrest' =>
      simp only [charsAll, chars, List.append_assoc, List.cons_append] at h
      exact absurd (h ▸ stops_lt _) (not_stops_escaped ht _)
    | @element tag' bs children' rest' htag' hbs hvoid' hchildren' hrest' =>
      simp only [charsAll, chars, List.cons_append, List.append_assoc, List.cons.injEq,
        true_and] at h
      obtain ⟨rfl, rfl, hinner⟩ := tag_unique htag htag' has hbs h
      by_cases hv : Rendered.isVoid tag
      · obtain rfl := hvoid hv
        obtain rfl := hvoid' hv
        rw [if_pos hv, List.nil_append, List.nil_append] at hinner
        obtain ⟨rfl, rfl⟩ := ihrest hrest' hr hr' hinner
        exact ⟨rfl, rfl⟩
      · rw [if_neg hv, if_neg hv, List.append_assoc, List.append_assoc] at hinner
        obtain ⟨rfl, hbehind⟩ :=
          ihchildren hchildren' (closes_closingTag tag _) (closes_closingTag tag _) hinner
        obtain ⟨rfl, rfl⟩ := ihrest hrest' hr hr' (List.append_cancel_left hbehind)
        exact ⟨rfl, rfl⟩

end Shape

/-! ### The shape of nodes -/

namespace Rendered

open Shape

mutual
/-- The shapes of a node in front of other shapes: without keys, events and marks of loops, with
what a control made in its place, and nothing in void elements. -/
def shapesBefore (rest : List Shape) : Rendered → List Shape
  | .text _ s _ _ => withText s rest
  | .element _ tag attrs _ children _ =>
    .element tag attrs (if isVoid tag then [] else shapesAll [] children) :: rest
  | .control _ _ _ _ _ _ children _ => shapesAll rest children

/-- The shapes of nodes in front of other shapes. -/
def shapesAll (rest : List Shape) : List Rendered → List Shape
  | [] => rest
  | n :: ns => shapesBefore (shapesAll rest ns) n
end

/-- The shapes of nodes. -/
def shapes (ns : List Rendered) : List Shape := shapesAll [] ns

mutual
/-- Whether a node and all below it have no raw text, and names that can stand in markup as they
are. -/
def isPlain : Rendered → Bool
  | .text _ _ raw _ => !raw
  | .element _ tag attrs _ children _ =>
    isPlainName tag && attrs.all (isPlainName ·.1) && arePlain children
  | .control _ _ _ _ _ _ children _ => arePlain children

/-- Whether nodes are plain. -/
def arePlain : List Rendered → Bool
  | [] => true
  | n :: ns => isPlain n && arePlain ns
end

lemma toList_attrText (a : String × String) : (attrText a).toList = attrChars a := by
  simp [attrText, attrChars, toList_escape]

lemma toList_openTag (key tag : String) (attrs : List (String × String)) :
    (openTag false key tag attrs).toList = '<' ::
    (tag.toList ++ (attrs.flatMap attrChars ++ ['>'])) := by
  simp [openTag, String.toList_join, List.flatMap_map, toList_attrText]

mutual
/-- HTML shows the shapes of a node. -/
lemma flatMap_pieces (rest : List Shape) : ∀ n : Rendered, n.isPlain →
    (pieces false n).flatMap String.toList ++ charsAll rest = charsAll (n.shapesBefore rest)
  | .text _ s raw _, h => by
    rw [isPlain, Bool.not_eq_true'] at h
    subst h
    rw [shapesBefore, charsAll_withText]
    simp [pieces, toList_escape]
  | .element key tag attrs events children loop, h => by
    simp only [isPlain, Bool.and_eq_true] at h
    have hchildren := flatMap_piecesList [] children h.2
    rw [charsAll, List.append_nil] at hchildren
    rw [shapesBefore, charsAll, chars, pieces]
    split_ifs with hv
    · simp [toList_openTag]
    · simp [toList_openTag, ← hchildren, closingTag]
  | .control _ _ _ _ _ _ children _, h => by
    rw [isPlain] at h
    rw [shapesBefore, pieces, flatMap_piecesList rest children h]

lemma flatMap_piecesList (rest : List Shape) : ∀ ns : List Rendered, arePlain ns →
    (piecesList false ns).flatMap String.toList ++ charsAll rest = charsAll (shapesAll rest ns)
  | [], _ => by simp [piecesList, shapesAll]
  | n :: ns, h => by
    rw [arePlain, Bool.and_eq_true] at h
    rw [shapesAll, piecesList, List.flatMap_append, List.append_assoc,
      flatMap_piecesList rest ns h.2,
      flatMap_pieces _ n h.1]
end

/-- HTML shows the shapes of nodes. -/
lemma toList_htmlList {ns : List Rendered} (h : arePlain ns) :
    (htmlList false ns).toList = charsAll (shapes ns) := by
  have hpieces := flatMap_piecesList [] ns h
  rwa [charsAll, List.append_nil, ← String.toList_join] at hpieces

mutual
lemma settled_shapesBefore {rest : List Shape} (hrest : Settled rest) : ∀ n : Rendered, n.isPlain →
    Settled (n.shapesBefore rest)
  | .text _ s _ _, _ => by
    rw [shapesBefore]
    exact settled_withText hrest s
  | .element _ tag attrs _ children _, h => by
    simp only [isPlain, Bool.and_eq_true, List.all_eq_true] at h
    obtain ⟨⟨htag, hattrs⟩, hchildren⟩ := h
    rw [shapesBefore]
    refine .element htag hattrs (fun hv => if_pos hv) ?_ hrest
    split_ifs
    · exact .nil
    · exact settled_shapesAll .nil children hchildren
  | .control _ _ _ _ _ _ children _, h => by
    rw [isPlain] at h
    rw [shapesBefore]
    exact settled_shapesAll hrest children h

lemma settled_shapesAll {rest : List Shape} (hrest : Settled rest) : ∀ ns : List Rendered,
    arePlain ns →
    Settled (shapesAll rest ns)
  | [], _ => by rwa [shapesAll]
  | n :: ns, h => by
    rw [arePlain, Bool.and_eq_true] at h
    rw [shapesAll]
    exact settled_shapesBefore (settled_shapesAll hrest ns h.2) n h.1
end

/-- **Data cannot reshape HTML.** Two forests without raw text, whose names can stand in markup as
they are, have the same HTML exactly if they have the same shapes, whatever their texts and the
values of their attributes are. -/
theorem htmlList_eq_iff {ns ms : List Rendered} (hns : arePlain ns) (hms : arePlain ms) :
    htmlList false ns = htmlList false ms ↔ shapes ns = shapes ms := by
  constructor
  · intro h
    have hchars : charsAll (shapes ns) ++ [] = charsAll (shapes ms) ++ [] := by
      rw [List.append_nil, List.append_nil, ← toList_htmlList hns, ← toList_htmlList hms, h]
    exact ((settled_shapesAll .nil ns hns).unique (settled_shapesAll .nil ms hms) (.inl rfl)
      (.inl rfl) hchars).1
  · intro h
    rw [← String.toList_inj, toList_htmlList hns, toList_htmlList hms, h]

/-- A text and what a control made, with a line break that has a text in it. -/
def splitForest : List Rendered := [
  .text "0" "a <" false false,
  .control "1" "C" [] [] [] [] [
    .text "2" "b" false true,
    .element "3" "br" [("title", "\"/>")] [] [.text "4" "c" false false] false] false]

/-- The same as one text and a line break. -/
def joinedForest : List Rendered := [
  .text "0" "a <b" false false, .element "1" "br" [("title", "\"/>")] [] [] false]

theorem htmlList_eq_iff_split : arePlain splitForest ∧ arePlain joinedForest ∧
    htmlList false splitForest = htmlList false joinedForest ∧
    shapes splitForest = shapes joinedForest := by
  have hsame : htmlList false splitForest = htmlList false joinedForest := by decide +kernel
  exact ⟨by decide, by decide, hsame, (htmlList_eq_iff (by decide) (by decide)).1 hsame⟩

end Rendered

end Trellis
