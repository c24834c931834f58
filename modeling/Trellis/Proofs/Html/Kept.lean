/-
What is kept of markup without scripts.

Of some elements neither tags nor content are kept.  A start tag is matched by the first end tag of
its name behind it that has no start tag of its own in between; a token lies inside an element if it
stands between such a pair (`Spot.Inside`).  A start tag may have no end tag of its own, and is open
for all that follows (`Spot.Within`).

The tokens are read with one counter for all of these names.  It is compared with a counter for each
name, which is positive exactly where an element of that name is open (`level_pos_iff`): the one
counter is never above their sum (`depth_le_total`), and is their sum as long as no end tag of one
name stands in an element of another name without a start tag of its own (`depth_eq_total`).  So
nothing outside of elements is lost, and under that condition nothing inside of them is kept
(`kept_of_tokens`); without it, something is (`kept_inside`).
-/
import Mathlib.Data.List.Induction
import Mathlib.Algebra.GroupWithZero.Nat
import Mathlib.Algebra.Order.BigOperators.Group.List
import Trellis.Html.Sanitize

namespace Trellis.Html

/-! ### Tags and elements -/

namespace Token

/-- A start tag of a name. -/
def opens (name : String) (t : Token) : Bool := t.kind == .startTag && t.tagName == name

/-- An end tag of a name. -/
def closes (name : String) (t : Token) : Bool := t.kind == .endTag && t.tagName == name

/-- Neither a comment nor a tag of an element that is dropped. -/
def shows (t : Token) : Bool :=
  match t.kind with
  | .comment => false
  | .startTag | .endTag | .selfClosing => !isDropped t.tagName
  | .text | .doctype => true

end Token

/-- A place in a sequence of tokens: a token with those in front of it and behind it. -/
structure Spot where
  front : List Token
  token : Token
  back : List Token

/-- The places of tokens, with some tokens in front of all of them. -/
def spots : List Token → List Token → List Spot
  | _, [] => []
  | front, t :: ts => ⟨front, t, ts⟩ :: spots (front ++ [t]) ts

/-- Of tokens behind a start tag: nowhere among them are more end tags than start tags, so that it
is open behind them. -/
def StaysOpen (name : String) (ts : List Token) : Prop :=
  ∀ front, front <+: ts → front.countP (Token.closes name) ≤ front.countP (Token.opens name)

instance (name : String) (ts : List Token) : Decidable (StaysOpen name ts) :=
  decidable_of_iff (∀ n < ts.length + 1,
      (ts.take n).countP (Token.closes name) ≤ (ts.take n).countP (Token.opens name)) <| by
    refine ⟨fun h front hfront => ?_, fun h n _ => h _ (List.take_prefix n ts)⟩
    rw [List.prefix_iff_eq_take.1 hfront]
    exact h _ (Nat.lt_succ_of_le hfront.length_le)

/-- Tokens between a start tag and its own end tag. -/
structure Balanced (name : String) (ts : List Token) : Prop where
  staysOpen : StaysOpen name ts
  evens : ts.countP (Token.closes name) = ts.countP (Token.opens name)

namespace Spot

/-- The token is between a start tag and the end tag that matches it. -/
def Inside (s : Spot) (name : String) : Prop :=
  ∃ a o b c e d, s.front = a ++ o :: b ∧ s.back = c ++ e :: d ∧ o.opens name ∧ e.closes name ∧
    Balanced name (b ++ s.token :: c)

/-- The token is behind a start tag that is still open. -/
def Within (s : Spot) (name : String) : Prop :=
  ∃ a o b, s.front = a ++ o :: b ∧ o.opens name ∧ StaysOpen name b

/-- There is an end tag that matches the token, a start tag. -/
def IsClosed (s : Spot) (name : String) : Prop :=
  ∃ b e d, s.back = b ++ e :: d ∧ e.closes name ∧ Balanced name b

end Spot

variable {name : String} {t : Token} {ts front : List Token} {s : Spot}

/-- No tag is a start tag and an end tag. -/
lemma opens_of_closes (h : t.closes name) : t.opens name = false := by
  rw [Token.closes, Bool.and_eq_true, beq_iff_eq] at h
  rw [Token.opens, h.1]
  rfl

lemma opens_or_closes (name : String) (t : Token) : (t.opens name = true ∧ t.closes name = false) ∨
    (t.opens name = false ∧ t.closes name = true) ∨
    (t.opens name = false ∧ t.closes name = false) := by
  cases hc : t.closes name with
  | true => exact .inr (.inl ⟨opens_of_closes hc, rfl⟩)
  | false =>
    cases ho : t.opens name with
    | true => exact .inl ⟨rfl, rfl⟩
    | false => exact .inr (.inr ⟨rfl, rfl⟩)

lemma staysOpen_of_append {b c : List Token} (h : StaysOpen name (b ++ c)) : StaysOpen name b :=
  fun p hp => h p (hp.trans (List.prefix_append b c))

/-- Inside of an element it is open. -/
lemma Spot.Inside.within (h : s.Inside name) : s.Within name := by
  obtain ⟨a, o, b, c, e, d, hfront, -, ho, -, hbalanced⟩ := h
  exact ⟨a, o, b, hfront, ho, staysOpen_of_append hbalanced.staysOpen⟩

lemma mem_spots : s ∈ spots front ts ↔ ∃ p, s.front = front ++ p ∧ ts = p ++ s.token :: s.back := by
  induction ts generalizing front with
  | nil =>
    refine iff_of_false List.not_mem_nil ?_
    rintro ⟨p, -, hts⟩
    cases p <;> cases hts
  | cons t ts ih =>
    rw [spots, List.mem_cons, ih]
    constructor
    · rintro (rfl | ⟨p, hfront, rfl⟩)
      · exact ⟨[], (List.append_nil front).symm, rfl⟩
      · exact ⟨t :: p, by rw [hfront, List.append_assoc]; rfl, rfl⟩
    · rintro ⟨p, hfront, hts⟩
      cases p with
      | nil =>
        left
        obtain ⟨front', token, back⟩ := s
        obtain ⟨rfl, rfl⟩ := List.cons.inj hts
        obtain rfl : front' = front := hfront.trans (List.append_nil front)
        rfl
      | cons x p =>
        obtain ⟨rfl, rfl⟩ := List.cons.inj hts
        exact .inr ⟨p, by rw [hfront, List.append_assoc]; rfl, rfl⟩

/-- Where every start tag has an end tag of its own, what is behind an open one is inside, unless it
is that end tag. -/
lemma Spot.Within.inside (h : s.Within name) (hclosed : ∀ s' ∈ spots [] ts, s'.token.opens name →
    s'.IsClosed name)
    (hs : s ∈ spots [] ts) (hshows : s.token.closes name = false) : s.Inside name := by
  obtain ⟨a, o, b, hfront, ho, hopen⟩ := h
  obtain ⟨p, hp, hts⟩ := mem_spots.1 hs
  rw [List.nil_append] at hp
  subst hp
  rw [hfront, List.append_assoc] at hts
  obtain ⟨w, e, d, hback, he, hbalanced⟩ :=
    hclosed ⟨a, o, b ++ s.token :: s.back⟩ (mem_spots.2 ⟨a, rfl, hts⟩) ho
  obtain ⟨w', rfl, hrest⟩ | ⟨w', rfl, hrest⟩ := List.append_eq_append_iff.1 hback
  · -- the end tag is behind the token, or is the token
    cases w' with
    | nil =>
      obtain ⟨rfl, -⟩ := List.cons.inj hrest
      rw [hshows] at he
      cases he
    | cons x c =>
      obtain ⟨rfl, hback'⟩ := List.cons.inj hrest
      exact ⟨a, o, b, c, e, d, hfront, hback', ho, he, hbalanced⟩
  · -- the end tag is in front of the token, which closes what is open
    cases w' with
    | nil =>
      obtain ⟨rfl, -⟩ := List.cons.inj hrest
      rw [hshows] at he
      cases he
    | cons x c =>
      obtain ⟨rfl, -⟩ := List.cons.inj hrest
      have hmore := hopen (w ++ [e]) ⟨c, by rw [List.append_assoc]; rfl⟩
      rw [List.countP_append, List.countP_append, List.countP_singleton, List.countP_singleton, he,
        opens_of_closes he, hbalanced.evens] at hmore
      exact absurd hmore (by simp)

/-! ### Counters -/

/-- A counter of open elements of a name, after one more token. -/
def levelAfter (name : String) (n : Nat) (t : Token) : Nat :=
  if t.opens name then n + 1 else if t.closes name then n - 1 else n

/-- How many elements of a name are open behind tokens. -/
def level (name : String) (ts : List Token) : Nat := ts.foldl (levelAfter name) 0

/-- The one counter, after one more token. -/
def depthAfter (n : Nat) (t : Token) : Nat :=
  match t.kind, isDropped t.tagName with
  | .startTag, true => n + 1
  | .endTag, true => n - 1
  | _, _ => n

/-- The one counter behind tokens. -/
def depth (ts : List Token) : Nat := ts.foldl depthAfter 0

/-- The counters of all names. -/
def total (ts : List Token) : Nat := (dropped.map fun name => level name ts).sum

lemma level_snoc (name : String) (ts : List Token) (t : Token) :
    level name (ts ++ [t]) = levelAfter name (level name ts) t := List.foldl_append

lemma depth_snoc (ts : List Token) (t : Token) : depth (ts ++ [t]) = depthAfter (depth ts) t :=
  List.foldl_append

/-- A counter falls by no more than there are end tags. -/
lemma le_foldl_levelAfter (name : String) (n : Nat) (ts : List Token) :
    n + ts.countP (Token.opens name) ≤ ts.foldl (levelAfter name) n +
    ts.countP (Token.closes name) := by
  induction ts generalizing n with
  | nil => exact Nat.le_refl n
  | cons t ts ih =>
    have hstep := ih (levelAfter name n t)
    rw [List.foldl_cons, List.countP_cons, List.countP_cons]
    unfold levelAfter at hstep ⊢
    obtain ⟨ho, hc⟩ | ⟨ho, hc⟩ | ⟨ho, hc⟩ := opens_or_closes name t <;>
      simp only [ho, hc, if_true, Bool.false_eq_true, if_false] at hstep ⊢ <;> omega

/-- A counter counts the elements that are opened in some last part of the tokens and not closed
there. -/
lemma exists_level_eq (name : String) (ts : List Token) :
    ∃ a b, ts = a ++ b ∧ level name ts + b.countP (Token.closes name) =
    b.countP (Token.opens name) := by
  induction ts using List.reverseRecOn with
  | nil => exact ⟨[], [], rfl, rfl⟩
  | append_singleton ts t ih =>
    obtain ⟨a, b, hts, hlevel⟩ := ih
    have hlonger : ts ++ [t] = a ++ (b ++ [t]) := by rw [hts, List.append_assoc]
    rw [level_snoc, levelAfter]
    obtain ⟨ho, hc⟩ | ⟨ho, hc⟩ | ⟨ho, hc⟩ := opens_or_closes name t
    · refine ⟨a, b ++ [t], hlonger, ?_⟩
      simp only [List.countP_append, List.countP_singleton, ho, hc, if_true, Bool.false_eq_true,
        if_false]
      omega
    · -- at zero the count starts again
      by_cases hzero : level name ts = 0
      · refine ⟨ts ++ [t], [], (List.append_nil _).symm, ?_⟩
        simp only [ho, hc, hzero, if_true, Bool.false_eq_true, if_false, List.countP_nil]
      · refine ⟨a, b ++ [t], hlonger, ?_⟩
        simp only [List.countP_append, List.countP_singleton, ho, hc, if_true, Bool.false_eq_true,
          if_false]
        omega
    · refine ⟨a, b ++ [t], hlonger, ?_⟩
      simp only [List.countP_append, List.countP_singleton, ho, hc, Bool.false_eq_true, if_false]
      omega

/-- Where there are more start tags than end tags, one of them stays open. -/
lemma exists_staysOpen {b : List Token}
    (h : ∃ a c, b = a ++ c ∧ c.countP (Token.closes name) < c.countP (Token.opens name)) :
    ∃ a o c, b = a ++ o :: c ∧ o.opens name ∧ StaysOpen name c := by
  induction b with
  | nil =>
    obtain ⟨a, c, hb, hlt⟩ := h
    obtain ⟨rfl, rfl⟩ := List.append_eq_nil_iff.1 hb.symm
    exact absurd hlt (Nat.lt_irrefl 0)
  | cons t b ih =>
    by_cases hlater : ∃ a c, b = a ++ c ∧ c.countP (Token.closes name) < c.countP (Token.opens name)
    · obtain ⟨a, o, c, hb, ho, hopen⟩ := ih hlater
      exact ⟨t :: a, o, c, by rw [hb]; rfl, ho, hopen⟩
    · -- then the first token is that start tag
      have hfew : ∀ a c, b = a ++ c → c.countP (Token.opens name) ≤ c.countP (Token.closes name) :=
        fun a c hb => Nat.le_of_not_lt fun hlt => hlater ⟨a, c, hb, hlt⟩
      obtain ⟨a, c, hb, hlt⟩ := h
      cases a with
      | cons x a => exact absurd hlt (Nat.not_lt_of_le (hfew a c (List.cons.inj hb).2))
      | nil =>
        obtain rfl : t :: b = c := hb
        have hall := hfew [] b rfl
        rw [List.countP_cons, List.countP_cons] at hlt
        obtain ⟨ho, hc⟩ | ⟨ho, hc⟩ | ⟨ho, hc⟩ := opens_or_closes name t <;>
          simp only [ho, hc, if_true, Bool.false_eq_true, if_false] at hlt
        · refine ⟨[], t, b, rfl, ho, fun p hp => ?_⟩
          obtain ⟨q, rfl⟩ := hp
          have hback := hfew p q rfl
          rw [List.countP_append, List.countP_append] at hlt
          omega
        · omega
        · omega

/-- A counter is positive exactly where an element of the name is open. -/
lemma level_pos_iff (name : String) (s : Spot) : 0 < level name s.front ↔ s.Within name := by
  constructor
  · intro hpos
    obtain ⟨a, b, hfront, hlevel⟩ := exists_level_eq name s.front
    exact exists_staysOpen ⟨a, b, hfront, by omega⟩
  · rintro ⟨a, o, b, hfront, ho, hopen⟩
    have hfall := le_foldl_levelAfter name (levelAfter name (level name a) o) b
    have hstays := hopen b List.prefix_rfl
    have hfold : level name s.front = b.foldl (levelAfter name)
        (levelAfter name (level name a) o) := by
      rw [hfront, level, List.foldl_append]
      rfl
    have hup : levelAfter name (level name a) o = level name a + 1 := if_pos ho
    omega

instance (s : Spot) (name : String) : Decidable (s.Within name) :=
  decidable_of_iff _ (level_pos_iff name s)

/-! ### One counter for all -/

lemma isDropped_iff {x : String} : isDropped x ↔ x ∈ dropped := List.contains_iff_mem

lemma nodup_dropped : dropped.Nodup := by decide

/-- A sum in which one term is another one. -/
lemma sum_map_exchange {x : String} (hx : x ∈ dropped) {f g : String → Nat}
    (h : ∀ y, y ≠ x → g y = f y) :
    (dropped.map g).sum + f x = (dropped.map f).sum + g x := by
  have herase : (dropped.erase x).map g = (dropped.erase x).map f :=
    List.map_congr_left fun y hy => h y (nodup_dropped.mem_erase_iff.1 hy).1
  rw [((List.perm_cons_erase hx).map f).sum_eq, ((List.perm_cons_erase hx).map g).sum_eq,
    List.map_cons, List.map_cons,
    List.sum_cons, List.sum_cons, herase]
  omega

/-- A counter that is not that of the tag stays. -/
lemma total_snoc (ts : List Token) {t : Token} {name : String} (hname : name ∈ dropped)
    (h : ∀ x, x ≠ name → ∀ n, levelAfter x n t = n) :
    total (ts ++ [t]) + level name ts = total ts + levelAfter name (level name ts) t := by
  rw [total, total, ← level_snoc]
  exact sum_map_exchange hname fun x hx => (level_snoc x ts t).trans (h x hx _)

/-- What one more token does to the one counter and to the others together. -/
lemma counters_snoc (ts : List Token) (t : Token) :
    (depth (ts ++ [t]) = depth ts + 1 ∧ total (ts ++ [t]) = total ts + 1) ∨
      (∃ name ∈ dropped, t.closes name ∧ depth (ts ++ [t]) = depth ts - 1 ∧
        total (ts ++ [t]) + level name ts = total ts + (level name ts - 1)) ∨
        (depth (ts ++ [t]) = depth ts ∧ total (ts ++ [t]) = total ts) := by
  have hother : ∀ x, x ≠ t.tagName → ∀ n, levelAfter x n t = n := by
    intro x hx n
    have hne : (t.tagName == x) = false := beq_eq_false_iff_ne.2 (Ne.symm hx)
    rw [levelAfter, Token.opens, Token.closes, hne, Bool.and_false, Bool.and_false]
    rfl
  have hstay (h : ∀ x ∈ dropped, ∀ n, levelAfter x n t = n) : total (ts ++ [t]) = total ts := by
    rw [total, List.map_congr_left fun x hx => (level_snoc x ts t).trans (h x hx _), total]
  rw [depth_snoc]
  cases hdrop : isDropped t.tagName with
  | false =>
    refine .inr (.inr ⟨?_, hstay fun x hx => hother x fun heq => ?_⟩)
    · rw [depthAfter, hdrop]
      cases t.kind <;> rfl
    · rw [isDropped_iff.2 (heq ▸ hx)] at hdrop
      cases hdrop
  | true =>
    have hname := isDropped_iff.1 hdrop
    have htotal := total_snoc ts hname hother
    cases hkind : t.kind with
    | startTag =>
      have ho : t.opens t.tagName = true := by
        rw [Token.opens, hkind, beq_self_eq_true t.tagName]; rfl
      rw [levelAfter, if_pos ho] at htotal
      exact .inl ⟨by rw [depthAfter, hkind, hdrop], by omega⟩
    | endTag =>
      have hc : t.closes t.tagName = true := by
        rw [Token.closes, hkind, beq_self_eq_true t.tagName]; rfl
      rw [levelAfter, opens_of_closes hc, if_neg Bool.false_ne_true, if_pos hc] at htotal
      exact .inr (.inl ⟨t.tagName, hname, hc, by rw [depthAfter, hkind, hdrop], htotal⟩)
    | text | selfClosing | comment | doctype =>
      refine .inr (.inr ⟨by rw [depthAfter, hkind], hstay fun x _ n => ?_⟩)
      rw [levelAfter, Token.opens, Token.closes, hkind]
      rfl

lemma total_eq_zero_iff {ts : List Token} : total ts = 0 ↔
    ∀ name ∈ dropped, ¬ 0 < level name ts := by
  rw [total, List.sum_eq_zero_iff_forall_eq_nat, List.forall_mem_map]
  exact forall₂_congr fun _ _ => Nat.pos_iff_ne_zero.not_left.symm

/-- The one counter is never above the others together. -/
lemma depth_le_total (ts : List Token) : depth ts ≤ total ts := by
  induction ts using List.reverseRecOn with
  | nil => exact Nat.zero_le _
  | append_singleton ts t ih =>
    -- where an end tag is the first of its name the others stay, and the one counter may fall
    obtain hsnoc | ⟨name, -, -, hsnoc⟩ | hsnoc := counters_snoc ts t <;> omega

/-- No end tag of one name stands in an open element of another name, unless there is an open
element of its own. -/
def NoStray (ts : List Token) : Prop :=
  ∀ s ∈ spots [] ts, ∀ name ∈ dropped, s.token.closes name → s.Within name ∨
    ∀ other ∈ dropped, ¬ s.Within other

lemma NoStray.of_append {a b : List Token} (h : NoStray (a ++ b)) : NoStray a := by
  intro s hs name hname hc
  obtain ⟨p, hp, hts⟩ := mem_spots.1 hs
  refine h ⟨s.front, s.token, s.back ++ b⟩ (mem_spots.2 ⟨p, hp, ?_⟩) name hname hc
  rw [hts, List.append_assoc]
  rfl

/-- Without stray end tags the one counter is all others together. -/
lemma depth_eq_total {ts : List Token} (h : NoStray ts) : depth ts = total ts := by
  induction ts using List.reverseRecOn with
  | nil => rfl
  | append_singleton ts t ih =>
    have hts := ih h.of_append
    obtain hsnoc | ⟨name, hname, hc, hdepth, htotal⟩ | hsnoc := counters_snoc ts t
    · omega
    · obtain hwithin | hnone := h ⟨ts, t, []⟩ (mem_spots.2 ⟨ts, rfl, rfl⟩) name hname hc
      · have hpos := (level_pos_iff name ⟨ts, t, []⟩).2 hwithin
        dsimp only at hpos
        omega
      · -- no counter can fall, for all are at zero
        have hzero : total ts = 0 :=
          total_eq_zero_iff.2 fun other hother =>
            (level_pos_iff other ⟨ts, t, []⟩).not.2 (hnone other hother)
        omega
    · omega

/-! ### What is kept -/

/-- The place of a token that is kept. -/
def Spot.isKept (s : Spot) : Bool := depth s.front == 0 && s.token.shows

lemma keptTexts_cons (n : Nat) (t : Token) (ts : List Token) :
    keptTexts n (t :: ts) =
      if n == 0 && t.shows then t.safeText :: keptTexts (depthAfter n t) ts
      else keptTexts (depthAfter n t) ts := by
  rw [keptTexts.eq_def, depthAfter, Token.shows]
  dsimp only
  cases t.kind <;> cases isDropped t.tagName <;> cases n <;> rfl

/-- The texts that are kept are those of the tokens at these places. -/
lemma keptTexts_spots (front ts : List Token) :
    keptTexts (depth front) ts = ((spots front ts).filter Spot.isKept).map (·.token.safeText) := by
  induction ts generalizing front with
  | nil => rfl
  | cons t ts ih =>
    rw [keptTexts_cons, spots, List.filter_cons, ← depth_snoc, ih, Spot.isKept]
    split <;> rfl

/-- An attribute that runs nothing: no handler, and no script as an address. -/
def IsHarmlessAttr (a : String × String) : Prop :=
  Text.startsWith (Text.lower a.1) "on" = false ∧
    (Text.lower a.1 ∈ ["href", "src", "action"] →
      Text.startsWith (Text.lower (Text.trim a.2)) "javascript:" = false)

/-- A token that runs nothing when it is written: neither a comment nor a tag of an element that is
dropped, and written with harmless attributes of its own only. -/
structure Token.IsHarmless (t : Token) : Prop where
  shows : t.kind ≠ .comment ∧ (t.kind ∈ [.startTag, .selfClosing, .endTag] → t.tagName ∉ dropped)
  attributes : t.kind ∈ [.startTag, .selfClosing] → ∃ attrs, attrs.Sublist t.attributes ∧
    (∀ a ∈ attrs, IsHarmlessAttr a) ∧
    t.safeText = "<" ++ t.tagText attrs ++ (if t.kind = .startTag then ">" else "/>")

lemma isHarmlessAttr {a : String × String} (h : isSafeAttr a) : IsHarmlessAttr a := by
  rw [isSafeAttr, Bool.and_eq_true, Bool.not_eq_true', Bool.not_eq_true',
    Bool.and_eq_false_iff] at h
  refine ⟨h.1, fun hmem => h.2.resolve_left fun hnot => ?_⟩
  rw [List.contains_iff_mem.2 hmem] at hnot
  cases hnot

/-- A tag that shows is not an end tag of an element that is dropped. -/
lemma closes_of_shows (hname : name ∈ dropped) (h : t.shows) : t.closes name = false := by
  by_contra hc
  rw [Bool.not_eq_false, Token.closes, Bool.and_eq_true, beq_iff_eq, beq_iff_eq] at hc
  rw [Token.shows, hc.1, hc.2, isDropped_iff.2 hname] at h
  cases h

lemma Token.isHarmless {t : Token} (h : t.shows) : t.IsHarmless := by
  have hattrs : ∀ a ∈ t.attributes.filter isSafeAttr, IsHarmlessAttr a :=
    fun a ha => isHarmlessAttr (List.mem_filter.1 ha).2
  rw [Token.shows] at h
  constructor
  · constructor
    · rintro hcomment
      rw [hcomment] at h
      cases h
    · intro htag hmem
      rw [isDropped_iff.2 hmem] at h
      simp only [List.mem_cons, List.not_mem_nil, or_false] at htag
      obtain hkind | hkind | hkind := htag <;> rw [hkind] at h <;> cases h
  · intro htag
    refine ⟨t.attributes.filter isSafeAttr, List.filter_sublist, hattrs, ?_⟩
    simp only [List.mem_cons, List.not_mem_nil, or_false] at htag
    obtain hkind | hkind := htag <;> rw [safeText, hkind] <;> rfl

/-- Every start tag of an element that is dropped has an end tag of its own. -/
def AllClosed (ts : List Token) : Prop :=
  ∀ s ∈ spots [] ts, ∀ name ∈ dropped, s.token.opens name → s.IsClosed name

/-- **What is kept of markup without scripts.** For all tokens: the texts that are kept are those of
tokens at some places, in their order; none of these tokens runs anything; and each place where a
token shows and no element is open is among them.  If every start tag has an end tag of its own,
each place where a token shows and that is inside no element is among them.  If no end tag of one
name strays into an element of another name, no place among them is inside an element. -/
theorem kept_of_tokens (ts : List Token) :
    ∃ kept : List Spot, keptTexts 0 ts = kept.map (·.token.safeText) ∧ kept.Sublist (spots [] ts) ∧
      (∀ s ∈ kept, s.token.IsHarmless) ∧
      (∀ s ∈ spots [] ts, s.token.shows → (∀ name ∈ dropped, ¬ s.Within name) → s ∈ kept) ∧
      (AllClosed ts → ∀ s ∈ spots [] ts, s.token.shows → (∀ name ∈ dropped, ¬ s.Inside name) →
      s ∈ kept) ∧
      (NoStray ts → ∀ s ∈ kept, ∀ name ∈ dropped, ¬ s.Inside name) := by
  have houtside : ∀ s ∈ spots [] ts, s.token.shows → (∀ name ∈ dropped, ¬ s.Within name) →
      s ∈ (spots [] ts).filter Spot.isKept := by
    intro s hs hshows hnone
    have hzero : total s.front = 0 := total_eq_zero_iff.2 fun name hname =>
      (level_pos_iff name s).not.2 (hnone name hname)
    have hdepth : depth s.front = 0 := Nat.le_zero.1 (hzero ▸ depth_le_total s.front)
    exact List.mem_filter.2 ⟨hs, Bool.and_eq_true_iff.2 ⟨beq_iff_eq.2 hdepth, hshows⟩⟩
  refine ⟨(spots [] ts).filter Spot.isKept, keptTexts_spots [] ts, List.filter_sublist, ?_,
    houtside, ?_, ?_⟩
  · intro s hs
    exact Token.isHarmless (Bool.and_eq_true_iff.1 (List.mem_filter.1 hs).2).2
  · intro hclosed s hs hshows hnone
    refine houtside s hs hshows fun name hname hwithin => hnone name hname ?_
    exact hwithin.inside (fun s' hs' ho => hclosed s' hs' name hname ho) hs
      (closes_of_shows hname hshows)
  · intro hstray s hs name hname hinside
    obtain ⟨hspot, hkept⟩ := List.mem_filter.1 hs
    obtain ⟨p, hp, hts⟩ := mem_spots.1 hspot
    rw [List.nil_append] at hp
    rw [← hp] at hts
    have hdepth : depth s.front = 0 := eq_of_beq (Bool.and_eq_true_iff.1 hkept).1
    rw [depth_eq_total (NoStray.of_append (hts ▸ hstray)), total_eq_zero_iff] at hdepth
    exact hdepth name hname ((level_pos_iff name s).2 hinside.within)

/-- Of an element and a text behind it the text is kept. -/
theorem kept_of_tokens_behind : let ts := tokenize "<object>x</object>y".toList
    NoStray ts ∧ AllClosed ts ∧
      ∃ kept : List Spot, keptTexts 0 ts = kept.map (·.token.safeText) ∧
        (∀ s ∈ kept, s.token.IsHarmless ∧ ∀ name ∈ dropped, ¬ s.Inside name) ∧
        ∃ s ∈ kept, s.token.safeText = "y" := by
  intro ts
  have hts : ts = [⟨.startTag, "<object>".toList, "object".toList, [], false, false⟩,
    ⟨.text, "x".toList, [], [], false, false⟩, ⟨.endTag, "</object>".toList, "object".toList, [],
      false, false⟩,
    ⟨.text, "y".toList, [], [], false, false⟩] := rfl
  have hstray : NoStray ts := by
    unfold NoStray
    decide +kernel
  have hclosed : AllClosed ts := by
    rw [hts]
    intro s hs name _ ho
    simp only [spots, List.mem_cons, List.not_mem_nil, or_false] at hs
    obtain rfl | rfl | rfl | rfl := hs
    · obtain rfl : "object" = name := eq_of_beq ho
      exact ⟨[_], _, [_], rfl, rfl, by decide, by decide⟩
    · cases ho
    · cases ho
    · cases ho
  obtain ⟨kept, htexts, -, hharmless, houtside, -, hinside⟩ := kept_of_tokens ts
  refine ⟨hstray, hclosed, kept, htexts, fun s hs => ⟨hharmless s hs, hinside hstray s hs⟩, ?_⟩
  refine ⟨⟨ts.take 3, ⟨.text, "y".toList, [], [], false, false⟩, []⟩,
    houtside _ ?_ rfl ?_, by decide +kernel⟩
  · exact mem_spots.2 ⟨_, rfl, rfl⟩
  · decide +kernel

/-- An end tag that strays into an element of another name ends it: all that shows is inside, and is
kept. -/
theorem kept_inside : let ts := tokenize "<object></embed>leak</object>".toList
    (∀ s ∈ spots [] ts, s.token.shows → s.Inside "object") ∧
        sanitize "<object></embed>leak</object>" = "leak" := by
  intro ts
  refine ⟨fun s hs hshows => ?_, by decide +kernel⟩
  have hts : ts = [⟨.startTag, "<object>".toList, "object".toList, [], false, false⟩,
    ⟨.endTag, "</embed>".toList, "embed".toList, [], false, false⟩,
      ⟨.text, "leak".toList, [], [], false, false⟩,
    ⟨.endTag, "</object>".toList, "object".toList, [], false, false⟩] := rfl
  rw [hts] at hs
  simp only [spots, List.mem_cons, List.not_mem_nil, or_false] at hs
  obtain rfl | rfl | rfl | rfl := hs
  · cases hshows
  · cases hshows
  · exact ⟨[], _, [_], [], _, [], rfl, rfl, rfl, rfl, by decide, by decide⟩
  · cases hshows

end Trellis.Html
