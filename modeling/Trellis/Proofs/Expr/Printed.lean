/-
The canonical text of a tree gives the tokens of the tree.

`Expr.Prints` says it for an expression in front of any text that does not continue its last token,
with one lemma for each constructor.  Parts are written next to each other without a blank between
them in many places; the only place where two tokens become one is a sign before an operand that
starts with the same sign.  So either no sign stands there (`Node.signsApart`), or the text is read
without taking two signs for one, and then nothing may be updated before it is read
(`Node.updatesAfter`).
-/
import Trellis.Expr.Names
import Trellis.Proofs.Expr.Grammar

namespace Trellis

open Token

/-- Whether a node is not a sign in front of the same sign. -/
def Node.signsApart : Node → Bool
  | .expr (.unary _ .neg a) => a.text.toList.head? != some '-'
  | .expr (.unary _ .pos a) => a.text.toList.head? != some '+'
  | _ => true

/-- Whether a node is not `++x` or `--x`. -/
def Node.updatesAfter : Node → Bool
  | .expr (.update _ _ before _) => !before
  | _ => true

/-- Whether the text of a node is divided into its tokens. -/
def Node.parts (fused : Bool) (n : Node) : Bool := if fused then n.signsApart else n.updatesAfter

/-- Whether no unary sign of a program stands in front of the same sign. -/
def Program.signsApart (p : Program) : Bool := p.nodes.all Node.signsApart

/-- Whether a program has no `++x` and no `--x`. -/
def Program.updatesAfter (p : Program) : Bool := p.nodes.all Node.updatesAfter

namespace Token

section
variable {fused : Bool} {s t : Spot} {cs rest : List Char} {fs : List Face}

lemma clear_append {c : Char} (h : cs.head? = some c) (hc : isWordChar c = false ∧ c ≠ '.') :
    Clear (cs ++ rest) := by
  obtain ⟨ds, rfl⟩ : ∃ ds, cs = c :: ds := by
    cases cs with
    | nil => cases h
    | cons d ds => exact ⟨ds, by simp_all⟩
  exact ⟨hc.1, fun hdot => absurd hdot hc.2⟩

/-- An operator with a space on each side. -/
lemma emits_spaced (kind : Kind) (op : String)
    (hop : ∀ rest, punctuation? (op.toList ++ ' ' :: rest) = some (kind, op.toList.length))
    (hnext : Spot.next .after kind = .before) (hcs : Emits fused .before cs fs t rest) :
    Emits fused .after (" ".toList ++ (op.toList ++ (" ".toList ++ cs))) (.plain kind op :: fs) t
      rest := by
  have hmark : Emits fused .after op.toList [.plain kind op] .before
      (" ".toList ++ cs ++ rest) := by
    rw [← hnext]
    exact emits_mark (hop _) fun _ => .inr rfl
  exact emits_space.append (hmark.append (emits_space.append hcs))

/-- A text between two brackets. -/
lemma emits_brackets {ko kc : Kind} {o c : String}
    (ho : ∀ rest, punctuation? (o.toList ++ rest) = some (ko, o.toList.length))
    (hc : ∀ rest, punctuation? (c.toList ++ rest) = some (kc, c.toList.length))
    (hko : ko = .lparen ∨ ko = .lbracket ∨ ko = .lbrace)
    (hkc : kc = .rparen ∨ kc = .rbracket ∨ kc = .rbrace)
    (hcs : Emits fused .before cs fs t (c.toList ++ rest)) :
    Emits fused s (o.toList ++ (cs ++ c.toList))
    (Face.plain ko o :: (fs ++ [Face.plain kc c])) .after
      rest := by
  have hopen : Emits fused s o.toList [.plain ko o] .before (cs ++ c.toList ++ rest) := by
    have hnext : s.next ko = .before := by rcases hko with rfl | rfl | rfl <;> cases s <;> rfl
    rw [← hnext]
    exact emits_mark (ho _) (by rcases hko with rfl | rfl | rfl <;> simp)
  have hclose : Emits fused t c.toList [.plain kc c] .after rest := by
    have hnext : t.next kc = .after := by rcases hkc with rfl | rfl | rfl <;> cases t <;> rfl
    rw [← hnext]
    exact emits_mark (hc _) (by rcases hkc with rfl | rfl | rfl <;> simp)
  exact hopen.append (hcs.append hclose)

/-- A separator with a space after it. -/
lemma emits_separator {kind : Kind} {sep : String}
    (hsep : ∀ rest, punctuation? (sep.toList ++ rest) = some (kind, sep.toList.length))
    (hkind : kind = .comma ∨ kind = .colon ∨ kind = .semicolon) :
    Emits fused s (sep.toList ++ " ".toList) [.plain kind sep] .before rest := by
  have hmark : Emits fused s sep.toList [.plain kind sep] .before (" ".toList ++ rest) := by
    have hnext : s.next kind = .before := by rcases hkind with rfl | rfl | rfl <;> cases s <;> rfl
    rw [← hnext]
    exact emits_mark (hsep _) (by rcases hkind with rfl | rfl | rfl <;> simp)
  exact hmark.append emits_space

lemma emits_comma : Emits fused s ", ".toList [.plain .comma ","] .before rest :=
  emits_separator (fun _ => rfl) (.inl rfl)

lemma emits_colon : Emits fused s ": ".toList [.plain .colon ":"] .before rest :=
  emits_separator (fun _ => rfl) (.inr (.inl rfl))

lemma emits_semicolon : Emits fused s "; ".toList [.plain .semicolon ";"] .before rest :=
  emits_separator (fun _ => rfl) (.inr (.inr rfl))

end

end Token

namespace Expr

variable {fused : Bool}

/-- Whether the text of an expression gives the tokens of the expression. -/
def Prints (fused : Bool) (e : Expr) : Prop :=
  ∀ ⦃rest⦄, Clear rest → Emits fused .before e.text.toList e.faces .after rest

/-- An expression of one token. -/
lemma prints_of_token {e : Expr} {f : Face} (hfaces : e.faces = [f]) (htext : e.text = f.raw)
    (hf : f.Sound) (hatom : f.kind.isAtom = true) (hline : f.newLine = false)
    (hkind : f.kind ≠ .typeof) : e.Prints fused := by
  intro rest hrest
  have hnext : Spot.next .before f.kind = .after := by
    revert hatom hkind
    cases f.kind <;> decide
  rw [hfaces, htext, ← hnext]
  exact emits_atom hf hatom hline hrest

lemma prints_this (s : Span) : (Expr.this s).Prints fused :=
  prints_of_token rfl rfl ⟨[], by rfl⟩ rfl rfl (by decide)

lemma prints_ident (s : Span) {name : String} (h : (Face.plain .ident name).Sound) :
    (Expr.ident s name).Prints fused :=
  prints_of_token rfl rfl h rfl rfl (fun hk => by cases hk)

lemma prints_lit (s : Span) {l : Literal} (h : l.Fits) : (Expr.lit s l).Prints fused := by
  cases l with
  | string value raw => exact prints_of_token rfl rfl h rfl rfl (fun hk => by cases hk)
  | number raw => exact prints_of_token rfl rfl h.1 rfl rfl (fun hk => by cases hk)
  | bool b =>
    cases b with
    | true => exact prints_of_token rfl rfl ⟨[], by rfl⟩ rfl rfl (by decide)
    | false => exact prints_of_token rfl rfl ⟨[], by rfl⟩ rfl rfl (by decide)
  | null => exact prints_of_token rfl rfl ⟨[], by rfl⟩ rfl rfl (by decide)

lemma prints_paren (s : Span) {inner : Expr} (h : inner.Prints fused) :
    (Expr.paren s inner).Prints fused := by
  intro rest hrest
  simp only [Expr.text, String.toList_append, List.append_assoc]
  exact emits_brackets (fun _ => rfl) (fun _ => rfl) (.inl rfl) (.inl rfl)
    (h (clear_append (c := ')') rfl (by decide)))

/-! ### Operators before an operand -/

/-- An expression starts with a character that continues no operator. -/
def Opens (text : String) : Prop := ∃ c, text.toList.head? = some c ∧ c ≠ '='

lemma Opens.append {text : String} (h : Opens text) (more : String) : Opens (text ++ more) := by
  obtain ⟨c, hc, hne⟩ := h
  refine ⟨c, ?_, hne⟩
  rw [String.toList_append, List.head?_append, hc]
  rfl

lemma opens_of_sound {f : Face} (hf : f.Sound) (hatom : f.kind.isAtom = true) : Opens f.raw := by
  obtain ⟨c, cs, hraw, -, hc⟩ := hf.head hatom
  refine ⟨c, by rw [hraw]; rfl, ?_⟩
  rintro rfl
  exact absurd hc (by decide)

mutual
lemma opens_text : (e : Expr) → ∀ {r}, e.Fits r → Opens e.text
  | .this _, _, _ => show Opens "this" from ⟨'t', rfl, by decide⟩
  | .ident _ _, _, h => opens_of_sound h rfl
  | .lit _ (.string _ _), _, h => opens_of_sound (f := .string _ _) h rfl
  | .lit _ (.number _), _, h => opens_of_sound (f := .plain .number _) h.1 rfl
  | .lit _ (.bool true), _, _ => show Opens "true" from ⟨'t', rfl, by decide⟩
  | .lit _ (.bool false), _, _ => show Opens "false" from ⟨'f', rfl, by decide⟩
  | .lit _ .null, _, _ => show Opens "null" from ⟨'n', rfl, by decide⟩
  | .array _ _, _, _ => (Opens.append ⟨'[', rfl, by decide⟩ _).append _
  | .object _ _, _, _ => (Opens.append ⟨'\x7b', rfl, by decide⟩ _).append _
  | .seq _ es, _, h => opens_textList es h.2
  | .unary _ .not _, _, _ => Opens.append ⟨'!', rfl, by decide⟩ _
  | .unary _ .neg _, _, _ => Opens.append ⟨'-', rfl, by decide⟩ _
  | .unary _ .pos _, _, _ => Opens.append ⟨'+', rfl, by decide⟩ _
  | .unary _ .typeof _, _, _ => Opens.append ⟨'t', rfl, by decide⟩ _
  | .binary _ _ left _, _, h => ((((left.opens_text h.2.1).append _).append _).append _).append _
  | .logical _ _ left _, _, h => ((((left.opens_text h.2.1).append _).append _).append _).append _
  | .cond _ test _ _, _, h => ((((test.opens_text h.2.1).append _).append _).append _).append _
  | .assign _ _ t _, _, h => ((((t.opens_text h.2.1).append _).append _).append _).append _
  | .update _ .inc true _, _, _ => Opens.append ⟨'+', rfl, by decide⟩ _
  | .update _ .dec true _, _, _ => Opens.append ⟨'-', rfl, by decide⟩ _
  | .update _ _ false t, _, h => (t.opens_text h.2.2).append _
  | .call _ callee _, _, h => (((callee.opens_text h.2.1).append _).append _).append _
  | .member _ base _ _, _, h => ((base.opens_text h.2.1).append _).append _
  | .index _ base _, _, h => (((base.opens_text h.2.1).append _).append _).append _
  | .pipe _ entity _ _, _, h => ((entity.opens_text h.2.1).append _).append _
  | .paren _ _, _, _ => (Opens.append ⟨'(', rfl, by decide⟩ _).append _

lemma opens_textList : (es : List Expr) → ∀ {r}, FitsItems es r → Opens (textList es)
  | e :: _ :: _, _, h => ((e.opens_text h.1).append _).append _
end

lemma emits_bang {text : String} (h : Opens text) (rest : List Char) :
    Emits fused .before "!".toList [.plain .bang "!"] .before (text.toList ++ rest) := by
  obtain ⟨c, hc, hne⟩ := h
  obtain ⟨cs, hcs⟩ := List.head?_eq_some_iff.1 hc
  rw [hcs]
  exact emits_mark (punctuation?_single _ (.inl ⟨rfl, rfl, hne⟩)) (by simp)

lemma prints_unary (s : Span) (op : UnaryOp) {a : Expr} (h : a.Prints fused) (ho : Opens a.text)
    (hparts : (Node.expr (.unary s op a)).parts fused = true) :
    (Expr.unary s op a).Prints fused := by
  intro rest hrest
  have hrest' := h hrest
  obtain ⟨c, hc, hne⟩ := ho
  have heq : (a.text.toList ++ rest).head? ≠ some '=' := by
    rw [List.head?_append, hc]
    simpa using hne
  have hsign : ∀ d, (fused = true → a.text.toList.head? ≠ some d) →
      fused = true → (a.text.toList ++ rest).head? ≠ some d := by
    intro d hd hf
    have hcd := hd hf
    rw [hc] at hcd
    rw [List.head?_append, hc]
    exact hcd
  cases op with
  | not =>
    simp only [Expr.text, String.toList_append]
    exact (emits_bang ⟨c, hc, hne⟩ rest).append hrest'
  | neg =>
    simp only [Expr.text, String.toList_append]
    have hapart : fused = true → a.text.toList.head? ≠ some '-' := by
      rintro rfl
      exact bne_iff_ne.1 hparts
    exact (emits_sign (.inl ⟨rfl, rfl⟩) heq (hsign _ hapart)).append hrest'
  | pos =>
    simp only [Expr.text, String.toList_append]
    have hapart : fused = true → a.text.toList.head? ≠ some '+' := by
      rintro rfl
      exact bne_iff_ne.1 hparts
    exact (emits_sign (.inr ⟨rfl, rfl⟩) heq (hsign _ hapart)).append hrest'
  | typeof =>
    have hword : Emits fused .before "typeof".toList [.plain .typeof "typeof"] .before
        (" ".toList ++ a.text.toList ++ rest) :=
      emits_atom (f := .plain .typeof "typeof") ⟨[], by rfl⟩ rfl rfl
        (clear_append (c := ' ') rfl (by decide))
    simp only [Expr.text, String.toList_append]
    exact hword.append (emits_space.append hrest')

lemma prints_updateBefore (s : Span) (op : UpdateOp) {target : Expr} (h : target.Prints fused)
    (hparts : (Node.expr (.update s op true target)).parts fused = true) :
    (Expr.update s op true target).Prints fused := by
  intro rest hrest
  have hfused : fused = true := by
    cases fused with
    | true => rfl
    | false => cases hparts
  have hmark : Emits fused .before op.text.toList [.plain op.kind op.text] .before
      (target.text.toList ++ rest) := by
    cases op <;> exact emits_mark rfl fun _ => .inl hfused
  simp only [Expr.text, if_true, String.toList_append]
  exact hmark.append (h hrest)

lemma prints_updateAfter (s : Span) (op : UpdateOp) {target : Expr} (h : target.Prints fused) :
    (Expr.update s op false target).Prints fused := by
  intro rest hrest
  have hclear : Clear (op.text.toList ++ rest) := by
    cases op
    · exact clear_append (c := '+') rfl (by decide)
    · exact clear_append (c := '-') rfl (by decide)
  have hmark : Emits fused .after op.text.toList [.plain op.kind op.text] .after rest := by
    cases op <;> exact emits_mark rfl fun _ => .inr rfl
  simp only [Expr.text, Bool.false_eq_true, if_false, String.toList_append]
  exact (h hclear).append hmark

/-! ### Operators between operands -/

/-- An operator between two operands. -/
lemma prints_infix {e left right : Expr} {kind : Kind} {op : String}
    (htext : e.text = left.text ++ " " ++ op ++ " " ++ right.text)
    (hfaces : e.faces = left.faces ++ .plain kind op :: right.faces)
    (hop : ∀ rest, punctuation? (op.toList ++ ' ' :: rest) = some (kind, op.toList.length))
    (hnext : Spot.next .after kind = .before) (hl : left.Prints fused) (hr : right.Prints fused) :
    e.Prints fused := by
  intro rest hrest
  rw [htext, hfaces]
  simp only [String.toList_append, List.append_assoc]
  exact (hl (clear_append (c := ' ') rfl (by decide))).append
    (emits_spaced kind op hop hnext (hr hrest))

lemma prints_binary (s : Span) (op : BinaryOp) {left right : Expr} (hl : left.Prints fused)
    (hr : right.Prints fused) : (Expr.binary s op left right).Prints fused :=
  prints_infix rfl rfl (by cases op <;> exact fun _ => rfl) (by cases op <;> rfl) hl hr

lemma prints_logical (s : Span) (op : LogicalOp) {left right : Expr} (hl : left.Prints fused)
    (hr : right.Prints fused) : (Expr.logical s op left right).Prints fused :=
  prints_infix rfl rfl (by cases op <;> exact fun _ => rfl) (by cases op <;> rfl) hl hr

lemma prints_assign (s : Span) (op : AssignOp) {target value : Expr} (ht : target.Prints fused)
    (hv : value.Prints fused) : (Expr.assign s op target value).Prints fused :=
  prints_infix rfl rfl (by cases op <;> exact fun _ => rfl) (by cases op <;> rfl) ht hv

lemma prints_cond (s : Span) {test consequent alternate : Expr} (ht : test.Prints fused)
    (hc : consequent.Prints fused) (ha : alternate.Prints fused) :
    (Expr.cond s test consequent alternate).Prints fused := by
  intro rest hrest
  have hrest' := (hc (clear_append (c := ' ') rfl (by decide))).append
    (emits_spaced .colon ":" (fun _ => rfl) rfl (ha hrest))
  simp only [Expr.text, String.toList_append, List.append_assoc]
  exact (ht (clear_append (c := ' ') rfl (by decide))).append
    (emits_spaced .question "?" (fun _ => rfl) rfl hrest')

/-! ### Lists -/

lemma prints_items {es : List Expr} (hes : ∀ e ∈ es, e.Prints fused) (hne : es ≠ [])
    {rest : List Char} (hrest : Clear rest) :
    Emits fused .before (textList es).toList (facesList es) .after rest := by
  induction es with
  | nil => exact absurd rfl hne
  | cons e es ih =>
    cases es with
    | nil => exact hes e (by simp) hrest
    | cons f es =>
      have hmore := ih (fun x hx => hes x (List.mem_cons_of_mem _ hx)) (by simp)
      simp only [textList, String.toList_append, List.append_assoc]
      exact (hes e (by simp) (clear_append (c := ',') rfl (by decide))).append
        (emits_comma.append hmore)

/-- A list, empty or not, in front of a bracket. -/
lemma prints_list {es : List Expr} (hes : ∀ e ∈ es, e.Prints fused) (rest : List Char)
    (hrest : Clear rest) :
    ∃ t, Emits fused .before (textList es).toList (facesList es) t rest := by
  cases es with
  | nil => exact ⟨.before, fun n => rfl⟩
  | cons e es => exact ⟨.after, prints_items hes (by simp) hrest⟩

lemma prints_array (s : Span) {es : List Expr} (hes : ∀ e ∈ es, e.Prints fused) :
    (Expr.array s es).Prints fused := by
  intro rest hrest
  obtain ⟨t, hlist⟩ := prints_list hes ("]".toList ++ rest)
    (clear_append (c := ']') rfl (by decide))
  simp only [Expr.text, String.toList_append, List.append_assoc]
  exact emits_brackets (fun _ => rfl) (fun _ => rfl) (.inr (.inl rfl)) (.inr (.inl rfl)) hlist

lemma prints_seq (s : Span) {es : List Expr} (hes : ∀ e ∈ es, e.Prints fused) (hne : es ≠ []) :
    (Expr.seq s es).Prints fused :=
  fun _ hrest => prints_items hes hne hrest

lemma prints_arguments {es : List Expr} (hes : ∀ e ∈ es, e.Prints fused) (rest : List Char) :
    Emits fused .after ("(".toList ++ ((textList es).toList ++ ")".toList))
      (Face.plain .lparen "(" :: (facesList es ++ [Face.plain .rparen ")"])) .after rest := by
  obtain ⟨t, hlist⟩ := prints_list hes (")".toList ++ rest)
    (clear_append (c := ')') rfl (by decide))
  exact emits_brackets (fun _ => rfl) (fun _ => rfl) (.inl rfl) (.inl rfl) hlist

lemma prints_call (s : Span) {callee : Expr} {es : List Expr} (hc : callee.Prints fused)
    (hes : ∀ e ∈ es, e.Prints fused) : (Expr.call s callee es).Prints fused := by
  intro rest hrest
  simp only [Expr.text, String.toList_append, List.append_assoc]
  exact (hc (clear_append (c := '(') rfl (by decide))).append (prints_arguments hes rest)

lemma prints_index (s : Span) {base i : Expr} (hb : base.Prints fused) (hi : i.Prints fused) :
    (Expr.index s base i).Prints fused := by
  intro rest hrest
  have hindex : Emits fused .after ("[".toList ++ (i.text.toList ++ "]".toList)) _ .after rest :=
    emits_brackets (fun _ => rfl) (fun _ => rfl) (.inr (.inl rfl)) (.inr (.inl rfl))
      (hi (clear_append (c := ']') rfl (by decide)))
  simp only [Expr.text, String.toList_append, List.append_assoc]
  exact (hb (clear_append (c := '[') rfl (by decide))).append hindex

lemma prints_member (s : Span) {base : Expr} (ns : Span) {name : String} (hb : base.Prints fused)
    (hname : (Face.word name).Sound) : (Expr.member s base ns name).Prints fused := by
  intro rest hrest
  have hword : (Kind.ofWord name).isWord = true := isWord_ofWord name
  have hatom : (Kind.ofWord name).isAtom = true := by
    revert hword
    cases Kind.ofWord name <;> decide
  obtain ⟨c, cs, hcs, hstart, -⟩ := hname.head hatom
  replace hcs : name.toList = c :: cs := hcs
  obtain ⟨-, -, -, hpoint, hc, -⟩ := isWordStart_not (hstart hword)
  have hdigits : digitCount (name.toList ++ rest) = 0 := by
    rw [hcs]
    simp [digitCount, hc]
  have hclear : Clear (".".toList ++ name.toList ++ rest) := ⟨by decide, fun _ => hdigits⟩
  have hdot : Emits fused .after ".".toList [.plain .dot "."] .point (name.toList ++ rest) := by
    rw [hcs]
    exact emits_mark (punctuation?_single _ (.inr (.inr (.inr (.inr ⟨rfl, rfl, hpoint, hc⟩)))))
      (by simp)
  have hlast : Emits fused .point name.toList [.word name] .after rest := by
    have hnext : Spot.next .point (Kind.ofWord name) = .after := by
      revert hword
      cases Kind.ofWord name <;> decide
    rw [← hnext]
    exact emits_atom hname hatom rfl hrest
  simp only [Expr.text, String.toList_append, List.append_assoc]
  exact (hb hclear).append (hdot.append hlast)

lemma Key.face_raw (k : Key) : k.face.raw = k.text := by cases k <;> rfl

lemma Key.Fits.sound {k : Key} (h : k.Fits) :
    k.face.Sound ∧ k.face.kind.isAtom = true ∧ k.face.newLine = false := by
  cases k with
  | word s name =>
    refine ⟨h, ?_, rfl⟩
    have hword := isWord_ofWord name
    change (Kind.ofWord name).isAtom = true
    revert hword
    cases Kind.ofWord name <;> decide
  | string s value raw => exact ⟨h, rfl, rfl⟩
  | number s raw => exact ⟨h.1, rfl, rfl⟩

lemma prints_property {k : Key} {v : Expr} (hk : k.Fits) (hv : v.Prints fused) {rest : List Char}
    (hrest : Clear rest) :
    Emits fused .before (Property.text (.mk k v)).toList (Property.faces (.mk k v)) .after
    rest := by
  obtain ⟨hsound, hatom, hline⟩ := hk.sound
  have hkey : Emits fused .before k.text.toList [k.face] (Spot.next .before k.face.kind)
      (": ".toList ++ v.text.toList ++ rest) := by
    rw [← k.face_raw]
    exact emits_atom hsound hatom hline (clear_append (c := ':') rfl (by decide))
  simp only [Property.text, String.toList_append, List.append_assoc]
  exact hkey.append (emits_colon.append (hv hrest))

lemma prints_properties {ps : List Property} (hps : ∀ p ∈ ps, p.value.Prints fused)
    (hfits : Property.FitsAll ps) (rest : List Char) (hrest : Clear rest) :
    ∃ t, Emits fused .before (Property.textList ps).toList (Property.facesList ps) t rest := by
  cases ps with
  | nil => exact ⟨.before, fun n => rfl⟩
  | cons p ps =>
    refine ⟨.after, ?_⟩
    induction ps generalizing p with
    | nil =>
      obtain ⟨k, v⟩ := p
      exact prints_property hfits.1 (hps (.mk k v) (by simp)) hrest
    | cons q ps ih =>
      obtain ⟨k, v⟩ := p
      have hmore := ih q (fun x hx => hps x (List.mem_cons_of_mem _ hx)) hfits.2.2
      simp only [Property.textList, String.toList_append, List.append_assoc]
      exact (prints_property hfits.1 (hps (.mk k v) (by simp))
        (clear_append (c := ',') rfl (by decide))).append (emits_comma.append hmore)

lemma prints_object (s : Span) {ps : List Property} (hps : ∀ p ∈ ps, p.value.Prints fused)
    (hfits : Property.FitsAll ps) : (Expr.object s ps).Prints fused := by
  intro rest hrest
  obtain ⟨t, hlist⟩ := prints_properties hps hfits ("\x7d".toList ++ rest)
    (clear_append (c := '\x7d') rfl (by decide))
  simp only [Expr.text, String.toList_append, List.append_assoc]
  exact emits_brackets (fun _ => rfl) (fun _ => rfl) (.inr (.inr rfl)) (.inr (.inr rfl)) hlist

/-! ### Decorators -/

lemma prints_decorator {d : Decorator} (hd : ∀ e ∈ d.arguments, e.Prints fused)
    (hfits : Decorator.FitsAll [d]) {rest : List Char} (hrest : Clear rest) :
    Emits fused .before d.text.toList (Decorator.faces d) .after rest := by
  obtain ⟨s, name, arguments, parens⟩ := d
  cases parens with
  | false =>
    exact emits_atom (f := .plain .ident name) hfits.1 rfl rfl hrest
  | true =>
    have hname : Emits fused .before name.toList [.plain .ident name] .after
        ("(".toList ++ ((textList arguments).toList ++ ")".toList) ++ rest) :=
      emits_atom (f := .plain .ident name) hfits.1 rfl rfl
        (clear_append (c := '(') rfl (by decide))
    simp only [Decorator.text, if_true, String.toList_append, List.append_assoc]
    exact hname.append (prints_arguments hd rest)

lemma opens_decorator {d : Decorator} (hfits : Decorator.FitsAll [d]) :
    ∃ c, d.text.toList.head? = some c ∧ isWordStart c = true := by
  obtain ⟨s, name, arguments, parens⟩ := d
  obtain ⟨c, cs, hcs, hstart, -⟩ := hfits.1.head rfl
  replace hcs : name.toList = c :: cs := hcs
  refine ⟨c, ?_, hstart rfl⟩
  cases parens with
  | false => exact congrArg List.head? hcs
  | true =>
    simp only [Decorator.text, if_true, String.toList_append, hcs]
    rfl

/-- A bar in front of a decorator. -/
lemma emits_bar {d : Decorator} (hfits : Decorator.FitsAll [d]) (more : List Char) :
    Emits fused .after "|".toList [.plain .pipe "|"] .before (d.text.toList ++ more) := by
  obtain ⟨c, hc, hstart⟩ := opens_decorator hfits
  obtain ⟨cs, hcs⟩ := List.head?_eq_some_iff.1 hc
  have hne : c ≠ '|' := by
    rintro rfl
    exact absurd hstart (by decide)
  rw [hcs]
  exact emits_mark (punctuation?_single _ (.inr (.inl ⟨rfl, rfl, hne⟩))) (by simp)

lemma prints_chain {d : Decorator} {ds : List Decorator}
    (hds : ∀ x ∈ d :: ds, ∀ e ∈ x.arguments, e.Prints fused) (hfits : Decorator.FitsAll (d :: ds))
    {rest : List Char} (hrest : Clear rest) :
    Emits fused .after ("|".toList ++ (Decorator.textChain (d :: ds)).toList)
      (.plain .pipe "|" :: Decorator.facesChain (d :: ds)) .after rest := by
  induction ds generalizing d with
  | nil =>
    exact (emits_bar hfits rest).append (prints_decorator (hds d (by simp)) hfits hrest)
  | cons d₂ ds ih =>
    have hfirst : Decorator.FitsAll [d] := by
      obtain ⟨s, name, arguments, parens⟩ := d
      exact ⟨hfits.1, hfits.2.1, hfits.2.2.1, trivial⟩
    have hmore := ih (fun x hx => hds x (List.mem_cons_of_mem _ hx)) (by
      obtain ⟨s, name, arguments, parens⟩ := d
      exact hfits.2.2.2)
    have hbar : Emits fused .after "|".toList [.plain .pipe "|"] .before
        (d.text.toList ++ ("|".toList ++ (Decorator.textChain (d₂ :: ds)).toList ++ rest)) :=
      emits_bar hfirst _
    rw [← List.append_assoc] at hbar
    simp only [Decorator.textChain, String.toList_append, List.append_assoc]
    exact hbar.append ((prints_decorator (hds d (by simp)) hfirst
      (clear_append (c := '|') rfl (by decide))).append hmore)

lemma prints_pipe (s : Span) {entity : Expr} (cs : Span) {ds : List Decorator}
    (he : entity.Prints fused) (hds : ∀ d ∈ ds, ∀ e ∈ d.arguments, e.Prints fused)
    (hne : ds ≠ []) (hfits : Decorator.FitsAll ds) : (Expr.pipe s entity cs ds).Prints fused := by
  intro rest hrest
  cases ds with
  | nil => exact absurd rfl hne
  | cons d ds =>
    simp only [Expr.text, String.toList_append, List.append_assoc]
    exact (he (clear_append (c := '|') rfl (by decide))).append (prints_chain hds hfits hrest)

/-! ### All expressions -/

mutual
/-- The text of every expression that fits the grammar gives its tokens. -/
theorem prints : (e : Expr) → ∀ {r}, e.Fits r → e.nodes.all (Node.parts fused) = true →
    e.Prints fused
  | .this s, _, _, _ => prints_this s
  | .ident s _, _, h, _ => prints_ident s h
  | .lit s _, _, h, _ => prints_lit s h
  | .array s es, _, h, hn => by
    simp only [Expr.nodes, List.all_append, Bool.and_eq_true] at hn
    exact prints_array s (printsAll es h hn.1)
  | .object s ps, _, h, hn => by
    simp only [Expr.nodes, List.all_append, Bool.and_eq_true] at hn
    exact prints_object s (printsProperties ps h hn.1) h
  | .seq s es, _, h, hn => by
    simp only [Expr.nodes, List.all_append, Bool.and_eq_true] at hn
    refine prints_seq s (printsItems es h.2 hn.1) ?_
    rintro rfl
    exact h.2
  | .unary s op a, _, h, hn => by
    simp only [Expr.nodes, List.all_append, Bool.and_eq_true, List.all_cons, List.all_nil] at hn
    exact prints_unary s op (a.prints h hn.1) (a.opens_text h) hn.2.1
  | .binary s op left right, _, h, hn => by
    simp only [Expr.nodes, List.all_append, Bool.and_eq_true] at hn
    exact prints_binary s op (left.prints h.2.1 hn.1.1) (right.prints h.2.2.2 hn.1.2)
  | .logical s op left right, _, h, hn => by
    simp only [Expr.nodes, List.all_append, Bool.and_eq_true] at hn
    exact prints_logical s op (left.prints h.2.1 hn.1.1) (right.prints h.2.2.2 hn.1.2)
  | .cond s test consequent alternate, _, h, hn => by
    simp only [Expr.nodes, List.all_append, Bool.and_eq_true] at hn
    exact prints_cond s (test.prints h.2.1 hn.1.1.1) (consequent.prints h.2.2.2.1 hn.1.1.2)
      (alternate.prints h.2.2.2.2 hn.1.2)
  | .assign s op target value, _, h, hn => by
    simp only [Expr.nodes, List.all_append, Bool.and_eq_true] at hn
    exact prints_assign s op (target.prints h.2.1 hn.1.1) (value.prints h.2.2.2 hn.1.2)
  | .update s op true target, _, h, hn => by
    simp only [Expr.nodes, List.all_append, Bool.and_eq_true, List.all_cons, List.all_nil] at hn
    exact prints_updateBefore s op (target.prints h.2 hn.1) hn.2.1
  | .update s op false target, _, h, hn => by
    simp only [Expr.nodes, List.all_append, Bool.and_eq_true] at hn
    exact prints_updateAfter s op (target.prints h.2.2 hn.1)
  | .call s callee es, _, h, hn => by
    simp only [Expr.nodes, List.all_append, Bool.and_eq_true] at hn
    exact prints_call s (callee.prints h.2.1 hn.1.1) (printsAll es h.2.2.2 hn.1.2)
  | .member s base ns name, _, h, hn => by
    simp only [Expr.nodes, List.all_append, Bool.and_eq_true] at hn
    exact prints_member s ns (base.prints h.2.1 hn.1) h.2.2.2
  | .index s base i, _, h, hn => by
    simp only [Expr.nodes, List.all_append, Bool.and_eq_true] at hn
    exact prints_index s (base.prints h.2.1 hn.1.1) (i.prints h.2.2.2 hn.1.2)
  | .pipe s entity cs ds, _, h, hn => by
    simp only [Expr.nodes, List.all_append, Bool.and_eq_true] at hn
    exact prints_pipe s cs (entity.prints h.2.1 hn.1.1) (printsChain ds h.2.2.2.2 hn.1.2)
      h.2.2.2.1 h.2.2.2.2
  | .paren s inner, _, h, hn => by
    simp only [Expr.nodes, List.all_append, Bool.and_eq_true] at hn
    exact prints_paren s (inner.prints h hn.1)

theorem printsAll : (es : List Expr) → FitsAll es →
    (nodesList es).all (Node.parts fused) = true → ∀ e ∈ es, e.Prints fused
  | [], _, _ => by simp
  | e :: es, h, hn => by
    simp only [nodesList, List.all_append, Bool.and_eq_true] at hn
    rintro x (_ | ⟨_, hx⟩)
    · exact e.prints h.1 hn.1
    · exact printsAll es h.2 hn.2 x hx

theorem printsItems : (es : List Expr) → ∀ {r}, FitsItems es r →
    (nodesList es).all (Node.parts fused) = true → ∀ e ∈ es, e.Prints fused
  | e :: f :: es, _, h, hn => by
    rw [nodesList, List.all_append, Bool.and_eq_true] at hn
    rintro x (_ | ⟨_, hx⟩)
    · exact e.prints h.1 hn.1
    · exact printsAll (f :: es) h.2.2 hn.2 x hx

theorem printsProperties : (ps : List Property) → Property.FitsAll ps →
    (Property.nodesList ps).all (Node.parts fused) = true → ∀ p ∈ ps, p.value.Prints fused
  | [], _, _ => by simp
  | .mk k v :: ps, h, hn => by
    simp only [Property.nodesList, Property.nodes, List.all_append, Bool.and_eq_true] at hn
    rintro x (_ | ⟨_, hx⟩)
    · exact v.prints h.2.1 hn.1
    · exact printsProperties ps h.2.2 hn.2 x hx

theorem printsChain : (ds : List Decorator) → Decorator.FitsAll ds →
    (Decorator.nodesList ds).all (Node.parts fused) = true →
    ∀ d ∈ ds, ∀ e ∈ d.arguments, e.Prints fused
  | [], _, _ => by simp
  | .mk s name arguments parens :: ds, h, hn => by
    simp only [Decorator.nodesList, Decorator.nodes, List.all_append, Bool.and_eq_true] at hn
    rintro x (_ | ⟨_, hx⟩)
    · exact printsAll arguments h.2.1 hn.1.1
    · exact printsChain ds h.2.2.2 hn.2 x hx
end

/-! ### Programs -/

/-- The text of expressions with semicolons between them gives their tokens. -/
theorem scan_lines {es : List Expr} (hfits : ∀ e ∈ es, e.Fits Reading.Level.lowest.rank)
    (hparts : ∀ e ∈ es, e.nodes.all (Node.parts fused) = true) {n : Nat}
    (hn : ("; ".intercalate (es.map Expr.text)).length < n) :
    scan fused n .before ("; ".intercalate (es.map Expr.text)).toList =
      facesLines es ++ [Face.atEnd] := by
  have hprints : ∀ e ∈ es, e.Prints fused := fun e he => e.prints (hfits e he) (hparts e he)
  suffices hlines : ∃ t,
      Emits fused .before ("; ".intercalate (es.map Expr.text)).toList (facesLines es) t [] by
    obtain ⟨t, ht⟩ := hlines
    exact ht.scan_eq (by rwa [String.length_toList])
  clear hn hfits hparts
  induction es with
  | nil => exact ⟨.before, fun n => rfl⟩
  | cons e es ih =>
    cases es with
    | nil =>
      refine ⟨.after, ?_⟩
      simp only [List.map_cons, List.map_nil, String.intercalate_singleton]
      exact hprints e (by simp) trivial
    | cons f es =>
      obtain ⟨t, ht⟩ := ih fun x hx => hprints x (List.mem_cons_of_mem _ hx)
      refine ⟨t, ?_⟩
      simp only [List.map_cons, String.intercalate_cons_cons, String.toList_append,
        List.append_assoc] at ht ⊢
      exact (hprints e (by simp) (clear_append (c := ';') rfl (by decide))).append
        (emits_semicolon.append ht)

end Expr

end Trellis
