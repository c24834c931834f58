/-
Segments and their text.

Cutting raw text into pieces loses nothing: the texts of the pieces, regions with their brackets,
make the text again (`Region.split_text`).  The content of a piece has the text of the piece as its
source (`Segment.Content.source_ofPiece`), and settling the contents, which promotes a lone text or
puts an empty one where there is none, keeps the source of them all (`Segment.source_settle`).  So
segments can be joined to the text that they were cut from (`Segment.join_split`).

The first piece that has no content decides the fault.  If that fault is one of syntax, the piece is
an expression that is refused at one of its tokens (`Segment.Offends`), and the fault has the line
of that token within the expression, counted from the line of the whole text.  The line feeds in
front of the expression are not counted, so the fault stands on the line of the offending token
exactly if there are none (`Segment.split_refused`).
-/
import Mathlib.Data.List.DropRight
import Trellis.Proofs.Expr.Blamed
import Trellis.Proofs.Outcome
import Trellis.Segment

namespace Trellis

namespace Region

/-- The text that a piece was cut from. -/
def Piece.text : Piece → List Char
  | .plain cs => cs
  | .closed region inside => region.opening ++ inside ++ region.closing
  | .unclosed region rest => region.opening ++ rest

/-! ### Brackets -/

lemma opens?_eq {cs inner : List Char} {region : Region} (h : opens? cs = some (region, inner)) :
    cs = region.opening ++ inner := by
  unfold opens? at h
  split at h
  · cases h
    rfl
  · cases h
    rfl
  · cases h

lemma expressionBody_eq {quote : Option Char} {escaped : Bool} {cs inside rest : List Char}
    (h : expressionBody quote escaped cs = some (inside, rest)) :
    cs = inside ++ closing .expression ++ rest := by
  fun_induction expressionBody quote escaped cs generalizing inside with
  | case1 => cases h
  | case2 escaped q c cs quote' escaped' hstate ih =>
    obtain ⟨⟨inside', rest'⟩, hbody, heq⟩ := Option.map_eq_some_iff.1 h
    cases heq
    simp [ih hbody]
  | case3 escaped c cs hquote ih =>
    obtain ⟨⟨inside', rest'⟩, hbody, heq⟩ := Option.map_eq_some_iff.1 h
    cases heq
    simp [ih hbody]
  | case4 =>
    cases h
    rfl
  | case5 escaped c cs hquote hclosing ih =>
    obtain ⟨⟨inside', rest'⟩, hbody, heq⟩ := Option.map_eq_some_iff.1 h
    cases heq
    simp [ih hbody]

/-- Where a body ends does not depend on what stands behind. -/
lemma expressionBody_append {quote : Option Char} {escaped : Bool} {cs inside rest : List Char}
    (h : expressionBody quote escaped cs = some (inside, rest)) (back : List Char) :
    expressionBody quote escaped (cs ++ back) = some (inside, rest ++ back) := by
  fun_induction expressionBody quote escaped cs generalizing inside with
  | case1 => cases h
  | case2 escaped q c cs quote' escaped' hstate ih =>
    obtain ⟨⟨inside', rest'⟩, hbody, heq⟩ := Option.map_eq_some_iff.1 h
    cases heq
    have hbody' := ih hbody
    rw [List.cons_append, expressionBody, hstate]
    simp [hbody']
  | case3 escaped c cs hquote ih =>
    obtain ⟨⟨inside', rest'⟩, hbody, heq⟩ := Option.map_eq_some_iff.1 h
    cases heq
    rw [List.cons_append, expressionBody]
    · simp [hquote, ih hbody]
    · rintro rest rfl -
      exact absurd hquote (by decide)
  | case4 =>
    cases h
    rfl
  | case5 escaped c cs hquote hclosing ih =>
    obtain ⟨⟨inside', rest'⟩, hbody, heq⟩ := Option.map_eq_some_iff.1 h
    cases heq
    have hbody' := ih hbody
    rw [List.cons_append, expressionBody]
    · simp [hquote, hbody']
    · rintro after rfl hcs
      cases cs with
      | nil => cases hbody
      | cons d cs => exact hclosing cs rfl (by rw [(List.cons.inj hcs).1])

lemma translationBody_eq {cs inside rest : List Char}
    (h : translationBody cs = some (inside, rest)) :
    cs = inside ++ closing .translation ++ rest := by
  fun_induction translationBody cs generalizing inside with
  | case1 => cases h
  | case2 =>
    cases h
    rfl
  | case3 c cs hclosing ih =>
    obtain ⟨⟨inside', rest'⟩, hbody, heq⟩ := Option.map_eq_some_iff.1 h
    cases heq
    simp [ih hbody]

/-- A region ends with its closing pair. -/
lemma body?_eq {region : Region} {cs inside rest : List Char}
    (h : region.body? cs = some (inside, rest)) :
    cs = inside ++ region.closing ++ rest := by
  cases region with
  | expression => exact expressionBody_eq h
  | translation => exact translationBody_eq h

/-- What follows a region is shorter than what follows its opening. -/
lemma length_of_body? {region : Region} {cs inside rest : List Char}
    (h : region.body? cs = some (inside, rest)) : rest.length ≤ cs.length := by
  rw [body?_eq h]
  simp only [List.length_append]
  omega

/-! ### Pieces -/

lemma consPlain_text (text : List Char) (ps : List Piece) :
    (consPlain text ps).flatMap Piece.text = text ++ ps.flatMap Piece.text := by
  unfold consPlain
  split
  · next hempty => simp [List.isEmpty_iff.1 hempty]
  · rfl

lemma pieces_text {n : Nat} {plain cs : List Char} (hn : cs.length < n) :
    (pieces n plain cs).flatMap Piece.text = plain.reverse ++ cs := by
  induction n generalizing plain cs with
  | zero => omega
  | succ n ih =>
    cases cs with
    | nil => simp [pieces, consPlain_text]
    | cons c cs =>
      rw [List.length_cons] at hn
      rw [pieces]
      split
      · rw [ih (by omega)]
        simp
      · next region inner hopens =>
        have hcs : c :: cs = region.opening ++ inner := opens?_eq hopens
        rw [consPlain_text, hcs]
        refine congrArg (plain.reverse ++ ·) ?_
        split
        · next inside rest hbody =>
          have hlength : rest.length < n := by
            have hinner : inner.length < (c :: cs).length := by
              rw [hcs]
              cases region <;> simp only [opening, List.length_append, List.length_cons] <;> omega
            have hrest : rest.length ≤ inner.length := length_of_body? hbody
            rw [List.length_cons] at hinner
            omega
          rw [List.flatMap_cons, ih hlength, body?_eq hbody]
          simp [Piece.text]
        · simp [Piece.text]

/-- The pieces of a text make the text. -/
lemma split_text (cs : List Char) : (split cs).flatMap Piece.text = cs :=
  pieces_text (Nat.lt_succ_self _)

end Region

namespace Segment

/-! ### Contents -/

/-- An expression of a content is its source, parsed. -/
def Content.Parsed (o : Options) (c : Content) : Prop :=
  ∀ source p, c = .expression source p → o.parse source = .ok p

/-- The text that contents were cut from. -/
def sourceOf (cs : List Content) : List Char := cs.flatMap (·.source.toList)

lemma Content.parsed_text (o : Options) (value : String) (space : Bool) :
    (Content.text value space).Parsed o := by
  intro source p h
  cases h

lemma Content.parsed_translation (o : Options) (words context raw : String) (promoted : Bool) :
    (Content.translation words context raw promoted).Parsed o := by
  intro source p h
  cases h

/-- A translation keeps what stands between its brackets. -/
lemma Content.ofTranslation_eq (raw : String) :
    ∃ words context, ofTranslation raw = .translation words context raw false := by
  unfold ofTranslation
  split
  · exact ⟨_, _, rfl⟩
  · exact ⟨_, _, rfl⟩

lemma Content.ofExpression_eq {o : Options} {source : String} {c : Content}
    (h : ofExpression o source = .ok c) : ∃ p, o.parse source = .ok p ∧
    c = .expression source p := by
  unfold ofExpression at h
  split at h
  · cases h
  · split at h
    · next p hp =>
      cases h
      exact ⟨p, hp, rfl⟩
    · cases h

/-- The content of a piece has the text of the piece as its source. -/
lemma Content.source_ofPiece {o : Options} {piece : Region.Piece} {c : Content}
    (h : ofPiece o piece = .ok c) : c.source.toList = piece.text ∧ c.Parsed o := by
  cases piece with
  | plain cs =>
    cases h
    exact ⟨by simp [source, Region.Piece.text], parsed_text o _ _⟩
  | unclosed region rest => cases h
  | closed region inside =>
    cases region with
    | expression =>
      obtain ⟨p, hp, rfl⟩ := ofExpression_eq h
      refine ⟨by simp [source, Region.Piece.text, Region.opening, Region.closing], ?_⟩
      intro source q hq
      cases hq
      exact hp
    | translation =>
      cases h
      obtain ⟨words, context, hcontent⟩ := ofTranslation_eq (String.ofList inside)
      rw [hcontent]
      exact ⟨by simp [source, Region.Piece.text, Region.opening, Region.closing],
        parsed_translation o _ _ _ _⟩

/-- The contents of the pieces have the text of the pieces as their source. -/
lemma sourceOf_pieces {o : Options} {ps : List Region.Piece} {cs : List Content}
    (h : ps.mapM (Content.ofPiece o) = .ok cs) :
    sourceOf cs = ps.flatMap Region.Piece.text ∧ ∀ c ∈ cs, c.Parsed o := by
  have hpieces := mapM_eq_ok.1 h
  clear h
  induction hpieces with
  | nil => exact ⟨rfl, fun c hc => absurd hc List.not_mem_nil⟩
  | @cons piece c ps cs hpiece _ ih =>
    obtain ⟨hsource, hparsed⟩ := Content.source_ofPiece hpiece
    refine ⟨?_, List.forall_mem_cons.2 ⟨hparsed, ih.2⟩⟩
    rw [List.flatMap_cons, ← hsource, ← ih.1]
    rfl

/-! ### Promotion -/

/-- Blanks in front, the words, and blanks behind make the text. -/
lemma source_promote (value : String) : sourceOf (promote value) = value.toList := by
  have htrim : ∀ cs : List Char,
      Text.trimRightChars Text.isBlank cs ++ cs.drop (Text.trimRightChars Text.isBlank cs).length =
        cs :=
    fun cs => List.prefix_iff_eq_append.1 (List.rdropWhile_prefix Text.isBlank cs)
  have hoptional : ∀ cs : List Char,
      sourceOf (if cs.isEmpty then [] else [.text (String.ofList cs) true]) = cs := by
    intro cs
    cases cs <;> simp [sourceOf, Content.source]
  simp only [promote, sourceOf, List.flatMap_append] at hoptional ⊢
  rw [hoptional, hoptional, List.append_assoc]
  simp only [List.flatMap_singleton, Content.source, if_true, String.toList_ofList, htrim,
    List.takeWhile_append_dropWhile]

lemma parsed_promote (o : Options) (value : String) : ∀ c ∈ promote value, c.Parsed o := by
  intro c hc
  simp only [promote, List.mem_append, List.mem_singleton] at hc
  rcases hc with (hc | rfl) | hc
  · split at hc
    · cases hc
    · obtain rfl := List.mem_singleton.1 hc
      exact Content.parsed_text o _ _
  · exact Content.parsed_translation o _ _ _ _
  · split at hc
    · cases hc
    · obtain rfl := List.mem_singleton.1 hc
      exact Content.parsed_text o _ _

lemma source_settle (o : Options) (cs : List Content) : sourceOf (settle o cs) = sourceOf cs := by
  unfold settle
  split
  · rfl
  · split
    · rw [source_promote]
      simp [sourceOf, Content.source]
    · rfl
  · rfl

lemma parsed_settle {o : Options} {cs : List Content} (h : ∀ c ∈ cs, c.Parsed o) :
    ∀ c ∈ settle o cs, c.Parsed o := by
  unfold settle
  split
  · intro c hc
    obtain rfl := List.mem_singleton.1 hc
    exact Content.parsed_text o _ _
  · split
    · exact parsed_promote o _
    · exact h
  · exact h

/-! ### Segments -/

lemma content_number (stem : String) (cs : List Content) : (number stem cs).map (·.content) =
    cs := by
  simp [number, Function.comp_def]

lemma key_number (stem : String) (cs : List Content) :
    (number stem cs).map (·.key) = (List.range cs.length).map fun i =>
    stem ++ toString i ++ "_" := by
  rw [List.range_eq_range', ← List.zipIdx_map_snd 0 cs, number, List.map_map, List.map_map]
  rfl

lemma toList_join (segments : List Segment) :
    (join segments).toList = sourceOf (segments.map (·.content)) := by
  simp [join, sourceOf, List.flatMap_map]

/-- What cutting a text into segments amounts to. -/
lemma split_ok {o : Options} {raw : String} {segments : List Segment}
    (h : split o raw = .ok segments) :
    ∃ cs, (Region.split raw.toList).mapM (Content.ofPiece o) = .ok cs ∧
      segments = number o.keyStem (settle o cs) := by
  obtain ⟨cs, hcs, h⟩ := bind_eq_ok.1 h
  obtain ⟨_, _, h⟩ := bind_eq_ok.1 h
  cases h
  exact ⟨cs, hcs, rfl⟩

/-- **Segments and their text.** When a text is cut into segments, whatever the options, joining the
segments gives the text back, their keys count up from zero behind the stem, and the program of an
expression is what its source alone is read as. -/
theorem join_split (o : Options) (raw : String) (segments : List Segment)
    (h : split o raw = .ok segments) :
    join segments = raw ∧
      segments.map (·.key) = (List.range segments.length).map (fun i =>
      o.keyStem ++ toString i ++ "_") ∧
      ∀ s ∈ segments, ∀ source p, s.content = .expression source p → o.parse source = .ok p := by
  obtain ⟨cs, hpieces, rfl⟩ := split_ok h
  obtain ⟨hsource, hparsed⟩ := sourceOf_pieces hpieces
  refine ⟨?_, ?_, ?_⟩
  · rw [← String.toList_inj, toList_join, content_number, source_settle, hsource, Region.split_text]
  · rw [key_number]
    simp [number]
  · intro s hs
    have hcontent : s.content ∈ settle o cs := by
      rw [← content_number o.keyStem (settle o cs)]
      exact List.mem_map_of_mem hs
    exact parsed_settle hparsed s.content hcontent

/-- Text, an expression with a closing pair in a string, and a translation in a context. -/
theorem join_split_regions : ∃ segments,
    split { keyStem := "t_" } "a \x7b\x7b b + '\x7d\x7d' \x7d\x7d \x7b[ c@@d ]\x7d" = .ok segments ∧
    segments.map (fun s => (s.key, s.content.kindName, s.content.source)) =
      [("t_0_", "text", "a "), ("t_1_", "expression", "\x7b\x7b b + '\x7d\x7d' \x7d\x7d"),
        ("t_2_", "text", " "), ("t_3_", "translation", "\x7b[ c@@d ]\x7d")] ∧
    join segments = "a \x7b\x7b b + '\x7d\x7d' \x7d\x7d \x7b[ c@@d ]\x7d" ∧
    segments.map (·.key) = (List.range segments.length).map (fun i => "t_" ++ toString i ++ "_") ∧
    ∀ s ∈ segments, ∀ source p, s.content = .expression source p →
        Program.parse source = .ok p := by
  have hsplit : ((split { keyStem := "t_" }
    "a \x7b\x7b b + '\x7d\x7d' \x7d\x7d \x7b[ c@@d ]\x7d").toOption.map
      fun segments => segments.map fun s => (s.key, s.content.kindName, s.content.source)) =
      some [("t_0_", "text", "a "), ("t_1_", "expression", "\x7b\x7b b + '\x7d\x7d' \x7d\x7d"),
        ("t_2_", "text", " "), ("t_3_", "translation", "\x7b[ c@@d ]\x7d")] := by decide +kernel
  obtain ⟨segments, hsegments, hparts⟩ := eq_ok_of_toOption hsplit
  exact ⟨segments, hsegments, hparts, join_split _ _ segments hsegments⟩

end Segment

/-! ### The first failure -/

section

variable {α β ε : Type}

lemma bind_eq_error {w : Except ε α} {g : α → Except ε β} {e : ε} :
    (w >>= g) = .error e ↔ w = .error e ∨ ∃ x, w = .ok x ∧ g x = .error e := by
  cases w with
  | error e' => simp [bind, Except.bind]
  | ok x => simp [bind, Except.bind]

/-- Work on a list fails at the first entry on which it fails. -/
lemma mapM_eq_error {xs : List α} {f : α → Except ε β} {e : ε} (h : xs.mapM f = .error e) :
    ∃ as x bs, xs = as ++ x :: bs ∧ (∀ a ∈ as, ∃ y, f a = .ok y) ∧ f x = .error e := by
  induction xs with
  | nil => cases h
  | cons x xs ih =>
    rw [List.mapM_cons] at h
    rcases bind_eq_error.1 h with hx | ⟨y, hx, h⟩
    · exact ⟨[], x, xs, rfl, by simp, hx⟩
    · rcases bind_eq_error.1 h with hxs | ⟨ys, -, h⟩
      · obtain ⟨as, z, bs, rfl, has, hz⟩ := ih hxs
        exact ⟨x :: as, z, bs, rfl, List.forall_mem_cons.2 ⟨⟨y, hx⟩, has⟩, hz⟩
      · cases h

/-- The failure of work that fails. -/
def failure? : Except ε α → Option ε
  | .ok _ => none
  | .error e => some e

/-- Work of which something is known that its failure alone has. -/
lemma eq_error_of_failure? {w : Except ε α} {g : ε → β} {y : β} (h : (failure? w).map g = some y) :
    ∃ e, w = .error e ∧ g e = y := by
  cases w with
  | ok x => cases h
  | error e => exact ⟨e, rfl, Option.some.inj h⟩

end

/-- A fault of another code is none of syntax. -/
lemma Fault.not_isSyntax {code : Fault.Code} {details : Option (List (String × Datum))}
    {line column : Int} (hcode : ∀ c ∈ syntaxCodes, code.entry.label ≠ c.entry.label) :
    ¬ ((ofCode code details).moved line column).IsSyntax := by
  rintro ⟨c, hc, hlabel⟩
  exact hcode c hc (Option.some.inj hlabel)

namespace Segment

open Token (lineAfter bytesOf)

/-! ### Offending tokens -/

/-- Whether the token `t`, which stands behind `a` in the expression `inside`, is the one for which
raw text is refused: the expression stands in the text behind `before`, all pieces in front of it
have a content, and `t` is the token that the parser blames. -/
structure Offends (o : Options) (raw before inside a : List Char) (t : Token) : Prop where
  pieces : ∃ ps qs, Region.split raw = ps ++ Region.Piece.closed .expression inside :: qs ∧
    before = ps.flatMap Region.Piece.text ∧ ∀ p ∈ ps, ∃ c, Content.ofPiece o p = .ok c
  mem : t ∈ Token.all (String.ofList inside)
  blamed : ∃ g, Program.parse (String.ofList inside) = .error g ∧ g.Blames t
  stands : ∃ b, inside = a ++ t.raw.toList ++ b ∧ t.offset = bytesOf a ∧ t.line = lineAfter a

/-! ### Faults -/

/-- An expression that is refused, and the fault that is reported for it. -/
lemma Content.ofExpression_error {o : Options} {source : String} {f : Fault}
    (h : ofExpression o source = .error f) (hkind : f.IsSyntax) (hline : 1 ≤ o.line) :
    ∃ g, o.parse source = .error g ∧ (1 ≤ g.line → f.line = o.line + g.line - 1 ∧
    f.column = g.column) := by
  unfold ofExpression at h
  split at h
  · cases h
    exact absurd hkind (Fault.not_isSyntax (by decide))
  · split at h
    · cases h
    · next g hg =>
      cases h
      refine ⟨g, hg, fun hpos => ?_⟩
      rw [if_pos (by simp; omega)]
      exact ⟨rfl, rfl⟩

/-- The only pieces with a syntax error are expressions. -/
lemma Content.ofPiece_error {o : Options} {p : Region.Piece} {f : Fault}
    (h : ofPiece o p = .error f) (hkind : f.IsSyntax) :
    ∃ inside, p = Region.Piece.closed .expression inside ∧ ofExpression o (String.ofList inside) =
    .error f := by
  cases p with
  | plain cs => cases h
  | unclosed region rest =>
    cases h
    exact absurd hkind (Fault.not_isSyntax (by decide))
  | closed region inside =>
    cases region with
    | expression => exact ⟨inside, rfl, h⟩
    | translation => cases h

lemma forM_check_error {o : Options} {cs : List Content} {f : Fault}
    (h : cs.forM (Content.check o) = .error f) : ¬ f.IsSyntax := by
  induction cs with
  | nil => cases h
  | cons c cs ih =>
    rcases bind_eq_error.1 h with hc | ⟨-, -, h⟩
    · unfold Content.check at hc
      split at hc
      · cases hc
      · cases hc
        exact Fault.not_isSyntax (by decide)
    · exact ih h

/-- A syntax error of a text is that of its first piece without content. -/
lemma split_error {o : Options} {raw : String} {f : Fault} (h : split o raw = .error f)
    (hkind : f.IsSyntax) :
    ∃ ps inside qs, Region.split raw.toList = ps ++ .closed .expression inside :: qs ∧
      (∀ p ∈ ps, ∃ c, Content.ofPiece o p = .ok c) ∧
      Content.ofExpression o (String.ofList inside) = .error f := by
  rcases bind_eq_error.1 h with hpieces | ⟨cs, -, h⟩
  · obtain ⟨ps, p, qs, hsplit, hps, hp⟩ := mapM_eq_error hpieces
    obtain ⟨inside, rfl, hinside⟩ := Content.ofPiece_error hp hkind
    exact ⟨ps, inside, qs, hsplit, hps, hinside⟩
  · rcases bind_eq_error.1 h with hcheck | ⟨-, -, h⟩
    · exact absurd hkind (forM_check_error hcheck)
    · cases h

/-- **The line of a syntax error.** When raw text that starts on the line `o.line` is refused for
the syntax of an expression, the fault has the column of the offending token within the expression,
and its line is that of the text plus the line feeds that stand in the expression before the token.
So it is the line of the token exactly if no line feed stands in front of the expression. -/
theorem split_refused (o : Options) (raw : String) (f : Fault) (hparse : o.parse = Program.parse)
    (hline : 1 ≤ o.line) (h : split o raw = .error f) (hkind : f.IsSyntax) :
    ∃ before inside a t, Offends o raw.toList before inside a t ∧ f.column = t.column ∧
      f.line = o.line + a.count '\n' ∧
      (f.line = o.line + (before ++ Region.opening .expression ++ a).count '\n' ↔
      '\n' ∉ before) := by
  obtain ⟨ps, inside, qs, hsplit, hps, hinside⟩ := split_error h hkind
  obtain ⟨g, hg, hplace⟩ := Content.ofExpression_error hinside hkind hline
  rw [hparse] at hg
  obtain ⟨t, ht, hblames⟩ := Program.parse_blames hg
  obtain ⟨a, b, hsource, hoffset, htline⟩ := Token.all_lines ht
  rw [String.toList_ofList] at hsource
  -- the parser counts lines from the start of the expression, and the first of them is line one
  have hgline : g.line = 1 + a.count '\n' := by
    rw [hblames.line_eq, htline, lineAfter]
    push_cast
    rfl
  obtain ⟨hfline, hfcolumn⟩ := hplace (by omega)
  have hreported : f.line = o.line + a.count '\n' := by
    rw [hfline, hgline]
    omega
  refine ⟨ps.flatMap Region.Piece.text, inside, a, t,
    ⟨⟨ps, qs, hsplit, rfl, hps⟩, ht, ⟨g, hg, hblames⟩, b, hsource, hoffset, htline⟩,
    hfcolumn.trans hblames.column_eq, hreported, ?_⟩
  -- of what stands in front of the token, only the line feeds of the expression were counted
  rw [hreported, List.count_append, List.count_append,
    show (Region.opening .expression).count '\n' = 0 from rfl,
    ← List.count_eq_zero]
  omega

/-- An operand that is missing on the second line of an expression, in a text on line seven. -/
theorem split_refused_operand : ∃ f,
    split { line := 7 } "a \x7b\x7b b +\n * c \x7d\x7d" = .error f ∧ f.IsSyntax ∧ f.line = 8 ∧
      ∃ before inside a t, Offends { line := 7 } "a \x7b\x7b b +\n * c \x7d\x7d".toList before
        inside a t ∧
        f.column = t.column ∧ f.line = 7 + a.count '\n' ∧
        (f.line = 7 + (before ++ Region.opening .expression ++ a).count '\n' ↔ '\n' ∉ before) := by
  have hsplit : (failure? (split { line := 7 } "a \x7b\x7b b +\n * c \x7d\x7d")).map
      (fun f => decide (f.IsSyntax ∧ f.line = 8)) = some true := by decide +kernel
  obtain ⟨f, hf, hfacts⟩ := eq_error_of_failure? hsplit
  obtain ⟨hkind, hline⟩ := of_decide_eq_true hfacts
  exact ⟨f, hf, hkind, hline, split_refused _ _ f rfl (by decide) hf hkind⟩

/-- A line feed in front of an expression is not counted: the second name of `b c` stands on the
second line of the text, and the fault on the first. -/
theorem split_refused_feed : ∃ f t,
    split { line := 1 } "a\n\x7b\x7b b c \x7d\x7d" = .error f ∧ f.IsSyntax ∧
      Offends { line := 1 } "a\n\x7b\x7b b c \x7d\x7d".toList "a\n".toList " b c ".toList
        " b ".toList t ∧
      f.line = 1 ∧ 1 + ("a\n".toList ++ Region.opening .expression ++ " b ".toList).count '\n' =
          2 := by
  have hsplit : (failure? (split { line := 1 } "a\n\x7b\x7b b c \x7d\x7d")).map
      (fun f => decide (f.IsSyntax ∧ f.line = 1)) = some true := by decide +kernel
  obtain ⟨f, hf, hfacts⟩ := eq_error_of_failure? hsplit
  obtain ⟨hkind, hline⟩ := of_decide_eq_true hfacts
  have hparse : (failure? (Program.parse " b c ")).map
      (fun g => decide (g.line = 1 ∧ g.column = 4 ∧ g.IsSyntax)) = some true := by decide +kernel
  obtain ⟨g, hg, hplace⟩ := eq_error_of_failure? hparse
  obtain ⟨hgline, hgcolumn, hgkind⟩ := of_decide_eq_true hplace
  have hpieces : Region.split "a\n\x7b\x7b b c \x7d\x7d".toList =
      [.plain "a\n".toList] ++ .closed .expression " b c ".toList :: [] := rfl
  have hplain : ∀ p ∈ [Region.Piece.plain "a\n".toList], ∃ c, Content.ofPiece { line := 1 } p =
      .ok c := by
    intro p hp
    obtain rfl := List.mem_singleton.1 hp
    exact ⟨_, rfl⟩
  have hstands : " b c ".toList = " b ".toList ++ "c".toList ++ " ".toList := by decide
  refine ⟨f, ⟨.ident, "c", "c", 1, 4, 3, false⟩, hf, hkind,
    ⟨⟨_, _, hpieces, ?_, hplain⟩, ?_, ⟨g, hg, hgline, hgcolumn, hgkind⟩, _, hstands, ?_, ?_⟩, hline,
      ?_⟩
  · decide
  · decide +kernel
  · decide +kernel
  · decide
  · decide

end Segment

end Trellis
