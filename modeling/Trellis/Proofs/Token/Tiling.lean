/-
Tokens tile a text.

`Tiles` says where the tokens of a text stand: blanks and token texts alternate until the text is
used up, and each token knows its place.  A place is told by what stands before it: `bytesOf` is the
offset there, `lineAfter` the line and `widthAfter` the number of characters on that line so far.

The invariant of the scanner is that its cursor is always the one that comes from the characters
before it (`Cursor.at_`).  A step keeps it (`Cursor.step_at`), so every number of steps does
(`Cursor.steps_at`), and then every token starts where the tiling puts it.
-/
import Mathlib.Data.List.Chain
import Mathlib.Data.Prod.Lex
import Trellis.Proofs.Token.Lexeme
import Trellis.Token.Lexeme

namespace Trellis.Token

/-! ### Places -/

/-- The number of bytes that characters take. -/
def bytesOf (cs : List Char) : Nat := (String.ofList cs).utf8ByteSize

/-- The line on which a text ends: one more than it has line feeds. -/
def lineAfter (cs : List Char) : Nat := 1 + cs.count '\n'

/-- The number of characters after the last line feed of a text. -/
def widthAfter (cs : List Char) : Nat := (cs.reverse.takeWhile (· != '\n')).length

lemma bytesOf_append (cs ds : List Char) : bytesOf (cs ++ ds) = bytesOf cs + bytesOf ds := by
  simp [bytesOf, String.ofList_append]

lemma bytesOf_singleton (c : Char) : bytesOf [c] = c.utf8Size := by
  simp [bytesOf]

lemma lineAfter_append (cs ds : List Char) :
    lineAfter (cs ++ ds) = lineAfter cs + ds.count '\n' := by
  simp only [lineAfter, List.count_append]
  omega

lemma widthAfter_lineFeed (cs : List Char) : widthAfter (cs ++ ['\n']) = 0 := by
  simp [widthAfter]

lemma widthAfter_concat (cs : List Char) {c : Char} (hc : c ≠ '\n') :
    widthAfter (cs ++ [c]) = widthAfter cs + 1 := by
  simp [widthAfter, hc]

/-- Whether a token starts where `before` ends. -/
structure StartsAfter (t : Token) (before : List Char) : Prop where
  offset_eq : t.offset = bytesOf before
  line_eq : t.line = lineAfter before
  column_eq : t.column = widthAfter before + 1

/-- Whether the text `rest`, which stands after `before`, consists of tokens with blanks before,
between and after them: each token has the text that stands at its place, and knows whether there
is a line feed among the blanks before it. -/
inductive Tiles : List Char → List Char → List Token → Prop where
  | blank {before rest : List Char} (hrest : ∀ c ∈ rest, isGap c = true) : Tiles before rest []
  | token {before gap rest : List Char} {t : Token} {ts : List Token}
    (hgap : ∀ c ∈ gap, isGap c = true) (hplace : t.StartsAfter (before ++ gap))
    (hnewLine : t.newLine = true ↔ '\n' ∈ gap) (hraw : t.raw ≠ "")
    (hrest : Tiles (before ++ gap ++ t.raw.toList) rest ts) :
    Tiles before (gap ++ t.raw.toList ++ rest) (t :: ts)

/-- Whether the character that stands after `before` belongs to a token. -/
def Covers (t : Token) (before : List Char) : Prop :=
  t.offset ≤ bytesOf before ∧ bytesOf before < t.offset + t.raw.utf8ByteSize

instance (t : Token) (before : List Char) : Decidable (t.Covers before) :=
  inferInstanceAs (Decidable (_ ∧ _))

/-- Where an element of two lists in a row stands: in the first or in the second. -/
lemma append_eq_append_cons {α : Type} {xs ys front back : List α} {x : α}
    (h : xs ++ ys = front ++ x :: back) :
    (∃ more, xs = front ++ x :: more) ∨ ∃ more, front = xs ++ more ∧ ys = more ++ x :: back := by
  rcases List.append_eq_append_iff.1 h with ⟨more, hfront, hys⟩ | ⟨more, hxs, hcons⟩
  · exact .inr ⟨more, hfront, hys⟩
  · cases more with
    | nil => exact .inr ⟨[], by simpa using hxs.symm, by simpa using hcons.symm⟩
    | cons y more =>
      obtain ⟨rfl, -⟩ := List.cons.inj hcons
      exact .inl ⟨more, hxs⟩

/-- In a tiled text, a character that belongs to no token is a blank. -/
lemma Tiles.covers {before rest front back : List Char} {c : Char} {ts : List Token}
    (h : Tiles before rest ts) (hrest : rest = front ++ c :: back) :
    isGap c = true ∨ ∃ t ∈ ts, t.Covers (before ++ front) := by
  induction h generalizing front with
  | blank hblank =>
    subst hrest
    exact .inl (hblank c (by simp))
  | @token before gap rest t ts hgap hplace _ _ _ ih =>
    rcases append_eq_append_cons hrest with ⟨more, hmore⟩ | ⟨more, rfl, hback⟩
    · rcases append_eq_append_cons hmore with ⟨more', rfl⟩ | ⟨own, rfl, hraw⟩
      · exact .inl (hgap c (by simp))
      · -- the character is one of the token's own
        refine .inr ⟨t, List.mem_cons_self, ?_⟩
        have hsize : t.raw.utf8ByteSize = bytesOf own + (c.utf8Size + bytesOf more) := by
          rw [← bytesOf_singleton, ← bytesOf_append, ← bytesOf_append, List.singleton_append,
            ← hraw,
            bytesOf, String.ofList_toList]
        have hpos : 0 < c.utf8Size := Char.utf8Size_pos c
        rw [Covers, hplace.offset_eq, hsize, ← List.append_assoc, bytesOf_append (before ++ gap)]
        omega
    · -- it stands after the token
      have hafter : before ++ gap ++ t.raw.toList ++ more = before ++
          (gap ++ t.raw.toList ++ more) := by
        simp only [List.append_assoc]
      rcases ih hback with hc | ⟨t', ht', hcovers⟩
      · exact .inl hc
      · rw [hafter] at hcovers
        exact .inr ⟨t', List.mem_cons_of_mem _ ht', hcovers⟩

/-! ### The cursor -/

namespace Cursor

/-- The cursor on the first character of `rest`, after the characters `before`. -/
def at_ (before rest : List Char) : Cursor :=
  enter rest (lineAfter before) (widthAfter before) (bytesOf before)

lemma start_eq_at (cs : List Char) : start cs = at_ [] cs := rfl

@[simp] lemma rest_at (before rest : List Char) : (at_ before rest).rest = rest :=
  rest_enter _ _ _ _

@[simp] lemma offset_at (before rest : List Char) : (at_ before rest).offset = bytesOf before := by
  cases rest with
  | nil => rfl
  | cons c cs => simp only [at_, enter]; split <;> rfl

/-- A character that is no line feed stands on the line of the text before it, one column further.
-/
lemma place_at (before cs : List Char) {c : Char} (hc : c ≠ '\n') :
    (at_ before (c :: cs)).line = lineAfter before ∧
      (at_ before (c :: cs)).column = widthAfter before + 1 := by
  simp [at_, enter, hc]

/-- A step takes one character to those before. -/
lemma step_at (before cs : List Char) (c : Char) :
    (at_ before (c :: cs)).step = at_ (before ++ [c]) cs := by
  have hoffset : bytesOf (before ++ [c]) = bytesOf before + c.utf8Size := by
    rw [bytesOf_append, bytesOf_singleton]
  simp only [step, rest_at, offset_at]
  by_cases hc : c = '\n'
  · -- a line feed already counts for the line that it opens
    subst hc
    have hline : lineAfter (before ++ ['\n']) = lineAfter before + 1 := by
      simp [lineAfter_append]
    simp only [at_, enter, beq_self_eq_true, if_true, hline, widthAfter_lineFeed, hoffset]
  · obtain ⟨hline, hcolumn⟩ := place_at before cs hc
    have hline' : lineAfter (before ++ [c]) = lineAfter before := by
      simp [lineAfter_append, hc]
    rw [hline, hcolumn, at_, hline', widthAfter_concat _ hc, hoffset]

lemma steps_at (taken : List Char) (before rest : List Char) :
    steps taken.length (at_ before (taken ++ rest)) = at_ (before ++ taken) rest := by
  induction taken generalizing before with
  | nil => simp [steps]
  | cons c cs ih =>
    have hsplit : before ++ c :: cs = before ++ [c] ++ cs := by simp
    rw [List.length_cons, List.cons_append, steps, step_at, ih, hsplit]

end Cursor

/-! ### Scanning -/

/-- Whether the calls of the scanner from a position on, up to the first one that gives the end of
input, give these tokens. -/
inductive Cursor.Gives : Cursor → List Token → Prop where
  | stop {c : Cursor} (h : c.next.1.kind = .eof) : Gives c [c.next.1]
  | more {c : Cursor} {ts : List Token} (h : c.next.1.kind ≠ .eof) (hrest : Gives c.next.2 ts) :
    Gives c (c.next.1 :: ts)

/-- The end of input is found at the end of the text, or at a NUL. -/
lemma Lexeme.eof_of_kind {c : Char} {cs : List Char} (h : (Lexeme.next (c :: cs)).kind = .eof) :
    c = '\x00' := by
  have hword : ∀ w, Kind.ofWord w ≠ .eof := by
    intro w hw
    have := isWord_ofWord w
    rw [hw] at this
    cases this
  by_contra hc
  simp only [Lexeme.next, beq_iff_eq, if_neg hc] at h
  split at h
  · next kind size hp =>
    exact (marks_kind _ (punctuation?_mem hp).1).2 h
  · split_ifs at h
    all_goals first
      | cases h
      | exact hword _ h

/-- One call of the scanner: it moves over the blanks, takes the characters of a lexeme, and stands
behind them. -/
lemma next_at (before : List Char) {rest : List Char} (gap text after : List Char)
    (hgap : rest.takeWhile isGap = gap) (hrest : rest = gap ++ text ++ after)
    (hsize : (Lexeme.next (text ++ after)).size = text.length) :
    (Cursor.at_ before rest).next.1.raw = String.ofList text ∧
      (Cursor.at_ before rest).next.1.kind = (Lexeme.next (text ++ after)).kind ∧
      (Cursor.at_ before rest).next.1.newLine = gap.contains '\n' ∧
      (Cursor.at_ before rest).next.1.line = (Cursor.at_ (before ++ gap) (text ++ after)).line ∧
      (Cursor.at_ before rest).next.1.column = (Cursor.at_ (before ++ gap) (text ++ after)).column ∧
      (Cursor.at_ before rest).next.1.offset = bytesOf (before ++ gap) ∧
      (Cursor.at_ before rest).next.2 = Cursor.at_ (before ++ gap ++ text) after := by
  have hskip : (Cursor.at_ before rest).skipGap =
      (Cursor.at_ (before ++ gap) (text ++ after), gap.contains '\n') := by
    simp only [Cursor.skipGap, Cursor.rest_at, hgap]
    rw [hrest, List.append_assoc, Cursor.steps_at]
  have hraw : (text ++ after).take text.length = text := List.take_left
  have hsteps := Cursor.steps_at text (before ++ gap) after
  simp only [Cursor.next, hskip, Cursor.rest_at, Cursor.offset_at, hsize, hraw, hsteps, and_self]

/-- A text is a gap, the characters of a lexeme, and what follows. -/
lemma split_lexeme (rest : List Char) :
    ∃ gap text after, rest.takeWhile isGap = gap ∧ rest.dropWhile isGap = text ++ after ∧
      rest = gap ++ text ++ after ∧ (Lexeme.next (text ++ after)).size = text.length := by
  let found := rest.dropWhile isGap
  let size := (Lexeme.next found).size
  have hfound : found.take size ++ found.drop size = found := List.take_append_drop _ _
  refine ⟨rest.takeWhile isGap, found.take size, found.drop size, rfl, hfound.symm, ?_, ?_⟩
  · rw [List.append_assoc, hfound, List.takeWhile_append_dropWhile]
  · rw [hfound, List.length_take, Nat.min_eq_left (Lexeme.size_le found)]

/-- The end of input has no text; without a NUL, nothing but blanks stands before it. -/
lemma next_eof (before : List Char) {rest : List Char} (hnul : '\x00' ∉ rest)
    (heof : (Cursor.at_ before rest).next.1.kind = .eof) :
    (Cursor.at_ before rest).next.1.raw = "" ∧
      (Cursor.at_ before rest).next.1.offset = bytesOf (before ++ rest) ∧
      ∀ c ∈ rest, isGap c = true := by
  obtain ⟨gap, text, after, hgap, -, hrest, hsize⟩ := split_lexeme rest
  obtain ⟨hraw, hkind, -, -, -, hoffset, -⟩ := next_at before gap text after hgap hrest hsize
  have hnil : text ++ after = [] := by
    cases hc : text ++ after with
    | nil => rfl
    | cons c cs =>
      rw [hkind, hc] at heof
      have hmem : c ∈ gap ++ (text ++ after) := by simp [hc]
      rw [← List.append_assoc, ← hrest] at hmem
      exact absurd (Lexeme.eof_of_kind heof ▸ hmem) hnul
  obtain ⟨htext, hafter⟩ := List.append_eq_nil_iff.1 hnil
  have hall : rest = gap := by
    rw [hrest, htext, hafter, List.append_nil, List.append_nil]
  refine ⟨?_, ?_, ?_⟩
  · rw [hraw, htext, String.ofList_nil]
  · rw [hoffset, ← hall]
  · rw [hall, ← hgap]
    exact List.all_eq_true.1 List.all_takeWhile

/-- A token that is not the end of input: where it starts, and what is left after it. -/
lemma next_token {before rest : List Char} {t : Token} {c : Cursor}
    (hnext : (Cursor.at_ before rest).next = (t, c)) (hkind : t.kind ≠ .eof) :
    ∃ gap after, rest = gap ++ t.raw.toList ++ after ∧ (∀ c ∈ gap, isGap c = true) ∧
      t.StartsAfter (before ++ gap) ∧ (t.newLine = true ↔ '\n' ∈ gap) ∧ t.raw ≠ "" ∧
      c = Cursor.at_ (before ++ gap ++ t.raw.toList) after := by
  obtain ⟨gap, text, after, hgap, hdrop, hrest, hsize⟩ := split_lexeme rest
  obtain ⟨hraw, hkind', hnewLine, hline, hcolumn, hoffset, hafter⟩ :=
    next_at before gap text after hgap hrest hsize
  rw [hnext] at hraw hkind' hnewLine hline hcolumn hoffset hafter
  have hblank : ∀ c ∈ gap, isGap c = true := by
    rw [← hgap]
    exact List.all_eq_true.1 List.all_takeWhile
  -- the first character of the lexeme is no blank, so no line feed
  obtain ⟨first, more, rfl⟩ : ∃ first more, text = first :: more := by
    refine List.exists_cons_of_ne_nil fun hempty => Lexeme.size_ne (hkind' ▸ hkind) ?_
    rw [hsize, hempty, List.length_nil]
  have hfirst : first ≠ '\n' := by
    rintro rfl
    have hhead := List.head?_dropWhile_not isGap rest
    rw [hdrop] at hhead
    exact Bool.noConfusion (hhead : isGap '\n' = false)
  obtain ⟨hline', hcolumn'⟩ := Cursor.place_at (before ++ gap) (more ++ after) hfirst
  have hchars : t.raw.toList = first :: more := by rw [hraw, String.toList_ofList]
  refine ⟨gap, after, hchars ▸ hrest, hblank, ?_, ?_, ?_, hchars ▸ hafter⟩
  · exact ⟨hoffset, hline.trans hline', hcolumn.trans hcolumn'⟩
  · rw [hnewLine, List.contains_iff_mem]
  · intro hempty
    rw [hempty] at hchars
    cases hchars

/-- What the scanner gives tiles the text: tokens, and after them the end of input. -/
lemma gives_tiles (fuel : Nat) (before : List Char) {rest : List Char} (hfuel : rest.length < fuel)
    (hnul : '\x00' ∉ rest) :
    ∃ ts, ∃ last : Token, Cursor.tokens fuel (Cursor.at_ before rest) = ts ++ [last] ∧
      (Cursor.at_ before rest).Gives (ts ++ [last]) ∧ (∀ t ∈ ts, t.kind ≠ .eof) ∧
      last.kind = .eof ∧ last.raw = "" ∧ last.offset = bytesOf (before ++ rest) ∧
      Tiles before rest ts := by
  induction fuel generalizing before rest with
  | zero => exact absurd hfuel (Nat.not_lt_zero _)
  | succ fuel ih =>
    obtain ⟨t, c, hnext⟩ : ∃ t c, (Cursor.at_ before rest).next = (t, c) := ⟨_, _, rfl⟩
    have htokens : Cursor.tokens (fuel + 1) (Cursor.at_ before rest) =
        if t.kind = .eof then [t] else t :: Cursor.tokens fuel c := by
      rw [Cursor.tokens, hnext]
    by_cases heof : t.kind = .eof
    · have hgives : (Cursor.at_ before rest).Gives [t] := by
        have := Cursor.Gives.stop (c := Cursor.at_ before rest) (by rw [hnext]; exact heof)
        rwa [hnext] at this
      have hlast := next_eof before hnul (by rw [hnext]; exact heof)
      rw [hnext] at hlast
      obtain ⟨hraw, hoffset, hblank⟩ := hlast
      refine ⟨[], t, ?_, hgives, by simp, heof, hraw, hoffset, .blank hblank⟩
      rw [htokens, if_pos heof, List.nil_append]
    · obtain ⟨gap, after, hrest, hblank, hplace, hnewLine, hraw, rfl⟩ := next_token hnext heof
      -- the token takes a character, so less fuel is enough for the rest
      have hshort : after.length < fuel := by
        have hpos : 0 < t.raw.toList.length := by
          rw [List.length_pos_iff, ne_eq, String.toList_eq_nil_iff]
          exact hraw
        rw [hrest, List.length_append, List.length_append] at hfuel
        omega
      have hnul' : '\x00' ∉ after := by
        rw [hrest] at hnul
        exact fun h => hnul (List.mem_append_right _ h)
      obtain ⟨ts, last, hts, hgives, hkinds, hlast, hempty, hend, htiles⟩ := ih _ hshort hnul'
      refine ⟨t :: ts, last, ?_, ?_, ?_, hlast, hempty, ?_, ?_⟩
      · rw [htokens, if_neg heof, hts, List.cons_append]
      · have := Cursor.Gives.more (c := Cursor.at_ before rest) (by rw [hnext]; exact heof)
          (by rw [hnext]; exact hgives)
        rwa [hnext] at this
      · exact List.forall_mem_cons.2 ⟨heof, hkinds⟩
      · rw [hend, hrest]
        simp only [List.append_assoc]
      · rw [hrest]
        exact .token hblank hplace hnewLine hraw htiles

/-- The tokens of a text without a NUL tile it: the calls of the scanner end with the end of input,
which has no text of its own and stands behind the last character. -/
theorem all_tiles (s : String) (hnul : '\x00' ∉ s.toList) :
    ∃ ts last, all s = ts ++ [last] ∧ (Cursor.start s.toList).Gives (ts ++ [last]) ∧
      (∀ t ∈ ts, t.kind ≠ .eof) ∧ last.kind = .eof ∧ last.raw = "" ∧
      last.offset = s.utf8ByteSize ∧ Tiles [] s.toList ts := by
  have hbound : s.toList.length < s.length + 1 := by
    rw [String.length_toList]
    exact Nat.lt_succ_self _
  obtain ⟨ts, last, hts, hgives, hkinds, hlast, hempty, hend, htiles⟩ :=
    gives_tiles _ [] hbound hnul
  have hsize : bytesOf ([] ++ s.toList) = s.utf8ByteSize := by
    rw [List.nil_append, bytesOf, String.ofList_toList]
  exact ⟨ts, last, hts, hgives, hkinds, hlast, hempty, hend.trans hsize, htiles⟩

/-- A text of two lines, with characters of two bytes. -/
theorem all_tiles_lines : '\x00' ∉ "é =\n 'ü' + b".toList ∧
    (all "é =\n 'ü' + b").map (fun t => (t.raw, t.offset, t.line, t.column, t.newLine)) =
      [("é", 0, 1, 1, false), ("=", 3, 1, 3, false), ("'ü'", 6, 2, 2, true), ("+", 11, 2, 6, false),
        ("b", 13, 2, 8, false), ("", 14, 2, 8, false)] ∧
    ∃ ts last, all "é =\n 'ü' + b" = ts ++ [last] ∧
      (Cursor.start "é =\n 'ü' + b".toList).Gives (ts ++ [last]) ∧ (∀ t ∈ ts, t.kind ≠ .eof) ∧
      last.kind = .eof ∧ last.raw = "" ∧ last.offset = "é =\n 'ü' + b".utf8ByteSize ∧
      Tiles [] "é =\n 'ü' + b".toList ts :=
  ⟨by decide, by decide +kernel, all_tiles "é =\n 'ü' + b" (by decide)⟩

/-!
The places of tokens.

A token of a text, the end of input included, stands on the line that the text before it ends on
(`Token.all_lines`).  Places are ordered as they are read, by line and then by column.  Of a text
whose tokens each lie on one line and have no characters of more than one byte, the tokens stand one
behind the other (`Token.all_ordered`): the last column of a token is counted from its bytes, and
the columns from characters.
-/

/-! ### Lines -/

/-- Where the scanner finds its next token, whatever its kind. -/
lemma next_place {before rest : List Char} {t : Token} {c : Cursor}
    (hnext : (Cursor.at_ before rest).next = (t, c)) :
    ∃ gap after, rest = gap ++ t.raw.toList ++ after ∧ t.offset = bytesOf (before ++ gap) ∧
      t.line = lineAfter (before ++ gap) ∧ widthAfter (before ++ gap) ≤ t.column := by
  obtain ⟨gap, text, after, hgap, hdrop, hrest, hsize⟩ := split_lexeme rest
  obtain ⟨hraw, -, -, hline, hcolumn, hoffset, -⟩ := next_at before gap text after hgap hrest hsize
  rw [hnext] at hraw hline hcolumn hoffset
  have hchars : t.raw.toList = text := by rw [hraw, String.toList_ofList]
  refine ⟨gap, after, hchars ▸ hrest, hoffset, ?_⟩
  rw [hline, hcolumn]
  cases htail : text ++ after with
  | nil => exact ⟨rfl, Nat.le_refl _⟩
  | cons ch cs =>
    -- what stands behind blanks is no blank, so no line feed
    have hfeed : ch ≠ '\n' := by
      rintro rfl
      have hhead := List.head?_dropWhile_not isGap rest
      rw [hdrop, htail] at hhead
      exact Bool.noConfusion (hhead : isGap '\n' = false)
    obtain ⟨hline', hcolumn'⟩ := Cursor.place_at (before ++ gap) cs hfeed
    exact ⟨hline', by omega⟩

/-- Where the scanner stands after a token that is not the end of input. -/
lemma next_after {before rest : List Char} {t : Token} {c : Cursor}
    (hnext : (Cursor.at_ before rest).next = (t, c)) (hkind : t.kind ≠ .eof) :
    ∃ gap after, rest = gap ++ t.raw.toList ++ after ∧ t.StartsAfter (before ++ gap) ∧ t.raw ≠ "" ∧
      c = Cursor.at_ (before ++ gap ++ t.raw.toList) after := by
  obtain ⟨gap, after, hrest, -, hplace, -, hraw, hc⟩ := next_token hnext hkind
  exact ⟨gap, after, hrest, hplace, hraw, hc⟩

lemma tokens_lines {fuel : Nat} {before rest : List Char} {t : Token}
    (h : t ∈ Cursor.tokens fuel (Cursor.at_ before rest)) :
    ∃ a b, before ++ rest = a ++ t.raw.toList ++ b ∧ t.offset = bytesOf a ∧
    t.line = lineAfter a := by
  induction fuel generalizing before rest with
  | zero => cases h
  | succ fuel ih =>
    obtain ⟨u, c, hnext⟩ : ∃ u c, (Cursor.at_ before rest).next = (u, c) := ⟨_, _, rfl⟩
    have hfirst : t = u → ∃ a b, before ++ rest = a ++ t.raw.toList ++ b ∧ t.offset = bytesOf a ∧
        t.line = lineAfter a := by
      rintro rfl
      obtain ⟨gap, after, hrest, hoffset, hline, -⟩ := next_place hnext
      exact ⟨before ++ gap, after, by simp [hrest], hoffset, hline⟩
    rw [Cursor.tokens, hnext] at h
    dsimp only at h
    split at h
    · exact hfirst (List.mem_singleton.1 h)
    · next hkind =>
      rcases List.mem_cons.1 h with ht | ht
      · exact hfirst ht
      · obtain ⟨gap, after, hrest, -, -, rfl⟩ := next_after hnext hkind
        obtain ⟨a, b, hsplit, hplace⟩ := ih ht
        exact ⟨a, b, by rw [← hsplit, hrest]; simp, hplace⟩

lemma tokens_end {fuel : Nat} {before rest : List Char} (hfuel : rest.length < fuel) :
    ∃ ts, ∃ last : Token, Cursor.tokens fuel (Cursor.at_ before rest) = ts ++ [last] ∧
    last.kind = .eof := by
  induction fuel generalizing before rest with
  | zero => exact absurd hfuel (Nat.not_lt_zero _)
  | succ fuel ih =>
    obtain ⟨t, c, hnext⟩ : ∃ t c, (Cursor.at_ before rest).next = (t, c) := ⟨_, _, rfl⟩
    rw [Cursor.tokens, hnext]
    dsimp only
    split
    · next heof => exact ⟨[], t, rfl, heof⟩
    · next hkind =>
      obtain ⟨gap, after, hrest, -, hraw, rfl⟩ := next_after hnext hkind
      have hpos : 0 < t.raw.toList.length := by
        rw [List.length_pos_iff, ne_eq, String.toList_eq_nil_iff]
        exact hraw
      have hshort : after.length < fuel := by
        rw [hrest, List.length_append, List.length_append] at hfuel
        omega
      obtain ⟨ts, last, hts, hlast⟩ := ih hshort
      exact ⟨t :: ts, last, by rw [hts, List.cons_append], hlast⟩

/-- The tokens of a text end with the end of input, also behind a NUL. -/
lemma all_end (s : String) : ∃ ts, ∃ last : Token, all s = ts ++ [last] ∧ last.kind = .eof := by
  have hfuel : s.toList.length < s.length + 1 := by
    rw [String.length_toList]
    exact Nat.lt_succ_self _
  exact @tokens_end _ [] _ hfuel

/-- **Lines.**  Every token of a text stands on the line that the text before it ends on. -/
theorem all_lines {s : String} {t : Token} (h : t ∈ all s) :
    ∃ a b, s.toList = a ++ t.raw.toList ++ b ∧ t.offset = bytesOf a ∧ t.line = lineAfter a :=
  @tokens_lines _ [] _ _ h

/-! ### Order -/

/-- A place: a line and a column. -/
abbrev Place := ℕ ×ₗ ℕ

/-- Where a text ends. -/
def placeAfter (cs : List Char) : Place := toLex (lineAfter cs, widthAfter cs)

/-- The place of the first character of a token. -/
def start (t : Token) : Place := toLex (t.line, t.column)

/-- The place of the last character of a token, as spans have it: columns are counted from bytes,
and the end of input counts for one. -/
def stop (t : Token) : Place := toLex (t.line, t.column + max 1 t.raw.utf8ByteSize - 1)

/-- A token on one line, of which every character is one byte. -/
structure IsPlain (t : Token) : Prop where
  noLineFeed : '\n' ∉ t.raw.toList
  bytes_eq : t.raw.utf8ByteSize = t.raw.length

lemma start_le_stop (t : Token) : t.start ≤ t.stop := by
  refine Prod.Lex.toLex_le_toLex.2 (.inr ⟨rfl, ?_⟩)
  dsimp only
  omega

lemma widthAfter_append {cs ds : List Char} (h : '\n' ∉ ds) :
    widthAfter (cs ++ ds) = widthAfter cs + ds.length := by
  induction ds using List.reverseRecOn with
  | nil => simp
  | append_singleton ds d ih =>
    have hd : d ≠ '\n' := by
      rintro rfl
      simp at h
    have hds : '\n' ∉ ds := fun hmem => h (List.mem_append_left _ hmem)
    rw [← List.append_assoc, widthAfter_concat _ hd, ih hds, List.length_append,
      List.length_singleton, Nat.add_assoc]

/-- A text ends behind the places in it. -/
lemma placeAfter_le_append (cs ds : List Char) : placeAfter cs ≤ placeAfter (cs ++ ds) := by
  rw [placeAfter, placeAfter, Prod.Lex.toLex_le_toLex, lineAfter_append]
  by_cases h : '\n' ∈ ds
  · have hcount : 0 < ds.count '\n' := List.count_pos_iff.2 h
    left
    omega
  · right
    rw [widthAfter_append h, List.count_eq_zero_of_not_mem h]
    dsimp only
    omega

/-- A token ends where the text with it ends. -/
lemma stop_eq {t : Token} {before : List Char} (hplace : t.StartsAfter before) (hraw : t.raw ≠ "")
    (hplain : t.IsPlain) : t.stop = placeAfter (before ++ t.raw.toList) := by
  have hlength : 0 < t.raw.length := by
    rw [← String.length_toList, List.length_pos_iff, ne_eq, String.toList_eq_nil_iff]
    exact hraw
  have hcount : t.raw.toList.count '\n' = 0 := List.count_eq_zero_of_not_mem hplain.noLineFeed
  rw [stop, placeAfter, lineAfter_append, widthAfter_append hplain.noLineFeed, hcount,
    hplace.line_eq,
    hplace.column_eq, hplain.bytes_eq, String.length_toList]
  congr 2
  omega

/-- One token stands behind another. -/
def Follows (t u : Token) : Prop := t.stop ≤ u.start

lemma head_tokens {fuel : Nat} {before rest : List Char} {t : Token}
    (h : t ∈ (Cursor.tokens fuel (Cursor.at_ before rest)).head?) :
    placeAfter before ≤ t.start := by
  cases fuel with
  | zero => cases h
  | succ fuel =>
    obtain ⟨u, c, hnext⟩ : ∃ u c, (Cursor.at_ before rest).next = (u, c) := ⟨_, _, rfl⟩
    obtain rfl : t = u := by
      rw [Cursor.tokens, hnext] at h
      dsimp only at h
      split at h <;> simpa using h.symm
    obtain ⟨gap, after, -, -, hline, hcolumn⟩ := next_place hnext
    refine (placeAfter_le_append before gap).trans
      (Prod.Lex.toLex_le_toLex.2 (.inr ⟨hline.symm, hcolumn⟩))

lemma tokens_ordered {fuel : Nat} {before rest : List Char}
    (hplain : ∀ t ∈ Cursor.tokens fuel (Cursor.at_ before rest), t.IsPlain) :
    (Cursor.tokens fuel (Cursor.at_ before rest)).IsChain Follows := by
  induction fuel generalizing before rest with
  | zero => exact .nil
  | succ fuel ih =>
    obtain ⟨t, c, hnext⟩ : ∃ t c, (Cursor.at_ before rest).next = (t, c) := ⟨_, _, rfl⟩
    rw [Cursor.tokens, hnext] at hplain ⊢
    dsimp only at hplain ⊢
    split at hplain
    · next heof =>
      rw [if_pos heof]
      exact .singleton t
    · next hkind =>
      obtain ⟨ht, hrest⟩ := List.forall_mem_cons.1 hplain
      obtain ⟨gap, after, -, hplace, hraw, rfl⟩ := next_after hnext hkind
      rw [if_neg hkind]
      refine List.isChain_cons.2 ⟨fun u hu => ?_, ih hrest⟩
      rw [Follows, stop_eq hplace hraw ht]
      exact head_tokens hu

/-- **Order.** The tokens of a text stand one behind the other, if each lies on one line and has as
many bytes as characters. -/
theorem all_ordered {s : String} (h : ∀ t ∈ all s, t.IsPlain) : (all s).IsChain Follows :=
  @tokens_ordered _ [] _ h

end Trellis.Token
