/-
Documents are read from JSON as they were written.

Escaping keeps every character (`stringBody_escaped`).  A document is read from its text, in front
of whatever can follow a value (`value_text`); only its numbers may be read as whole ones, which
`reread` says.  The reader has enough fuel, since every call that it makes is for a shorter piece of
text.
-/
import Trellis.Proofs.Json.Number

namespace Trellis.Json

/-! ### Strings -/

attribute [local simp] stringBody value text

lemma hexValue?_hexDigit {n : Nat} (hn : n < 16) : hexValue? (Text.hexDigit n) = some n := by
  have hall : ∀ k < 16, hexValue? (Text.hexDigit k) = some k := by decide
  exact hall n hn

/-- Four hexadecimal digits of a small number. -/
lemma hexDigits_four {n : Nat} (hn : n < 65536) :
    ∃ a b c d, Text.hexDigits 4 n = [a, b, c, d] ∧ unit? a b c d = some n := by
  refine ⟨Text.hexDigit (n / 16 / 16 / 16 % 16), Text.hexDigit (n / 16 / 16 % 16),
    Text.hexDigit (n / 16 % 16),
    Text.hexDigit (n % 16), rfl, ?_⟩
  rw [unit?, hexValue?_hexDigit (Nat.mod_lt _ (by norm_num)),
    hexValue?_hexDigit (Nat.mod_lt _ (by norm_num)),
    hexValue?_hexDigit (Nat.mod_lt _ (by norm_num)),
      hexValue?_hexDigit (Nat.mod_lt _ (by norm_num))]
  change some _ = some _
  congr 1
  omega

/-- A character that is written by its number is read by its number. -/
lemma stringBody_unit {c : Char} (hlow : c.toNat < 0xD800) (rest : List Char) :
    stringBody none ('\\' :: 'u' :: Text.hexDigits 4 c.toNat ++ rest) = push [c]
    (stringBody none rest) := by
  obtain ⟨h₁, h₂, h₃, h₄, hdigits, hunit⟩ := hexDigits_four (n := c.toNat) (by omega)
  have hhigh : isHighHalf c.toNat = false := by simp [isHighHalf]; omega
  have hlowHalf : isLowHalf c.toNat = false := by simp [isLowHalf]; omega
  rw [hdigits]
  simp only [List.cons_append, List.nil_append]
  rw [stringBody]
  simp only [hunit, hhigh, hlowHalf, Bool.false_eq_true, if_false, lone, List.nil_append,
    Char.ofNat_toNat]

/-- A character that is written with a letter behind a backslash is read by that letter. -/
lemma stringBody_letter {c letter : Char} (hletter : escaped? letter = some c) (hu : letter ≠ 'u')
    (rest : List Char) :
    stringBody none ('\\' :: letter :: rest) = push [c] (stringBody none rest) := by
  rw [stringBody]
  · simp only [hletter, lone, List.nil_append]
  · intro a b c d rest' h
    cases h
    exact absurd rfl hu

/-- A character that is written as it is. -/
lemma stringBody_plain {c : Char} (hquote : c ≠ '"') (hslash : c ≠ '\\') (hcontrol : ¬c.toNat < 32)
    (rest : List Char) :
    stringBody none (c :: rest) = push [c] (stringBody none rest) := by
  rw [stringBody]
  · rw [if_neg hcontrol]
    rfl
  · exact hquote
  · exact fun _ _ _ _ _ h => absurd h hslash
  · exact fun _ _ h => absurd h hslash

/-- A character is read from its escaped form. -/
lemma stringBody_escapeChar (guarded : Bool) (c : Char) (rest : List Char) :
    stringBody none (escapeChar guarded c ++ rest) = push [c] (stringBody none rest) := by
  have hnat : ∀ {n : Nat}, (c.toNat == n) = true → c = Char.ofNat n := fun h => by
    rw [← beq_iff_eq.1 h, Char.ofNat_toNat]
  rw [escapeChar]
  by_cases hquote : (c == '"') = true
  · obtain rfl := beq_iff_eq.1 hquote
    exact stringBody_letter rfl (by decide) rest
  rw [if_neg hquote]
  by_cases hslash : (c == '\\') = true
  · obtain rfl := beq_iff_eq.1 hslash
    exact stringBody_letter rfl (by decide) rest
  rw [if_neg hslash]
  by_cases h : (c.toNat == 8) = true
  · exact hnat h ▸ stringBody_letter rfl (by decide) rest
  rw [if_neg h]
  by_cases h : (c.toNat == 12) = true
  · exact hnat h ▸ stringBody_letter rfl (by decide) rest
  rw [if_neg h]
  by_cases h : (c.toNat == 10) = true
  · exact hnat h ▸ stringBody_letter rfl (by decide) rest
  rw [if_neg h]
  by_cases h : (c.toNat == 13) = true
  · exact hnat h ▸ stringBody_letter rfl (by decide) rest
  rw [if_neg h]
  by_cases h : (c.toNat == 9) = true
  · exact hnat h ▸ stringBody_letter rfl (by decide) rest
  rw [if_neg h]
  by_cases hcontrol : (decide (c.toNat < 32) || c.toNat == 0x2028 || c.toNat == 0x2029) = true
  · rw [if_pos hcontrol]
    refine stringBody_unit ?_ rest
    simp only [Bool.or_eq_true, decide_eq_true_eq, beq_iff_eq] at hcontrol
    omega
  rw [if_neg hcontrol]
  split
  · next h =>
    refine stringBody_unit ?_ rest
    simp only [Bool.and_eq_true, Bool.or_eq_true, beq_iff_eq] at h
    rcases h.2 with (rfl | rfl) | rfl <;> decide
  · refine stringBody_plain (by simpa using hquote) (by simpa using hslash) ?_ rest
    intro hlt
    simp [hlt] at hcontrol

/-- A text is read from its escaped form. -/
theorem stringBody_escaped (guarded : Bool) (s rest : List Char) :
    stringBody none (s.flatMap (escapeChar guarded) ++ '"' :: rest) = some (s, rest) := by
  induction s with
  | nil => rfl
  | cons c s ih =>
    rw [List.flatMap_cons, List.append_assoc, stringBody_escapeChar, ih]
    rfl

/-! ### What is read back -/

/-- What the text of a number is read as. -/
def rereadNumber (x : Float) : Datum := ((number? (numberText x).toList).map Prod.fst).getD .null

mutual
/-- What the text of a document is read as: the document, with whole numbers for those that were
written without point and exponent. -/
def reread : Datum → Datum
  | .number x => rereadNumber x
  | .list items => .list (rereadItems items)
  | .record fields => .record (rereadFields fields)
  | d => d

def rereadItems : List Datum → List Datum
  | [] => []
  | d :: ds => reread d :: rereadItems ds

def rereadFields : List (String × Datum) → List (String × Datum)
  | [] => []
  | (name, d) :: fs => (name, reread d) :: rereadFields fs
end

lemma isWritable_number {x : Float} (h : isWritable (.number x) = true) : Text.Finite x := by
  simp only [isWritable, Bool.and_eq_true, Bool.not_eq_true'] at h
  exact Text.finite_of_writable h.1 h.2

lemma ends_nil : Ends [] := nofun

/-- A finite number is read as what stands for it. -/
theorem rereadNumber_spec {x : Float} (hx : Text.Finite x) :
    Reads (numberText x).toList (rereadNumber x) ∧ loose? (rereadNumber x) = some (.number x) := by
  obtain ⟨d, hd, hloose⟩ := reads_numberText hx
  have hread := hd.read ends_nil
  rw [List.append_nil] at hread
  have heq : rereadNumber x = d := by rw [rereadNumber, hread, Option.map_some, Option.getD_some]
  exact heq ▸ ⟨hd, hloose⟩

/-! ### Values -/

/-- How a number starts, nothing else does. -/
lemma head_not {c : Char} (h : c = '-' ∨ c.isDigit = true) :
    isBlank c = false ∧ c ≠ 'n' ∧ c ≠ 't' ∧ c ≠ 'f' ∧ c ≠ '"' ∧ c ≠ '[' ∧ c ≠ '\x7b' ∧ c ≠ ']' ∧
    c ≠ '\x7d' := by
  have hblank : isBlank c = false := by
    simp only [isBlank, Bool.or_eq_false_iff, beq_eq_false_iff_ne, ne_eq]
    refine ⟨⟨⟨?_, ?_⟩, ?_⟩, ?_⟩ <;> rintro rfl <;> revert h <;> decide
  refine ⟨hblank, ?_, ?_, ?_, ?_, ?_, ?_, ?_, ?_⟩ <;> rintro rfl <;> revert h <;> decide

lemma skip_cons {c : Char} (h : isBlank c = false) (cs : List Char) : skip (c :: cs) = c :: cs := by
  rw [skip, List.dropWhile_cons, if_neg (by simp [h])]

lemma Reads.exists_cons {cs : List Char} {d : Datum} (h : Reads cs d) :
    ∃ c cs', cs = c :: cs' ∧ (c = '-' ∨ c.isDigit = true) := by
  obtain ⟨c, hc, hhead⟩ := h.head
  cases cs with
  | nil => cases hc
  | cons c' cs =>
    cases hc
    exact ⟨c, cs, rfl, hhead⟩

/-- What starts like a number is read as one. -/
lemma value_of_reads {cs rest : List Char} {d : Datum} (h : Reads cs d) (hrest : Ends rest)
    (n : Nat) :
    value (n + 1) (cs ++ rest) = some (d, rest) := by
  obtain ⟨c, cs, rfl, hhead⟩ := h.exists_cons
  obtain ⟨hblank, hn, ht, hf, hquote, hbracket, hbrace, -, -⟩ := head_not hhead
  rw [value, List.cons_append, skip_cons hblank]
  split
  · next h => exact absurd (List.cons.inj h).1 hn
  · next h => exact absurd (List.cons.inj h).1 ht
  · next h => exact absurd (List.cons.inj h).1 hf
  · next h => exact absurd (List.cons.inj h).1 hquote
  · next h => exact absurd (List.cons.inj h).1 hbracket
  · next h => exact absurd (List.cons.inj h).1 hbrace
  · exact h.read hrest

/-- The characters of a document. -/
def chars (guarded : Bool) (d : Datum) : List Char := (text guarded d).toList

/-- The characters of several documents with commas between them. -/
def itemChars (guarded : Bool) : List Datum → List Char
  | [] => []
  | [d] => chars guarded d
  | d :: ds => chars guarded d ++ ',' :: itemChars guarded ds

/-- The characters of the fields of a record with commas between them. -/
def fieldChars (guarded : Bool) : List (String × Datum) → List Char
  | [] => []
  | [(name, d)] => (stringText guarded name).toList ++ ':' :: chars guarded d
  | (name, d) :: fs =>
    (stringText guarded name).toList ++ ':' :: chars guarded d ++ ',' :: fieldChars guarded fs

lemma toList_itemTexts (guarded : Bool) (ds : List Datum) :
    (",".intercalate (itemTexts guarded ds)).toList = itemChars guarded ds := by
  rw [String.toList_intercalate]
  induction ds with
  | nil => rfl
  | cons d ds ih =>
    cases ds with
    | nil => simp [itemTexts, itemChars, chars]
    | cons d' ds => 
      rw [itemChars, ← ih]
      · simp [itemTexts, chars]
      · nofun

lemma toList_fieldTexts (guarded : Bool) (fs : List (String × Datum)) :
    (",".intercalate (fieldTexts guarded fs)).toList = fieldChars guarded fs := by
  rw [String.toList_intercalate]
  induction fs with
  | nil => rfl
  | cons f fs ih =>
    rcases f with ⟨name, d⟩
    cases fs with
    | nil => simp [fieldTexts, fieldChars, chars]
    | cons f' fs =>
      rw [fieldChars, ← ih]
      · rcases f' with ⟨name', d'⟩
        simp [fieldTexts, chars]
      · nofun

lemma chars_list (guarded : Bool) (ds : List Datum) :
    chars guarded (.list ds) = '[' :: (itemChars guarded ds ++ [']']) := by
  rw [chars, text, String.toList_append, String.toList_append, toList_itemTexts]
  rfl

lemma chars_record (guarded : Bool) (fs : List (String × Datum)) :
    chars guarded (.record fs) = '\x7b' :: (fieldChars guarded fs ++ ['\x7d']) := by
  rw [chars, text, String.toList_append, String.toList_append, toList_fieldTexts]
  rfl

lemma toList_stringText (guarded : Bool) (s : String) :
    (stringText guarded s).toList = '"' :: (s.toList.flatMap (escapeChar guarded) ++ ['"']) := by
  rw [stringText, String.toList_ofList]
  rfl

lemma chars_null (guarded : Bool) : chars guarded .null = ['n', 'u', 'l', 'l'] := by
  rw [chars, text]
  rfl

lemma chars_true (guarded : Bool) : chars guarded (.bool true) = ['t', 'r', 'u', 'e'] := by
  rw [chars, text]
  rfl

lemma chars_false (guarded : Bool) : chars guarded (.bool false) = ['f', 'a', 'l', 's', 'e'] := by
  rw [chars, text]
  rfl

lemma chars_number (guarded : Bool) (x : Float) :
    chars guarded (.number x) = (numberText x).toList := by rw [chars, text]

lemma chars_whole (guarded : Bool) (k : Int) :
    chars guarded (.whole k) = (Text.intText k).toList := by rw [chars, text]

lemma chars_text (guarded : Bool) (s : String) :
    chars guarded (.text s) = '"' :: (s.toList.flatMap (escapeChar guarded) ++ ['"']) := by
  rw [chars, text, toList_stringText]

/-- A value starts with no blank and no closing bracket. -/
lemma head_chars (guarded : Bool) {d : Datum} (hd : isWritable d = true) :
    ∃ c cs, chars guarded d = c :: cs ∧ isBlank c = false ∧ c ≠ ']' := by
  have hnumber : ∀ {cs : List Char} {d' : Datum}, Reads cs d' → ∃ c cs', cs = c :: cs' ∧
      isBlank c = false ∧ c ≠ ']' := by
    intro cs d' h
    obtain ⟨c, cs, rfl, hhead⟩ := h.exists_cons
    obtain ⟨hblank, -, -, -, -, -, -, hclose, -⟩ := head_not hhead
    exact ⟨c, cs, rfl, hblank, hclose⟩
  cases d with
  | null => exact ⟨_, _, chars_null guarded, by decide, by decide⟩
  | bool b =>
    cases b
    · exact ⟨_, _, chars_false guarded, by decide, by decide⟩
    · exact ⟨_, _, chars_true guarded, by decide, by decide⟩
  | number x => exact chars_number guarded x ▸ hnumber (rereadNumber_spec (isWritable_number hd)).1
  | whole k => exact chars_whole guarded k ▸ hnumber (reads_intText k)
  | text s => exact ⟨_, _, chars_text guarded s, by decide, by decide⟩
  | list ds => exact ⟨_, _, chars_list guarded ds, by decide, by decide⟩
  | record fs => exact ⟨_, _, chars_record guarded fs, by decide, by decide⟩

/-- A document is read from its text with fuel for each character. -/
def ReadsBack (guarded : Bool) (d : Datum) : Prop :=
  ∀ {n : Nat} {rest : List Char}, (chars guarded d).length < n → Ends rest →
    value n (chars guarded d ++ rest) = some (reread d, rest)

lemma ends_cons {c : Char} (h : c = ',' ∨ c = ']' ∨ c = '\x7d') (cs : List Char) :
    Ends (c :: cs) := by
  rintro c' hc'
  cases hc'
  rcases h with rfl | rfl | rfl <;> decide

lemma itemChars_cons (guarded : Bool) (d : Datum) (ds : List Datum) : itemChars guarded (d :: ds) =
    chars guarded d ++ (if ds.isEmpty then [] else ',' :: itemChars guarded ds) := by
  cases ds with
  | nil => exact (List.append_nil _).symm
  | cons d' ds => rfl

lemma fieldChars_cons (guarded : Bool) (name : String) (d : Datum) (fs : List (String × Datum)) :
    fieldChars guarded ((name, d) :: fs) = (stringText guarded name).toList ++ ':' ::
    (chars guarded d ++
      (if fs.isEmpty then [] else ',' :: fieldChars guarded fs)) := by
  cases fs with
  | nil => simp [fieldChars]
  | cons f fs => simp [fieldChars]

/-- Items are read one by one. -/
lemma items_of_readsBack {guarded : Bool} {ds : List Datum} (h : ∀ d ∈ ds, ReadsBack guarded d)
    (hne : ds ≠ []) {n : Nat} {rest : List Char} (hn : (itemChars guarded ds).length + 1 < n) :
    items n (itemChars guarded ds ++ ']' :: rest) = some (rereadItems ds, rest) := by
  induction ds generalizing n with
  | nil => exact absurd rfl hne
  | cons d ds ih =>
    obtain ⟨n, rfl⟩ : ∃ k, n = k + 1 := ⟨n - 1, by omega⟩
    have hd : ReadsBack guarded d := h d List.mem_cons_self
    rw [itemChars_cons, List.length_append] at hn
    rw [itemChars_cons, List.append_assoc]
    cases ds with
    | nil =>
      have hvalue := hd (n := n) (by omega) (ends_cons (c := ']') (by decide) rest)
      rw [List.isEmpty_nil, if_pos rfl, List.nil_append, items, hvalue]
      rfl
    | cons d' ds =>
      have hrest := ih (fun d hd => h d (List.mem_cons_of_mem _ hd)) (List.cons_ne_nil _ _) (n := n)
      rw [List.isEmpty_cons, if_neg Bool.false_ne_true] at hn ⊢
      rw [List.length_cons] at hn
      have hvalue := hd (n := n) (by omega)
        (ends_cons (c := ',') (by decide) (itemChars guarded (d' :: ds) ++ ']' :: rest))
      rw [List.cons_append, items, hvalue]
      simp only [skip_cons (show isBlank ',' = false by decide), hrest (by omega), Option.map_some]
      rfl

/-- Fields are read one by one. -/
lemma fields_of_readsBack {guarded : Bool} {fs : List (String × Datum)}
    (h : ∀ f ∈ fs, ReadsBack guarded f.2) (hne : fs ≠ [])
    {n : Nat} {rest : List Char} (hn : (fieldChars guarded fs).length + 1 < n) :
    fields n (fieldChars guarded fs ++ '\x7d' :: rest) = some (rereadFields fs, rest) := by
  induction fs generalizing n with
  | nil => exact absurd rfl hne
  | cons f fs ih =>
    obtain ⟨n, rfl⟩ : ∃ k, n = k + 1 := ⟨n - 1, by omega⟩
    rcases f with ⟨name, d⟩
    have hd : ReadsBack guarded d := h (name, d) List.mem_cons_self
    rw [fieldChars_cons, List.length_append, List.length_cons, List.length_append] at hn
    rw [fieldChars_cons, toList_stringText]
    simp only [List.cons_append, List.append_assoc, List.nil_append]
    rw [fields, skip_cons (by decide)]
    simp only [stringBody_escaped, skip_cons (show isBlank ':' = false by decide)]
    cases fs with
    | nil =>
      have hvalue := hd (n := n) (by omega) (ends_cons (c := '\x7d') (by decide) rest)
      simp only [List.isEmpty_nil, if_true, List.nil_append, hvalue,
        skip_cons (show isBlank '\x7d' = false by decide),
        String.ofList_toList]
      rfl
    | cons f' fs =>
      have hrest := ih (fun f hf => h f (List.mem_cons_of_mem _ hf)) (List.cons_ne_nil _ _) (n := n)
      rw [List.isEmpty_cons, if_neg Bool.false_ne_true] at hn ⊢
      rw [List.length_cons] at hn
      have hvalue := hd (n := n) (by omega)
        (ends_cons (c := ',') (by decide) (fieldChars guarded (f' :: fs) ++ '\x7d' :: rest))
      simp only [List.cons_append, hvalue, skip_cons (show isBlank ',' = false by decide),
        hrest (by omega),
        Option.map_some, String.ofList_toList]
      rfl

/-- A list is read if its items are. -/
lemma readsBack_list {guarded : Bool} {ds : List Datum} (hwritable : ∀ d ∈ ds, isWritable d = true)
    (h : ∀ d ∈ ds, ReadsBack guarded d) : ReadsBack guarded (.list ds) := by
  intro n rest hn hrest
  obtain ⟨n, rfl⟩ : ∃ k, n = k + 1 := ⟨n - 1, by omega⟩
  rw [chars_list, List.length_cons, List.length_append] at hn
  rw [chars_list, List.cons_append, List.append_assoc, value, skip_cons (by decide)]
  cases ds with
  | nil => rfl
  | cons d ds =>
    obtain ⟨c, cs, hcs, hblank, hclose⟩ := head_chars guarded (hwritable d List.mem_cons_self)
    have hitems : items n (itemChars guarded (d :: ds) ++ ']' :: rest) =
      some (rereadItems (d :: ds), rest) :=
      items_of_readsBack h (List.cons_ne_nil _ _) (by simp at hn; omega)
    simp only [List.singleton_append]
    rw [itemChars_cons, hcs, List.cons_append] at hitems ⊢
    simp only [List.cons_append, skip_cons hblank]
    split
    · next heq => exact absurd (List.cons.inj heq).1 hclose
    · rw [← List.cons_append, hitems]
      rfl

/-- A record is read if what is in its fields is. -/
lemma readsBack_record {guarded : Bool} {fs : List (String × Datum)}
    (h : ∀ f ∈ fs, ReadsBack guarded f.2) :
    ReadsBack guarded (.record fs) := by
  intro n rest hn hrest
  obtain ⟨n, rfl⟩ : ∃ k, n = k + 1 := ⟨n - 1, by omega⟩
  rw [chars_record, List.length_cons, List.length_append] at hn
  rw [chars_record, List.cons_append, List.append_assoc, value, skip_cons (by decide)]
  cases fs with
  | nil => rfl
  | cons f fs =>
    rcases f with ⟨name, d⟩
    have hfields : fields n (fieldChars guarded ((name, d) :: fs) ++ '\x7d' :: rest) =
        some (rereadFields ((name, d) :: fs), rest) :=
      fields_of_readsBack h (List.cons_ne_nil _ _) (by simp at hn; omega)
    simp only [List.singleton_append]
    rw [fieldChars_cons, toList_stringText] at hfields ⊢
    simp only [List.cons_append, skip_cons (show isBlank '"' = false by decide)]
    split
    · next heq => exact absurd (List.cons.inj heq).1 (by decide)
    · simp only [List.cons_append] at hfields
      rw [hfields]
      rfl

lemma isWritable_of_mem {ds : List Datum} (h : areWritable ds = true) :
    ∀ d ∈ ds, isWritable d = true := by
  induction ds with
  | nil => exact fun _ hd => absurd hd List.not_mem_nil
  | cons d ds ih =>
    rw [areWritable, Bool.and_eq_true] at h
    exact List.forall_mem_cons.2 ⟨h.1, ih h.2⟩

lemma isWritable_of_mem_fields {fs : List (String × Datum)} (h : fieldsWritable fs = true) :
    ∀ f ∈ fs, isWritable f.2 = true := by
  induction fs with
  | nil => exact fun _ hf => absurd hf List.not_mem_nil
  | cons f fs ih =>
    rcases f with ⟨name, d⟩
    rw [fieldsWritable, Bool.and_eq_true] at h
    exact List.forall_mem_cons.2 ⟨h.1, ih h.2⟩

/-- What is no list and no record is read in one step. -/
lemma readsBack_of_step {guarded : Bool} {d : Datum}
    (h : ∀ (n : Nat) (rest : List Char), Ends rest → value (n + 1) (chars guarded d ++ rest) =
    some (reread d, rest)) :
    ReadsBack guarded d := by
  intro n rest hn hrest
  obtain ⟨n, rfl⟩ : ∃ k, n = k + 1 := ⟨n - 1, by omega⟩
  exact h n rest hrest

/-- **Reading what was written.** A document is read from its text, in front of everything that does
not go on with a number. -/
theorem readsBack (guarded : Bool) : ∀ {d : Datum}, isWritable d = true → ReadsBack guarded d
  | .null, _ => readsBack_of_step fun n rest _ => by
    rw [chars_null]
    rfl
  | .bool b, _ => readsBack_of_step fun n rest _ => by
    cases b
    · rw [chars_false]
      rfl
    · rw [chars_true]
      rfl
  | .number x, hd => readsBack_of_step fun n rest hrest => by
    rw [chars_number]
    exact value_of_reads (rereadNumber_spec (isWritable_number hd)).1 hrest n
  | .whole k, _ => readsBack_of_step fun n rest hrest => by
    rw [chars_whole]
    exact value_of_reads (reads_intText k) hrest n
  | .text s, _ => readsBack_of_step fun n rest _ => by
    rw [chars_text, value, List.cons_append, skip_cons (by decide)]
    simp only [List.append_assoc, List.cons_append, List.nil_append, stringBody_escaped,
      Option.map_some,
      String.ofList_toList]
    rfl
  | .list ds, hd =>
    readsBack_list (isWritable_of_mem hd) fun d hmem =>
      readsBack guarded (isWritable_of_mem hd d hmem)
  | .record fs, hd =>
    readsBack_record fun f hmem => readsBack guarded (isWritable_of_mem_fields hd f hmem)
termination_by d => sizeOf d
decreasing_by
  · have := List.sizeOf_lt_of_mem hmem
    simp
    omega
  · have := List.sizeOf_lt_of_mem hmem
    rcases f with ⟨name, d⟩
    simp at *
    omega

/-! ### Whole texts -/

/-- A number is read as a number. -/
lemma flat_rereadNumber (x : Float) : (rereadNumber x).depth = 1 ∧
    (rereadNumber x).nesting = 0 := by
  have hflat : ∀ {cs : List Char} {r : Datum × Rest}, number? cs = some r → r.1.depth = 1 ∧
      r.1.nesting = 0 := by
    intro cs r h
    unfold number? at h
    simp only [Option.bind_eq_bind, Option.bind_eq_some_iff] at h
    obtain ⟨⟨ds, rest⟩, -, h⟩ := h
    -- with a sign or without, whole or not
    dsimp only at h
    split at h <;> split at h <;> cases h <;> exact ⟨rfl, rfl⟩
  rw [rereadNumber]
  cases h : number? (numberText x).toList with
  | none => exact ⟨rfl, rfl⟩
  | some r => exact hflat h

mutual
lemma depth_reread : (d : Datum) → (reread d).depth = d.depth
  | .null | .bool _ | .whole _ | .text _ => rfl
  | .number x => (flat_rereadNumber x).1
  | .list ds => by rw [reread, Datum.depth, Datum.depth, depth_rereadItems ds]
  | .record fs => by rw [reread, Datum.depth, Datum.depth, depth_rereadFields fs]

lemma depth_rereadItems : (ds : List Datum) → Datum.depthList (rereadItems ds) = Datum.depthList ds
  | [] => rfl
  | d :: ds =>
    by rw [rereadItems, Datum.depthList, Datum.depthList, depth_reread d, depth_rereadItems ds]

lemma depth_rereadFields : (fs : List (String × Datum)) → Datum.depthFields (rereadFields fs) =
    Datum.depthFields fs
  | [] => rfl
  | (_, d) :: fs => by
    rw [rereadFields, Datum.depthFields, Datum.depthFields, depth_reread d, depth_rereadFields fs]
end

mutual
lemma nesting_reread : (d : Datum) → (reread d).nesting = d.nesting
  | .null | .bool _ | .whole _ | .text _ => rfl
  | .number x => (flat_rereadNumber x).2
  | .list ds => by rw [reread, Datum.nesting, Datum.nesting, nesting_rereadItems ds]
  | .record fs => by rw [reread, Datum.nesting, Datum.nesting, nesting_rereadFields fs]

lemma nesting_rereadItems : (ds : List Datum) → Datum.nestingList (rereadItems ds) =
    Datum.nestingList ds
  | [] => rfl
  | d :: ds => by
    rw [rereadItems, Datum.nestingList, Datum.nestingList, nesting_reread d, nesting_rereadItems ds]

lemma nesting_rereadFields : (fs : List (String × Datum)) →
    Datum.nestingFields (rereadFields fs) = Datum.nestingFields fs
  | [] => rfl
  | (_, d) :: fs => by
    rw [rereadFields, Datum.nestingFields, Datum.nestingFields, nesting_reread d,
      nesting_rereadFields fs]
end

/-- **Reading JSON.** The text of a document is read as that document if it is not nested too
deeply, and is not read at all if it is. -/
theorem parse?_text (guarded : Bool) {d : Datum} (hd : isWritable d = true) :
    parse? (text guarded d) = if d.nesting ≤ maxNesting then some (reread d) else none := by
  have hvalue : value ((chars guarded d).length + 2) (chars guarded d) = some (reread d, []) := by
    have hread := readsBack guarded hd (n := (chars guarded d).length + 2) (by omega) ends_nil
    rwa [List.append_nil] at hread
  have hchars : (text guarded d).toList = chars guarded d := rfl
  simp only [parse?, hchars, hvalue, nesting_reread]
  change (if decide (d.nesting ≤ maxNesting) = true then some (reread d) else none) = _
  simp only [decide_eq_true_eq]

/-- A quoted text is read as that text. -/
lemma parse?_stringText (guarded : Bool) (s : String) : parse? (stringText guarded s) =
    some (.text s) := by
  have htext : stringText guarded s = text guarded (.text s) := by rw [text]
  have hnesting : (Datum.text s).nesting ≤ maxNesting := Nat.zero_le _
  rw [htext, parse?_text guarded rfl, if_pos hnesting]
  rfl

end Trellis.Json
