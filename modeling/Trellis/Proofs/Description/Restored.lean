/-
Descriptions come back as they were written.

What building leaves is small and plain, so its document is read as it was written
(`ofDatum?_document`), it passes all checks, and its entries can be compiled again
(`recompile_toDraft`).  What comes back has the same fields, and entries that do the same in every
environment (`Restored`).  The line that names a body is cut where it was put together, so it comes
back as well, quoted or not.

All this is so as long as JSON can be nested as deeply as the document is: a template may be deeper
(`tower`).

An expression that depends on nothing is computed when the description is built, and its value
stands in the text in its place.  It is null, a text, a truth value or a number
(`Build.isConstant_of_folded?`).  JSON has no infinite numbers and no numbers that are none, so such
a constant can be written exactly if it is not one of these, and then it is read back as the same
part of a text (`Build.exprPart_reread`), to the last bit of a number.
-/
import Trellis.Proofs.Description.Recompiled
import Trellis.Proofs.Description.Table
import Trellis.Proofs.Description.Written
import Trellis.Proofs.Files
import Trellis.Proofs.Readable

namespace Trellis

/-! ### Entries -/

/-- An entry that looks like another one and does the same in every environment: it has the same
value, it is written to in the same way, and it calls the same. -/
structure Expression.Equivalent (e e' : Expression) : Prop where
  source : e'.source = e.source
  body : e'.body = e.body
  flags : e'.flags = e.flags
  bind : e'.bind = e.bind
  event : e'.event = e.event
  value : ∀ (m : Machine) (env : Env), Eval.program m env e'.program = Eval.program m env e.program
  isWritable : e'.target.isSome = e.target.isSome
  write : ∀ (m : Machine) (b : RenderedBinding) (v : Value),
    RenderedBinding.update m { b with target := e'.target } v =
      RenderedBinding.update m { b with target := e.target } v
  handlerName : e'.handler.map (·.name) = e.handler.map (·.name)
  fire : ∀ (m : Machine) (r : RenderedEvent) (args : List Value),
    RenderedEvent.fire m { r with handler := e'.handler } args =
      RenderedEvent.fire m { r with handler := e.handler } args

/-- What differs in its places only does the same. -/
lemma Expression.Revived.equivalent {e e' : Expression} (h : e.Revived e') : e.Equivalent e' where
  source := h.source
  body := h.body
  flags := h.flags
  bind := h.bind
  event := h.event
  value m env := Eval.program_congr m env h.tree
  isWritable := by
    have hsome := congrArg Option.isSome h.target
    rwa [Option.isSome_map, Option.isSome_map] at hsome
  write m b v := RenderedBinding.update_congr m b h.target v
  handlerName := by
    have hname := congrArg (Option.map (·.name)) h.handler
    rwa [Option.map_map, Option.map_map] at hname
  fire m r args := RenderedEvent.fire_congr m r h.handler args

namespace Text

/-! ### Cutting -/

/-- A text that neither begins nor ends with a blank is trimmed already. -/
lemma trim_eq_self {s : String} {first last : Char} {front back : List Char}
    (hfront : s.toList = first :: back)
    (hback : s.toList = front ++ [last]) (hfirst : isBlank first = false)
    (hlast : isBlank last = false) :
    trim s = s := by
  have hleft : trimLeftChars isBlank s.toList = s.toList := by
    rw [trimLeftChars, hfront, List.dropWhile_cons_of_neg
      (by rw [hfirst]; exact Bool.false_ne_true)]
  have hright : trimRightChars isBlank s.toList = s.toList := by
    rw [trimRightChars, hback, List.reverse_append, List.reverse_singleton, List.singleton_append,
      List.dropWhile_cons_of_neg (by rw [hlast]; exact Bool.false_ne_true), List.reverse_cons,
        List.reverse_reverse]
  rw [trim, hleft, hright, String.ofList_toList]

/-- What was put in front is there, and can be dropped. -/
lemma dropFront_append (piece rest : String) :
    startsWith (piece ++ rest) piece = true ∧ dropFront (piece ++ rest) piece = rest := by
  rw [startsWith, dropFront, String.toList_append, dropPiece?_append]
  exact ⟨rfl, String.ofList_toList⟩

/-- A text is cut at the first separator. -/
lemma cutChars_separator {c : Char} {cs : List Char} (hcs : c ∉ cs) (rest : List Char) :
    cutChars [c] (cs ++ c :: rest) = some (cs, rest) := by
  induction cs with
  | nil =>
    rw [List.nil_append, cutChars, dropPiece?, beq_self_eq_true, if_pos rfl]
    rfl
  | cons b cs ih =>
    obtain ⟨hb, hcs⟩ := List.ne_and_not_mem_of_not_mem_cons hcs
    rw [List.cons_append, cutChars, dropPiece?, if_neg (by rwa [beq_iff_eq]), ih hcs]
    rfl

/-- A number that is not too large is read from its digits. -/
lemma whole?_natText {n : Nat} (hn : n < 2 ^ 63) : whole? (natText n) = some (n : Int) := by
  have hdigits := Json.digits_toDigits n
  have hall : (Nat.toDigits 10 n).all (fun c => decide ('0' ≤ c) && decide (c ≤ '9')) = true :=
    List.all_eq_true.2 hdigits
  have hempty : (Nat.toDigits 10 n).isEmpty = false :=
    List.isEmpty_eq_false_iff.2 Nat.toDigits_ne_nil
  have hvalue : (Nat.toDigits 10 n).foldl (fun n c => 10 * n + (c.toNat - 48)) 0 = n :=
    Json.digitsValue_toDigits n
  have hrange : (decide (-(power 2 63 : Int) ≤ n) && decide ((n : Int) < power 2 63)) = true := by
    rw [power_eq, Bool.and_eq_true, decide_eq_true_eq, decide_eq_true_eq]
    omega
  rw [whole?, natText, String.toList_ofList]
  split
  next negative ds hsplit =>
  -- digits begin with no sign
  split at hsplit
  · next cs hcs => exact absurd (hdigits '+' (hcs ▸ List.mem_cons_self)) (by decide)
  · next cs hcs => exact absurd (hdigits '-' (hcs ▸ List.mem_cons_self)) (by decide)
  · cases hsplit
    rw [hall, hempty, hvalue]
    simp only [Bool.not_true, Bool.or_self, Bool.false_eq_true, if_false, hrange, if_true]

end Text

namespace Description

open Container Markup

variable {α : Type} {a : Arena} {c : Code.Options} {o : Options} {an : Annotated α}
  {f : Construction}

/-- A description that has the same fields as another one, and equivalent entries. -/
structure Restored (d d' : Description) : Prop where
  module : d'.module = d.module
  dependencies : d'.dependencies = d.dependencies
  bodies : d'.bodies = d.bodies
  reactive : d'.reactive = d.reactive
  watches : d'.watches = d.watches
  childNames : d'.childNames = d.childNames
  translations : d'.translations = d.translations
  symbols : d'.symbols = d.symbols
  entries : List.Forall₂ Expression.Equivalent d.expressions.toList d'.expressions.toList

/-- All tables of a description are small enough for their numbers to be read. -/
structure Bounded (d : Description) : Prop where
  expressions : d.expressions.size < 2 ^ 63
  watches : d.watches.size < 2 ^ 63
  bodies : d.bodies.size < 2 ^ 63

/-! ### What building leaves -/

/-- Every entry of the table stands for the text of its slot. -/
lemma Construction.exists_filling? (hf : f.Sound a c)
    (hfilled : ∀ x ∈ f.texts, (f.filling? x).isSome) {e : Expression}
    (he : e ∈ (finished o an f).expressions) : ∃ x, f.filling? x = some e := by
  obtain ⟨i, hi⟩ := Array.getElem?_of_mem he
  obtain ⟨hmap, hsize⟩ := map_some_expressions o an hf hfilled
  obtain ⟨hlt, -⟩ := Array.getElem?_eq_some_iff.1 hi
  rw [hsize] at hlt
  refine ⟨f.texts[i], ?_⟩
  rw [Construction.filling?_of_getElem? hf.sane (List.getElem?_eq_getElem hlt), ← hmap,
    Array.getElem?_map, hi]
  rfl

/-- What building leaves can be stored, if it is small enough and its constants are plain. -/
lemma storable_finished (hf : f.Sound a c) (hfilled : ∀ x ∈ f.texts, (f.filling? x).isSome)
    (hfits : BodiesFit f f.bodies) (hsize : (finished o an f).Bounded)
    (hplain : ∀ b ∈ (finished o an f).bodies, ∀ i ∈ b.children, i.AllPlain) :
    (finished o an f).Storable where
  body b hb := by
    obtain ⟨k, hk⟩ := Array.getElem?_of_mem hb
    obtain ⟨hchild, hwatch, -⟩ := bodiesFit_finished o an hfits k b hk
    refine ⟨f.tables (f.reach k), ?_, hchild, hwatch⟩
    have hexpressions := hsize.expressions
    rw [(Construction.map_some_expressions o an hf hfilled).2] at hexpressions
    have hbodies : f.bodies.size < 2 ^ 63 := by
      simpa only [finished, Array.size_map] using hsize.bodies
    constructor
    · exact fun n hn => Nat.lt_trans hn hexpressions
    · exact fun n hn => Nat.lt_trans hn hsize.watches
    · rintro n ⟨-, -, b, hb, -⟩
      obtain ⟨hlt, -⟩ := Array.getElem?_eq_some_iff.1 hb
      exact Nat.lt_trans hlt hbodies
  plain := hplain
  run runs hruns run hrun n hn := by
    obtain ⟨hnonneg, hlt⟩ := (hf.runs runs hruns).written run hrun n hn
    have hexpressions := hsize.expressions
    rw [(Construction.map_some_expressions o an hf hfilled).2] at hexpressions
    omega

/-- A description with other entries, which differ in their places only, is restored. -/
lemma restored_of_revived {d : Description} {es : List Expression}
    (hes : List.Forall₂ Expression.Revived d.expressions.toList es) :
    d.Restored { d with expressions := es.toArray } where
  module := rfl
  dependencies := rfl
  bodies := rfl
  reactive := rfl
  watches := rfl
  childNames := rfl
  translations := rfl
  symbols := rfl
  entries := hes.imp fun _ _ h => h.equivalent

/-- A description that passes all checks as it is written down, and whose entries can be compiled
again, comes back from what was written down, with entries that differ in their places only. -/
lemma toDescription_toDraft {d : Description} {decorators : Option (List String)}
    (hcheck : d.toDraft.check = .ok ())
    (hbodies : (d.toDraft.bodies.filterMap fun b => b.map Draft.Body.toBody) = d.bodies.toList)
    (hgives : ∀ e ∈ d.expressions.toList, ∀ i,
      Draft.Gives (Draft.recompile { decorators, interned := true } i (some e.toDraft)) e.Revived) :
    ∃ es, d.toDraft.toDescription decorators = .ok { d with expressions := es.toArray } ∧
      List.Forall₂ Expression.Revived d.expressions.toList es := by
  have hall : Draft.Gives ((d.expressions.toList.map fun e => some e.toDraft).zipIdx.mapM fun x =>
      Draft.recompile { decorators, interned := true } x.2 x.1) fun es =>
      List.Forall₂ Expression.Revived d.expressions.toList es :=
    Draft.gives_zipIdx (f := fun e i => Draft.recompile { decorators, interned := true } i e) hgives
      0
  obtain ⟨es, t, hrun, hes⟩ := hall (d.symbols.foldl (fun t s => (t.intern s).2) {})
  refine ⟨es, ?_, hes⟩
  rw [Draft.toDescription, hcheck, hbodies]
  change ((((d.expressions.toList.map fun e => some e.toDraft).zipIdx).mapM
    fun x => Draft.recompile { decorators, interned := true } x.2 x.1)
      (d.symbols.foldl (fun t s => (t.intern s).2) {}) >>= fun r => _) = _
  rw [hrun]
  simp only [Array.toArray_toList]
  rfl

/-- What building leaves comes back, after it was written down. -/
lemma toDescription_finished (hf : f.Sound a (Build.code o)) (htable : a.table.Sound)
    (hfilled : ∀ x ∈ f.texts, (f.filling? x).isSome) (hfits : BodiesFit f f.bodies)
    (hsigns : ∀ e ∈ (finished o an f).expressions, e.program.signsApart = true) :
    ∃ es, (finished o an f).toDraft.toDescription o.decorators =
        .ok { finished o an f with expressions := es.toArray } ∧
      List.Forall₂ Expression.Revived (finished o an f).expressions.toList es := by
  refine toDescription_toDraft (check_finished o an hf hfilled hfits) (toBody_finished o an hfits)
    fun e he i => ?_
  have he : e ∈ (finished o an f).expressions := Array.mem_def.2 he
  obtain ⟨x, hx⟩ := Construction.exists_filling? hf hfilled he
  obtain ⟨hfind, hsource⟩ := hf.sane.entry hx
  obtain ⟨hmem, -⟩ := Table.mem_of_find? hfind
  have hstored := htable _ hmem
  exact recompile_toDraft (hf.able hx) (hsource.trans hstored.text_eq) hstored.isRead
    (hsigns e he) i

/-! ### Descriptions and lines -/

section

variable {d d' : Description} {decorators : Option (List String)}

/-- Reading the text of a description comes down to what its draft stands for. -/
lemma parse_document (hd : d.Storable) (hnesting : d.document.nesting ≤ Json.maxNesting)
    (guarded : Bool) :
    parse decorators (Json.text guarded d.document) = d.toDraft.toDescription decorators := by
  obtain ⟨hwritable, hread⟩ := ofDatum?_document hd
  have hparse := Json.parse?_text guarded hwritable
  rw [if_pos hnesting] at hparse
  have hdraft : Draft.read (Json.text guarded d.document) = .ok d.toDraft := by
    rw [Draft.read, hparse, Option.bind_some, hread]
  rw [parse, hdraft]
  rfl

/-- The line of a body. -/
lemma line_eq (hd : d.Storable) {i : Nat} (hi : i < d.bodies.size) :
    d.line i = .ok (some (lineMark ++ Text.natText i ++ "," ++ Json.text true d.document)) := by
  obtain ⟨hwritable, -⟩ := ofDatum?_document hd
  have hrange : (decide ((0 : Int) ≤ i) && decide ((i : Int) < d.bodies.size)) = true := by
    rw [Bool.and_eq_true, decide_eq_true_eq, decide_eq_true_eq]
    omega
  have hindex : Text.intText i = Text.natText i := by
    rw [Text.intText, if_neg (by omega), Int.natAbs_natCast]
  rw [line, if_pos hrange, document?, if_pos hwritable, hindex]
  rfl

/-- A line that is not quoted, or no longer, is cut where it was put together. -/
lemma parseLine_of_unquoted {s : String} {i : Nat} {payload : String} (hi : i < d'.bodies.size)
    (hsize : d'.bodies.size < 2 ^ 63)
    (hs : unquoted (Text.trim s) = .ok (lineMark ++ Text.natText i ++ "," ++ payload))
    (hpayload : parse decorators payload = .ok d') : parseLine decorators s = .ok (d', i) := by
  have hassoc : lineMark ++ Text.natText i ++ "," ++ payload = lineMark ++
      (Text.natText i ++ "," ++ payload) := by
    rw [String.append_assoc, String.append_assoc, String.append_assoc]
  obtain ⟨hstarts, hdrop⟩ := Text.dropFront_append lineMark (Text.natText i ++ "," ++ payload)
  have hcomma : ',' ∉ Nat.toDigits 10 i :=
    fun h => absurd (Json.digits_toDigits i ',' h) (by decide)
  have hcut : Text.cut? (Text.natText i ++ "," ++ payload) "," = some (Text.natText i,
      payload) := by
    have hchars : (Text.natText i ++ "," ++ payload).toList = Nat.toDigits 10 i ++ ',' ::
        payload.toList := by
      rw [String.toList_append, String.toList_append, Text.natText, String.toList_ofList,
        List.append_assoc]
      rfl
    rw [Text.cut?, hchars]
    change (Text.cutChars [','] _).map _ = _
    rw [Text.cutChars_separator hcomma, Option.map_some, Text.natText]
    simp only [String.ofList_toList]
  have hrange : (decide ((i : Int) < 0) || decide ((i : Int) ≥ d'.bodies.size)) = false := by
    rw [Bool.or_eq_false_iff, decide_eq_false_iff_not, decide_eq_false_iff_not]
    omega
  rw [parseLine, hs, hassoc]
  simp only [bind, Except.bind, hstarts, hdrop, hcut, Text.whole?_natText (Nat.lt_trans hi hsize),
    hpayload]
  rw [hrange]
  rfl

/-- **Lines.**  A line comes back as what it was made of, as it is and as a quoted text. -/
lemma parseLine_line {i : Nat} (hi : i < d'.bodies.size) (hsize : d'.bodies.size < 2 ^ 63)
    (hread : parse decorators (Json.text true d.document) = .ok d') {s : String}
    (hs : s = lineMark ++ Text.natText i ++ "," ++ Json.text true d.document) :
    parseLine decorators s = .ok (d', i) ∧
      ∀ guarded, parseLine decorators (Json.stringText guarded s) = .ok (d', i) := by
  have hdocument : ∃ cs, (Json.text true d.document).toList = cs ++ ['\x7d'] := by
    obtain ⟨fs, hfs⟩ : ∃ fs, d.document = .record fs := ⟨_, rfl⟩
    have hchars := Json.chars_record true fs
    rw [Json.chars, ← hfs] at hchars
    exact ⟨_ :: Json.fieldChars true fs, hchars⟩
  obtain ⟨cs, hcs⟩ := hdocument
  have hfront : ∃ back, s.toList = 'C' :: back := by
    rw [hs, String.toList_append, String.toList_append, String.toList_append]
    exact ⟨_, rfl⟩
  have hback : ∃ front, s.toList = front ++ ['\x7d'] := by
    rw [hs, String.toList_append, hcs, ← List.append_assoc]
    exact ⟨_, rfl⟩
  obtain ⟨back, hfront⟩ := hfront
  obtain ⟨front, hback⟩ := hback
  constructor
  · refine parseLine_of_unquoted hi hsize ?_ hread
    rw [Text.trim_eq_self hfront hback (by decide) (by decide), unquoted, Text.startsWith, hfront]
    exact congrArg Except.ok hs
  · intro guarded
    refine parseLine_of_unquoted hi hsize ?_ hread
    have hquoted := Json.toList_stringText guarded s
    have hend : (Json.stringText guarded s).toList = '"' :: s.toList.flatMap
      (Json.escapeChar guarded) ++ ['"'] := hquoted
    rw [Text.trim_eq_self hquoted hend (by decide) (by decide), unquoted, Text.startsWith, hquoted,
      Json.parse?_stringText]
    exact congrArg Except.ok hs

/-- A description that was built from parsed templates can be stored, and comes back from its draft.
-/
lemma revived_ofAnnotated {module : String} {ns : List Markup.Node}
    (ha : Annotated.ofNodes module ns = .ok an)
    (hns : Node.AllOf Program.IsRead ns) (hd : ofAnnotated o an = .ok d) (hsize : d.Bounded)
    (hplain : ∀ b ∈ d.bodies, ∀ i ∈ b.children, i.AllPlain)
    (hsigns : ∀ e ∈ d.expressions, e.program.signsApart = true) :
    d.Storable ∧ ∃ es, d.toDraft.toDescription o.decorators =
    .ok { d with expressions := es.toArray } ∧
      List.Forall₂ Expression.Revived d.expressions.toList es := by
  obtain ⟨hheld, hknows⟩ := Annotated.held_ofNodes ha
  obtain ⟨f, hrun, rfl, -, -⟩ := wellFormed_ofAnnotated ha hd
  obtain ⟨hf, hfilled, hfits⟩ := Build.run_bodies_sound hheld hknows hrun
  exact ⟨storable_finished hf hfilled hfits hsize hplain,
    toDescription_finished hf (Annotated.sound_ofNodes ha hns) hfilled hfits hsigns⟩

/-- **Written and read back.** A description that was built from parsed templates is restored from
its text, and from the line of any of its bodies, if JSON can be nested as deeply as its document
is.  Its constants have to be plain, and no sign may stand before the same sign. -/
theorem parse_ofAnnotated {module : String} {ns : List Markup.Node}
    (ha : Annotated.ofNodes module ns = .ok an)
    (hns : Node.AllOf Program.IsRead ns) (hd : ofAnnotated o an = .ok d) (hsize : d.Bounded)
    (hplain : ∀ b ∈ d.bodies, ∀ i ∈ b.children, i.AllPlain)
    (hsigns : ∀ e ∈ d.expressions, e.program.signsApart = true)
    (hnesting : d.document.nesting ≤ Json.maxNesting) :
    d.document? = some d.document ∧ ∃ d', parse o.decorators (Json.text true d.document) = .ok d' ∧
    d.Restored d' ∧
      ∀ i < d.bodies.size, ∃ s, d.line i = .ok (some s) ∧ parseLine o.decorators s = .ok (d', i) ∧
        ∀ guarded, parseLine o.decorators (Json.stringText guarded s) = .ok (d', i) := by
  obtain ⟨hstorable, es, hread, hes⟩ := revived_ofAnnotated ha hns hd hsize hplain hsigns
  rw [← parse_document hstorable hnesting true] at hread
  refine ⟨if_pos (ofDatum?_document hstorable).1, _, hread, restored_of_revived hes, fun i hi => ?_⟩
  have hi' : i < { d with expressions := es.toArray }.bodies.size := hi
  exact ⟨_, line_eq hstorable hi, parseLine_line hi' hsize.bodies hread rfl⟩

/-- The constant of a part is plain, if it is one. -/
def Part.isPlain : Part → Bool
  | .value v => v.isPlain
  | _ => true

/-- All constants in an instruction are plain, and it is at most `n` instructions deep. -/
def Instruction.isPlain : Nat → Instruction → Bool
  | 0, _ => false
  | n + 1, i => i.parts.all Part.isPlain && i.inner.all (isPlain n)

lemma Instruction.allPlain_of_isPlain {n : Nat} {i : Instruction} (h : i.isPlain n = true) :
    i.AllPlain := by
  induction n generalizing i with
  | zero => cases h
  | succ n ih =>
    rw [isPlain, Bool.and_eq_true, List.all_eq_true, List.all_eq_true] at h
    intro j hij p hp
    cases hij with
    | self =>
      rintro v rfl
      exact h.1 _ hp
    | inside hk hkj => exact ih (h.2 _ hk) j hkj p hp

/-- What has to be known of a description for its text to be read back, as it is computed. -/
def isRestorable (d : Description) : Bool :=
  decide (d.expressions.size < 2 ^ 63) && decide (d.watches.size < 2 ^ 63) &&
    decide (d.bodies.size < 2 ^ 63) &&
    (d.bodies.all fun b => b.children.all (Instruction.isPlain 8)) &&
      (d.expressions.all fun e => e.program.signsApart) &&
    decide (d.document.nesting ≤ Json.maxNesting)

lemma of_isRestorable (h : d.isRestorable = true) : d.Bounded ∧
    (∀ b ∈ d.bodies, ∀ i ∈ b.children, i.AllPlain) ∧
    (∀ e ∈ d.expressions, e.program.signsApart = true) ∧ d.document.nesting ≤ Json.maxNesting := by
  simp only [isRestorable, Bool.and_eq_true, decide_eq_true_eq, Array.all_eq_true',
    List.all_eq_true] at h
  obtain ⟨⟨⟨⟨⟨hexpressions, hwatches⟩, hbodies⟩, hplain⟩, hsigns⟩, hnesting⟩ := h
  exact ⟨⟨hexpressions, hwatches, hbodies⟩,
    fun b hb i hi => Instruction.allPlain_of_isPlain (hplain b hb i hi), hsigns, hnesting⟩

/-- A component that a name is bound to.  In it are an element that calls a function, and a constant
text. -/
def boundBox : String := "<A bind:v='n'><b on:x='f'>\x7b\x7b'k'\x7d\x7d</b></A>"

theorem parse_boundBox : ∃ (ns : List Markup.Node) (an : Annotated Unit) (d : Description),
    Markup.read {} boundBox = .ok ns ∧ Annotated.ofNodes "A" ns = .ok an ∧
    Node.AllOf Program.IsRead ns ∧
    ofAnnotated { module := "A" } an = .ok d ∧ d.Bounded ∧
    (∀ b ∈ d.bodies, ∀ i ∈ b.children, i.AllPlain) ∧
    (∀ e ∈ d.expressions, e.program.signsApart = true) ∧ d.document.nesting ≤ Json.maxNesting ∧
    d.document? = some d.document ∧ ∃ d', parse none (Json.text true d.document) = .ok d' ∧
      d.Restored d' ∧
      ∀ i < d.bodies.size, ∃ s, d.line i = .ok (some s) ∧ parseLine none s = .ok (d', i) ∧
        ∀ guarded, parseLine none (Json.stringText guarded s) = .ok (d', i) := by
  have hok : ((Markup.read {} boundBox >>= fun ns =>
    (Annotated.ofNodes "A" ns : Except Fault (Annotated Unit)) >>=
      ofAnnotated { module := "A" }).toOption.map isRestorable) = some true := by decide +kernel
  cases hrun : (Markup.read {} boundBox >>= fun ns =>
    (Annotated.ofNodes "A" ns : Except Fault (Annotated Unit)) >>=
      ofAnnotated { module := "A" }) with
  | error f =>
    rw [hrun] at hok
    cases hok
  | ok d =>
    rw [hrun] at hok
    obtain ⟨ns, hns, hbuild⟩ := bind_eq_ok.1 hrun
    obtain ⟨an, han, hd⟩ := bind_eq_ok.1 hbuild
    obtain ⟨hsize, hplain, hsigns, hnesting⟩ := of_isRestorable (Option.some.inj hok)
    have hread := Markup.allOf_read hns
    have hback := parse_ofAnnotated han hread hd hsize hplain hsigns hnesting
    exact ⟨ns, an, d, hns, han, hread, hd, hsize, hplain, hsigns, hnesting, hback⟩

end

/-! ### Towers -/

/-- Elements inside each other, as they are read from one line. -/
def tower (container : Option Nat) : Nat → String → Nat → List Markup.Node
  | 0, _, _ => []
  | n + 1, key, column =>
    [.element ⟨key ++ "0_", 1, column, false, container⟩ "p" []
      (tower container n (key ++ "0_") (column + 3)) false]

/-- The instructions of elements inside each other. -/
def towerOf : Nat → String → List Instruction
  | 0, _ => []
  | n + 1, key => [.element (key ++ "0_") "p" [] (towerOf n (key ++ "0_")) false]

lemma allOf_tower (P : Program → Prop) (container : Option Nat) (n : Nat) (key : String)
    (column : Nat) :
    Node.AllOf P (tower container n key column) := by
  induction n generalizing key column with
  | zero => trivial
  | succ n ih => exact ⟨⟨nofun, ih _ _⟩, trivial⟩

lemma nodes_tower (module : String) (id n : Nat) (key : String) (column : Nat) :
    (Annotated.Pass.nodes module id (tower none n key column) : Annotated.Pass α _) =
      pure (tower (some id) n key column) := by
  induction n generalizing key column with
  | zero => rfl
  | succ n ih =>
    rw [tower, Annotated.Pass.nodes, Annotated.Pass.node, ih, Annotated.Pass.nodes]
    rfl

lemma build_tower (o : Options) (container : Option Nat) (n : Nat) (key : String) (column : Nat) :
    Build.nodes o (tower container n key column) = pure (towerOf n key) := by
  induction n generalizing key column with
  | zero => rfl
  | succ n ih =>
    rw [tower, Build.nodes, Build.node, ih, Build.nodes]
    rfl

/-- What stands in a field is nested less deeply than the record. -/
lemma nesting_lt_record (name : String) {v : Datum} {fs : List (String × Datum)}
    (h : (name, v) ∈ fs) :
    v.nesting < (Datum.record fs).nesting := by
  rw [Datum.nesting, Nat.lt_succ_iff]
  induction fs with
  | nil => cases h
  | cons field fs ih =>
    rw [Datum.nestingFields]
    rcases List.mem_cons.1 h with rfl | h
    · exact Nat.le_max_left _ _
    · exact Nat.le_trans (ih h) (Nat.le_max_right _ _)

/-- A field with a list in it adds to what stands in the list. -/
lemma nesting_listField (name : String) {ds : List Datum} {fs : List (String × Datum)}
    (h : ∀ f ∈ Document.listField name ds, f ∈ fs) :
    Datum.nestingList ds + (if ds = [] then 0 else 1) < (Datum.record fs).nesting := by
  split
  · next hds =>
    rw [hds]
    exact Nat.succ_pos _
  · next hds =>
    have hlist : (Datum.list ds).nesting = Datum.nestingList ds + 1 := by rw [Datum.nesting]
    rw [← hlist]
    refine nesting_lt_record name (h (name, .list ds) ?_)
    rw [Document.listField, List.isEmpty_eq_false_iff.2 hds]
    exact List.mem_singleton_self _

/-- Every element adds a list and a record. -/
lemma nesting_towerOf (n : Nat) (key : String) :
    2 * n ≤ Datum.nestingList (Document.instructions (towerOf n key)) + 1 := by
  induction n generalizing key with
  | zero => exact Nat.zero_le _
  | succ n ih =>
    have hbelow := ih (key ++ "0_")
    rw [towerOf, Document.instructions, Datum.nestingList, Document.instruction]
    generalize hds : Document.instructions (towerOf n (key ++ "0_")) = ds at hbelow ⊢
    have hfield : Datum.nestingList ds + (if ds = [] then 0 else 1) <
        (Datum.record (Document.head "element" (key ++ "0_") "p" ++ Document.listField "attrs"
          ([].map Document.attr) ++
          Document.listField "children" ds ++ Document.flagField "void" false ++
          [("internal", Document.int (-1))])).nesting :=
      nesting_listField "children" fun f hf => by simp only [List.mem_append, hf, true_or, or_true]
    have hempty : ds = [] → n = 0 := by
      rintro rfl
      cases n with
      | zero => rfl
      | succ n => exact absurd hds (List.cons_ne_nil _ _)
    split at hfield
    · next hnil =>
      have hzero := hempty hnil
      omega
    · omega

/-- The construction that building a tower ends with. -/
def towerEnd (n : Nat) : Construction where
  arena := ({} : Annotated Unit).arena
  bodies := #[{ kind := .root, children := towerOf n "" }]
  watchers := [(0, none)]

lemma ofNodes_tower (n : Nat) :
    (Annotated.ofNodes "Tower" (tower none n "" 1) : Except Fault (Annotated Unit)) =
    .ok { nodes := Annotated.Pass.markRoots (tower (some 0) n "" 1) } := by
  rw [Annotated.ofNodes, Annotated.Pass.template, nodes_tower]
  rfl

lemma markRoots_tower (o : Options) (n : Nat) (key : String) (column : Nat) :
    Build.nodes o (Annotated.Pass.markRoots (tower (some 0) n key column)) =
    pure (towerOf n key) := by
  cases n with
  | zero => rfl
  | succ n =>
    rw [tower, Annotated.Pass.markRoots, Annotated.Pass.markRoot, Build.nodes, Build.node,
      build_tower]
    rfl

/-- The description of a tower. -/
def towerDescription (n : Nat) : Description :=
  finished { module := "Tower" } ({} : Annotated Unit) (towerEnd n)

lemma ofAnnotated_tower (n : Nat) : ofAnnotated { module := "Tower" }
    ({ nodes := Annotated.Pass.markRoots (tower (some 0) n "" 1) } : Annotated Unit) =
        .ok (towerDescription n) := by
  have hrun : (Build.bodies { module := "Tower" }
    (Annotated.Pass.markRoots (tower (some 0) n "" 1))).run
      { arena := ({} : Annotated Unit).arena } = .ok ((), towerEnd n) := by
    rw [Build.bodies, markRoots_tower]
    with_unfolding_all rfl
  rw [ofAnnotated_eq, hrun]
  rfl

/-- A tower has one body. -/
lemma bodies_tower (n : Nat) : ∃ b : Body, (towerDescription n).bodies = #[b] ∧
    b.children = towerOf n "" := by
  let root : Body := { kind := .root, children := towerOf n "" }
  refine ⟨{ root with source := root.text }, ?_, rfl⟩
  rw [towerDescription, finished, towerEnd, Array.map_singleton]

/-- No constant stands in a tower. -/
lemma allPlain_towerOf (n : Nat) (key : String) : ∀ i ∈ towerOf n key, i.AllPlain := by
  induction n generalizing key with
  | zero => exact fun i hi => absurd hi List.not_mem_nil
  | succ n ih =>
    intro i hi j hij p hp
    obtain rfl := List.mem_singleton.1 hi
    cases hij with
    | self => exact absurd hp List.not_mem_nil
    | inside h hk => exact ih _ _ h _ hk p hp

lemma bounded_tower (n : Nat) : (towerDescription n).Bounded := by
  obtain ⟨b, hbodies, -⟩ := bodies_tower n
  refine ⟨(by decide : 0 < 2 ^ 63), (by decide : 0 < 2 ^ 63), ?_⟩
  rw [hbodies]
  exact (by decide : 1 < 2 ^ 63)

lemma allPlain_tower (n : Nat) : ∀ b ∈ (towerDescription n).bodies, ∀ i ∈ b.children,
    i.AllPlain := by
  obtain ⟨b, hbodies, hchildren⟩ := bodies_tower n
  intro b' hb'
  rw [hbodies] at hb'
  obtain rfl : b' = b := List.mem_singleton.1 (Array.mem_def.1 hb')
  rw [hchildren]
  exact allPlain_towerOf n ""

/-- The document of a tower is nested twice as deeply as the tower. -/
lemma nesting_tower (n : Nat) : 2 * n < (towerDescription n).document.nesting := by
  have hbelow := nesting_towerOf n ""
  generalize hds : Document.instructions (towerOf n "") = ds at hbelow
  have hchildren : Datum.nestingList ds ≤ (Document.listOrNull ds).nesting := by
    cases ds with
    | nil => exact Nat.zero_le _
    | cons d ds =>
      change _ ≤ (Datum.list (d :: ds)).nesting
      rw [Datum.nesting]
      exact Nat.le_succ _
  obtain ⟨b, hbodies, hb⟩ := bodies_tower n
  have hbody : (Document.listOrNull ds).nesting < (Document.body b).nesting := by
    refine nesting_lt_record "children" ?_
    rw [hb, hds]
    simp only [List.mem_append, List.mem_cons, true_or, or_true]
  have hlist : (Datum.list [Document.body b]).nesting = (Document.body b).nesting + 1 := by
    rw [Datum.nesting, Datum.nestingList, Datum.nestingList, Nat.max_zero]
  have hdocument : (Datum.list [Document.body b]).nesting <
      (towerDescription n).document.nesting := by
    refine nesting_lt_record "bodies" ?_
    rw [hbodies]
    simp only [List.mem_append, List.mem_cons, List.map_cons, List.map_nil, true_or, or_true]
  omega

/-- A tower is built and written, but it is not read back when it is higher than JSON can be nested.
-/
theorem parse_tower_fails : ∃ (an : Annotated Unit) (d : Description),
    Annotated.ofNodes "Tower" (tower none 5000 "" 1) = .ok an ∧
    Node.AllOf Program.IsRead (tower none 5000 "" 1) ∧ ofAnnotated { module := "Tower" } an =
    .ok d ∧ d.Bounded ∧
    (∀ b ∈ d.bodies, ∀ i ∈ b.children, i.AllPlain) ∧
      (∀ e ∈ d.expressions, e.program.signsApart = true) ∧
    d.document? = some d.document ∧ ∃ f, parse none (Json.text true d.document) = .error f := by
  have han := ofNodes_tower 5000
  have hd := ofAnnotated_tower 5000
  have hread := allOf_tower Program.IsRead none 5000 "" 1
  have hbounded := bounded_tower 5000
  have hplain := allPlain_tower 5000
  have hsigns : ∀ e ∈ (towerDescription 5000).expressions, e.program.signsApart = true :=
      fun e he =>
    absurd he (Array.not_mem_empty e)
  obtain ⟨hheld, hknows⟩ := Annotated.held_ofNodes han
  obtain ⟨f, hrun, hfinished, -, -⟩ := wellFormed_ofAnnotated han hd
  obtain ⟨hf, hfilled, hfits⟩ := Build.run_bodies_sound hheld hknows hrun
  have hwritable : Json.isWritable (towerDescription 5000).document = true := by
    rw [hfinished] at hbounded hplain ⊢
    exact (ofDatum?_document (storable_finished hf hfilled hfits hbounded hplain)).1
  have hdeep := nesting_tower 5000
  have hparse : Json.parse? (Json.text true (towerDescription 5000).document) = none := by
    rw [Json.parse?_text true hwritable, if_neg]
    exact Nat.not_le_of_lt hdeep
  refine ⟨_, _, han, hread, hd, hbounded, hplain, hsigns, if_pos hwritable, ?_⟩
  rw [parse, Draft.read, hparse]
  exact ⟨_, rfl⟩

end Description

/-! ### Constants that are computed -/

namespace Datum

/-- Whether a document is null, a truth value, a number or a text. -/
def isConstant : Datum → Bool
  | .null | .bool _ | .number _ | .text _ => true
  | _ => false

/-- Whether a document is an infinite number, or a number that is none. -/
def isBoundless : Datum → Bool
  | .number x => x.isNaN || x.isInf
  | _ => false

variable {d : Datum}

lemma isPlain_of_isConstant (h : d.isConstant = true) : d.isPlain = !d.isBoundless := by
  cases d with
  | number x => rw [isPlain, isBoundless, Bool.not_or]
  | _ => first | rfl | cases h

lemma isWritable_of_isConstant (h : d.isConstant = true) : Json.isWritable d = !d.isBoundless := by
  cases d with
  | number x => rw [Json.isWritable, isBoundless, Bool.not_or]
  | _ => first | rfl | cases h

end Datum

namespace Description

/-- The part of a text that is read from JSON. -/
def Part.parse? (s : String) : Option Part := do
  let d ← Json.parse? s
  let p ← Draft.part {} d
  return p.toPart

variable {d : Datum}

lemma isWritable_part_value (d : Datum) : Json.isWritable (Document.part (.value d)) =
    Json.isWritable d := by
  change (true && (Json.isWritable d && true)) = _
  rw [Bool.true_and, Bool.and_true]

/-- A part with a plain constant is read as it was written. -/
lemma Part.parse?_text (guarded : Bool) (h : d.isPlain = true) :
    parse? (Json.text guarded (Document.part (.value d))) = some (.value d) := by
  let T : Tables := ⟨fun _ => False, fun _ => False, fun _ => False, fun _ => False, fun _ => False⟩
  have hT : T.Small := ⟨fun _ h => h.elim, fun _ h => h.elim, fun _ h => h.elim⟩
  have hplain : (Part.value d).Plain := by
    rintro _ ⟨⟩
    exact h
  obtain ⟨hwritable, hread⟩ := part_toDraft hT (p := .value d) trivial hplain
  have hnesting : (Document.part (.value d)).nesting ≤ Json.maxNesting := by
    have hflat : d.nesting = 0 := by cases d <;> first | rfl | cases h
    simp only [Document.part, Datum.nesting, Datum.nestingFields, hflat]
    decide
  rw [parse?, Json.parse?_text guarded hwritable, if_pos hnesting]
  simp only [Option.bind_eq_bind, Option.bind_some, hread]
  exact congrArg some (toPart_toDraft (T := T) trivial)

namespace Build

variable {o : Options} {field : String} {p : Program} {b b' : Construction}

/-- What a program is folded to is null, a text, a number or a truth value. -/
lemma isConstant_of_folded? (h : folded? p = some d) : d.isConstant = true := by
  rw [folded?] at h
  split at h
  next v _ _ =>
    cases v <;> cases h <;> rfl
  next => cases h

/-- A part that is a constant is what its expression is folded to. -/
lemma folded?_of_exprPart (h : (exprPart o field p).run b = .ok (.value d, b')) :
    folded? p = some d := by
  rw [exprPart, run_bind] at h
  cases hrun : (compiled o (Code.value · field false p)).run b with
  | error f =>
    rw [hrun] at h
    cases h
  | ok r =>
    obtain ⟨f, c⟩ := r
    rw [hrun] at h
    dsimp only at h
    split at h
    next v hv =>
      cases h
      split at hv
      · exact hv
      · cases hv
    next =>
      rw [run_bind] at h
      cases hslot : (slot o (.value field false) p).run c with
      | error g =>
        rw [hslot] at h
        cases h
      | ok r =>
        rw [hslot] at h
        cases h

/-- **Constants that are computed are read back.** Where an expression was folded, the constant that
stands in its place can be written as JSON exactly if it is not an infinite number and not a number
that is none.  Then its text is read back as the same part, whether it was guarded or not. -/
theorem exprPart_reread (h : (exprPart o field p).run b = .ok (.value d, b')) :
    (Json.isWritable (Document.part (.value d)) = true ↔ d.isBoundless = false) ∧
      (d.isBoundless = false → ∀ guarded,
        Part.parse? (Json.text guarded (Document.part (.value d))) = some (.value d)) := by
  have hconstant := isConstant_of_folded? (folded?_of_exprPart h)
  have hplain := Datum.isPlain_of_isConstant hconstant
  refine ⟨?_, fun hbounded guarded => Part.parse?_text guarded (by rw [hplain, hbounded]; rfl)⟩
  rw [isWritable_part_value, Datum.isWritable_of_isConstant hconstant, Bool.not_eq_true']

/-- Whether a text is read as an expression that is folded to a constant with a property. -/
def foldsTo (check : Datum → Bool) (source : String) : Bool :=
  match Program.parse source with
  | .error _ => false
  | .ok p =>
    match (exprPart { module := "" } "" p).run { arena := Arena.start } with
    | .ok (.value d, _) => check d
    | _ => false

lemma exists_of_foldsTo {check : Datum → Bool} {source : String} (h : foldsTo check source = true) :
    ∃ p d b, Program.parse source = .ok p ∧
      (exprPart { module := "" } "" p).run { arena := Arena.start } = .ok (.value d, b) ∧
      check d = true := by
  rw [foldsTo] at h
  split at h
  next => cases h
  next p hp =>
    split at h
    next d b hrun => exact ⟨p, d, b, hp, hrun, h⟩
    next => cases h

theorem exprPart_reread_half : ∃ p d b, Program.parse "1 / 2" = .ok p ∧
    (exprPart { module := "" } "" p).run { arena := Arena.start } = .ok (.value d, b) ∧
      Json.isWritable (Document.part (.value d)) = true ∧
        Part.parse? (Json.text true (Document.part (.value d))) = some (.value d) := by
  have hfolds : foldsTo (fun d => !d.isBoundless) "1 / 2" = true := by decide +kernel
  obtain ⟨p, d, b, hp, hrun, hbounded⟩ := exists_of_foldsTo hfolds
  rw [Bool.not_eq_true'] at hbounded
  obtain ⟨hwritable, hread⟩ := exprPart_reread hrun
  exact ⟨p, d, b, hp, hrun, hwritable.2 hbounded, hread hbounded true⟩

/-- One divided by zero is computed, too, and cannot be written. -/
theorem exprPart_unwritable : ∃ p d b, Program.parse "1 / 0" = .ok p ∧
    (exprPart { module := "" } "" p).run { arena := Arena.start } = .ok (.value d, b) ∧
      Json.isWritable (Document.part (.value d)) = false := by
  have hfolds : foldsTo Datum.isBoundless "1 / 0" = true := by decide +kernel
  obtain ⟨p, d, b, hp, hrun, hboundless⟩ := exists_of_foldsTo hfolds
  have hconstant := isConstant_of_folded? (folded?_of_exprPart hrun)
  refine ⟨p, d, b, hp, hrun, ?_⟩
  rw [isWritable_part_value, Datum.isWritable_of_isConstant hconstant, hboundless]
  rfl

end Build

end Description

end Trellis
