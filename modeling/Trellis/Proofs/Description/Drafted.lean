/-
Descriptions as drafts.

`toDraft` writes a description down with all fields that a draft has: what an instruction does not
use is empty, and what is left out is `-1`.  One lemma for each construct says what checking its
draft comes to, and one that reading the draft gives the construct back.
-/
import Trellis.Proofs.Description.Checked

namespace Trellis.Description

open Document

/-! ### Writing down -/

/-- A part as it is written down. -/
def Part.toDraft : Part → Draft.Part
  | .text s => { kind := "text", text := s }
  | .value d => { kind := "value", value := d }
  | .expr slot trusted => { kind := "expr", expr := slot, trusted }
  | .translation s context => { kind := "rk", text := s, context }
  | .other kind => { kind }

/-- An attribute as it is written down. -/
def Attr.toDraft : Attr → Draft.Attr
  | ⟨name, .markup ps⟩ => { name, kind := "attr", parts := ps.map Part.toDraft }
  | ⟨name, .option ps⟩ => { name, kind := "option", parts := ps.map Part.toDraft }
  | ⟨name, .bind slot binding⟩ => { name, kind := "bind", expr := slot, binding }
  | ⟨name, .event slot⟩ => { name, kind := "event", expr := slot }
  | ⟨name, .other kind ps⟩ => { name, kind, parts := ps.map Part.toDraft }

mutual
/-- A typed option with a name as it is written down. -/
def OptionValue.toDraft (name : String) : OptionValue → Draft.OptionSpec
  | .scalar type ps => .mk name type (ps.map Part.toDraft) [] []
  | .array items => .mk name "Array" [] (optionsToDraft items) []
  | .object properties => .mk name "Object" [] [] (optionsToDraft properties)

/-- Typed options as they are written down. -/
def optionsToDraft : List OptionSpec → List Draft.OptionSpec
  | [] => []
  | .mk name v :: os => v.toDraft name :: optionsToDraft os
end

/-- Passed content as it is written down. -/
def ContentRef.toDraft (ref : ContentRef) : Draft.ContentRef where
  name := ref.name
  body := ref.body

/-- The fields of a call. -/
def Call.toDraft (op key name mode : String) (target : Int) (c : Call) : Draft.Head where
  op := op
  key := key
  name := name
  mode := mode
  target := target
  attrs := c.attrs.map Attr.toDraft
  options := optionsToDraft c.options
  contents := c.contents.map ContentRef.toDraft
  watch := slotNumber c.watch

mutual
/-- An instruction as it is written down. -/
def Instruction.toDraft : Instruction → Draft.Instruction
  | .text key ps => .mk { op := "text", key, parts := ps.map Part.toDraft, watch := -1 } [] []
  | .element key name as children void =>
    .mk { op := "element", key, name, attrs := as.map Attr.toDraft, void, watch := -1 }
      (instructionsToDraft children) []
  | .component key name c => .mk (c.toDraft "component" key name "" 0) [] []
  | .partialCall key t c =>
    .mk (c.toDraft "partial" key (target t).1 (target t).2.1 (target t).2.2) [] []
  | .branches key as => .mk { op := "if", key, watch := -1 } [] (armsToDraft as)
  | .loop key names init test update children watch =>
    .mk { op := "for", key, names, init := slotNumber init, test := slotNumber test
          update := slotNumber update, watch := slotNumber watch } (instructionsToDraft children) []
  | .each key collection index iterator children watch =>
    .mk { op := "foreach", key, collection, index, iterator, watch := slotNumber watch }
      (instructionsToDraft children) []
  | .unknown op => .mk { op, watch := -1 } [] []

/-- Instructions as they are written down. -/
def instructionsToDraft : List Instruction → List Draft.Instruction
  | [] => []
  | i :: is => i.toDraft :: instructionsToDraft is

/-- The arms of a condition as they are written down. -/
def armsToDraft : List Arm → List Draft.Arm
  | [] => []
  | .mk test children watch :: as =>
    .mk (slotNumber test) (instructionsToDraft children) (slotNumber watch) :: armsToDraft as
end

/-- A body as it is written down. -/
def Body.toDraft (b : Body) : Draft.Body where
  kind := b.kind.name
  name := b.name
  source := b.source
  children := instructionsToDraft b.children
  watch := slotNumber b.watch

end Description

/-- An entry of the table as it is written down. -/
def Expression.toDraft (e : Expression) : Description.Draft.Expression where
  source := e.source
  body := e.body
  flags := e.flags.code
  bind := e.bind
  event := e.event

namespace Description

open Document

/-- A description as it is written down. -/
def toDraft (d : Description) : Draft where
  version := version
  module := d.module
  dependencies := d.dependencies
  bodies := d.bodies.toList.map fun b => some b.toDraft
  reactive := d.reactive
  expressions := d.expressions.toList.map fun e => some e.toDraft
  watches := d.watches.toList
  childNames := d.childNames
  translations := d.translations
  symbols := d.symbols

/-! ### What refers to existing entries -/

/-- What the tables of a description have: slots, entries that are bound or called, watched runs,
and bodies of content. -/
structure Tables where
  slot : Nat → Prop
  bound : Nat → Prop
  called : Nat → Prop
  watch : Nat → Prop
  content : Nat → Prop

section

variable (T : Tables)

/-- A part of a known kind. -/
def Part.Within : Part → Prop
  | .expr slot _ => T.slot slot
  | .other _ => False
  | _ => True

/-- Attributes of known kinds, with entries for what they do. -/
def AttrValue.Within : AttrValue → Prop
  | .markup ps | .option ps => ∀ p ∈ ps, p.Within T
  | .bind slot _ => T.slot slot ∧ T.bound slot
  | .event slot => T.slot slot ∧ T.called slot
  | .other _ _ => False

mutual
/-- A typed option of known types. -/
def OptionValue.Within : OptionValue → Prop
  | .scalar type ps => type ≠ "Array" ∧ type ≠ "Object" ∧ ∀ p ∈ ps, p.Within T
  | .array items => OptionsWithin items
  | .object properties => OptionsWithin properties

def OptionsWithin : List OptionSpec → Prop
  | [] => True
  | .mk _ v :: os => v.Within ∧ OptionsWithin os
end

/-- A call that passes what there is. -/
structure Call.Within (c : Call) : Prop where
  attr : ∀ a ∈ c.attrs, a.value.Within T
  options : OptionsWithin T c.options
  content : ∀ ref ∈ c.contents, T.content ref.body
  watch : ∀ w ∈ c.watch, T.watch w

/-- A target that is evaluated has a slot. -/
def Target.Within : Target → Prop
  | .dynamic slot _ => ∃ n : Nat, slot = n ∧ T.slot n
  | _ => True

/-- What an instruction itself refers to is there. -/
def Instruction.Within : Instruction → Prop
  | .text _ ps => ∀ p ∈ ps, p.Within T
  | .element _ _ as _ _ => ∀ a ∈ as, a.value.Within T
  | .component _ _ c => c.Within T
  | .partialCall _ t c => t.Within T ∧ c.Within T
  | .branches _ as => ∀ test children watch, Arm.mk test children watch ∈ as →
      (∀ n ∈ test, T.slot n) ∧ ∀ w ∈ watch, T.watch w
  | .loop _ _ init test update _ watch =>
    ((∀ n ∈ init, T.slot n) ∧ (∀ n ∈ test, T.slot n) ∧ ∀ n ∈ update, T.slot n) ∧
      ∀ w ∈ watch, T.watch w
  | .each _ collection _ _ _ watch => T.slot collection ∧ ∀ w ∈ watch, T.watch w
  | .unknown _ => False

/-- What an instruction and all below it refer to is there. -/
def Instruction.AllWithin (i : Instruction) : Prop := ∀ j, i.Holds j → j.Within T

end

/-- All of an instruction is there if it is there itself and all directly below it is. -/
lemma Instruction.allWithin_iff {T : Tables} {i : Instruction} :
    i.AllWithin T ↔ i.Within T ∧ ∀ j ∈ i.inner, j.AllWithin T := by
  refine ⟨fun h => ⟨h i (.self i), fun j hj k hjk => h k (.inside hj hjk)⟩,
    fun ⟨hself, hinner⟩ j hij => ?_⟩
  cases hij with
  | self => exact hself
  | inside hk hkj => exact hinner _ hk j hkj

lemma Instruction.AllWithin.inner {T : Tables} {i : Instruction} (h : i.AllWithin T) :
    ∀ j ∈ i.inner, j.AllWithin T :=
  (allWithin_iff.1 h).2

/-- A draft has what the tables have. -/
structure Tables.In (T : Tables) (d : Draft) : Prop where
  slot : ∀ n, T.slot n → n < d.expressions.length
  watch : ∀ n, T.watch n → n < d.watches.length
  content : ∀ n, T.content n → ∃ b, d.bodies[n]? = some (some b) ∧ b.kind = "CONTENT"

variable {T : Tables} {d : Draft}

/-! ### Checking what was written down -/

section

variable (hT : T.In d)

include hT

lemma checkSlot_natCast {n : Nat} (h : T.slot n) : d.checkSlot n = .ok () := by
  have hlt := hT.slot n h
  exact Draft.checkSlot_iff.2 (by omega)

lemma checkSlot?_slotNumber {clause : Option Nat} (h : ∀ n ∈ clause, T.slot n) :
    d.checkSlot? (slotNumber clause) = .ok () := by
  cases clause with
  | none => rfl
  | some n =>
    have hne : ((n : Int) == -1) = false := by rw [beq_eq_false_iff_ne]; omega
    rw [slotNumber, Draft.checkSlot?, hne]
    exact checkSlot_natCast hT (h n rfl)

lemma checkWatch_slotNumber {watch : Option Nat} (h : ∀ w ∈ watch, T.watch w) :
    d.checkWatch (slotNumber watch) = .ok () := by
  have hrange : -1 ≤ slotNumber watch ∧ slotNumber watch < d.watches.length := by
    cases watch with
    | none => rw [slotNumber]; omega
    | some w =>
      have hlt := hT.watch w (h w rfl)
      rw [slotNumber]
      omega
  rw [Draft.checkWatch, if_pos (by simpa using hrange)]

lemma checkWatch_none : d.checkWatch (-1) = .ok () :=
  checkWatch_slotNumber hT fun _ hw => (Option.not_mem_none _ hw).elim

lemma checkParts_toDraft {ps : List Part} (h : ∀ p ∈ ps, p.Within T) :
    d.checkParts (ps.map Part.toDraft) = .ok () := by
  rw [Draft.checkParts, forM_eq_ok]
  intro q hq
  obtain ⟨p, hp, rfl⟩ := List.mem_map.1 hq
  cases p with
  | expr slot trusted => exact checkSlot_natCast hT (h _ hp)
  | other kind => exact (h _ hp).elim
  | _ => rfl

lemma checkAttr_toDraft {a : Attr} (h : a.value.Within T) : d.checkAttr a.toDraft = .ok () := by
  rcases a with ⟨name, v⟩
  cases v with
  | markup ps => exact checkParts_toDraft hT h
  | option ps => exact checkParts_toDraft hT h
  | bind slot binding => exact checkSlot_natCast hT h.1
  | event slot => exact checkSlot_natCast hT h.1
  | other kind ps => exact h.elim

lemma checkContent_toDraft {ref : ContentRef} (h : T.content ref.body) :
    d.checkContent ref.toDraft = .ok () := by
  obtain ⟨b, hb, hkind⟩ := hT.content _ h
  exact Draft.checkContent_iff.2 ⟨Int.natCast_nonneg _, b, hb, hkind⟩

end

mutual
lemma checkOption_toDraft (hT : T.In d) (name : String) : ∀ {v : OptionValue}, v.Within T →
    d.checkOption (v.toDraft name) = .ok ()
  | .scalar type ps, h => by
    rw [OptionValue.toDraft, Draft.checkOption, checkParts_toDraft hT h.2.2]
    rfl
  | .array items, h => by
    rw [OptionValue.toDraft, Draft.checkOption, checkOptions_toDraft hT h]
    rfl
  | .object properties, h => by
    rw [OptionValue.toDraft, Draft.checkOption, checkOptions_toDraft hT h]
    rfl

lemma checkOptions_toDraft (hT : T.In d) : ∀ {os : List OptionSpec}, OptionsWithin T os →
    d.checkOptions (optionsToDraft os) = .ok ()
  | [], _ => rfl
  | .mk name v :: os, h => by
    rw [optionsToDraft, Draft.checkOptions, checkOption_toDraft hT name h.1,
      checkOptions_toDraft hT h.2]
    rfl
end

/-- The head of a call passes, if what is special about its kind does. -/
lemma passes_call (hT : T.In d) {c : Call} (h : c.Within T) {op key name mode : String}
    {target : Int} (hop : d.checkOp (c.toDraft op key name mode target) [] = .ok ()) :
    d.Passes (c.toDraft op key name mode target) [] [] where
  watch := checkWatch_slotNumber hT h.watch
  parts := rfl
  attr a ha := by
    obtain ⟨b, hb, rfl⟩ := List.mem_map.1 ha
    exact checkAttr_toDraft hT (h.attr b hb)
  options := checkOptions_toDraft hT h.options
  content ref href := by
    obtain ⟨c', hc', rfl⟩ := List.mem_map.1 href
    exact checkContent_toDraft hT (h.content c' hc')
  op := hop
  child _ hi := absurd hi List.not_mem_nil

mutual
/-- What refers to existing entries passes as it is written down. -/
theorem checkInstruction_toDraft (hT : T.In d) : ∀ {i : Instruction}, i.AllWithin T →
    d.checkInstruction i.toDraft = .ok ()
  | .text key ps, h => by
    have hparts := checkParts_toDraft hT (h _ (.self _))
    rw [Instruction.toDraft, Draft.checkInstruction_iff]
    exact ⟨checkWatch_none hT, hparts, nofun, rfl, nofun, rfl, nofun⟩
  | .element key name as children void, h => by
    rw [Instruction.toDraft, Draft.checkInstruction_iff]
    refine ⟨checkWatch_none hT, rfl, fun a ha => ?_, rfl, nofun, rfl, ?_⟩
    · obtain ⟨a, ha', rfl⟩ := List.mem_map.1 ha
      exact checkAttr_toDraft hT (h _ (.self _) a ha')
    · exact Draft.checkInstructions_iff.1 (checkInstructions_toDraft hT h.inner)
  | .component key name c, h => by
    rw [Instruction.toDraft, Draft.checkInstruction_iff]
    exact passes_call hT (h _ (.self _)) rfl
  | .partialCall key t c, h => by
    obtain ⟨htarget, hcall⟩ := h _ (.self _)
    rw [Instruction.toDraft, Draft.checkInstruction_iff]
    refine passes_call hT hcall ?_
    cases t with
    | inline name => rfl
    | «static» name => rfl
    | dynamic slot name =>
      obtain ⟨n, rfl, hn⟩ := htarget
      exact checkSlot_natCast hT hn
  | .branches key as, h => by
    rw [Instruction.toDraft, Draft.checkInstruction_iff]
    exact ⟨checkWatch_none hT, rfl, nofun, rfl, nofun, checkArms_toDraft hT (h _ (.self _)) h.inner,
      nofun⟩
  | .loop key names init test update children watch, h => by
    obtain ⟨⟨hinit, htest, hupdate⟩, hwatch⟩ := h _ (.self _)
    rw [Instruction.toDraft, Draft.checkInstruction_iff]
    refine ⟨checkWatch_slotNumber hT hwatch, rfl, nofun, rfl, nofun, ?_, ?_⟩
    · refine forM_eq_ok.2 fun n hn => ?_
      simp only [List.mem_cons, List.not_mem_nil, or_false] at hn
      obtain rfl | rfl | rfl := hn
      · exact checkSlot?_slotNumber hT hinit
      · exact checkSlot?_slotNumber hT htest
      · exact checkSlot?_slotNumber hT hupdate
    · exact Draft.checkInstructions_iff.1 (checkInstructions_toDraft hT h.inner)
  | .each key collection index iterator children watch, h => by
    obtain ⟨hcollection, hwatch⟩ := h _ (.self _)
    rw [Instruction.toDraft, Draft.checkInstruction_iff]
    refine ⟨checkWatch_slotNumber hT hwatch, rfl, nofun, rfl, nofun,
      checkSlot_natCast hT hcollection, ?_⟩
    exact Draft.checkInstructions_iff.1 (checkInstructions_toDraft hT h.inner)
  | .unknown op, h => (h _ (.self _)).elim

theorem checkInstructions_toDraft (hT : T.In d) : ∀ {is : List Instruction},
    (∀ i ∈ is, i.AllWithin T) →
    d.checkInstructions (instructionsToDraft is) = .ok ()
  | [], _ => rfl
  | i :: is, h => by
    rw [instructionsToDraft, Draft.checkInstructions, checkInstruction_toDraft hT
      (h i List.mem_cons_self),
      checkInstructions_toDraft hT fun i hi => h i (List.mem_cons_of_mem _ hi)]
    rfl

theorem checkArms_toDraft (hT : T.In d) : ∀ {as : List Arm},
    (∀ test children watch, Arm.mk test children watch ∈ as →
      (∀ n ∈ test, T.slot n) ∧ ∀ w ∈ watch, T.watch w) →
    (∀ i ∈ as.flatMap Arm.children, i.AllWithin T) → d.checkArms (armsToDraft as) = .ok ()
  | [], _, _ => rfl
  | .mk test children watch :: as, harms, h => by
    obtain ⟨htest, hwatch⟩ := harms _ _ _ List.mem_cons_self
    have hchildren : ∀ i ∈ children, i.AllWithin T := fun i hi => h i (List.mem_append_left _ hi)
    rw [armsToDraft, Draft.checkArms, checkSlot?_slotNumber hT htest,
      checkWatch_slotNumber hT hwatch,
      checkInstructions_toDraft hT hchildren,
      checkArms_toDraft hT (fun test children watch ha =>
        harms test children watch (List.mem_cons_of_mem _ ha))
        fun i hi => h i (List.mem_append_right _ hi)]
    rfl
end

/-! ### Reading what was written down -/

lemma slot?_slotNumber (clause : Option Nat) : Draft.slot? (slotNumber clause) = clause := by
  cases clause with
  | none => rfl
  | some n =>
    have hnot : ¬(n : Int) < 0 := by omega
    rw [slotNumber, Draft.slot?, if_neg hnot, Int.toNat_natCast]

lemma toPart_toDraft {p : Part} (h : p.Within T) : p.toDraft.toPart = p := by
  cases p with
  | other kind => exact h.elim
  | _ => rfl

lemma map_toPart {ps : List Part} (h : ∀ p ∈ ps, p.Within T) :
    (ps.map Part.toDraft).map Draft.Part.toPart = ps := by
  rw [List.map_map]
  exact (List.map_congr_left fun p hp => toPart_toDraft (h p hp)).trans (List.map_id ps)

lemma toAttr_toDraft {a : Attr} (h : a.value.Within T) : a.toDraft.toAttr = a := by
  rcases a with ⟨name, v⟩
  cases v with
  | markup ps => exact congrArg (Attr.mk name <| .markup ·) (map_toPart h)
  | option ps => exact congrArg (Attr.mk name <| .option ·) (map_toPart h)
  | other kind ps => exact h.elim
  | _ => rfl

lemma map_toAttr {as : List Attr} (h : ∀ a ∈ as, a.value.Within T) :
    (as.map Attr.toDraft).map Draft.Attr.toAttr = as := by
  rw [List.map_map]
  exact (List.map_congr_left fun a ha => toAttr_toDraft (h a ha)).trans (List.map_id as)

mutual
lemma toOption_toDraft (name : String) : ∀ {v : OptionValue}, v.Within T →
    Draft.toOption (v.toDraft name) = .mk name v
  | .scalar type ps, h => by
    obtain ⟨harray, hobject, hps⟩ := h
    rw [OptionValue.toDraft, Draft.toOption, map_toPart hps]
    · exact harray
    · exact hobject
  | .array items, h => by
    rw [OptionValue.toDraft, Draft.toOption, toOptions_toDraft h]
  | .object properties, h => by
    rw [OptionValue.toDraft, Draft.toOption, toOptions_toDraft h]

lemma toOptions_toDraft : ∀ {os : List OptionSpec}, OptionsWithin T os →
    Draft.toOptions (optionsToDraft os) = os
  | [], _ => rfl
  | .mk name v :: os, h => by
    rw [optionsToDraft, Draft.toOptions, toOption_toDraft name h.1, toOptions_toDraft h.2]
end

lemma call_toDraft {c : Call} (h : c.Within T) (op key name mode : String) (target : Int) :
    (c.toDraft op key name mode target).call = c := by
  have hcontents : (c.contents.map ContentRef.toDraft).map (fun ref =>
    (⟨ref.name, ref.body.toNat⟩ : ContentRef)) =
      c.contents := by
    rw [List.map_map]
    exact List.map_id _
  rw [Draft.Head.call, Call.toDraft]
  simp only [map_toAttr h.attr, toOptions_toDraft h.options, hcontents, slot?_slotNumber]

mutual
/-- What refers to existing entries is read as it was written down. -/
theorem toInstruction_toDraft : ∀ {i : Instruction}, i.AllWithin T →
    Draft.toInstruction i.toDraft = i
  | .text key ps, h => by
    rw [Instruction.toDraft, Draft.toInstruction, map_toPart (h _ (.self _))]
    rfl
  | .element key name as children void, h => by
    have hchildren : ∀ i ∈ children, i.AllWithin T := h.inner
    rw [Instruction.toDraft, Draft.toInstruction, map_toAttr (h _ (.self _)),
      toInstructions_toDraft hchildren]
    rfl
  | .component key name c, h => by
    rw [Instruction.toDraft, Draft.toInstruction, call_toDraft (h _ (.self _))]
    rfl
  | .partialCall key t c, h => by
    obtain ⟨htarget, hcall⟩ := h _ (.self _)
    rw [Instruction.toDraft, Draft.toInstruction, call_toDraft hcall]
    cases t <;> rfl
  | .branches key as, h => by
    have harms : ∀ i ∈ as.flatMap Arm.children, i.AllWithin T := h.inner
    rw [Instruction.toDraft, Draft.toInstruction, toArms_toDraft harms]
    rfl
  | .loop key names init test update children watch, h => by
    have hchildren : ∀ i ∈ children, i.AllWithin T := h.inner
    rw [Instruction.toDraft, Draft.toInstruction]
    simp only [toInstructions_toDraft hchildren, slot?_slotNumber]
  | .each key collection index iterator children watch, h => by
    have hchildren : ∀ i ∈ children, i.AllWithin T := h.inner
    rw [Instruction.toDraft, Draft.toInstruction]
    simp only [toInstructions_toDraft hchildren, slot?_slotNumber, Int.toNat_natCast]
  | .unknown op, h => (h _ (.self _)).elim

theorem toInstructions_toDraft : ∀ {is : List Instruction}, (∀ i ∈ is, i.AllWithin T) →
    Draft.toInstructions (instructionsToDraft is) = is
  | [], _ => rfl
  | i :: is, h => by
    rw [instructionsToDraft, Draft.toInstructions, toInstruction_toDraft (h i List.mem_cons_self),
      toInstructions_toDraft fun i hi => h i (List.mem_cons_of_mem _ hi)]

theorem toArms_toDraft : ∀ {as : List Arm}, (∀ i ∈ as.flatMap Arm.children, i.AllWithin T) →
    Draft.toArms (armsToDraft as) = as
  | [], _ => rfl
  | .mk test children watch :: as, h => by
    have hchildren : ∀ i ∈ children, i.AllWithin T := fun i hi => h i (List.mem_append_left _ hi)
    rw [armsToDraft, Draft.toArms, slot?_slotNumber, slot?_slotNumber,
      toInstructions_toDraft hchildren,
      toArms_toDraft fun i hi => h i (List.mem_append_right _ hi)]
end

/-- A body of one of the three kinds is read as it was written down. -/
lemma toBody_toDraft {b : Body} (hkind : BodyKind.ofName b.kind.name = b.kind)
    (h : ∀ i ∈ b.children, i.AllWithin T) : b.toDraft.toBody = b := by
  rw [Draft.Body.toBody, Body.toDraft]
  simp only [hkind, toInstructions_toDraft h, slot?_slotNumber]

end Description

end Trellis
