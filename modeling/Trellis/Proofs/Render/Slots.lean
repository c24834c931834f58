/-
Every slot that rendering asks for is one that checking went through.

Whatever rendering evaluates, and whatever it takes from the table of expressions without evaluating
it, it finds by a slot that stands in an instruction or in the runs that a container watches
(`Instruction.slots`, `Description.watches`).  Checking a description goes through the same slots,
with one exception: the target of a partial is checked if its mode is `dynamic`, and it is evaluated
if its mode is anything but `inline` and `static` (`Draft.Instruction.Targets`).

That rendering asks for no other slots is said by what stands behind the end of the table
(`Template.padded`): it makes no difference to any body, whatever the entries there are, and
whatever the machine makes of them (`Render.body_padded`).
-/
import Trellis.Proofs.Description.Written
import Trellis.Proofs.Render.Subscripts

namespace Trellis

namespace Description

/-! ### Slots -/

/-- The slot of a part that is evaluated. -/
def Part.slot? : Part → Option Int
  | .expr slot _ => some slot
  | _ => none

/-- The slots that an attribute evaluates or takes. -/
def AttrValue.slots : AttrValue → List Int
  | .bind slot _ | .event slot => [(slot : Int)]
  | v => v.parts.filterMap Part.slot?

/-- The slots of what is called. -/
def Call.slots (c : Call) : List Int :=
  c.attrs.flatMap (·.value.slots) ++ (optionParts c.options).filterMap Part.slot?

/-- The slot that finds a template. -/
def Target.slot? : Target → Option Int
  | .dynamic slot _ => some slot
  | _ => none

/-- The slot of a clause or a test that may be left out. -/
def clauseSlots (clause : Option Nat) : List Int := (clause.map fun n => (n : Int)).toList

/-- The slot of the test of an arm. -/
def Arm.slots : Arm → List Int
  | .mk test _ _ => clauseSlots test

/-- The slots that an instruction itself asks for. -/
def Instruction.slots : Instruction → List Int
  | .text _ ps => ps.filterMap Part.slot?
  | .element _ _ as _ _ => as.flatMap (·.value.slots)
  | .component _ _ call => call.slots
  | .partialCall _ target call => target.slot?.toList ++ call.slots
  | .branches _ as => as.flatMap Arm.slots
  | .loop _ _ init test update _ _ => clauseSlots init ++ clauseSlots test ++ clauseSlots update
  | .each _ collection _ _ _ _ => [(collection : Int)]
  | .unknown _ => []

/-- A slot for which there is an entry. -/
def Covers (d : Description) (n : Int) : Prop := 0 ≤ n ∧ n < d.expressions.size

/-- All slots that are watched have entries. -/
def WatchesCovered (d : Description) : Prop := ∀ runs ∈ d.watches, ∀ n ∈ Container.expand runs,
    d.Covers n

/-- All slots that an instruction or one below it asks for have entries. -/
def SlotsCovered (d : Description) (i : Instruction) : Prop :=
  ∀ j, i.Holds j → ∀ n ∈ j.slots, d.Covers n

namespace Draft

/-! ### Checking goes through them -/

/-- The target of a partial of a mode that nobody knows is in range. -/
def Targets (d : Draft) (h : Head) : Prop :=
  h.op = "partial" → h.mode ∉ ["inline", "static", "dynamic"] → 0 ≤ h.target ∧
    h.target < d.expressions.length

instance (d : Draft) (h : Head) : Decidable (d.Targets h) := inferInstanceAs (Decidable (_ → _ → _))

mutual
/-- The heads of an instruction and of all that stand below it. -/
def Instruction.heads : Instruction → List Head
  | .null => []
  | .mk h children arms => h :: ((if h.op = "if" then headsInArms arms else []) ++ headsOf children)

def headsOf : List Instruction → List Head
  | [] => []
  | i :: is => i.heads ++ headsOf is

def headsInArms : List Arm → List Head
  | [] => []
  | .mk _ children _ :: as => headsOf children ++ headsInArms as
end

/-- The heads of all instructions. -/
def heads (d : Draft) : List Head := d.bodies.flatMap fun b =>
    (b.map fun b => headsOf b.children).getD []

lemma heads_subset_headsOf {i : Instruction} {is : List Instruction} (hi : i ∈ is) :
    i.heads ⊆ headsOf is := by
  induction is with
  | nil => exact absurd hi List.not_mem_nil
  | cons j js ih =>
    intro h hh
    rw [headsOf]
    rcases List.mem_cons.1 hi with rfl | hi
    · exact List.mem_append_left _ hh
    · exact List.mem_append_right _ (ih hi hh)

lemma headsOf_flatMap_children (as : List Arm) : headsOf (as.flatMap Arm.children) =
    headsInArms as := by
  have happend : ∀ is js : List Instruction, headsOf (is ++ js) = headsOf is ++ headsOf js := by
    intro is js
    induction is with
    | nil => rfl
    | cons i is ih => rw [List.cons_append, headsOf, headsOf, ih, List.append_assoc]
  induction as with
  | nil => rfl
  | cons a as ih =>
    obtain ⟨test, children, watch⟩ := a
    rw [List.flatMap_cons, happend, ih, Arm.children, headsInArms]

lemma heads_subset_of_inner {i j : Instruction} (hj : j ∈ i.inner) : j.heads ⊆ i.heads := by
  cases i with
  | null => exact absurd hj List.not_mem_nil
  | mk h children arms =>
    intro h' hh'
    rw [Instruction.heads]
    refine List.mem_cons_of_mem _ ?_
    rcases List.mem_append.1 hj with hj | hj
    · refine List.mem_append_left _ ?_
      split at hj
      next hop =>
        rw [if_pos hop, ← headsOf_flatMap_children]
        exact heads_subset_headsOf hj hh'
      next => exact absurd hj List.not_mem_nil
    · exact List.mem_append_right _ (heads_subset_headsOf hj hh')

lemma heads_subset_of_holds {i j : Instruction} (hij : i.Holds j) : j.heads ⊆ i.heads := by
  induction hij with
  | self => exact List.Subset.refl _
  | inside hj _ ih => exact List.Subset.trans ih (heads_subset_of_inner hj)

lemma mem_heads {d : Draft} {b : Body} (hb : some b ∈ d.bodies) {i : Instruction}
    (hi : i ∈ b.children) {h : Head}
    {children : List Instruction} {arms : List Arm} (hij : i.Holds (.mk h children arms)) :
    h ∈ d.heads := by
  have hself : h ∈ (Instruction.mk h children arms).heads := by
    rw [Instruction.heads]
    exact List.mem_cons_self
  exact List.mem_flatMap.2 ⟨some b, hb, heads_subset_headsOf hi (heads_subset_of_holds hij hself)⟩

variable {d : Draft}

lemma checkParts_iff {ps : List Part} : d.checkParts ps = .ok () ↔
    ∀ p ∈ ps, p.kind = "expr" → 0 ≤ p.expr ∧ p.expr < d.expressions.length := by
  rw [checkParts, forM_eq_ok]
  refine forall₂_congr fun p _ => ?_
  by_cases hkind : p.kind = "expr"
  · simp only [hkind, beq_self_eq_true, if_true, true_implies]
    exact checkSlot_iff
  · simp [hkind]

lemma covered_of_checkParts {ps : List Part} (h : d.checkParts ps = .ok ()) {n : Int}
    (hn : n ∈ (ps.map Part.toPart).filterMap Description.Part.slot?) : 0 ≤ n ∧
    n < d.expressions.length := by
  obtain ⟨q, hq, hslot⟩ := List.mem_filterMap.1 hn
  obtain ⟨p, hp, rfl⟩ := List.mem_map.1 hq
  rw [Part.toPart] at hslot
  split at hslot
  case h_4 hkind =>
    obtain ⟨hnonneg, hlt⟩ := checkParts_iff.1 h p hp hkind
    obtain rfl : ((p.expr.toNat : Nat) : Int) = n := Option.some.inj hslot
    omega
  all_goals cases hslot

lemma covered_of_checkAttr {a : Attr} (h : d.checkAttr a = .ok ()) {n : Int}
    (hn : n ∈ a.toAttr.value.slots) :
    0 ≤ n ∧ n < d.expressions.length := by
  rw [checkAttr] at h
  split at h
  next hkind =>
    obtain ⟨hnonneg, hlt⟩ := checkSlot_iff.1 h
    have hslots : a.toAttr.value.slots = [((a.expr.toNat : Nat) : Int)] := by
      rcases (by simpa using hkind : a.kind = "bind" ∨ a.kind = "event") with hkind | hkind
      · simp only [Attr.toAttr, hkind, AttrValue.slots]
      · simp only [Attr.toAttr, hkind, AttrValue.slots]
    rw [hslots] at hn
    obtain rfl := List.mem_singleton.1 hn
    omega
  next hkind =>
    refine covered_of_checkParts h ?_
    rw [Attr.toAttr] at hn
    dsimp only at hn
    split at hn
    case h_3 hbind => exact absurd hkind (by simp [hbind])
    case h_4 hevent => exact absurd hkind (by simp [hevent])
    all_goals exact hn

mutual
lemma covered_of_checkOption {n : Int} : ∀ {o : OptionSpec} (_ : d.checkOption o = .ok ())
    (_ : n ∈ (optionParts [toOption o]).filterMap Description.Part.slot?), 0 ≤ n ∧
    n < d.expressions.length
  | .mk name type ps items properties, h, hn => by
    rw [checkOption, seq_eq_ok, seq_eq_ok] at h
    obtain ⟨hparts, hitems, hproperties⟩ := h
    rw [toOption.eq_def, optionParts, optionParts, List.append_nil] at hn
    split at hn
    · exact covered_of_checkOptions hitems hn
    · exact covered_of_checkOptions hproperties hn
    · exact covered_of_checkParts hparts hn

lemma covered_of_checkOptions {n : Int} : ∀ {os : List OptionSpec} (_ : d.checkOptions os = .ok ())
    (_ : n ∈ (optionParts (toOptions os)).filterMap Description.Part.slot?), 0 ≤ n ∧
    n < d.expressions.length
  | [], _, hn => absurd hn List.not_mem_nil
  | o :: os, h, hn => by
    rw [checkOptions, seq_eq_ok] at h
    have happend : optionParts (toOptions (o :: os)) = optionParts [toOption o] ++ optionParts
        (toOptions os) := by
      rw [toOptions]
      cases toOption o
      rw [optionParts, optionParts, optionParts, List.append_nil]
    rw [happend, List.filterMap_append] at hn
    rcases List.mem_append.1 hn with hn | hn
    · exact covered_of_checkOption h.1 hn
    · exact covered_of_checkOptions h.2 hn
end

lemma covered_of_slot? {n : Int} (h : d.checkSlot? n = .ok ()) {m : Int}
    (hm : m ∈ clauseSlots (slot? n)) :
    0 ≤ m ∧ m < d.expressions.length := by
  rw [checkSlot?] at h
  rw [slot?] at hm
  split at hm
  next => exact absurd hm List.not_mem_nil
  next hnonneg =>
    have hne : (n == -1) = false := by
      rw [beq_eq_false_iff_ne]
      omega
    rw [hne] at h
    obtain ⟨-, hlt⟩ := checkSlot_iff.1 h
    have hm : m = (n.toNat : Nat) := List.mem_singleton.1 hm
    omega

variable {h : Head} {children : List Instruction} {arms : List Arm}

lemma Passes.call_slots (hpasses : d.Passes h children arms) {n : Int} (hn : n ∈ h.call.slots) :
    0 ≤ n ∧ n < d.expressions.length := by
  rcases List.mem_append.1 hn with hn | hn
  · obtain ⟨a, ha, hslot⟩ := List.mem_flatMap.1 hn
    obtain ⟨b, hb, rfl⟩ := List.mem_map.1 ha
    exact covered_of_checkAttr (hpasses.attr b hb) hslot
  · exact covered_of_checkOptions hpasses.options hn

lemma covered_of_checkArms (harms : d.checkArms arms = .ok ()) {n : Int}
    (hn : n ∈ (toArms arms).flatMap Description.Arm.slots) : 0 ≤ n ∧ n < d.expressions.length := by
  induction arms with
  | nil => exact absurd hn List.not_mem_nil
  | cons a as ih =>
    obtain ⟨test, children, watch⟩ := a
    rw [checkArms, seq_eq_ok, seq_eq_ok, seq_eq_ok] at harms
    rw [toArms, List.flatMap_cons] at hn
    rcases List.mem_append.1 hn with hn | hn
    · exact covered_of_slot? harms.1 hn
    · exact ih harms.2.2.2 hn

/-- A dynamic target is checked; that of a mode that nobody knows is in range if anything is. -/
lemma Passes.target_slot (hpasses : d.Passes h children arms) (htargets : d.Targets h)
    (hop : h.op = "partial")
    {n : Int} (hn : n ∈ h.toTarget.slot?) : 0 ≤ n ∧ n < d.expressions.length := by
  have hcheck := hpasses.op
  rw [checkOp, hop] at hcheck
  rw [Head.toTarget] at hn
  split at hn
  case h_3 hinline hstatic =>
    obtain rfl : h.target = n := Option.some.inj hn
    by_cases hmode : h.mode = "dynamic"
    · rw [hmode] at hcheck
      exact checkSlot_iff.1 hcheck
    · refine htargets hop ?_
      simp only [List.mem_cons, List.not_mem_nil, or_false, not_or]
      exact ⟨hinline, hstatic, hmode⟩
  all_goals cases hn

/-- What an instruction that passes asks for is in range. -/
lemma Passes.slots (hpasses : d.Passes h children arms) (htargets : d.Targets h) {n : Int}
    (hn : n ∈ (toInstruction (.mk h children arms)).slots) : 0 ≤ n ∧ n < d.expressions.length := by
  have hcheck := hpasses.op
  rw [checkOp] at hcheck
  rw [toInstruction] at hn
  split at hn
  case h_1 => exact covered_of_checkParts hpasses.parts hn
  case h_2 =>
    obtain ⟨a, ha, hslot⟩ := List.mem_flatMap.1 hn
    obtain ⟨b, hb, rfl⟩ := List.mem_map.1 ha
    exact covered_of_checkAttr (hpasses.attr b hb) hslot
  case h_3 => exact hpasses.call_slots hn
  case h_4 hop =>
    rcases List.mem_append.1 hn with hn | hn
    · exact hpasses.target_slot htargets hop (Option.mem_toList.1 hn)
    · exact hpasses.call_slots hn
  case h_5 hop =>
    rw [hop] at hcheck
    exact covered_of_checkArms hcheck hn
  case h_6 hop =>
    rw [hop] at hcheck
    have hclauses := forM_eq_ok.1 hcheck
    rcases List.mem_append.1 hn with hn | hn
    · rcases List.mem_append.1 hn with hn | hn
      · exact covered_of_slot? (hclauses h.init (by simp)) hn
      · exact covered_of_slot? (hclauses h.test (by simp)) hn
    · exact covered_of_slot? (hclauses h.update (by simp)) hn
  case h_7 hop =>
    rw [hop] at hcheck
    obtain ⟨hnonneg, hlt⟩ := checkSlot_iff.1 hcheck
    obtain rfl := List.mem_singleton.1 hn
    omega
  case h_8 => exact absurd hn List.not_mem_nil

lemma mem_runs_expand {run : List Int} {n : Int} (hrun : ∀ m ∈ run, d.checkSlot m = .ok ())
    (hn : n ∈ Container.expandRun run) : 0 ≤ n ∧ n < d.expressions.length := by
  match run, hrun, hn with
  | [], _, hn => exact absurd hn List.not_mem_nil
  | [x], hrun, hn =>
    obtain rfl := List.mem_singleton.1 hn
    exact checkSlot_iff.1 (hrun n List.mem_cons_self)
  | [first, last], hrun, hn =>
    -- what is between two slots of the table is one, too
    obtain ⟨hfirst, -⟩ := checkSlot_iff.1 (hrun first List.mem_cons_self)
    obtain ⟨-, hlast⟩ := checkSlot_iff.1 (hrun last (List.mem_cons_of_mem _ List.mem_cons_self))
    obtain ⟨i, hi, rfl⟩ := List.mem_map.1 hn
    have hi := List.mem_range.1 hi
    omega
  | _ :: _ :: _ :: _, _, hn => exact absurd hn List.not_mem_nil

variable {decorators : Option (List String)} {d' : Description}

lemma watches_of_toDescription (h : d.toDescription decorators = .ok d') : d'.WatchesCovered := by
  obtain ⟨hcheck, hsize, -⟩ := tables_of_toDescription h
  have hwatches : d'.watches = d.watches.toArray := by
    rw [toDescription, bind_eq_ok] at h
    obtain ⟨⟨⟩, -, h⟩ := h
    dsimp only at h
    rw [bind_eq_ok] at h
    obtain ⟨⟨expressions, symbols⟩, -, h⟩ := h
    cases h
    rfl
  intro runs hruns n hn
  rw [hwatches, List.mem_toArray] at hruns
  obtain ⟨run, hrun, hn⟩ := List.mem_flatMap.1 hn
  rw [Covers, hsize]
  exact mem_runs_expand ((check_iff.1 hcheck).run runs hruns run hrun) hn

/-- What the bodies of a description that was read ask for is in range, if the targets are. -/
theorem slots_of_toDescription (h : d.toDescription decorators = .ok d')
    (htargets : ∀ head ∈ d.heads, d.Targets head) {b' : Description.Body} (hb' : b' ∈ d'.bodies)
    {i : Description.Instruction} (hi : i ∈ b'.children) : d'.SlotsCovered i := by
  obtain ⟨hcheck, hsize, hbodies⟩ := tables_of_toDescription h
  intro j hij n hn
  rw [hbodies, List.mem_toArray, List.mem_filterMap] at hb'
  obtain ⟨_ | b, hb, hmap⟩ := hb'
  · cases hmap
  · obtain rfl : b.toBody = b' := Option.some.inj hmap
    rw [Body.toBody, toInstructions_eq_map] at hi
    obtain ⟨i₀, hi₀, rfl⟩ := List.mem_map.1 hi
    obtain ⟨j₀, hij₀, rfl⟩ := toInstruction_holds hij
    cases j₀ with
    | null => exact absurd hn List.not_mem_nil
    | mk head children arms =>
      have hchecked := (checkBody_iff.1 ((check_iff.1 hcheck).body _ hb)).2 i₀ hi₀
      have hpasses := checkInstruction_iff.1 (checkInstruction_holds hij₀ hchecked)
      rw [Covers, hsize]
      exact hpasses.slots (htargets head (mem_heads hb hi₀ hij₀)) hn

end Draft

end Description

open Description

/-- A template with more entries behind those of its table. -/
def Template.padded (t : Template) (more : Array Expression) : Template :=
  { t with description := { t.description with expressions := t.description.expressions ++ more } }

namespace Render

/-! ### Rendering asks for no others -/

section

variable {w : Workshop} {t : Template} {r : Renderer} {c : Context} {more : Array Expression}

lemma expression_padded {slot : Nat} (h : t.description.Covers slot) :
    expression? (t.padded more) slot = expression? t slot :=
  Array.getElem?_append_left (by exact_mod_cast h.2)

lemma eval_padded {slot : Nat} (h : t.description.Covers slot) :
    eval (t.padded more) r c slot = eval t r c slot := by
  rw [eval, eval, expression_padded h]
  rfl

lemma collect_padded (h : t.description.WatchesCovered) (watch : Option Nat) :
    collect (t.padded more) r c watch = collect t r c watch := by
  have hslots : ∀ n ∈ Container.expand ((watch.bind fun i => t.description.watches[i]?).getD []),
      eval (t.padded more) r c n.toNat = eval t r c n.toNat := by
    intro n hn
    cases hruns : watch.bind fun i => t.description.watches[i]? with
    | none =>
      rw [hruns] at hn
      exact absurd hn List.not_mem_nil
    | some runs =>
      rw [hruns, Option.getD_some] at hn
      obtain ⟨i, -, hi⟩ := Option.bind_eq_some_iff.1 hruns
      have hcovers := h runs (Array.mem_of_getElem? hi) n hn
      have hnat : ((n.toNat : Nat) : Int) = n := Int.toNat_of_nonneg hcovers.1
      exact eval_padded (hnat.symm ▸ hcovers)
  rw [collect, collect]
  split
  · rfl
  · refine congrArg (· >>= _) (Strict.forIn_congr fun n hn => ?_)
    simp only [hslots n hn]

lemma part_padded {p : Part} (h : ∀ n ∈ p.slot?, t.description.Covers n) :
    part (t.padded more) r c p = part t r c p := by
  cases p with
  | expr slot trusted => rw [part, part, eval_padded (h slot rfl)]; rfl
  | _ => rfl

lemma parts_padded {ps : List Part} (h : ∀ n ∈ ps.filterMap Part.slot?, t.description.Covers n) :
    parts (t.padded more) r c ps = parts t r c ps := by
  have hpart : ∀ p ∈ ps, part (t.padded more) r c p = part t r c p :=
    fun p hp => part_padded fun n hn => h n (List.mem_filterMap.2 ⟨p, hp, hn⟩)
  rcases ps with _ | ⟨p, _ | ⟨q, ps⟩⟩
  · rfl
  · exact hpart p List.mem_cons_self
  · rw [parts, parts]
    · refine congrArg (· >>= _) (mapM_congr (List.forall₂_same.2 fun p hp => ?_))
      rw [hpart p hp]
    all_goals simp

lemma event_padded {slot : Nat} (h : t.description.Covers slot) (name : String) :
    event (t.padded more) c name slot = event t c name slot := by
  rw [event, event, expression_padded h]
  rfl

lemma elementAttrs_padded {as : List Attr}
    (h : ∀ n ∈ as.flatMap (·.value.slots), t.description.Covers n) :
    elementAttrs (t.padded more) r c as = elementAttrs t r c as := by
  rw [elementAttrs, elementAttrs]
  refine congrArg (· >>= _) (mapM_congr (List.forall₂_same.2 fun a ha => ?_))
  have hslots : ∀ n ∈ a.value.slots, t.description.Covers n :=
    fun n hn => h n (List.mem_flatMap.2 ⟨a, ha, hn⟩)
  rcases a with ⟨name, v⟩
  cases v with
  | event slot => simp only [event_padded (hslots slot List.mem_cons_self)]
  | bind slot b =>
    simp only [eval_padded (hslots slot List.mem_cons_self)]
    rfl
  | markup ps | option ps | other kind ps =>
    have hparts : parts (t.padded more) r c ps = parts t r c ps := parts_padded hslots
    simp only [hparts]

mutual
lemma optionValue_padded : ∀ {v : OptionValue}
    (_ : ∀ n ∈ v.parts.filterMap Part.slot?, t.description.Covers n),
    optionValue (t.padded more) r c v = optionValue t r c v
  | .array items, h => by rw [optionValue, optionValue, options_padded h]
  | .object properties, h => by rw [optionValue, optionValue, options_padded h]
  | .scalar type ps, h => by
    have hparts : parts (t.padded more) r c ps = parts t r c ps := parts_padded h
    rw [optionValue, optionValue, hparts]

lemma options_padded : ∀ {os : List OptionSpec}
    (_ : ∀ n ∈ (optionParts os).filterMap Part.slot?, t.description.Covers n),
    options (t.padded more) r c os = options t r c os
  | [], _ => by rw [options, options]
  | .mk name v :: os, h => by
    rw [optionParts, List.filterMap_append] at h
    rw [options, options, optionValue_padded fun n hn => h n (List.mem_append_left _ hn),
      options_padded fun n hn => h n (List.mem_append_right _ hn)]
end

lemma callAttr_padded {a : Attr} (h : ∀ n ∈ a.value.slots, t.description.Covers n)
    (call : ControlCall)
    (fs : Fields) : callAttr (t.padded more) r c call fs a = callAttr t r c call fs a := by
  rcases a with ⟨name, v⟩
  cases v with
  | event slot => simp only [callAttr, event_padded (h slot List.mem_cons_self)]
  | bind slot b =>
    simp only [callAttr, eval_padded (h slot List.mem_cons_self), binding,
      expression_padded (h slot List.mem_cons_self)]
    rfl
  | markup ps | option ps =>
    have hparts : parts (t.padded more) r c ps = parts t r c ps := parts_padded h
    simp only [callAttr, hparts]
  | other kind ps => rfl

lemma callOf_padded {call : Call} (h : ∀ n ∈ call.slots, t.description.Covers n)
    (key name : String) :
    callOf (t.padded more) r c key name call = callOf t r c key name call := by
  have hfold : ∀ z : ControlCall × Fields,
      call.attrs.foldlM (fun acc a => callAttr (t.padded more) r c acc.1 acc.2 a) z =
        call.attrs.foldlM (fun acc a => callAttr t r c acc.1 acc.2 a) z :=
    foldlM_congr (List.forall₂_same.2 fun a ha z => callAttr_padded
      (fun n hn => h n (List.mem_append_left _ (List.mem_flatMap.2 ⟨a, ha, hn⟩))) z.1 z.2)
  simp only [callOf, hfold, options_padded fun n hn => h n (List.mem_append_right _ hn)]

lemma calling_padded (hwatches : t.description.WatchesCovered) {call : Call}
    (h : ∀ n ∈ call.slots, t.description.Covers n) (key name : String)
    (render : ControlCall → Run (List Rendered)) :
    calling (t.padded more) r c key name call render = calling t r c key name call render := by
  rw [calling, calling, collect_padded hwatches, callOf_padded h]
  rfl

lemma partialBody_padded {target : Target} (h : ∀ n ∈ target.slot?, t.description.Covers n)
    (call : ControlCall) : partialBody w (t.padded more) r c call target =
    partialBody w t r c call target := by
  cases target with
  | dynamic slot name =>
    have hcovers := h slot rfl
    have hnat : ((slot.toNat : Nat) : Int) = slot := Int.toNat_of_nonneg hcovers.1
    simp only [partialBody, eval_padded (hnat.symm ▸ hcovers : t.description.Covers slot.toNat)]
  | _ => rfl

lemma clause_padded {slot : Option Nat} (h : ∀ n ∈ clauseSlots slot, t.description.Covers n) :
    clause (t.padded more) r c slot = clause t r c slot := by
  cases slot with
  | none => rfl
  | some slot => exact eval_padded (h slot List.mem_cons_self)

lemma test_padded {slot : Nat} (h : t.description.Covers slot) :
    test (t.padded more) r c slot = test t r c slot := by
  rw [test, test, eval_padded h]
  rfl

lemma steps_padded (loop : Context) (test update : Run Bool)
    (body : Context → Run (List Rendered)) :
    ∀ (left done : Nat) (made : List (List Rendered)),
      steps (t.padded more) c loop test update body left done made = steps t c loop test update body
      left done made
  | 0, _, _ => rfl
  | left + 1, done, made => by
    simp only [steps, steps_padded loop test update body left]
    rfl

lemma loop_padded {init test update : Option Nat}
    (h : ∀ n ∈ clauseSlots init ++ clauseSlots test ++ clauseSlots update, t.description.Covers n)
    (names : List String) (body : Context → Run (List Rendered)) :
    loop (t.padded more) r c names init test update body = loop t r c names init test update
    body := by
  have hinit : ∀ c, clause (t.padded more) r c init = clause t r c init := fun _ =>
    clause_padded fun n hn => h n (List.mem_append_left _ (List.mem_append_left _ hn))
  have htest : ∀ c, clause (t.padded more) r c test = clause t r c test := fun _ =>
    clause_padded fun n hn => h n (List.mem_append_left _ (List.mem_append_right _ hn))
  have hupdate : ∀ c, clause (t.padded more) r c update = clause t r c update := fun _ =>
    clause_padded fun n hn => h n (List.mem_append_right _ hn)
  simp only [loop, hinit, htest, hupdate, steps_padded]
  rfl

lemma each_padded {collection : Nat} (h : t.description.Covers collection) (index iterator : String)
    (body : Context → Run (List Rendered)) :
    each (t.padded more) r c collection index iterator body = each t r c collection index iterator
    body := by
  rw [each, each, eval_padded h]
  rfl

lemma arm_padded {slot : Option Nat} (h : ∀ n ∈ clauseSlots slot, t.description.Covers n)
    (first : Bool) (body : Run (List Rendered)) (chain : Chain Rendered) :
    arm (t.padded more) r c first slot body chain = arm t r c first slot body chain := by
  cases slot with
  | none => cases first <;> rfl
  | some slot =>
    have htest : Render.test (t.padded more) r c slot = Render.test t r c slot :=
      test_padded (h slot List.mem_cons_self)
    cases first <;> simp only [arm.eq_def, Option.map_some, htest]

mutual
/-- Where all that an instruction asks for has entries, no others are taken. -/
theorem instruction_padded (hwatches : t.description.WatchesCovered) : ∀ {i : Instruction}
    (_ : t.description.SlotsCovered i) (c : Context),
    instruction w (t.padded more) r c i = instruction w t r c i
  | .text key ps, h, c => by
    have hparts : parts (t.padded more) r c ps = parts t r c ps := parts_padded (h _ (.self _))
    rw [instruction, instruction, text, text, hparts]
  | .element key name as children void, h, c => by
    have hchildren : ∀ i ∈ children, t.description.SlotsCovered i := fun i hi j hij =>
      h j (.inside hi hij)
    rw [instruction, instruction, instructions_padded hwatches hchildren,
      elementAttrs_padded (h _ (.self _))]
  | .component key name call, h, c => by
    rw [instruction, instruction, calling_padded hwatches (h _ (.self _))]
  | .partialCall key target call, h, c => by
    have hslots := h _ (.self _)
    have htarget : ∀ made, partialBody w (t.padded more) r c made target =
      partialBody w t r c made target :=
      partialBody_padded fun n hn => hslots n (List.mem_append_left _ (Option.mem_toList.2 hn))
    simp only [instruction, htarget]
    exact calling_padded hwatches (fun n hn => hslots n (List.mem_append_right _ hn)) _ _ _
  | .branches key as, h, c => by
    have harms : ∀ i ∈ as.flatMap Arm.children, t.description.SlotsCovered i :=
      fun i hi j hij => h j (.inside hi hij)
    rw [instruction, instruction, arms_padded hwatches (h _ (.self _)) harms]
  | .loop key names init test update children watch, h, c => by
    have hchildren : ∀ i ∈ children, t.description.SlotsCovered i := fun i hi j hij =>
      h j (.inside hi hij)
    simp only [instruction, instructions_padded hwatches hchildren, collect_padded hwatches]
    exact loop_padded (h _ (.self _)) _ _
  | .each key collection index iterator children watch, h, c => by
    have hchildren : ∀ i ∈ children, t.description.SlotsCovered i := fun i hi j hij =>
      h j (.inside hi hij)
    simp only [instruction, instructions_padded hwatches hchildren, collect_padded hwatches]
    exact each_padded (h _ (.self _) collection List.mem_cons_self) _ _ _
  | .unknown op, _, c => by rw [instruction, instruction]

theorem instructions_padded (hwatches : t.description.WatchesCovered) : ∀ {is : List Instruction}
    (_ : ∀ i ∈ is, t.description.SlotsCovered i) (c : Context),
    instructions w (t.padded more) r c is = instructions w t r c is
  | [], _, c => by rw [instructions, instructions]
  | i :: is, h, c => by
    rw [instructions, instructions, instruction_padded hwatches (h i List.mem_cons_self),
      instructions_padded hwatches fun i hi => h i (List.mem_cons_of_mem _ hi)]

theorem arms_padded (hwatches : t.description.WatchesCovered) : ∀ {as : List Arm}
    (_ : ∀ n ∈ as.flatMap Arm.slots, t.description.Covers n)
    (_ : ∀ i ∈ as.flatMap Arm.children, t.description.SlotsCovered i) (c : Context) (first : Bool)
    (chain : Chain Rendered), arms w (t.padded more) r c first chain as =
    arms w t r c first chain as
  | [], _, _, c, _, _ => by rw [arms, arms]
  | .mk slot children watch :: as, hslots, h, c, first, chain => by
    have hchildren : ∀ i ∈ children, t.description.SlotsCovered i :=
      fun i hi => h i (List.mem_append_left _ hi)
    rw [arms, arms, instructions_padded hwatches hchildren, collect_padded hwatches,
      arm_padded fun n hn => hslots n (List.mem_append_left _ hn)]
    refine bind_congr fun chain => ?_
    exact arms_padded hwatches (fun n hn => hslots n (List.mem_append_right _ hn))
      (fun i hi => h i (List.mem_append_right _ hi)) c false chain
end

/-- No body whose slots all have entries takes others, whatever renders the bodies that it calls. -/
theorem body_padded (hwatches : t.description.WatchesCovered)
    (hslots : ∀ b ∈ t.description.bodies, ∀ i ∈ b.children, t.description.SlotsCovered i)
    (c : Context) (at_ : Nat) : body w (t.padded more) r c at_ = body w t r c at_ := by
  rw [body, body]
  cases hb : t.description.bodies[at_]? with
  | none =>
    have hnone : (t.padded more).description.bodies[at_]? = none := hb
    rw [hnone]
  | some b =>
    have hsome : (t.padded more).description.bodies[at_]? = some b := hb
    rw [hsome]
    simp only [collect_padded hwatches, instructions_padded hwatches
      (hslots b (Array.mem_of_getElem? hb))]

/-- Nor do bodies that call each other in a rendering that was started with such a template. -/
theorem bodyTo_padded (hwatches : t.description.WatchesCovered)
    (hslots : ∀ b ∈ t.description.bodies, ∀ i ∈ b.children, t.description.SlotsCovered i)
    (depth : Nat) :
    w.bodyTo (t.padded more) depth = w.bodyTo t depth := by
  induction depth with
  | zero => rfl
  | succ depth ih =>
    funext c at_
    rw [Workshop.bodyTo, Workshop.bodyTo, ih, Context.template, Context.template]
    -- only what belongs to the template that was started with is padded
    cases c.subject with
    | start => exact body_padded hwatches hslots c at_
    | kept t' watching => rfl

end

end Render

/-- **Checking a description finds every slot that it lacks**, if no partial of a mode that nobody
knows has a target out of range.  Each slot that an instruction of a body asks for, at any depth,
and each one that is watched has an entry; and rendering asks for no others, since entries behind
the end of the table make no difference: to no body, for all data and registries, as a tree or as
text or while watching, whatever renders the bodies that it calls, and to no rendering. -/
theorem Description.parse_covered {decorators : Option (List String)} {s : String} {d : Description}
    (h : parse decorators s = .ok d)
    (htargets : ∀ draft, Draft.read s = .ok draft → ∀ head ∈ draft.heads, draft.Targets head) :
    (d.WatchesCovered ∧ ∀ b ∈ d.bodies, ∀ i ∈ b.children, d.SlotsCovered i) ∧
    ∀ (w : Workshop) (t : Template) (more : Array Expression), t.description = d →
      (∀ (r : Renderer) (c : Context) (at_ : Nat),
        Render.body w (t.padded more) r c at_ = Render.body w t r c at_) ∧
      ∀ i : Invocation, w.begin (t.padded more) i = w.begin t i := by
  obtain ⟨draft, hread, hdraft⟩ := bind_eq_ok.1 h
  have hwatches : d.WatchesCovered := Draft.watches_of_toDescription hdraft
  have hslots : ∀ b ∈ d.bodies, ∀ i ∈ b.children, d.SlotsCovered i := fun b hb i hi =>
    Draft.slots_of_toDescription hdraft (htargets draft hread) hb hi
  refine ⟨⟨hwatches, hslots⟩, ?_⟩
  rintro w t more rfl
  constructor
  · intro r c at_
    exact Render.body_padded hwatches hslots c at_
  · intro i
    rw [Workshop.begin, Workshop.begin, Render.bodyTo_padded hwatches hslots]
    rfl

/-- A written description: a partial with a mode and a target, and one entry. -/
def Description.partialText (mode : String) (target : Int) : String := Json.text true (.record [
  ("version", .whole 3),
  ("bodies", .list [.record [("kind", .text "ROOT"), ("children", .list [
    .record [("op", .text "partial"), ("mode", .text mode), ("target", .whole target)]])]]),
  ("internals", .list [.null]),
  ("expressions", .list [.record [("source", .text "x")]])])

theorem Description.parse_covered_dynamic : ∃ d, parse none (partialText "dynamic" 0) = .ok d ∧
    ∀ (w : Workshop) (more : Array Expression) (r : Renderer) (c : Context) (at_ : Nat),
      Render.body w (Template.padded { description := d, body := 0 } more) r c at_ =
        Render.body w { description := d, body := 0 } r c at_ := by
  have hread : (Draft.read (partialText "dynamic" 0)).toOption.any (fun draft =>
      (draft.toDescription none).isOk && decide (∀ head ∈ draft.heads, draft.Targets head)) =
          true := by
    decide +kernel
  cases hdraft : Draft.read (partialText "dynamic" 0) with
  | error f =>
    rw [hdraft] at hread
    cases hread
  | ok draft =>
    rw [hdraft] at hread
    obtain ⟨hok, htargets⟩ := Bool.and_eq_true_iff.1 hread
    cases h : draft.toDescription none with
    | error f =>
      rw [h] at hok
      cases hok
    | ok d =>
      have hparse : parse none (partialText "dynamic" 0) = .ok d := bind_eq_ok.2 ⟨draft, hdraft, h⟩
      refine ⟨d, hparse, fun w more => ((parse_covered hparse ?_).2 w _ more rfl).1⟩
      intro draft' hdraft'
      rw [hdraft] at hdraft'
      cases hdraft'
      exact of_decide_eq_true htargets

/-- The target of a partial of a mode that nobody knows is evaluated, and it is not checked. -/
theorem Description.parse_stray : ∃ d t, parse none (partialText "other" 1) = .ok d ∧
    Template.ofDescription d {} = .ok t ∧
    ∃ f, ((({} : Workshop).render t {}).run {}).1 = .error f ∧ f.hasCode "WIRE-0001" = true := by
  have hfails : (match parse none (partialText "other" 1) >>= (Template.ofDescription · {}) with
    | .ok t => match ((({} : Workshop).render t {}).run {}).1 with
      | .error f => f.hasCode "WIRE-0001"
      | .ok _ => false
    | .error _ => false) = true := by
    decide +kernel
  cases hparse : parse none (partialText "other" 1) >>= (Template.ofDescription · {}) with
  | error f =>
    rw [hparse] at hfails
    cases hfails
  | ok t =>
    rw [hparse] at hfails
    obtain ⟨d, hd, ht⟩ := bind_eq_ok.1 hparse
    refine ⟨d, t, hd, ht, ?_⟩
    cases hrun : ((({} : Workshop).render t {}).run {}).1 with
    | ok nodes =>
      dsimp only at hfails
      rw [hrun] at hfails
      cases hfails
    | error f =>
      dsimp only at hfails
      rw [hrun] at hfails
      exact ⟨f, rfl, hfails⟩

end Trellis
