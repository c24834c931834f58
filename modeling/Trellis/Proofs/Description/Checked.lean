/-
What checking a description guarantees.

A description that is read is checked before anything of it is used.  `Draft.Passes` says what is
checked of an instruction, where everything directly below the instruction is checked in turn; so
what is checked of one instruction holds of all that stand below it (`Draft.Instruction.Holds`).
The positions that a call or an element uses without looking whether they are there are in range
therefore, at any depth (`Draft.inRange_of_check`), and they stay the same positions in the
description that the draft stands for (`fits_of_toDescription`).
-/
import Trellis.Description.Reader
import Trellis.Proofs.Outcome

namespace Trellis.Description

/-! ### Instructions and what stands below them -/

/-- The slot that an attribute takes without evaluating it. -/
def AttrValue.slot? : AttrValue → Option Nat
  | .bind slot _ | .event slot => some slot
  | _ => none

/-- The instructions of an arm. -/
def Arm.children : Arm → List Instruction
  | .mk _ children _ => children

namespace Instruction

/-- The instructions directly below an instruction. -/
def inner : Instruction → List Instruction
  | .element _ _ _ children _ => children
  | .branches _ arms => arms.flatMap Arm.children
  | .loop _ _ _ _ _ children _ => children
  | .each _ _ _ _ children _ => children
  | _ => []

/-- The attributes of an element or a call. -/
def attrs : Instruction → List Attr
  | .element _ _ as _ _ => as
  | .component _ _ call => call.attrs
  | .partialCall _ _ call => call.attrs
  | _ => []

/-- The content that a call passes. -/
def contents : Instruction → List ContentRef
  | .component _ _ call => call.contents
  | .partialCall _ _ call => call.contents
  | _ => []

/-- The second instruction is the first or stands below it, at any depth. -/
inductive Holds : Instruction → Instruction → Prop
  | self (i : Instruction) : Holds i i
  | inside {i j k : Instruction} (h : j ∈ i.inner) (hk : Holds j k) : Holds i k

end Instruction

/-- What an instruction takes from the tables without looking whether it is there, is there. -/
structure Fits (d : Description) (i : Instruction) : Prop where
  slot : ∀ a ∈ i.attrs, ∀ slot ∈ a.value.slot?, slot < d.expressions.size
  content : ∀ ref ∈ i.contents, ∃ b, d.bodies[ref.body]? = some b ∧ b.kind = .content

namespace Draft

/-- The instructions of an arm. -/
def Arm.children : Arm → List Instruction
  | .mk _ children _ => children

namespace Instruction

/-- The instructions directly below an instruction.  Only a condition has arms. -/
def inner : Instruction → List Instruction
  | .null => []
  | .mk h children arms => (if h.op = "if" then arms.flatMap Arm.children else []) ++ children

/-- The second instruction is the first or stands below it, at any depth. -/
inductive Holds : Instruction → Instruction → Prop
  | self (i : Instruction) : Holds i i
  | inside {i j k : Instruction} (h : j ∈ i.inner) (hk : Holds j k) : Holds i k

end Instruction

/-- The positions that an instruction takes from the tables without looking are in range: slots of
attributes that are bound or called, and bodies of content. -/
structure InRange (d : Draft) (h : Head) : Prop where
  slot : ∀ a ∈ h.attrs, a.kind = "bind" ∨ a.kind = "event" →
    0 ≤ a.expr ∧ a.expr < d.expressions.length
  content : ∀ ref ∈ h.contents, 0 ≤ ref.body ∧ ref.body < d.bodies.length ∧
    ∃ b, d.bodies[ref.body.toNat]? = some (some b) ∧ b.kind = "CONTENT"

/-! ### What is checked -/

/-- What is checked of instructions of one kind only. -/
def checkOp (d : Draft) (h : Head) (arms : List Arm) : Except Fault Unit :=
  match h.op with
  | "partial" => if h.mode == "dynamic" then d.checkSlot h.target else .ok ()
  | "if" => d.checkArms arms
  | "for" => [h.init, h.test, h.update].forM d.checkSlot?
  | "foreach" => d.checkSlot h.collection
  | _ => .ok ()

/-- What is checked of an instruction. -/
structure Passes (d : Draft) (h : Head) (children : List Instruction) (arms : List Arm) : Prop where
  watch : d.checkWatch h.watch = .ok ()
  parts : d.checkParts h.parts = .ok ()
  attr : ∀ a ∈ h.attrs, d.checkAttr a = .ok ()
  options : d.checkOptions h.options = .ok ()
  content : ∀ ref ∈ h.contents, d.checkContent ref = .ok ()
  op : d.checkOp h arms = .ok ()
  child : ∀ i ∈ children, d.checkInstruction i = .ok ()

/-- What is checked of a body. -/
def checkBody (d : Draft) : Option Body → Except Fault Unit
  | none => .error (malformed "null body")
  | some b => do
    d.checkWatch b.watch
    d.checkInstructions b.children

/-- What is checked of a draft. -/
structure Checked (d : Draft) : Prop where
  version : d.version = Description.version
  body : ∀ b ∈ d.bodies, d.checkBody b = .ok ()
  roots : d.bodies.countP (fun b => b.any (·.kind == "ROOT")) = 1
  run : ∀ runs ∈ d.watches, ∀ run ∈ runs, ∀ n ∈ run, d.checkSlot n = .ok ()

variable {d : Draft}

lemma checkSlot_iff {n : Int} : d.checkSlot n = .ok () ↔ 0 ≤ n ∧ n < d.expressions.length := by
  rw [checkSlot]
  split <;> simp_all

lemma checkContent_iff {ref : ContentRef} : d.checkContent ref = .ok () ↔
    0 ≤ ref.body ∧ ∃ b, d.bodies[ref.body.toNat]? = some (some b) ∧ b.kind = "CONTENT" := by
  rw [checkContent]
  by_cases hneg : ref.body < 0
  · have hnone : ((if ref.body < 0 then none else (d.bodies[ref.body.toNat]?).join.map (·.kind)) ==
        some "CONTENT") = false := by rw [if_pos hneg]; rfl
    simp only [hnone, Bool.false_eq_true, if_false]
    exact ⟨nofun, fun h => absurd h.1 (Int.not_le.2 hneg)⟩
  · rw [if_neg hneg]
    rcases hb : d.bodies[ref.body.toNat]? with _ | _ | b
    · simp
    · simp
    · simp [Int.not_lt.1 hneg]

lemma checkInstructions_iff {is : List Instruction} :
    d.checkInstructions is = .ok () ↔ ∀ i ∈ is, d.checkInstruction i = .ok () := by
  induction is with
  | nil => simp [checkInstructions]
  | cons i is ih => rw [checkInstructions, seq_eq_ok, ih, List.forall_mem_cons]

lemma checkArms_iff {as : List Arm} : d.checkArms as = .ok () ↔ ∀ test children watch,
    Arm.mk test children watch ∈ as → d.checkSlot? test = .ok () ∧ d.checkWatch watch = .ok () ∧
      d.checkInstructions children = .ok () := by
  induction as with
  | nil => simp [checkArms]
  | cons a as ih =>
    obtain ⟨test, children, watch⟩ := a
    rw [checkArms, seq_eq_ok, seq_eq_ok, seq_eq_ok, ih]
    constructor
    · rintro ⟨htest, hwatch, hchildren, has⟩ test' children' watch' h
      rcases List.mem_cons.1 h with h | h
      · cases h
        exact ⟨htest, hwatch, hchildren⟩
      · exact has _ _ _ h
    · intro h
      obtain ⟨htest, hwatch, hchildren⟩ := h _ _ _ List.mem_cons_self
      exact ⟨htest, hwatch, hchildren, fun _ _ _ ha => h _ _ _ (List.mem_cons_of_mem _ ha)⟩

/-- Checking an instruction is checking what it names and what stands below it. -/
lemma checkInstruction_iff {h : Head} {children : List Instruction} {arms : List Arm} :
    d.checkInstruction (.mk h children arms) = .ok () ↔ d.Passes h children arms := by
  have hop : d.checkInstruction (.mk h children arms) = (do
      d.checkWatch h.watch
      d.checkParts h.parts
      h.attrs.forM d.checkAttr
      d.checkOptions h.options
      h.contents.forM d.checkContent
      d.checkOp h arms
      d.checkInstructions children) := by
    rw [checkInstruction]
    iterate 5 refine bind_congr fun _ => ?_
    split
    next hop =>
      rw [checkOp, hop]
      change (if (h.mode == "dynamic") = true then _ else _) = _
      split <;> rfl
    next hop => rw [checkOp, hop]; rfl
    next hop => rw [checkOp, hop]; rfl
    next hop => rw [checkOp, hop]; rfl
    next => rw [checkOp]; simp_all; rfl
  simp only [hop, seq_eq_ok, forM_eq_ok, checkInstructions_iff]
  constructor
  · rintro ⟨hwatch, hparts, hattr, hoptions, hcontent, hop, hchild⟩
    exact ⟨hwatch, hparts, hattr, hoptions, hcontent, hop, hchild⟩
  · intro h
    exact ⟨h.watch, h.parts, h.attr, h.options, h.content, h.op, h.child⟩

/-- Whatever stands directly below a checked instruction is checked. -/
lemma checkInstruction_inner {i j : Instruction} (h : d.checkInstruction i = .ok ())
    (hj : j ∈ i.inner) :
    d.checkInstruction j = .ok () := by
  cases i with
  | null => exact absurd hj List.not_mem_nil
  | mk head children arms =>
    have hpasses := checkInstruction_iff.1 h
    rcases List.mem_append.1 hj with hj | hj
    · split at hj
      next hop =>
        obtain ⟨⟨test, is, watch⟩, ha, hj⟩ := List.mem_flatMap.1 hj
        have harms : d.checkArms arms = .ok () := by simpa [checkOp, hop] using hpasses.op
        exact checkInstructions_iff.1 (checkArms_iff.1 harms _ _ _ ha).2.2 j hj
      next => exact absurd hj List.not_mem_nil
    · exact hpasses.child j hj

/-- What stands below a checked instruction, at any depth, is checked. -/
lemma checkInstruction_holds {i j : Instruction} (hij : i.Holds j)
    (h : d.checkInstruction i = .ok ()) :
    d.checkInstruction j = .ok () := by
  induction hij with
  | self => exact h
  | inside hj _ ih => exact ih (checkInstruction_inner h hj)

/-- A draft passes if all of it does. -/
lemma check_iff : d.check = .ok () ↔ d.Checked := by
  have hbodies : d.check = (do
      if d.version ≠ Description.version then
        throw (Fault.make .unsupportedVersion [("Version", Text.intText d.version)])
      d.bodies.forM d.checkBody
      if d.bodies.countP (fun b => b.any (·.kind == "ROOT")) ≠ 1 then
        throw (Fault.make .rootCount
          [("Count", Text.natText (d.bodies.countP fun b => b.any (·.kind == "ROOT")))])
      d.watches.forM fun runs => runs.forM fun run => run.forM d.checkSlot) := by
    rw [check, forIn_eq_forM]
    rintro (_ | b)
    · rfl
    · exact (bind_assoc _ _ _).symm
  rw [hbodies, throwing_eq_ok, seq_eq_ok, throwing_eq_ok, not_not, not_not]
  simp only [forM_eq_ok]
  exact ⟨fun ⟨hversion, hbody, hroots, hrun⟩ => ⟨hversion, hbody, hroots, hrun⟩,
    fun h => ⟨h.version, h.body, h.roots, h.run⟩⟩

lemma checkBody_iff {b : Body} : d.checkBody (some b) = .ok () ↔
    d.checkWatch b.watch = .ok () ∧ ∀ i ∈ b.children, d.checkInstruction i = .ok () := by
  rw [checkBody, seq_eq_ok, checkInstructions_iff]

/-- A call that passes takes nothing that is out of range. -/
lemma Passes.inRange {h : Head} {children : List Instruction} {arms : List Arm}
    (hpasses : d.Passes h children arms) : d.InRange h := by
  constructor
  · intro a ha hkind
    have hattr := hpasses.attr a ha
    rw [checkAttr, if_pos (by simpa using hkind)] at hattr
    exact checkSlot_iff.1 hattr
  · intro ref href
    obtain ⟨hnonneg, b, hb, hkind⟩ := checkContent_iff.1 (hpasses.content ref href)
    obtain ⟨hlt, -⟩ := List.getElem?_eq_some_iff.1 hb
    exact ⟨hnonneg, by omega, b, hb, hkind⟩

/-- **What a checked draft takes without looking is in range**, whatever instruction takes it, and
however deep it stands. -/
theorem inRange_of_check (h : d.check = .ok ()) {b : Body} (hb : some b ∈ d.bodies)
    {i : Instruction}
    (hi : i ∈ b.children) {head : Head} {children : List Instruction} {arms : List Arm}
    (hj : i.Holds (.mk head children arms)) : d.InRange head := by
  have hcheck := (checkBody_iff.1 ((check_iff.1 h).body _ hb)).2 i hi
  exact (checkInstruction_iff.1 (checkInstruction_holds hj hcheck)).inRange

/-! ### From drafts to descriptions -/

lemma toInstructions_eq_map (is : List Instruction) : toInstructions is = is.map toInstruction := by
  induction is with
  | nil => rfl
  | cons i is ih => rw [toInstructions, ih, List.map_cons]

lemma mem_children_toArms {as : List Arm} {j : Description.Instruction}
    (h : j ∈ (toArms as).flatMap Description.Arm.children) :
    ∃ i ∈ as.flatMap Arm.children, toInstruction i = j := by
  induction as with
  | nil => exact absurd h List.not_mem_nil
  | cons a as ih =>
    obtain ⟨test, children, watch⟩ := a
    rw [toArms, List.flatMap_cons] at h
    rcases List.mem_append.1 h with h | h
    · rw [Description.Arm.children, toInstructions_eq_map] at h
      obtain ⟨i, hi, rfl⟩ := List.mem_map.1 h
      exact ⟨i, List.mem_append_left _ hi, rfl⟩
    · obtain ⟨i, hi, rfl⟩ := ih h
      exact ⟨i, List.mem_append_right _ hi, rfl⟩

lemma toInstruction_inner {i : Instruction} {j : Description.Instruction}
    (h : j ∈ (toInstruction i).inner) : ∃ k ∈ i.inner, toInstruction k = j := by
  cases i with
  | null => exact absurd h List.not_mem_nil
  | mk head children arms =>
    have hchild : j ∈ toInstructions children → ∃ k ∈ (Instruction.mk head children arms).inner,
        toInstruction k = j := by
      intro h
      rw [toInstructions_eq_map] at h
      obtain ⟨k, hk, rfl⟩ := List.mem_map.1 h
      exact ⟨k, List.mem_append_right _ hk, rfl⟩
    rw [toInstruction] at h
    split at h
    case h_2 | h_6 | h_7 => exact hchild h
    case h_5 hop =>
      obtain ⟨k, hk, rfl⟩ := mem_children_toArms h
      exact ⟨k, List.mem_append_left _ (by rwa [if_pos hop]), rfl⟩
    all_goals exact absurd h List.not_mem_nil

lemma toInstruction_holds {i : Instruction} {j : Description.Instruction}
    (h : (toInstruction i).Holds j) : ∃ k, i.Holds k ∧ toInstruction k = j := by
  generalize hi : toInstruction i = i' at h
  induction h generalizing i with
  | self => exact ⟨i, .self i, hi⟩
  | inside hj _ ih =>
    obtain ⟨k, hk, hkj⟩ := toInstruction_inner (hi ▸ hj)
    obtain ⟨l, hkl, hl⟩ := ih hkj
    exact ⟨l, .inside hk hkl, hl⟩

lemma mem_attrs_toInstruction {h : Head} {children : List Instruction} {arms : List Arm}
    {a : Description.Attr} (ha : a ∈ (toInstruction (.mk h children arms)).attrs) :
    ∃ b ∈ h.attrs, b.toAttr = a := by
  rw [toInstruction] at ha
  split at ha
  case h_2 | h_3 | h_4 => exact List.mem_map.1 ha
  all_goals exact absurd ha List.not_mem_nil

lemma mem_contents_toInstruction {h : Head} {children : List Instruction} {arms : List Arm}
    {ref : Description.ContentRef} (href : ref ∈ (toInstruction (.mk h children arms)).contents) :
    ∃ c ∈ h.contents, ⟨c.name, c.body.toNat⟩ = ref := by
  rw [toInstruction] at href
  split at href
  case h_3 | h_4 => exact List.mem_map.1 href
  all_goals exact absurd href List.not_mem_nil

/-- Only what is bound or called becomes a slot. -/
lemma slot?_toAttr {a : Attr} {slot : Nat} (h : slot ∈ a.toAttr.value.slot?) :
    (a.kind = "bind" ∨ a.kind = "event") ∧ a.expr.toNat = slot := by
  rw [Attr.toAttr] at h
  dsimp only at h
  split at h
  case h_3 hkind => exact ⟨.inl hkind, Option.some.inj h⟩
  case h_4 hkind => exact ⟨.inr hkind, Option.some.inj h⟩
  all_goals cases h

/-- What a call takes without looking is still there in a description with as many entries and the
same bodies. -/
lemma InRange.fits {d' : Description} (hsize : d'.expressions.size = d.expressions.length)
    (hbodies : ∀ (k : Nat) (b : Body), d.bodies[k]? = some (some b) → d'.bodies[k]? = some b.toBody)
    {h : Head} (hrange : d.InRange h) (children : List Instruction) (arms : List Arm) :
    Fits d' (toInstruction (.mk h children arms)) := by
  constructor
  · intro a ha slot hslot
    obtain ⟨b, hb, rfl⟩ := mem_attrs_toInstruction ha
    obtain ⟨hkind, rfl⟩ := slot?_toAttr hslot
    have := hrange.slot b hb hkind
    omega
  · intro ref href
    obtain ⟨c, hc, rfl⟩ := mem_contents_toInstruction href
    obtain ⟨-, -, b, hb, hkind⟩ := hrange.content c hc
    refine ⟨b.toBody, hbodies _ _ hb, ?_⟩
    rw [Body.toBody, hkind]
    rfl

/-- Work on a list gives a result for each item. -/
lemma length_of_mapM {α β σ ε : Type} {f : α → StateT σ (Except ε) β} {xs : List α} {ys : List β}
    {s s' : σ} (h : (xs.mapM f).run s = .ok (ys, s')) : ys.length = xs.length := by
  induction xs generalizing ys s with
  | nil =>
    cases h
    rfl
  | cons x xs ih =>
    rw [List.mapM_cons, StateT.run_bind, bind_eq_ok] at h
    obtain ⟨⟨y, t⟩, -, h⟩ := h
    rw [StateT.run_bind, bind_eq_ok] at h
    obtain ⟨⟨zs, t'⟩, hzs, h⟩ := h
    cases h
    rw [List.length_cons, List.length_cons, ih hzs]

/-- A description has the entries and the bodies of its draft. -/
lemma tables_of_toDescription {decorators : Option (List String)} {d' : Description}
    (h : d.toDescription decorators = .ok d') : d.check = .ok () ∧
      d'.expressions.size = d.expressions.length ∧
      d'.bodies = (d.bodies.filterMap fun b => b.map Body.toBody).toArray := by
  rw [toDescription, bind_eq_ok] at h
  obtain ⟨⟨⟩, hcheck, h⟩ := h
  dsimp only at h
  rw [bind_eq_ok] at h
  obtain ⟨⟨expressions, symbols⟩, hrun, h⟩ := h
  cases h
  refine ⟨hcheck, ?_, rfl⟩
  have hlength := length_of_mapM hrun
  rwa [List.length_zipIdx] at hlength

/-- A checked draft has a body at every position. -/
lemma Checked.exists_bodies (h : d.Checked) : ∃ bs : List Body, d.bodies = bs.map some := by
  have hbody := h.body
  generalize d.bodies = os at hbody
  induction os with
  | nil => exact ⟨[], rfl⟩
  | cons b os ih =>
    obtain ⟨bs, rfl⟩ := ih fun b hb => hbody b (List.mem_cons_of_mem _ hb)
    cases b with
    | none => cases hbody none List.mem_cons_self
    | some b => exact ⟨b :: bs, rfl⟩

/-- Everything in the bodies of a description that was read takes what is there. -/
theorem fits_of_toDescription {decorators : Option (List String)} {d' : Description}
    (h : d.toDescription decorators = .ok d') {at_ : Nat} {b' : Description.Body}
    (hb' : d'.bodies[at_]? = some b') {i j : Description.Instruction} (hi : i ∈ b'.children)
    (hij : i.Holds j) :
    Fits d' j := by
  obtain ⟨hcheck, hsize, hbodies⟩ := tables_of_toDescription h
  obtain ⟨bs, hbs⟩ := (check_iff.1 hcheck).exists_bodies
  have hmap : d'.bodies = (bs.map Body.toBody).toArray := by
    rw [hbodies, hbs, List.filterMap_map]
    exact congrArg List.toArray (congrFun List.filterMap_eq_map bs)
  have hlookup : ∀ (k : Nat) (b : Body), d.bodies[k]? = some (some b) →
      d'.bodies[k]? = some b.toBody := by
    intro k b hb
    rw [hbs, List.getElem?_map, Option.map_eq_some_iff] at hb
    obtain ⟨b', hb', hsome⟩ := hb
    cases hsome
    rw [hmap, List.getElem?_toArray, List.getElem?_map, hb', Option.map_some]
  rw [hmap, List.getElem?_toArray, List.getElem?_map, Option.map_eq_some_iff] at hb'
  obtain ⟨b, hb, rfl⟩ := hb'
  rw [Body.toBody, toInstructions_eq_map] at hi
  obtain ⟨i₀, hi₀, rfl⟩ := List.mem_map.1 hi
  obtain ⟨j₀, hij₀, rfl⟩ := toInstruction_holds hij
  have hmem : some b ∈ d.bodies := by
    rw [hbs]
    exact List.mem_map_of_mem (List.mem_of_getElem? hb)
  cases j₀ with
  | null =>
    exact ⟨fun _ ha => absurd ha List.not_mem_nil, fun _ href => absurd href List.not_mem_nil⟩
  | mk head children arms =>
    exact (inRange_of_check hcheck hmem hi₀ hij₀).fits hsize hlookup children arms

end Draft

end Trellis.Description
