/-
Building gives well-formed descriptions.

In the end all slots are filled, and all bodies refer to what is in the tables
(`Build.run_bodies_sound`).  What that means of the finished description, `WellFormed` lists
(`wellFormed_ofAnnotated`).
-/
import Trellis.Proofs.Description.Fold
import Trellis.Proofs.Description.Makes

namespace Trellis.Description

open Container Markup

variable {a : Arena} {o : Options} {c : Code.Options} {f : Construction}

/-- The root is put in its place. -/
def Construction.withRoot (d : Construction) (children : List Instruction) (watch : Option Nat) :
    Construction :=
  { d with bodies := d.bodies.setIfInBounds 0 { kind := .root, children, watch } }

namespace Build

open Construction

/-! ### The end of building -/

/-- Compiling what has no entry yet keeps all that there is. -/
lemma run_valueSlots_grows {ss : List Stored} {d e : Construction} (hd : d.Sound a (code o))
    (hss : ∀ s ∈ ss, a.table.Knows s.program) {u : Unit}
    (hrun : (valueSlots o ss).run d = .ok (u, e)) :
    e.Sound a (code o) ∧ d.Grows e ∧ e.bodies = d.bodies := by
  induction ss generalizing d with
  | nil =>
    cases hrun
    exact ⟨hd, .refl _, rfl⟩
  | cons s ss ih =>
    rw [valueSlots, run_bind] at hrun
    cases hr : (slot o (.value "" false) s.program).run d with
    | error g =>
      rw [hr] at hrun
      cases hrun
    | ok r =>
      obtain ⟨i, d'⟩ := r
      rw [hr] at hrun
      obtain ⟨hd', hgrows, hbodies, -⟩ := run_slot_grows hd (hss s List.mem_cons_self) _ hr
      obtain ⟨he, hgrows', hbodies'⟩ := ih hd' (fun s hs => hss s (List.mem_cons_of_mem _ hs)) hrun
      exact ⟨he, hgrows.trans hgrows', hbodies'.trans hbodies⟩

lemma run_remaining_grows (ha : a.table.Own) {d e : Construction} (hd : d.Sound a (code o))
    {u : Unit} (hrun : (remaining o).run d = .ok (u, e)) :
    e.Sound a (code o) ∧ d.Grows e ∧ e.bodies = d.bodies ∧
    ∀ x ∈ e.texts, (e.filling? x).isSome := by
  have hfilled := run_remaining (o := o) ha hd.sane
  rw [hrun] at hfilled
  obtain ⟨hfills, hsome⟩ := hfilled
  have hknows : ∀ s ∈ d.arena.table.programs, a.table.Knows s.program := by
    intro s hs
    obtain ⟨x, hx, hs⟩ := List.mem_filterMap.1 hs
    rw [Table.find?, hd.sane.stored] at hs
    exact (Table.has_of_find? ha hs).1.knows
  rw [remaining_eq] at hrun
  obtain ⟨he, hgrows, hbodies⟩ := run_valueSlots_grows hd hknows hrun
  exact ⟨he, hgrows, hbodies, fun x hx => hsome x (hfills.texts ▸ hx)⟩

lemma sound_start (ha : a.Held a.table) : (start a).Sound a c where
  sane := (twin_start ha {}).left
  able h := by
    have htexts : (start a).texts = [] := ha.slots
    have hmem := mem_texts_of_filling? h
    rw [htexts] at hmem
    exact absurd hmem List.not_mem_nil
  runs runs hruns := absurd hruns (Array.not_mem_empty runs)
  watcher r hr := absurd hr List.not_mem_nil
  root := (twin_start ha {}).root

/-- What the root consists of. -/
def rootParts (o : Options) (ns : List Markup.Node) : Build (List Instruction × Option Nat) := do
  let children ← nodes o ns
  let watch ← watch (some 0)
  return (children, watch)

lemma run_bodiesOnly {ns : List Markup.Node} {d e : Construction} {u : Unit}
    (hrun : (bodiesOnly o ns).run d = .ok (u, e)) : ∃ children watch d',
      (rootParts o ns).run d = .ok ((children, watch), d') ∧ e = withRoot d' children watch := by
  rw [bodiesOnly, run_bind] at hrun
  rw [rootParts, run_bind]
  cases hr : (nodes o ns).run d with
  | error g =>
    rw [hr] at hrun
    cases hrun
  | ok r =>
    obtain ⟨children, d'⟩ := r
    rw [hr] at hrun
    simp only at hrun ⊢
    rw [run_bind] at hrun ⊢
    cases hr' : (watch (some 0)).run d' with
    | error g =>
      rw [hr'] at hrun
      cases hrun
    | ok r =>
      obtain ⟨watch, d''⟩ := r
      rw [hr'] at hrun
      cases hrun
      exact ⟨children, watch, d'', rfl, rfl⟩

/-- Building goes through the nodes, puts the root in its place and compiles what is left. -/
lemma run_rootParts {ns : List Markup.Node} {u : Unit} {f : Construction}
    (hrun : (bodies o ns).run { arena := a } = .ok (u, f)) : ∃ children watch d,
      (rootParts o ns).run (start a) = .ok ((children, watch), d) ∧
      (remaining o).run (d.withRoot children watch) = .ok ((), f) := by
  rw [run_bodies, run_bind] at hrun
  cases hr : (bodiesOnly o ns).run (start a) with
  | error g =>
    rw [hr] at hrun
    cases hrun
  | ok r =>
    obtain ⟨⟨⟩, e⟩ := r
    rw [hr] at hrun
    obtain ⟨children, watch, d, hparts, rfl⟩ := run_bodiesOnly hr
    exact ⟨children, watch, d, hparts, hrun⟩

/-- The root that is put in its place was there as a root before. -/
lemma sound_withRoot {d : Construction} (hd : d.Sound a c) (children : List Instruction)
    (watch : Option Nat) :
    (d.withRoot children watch).Sound a c ∧ d.Grows (d.withRoot children watch) := by
  refine ⟨hd.congr rfl rfl hd.runs hd.watcher (rooted_set hd.root rfl),
    .of_eq rfl rfl (Nat.le_refl _) ?_⟩
  intro k b hb
  obtain ⟨root, rest, hlist, hroot, -⟩ := hd.root
  rw [Construction.withRoot, Array.getElem?_setIfInBounds]
  split
  · next hzero =>
    subst hzero
    obtain ⟨hlt, -⟩ := Array.getElem?_eq_some_iff.1 hb
    rw [← Array.getElem?_toList, hlist] at hb
    cases hb
    exact ⟨_, if_pos hlt, hroot.symm⟩
  · exact ⟨b, hb, rfl⟩

lemma bodiesFit_start (f : Construction) : BodiesFit f (start a).bodies := by
  intro k b hb
  obtain ⟨hlt, rfl⟩ := Array.getElem?_eq_some_iff.1 hb
  obtain rfl : k = 0 := Nat.lt_one_iff.1 hlt
  exact ⟨fun _ hi => absurd hi List.not_mem_nil, nofun, rfl⟩

/-- What building ends with: all slots are filled, and all bodies refer to what is in the tables. -/
theorem run_bodies_sound (ha : a.Held a.table) {ns : List Markup.Node}
    (h : Node.AllOf a.table.Knows ns)
    {u : Unit} {f : Construction} (hrun : (bodies o ns).run { arena := a } = .ok (u, f)) :
    f.Sound a (code o) ∧ (∀ x ∈ f.texts, (f.filling? x).isSome) ∧ BodiesFit f f.bodies := by
  obtain ⟨children, watch, d, hparts, hrun⟩ := run_rootParts hrun
  have hmakes : Makes a (code o) f (fun _ => True) (rootParts o ns) fun n r =>
      (∀ i ∈ r.1, i.AllWithin (f.tables n)) ∧ ∀ w ∈ r.2, w < f.watches.size :=
    makes_bind (makes_nodes ha h) fun is => makes_bind (makes_watch ha (some 0)) fun w =>
      makes_pure fun n ⟨⟨_, his⟩, hw⟩ => ⟨his, hw⟩
  obtain ⟨hd, -, hfits⟩ := hmakes _ _ _ (sound_start ha) hparts
  obtain ⟨hsound, hgrows⟩ := sound_withRoot hd children watch
  obtain ⟨hf, hgrows', hbodies, hfilled⟩ := run_remaining_grows ha.own hsound hrun
  obtain ⟨hfits, hroot⟩ := hfits (hgrows.trans hgrows') (fun _ _ => trivial) (bodiesFit_start f)
  refine ⟨hf, hfilled, fun k b hb => ?_⟩
  rw [hbodies, Construction.withRoot, Array.getElem?_setIfInBounds] at hb
  split at hb
  · next hzero =>
    subst hzero
    split at hb
    · cases hb
      obtain ⟨hchild, hwatch⟩ := hroot f.bodies.size (hgrows.trans hgrows').size
      exact ⟨hchild, hwatch, rfl⟩
    · cases hb
  · exact hfits k b hb

end Build

/-! ### Well-formed descriptions -/

/-- A body passes another one as content, at any depth.  Watching goes from bodies to what they
pass. -/
def Refers (d : Description) (k i : Nat) : Prop :=
  ∃ b, d.bodies[k]? = some b ∧ ∃ j ∈ b.children, ∃ j', j.Holds j' ∧ ∃ ref ∈ j'.contents,
    ref.body = i

/-- The attributes of a description, at any depth. -/
def HasAttr (d : Description) (v : AttrValue) : Prop :=
  ∃ b ∈ d.bodies, ∃ i ∈ b.children, ∃ j, i.Holds j ∧ ∃ name, ⟨name, v⟩ ∈ j.attrs

/-- A description in which everything is in its place.  `programs` are those that have slots. -/
structure WellFormed (d : Description) (programs : List Stored) : Prop where
  /-- as it is written down it passes all checks -/
  passes : d.toDraft.check = .ok ()
  /-- its bodies are read as they are written down -/
  drafted : (d.toDraft.bodies.filterMap fun b => b.map Draft.Body.toBody) = d.bodies.toList
  size : d.expressions.size = programs.length
  /-- every slot has the entry of its program -/
  entry : ∀ (i : Nat) (s : Stored), programs[i]? = some s →
    ∃ e, d.expressions[i]? = some e ∧ e.program = s.program ∧ e.source = s.program.text
  /-- events call handlers -/
  called : ∀ slot, d.HasAttr (.event slot) → ∃ e, d.expressions[slot]? = some e ∧ e.handler.isSome
  /-- bindings write to targets -/
  bound : ∀ slot binding, d.HasAttr (.bind slot binding) → ∃ e, d.expressions[slot]? = some e ∧
    e.target.isSome
  /-- watched slots exist, and stand in increasing order -/
  watched : ∀ runs ∈ d.watches, RunsFit d.expressions.size runs
  /-- but for the root, bodies pass content that stands before them -/
  content : ∀ k i, 0 < k → d.Refers k i → 0 < i ∧ i < k ∧ ∃ b, d.bodies[i]? = some b ∧
    b.kind = .content
  /-- watching comes to an end -/
  wellFounded : WellFounded fun i k => d.Refers k i

lemma Instruction.Within.attr {T : Tables} {i : Instruction} (h : i.Within T) :
    ∀ a ∈ i.attrs, a.value.Within T := by
  cases i with
  | element key name as children void => exact h
  | component key name c => exact Call.Within.attr h
  | partialCall key t c => exact h.2.attr
  | _ => exact fun _ ha => absurd ha List.not_mem_nil

lemma Instruction.Within.content {T : Tables} {i : Instruction} (h : i.Within T) :
    ∀ ref ∈ i.contents, T.content ref.body := by
  cases i with
  | component key name c => exact Call.Within.content h
  | partialCall key t c => exact h.2.content
  | _ => exact fun _ href => absurd href List.not_mem_nil

/-- Options that are all there are what filtering leaves. -/
lemma map_some_filterMap {α : Type} {l : List (Option α)} (h : ∀ x ∈ l, x.isSome) :
    (l.filterMap fun x => x).map some = l := by
  induction l with
  | nil => rfl
  | cons x l ih =>
    obtain ⟨y, rfl⟩ := Option.isSome_iff_exists.1 (h x List.mem_cons_self)
    exact congrArg (some y :: ·) (ih fun z hz => h z (List.mem_cons_of_mem _ hz))

section

open Construction Build

variable {α : Type} {an : Annotated α}

/-- When all slots are filled, the table has no entry that is missing, and one entry for each slot.
-/
lemma Construction.map_some_expressions (o : Options) (an : Annotated α) (hf : f.Sound a c)
    (hfilled : ∀ x ∈ f.texts, (f.filling? x).isSome) :
    (finished o an f).expressions.map some = f.expressions ∧
      (finished o an f).expressions.size = f.texts.length := by
  have hentry : ∀ i < f.texts.length, f.expressions[i]?.join.isSome := by
    intro i hi
    rw [← filling?_of_getElem? hf.sane (List.getElem?_eq_getElem hi)]
    exact hfilled _ (List.getElem_mem hi)
  have hsome : ∀ x ∈ f.expressions.toList, x.isSome := by
    intro x hx
    obtain ⟨i, hi, rfl⟩ := List.getElem_of_mem hx
    have hlt : i < f.expressions.size := hi
    have hjoin := hentry i (Nat.lt_of_lt_of_le hlt hf.sane.size)
    rw [Array.getElem?_eq_getElem hlt] at hjoin
    obtain ⟨e, he⟩ := Option.isSome_iff_exists.1 hjoin
    rw [Array.getElem_toList, Option.join_eq_some_iff.1 he |> Option.some.inj]
    rfl
  have hmap : (finished o an f).expressions.map some = f.expressions := by
    refine Array.toList_inj.1 ?_
    rw [Array.toList_map, finished, Array.toList_filterMap, map_some_filterMap hsome]
  refine ⟨hmap, ?_⟩
  rw [← Array.size_map (f := some), hmap]
  refine Nat.le_antisymm hf.sane.size ?_
  by_contra hlt
  have hjoin := hentry f.expressions.size (Nat.lt_of_not_le hlt)
  rw [Array.getElem?_eq_none (Nat.le_refl _)] at hjoin
  cases hjoin

/-- The programs of the table are those that stand for the texts of the slots, in their order. -/
lemma Construction.map_some_programs (hf : f.Sound a c) :
    f.arena.table.programs.map some = f.texts.map a.table.find? := by
  have hfind : f.arena.table.find? = a.table.find? := by
    funext x
    rw [Table.find?, hf.sane.stored, Table.find?]
  have hsome : ∀ x ∈ f.texts.map a.table.find?, x.isSome := by
    intro x hx
    obtain ⟨y, hy, rfl⟩ := List.mem_map.1 hx
    exact hf.sane.known y hy
  rw [← map_some_filterMap hsome, List.filterMap_map, Table.programs, hfind]
  rfl

/-- A finished description has all bodies, and its texts say what stands in them. -/
lemma Construction.getElem?_bodies (o : Options) (an : Annotated α) (f : Construction) (k : Nat) :
    (finished o an f).bodies[k]? = (f.bodies[k]?).map fun b => { b with source := b.text } := by
  rw [finished, Array.getElem?_map]

lemma bodiesFit_finished (o : Options) (an : Annotated α) (hfits : BodiesFit f f.bodies) :
    BodiesFit f (finished o an f).bodies := by
  intro k b hb
  rw [getElem?_bodies] at hb
  obtain ⟨b', hb', rfl⟩ := Option.map_eq_some_iff.1 hb
  obtain ⟨hchild, hwatch, hkind⟩ := hfits k b' hb'
  exact ⟨hchild, hwatch, hkind⟩

/-- A finished description has what the tables say. -/
lemma Construction.tables_in (o : Options) (an : Annotated α) (hf : f.Sound a c)
    (hfilled : ∀ x ∈ f.texts, (f.filling? x).isSome) (n : Nat) :
    (f.tables n).In (finished o an f).toDraft where
  slot i hi := by
    rw [toDraft, List.length_map, Array.length_toList, (map_some_expressions o an hf hfilled).2]
    exact hi
  watch i hi := hi
  content i hi := by
    obtain ⟨-, -, b, hb, hkind⟩ := hi
    refine ⟨Body.toDraft { b with source := b.text }, ?_, ?_⟩
    · rw [toDraft, List.getElem?_map, Array.getElem?_toList, getElem?_bodies, hb]
      rfl
    · rw [Body.toDraft, hkind]
      rfl

/-- The roots of what is written down. -/
lemma countP_toDraft {d : Description}
    (hkind : ∀ b ∈ d.bodies, BodyKind.ofName b.kind.name = b.kind) :
    d.toDraft.bodies.countP (fun b => b.any (·.kind == "ROOT")) = d.rootCount := by
  rw [toDraft, List.countP_map, rootCount]
  refine List.countP_congr fun b hb => ?_
  have hofName := hkind b (Array.mem_def.2 hb)
  rw [Function.comp_apply, Option.any_some, Body.toDraft]
  simp only [beq_iff_eq]
  constructor
  · intro hname
    rw [← hofName, hname]
    rfl
  · intro hroot
    rw [hroot]
    rfl

/-- What is written down of a finished description passes all checks. -/
lemma check_finished (o : Options) (an : Annotated α) (hf : f.Sound a c)
    (hfilled : ∀ x ∈ f.texts, (f.filling? x).isSome) (hfits : BodiesFit f f.bodies) :
    (finished o an f).toDraft.check = .ok () := by
  have hfits := bodiesFit_finished o an hfits
  have hat : ∀ b ∈ (finished o an f).bodies, ∃ k, BodyFits f k b := by
    intro b hb
    obtain ⟨k, hk⟩ := Array.getElem?_of_mem hb
    exact ⟨k, hfits k b hk⟩
  refine Draft.check_iff.2 ⟨rfl, fun b hb => ?_, ?_, fun runs hruns run hrun n hn => ?_⟩
  · obtain ⟨b, hmem, rfl⟩ := List.mem_map.1 hb
    obtain ⟨k, hchild, hwatch, -⟩ := hat b (Array.mem_def.2 hmem)
    have hT := tables_in o an hf hfilled (f.reach k)
    refine Draft.checkBody_iff.2 ⟨checkWatch_slotNumber hT hwatch, ?_⟩
    exact Draft.checkInstructions_iff.1 (checkInstructions_toDraft hT hchild)
  · rw [countP_toDraft fun b hb => (hat b hb).choose_spec.kind]
    exact rootCount_eq_one (rooted_map hf.root)
  · have hT := tables_in o an hf hfilled 0
    obtain ⟨hnonneg, hlt⟩ := (hf.runs runs (Array.mem_def.2 hruns)).written run hrun n hn
    obtain ⟨m, rfl⟩ := Int.eq_ofNat_of_zero_le hnonneg
    exact checkSlot_natCast hT (Int.ofNat_lt.1 hlt)

/-- The bodies of a finished description are read as they are written down. -/
lemma toBody_finished (o : Options) (an : Annotated α) (hfits : BodiesFit f f.bodies) :
    ((finished o an f).toDraft.bodies.filterMap fun b => b.map Draft.Body.toBody) =
    (finished o an f).bodies.toList := by
  rw [toDraft, List.filterMap_map]
  have hread : ∀ b ∈ (finished o an f).bodies.toList, b.toDraft.toBody = b := by
    intro b hb
    obtain ⟨k, hk⟩ := List.getElem?_of_mem hb
    rw [Array.getElem?_toList] at hk
    obtain ⟨hchild, -, hkind⟩ := bodiesFit_finished o an hfits k b hk
    exact toBody_toDraft hkind hchild
  calc (finished o an f).bodies.toList.filterMap (fun b => some b.toDraft.toBody)
      = (finished o an f).bodies.toList.map fun b => b.toDraft.toBody :=
        congrFun List.filterMap_eq_map _
    _ = (finished o an f).bodies.toList.map fun b => b := List.map_congr_left hread
    _ = (finished o an f).bodies.toList := List.map_id' _

/-- What a finished description passes as content. -/
lemma content_of_refers (hfits : BodiesFit f f.bodies) {k i : Nat}
    (h : (finished o an f).Refers k i) :
    (f.tables (f.reach k)).content i := by
  obtain ⟨b, hb, j, hj, j', hjj', ref, href, rfl⟩ := h
  exact ((bodiesFit_finished o an hfits k b hb).child j hj j' hjj').content ref href

/-- What an attribute refers to is in the tables. -/
lemma within_of_hasAttr (hfits : BodiesFit f f.bodies) {v : AttrValue}
    (h : (finished o an f).HasAttr v) :
    ∃ n, v.Within (f.tables n) := by
  obtain ⟨b, hb, i, hi, j, hij, name, ha⟩ := h
  obtain ⟨k, hk⟩ := Array.getElem?_of_mem hb
  exact ⟨_, ((bodiesFit_finished o an hfits k b hk).child i hi j hij).attr _ ha⟩

/-- All but the root pass what stands before them, so that going from body to body comes to an end.
-/
lemma wellFounded_refers (hfits : BodiesFit f f.bodies) : WellFounded fun i k =>
    (finished o an f).Refers k i := by
  refine Subrelation.wf (r := fun i k => (if i = 0 then f.bodies.size else i) < if k =
    0 then f.bodies.size else k) ?_
    (InvImage.wf _ Nat.lt_wfRel.wf)
  intro i k h
  obtain ⟨hpos, hlt, -⟩ := content_of_refers hfits h
  rw [if_neg (by omega)]
  exact hlt

lemma wellFormed_finished (o : Options) (an : Annotated α) (ha : a.table.Own) (hf : f.Sound a c)
    (hfilled : ∀ x ∈ f.texts, (f.filling? x).isSome) (hfits : BodiesFit f f.bodies) :
    WellFormed (finished o an f) f.arena.table.programs := by
  obtain ⟨-, hsize⟩ := map_some_expressions o an hf hfilled
  have hlength : f.arena.table.programs.length = f.texts.length := by
    rw [← List.length_map (f := some), map_some_programs hf, List.length_map]
  have hentry : ∀ {i : Nat} {x : String} {e : Expression}, f.texts[i]? = some x →
    f.filling? x = some e →
      (finished o an f).expressions[i]? = some e :=
        fun hi he => getElem?_expressions hf.sane hfilled hi he
  constructor
  · exact check_finished o an hf hfilled hfits
  · exact toBody_finished o an hfits
  · rw [hsize, hlength]
  · intro i s hs
    have hget : (f.arena.table.programs.map some)[i]? = some (some s) := by
      rw [List.getElem?_map, hs, Option.map_some]
    rw [map_some_programs hf, List.getElem?_map] at hget
    obtain ⟨x, hx, hfind⟩ := Option.map_eq_some_iff.1 hget
    obtain ⟨e, he⟩ := Option.isSome_iff_exists.1 (hfilled x (List.mem_of_getElem? hx))
    obtain ⟨hhas, htext⟩ := Table.has_of_find? ha hfind
    refine ⟨e, hentry hx he, program_of_filling? hf.sane hfind he, ?_⟩
    rw [(hf.sane.entry he).2, ← hhas.text_eq, htext]
  · intro slot h
    obtain ⟨n, -, x, e, hx, he, hevent⟩ := within_of_hasAttr hfits h
    exact ⟨e, hentry hx he, (hf.able he).event hevent⟩
  · intro slot binding h
    obtain ⟨n, -, x, e, hx, he, hbind⟩ := within_of_hasAttr hfits h
    exact ⟨e, hentry hx he, (hf.able he).bind hbind⟩
  · intro runs hruns
    rw [hsize]
    exact hf.runs runs hruns
  · intro k i hk h
    obtain ⟨hpos, hlt, b, hb, hkind⟩ := content_of_refers hfits h
    rw [Construction.reach, if_neg (by omega)] at hlt
    refine ⟨hpos, hlt, { b with source := b.text }, ?_, hkind⟩
    rw [getElem?_bodies, hb]
    rfl
  · exact wellFounded_refers hfits

/-- **Well-formed descriptions.** Whenever building an annotated template succeeds, no entry is
missing from the table that it leaves, and the description is well-formed for the programs that have
slots. -/
theorem wellFormed_ofAnnotated {module : String} {ns : List Markup.Node} {d : Description}
    (ha : Annotated.ofNodes module ns = .ok an) (hd : ofAnnotated o an = .ok d) :
    ∃ c, (Build.bodies o an.nodes).run { arena := an.arena } = .ok ((), c) ∧ d = finished o an c ∧
      c.expressions = d.expressions.map some ∧ d.WellFormed c.arena.table.programs := by
  obtain ⟨hheld, hknows⟩ := Annotated.held_ofNodes ha
  rw [ofAnnotated_eq] at hd
  cases hrun : (Build.bodies o an.nodes).run { arena := an.arena } with
  | error g =>
    rw [hrun] at hd
    cases hd
  | ok r =>
    obtain ⟨⟨⟩, c⟩ := r
    rw [hrun] at hd
    obtain rfl : finished o an c = d := Except.ok.inj hd
    obtain ⟨hc, hfilled, hfits⟩ := run_bodies_sound hheld hknows hrun
    exact ⟨c, rfl, rfl, (map_some_expressions o an hc hfilled).1.symm,
      wellFormed_finished o an hheld.own hc hfilled hfits⟩

/-- A form that a name is bound to, with a button that calls a function. -/
def boundForm : List Markup.Node :=
  let name : Span := ⟨1, 19, 1, 22⟩
  let save : Span := ⟨1, 42, 1, 45⟩
  let binding : Attribute := {
    name := "value", kind := .bind, raw := "name", line := 1, column := 7
    value := .program ⟨[.expr name (.ident name "name")], name, "name"⟩ }
  let event : Attribute := {
    name := "click", kind := .event, raw := "save", line := 1, column := 32
    value := .program ⟨[.expr save (.ident save "save")], save, "save"⟩ }
  [.component { key := "0", line := 1, column := 1 } "Form" [binding] []
    [.mk { key := "0", line := 1, column := 24 } "content"
      [.element { key := "0", line := 1, column := 24 } "button" [event] [] false]]]

theorem wellFormed_boundForm : ∃ (an : Annotated Unit) (d : Description) (c : Construction),
    Annotated.ofNodes "Form" boundForm = .ok an ∧ ofAnnotated { module := "Form" } an = .ok d ∧
      (Build.bodies { module := "Form" } an.nodes).run { arena := an.arena } = .ok ((), c) ∧
      c.expressions = d.expressions.map some ∧ d.WellFormed c.arena.table.programs := by
  have hok : ((Annotated.ofNodes "Form" boundForm : Except Fault (Annotated Unit)).bind fun an =>
      ofAnnotated { module := "Form" } an).isOk = true := by decide +kernel
  cases ha : (Annotated.ofNodes "Form" boundForm : Except Fault (Annotated Unit)) with
  | error g =>
    rw [ha] at hok
    cases hok
  | ok an =>
    rw [ha] at hok
    cases hd : ofAnnotated { module := "Form" } an with
    | error g =>
      rw [Except.bind, hd] at hok
      cases hok
    | ok d =>
      obtain ⟨c, hrun, -, hexpressions, hformed⟩ := wellFormed_ofAnnotated ha hd
      exact ⟨an, d, c, rfl, hd, hrun, hexpressions, hformed⟩

end

end Trellis.Description
