/-
Descriptions are read as they were written.

The document of a description leaves fields out that say nothing, and reading starts from a draft
that says nothing.  So reading the fields one after the other fills in what `toDraft` says
(`Draft.ReadsInto`), one lemma for each construct.  Numbers are 64 bits wide when they are read:
slots, bodies and watched runs have to be small (`Tables.Small`).  Constants have to be plain, since
any other number is not written and lists and records never are constants.
-/
import Trellis.Proofs.Description.Drafted
import Trellis.Proofs.Json.Text

namespace Trellis

/-- Whether a constant is a finite number, a text, a truth value or null. -/
def Datum.isPlain : Datum → Bool
  | .number x => !x.isNaN && !x.isInf
  | .null | .bool _ | .text _ => true
  | _ => false

/-- A plain constant can be written. -/
lemma Datum.isWritable_of_isPlain {v : Datum} (h : v.isPlain = true) :
    Json.isWritable v = true := by
  cases v with
  | number x => exact h
  | whole n => cases h
  | list ds => cases h
  | record fs => cases h
  | _ => rfl

/-- A plain constant is read as it was written. -/
lemma Datum.loose?_reread {v : Datum} (h : v.isPlain = true) : Json.loose? (Json.reread v) =
    some v := by
  cases v with
  | number x =>
    rw [isPlain, Bool.and_eq_true, Bool.not_eq_true', Bool.not_eq_true'] at h
    exact (Json.rereadNumber_spec (Text.finite_of_writable h.1 h.2)).2
  | whole n => cases h
  | list ds => cases h
  | record fs => cases h
  | _ => rfl

/-- The items of a list are less deep than the list. -/
lemma Datum.depth_le_of_mem {d : Datum} {ds : List Datum} (hd : d ∈ ds) :
    d.depth ≤ depthList ds := by
  induction ds with
  | nil => cases hd
  | cons e ds ih =>
    rw [depthList]
    rcases List.mem_cons.1 hd with rfl | hd
    · exact Nat.le_max_left _ _
    · exact Nat.le_trans (ih hd) (Nat.le_max_right _ _)

namespace Description

open Document
open Json (reread rereadFields rereadItems)

/-! ### Constants -/

/-- The constant of a part is plain, if it is one. -/
def Part.Plain (p : Part) : Prop := ∀ v, p = .value v → v.isPlain = true

/-- The parts that stand in an attribute. -/
def AttrValue.parts : AttrValue → List Part
  | .markup ps | .option ps | .other _ ps => ps
  | _ => []

mutual
/-- The parts that stand in a typed option. -/
def OptionValue.parts : OptionValue → List Part
  | .scalar _ ps => ps
  | .array items => optionParts items
  | .object properties => optionParts properties

def optionParts : List OptionSpec → List Part
  | [] => []
  | .mk _ v :: os => v.parts ++ optionParts os
end

/-- The parts that stand in what is called. -/
def Call.parts (c : Call) : List Part := c.attrs.flatMap (·.value.parts) ++ optionParts c.options

/-- The parts that stand in an instruction itself. -/
def Instruction.parts : Instruction → List Part
  | .text _ ps => ps
  | .element _ _ as _ _ => as.flatMap (·.value.parts)
  | .component _ _ c | .partialCall _ _ c => c.parts
  | _ => []

/-- All constants in an instruction and below it are plain. -/
def Instruction.AllPlain (i : Instruction) : Prop := ∀ j, i.Holds j → ∀ p ∈ j.parts, p.Plain

/-- All tables are small enough for their numbers to be read. -/
structure Tables.Small (T : Tables) : Prop where
  slot : ∀ n, T.slot n → n < 2 ^ 63
  watch : ∀ n, T.watch n → n < 2 ^ 63
  content : ∀ n, T.content n → n < 2 ^ 63

namespace Draft

/-! ### Fields -/

/-- A document that can be written, and that gives a value when it is read over an old one. -/
structure ReadAs {α : Type} (item : Over α) (old : α) (d : Datum) (a : α) : Prop where
  writable : Json.isWritable d = true
  read : item old (reread d) = some a

/-- Reading the fields `fs`, which have only the names `ts`, one after the other makes `b` of `a`.
-/
structure ReadsInto {α : Type} (field : String → Over α) (ts : List String)
    (fs : List (String × Datum))
    (a b : α) : Prop where
  name : ∀ f ∈ fs, f.1.map foldChar ∈ ts
  writable : Json.fieldsWritable fs = true
  run : (rereadFields fs).foldlM (fun a f => field (f.1.map foldChar) a f.2) a = some b

/-- Reading the items one after the other gives `ys`. -/
structure ItemsRead {β : Type} (blank : β) (item : Over β) (ds : List Datum) (ys : List β) :
    Prop where
  writable : Json.areWritable ds = true
  read : itemsOver blank item [] (rereadItems ds) = some ys

section

variable {α β : Type} {field : String → Over α} {ts us : List String}
  {fs gs : List (String × Datum)}
  {a b c : α} {name : String} {blank : β} {item : Over β}

lemma rereadFields_append (fs gs : List (String × Datum)) :
    rereadFields (fs ++ gs) = rereadFields fs ++ rereadFields gs := by
  induction fs with
  | nil => rfl
  | cons f fs ih =>
    rcases f with ⟨name, d⟩
    rw [List.cons_append, rereadFields, rereadFields, ih, List.cons_append]

lemma fieldsWritable_append (fs gs : List (String × Datum)) :
    Json.fieldsWritable (fs ++ gs) = (Json.fieldsWritable fs && Json.fieldsWritable gs) := by
  induction fs with
  | nil => rfl
  | cons f fs ih =>
    rcases f with ⟨name, d⟩
    rw [List.cons_append, Json.fieldsWritable, Json.fieldsWritable, ih, Bool.and_assoc]

lemma ReadsInto.append (h : ReadsInto field ts fs a b) (h' : ReadsInto field us gs b c) :
    ReadsInto field (ts ++ us) (fs ++ gs) a c := by
  constructor
  · intro f hf
    rcases List.mem_append.1 hf with hf | hf
    · exact List.mem_append_left _ (h.name f hf)
    · exact List.mem_append_right _ (h'.name f hf)
  · rw [fieldsWritable_append, h.writable, h'.writable]
    rfl
  · rw [rereadFields_append, List.foldlM_append, h.run]
    exact h'.run

lemma map_foldChar {t : String} (h : name.toList.map foldChar = t.toList) :
    name.map foldChar = t := by
  rw [← String.toList_inj, String.toList_map, h]

/-- No fields. -/
lemma ReadsInto.nil (t : String) : ReadsInto field [t] [] a a :=
  ⟨fun _ hf => absurd hf List.not_mem_nil, rfl, rfl⟩

/-- One field before others. -/
lemma ReadsInto.cons {f : String × Datum} (h : ReadsInto field ts [f] a b)
    (h' : ReadsInto field us gs b c) :
    ReadsInto field (ts ++ us) (f :: gs) a c := h.append h'

/-- One field.  `t` is its name as names are compared. -/
lemma readsInto_field {d : Datum} (t : String) (hname : name.toList.map foldChar = t.toList)
    (h : ReadAs (field t) a d b) : ReadsInto field [t] [(name, d)] a b := by
  constructor
  · intro f hf
    obtain rfl := List.mem_singleton.1 hf
    rw [map_foldChar hname]
    exact List.mem_singleton_self t
  · rw [Json.fieldsWritable, h.writable]
    rfl
  · rw [rereadFields, List.foldlM_cons, map_foldChar hname, h.read]
    rfl

/-- One field, which is read over what stands there. -/
lemma readsInto_over {old v : β} {set : β → α} {d : Datum} (t : String)
    (hname : name.toList.map foldChar = t.toList)
    (hfield : ∀ d, field t a d = (item old d >>= fun v => pure (set v))) (h : ReadAs item old d v)
    (hb : set v = b) : ReadsInto field [t] [(name, d)] a b := by
  refine readsInto_field t hname ⟨h.writable, ?_⟩
  rw [hfield, h.read, ← hb]
  rfl

/-- A text that is left out if it is empty. -/
lemma readsInto_textField {s : String} (t : String) (hname : name.toList.map foldChar = t.toList)
    (h : field t a (.text s) = some b) (hskip : s = "" → b = a) : ReadsInto field [t]
    (textField name s) a b := by
  rw [textField]
  split
  · next hempty =>
    rw [hskip (String.isEmpty_iff.1 hempty)]
    exact .nil t
  · exact readsInto_field t hname ⟨rfl, h⟩

/-- A truth value that is left out if it is false. -/
lemma readsInto_flagField {v : Bool} (t : String) (hname : name.toList.map foldChar = t.toList)
    (h : field t a (.bool v) = some b) (hskip : v = false → b = a) : ReadsInto field [t]
    (flagField name v) a b := by
  rw [flagField]
  cases v with
  | false =>
    rw [hskip rfl]
    exact .nil t
  | true => exact readsInto_field t hname ⟨rfl, h⟩

/-- A small number. -/
lemma readAs_int {n : Int} (hn : n.natAbs < 2 ^ 63) (old : Int) : ReadAs int old (.whole n) n := by
  have hsmall : n.natAbs < power 2 63 := hn
  have hreread : reread (.whole n) = .whole n := rfl
  refine ⟨rfl, ?_⟩
  rw [hreread, int, decide_eq_true hsmall, Bool.true_or, if_pos rfl]

/-- A small number that is left out if it is zero. -/
lemma readsInto_intField {n old : Int} {set : Int → α} (t : String)
    (hname : name.toList.map foldChar = t.toList)
    (hfield : ∀ d, field t a d = (int old d >>= fun v => pure (set v))) (hskip : set 0 = a)
    (hn : n.natAbs < 2 ^ 63) (hb : set n = b) : ReadsInto field [t] (intField name n) a b := by
  rw [intField]
  split
  · next hzero =>
    rw [← hb, beq_iff_eq.1 hzero, hskip]
    exact .nil t
  · exact readsInto_over t hname hfield (readAs_int hn old) hb

lemma itemsRead_nil : ItemsRead blank item [] [] := ⟨rfl, rfl⟩

lemma itemsRead_cons {d : Datum} {ds : List Datum} {y : β} {ys : List β} (h : ReadAs item blank d y)
    (hs : ItemsRead blank item ds ys) : ItemsRead blank item (d :: ds) (y :: ys) := by
  constructor
  · rw [Json.areWritable, h.writable, hs.writable]
    rfl
  · rw [rereadItems, itemsOver, List.headD_nil, h.read, List.drop_nil, hs.read]
    rfl

lemma itemsRead_map {γ : Type} {f : γ → Datum} {g : γ → β} {xs : List γ}
    (h : ∀ x ∈ xs, ReadAs item blank (f x) (g x)) : ItemsRead blank item (xs.map f) (xs.map g) := by
  induction xs with
  | nil => exact itemsRead_nil
  | cons x xs ih =>
    exact itemsRead_cons (h x List.mem_cons_self) (ih fun y hy => h y (List.mem_cons_of_mem _ hy))

/-- What is read as it is. -/
lemma itemsRead_self {f : β → Datum} {xs : List β} (h : ∀ x ∈ xs, ReadAs item blank (f x) x) :
    ItemsRead blank item (xs.map f) xs := by
  have hmap : ItemsRead blank item (xs.map f) (xs.map id) := itemsRead_map h
  rwa [List.map_id] at hmap

lemma itemsRead_texts (xs : List String) : ItemsRead "" text (xs.map .text) xs :=
  itemsRead_self fun _ _ => ⟨rfl, rfl⟩

lemma readAs_list {ds : List Datum} {ys : List β} (h : ItemsRead blank item ds ys) :
    ReadAs (list blank item) [] (.list ds) ys := by
  refine ⟨h.writable, ?_⟩
  rw [reread]
  exact h.read

lemma readAs_listOrNull {ds : List Datum} {ys : List β} (h : ItemsRead blank item ds ys) :
    ReadAs (list blank item) [] (listOrNull ds) ys := by
  cases ds with
  | nil =>
    obtain rfl : [] = ys := Option.some.inj h.read
    exact ⟨rfl, rfl⟩
  | cons d ds => exact readAs_list h

/-- A list that is left out if it is empty. -/
lemma readsInto_listField {ds : List Datum} {ys : List β} {set : List β → α} (t : String)
    (hname : name.toList.map foldChar = t.toList)
    (hfield : ∀ d, field t a d = (list blank item [] d >>= fun v => pure (set v)))
    (hskip : set [] = a) (h : ItemsRead blank item ds ys) (hb : set ys = b) : ReadsInto field [t]
    (listField name ds) a b := by
  rw [listField]
  split
  · next hempty =>
    obtain rfl := List.isEmpty_iff.1 hempty
    obtain rfl : [] = ys := Option.some.inj h.read
    rw [← hb, hskip]
    exact .nil t
  · exact readsInto_over t hname hfield (readAs_list h) hb

/-- A record is read by its fields. -/
lemma ReadsInto.record (h : ReadsInto field ts fs a b) :
    ReadAs (Draft.record field) a (.record fs) b := by
  refine ⟨h.writable, ?_⟩
  rw [reread]
  exact h.run

/-- What is there is read over a blank. -/
lemma ReadAs.some {fs : List (String × Datum)} {y : β} (h : ReadAs item blank (.record fs) y) :
    ReadAs (optional blank item) none (.record fs) (some y) := by
  refine ⟨h.writable, ?_⟩
  have hread := h.read
  rw [reread] at hread ⊢
  rw [optional, Option.getD_none, hread]
  · rfl
  · nofun

end

end Draft

/-! ### Parts and attributes -/

section

variable {T : Tables} (hT : T.Small)

include hT

lemma natAbs_slot {n : Nat} (h : T.slot n) : (n : Int).natAbs < 2 ^ 63 := by
  rw [Int.natAbs_natCast]
  exact hT.slot n h

lemma natAbs_slotNumber {clause : Option Nat} (h : ∀ n ∈ clause, T.slot n) :
    (slotNumber clause).natAbs < 2 ^ 63 := by
  cases clause with
  | none => exact (by norm_num : 1 < 2 ^ 63)
  | some n => exact natAbs_slot hT (h n rfl)

lemma natAbs_watchNumber {watch : Option Nat} (h : ∀ w ∈ watch, T.watch w) :
    (slotNumber watch).natAbs < 2 ^ 63 := by
  cases watch with
  | none => exact (by norm_num : 1 < 2 ^ 63)
  | some w =>
    rw [slotNumber, Int.natAbs_natCast]
    exact hT.watch w (h w rfl)

lemma part_toDraft {p : Part} (hp : p.Within T) (hplain : p.Plain) :
    Draft.ReadAs Draft.part {} (part p) p.toDraft := by
  cases p with
  | text s =>
    exact Draft.ReadsInto.record
      (.append (.append (Draft.readsInto_field "kind" (by decide) ⟨rfl, rfl⟩)
      (Draft.readsInto_textField "text" (by decide) rfl (by rintro rfl; rfl)))
      (Draft.readsInto_field "value" (by decide) ⟨rfl, rfl⟩))
  | value v =>
    have hvalue : ∀ old, Draft.ReadAs Draft.constant old v v := fun _ =>
      ⟨Datum.isWritable_of_isPlain (hplain v rfl), Datum.loose?_reread (hplain v rfl)⟩
    exact Draft.ReadsInto.record (.cons (Draft.readsInto_field "kind" (by decide) ⟨rfl, rfl⟩)
      (Draft.readsInto_over "value" (by decide) (fun _ => rfl) (hvalue _) rfl))
  | expr slot trusted =>
    exact Draft.ReadsInto.record (.append (.append (.cons
      (Draft.readsInto_field "kind" (by decide) ⟨rfl, rfl⟩)
      (Draft.readsInto_field "value" (by decide) ⟨rfl, rfl⟩))
      (Draft.readsInto_intField "expr" (by decide) (fun _ => rfl) rfl (natAbs_slot hT hp) rfl))
      (Draft.readsInto_flagField "unsafe" (by decide) rfl (by rintro rfl; rfl)))
  | translation s context =>
    exact Draft.ReadsInto.record
      (.append (.append (.append (Draft.readsInto_field "kind" (by decide) ⟨rfl, rfl⟩)
      (Draft.readsInto_textField "text" (by decide) rfl (by rintro rfl; rfl)))
      (Draft.readsInto_textField "context" (by decide) rfl (by rintro rfl; rfl)))
      (Draft.readsInto_field "value" (by decide) ⟨rfl, rfl⟩))
  | other kind => exact hp.elim

/-- Parts are read in any list. -/
lemma parts_toDraft {ps : List Part} (h : ∀ p ∈ ps, p.Within T) (hplain : ∀ p ∈ ps, p.Plain) :
    Draft.ItemsRead {} Draft.part (ps.map part) (ps.map Part.toDraft) :=
  Draft.itemsRead_map fun p hp => part_toDraft hT (h p hp) (hplain p hp)

omit hT in
lemma binding_readAs (b : Binding) : Draft.ReadAs Draft.binding Draft.noBinding (binding b) b := by
  have hpath : ∀ old : Option (List String), old = none → 
      Draft.ReadAs (Draft.optional [] (Draft.list "" Draft.text)) old
          ((b.path.map texts).getD .null) b.path := by
    rintro old rfl
    cases b.path with
    | none => exact ⟨rfl, rfl⟩
    | some path =>
      have htexts := Draft.readAs_list (Draft.itemsRead_texts path)
      refine ⟨htexts.writable, ?_⟩
      have hread := htexts.read
      rw [reread] at hread
      rw [Option.map_some, Option.getD_some, texts, reread, Draft.optional, Option.getD_none, hread]
      · rfl
      · nofun
  exact Draft.ReadsInto.record (.cons (Draft.readsInto_field "fieldname" (by decide) ⟨rfl, rfl⟩)
    (.cons (Draft.readsInto_field "fullpropname" (by decide) ⟨rfl, rfl⟩)
    (.cons (Draft.readsInto_over "proppath" (by decide) (fun _ => rfl) (hpath _ rfl) rfl)
    (.cons (Draft.readsInto_field "oneway" (by decide) ⟨rfl, rfl⟩)
    (.cons (Draft.readsInto_field "direction" (by decide) ⟨rfl, rfl⟩)
    (Draft.readsInto_field "hasdefault" (by decide) ⟨rfl, rfl⟩))))))

lemma attr_toDraft {a : Attr} (h : a.value.Within T) (hplain : ∀ p ∈ a.value.parts, p.Plain) :
    Draft.ReadAs Draft.attr {} (attr a) a.toDraft := by
  rcases a with ⟨name, v⟩
  cases v with
  | markup ps =>
    exact Draft.ReadsInto.record (.cons (Draft.readsInto_field "name" (by decide) ⟨rfl, rfl⟩)
      (.cons (Draft.readsInto_field "kind" (by decide) ⟨rfl, rfl⟩)
      (Draft.readsInto_listField "segments" (by decide) (fun _ =>
        rfl) rfl (parts_toDraft hT h hplain) rfl)))
  | option ps =>
    exact Draft.ReadsInto.record (.cons (Draft.readsInto_field "name" (by decide) ⟨rfl, rfl⟩)
      (.cons (Draft.readsInto_field "kind" (by decide) ⟨rfl, rfl⟩)
      (Draft.readsInto_listField "segments" (by decide) (fun _ =>
        rfl) rfl (parts_toDraft hT h hplain) rfl)))
  | bind slot binding =>
    refine Draft.ReadsInto.record (.cons (Draft.readsInto_field "name" (by decide) ⟨rfl, rfl⟩)
      (.cons (Draft.readsInto_field "kind" (by decide) ⟨rfl, rfl⟩)
      (.append (Draft.readsInto_intField "expr" (by decide) (fun _ =>
        rfl) rfl (natAbs_slot hT h.1) rfl)
        (?_ : Draft.ReadsInto _ ["binding"] _ _ _))))
    cases binding with
    | none => exact .nil "binding"
    | some b =>
      exact Draft.readsInto_over "binding" (by decide) (fun _ => rfl) (binding_readAs b).some rfl
  | event slot =>
    exact Draft.ReadsInto.record (.cons (Draft.readsInto_field "name" (by decide) ⟨rfl, rfl⟩)
      (.cons (Draft.readsInto_field "kind" (by decide) ⟨rfl, rfl⟩)
      (Draft.readsInto_intField "expr" (by decide) (fun _ => rfl) rfl (natAbs_slot hT h.1) rfl)))
  | other kind ps => exact h.elim

lemma content_toDraft {ref : ContentRef} (h : T.content ref.body) :
    Draft.ReadAs Draft.content {} (content ref) ref.toDraft := by
  have hbody : (ref.body : Int).natAbs < 2 ^ 63 := by
    rw [Int.natAbs_natCast]
    exact hT.content _ h
  exact Draft.ReadsInto.record (.cons (Draft.readsInto_field "name" (by decide) ⟨rfl, rfl⟩)
    (Draft.readsInto_over "body" (by decide) (fun _ => rfl) (Draft.readAs_int hbody _) rfl))

end

/-! ### How deep documents are -/

lemma depthFields_append (fs gs : List (String × Datum)) :
    Datum.depthFields (fs ++ gs) = max (Datum.depthFields fs) (Datum.depthFields gs) := by
  induction fs with
  | nil => rw [List.nil_append, Datum.depthFields, Nat.zero_max]
  | cons f fs ih =>
    rcases f with ⟨name, d⟩
    rw [List.cons_append, Datum.depthFields, Datum.depthFields, ih, Nat.max_assoc]

lemma depthList_le_listOrNull (ds : List Datum) : Datum.depthList ds ≤ (listOrNull ds).depth := by
  cases ds with
  | nil => exact Nat.zero_le _
  | cons d ds =>
    rw [listOrNull, Datum.depth]
    · omega
    · nofun

/-- Reading deep enough for a record is reading deep enough for its fields. -/
lemma exists_depth {fs : List (String × Datum)} {depth : Nat}
    (h : (Datum.record fs).depth ≤ depth) :
    ∃ n, depth = n + 1 ∧ Datum.depthFields fs ≤ n := by
  rw [Datum.depth] at h
  cases depth with
  | zero => exact absurd h (Nat.not_succ_le_zero _)
  | succ n => exact ⟨n, rfl, Nat.le_of_succ_le_succ h⟩

/-- Reading deep enough for a record is reading deep enough for the items of its lists. -/
lemma exists_depth_listField {fs : List (String × Datum)} {depth : Nat}
    (h : (Datum.record fs).depth ≤ depth)
    (name : String) (ds : List Datum) (hfs : ∀ f ∈ listField name ds, f ∈ fs) :
    ∃ n, depth = n + 1 ∧ Datum.depthList ds ≤ n := by
  have hmax : ∀ f ∈ fs, f.2.depth ≤ Datum.depthFields fs := fun f hf => by
    obtain ⟨as, bs, rfl⟩ := List.append_of_mem hf
    rw [depthFields_append, Datum.depthFields]
    omega
  obtain ⟨n, rfl, hn⟩ := exists_depth h
  refine ⟨n, rfl, ?_⟩
  rw [listField] at hfs
  split at hfs
  · next hempty =>
    rw [List.isEmpty_iff.1 hempty, Datum.depthList]
    exact Nat.zero_le n
  · have hle := hmax _ (hfs _ (List.mem_singleton_self _))
    rw [Datum.depth] at hle
    omega

/-! ### Options -/

mutual
lemma optionValue_toDraft {T : Tables} (hT : T.Small) (name : String) :
    ∀ {v : OptionValue} (depth : Nat),
    (option (.mk name v)).depth ≤ depth → v.Within T → (∀ p ∈ v.parts, p.Plain) →
    Draft.ReadAs (Draft.option depth) .blank (option (.mk name v)) (v.toDraft name)
  | .scalar type ps, depth, hdepth, h, hplain => by
    obtain ⟨n, rfl, -⟩ := exists_depth hdepth
    exact Draft.ReadsInto.record
      (.append (Draft.readsInto_textField "name" (by decide) rfl (by rintro rfl; rfl))
      (.cons (Draft.readsInto_field "type" (by decide) ⟨rfl, rfl⟩)
      (Draft.readsInto_listField "segments" (by decide) (fun _ =>
        rfl) rfl (parts_toDraft hT h.2.2 hplain) rfl)))
  | .array items, depth, hdepth, h, hplain => by
    obtain ⟨n, rfl, hitems⟩ := exists_depth_listField hdepth "items" (Document.options items)
        fun _ hf =>
      List.mem_append_right _ (List.mem_cons_of_mem _ hf)
    exact Draft.ReadsInto.record
      (.append (Draft.readsInto_textField "name" (by decide) rfl (by rintro rfl; rfl))
      (.cons (Draft.readsInto_field "type" (by decide) ⟨rfl, rfl⟩)
      (Draft.readsInto_listField "items" (by decide) (fun _ => rfl) rfl
        (options_toDraft hT n hitems h hplain) rfl)))
  | .object properties, depth, hdepth, h, hplain => by
    obtain ⟨n, rfl, hproperties⟩ :=
        exists_depth_listField hdepth "properties" (Document.options properties) fun _ hf =>
      List.mem_append_right _ (List.mem_cons_of_mem _ hf)
    exact Draft.ReadsInto.record
      (.append (Draft.readsInto_textField "name" (by decide) rfl (by rintro rfl; rfl))
      (.cons (Draft.readsInto_field "type" (by decide) ⟨rfl, rfl⟩)
      (Draft.readsInto_listField "properties" (by decide) (fun _ => rfl) rfl
        (options_toDraft hT n hproperties h hplain) rfl)))

lemma options_toDraft {T : Tables} (hT : T.Small) : ∀ {os : List OptionSpec} (depth : Nat),
    Datum.depthList (Document.options os) ≤ depth → OptionsWithin T os →
    (∀ p ∈ optionParts os, p.Plain) →
    Draft.ItemsRead .blank (Draft.option depth) (Document.options os) (optionsToDraft os)
  | [], _, _, _, _ => Draft.itemsRead_nil
  | .mk name v :: os, depth, hdepth, ⟨hv, hos⟩, hplain => by
    rw [Document.options, Datum.depthList] at hdepth
    exact Draft.itemsRead_cons
      (optionValue_toDraft hT name depth (by omega) hv fun p hp =>
        hplain p (List.mem_append_left _ hp))
      (options_toDraft hT depth (by omega) hos fun p hp => hplain p (List.mem_append_right _ hp))
end

/-! ### Instructions -/

namespace Draft

/-- How the field of an instruction with a name is read, where what stands below it is read `depth`
deep. -/
def instructionField (depth : Nat) (name : String) (i : Instruction) (d : Datum) :
    Option Instruction :=
  let (h, children, arms) := i.parts
  match name with
  | "children" => do return .mk h (← list .null (instruction depth) children d) arms
  | "branches" => do return .mk h children (← list (.mk 0 [] 0) (arm (instruction depth)) arms d)
  | name => do return .mk (← head (depth + 1) name h d) children arms

variable {depth : Nat} {ts : List String} {fs : List (String × Datum)}

lemma ReadsInto.instruction {i : Instruction}
    (h : ReadsInto (instructionField depth) ts fs (.mk {} [] []) i) :
    ReadAs (Draft.instruction (depth + 1)) .null (.record fs) i := by
  refine ⟨h.writable, ?_⟩
  rw [reread]
  exact h.run

/-- Reading fields of the head leaves what stands below as it is. -/
lemma ReadsInto.lift {h h' : Head} (hread : ReadsInto (head (depth + 1)) ts fs h h')
    (hts : ∀ t ∈ ts, t ≠ "children" ∧ t ≠ "branches") (children : List Instruction)
    (arms : List Arm) :
    ReadsInto (instructionField depth) ts fs (.mk h children arms) (.mk h' children arms) := by
  obtain ⟨hname, hwritable, hrun⟩ := hread
  refine ⟨hname, hwritable, ?_⟩
  have hfield : ∀ (t : String) (h : Head) (d : Datum), t ≠ "children" → t ≠ "branches" →
      instructionField depth t (.mk h children arms) d =
        (head (depth + 1) t h d).map fun h => Instruction.mk h children arms := by
    intro t h d hchildren hbranches
    rw [instructionField]
    simp only [Instruction.parts]
    cases head (depth + 1) t h d <;> rfl
  induction fs generalizing h with
  | nil =>
    obtain rfl := Option.some.inj hrun
    rfl
  | cons f fs ih =>
    obtain ⟨name, d⟩ := f
    obtain ⟨hchildren, hbranches⟩ := hts _ (hname _ List.mem_cons_self)
    rw [rereadFields, List.foldlM_cons] at hrun ⊢
    rw [hfield _ _ _ hchildren hbranches]
    obtain ⟨h'', hhead, hrest⟩ := Option.bind_eq_some_iff.1 hrun
    rw [hhead]
    rw [Json.fieldsWritable, Bool.and_eq_true] at hwritable
    exact ih (fun f hf => hname f (List.mem_cons_of_mem _ hf)) hwritable.2 hrest

/-- The fields that come first. -/
lemma readsInto_head (op key name : String) :
    ReadsInto (head depth) ["op", "key", "name"] (Document.head op key name) {} { op, key, name } :=
  (readsInto_field "op" (by decide) ⟨rfl, rfl⟩).cons
    ((readsInto_field "key" (by decide) ⟨rfl, rfl⟩).cons
    (readsInto_textField "name" (by decide) rfl (by rintro rfl; rfl)))

lemma readsInto_children {ds : List Datum} {children : List Instruction}
    (h : ItemsRead .null (Draft.instruction depth) ds children) (hd : Head) :
    ReadsInto (instructionField depth) ["children"] (listField "children" ds) (.mk hd [] [])
    (.mk hd children []) :=
  readsInto_listField "children" (by decide) (fun _ => rfl) rfl h rfl

end Draft

/-- A slot that may be left out is written as a number. -/
lemma readAs_slotNumber {clause : Option Nat} (h : (slotNumber clause).natAbs < 2 ^ 63)
    (old : Int) :
    Draft.ReadAs Draft.int old (slot? clause) (slotNumber clause) := by
  have hread := Draft.readAs_int h old
  cases clause with
  | none => exact hread
  | some n => exact hread

/-- Something is watched nowhere. -/
lemma readAs_unwatched (old : Int) : Draft.ReadAs Draft.int old (int (-1)) (-1) :=
  Draft.readAs_int (by norm_num) old

section

variable {T : Tables} (hT : T.Small)

include hT

lemma attrs_toDraft {as : List Attr} (h : ∀ a ∈ as, a.value.Within T)
    (hplain : ∀ p ∈ as.flatMap (·.value.parts), p.Plain) :
    Draft.ItemsRead {} Draft.attr (as.map attr) (as.map Attr.toDraft) :=
  Draft.itemsRead_map fun a ha =>
    attr_toDraft hT (h a ha) fun p hp => hplain p (List.mem_flatMap.2 ⟨a, ha, hp⟩)

/-- The fields of a call that stand between its name and its options. -/
lemma readsInto_attrs {c : Call} (h : c.Within T) (hplain : ∀ p ∈ c.parts, p.Plain) {depth : Nat}
    {hd : Draft.Head} (hattrs : hd.attrs = []) : Draft.ReadsInto (Draft.head depth) ["attrs"]
    (listField "attrs" (c.attrs.map attr)) hd
      { hd with attrs := c.attrs.map Attr.toDraft } := by
  have hread := attrs_toDraft hT h.attr fun p hp => hplain p (List.mem_append_left _ hp)
  rcases hd with ⟨⟩
  obtain rfl := hattrs
  exact Draft.readsInto_listField "attrs" (by decide) (fun _ => rfl) rfl hread rfl

/-- The fields of a call from its options on. -/
lemma readsInto_passed {c : Call} (h : c.Within T) (hplain : ∀ p ∈ c.parts, p.Plain) {depth : Nat}
    (hdepth : Datum.depthList (Document.options c.options) ≤ depth) {hd : Draft.Head}
    (hoptions : hd.options = []) (hcontents : hd.contents = []) : Draft.ReadsInto (Draft.head depth)
    (["options"] ++ ["contents"] ++ ["internal"])
      (listField "options" (Document.options c.options) ++ listField "contents"
      (c.contents.map content) ++
        [("internal", slot? c.watch)]) hd
      { hd with
        options := optionsToDraft c.options, contents := c.contents.map ContentRef.toDraft
        watch := slotNumber c.watch } := by
  have hread := options_toDraft hT depth hdepth h.options fun p hp =>
    hplain p (List.mem_append_right _ hp)
  have hrefs : Draft.ItemsRead {} Draft.content (c.contents.map content)
    (c.contents.map ContentRef.toDraft) :=
    Draft.itemsRead_map fun ref href => content_toDraft hT (h.content ref href)
  rcases hd with ⟨⟩
  obtain rfl := hoptions
  obtain rfl := hcontents
  exact .append (.append
    (Draft.readsInto_listField "options" (by decide) (fun _ => rfl) rfl hread rfl)
    (Draft.readsInto_listField "contents" (by decide) (fun _ => rfl) rfl hrefs rfl))
    (Draft.readsInto_over "internal" (by decide) (fun _ => rfl)
      (readAs_slotNumber (natAbs_watchNumber hT h.watch) _) rfl)

end

mutual
/-- What refers to existing entries is read as it was written. -/
theorem instruction_toDraft {T : Tables} (hT : T.Small) : ∀ {i : Instruction} (depth : Nat),
    (instruction i).depth ≤ depth → i.AllWithin T → i.AllPlain →
    Draft.ReadAs (Draft.instruction depth) .null (instruction i) i.toDraft
  | .text key ps, depth, hdepth, h, hplain => by
    obtain ⟨n, rfl, -⟩ := exists_depth hdepth
    have hparts := parts_toDraft hT (h _ (.self _)) (hplain _ (.self _))
    exact Draft.ReadsInto.instruction (.lift (.append (.append (Draft.readsInto_head _ _ _)
      (Draft.readsInto_listField "segments" (by decide) (fun _ => rfl) rfl hparts rfl))
      (Draft.readsInto_over "internal" (by decide) (fun _ => rfl) (readAs_unwatched _) rfl))
        (by decide) [] [])
  | .element key name as children void, depth, hdepth, h, hplain => by
    have hwithin : ∀ i ∈ children, i.AllWithin T := h.inner
    have hplains : ∀ i ∈ children, i.AllPlain := fun i hi j hij => hplain j (.inside hi hij)
    obtain ⟨n, rfl, hdeep⟩ :=
      exists_depth_listField hdepth "children" (Document.instructions children)
      fun _ hf => by simp [hf]
    have hattrs := attrs_toDraft hT (h _ (.self _)) (hplain _ (.self _))
    have hbelow := instructions_toDraft hT n hdeep hwithin hplains
    have hhead : Draft.ReadsInto (Draft.head (n + 1)) (["op", "key", "name"] ++ ["attrs"])
        (head "element" key name ++ listField "attrs" (as.map attr)) {}
        { op := "element", key, name, attrs := as.map Attr.toDraft } :=
      .append (Draft.readsInto_head _ _ _)
        (Draft.readsInto_listField "attrs" (by decide) (fun _ => rfl) rfl hattrs rfl)
    exact Draft.ReadsInto.instruction (.append (.append (.append (hhead.lift (by decide) [] [])
      (Draft.readsInto_children hbelow _))
      (.lift (Draft.readsInto_flagField "void" (by decide) rfl (by rintro rfl; rfl)) (by decide) _
        []))
      (.lift (Draft.readsInto_over "internal" (by decide) (fun _ => rfl) (readAs_unwatched _) rfl)
        (by decide) _ []))
  | .component key name c, depth, hdepth, h, hplain => by
    obtain ⟨n, rfl, hdeep⟩ := exists_depth_listField hdepth "options" (Document.options c.options)
      fun _ hf => by simp [hf]
    have hcall : c.Within T := h _ (.self _)
    have hparts : ∀ p ∈ c.parts, p.Plain := hplain _ (.self _)
    have hread := ((Draft.readsInto_head "component" key name).append
      (readsInto_attrs hT hcall hparts rfl)).append
      (readsInto_passed hT hcall hparts (Nat.le_succ_of_le hdeep) rfl rfl)
    simp only [← List.append_assoc] at hread
    exact (hread.lift (by decide) [] []).instruction
  | .partialCall key t c, depth, hdepth, h, hplain => by
    obtain ⟨n, rfl, hdeep⟩ := exists_depth_listField hdepth "options" (Document.options c.options)
      fun _ hf => by simp [hf]
    obtain ⟨htarget, hcall⟩ := h _ (.self _)
    have hparts : ∀ p ∈ c.parts, p.Plain := hplain _ (.self _)
    have hslot : (target t).2.2.natAbs < 2 ^ 63 := by
      cases t with
      | inline name => exact (by norm_num : 1 < 2 ^ 63)
      | «static» name => exact (by norm_num : 1 < 2 ^ 63)
      | dynamic slot name =>
        obtain ⟨m, rfl, hm⟩ := htarget
        exact natAbs_slot hT hm
    have hmode : Draft.ReadsInto (Draft.head (n + 1)) (["op", "key", "name"] ++ ["attrs"] ++
      ["mode"] ++ ["target"])
        (head "partial" key (target t).1 ++ listField "attrs" (c.attrs.map attr) ++
          [("mode", Datum.text (target t).2.1)] ++
          intField "target" (target t).2.2) {}
        { op := "partial", key, name := (target t).1, attrs := c.attrs.map Attr.toDraft
          mode := (target t).2.1, target := (target t).2.2 } :=
      .append (.append (.append (Draft.readsInto_head _ _ _) (readsInto_attrs hT hcall hparts rfl))
        (Draft.readsInto_field "mode" (by decide) ⟨rfl, rfl⟩))
        (Draft.readsInto_intField "target" (by decide) (fun _ => rfl) rfl hslot rfl)
    have hread := hmode.append (readsInto_passed hT hcall hparts (Nat.le_succ_of_le hdeep) rfl rfl)
    simp only [← List.append_assoc] at hread
    exact (hread.lift (by decide) [] []).instruction
  | .branches key as, depth, hdepth, h, hplain => by
    have hwithin : ∀ i ∈ as.flatMap Arm.children, i.AllWithin T := h.inner
    have hplains : ∀ i ∈ as.flatMap Arm.children, i.AllPlain := fun i hi j hij =>
      hplain j (.inside hi hij)
    obtain ⟨n, rfl, hdeep⟩ := exists_depth_listField hdepth "branches" (Document.arms as)
      fun _ hf => by simp [hf]
    have hbelow := arms_toDraft hT n hdeep (h _ (.self _)) hwithin hplains
    exact Draft.ReadsInto.instruction
      (.append (.append ((Draft.readsInto_head _ _ _).lift (by decide) [] [])
      (Draft.readsInto_listField "branches" (by decide) (fun _ => rfl) rfl hbelow rfl))
      (.lift (Draft.readsInto_over "internal" (by decide) (fun _ => rfl) (readAs_unwatched _) rfl)
        (by decide) [] _))
  | .loop key names init test update children watch, depth, hdepth, h, hplain => by
    have hwithin : ∀ i ∈ children, i.AllWithin T := h.inner
    have hplains : ∀ i ∈ children, i.AllPlain := fun i hi j hij => hplain j (.inside hi hij)
    obtain ⟨⟨hinit, htest, hupdate⟩, hwatch⟩ := h _ (.self _)
    obtain ⟨n, rfl, hdeep⟩ :=
      exists_depth_listField hdepth "children" (Document.instructions children)
      fun _ hf => by simp [hf]
    have hbelow := instructions_toDraft hT n hdeep hwithin hplains
    have hrest : Draft.ReadsInto (Draft.head (n + 1)) (["init"] ++ ["test"] ++ ["update"] ++
      ["names"] ++ ["internal"])
        (intField "init" (slotNumber init) ++ intField "test" (slotNumber test) ++
          intField "update" (slotNumber update) ++ listField "names" (names.map .text) ++
            [("internal", slot? watch)])
        { op := "for", key }
        { op := "for", key, names, init := slotNumber init, test := slotNumber test
          update := slotNumber update, watch := slotNumber watch } :=
      .append (.append (.append (.append
        (Draft.readsInto_intField "init" (by decide) (fun _ => rfl) rfl (natAbs_slotNumber hT hinit)
          rfl)
        (Draft.readsInto_intField "test" (by decide) (fun _ => rfl) rfl (natAbs_slotNumber hT htest)
          rfl))
        (Draft.readsInto_intField "update" (by decide) (fun _ =>
          rfl) rfl (natAbs_slotNumber hT hupdate) rfl))
        (Draft.readsInto_listField "names" (by decide) (fun _ =>
          rfl) rfl (Draft.itemsRead_texts names) rfl))
        (Draft.readsInto_over "internal" (by decide) (fun _ => rfl)
          (readAs_slotNumber (natAbs_watchNumber hT hwatch) _) rfl)
    have hread := (((Draft.readsInto_head "for" key "").lift (by decide) [] []).append
      (Draft.readsInto_children hbelow _)).append
        (hrest.lift (by decide) (instructionsToDraft children) [])
    simp only [← List.append_assoc] at hread
    exact hread.instruction
  | .each key collection index iterator children watch, depth, hdepth, h, hplain => by
    have hwithin : ∀ i ∈ children, i.AllWithin T := h.inner
    have hplains : ∀ i ∈ children, i.AllPlain := fun i hi j hij => hplain j (.inside hi hij)
    obtain ⟨hcollection, hwatch⟩ := h _ (.self _)
    obtain ⟨n, rfl, hdeep⟩ :=
      exists_depth_listField hdepth "children" (Document.instructions children)
      fun _ hf => by simp [hf]
    have hbelow := instructions_toDraft hT n hdeep hwithin hplains
    have hrest : Draft.ReadsInto (Draft.head (n + 1)) (["collection"] ++ ["index"] ++
      ["iterator"] ++ ["internal"])
        (intField "collection" collection ++ textField "index" index ++
          textField "iterator" iterator ++
          [("internal", slot? watch)]) { op := "foreach", key }
        { op := "foreach", key, collection, index, iterator, watch := slotNumber watch } :=
      .append (.append (.append
        (Draft.readsInto_intField "collection" (by decide) (fun _ =>
          rfl) rfl (natAbs_slot hT hcollection) rfl)
        (Draft.readsInto_textField "index" (by decide) rfl (by rintro rfl; rfl)))
        (Draft.readsInto_textField "iterator" (by decide) rfl (by rintro rfl; rfl)))
        (Draft.readsInto_over "internal" (by decide) (fun _ => rfl)
          (readAs_slotNumber (natAbs_watchNumber hT hwatch) _) rfl)
    have hread := (((Draft.readsInto_head "foreach" key "").lift (by decide) [] []).append
      (Draft.readsInto_children hbelow _)).append
        (hrest.lift (by decide) (instructionsToDraft children) [])
    simp only [← List.append_assoc] at hread
    exact hread.instruction
  | .unknown op, _, _, h, _ => (h _ (.self _)).elim

theorem instructions_toDraft {T : Tables} (hT : T.Small) : ∀ {is : List Instruction} (depth : Nat),
    Datum.depthList (Document.instructions is) ≤ depth → (∀ i ∈ is, i.AllWithin T) →
    (∀ i ∈ is, i.AllPlain) →
    Draft.ItemsRead .null (Draft.instruction depth) (Document.instructions is)
    (instructionsToDraft is)
  | [], _, _, _, _ => Draft.itemsRead_nil
  | i :: is, depth, hdepth, h, hplain => by
    rw [Document.instructions, Datum.depthList] at hdepth
    exact Draft.itemsRead_cons
      (instruction_toDraft hT depth (by omega) (h i List.mem_cons_self)
        (hplain i List.mem_cons_self))
      (instructions_toDraft hT depth (by omega) (fun i hi => h i (List.mem_cons_of_mem _ hi))
        fun i hi => hplain i (List.mem_cons_of_mem _ hi))

theorem arms_toDraft {T : Tables} (hT : T.Small) : ∀ {as : List Arm} (depth : Nat),
    Datum.depthList (Document.arms as) ≤ depth →
    (∀ test children watch, Arm.mk test children watch ∈ as →
      (∀ n ∈ test, T.slot n) ∧ ∀ w ∈ watch, T.watch w) →
    (∀ i ∈ as.flatMap Arm.children, i.AllWithin T) → (∀ i ∈ as.flatMap Arm.children, i.AllPlain) →
    Draft.ItemsRead (.mk 0 [] 0) (Draft.arm (Draft.instruction depth)) (Document.arms as)
    (armsToDraft as)
  | [], _, _, _, _, _ => Draft.itemsRead_nil
  | .mk test children watch :: as, depth, hdepth, harms, h, hplain => by
    obtain ⟨htest, hwatch⟩ := harms _ _ _ List.mem_cons_self
    have hwithin : ∀ i ∈ children, i.AllWithin T := fun i hi => h i (List.mem_append_left _ hi)
    have hplains : ∀ i ∈ children, i.AllPlain := fun i hi => hplain i (List.mem_append_left _ hi)
    rw [Document.arms, Datum.depthList, Datum.depth] at hdepth
    have hdeep : Datum.depthList (Document.instructions children) ≤ depth := by
      simp only [Datum.depthFields] at hdepth
      have hle := depthList_le_listOrNull (Document.instructions children)
      omega
    have hbelow := instructions_toDraft hT depth hdeep hwithin hplains
    refine Draft.itemsRead_cons (Draft.ReadsInto.record (.cons
      (Draft.readsInto_over "test" (by decide) (fun _ =>
        rfl) (readAs_slotNumber (natAbs_slotNumber hT htest) _) rfl)
      (.cons
        (Draft.readsInto_over "children" (by decide) (fun _ => rfl) (Draft.readAs_listOrNull hbelow)
          rfl)
        (Draft.readsInto_over "internal" (by decide) (fun _ => rfl)
          (readAs_slotNumber (natAbs_watchNumber hT hwatch) _) rfl)))) ?_
    exact arms_toDraft hT depth (by omega)
      (fun test children watch ha => harms test children watch (List.mem_cons_of_mem _ ha))
      (fun i hi => h i (List.mem_append_right _ hi)) fun i hi =>
        hplain i (List.mem_append_right _ hi)
end

/-! ### Descriptions -/

/-- A body is read as it was written. -/
lemma body_toDraft {T : Tables} (hT : T.Small) {b : Body} {depth : Nat}
    (hdepth : (body b).depth ≤ depth)
    (hwithin : ∀ i ∈ b.children, i.AllWithin T) (hplain : ∀ i ∈ b.children, i.AllPlain)
    (hwatch : ∀ w ∈ b.watch, T.watch w) : Draft.ReadAs (Draft.body depth) {}
    (body b) b.toDraft := by
  have hdeep : Datum.depthList (Document.instructions b.children) ≤ depth := by
    rw [body, Datum.depth] at hdepth
    simp only [depthFields_append, Datum.depthFields] at hdepth
    have hle := depthList_le_listOrNull (Document.instructions b.children)
    omega
  have hchildren := instructions_toDraft hT depth hdeep hwithin hplain
  exact Draft.ReadsInto.record
    (.append (.append (.append (Draft.readsInto_field "kind" (by decide) ⟨rfl, rfl⟩)
    (Draft.readsInto_textField "name" (by decide) rfl fun hname => by rw [hname]))
    (Draft.readsInto_textField "source" (by decide) rfl fun hsource => by rw [hsource]))
    (.cons
      (Draft.readsInto_over "children" (by decide) (fun _ =>
        rfl) (Draft.readAs_listOrNull hchildren) rfl)
      (Draft.readsInto_over "internal" (by decide) (fun _ => rfl)
        (readAs_slotNumber (natAbs_watchNumber hT hwatch) _) rfl)))

/-- Flags are numbers of eight bits. -/
lemma code_lt (f : Flags) : f.code < 256 := by
  rcases f with ⟨self, caller, context, children, helpers, translation, debug, rawText⟩
  revert self caller context children helpers translation debug rawText
  decide

lemma expression_toDraft (e : Expression) : Draft.ReadAs Draft.expression {}
    (expression e) e.toDraft := by
  have hflags : ∀ old, Draft.ReadAs Draft.short old (int e.flags.code) e.flags.code := by
    intro old
    have hlt := code_lt e.flags
    have hreread : reread (int e.flags.code) = .whole e.flags.code := rfl
    have hshort : (decide ((0 : Int) ≤ e.flags.code) && decide ((e.flags.code : Int) < 65536)) =
        true := by
      rw [Bool.and_eq_true, decide_eq_true_eq, decide_eq_true_eq]
      omega
    refine ⟨rfl, ?_⟩
    rw [hreread, Draft.short, if_pos hshort]
  exact Draft.ReadsInto.record (.append (.append (.cons
    (Draft.readsInto_field "source" (by decide) ⟨rfl, rfl⟩)
    (.cons (Draft.readsInto_field "body" (by decide) ⟨rfl, rfl⟩)
    (Draft.readsInto_over "flags" (by decide) (fun _ => rfl) (hflags _) rfl)))
    (Draft.readsInto_flagField "bind" (by decide) rfl fun hbind => by rw [hbind]))
    (Draft.readsInto_flagField "event"
      (by decide) rfl fun hevent => by rw [Expression.toDraft, hevent]))

lemma translation_readAs (t : String × String) : Draft.ReadAs Draft.translation ("", "")
    (translation t) t := by
  rcases t with ⟨s, context⟩
  exact Draft.ReadsInto.record (.cons (Draft.readsInto_field "text" (by decide) ⟨rfl, rfl⟩)
    (Draft.readsInto_textField "context" (by decide) rfl (by rintro rfl; rfl)))

/-- How the field of a description with a name is read, where its bodies are read `depth` deep. -/
def Draft.descriptionField (depth : Nat) (name : String) (x : Draft) (d : Datum) : Option Draft :=
  match name with
  | "version" => do return { x with version := ← int x.version d }
  | "module" => do return { x with module := ← text x.module d }
  | "dependencies" => do return { x with dependencies := ← list "" text x.dependencies d }
  | "bodies" => do return { x with bodies := ← list none (optional {} (body depth)) x.bodies d }
  | "reactiveprops" => do return { x with reactive := ← list "" text x.reactive d }
  | "expressions" =>
    do return { x with expressions := ← list none (optional {} expression) x.expressions d }
  | "internals" => do return { x with watches := ← list [] (list [] (list 0 int)) x.watches d }
  | "childnames" => do return { x with childNames := ← list "" text x.childNames d }
  | "translationkeys" =>
    do return { x with translations := ← list ("", "") translation x.translations d }
  | "symbols" => do return { x with symbols := ← list "" text x.symbols d }
  | _ => some x

lemma Draft.ofDatum?_eq (whole : Datum) : ofDatum? whole = record (descriptionField whole.depth)
    {} whole := rfl

/-- A description that is small enough, and whose constants are plain. -/
structure Storable (d : Description) : Prop where
  body : ∀ b ∈ d.bodies, ∃ T : Tables, T.Small ∧ (∀ i ∈ b.children, i.AllWithin T) ∧
    ∀ w ∈ b.watch, T.watch w
  plain : ∀ b ∈ d.bodies, ∀ i ∈ b.children, i.AllPlain
  run : ∀ runs ∈ d.watches, ∀ run ∈ runs, ∀ n ∈ run, n.natAbs < 2 ^ 63

/-- Every body is less deep than the document. -/
lemma depth_body_le {d : Description} {b : Body} (hb : b ∈ d.bodies) :
    (body b).depth ≤ d.document.depth := by
  have hbody : (body b).depth ≤ Datum.depthList (d.bodies.toList.map body) :=
    Datum.depth_le_of_mem (List.mem_map_of_mem (Array.mem_def.1 hb))
  have hbodies : (Datum.list (d.bodies.toList.map body)).depth ≤ Datum.depthFields
    [("version", int version),
      ("module", .text d.module), ("dependencies", listOrNull (d.dependencies.map .text)),
      ("bodies", .list (d.bodies.toList.map body))] :=
    Nat.le_trans (Nat.le_max_left _ 0) (Nat.le_trans (Nat.le_max_right _ _)
      (Nat.le_trans (Nat.le_max_right _ _) (Nat.le_max_right _ _)))
  rw [document, Datum.depth]
  simp only [depthFields_append, Datum.depth] at hbodies ⊢
  omega

/-- What is stored of a description is read as it was written. -/
theorem ofDatum?_document {d : Description} (hd : d.Storable) :
    Json.isWritable d.document = true ∧ Draft.ofDatum? (reread d.document) = some d.toDraft := by
  have hbodies : Draft.ItemsRead none (Draft.optional {} (Draft.body (reread d.document).depth))
      (d.bodies.toList.map body) (d.bodies.toList.map fun b => some b.toDraft) := by
    refine Draft.itemsRead_map fun b hb => ?_
    have hb : b ∈ d.bodies := Array.mem_def.2 hb
    obtain ⟨T, hT, hwithin, hwatch⟩ := hd.body b hb
    have hdepth : (body b).depth ≤ (reread d.document).depth := by
      rw [Json.depth_reread]
      exact depth_body_le hb
    exact (body_toDraft hT hdepth hwithin (hd.plain b hb) hwatch).some
  have hexpressions : Draft.ItemsRead none (Draft.optional {} Draft.expression)
      (d.expressions.toList.map expression) (d.expressions.toList.map fun e => some e.toDraft) :=
    Draft.itemsRead_map fun e _ => (expression_toDraft e).some
  have hwatches : Draft.ItemsRead [] (Draft.list [] (Draft.list 0 Draft.int))
    (d.watches.toList.map runs)
      d.watches.toList := by
    refine Draft.itemsRead_self fun runs hruns =>
        Draft.readAs_list (Draft.itemsRead_self fun run hrun =>
      Draft.readAs_list (Draft.itemsRead_self fun n hn => Draft.readAs_int ?_ _))
    exact hd.run runs (Array.mem_def.2 hruns) run hrun n hn
  have hread : Draft.ReadAs (Draft.record (Draft.descriptionField (reread d.document).depth)) {}
    d.document d.toDraft :=
    Draft.ReadsInto.record (.append (.append (.append (.append (.append (.append
      (.cons (Draft.readsInto_over "version" (by decide) (fun _ =>
        rfl) (Draft.readAs_int (by decide) _) rfl)
      (.cons (Draft.readsInto_field "module" (by decide) ⟨rfl, rfl⟩)
      (.cons (Draft.readsInto_over "dependencies" (by decide) (fun _ => rfl)
        (Draft.readAs_listOrNull (Draft.itemsRead_texts _)) rfl)
      (Draft.readsInto_over "bodies" (by decide) (fun _ => rfl) (Draft.readAs_list hbodies) rfl))))
      (Draft.readsInto_listField "reactiveprops" (by decide) (fun _ =>
        rfl) rfl (Draft.itemsRead_texts _) rfl))
      (Draft.readsInto_listField "expressions" (by decide) (fun _ => rfl) rfl hexpressions rfl))
      (Draft.readsInto_listField "internals" (by decide) (fun _ => rfl) rfl hwatches rfl))
      (Draft.readsInto_listField "childnames" (by decide) (fun _ =>
        rfl) rfl (Draft.itemsRead_texts _) rfl))
      (Draft.readsInto_listField "translationkeys" (by decide) (fun _ => rfl) rfl
        (Draft.itemsRead_self fun t _ => translation_readAs t) rfl))
      (Draft.readsInto_listField "symbols" (by decide) (fun _ =>
        rfl) rfl (Draft.itemsRead_texts _) rfl))
  refine ⟨hread.writable, ?_⟩
  rw [Draft.ofDatum?_eq]
  exact hread.read

end Description

end Trellis
