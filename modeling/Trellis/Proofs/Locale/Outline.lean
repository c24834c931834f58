/-
What the outline of a dictionary covers.

The outline for a list of keys is a map in which every text stands for itself, with a map inside it
for each context.  Texts without a context and contexts are names of the same map, so one can take
the place of the other.  `Has` says which texts a map of this shape has within which contexts, and
adding a key to an outline takes nothing else away unless a text meets a context
(`has_outlineWith`).  What is read from the outline are the texts that it has, each under its key
(`mem_parse_outline`).

So the outline covers all its keys exactly if no text without a context is also a context, and no
two texts share a key (`outline_covers_iff`).  That the document is read as the map that was written
is assumed (`Yaml.Draft.isReadAs`).
-/
import Mathlib.Data.List.Induction
import Mathlib.Data.List.Nodup
import Mathlib.Data.List.Perm.Subperm
import Trellis.Locale.Catalog
import Trellis.Proofs.Outcome

namespace Trellis

/-! ### Documents and their values -/

namespace Yaml

mutual
/-- Whether a document was read as what it says: a text as that text, a map as a map with the same
entries in any order. -/
def Draft.isReadAs : Draft → Value → Bool
  | .text s, .text t => s == t
  | .map fields, .map entries => fields.length == entries.length && areReadAs fields entries
  | _, _ => false

def Draft.areReadAs : List (String × Draft) → List (String × Value) → Bool
  | [], _ => true
  | (name, d) :: fields, entries =>
    entries.any (fun e => e.1 == name && d.isReadAs e.2) && areReadAs fields entries
end

namespace Draft

variable {fields : List (String × Draft)} {entries : List (String × Value)}

lemma areReadAs_iff : areReadAs fields entries = true ↔ ∀ f ∈ fields, ∃ v, (f.1, v) ∈ entries ∧
    f.2.isReadAs v = true := by
  induction fields with
  | nil => exact iff_of_true rfl fun f hf => absurd hf List.not_mem_nil
  | cons f fields ih =>
    obtain ⟨name, d⟩ := f
    simp only [areReadAs, Bool.and_eq_true, ih, List.forall_mem_cons, List.any_eq_true, beq_iff_eq,
      Prod.exists]
    refine and_congr_left fun _ => ⟨?_, ?_⟩
    · rintro ⟨name', v, hv, rfl, hread⟩
      exact ⟨v, hv, hread⟩
    · rintro ⟨v, hv, hread⟩
      exact ⟨name, v, hv, rfl, hread⟩

/-- Every entry of a map is read. -/
lemma exists_value (h : (map fields).isReadAs (.map entries) = true) {f : String × Draft}
    (hf : f ∈ fields) :
    ∃ v, (f.1, v) ∈ entries ∧ f.2.isReadAs v = true := by
  rw [isReadAs, Bool.and_eq_true] at h
  exact areReadAs_iff.1 h.2 f hf

/-- Nothing else is read. -/
lemma exists_draft (hnodup : (fields.map (·.1)).Nodup)
    (h : (map fields).isReadAs (.map entries) = true)
    {e : String × Value} (he : e ∈ entries) : ∃ d, (e.1, d) ∈ fields ∧ d.isReadAs e.2 = true := by
  have hlength : (entries.map (·.1)).length ≤ (fields.map (·.1)).length := by
    rw [isReadAs, Bool.and_eq_true, beq_iff_eq] at h
    rw [List.length_map, List.length_map]
    exact Nat.le_of_eq h.1.symm
  have hsubset : fields.map (·.1) ⊆ entries.map (·.1) := by
    intro name hname
    obtain ⟨f, hf, rfl⟩ := List.mem_map.1 hname
    obtain ⟨v, hv, -⟩ := exists_value h hf
    exact List.mem_map_of_mem hv
  -- there are as many entries as fields, so their names are the same
  have hperm := (List.subperm_of_subset hnodup hsubset).perm_of_length_le hlength
  obtain ⟨f, hf, hname⟩ := List.mem_map.1 (hperm.mem_iff.2 (List.mem_map_of_mem he))
  obtain ⟨v, hv, hread⟩ := exists_value h hf
  obtain rfl : (f.1, v) = e := List.inj_on_of_nodup_map (hperm.nodup_iff.1 hnodup) hv he hname
  exact ⟨f.2, hf, hread⟩

lemma of_isReadAs_text {d : Draft} {s : String} {v : Value} (hd : d = .text s)
    (h : d.isReadAs v = true) : v = .text s := by
  subst hd
  cases v with
  | text t => exact congrArg Value.text (beq_iff_eq.1 h).symm
  | _ => cases h

end Draft

end Yaml

namespace Dictionary

open Yaml (Draft)

/-! ### Maps of texts -/

variable {fields : List (String × Draft)} {name text text' context context' : String}

/-- Sets an entry of a map. -/
def put (fields : List (String × Draft)) (name : String) (d : Draft) : List (String × Draft) :=
  fields.filter (·.1 != name) ++ [(name, d)]

/-- The map within a map under a name, which is empty if there is none. -/
def group (fields : List (String × Draft)) (name : String) : List (String × Draft) :=
  match fields.find? (·.1 == name) with
  | some (_, .map entries) => entries
  | _ => []

lemma outlineWith_plain : outlineWith fields text "" = put fields text (.text text) := rfl

lemma outlineWith_within (h : context ≠ "") :
    outlineWith fields text context = put fields context
    (.map (put (group fields context) text (.text text))) := by
  have hempty : context.isEmpty = false := by rwa [← Bool.not_eq_true, String.isEmpty_iff]
  rw [outlineWith, hempty]
  rfl

lemma mem_put {d : Draft} {f : String × Draft} :
    f ∈ put fields name d ↔ f ∈ fields ∧ f.1 ≠ name ∨ f = (name, d) := by
  rw [put, List.mem_append, List.mem_filter, List.mem_singleton, bne_iff_ne]

lemma mem_put_self (fields : List (String × Draft)) (name : String) (d : Draft) :
    (name, d) ∈ put fields name d :=
  mem_put.2 (.inr rfl)

/-- No name stands twice. -/
lemma nodup_put (h : (fields.map (·.1)).Nodup) (d : Draft) :
    ((put fields name d).map (·.1)).Nodup := by
  rw [put, List.map_append, List.nodup_append]
  refine ⟨(List.filter_sublist.map _).nodup h, List.nodup_singleton _, ?_⟩
  rintro x hx _ hname rfl
  obtain ⟨f, hf, rfl⟩ := List.mem_map.1 hx
  rw [List.map_singleton, List.mem_singleton] at hname
  exact bne_iff_ne.1 (List.mem_filter.1 hf).2 hname

/-- An entry is known by its name. -/
lemma eq_of_name (h : (fields.map (·.1)).Nodup) {d d' : Draft} (hd : (name, d) ∈ fields)
    (hd' : (name, d') ∈ fields) :
    d = d' := by
  have heq : (name, d) = (name, d') := List.inj_on_of_nodup_map h hd hd' rfl
  exact congrArg Prod.snd heq

lemma group_eq (h : (fields.map (·.1)).Nodup) {es : List (String × Draft)}
    (hes : (name, .map es) ∈ fields) :
    group fields name = es := by
  cases hfind : fields.find? (·.1 == name) with
  | none =>
    have hnone := List.find?_eq_none.1 hfind _ hes
    exact absurd (beq_self_eq_true name) hnone
  | some f =>
    obtain ⟨name', d⟩ := f
    have hname : name' = name := by simpa using List.find?_some hfind
    subst hname
    obtain rfl : d = .map es := eq_of_name h (List.mem_of_find?_eq_some hfind) hes
    rw [group, hfind]

lemma exists_of_mem_group {e : String × Draft} (he : e ∈ group fields name) :
    ∃ es, (name, .map es) ∈ fields ∧ e ∈ es := by
  rw [group] at he
  split at he
  next name' es hfind =>
    have hname : name' = name := by simpa using List.find?_some hfind
    subst hname
    exact ⟨es, List.mem_of_find?_eq_some hfind, he⟩
  next => cases he

/-- A text stands for itself, within a context or without one. -/
inductive Has (fields : List (String × Draft)) : String → String → Prop
  | plain {text : String} (h : (text, .text text) ∈ fields) : Has fields text ""
  | within {text context : String} {es : List (String × Draft)} (hcontext : context ≠ "")
      (hes : (context, .map es) ∈ fields) (h : (text, .text text) ∈ es) : Has fields text context

lemma Has.of_plain (h : Has fields text "") : (text, .text text) ∈ fields := by
  cases h with
  | plain h => exact h
  | within hcontext _ _ => exact absurd rfl hcontext

lemma Has.exists_group (h : Has fields text context) (hcontext : context ≠ "") :
    ∃ es, (context, .map es) ∈ fields := by
  cases h with
  | plain _ => exact absurd rfl hcontext
  | within _ hes _ => exact ⟨_, hes⟩

/-- A map of texts that stand for themselves. -/
structure Plain (es : List (String × Draft)) : Prop where
  nodup : (es.map (·.1)).Nodup
  text : ∀ e ∈ es, e.2 = .text e.1

lemma Plain.put {es : List (String × Draft)} (h : Plain es) (text : String) :
    Plain (put es text (.text text)) := by
  refine ⟨nodup_put h.nodup _, fun e he => ?_⟩
  obtain ⟨he, -⟩ | rfl := mem_put.1 he
  · exact h.text e he
  · rfl

/-- A map of texts that stand for themselves, and of such maps for contexts. -/
structure Tidy (fields : List (String × Draft)) : Prop where
  nodup : (fields.map (·.1)).Nodup
  field : ∀ f ∈ fields, f.2 = .text f.1 ∨ f.1 ≠ "" ∧ ∃ es, f.2 = .map es ∧ Plain es

lemma Tidy.group (h : Tidy fields) (name : String) : Plain (group fields name) := by
  rw [Dictionary.group]
  split
  next es hfind =>
    obtain htext | ⟨-, es', hmap, hplain⟩ := h.field _ (List.mem_of_find?_eq_some hfind)
    · cases htext
    · cases hmap
      exact hplain
  next => exact ⟨List.nodup_nil, fun e he => absurd he List.not_mem_nil⟩

lemma Tidy.put (h : Tidy fields) {d : Draft} (hd : d = .text name ∨ name ≠ "" ∧ ∃ es, d = .map es ∧
    Plain es) :
    Tidy (put fields name d) := by
  refine ⟨nodup_put h.nodup _, fun f hf => ?_⟩
  obtain ⟨hf, -⟩ | rfl := mem_put.1 hf
  · exact h.field f hf
  · exact hd

lemma Tidy.outlineWith (h : Tidy fields) (text context : String) :
    Tidy (outlineWith fields text context) := by
  by_cases hcontext : context = ""
  · subst hcontext
    exact h.put (.inl rfl)
  · rw [outlineWith_within hcontext]
    exact h.put (.inr ⟨hcontext, _, rfl, (h.group context).put text⟩)

/-! ### Outlines -/

/-- What the outline for keys says. -/
def outlined (keys : List (String × String)) : List (String × Draft) :=
  keys.foldl (fun fields k => outlineWith fields k.1 k.2) []

variable {keys : List (String × String)} {k k' : String × String}

lemma outlined_snoc (keys : List (String × String)) (k : String × String) :
    outlined (keys ++ [k]) = outlineWith (outlined keys) k.1 k.2 := by
  rw [outlined, List.foldl_append]
  rfl

/-- A text that is added is there. -/
lemma has_outlineWith_self (fields : List (String × Draft)) (text context : String) :
    Has (outlineWith fields text context) text context := by
  by_cases hcontext : context = ""
  · subst hcontext
    exact .plain (mem_put_self fields _ _)
  · rw [outlineWith_within hcontext]
    exact .within hcontext (mem_put_self fields _ _) (mem_put_self _ _ _)

/-- What is there stays when a text is added, unless a text meets a context of the same name. -/
lemma has_outlineWith (h : Tidy fields) (hhas : Has fields text' context')
    (hplain : context = "" → context' ≠ "" → text ≠ context')
    (hwithin : context' = "" → context ≠ "" → text' ≠ context) :
    Has (outlineWith fields text context) text' context' := by
  by_cases hcontext : context = ""
  · subst hcontext
    rw [outlineWith_plain]
    cases hhas with
    | plain hmem =>
      by_cases heq : text' = text
      · subst heq
        exact .plain (mem_put_self fields _ _)
      · exact .plain (mem_put.2 (.inl ⟨hmem, heq⟩))
    | within hcontext' hes hmem =>
      exact .within hcontext' (mem_put.2 (.inl ⟨hes, (hplain rfl hcontext').symm⟩)) hmem
  · rw [outlineWith_within hcontext]
    cases hhas with
    | plain hmem => exact .plain (mem_put.2 (.inl ⟨hmem, hwithin rfl hcontext⟩))
    | @within _ es hcontext' hes hmem =>
      by_cases heq : context' = context
      · subst heq
        refine .within hcontext' (mem_put_self fields _ _) ?_
        rw [group_eq h.nodup hes]
        by_cases heq : text' = text
        · subst heq
          exact mem_put_self es _ _
        · exact mem_put.2 (.inl ⟨hmem, heq⟩)
      · exact .within hcontext' (mem_put.2 (.inl ⟨hes, heq⟩)) hmem

/-- Nothing else is there afterwards. -/
lemma has_of_outlineWith (hhas : Has (outlineWith fields text context) text' context') :
    text' = text ∧ context' = context ∨ Has fields text' context' := by
  by_cases hcontext : context = ""
  · subst hcontext
    rw [outlineWith_plain] at hhas
    cases hhas with
    | plain hmem =>
      obtain ⟨hmem, -⟩ | heq := mem_put.1 hmem
      · exact .inr (.plain hmem)
      · exact .inl ⟨congrArg Prod.fst heq, rfl⟩
    | within hcontext' hes hmem =>
      obtain ⟨hes, -⟩ | heq := mem_put.1 hes
      · exact .inr (.within hcontext' hes hmem)
      · cases heq
  · rw [outlineWith_within hcontext] at hhas
    cases hhas with
    | plain hmem =>
      obtain ⟨hmem, -⟩ | heq := mem_put.1 hmem
      · exact .inr (.plain hmem)
      · cases heq
    | within hcontext' hes hmem =>
      obtain ⟨hes, -⟩ | heq := mem_put.1 hes
      · exact .inr (.within hcontext' hes hmem)
      cases heq
      obtain ⟨hmem, -⟩ | heq := mem_put.1 hmem
      · obtain ⟨es, hes, hmem⟩ := exists_of_mem_group hmem
        exact .inr (.within hcontext' hes hmem)
      · exact .inl ⟨congrArg Prod.fst heq, rfl⟩

lemma tidy_outlined (keys : List (String × String)) : Tidy (outlined keys) := by
  induction keys using List.reverseRecOn with
  | nil => exact ⟨List.nodup_nil, fun f hf => absurd hf List.not_mem_nil⟩
  | append_singleton keys k ih =>
    rw [outlined_snoc]
    exact ih.outlineWith k.1 k.2

/-- Only keys of the list are there. -/
lemma mem_of_has (h : Has (outlined keys) text context) : (text, context) ∈ keys := by
  induction keys using List.reverseRecOn with
  | nil => cases h with
    | plain h => cases h
    | within _ h => cases h
  | append_singleton keys k ih =>
    rw [outlined_snoc] at h
    obtain ⟨rfl, rfl⟩ | h := has_of_outlineWith h
    · exact List.mem_append_right _ (List.mem_singleton_self k)
    · exact List.mem_append_left _ (ih h)

/-- No text without a context is a context. -/
def Unmixed (keys : List (String × String)) : Prop :=
  ∀ k ∈ keys, ∀ k' ∈ keys, k.2 = "" → k'.2 ≠ "" → k.1 ≠ k'.2

/-- All keys are there if no text takes the place of a context, or a context that of a text. -/
lemma has_of_mem (h : Unmixed keys) (hk : k ∈ keys) : Has (outlined keys) k.1 k.2 := by
  induction keys using List.reverseRecOn with
  | nil => cases hk
  | append_singleton keys k' ih =>
    have hinit : Unmixed keys := fun i hi j hj =>
      h i (List.mem_append_left _ hi) j (List.mem_append_left _ hj)
    have hlast : k' ∈ keys ++ [k'] := List.mem_append_right _ (List.mem_singleton_self k')
    rw [outlined_snoc]
    rcases List.mem_append.1 hk with hmem | hmem
    · exact has_outlineWith (tidy_outlined keys) (ih hinit hmem) (h k' hlast k hk) (h k hk k' hlast)
    · obtain rfl := List.mem_singleton.1 hmem
      exact has_outlineWith_self _ _ _

/-! ### Keys -/

lemma key_plain (text : String) : key text "" = text := rfl

lemma key_within (h : context ≠ "") (text : String) : key text context = context ++ separator ++
    text := by
  have hempty : context.isEmpty = false := by rwa [← Bool.not_eq_true, String.isEmpty_iff]
  rw [key, hempty]
  rfl

lemma length_key_within (h : context ≠ "") (text : String) :
    text.length < (key text context).length := by
  have hseparator : separator.length = 2 := rfl
  rw [key_within h, String.length_append, String.length_append, hseparator]
  omega

/-- The key of a text shows its context. -/
lemma context_eq_of_key (h : key text context = key text context') : context = context' := by
  by_cases hcontext : context = ""
  · by_cases hcontext' : context' = ""
    · rw [hcontext, hcontext']
    · have hlt := length_key_within hcontext' text
      rw [← h, hcontext, key_plain] at hlt
      exact absurd hlt (Nat.lt_irrefl _)
  · by_cases hcontext' : context' = ""
    · have hlt := length_key_within hcontext text
      rw [h, hcontext', key_plain] at hlt
      exact absurd hlt (Nat.lt_irrefl _)
    · rw [key_within hcontext, key_within hcontext', ← String.toList_inj] at h
      simp only [String.toList_append, List.append_assoc, List.append_cancel_right_eq] at h
      exact String.toList_inj.1 h

/-! ### Reading -/

variable {entries vs : List (String × Yaml.Value)}

/-- Reading a context gives all that it has. -/
lemma mem_ofContext {es : List (String × Draft)} (h : Plain es)
    (hread : (Draft.map es).isReadAs (.map vs) = true)
    (context : String) : ∃ d, ofContext context vs = .ok d ∧
      ∀ e : String × String, e ∈ d ↔ (e.2, .text e.2) ∈ es ∧ e.1 = key e.2 context := by
  have hvalue : ∀ v ∈ vs, (v.1, Draft.text v.1) ∈ es ∧ v.2 = .text v.1 := by
    intro v hv
    obtain ⟨d, hd, hvalue⟩ := Draft.exists_draft h.nodup hread hv
    have htext : d = .text v.1 := h.text _ hd
    exact ⟨htext ▸ hd, Draft.of_isReadAs_text htext hvalue⟩
  refine ⟨vs.map fun v => (key v.1 context, v.1), ?_, fun e => ?_⟩
  · refine mapM_eq_ok.2 (List.forall₂_map_right_iff.2 (List.forall₂_same.2 fun v hv => ?_))
    obtain ⟨name, value⟩ := v
    obtain rfl : value = .text name := (hvalue _ hv).2
    rfl
  · rw [List.mem_map]
    constructor
    · rintro ⟨v, hv, rfl⟩
      exact ⟨(hvalue v hv).1, rfl⟩
    · rintro ⟨hmem, hkey⟩
      obtain ⟨v, hv, -⟩ := Draft.exists_value hread hmem
      exact ⟨_, hv, by rw [← hkey]⟩

/-- Reading an entry of an outline gives all that it has. -/
lemma mem_ofEntry {f : String × Draft} {v : Yaml.Value}
    (hf : f.2 = .text f.1 ∨ f.1 ≠ "" ∧ ∃ es, f.2 = .map es ∧ Plain es)
    (hread : f.2.isReadAs v = true) :
    ∃ d, ofEntry (f.1, v) = .ok d ∧
      ∀ e : String × String, e ∈ d ↔ ∃ context, Has [f] e.2 context ∧ e.1 = key e.2 context := by
  obtain ⟨name, d⟩ := f
  obtain htext | ⟨hname, es, rfl, hplain⟩ := hf
  · obtain rfl := Draft.of_isReadAs_text htext hread
    obtain rfl : d = .text name := htext
    refine ⟨[(name, name)], rfl, fun e => ?_⟩
    rw [List.mem_singleton]
    constructor
    · rintro rfl
      exact ⟨"", .plain (List.mem_singleton_self _), rfl⟩
    · rintro ⟨context, hhas, hkey⟩
      cases hhas with
      | plain h =>
        have htext : e.2 = name := congrArg Prod.fst (List.mem_singleton.1 h)
        exact Prod.ext (hkey.trans htext) htext
      | within _ h => cases List.mem_singleton.1 h
  · cases v with
    | map vs =>
      obtain ⟨d, hd, hmem⟩ := mem_ofContext hplain hread name
      refine ⟨d, hd, fun e => (hmem e).trans ⟨fun ⟨htext, hkey⟩ => ?_, ?_⟩⟩
      · exact ⟨name, .within hname (List.mem_singleton_self _) htext, hkey⟩
      · rintro ⟨context, hhas, hkey⟩
        cases hhas with
        | plain h => cases List.mem_singleton.1 h
        | within _ h htext =>
          cases List.mem_singleton.1 h
          exact ⟨htext, hkey⟩
    | _ => cases hread

lemma has_iff : Has fields text context ↔ ∃ f ∈ fields, Has [f] text context := by
  constructor
  · intro h
    cases h with
    | plain h => exact ⟨_, h, .plain (List.mem_singleton_self _)⟩
    | within hcontext hes h => exact ⟨_, hes, .within hcontext (List.mem_singleton_self _) h⟩
  · rintro ⟨f, hf, h⟩
    cases h with
    | plain h => exact .plain (List.mem_singleton.1 h ▸ hf)
    | within hcontext hes h => exact .within hcontext (List.mem_singleton.1 hes ▸ hf) h

/-- What is read from a document of texts that stand for themselves are these texts, under their
keys. -/
lemma mem_parse (h : Tidy fields) {s : String} (hparse : Yaml.parseMap s = .ok entries)
    (hread : (Draft.map fields).isReadAs (.map entries) = true) :
    ∃ d, parse s = .ok d ∧ ∀ e : String × String, e ∈ d ↔ ∃ context, Has fields e.2 context ∧
    e.1 = key e.2 context := by
  have hentry : ∀ x ∈ entries, ∃ d, ofEntry x = .ok d ∧ ∃ f ∈ fields, f.1 = x.1 ∧
      ∀ e : String × String, e ∈ d ↔ ∃ context, Has [f] e.2 context ∧ e.1 = key e.2 context := by
    intro x hx
    obtain ⟨d, hd, hvalue⟩ := Draft.exists_draft h.nodup hread hx
    obtain ⟨t, ht, hmem⟩ := mem_ofEntry (h.field _ hd) hvalue
    exact ⟨t, ht, _, hd, rfl, hmem⟩
  let read : String × Yaml.Value → Dictionary := fun x => (ofEntry x).toOption.getD []
  have hok : ∀ x ∈ entries, ofEntry x = .ok (read x) := by
    intro x hx
    obtain ⟨d, hd, -⟩ := hentry x hx
    simp only [read, hd, Except.toOption, Option.getD_some]
  have hmap : entries.mapM ofEntry = .ok (entries.map read) :=
    mapM_eq_ok.2 (List.forall₂_map_right_iff.2 (List.forall₂_same.2 hok))
  refine ⟨(entries.map read).flatten, bind_eq_ok.2 ⟨entries, hparse, bind_eq_ok.2 ⟨_, hmap, rfl⟩⟩,
    fun e => ?_⟩
  simp only [← List.flatMap_def, List.mem_flatMap]
  constructor
  · rintro ⟨x, hx, he⟩
    obtain ⟨d, hd, f, hf, -, hmem⟩ := hentry x hx
    obtain rfl : read x = d := Except.ok.inj ((hok x hx).symm.trans hd)
    obtain ⟨context, hhas, hkey⟩ := (hmem e).1 he
    exact ⟨context, has_iff.2 ⟨f, hf, hhas⟩, hkey⟩
  · rintro ⟨context, hhas, hkey⟩
    obtain ⟨f, hf, hhas⟩ := has_iff.1 hhas
    obtain ⟨v, hv, -⟩ := Draft.exists_value hread hf
    obtain ⟨d, hd, g, hg, hname, hmem⟩ := hentry _ hv
    obtain rfl : read (f.1, v) = d := Except.ok.inj ((hok _ hv).symm.trans hd)
    obtain rfl : g = f := List.inj_on_of_nodup_map h.nodup hg hf hname
    exact ⟨_, hv, (hmem e).2 ⟨context, hhas, hkey⟩⟩

/-- A key is found if its translation is there, and nothing else under this key. -/
lemma find?_eq_some {d : Dictionary} {s : String} (hmem : (name, s) ∈ d)
    (honly : ∀ e ∈ d, e.1 = name → e.2 = s) :
    d.find? name = some s := by
  rw [find?]
  cases hfind : List.find? (fun e => e.1 == name) d with
  | none => exact absurd (beq_self_eq_true name) (List.find?_eq_none.1 hfind _ hmem)
  | some e =>
    have hname : e.1 = name := by simpa using List.find?_some hfind
    rw [Option.map_some, honly e (List.mem_of_find?_eq_some hfind) hname]

lemma mem_of_find? {d : Dictionary} {s : String} (h : d.find? name = some s) : (name, s) ∈ d := by
  obtain ⟨e, hfind, rfl⟩ := Option.map_eq_some_iff.1 h
  have hname : e.1 = name := by simpa using List.find?_some hfind
  subst hname
  exact List.mem_of_find?_eq_some hfind

/-- **What an outline covers.** If the outline for a list of keys is read as the map that was
written, then it is read as a dictionary.  This has each key of the list with its own text exactly
if no text without a context is a context in the list, and no two keys of the list with different
texts are the same key of a dictionary. -/
theorem outline_covers_iff (keys : List (String × String))
    (hparse : Yaml.parseMap (outline keys) = .ok entries)
    (hread : (Draft.map (outlined keys)).isReadAs (.map entries) = true) :
    ∃ d, parse (outline keys) = .ok d ∧ ((∀ k ∈ keys, d.find? (key k.1 k.2) = some k.1) ↔
      (∀ k ∈ keys, ∀ k' ∈ keys, k.2 = "" → k'.2 ≠ "" → k.1 ≠ k'.2) ∧
      ∀ k ∈ keys, ∀ k' ∈ keys, key k.1 k.2 = key k'.1 k'.2 → k.1 = k'.1) := by
  have htidy := tidy_outlined keys
  obtain ⟨d, hd, hmem⟩ := mem_parse htidy hparse hread
  refine ⟨d, hd, fun hfind => ⟨fun k hk k' hk' hplain hwithin heq => ?_, fun k hk k' hk' heq => ?_⟩,
    ?_⟩
  · -- what is found of a key in the outline is found within its own context
    have hhas : ∀ k ∈ keys, Has (outlined keys) k.1 k.2 := by
      intro k hk
      obtain ⟨context, hhas, hkey⟩ := (hmem _).1 (mem_of_find? (hfind k hk))
      rwa [context_eq_of_key hkey]
    have htext : Has (outlined keys) k.1 "" := hplain ▸ hhas k hk
    obtain ⟨es, hes⟩ := (hhas k' hk').exists_group hwithin
    cases eq_of_name htidy.nodup htext.of_plain (heq ▸ hes)
  · have hfound := hfind k hk
    rw [heq, hfind k' hk'] at hfound
    exact (Option.some.inj hfound).symm
  · rintro ⟨hunmixed, hkeys⟩ k hk
    refine find?_eq_some ((hmem _).2 ⟨k.2, has_of_mem hunmixed hk, rfl⟩) ?_
    rintro ⟨name, text⟩ he hname
    obtain ⟨context, hhas, hkey⟩ := (hmem _).1 he
    exact hkeys _ (mem_of_has hhas) k hk (hkey.symm.trans hname)

theorem outline_covers_iff_menu :
    let keys := [("Hello", ""), ("Open", "menu")]
    ∃ entries, Yaml.parseMap (outline keys) = .ok entries ∧
      (Draft.map (outlined keys)).isReadAs (.map entries) = true ∧
      ∃ d, parse (outline keys) = .ok d ∧ ∀ k ∈ keys, d.find? (key k.1 k.2) = some k.1 := by
  intro keys
  have hsorted : Yaml.Write.sorted (Yaml.Write.entries 0 (outlined keys)) = Yaml.Write.entries 0
    (outlined keys) :=
    List.mergeSort_of_pairwise (by decide +kernel)
  have houtline : outline keys = String.join ((Yaml.Write.entries 0 (outlined keys)).map
      (·.2)) := by
    rw [← hsorted]
    rfl
  have hentries : (Yaml.parseMap (outline keys)).toOption.map
      (fun entries => (Draft.map (outlined keys)).isReadAs (.map entries)) = some true := by
    rw [houtline]
    decide +kernel
  obtain ⟨entries, hparse, hread⟩ := eq_ok_of_toOption hentries
  obtain ⟨d, hd, hcovers⟩ := outline_covers_iff keys hparse hread
  exact ⟨entries, hparse, hread, d, hd, hcovers.2 (by decide)⟩

/-- A text that is a context as well is lost. -/
theorem outline_mixed :
    let keys := [("menu", ""), ("Open", "menu")]
    ∃ d, parse (outline keys) = .ok d ∧ d.find? (key "Open" "menu") = some "Open" ∧
        d.find? (key "menu" "") = none := by
  intro keys
  have hread : (parse (outline keys)).toOption.map (fun d =>
    (d.find? (key "Open" "menu"), d.find? (key "menu" ""))) =
      some (some "Open", none) := by decide +kernel
  obtain ⟨d, hd, hfind⟩ := eq_ok_of_toOption hread
  exact ⟨d, hd, congrArg Prod.fst hfind, congrArg Prod.snd hfind⟩

end Dictionary

end Trellis
