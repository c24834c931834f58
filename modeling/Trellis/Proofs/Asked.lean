/-
What a template asks for grows while it is annotated, and in few ways.

Annotating adds dependencies, translations and inline templates to the manifest of a template, one
at a time, and does nothing else to it.  What each of these steps keeps (`Manifest.Kept`) is
therefore true of the manifest of an annotated template if it is true of the empty one
(`Annotated.kept_ofNodes`).  So nothing that a template depends on is loaded when its nodes were
annotated, and all of it is pending (`Annotated.pending_ofNodes`).

Of the texts that are to be translated each stands in the manifest once, where it is met first
(`Annotated.translations_ofNodes`).  The manifest says that there are translations if there is such
a text, or if a program calls the translation function (`Annotated.translates_ofNodes`).
-/
import Trellis.Proofs.Annotated

namespace Trellis

namespace Manifest

variable {α : Type} {P : Manifest α → Prop} {module : String} {m m' : Manifest α}

/-- What no step of annotating takes away from a manifest. -/
structure Kept (P : Manifest α → Prop) : Prop where
  require : ∀ m path, P m → P (m.require path)
  translate : ∀ m key, P m → P { m.translate key with translates := true }
  translates : ∀ m, P m → P { m with translates := true }
  define : ∀ m name line column m', m.define name line column = .ok m' → P m → P m'

lemma Kept.asked (hP : Kept P) {r : Request} (h : m.asked module r = .ok m') (hm : P m) : P m' := by
  cases r with
  | program p isCompiled =>
    rw [Manifest.asked] at h
    obtain rfl := Except.ok.inj h
    cases (Node.program p).callsTranslation with
    | true =>
      rw [Bool.or_true]
      exact hP.translates m hm
    | false =>
      rw [Bool.or_false]
      exact hm
  | require path =>
    obtain rfl := Except.ok.inj h
    exact hP.require m path hm
  | translate text context =>
    obtain rfl := Except.ok.inj h
    exact hP.translate m _ hm
  | define name line column => exact hP.define m name line column m' h hm

lemma Kept.foldlM (hP : Kept P) {rs : List Request}
    (h : rs.foldlM (Manifest.asked module) m = .ok m') (hm : P m) :
    P m' := by
  induction rs generalizing m with
  | nil =>
    obtain rfl := Except.ok.inj h
    exact hm
  | cons r rs ih =>
    rw [List.foldlM_cons] at h
    obtain ⟨m'', hr, hrs⟩ := bind_eq_ok.1 h
    exact ih hrs (hP.asked hr hm)

end Manifest

/-- What every step of annotating keeps is true of the manifest of an annotated template. -/
theorem Annotated.kept_ofNodes {α : Type} {P : Manifest α → Prop} (hP : Manifest.Kept P)
    (hstart : P {})
    {module : String} {ns : List Markup.Node} {a : Annotated α} (h : ofNodes module ns = .ok a) :
    P a.manifest :=
  hP.foldlM (asked_ofNodes h) hstart

namespace Manifest

variable {α : Type}

/-- Nothing that is asked for is loaded. -/
def Waiting (m : Manifest α) : Prop := ∀ d ∈ m.dependencies, d.2 = none

lemma kept_waiting : Kept (Waiting (α := α)) where
  require m path h := by
    rw [require]
    split
    · exact h
    · intro d hd
      rcases List.mem_append.1 hd with hd | hd
      · exact h d hd
      · obtain rfl := List.mem_singleton.1 hd
        rfl
  translate m key h := by
    rw [translate]
    split <;> exact h
  translates m h := h
  define m name line column m' hdefine h := by
    rw [define] at hdefine
    split at hdefine
    · cases hdefine
    · cases hdefine
      exact h

lemma pending_of_waiting {m : Manifest α} (h : m.Waiting) : m.pending = m.paths := by
  rw [pending, paths, List.filter_eq_self.2 fun d hd => by rw [h d hd]; rfl]

end Manifest

/-- When a template was annotated, all that it depends on is still to be loaded. -/
theorem Annotated.pending_ofNodes {α : Type} {module : String} {ns : List Markup.Node}
    {a : Annotated α} (h : ofNodes module ns = .ok a) : a.manifest.pending = a.manifest.paths :=
  Manifest.pending_of_waiting (kept_ofNodes Manifest.kept_waiting (fun _ hd =>
    absurd hd List.not_mem_nil) h)

/-! ### Translations -/

namespace Request

/-- The text that is to be translated, with its context. -/
def marked : Request → List (String × String)
  | .translate text context => [(text, context)]
  | .program _ _ | .require _ | .define _ _ _ => []

/-- Whether there is something to translate. -/
def translates : Request → Bool
  | .program p _ => (Node.program p).callsTranslation
  | .translate _ _ => true
  | .require _ | .define _ _ _ => false

variable {final : Container.Table} {rs rs' : List Request}

/-- Annotating leaves the texts that are to be translated alone. -/
lemma marked_stands (h : List.Forall₂ (Stands final) rs rs') :
    rs'.flatMap marked = rs.flatMap marked := by
  induction h with
  | nil => rfl
  | @cons r r' _ _ hr _ ih =>
    rw [List.flatMap_cons, List.flatMap_cons, ih]
    cases r with
    | program p isCompiled =>
      obtain ⟨q, rfl, -, -⟩ := hr
      rfl
    | _ =>
      obtain rfl : r' = _ := hr
      rfl

end Request

namespace Manifest

variable {α : Type} {m m' : Manifest α} {module : String} {ks : List (String × String)}

/-- A text of a module that is to be translated, with its context. -/
def key (module : String) (k : String × String) : TranslationKey := ⟨"text", module, k.1, k.2⟩

lemma key_injective (module : String) : Function.Injective (key module) := by
  rintro ⟨text, context⟩ ⟨text', context'⟩ h
  cases h
  rfl

lemma translations_asked {r : Request} (h : m.asked module r = .ok m')
    (hm : m.translations = ks.eraseDups.map (key module)) :
    m'.translations = (ks ++ r.marked).eraseDups.map (key module) := by
  cases r with
  | program p isCompiled =>
    obtain rfl := Except.ok.inj h
    rw [Request.marked, List.append_nil]
    exact hm
  | require path =>
    obtain rfl := Except.ok.inj h
    rw [Request.marked, List.append_nil, require]
    split <;> exact hm
  | define name line column =>
    rw [Request.marked, List.append_nil, ← hm]
    rw [Manifest.asked, define] at h
    split at h
    · cases h
    · cases h
      rfl
  | translate text context =>
    obtain rfl := Except.ok.inj h
    have hknown : key module (text, context) ∈ m.translations ↔ (text, context) ∈ ks := by
      rw [hm, List.mem_map_of_injective (key_injective module), List.mem_eraseDups]
    change (m.translate (key module (text, context))).translations = _
    rw [Request.marked, List.eraseDups_append, List.map_append, ← hm, translate]
    by_cases hks : (text, context) ∈ ks
    · rw [if_pos (List.contains_iff_mem.2 (hknown.2 hks))]
      simp [List.removeAll, hks]
    · rw [if_neg fun hmem => hks (hknown.1 (List.contains_iff_mem.1 hmem))]
      simp [List.removeAll, hks, List.eraseDups_cons]

/-- The texts are kept in the order in which they are met, each once. -/
lemma translations_foldlM {rs : List Request} (h : rs.foldlM (Manifest.asked module) m = .ok m')
    (hm : m.translations = ks.eraseDups.map (key module)) :
    m'.translations = (ks ++ rs.flatMap Request.marked).eraseDups.map (key module) := by
  induction rs generalizing m ks with
  | nil =>
    obtain rfl := Except.ok.inj h
    rwa [List.flatMap_nil, List.append_nil]
  | cons r rs ih =>
    rw [List.foldlM_cons] at h
    obtain ⟨m'', hr, hrs⟩ := bind_eq_ok.1 h
    rw [List.flatMap_cons, ← List.append_assoc]
    exact ih hrs (translations_asked hr hm)

lemma translates_asked {r : Request} (h : m.asked module r = .ok m') :
    m'.translates = (m.translates || r.translates) := by
  cases r with
  | program p isCompiled =>
    obtain rfl := Except.ok.inj h
    rfl
  | require path =>
    obtain rfl := Except.ok.inj h
    rw [Request.translates, Bool.or_false, require]
    split <;> rfl
  | define name line column =>
    rw [Manifest.asked, define] at h
    split at h
    · cases h
    · cases h
      exact (Bool.or_false _).symm
  | translate text context =>
    obtain rfl := Except.ok.inj h
    exact (Bool.or_true _).symm

lemma translates_foldlM {rs : List Request} (h : rs.foldlM (Manifest.asked module) m = .ok m') :
    m'.translates = (m.translates || rs.any Request.translates) := by
  induction rs generalizing m with
  | nil =>
    obtain rfl := Except.ok.inj h
    exact (Bool.or_false _).symm
  | cons r rs ih =>
    rw [List.foldlM_cons] at h
    obtain ⟨m'', hr, hrs⟩ := bind_eq_ok.1 h
    rw [ih hrs, translates_asked hr, List.any_cons, Bool.or_assoc]

end Manifest

namespace Annotated

variable {α : Type} {module : String} {ns : List Markup.Node} {a : Annotated α}

/-- **Texts to translate.** The manifest of an annotated template has the texts that its segments
want translated, each once, in the order in which they are met. -/
theorem translations_ofNodes (h : ofNodes module ns = .ok a) : a.manifest.translations =
    ((Markup.Node.requestsList ns).flatMap Request.marked).eraseDups.map (Manifest.key module) := by
  have hstart : ({} : Manifest α).translations = [].eraseDups.map (Manifest.key module) := rfl
  have htranslations := Manifest.translations_foldlM (asked_ofNodes h) hstart
  rwa [List.nil_append, Request.marked_stands (stands_ofNodes h).2] at htranslations

/-- The manifest of an annotated template says whether something in it is to be translated. -/
theorem translates_ofNodes (h : ofNodes module ns = .ok a) :
    a.manifest.translates = (Markup.Node.requestsList a.nodes).any Request.translates :=
  (Manifest.translates_foldlM (asked_ofNodes h)).trans (Bool.false_or _)

end Annotated

end Trellis
