/-
Translations of a template, from its tree to its description.

The keys of a description are the texts of the translation segments of the template, wherever these
stand, each once and in the order in which they are met.  What a program asks the translation
function for is no key, even if it is constant.  So the keys are all that the template wants
translated exactly if its calls repeat segments (`translations_ofAnnotated`).

An annotated template says that there are translations exactly if it has such a segment, if one of
its expressions depends on translations when it is compiled, or if a binding mark is given one
(`translates_iff`).  That is so as long as no program calls the translation function in parentheses.
-/
import Trellis.Description.Compile
import Trellis.Proofs.Asked
import Trellis.Proofs.Code.Translations
import Trellis.Proofs.Description.Entered
import Trellis.Proofs.Readable

namespace Trellis

/-! ### What a template wants translated -/

/-- The text and the context that a node passes to the translation function, if they are constants.
-/
def Node.literalCall? : Node → Option (String × String)
  | .expr (.call _ (.ident _ name) [.lit _ (.string text _)]) =>
    if name == translationFunction then some (text, "") else none
  | .expr (.call _ (.ident _ name) [.lit _ (.string text _), .lit _ (.string context _)]) =>
    if name == translationFunction then some (text, context) else none
  | _ => none

namespace Request

/-- What the program that is asked for passes to the translation function as constants. -/
def called : Request → List (String × String)
  | .program p _ => (Node.program p).postOrder.filterMap Node.literalCall?
  | .require _ | .translate _ _ | .define _ _ _ => []

/-- What is to be translated, by a segment or by a call. -/
def wanted (r : Request) : List (String × String) := r.marked ++ r.called

/-- Whether calls only ask for what is in `known`, or in a segment that stands before them. -/
def callsRepeat : List (String × String) → List Request → Bool
  | _, [] => true
  | known, r :: rs => r.called.all known.contains && callsRepeat (known ++ r.marked) rs

/-- A request is for a segment or for a program. -/
lemma marked_or_called (r : Request) : r.marked = [] ∨ r.called = [] := by
  cases r <;> first | exact .inl rfl | exact .inr rfl

/-- Whether the program that is asked for does not call the translation function in parentheses. -/
def callsPlainly : Request → Bool
  | .program p _ => p.nodes.all Node.callsPlainly
  | .require _ | .translate _ _ | .define _ _ _ => true

/-- Whether a mark in the program that is asked for is given a translation. -/
def givesTranslation : Request → Bool
  | .program p _ => p.nodes.any Node.isGivenTranslation
  | .require _ | .translate _ _ | .define _ _ _ => false

end Request

/-- The compiled value of a program depends on translations. -/
def Code.Translates (c : Code.Options) (p : Program) : Prop :=
  ∃ field forced s f, ((Code.value c field forced p).run.run s).1 = .ok f ∧
    f.flags.translation = true

/-! ### Copies -/

section

variable {κ : Type} [BEq κ] [LawfulBEq κ]

lemma mem_iff_of_eraseDups_eq {ks ls : List κ} (h : ks.eraseDups = ls.eraseDups) (k : κ) : k ∈ ks ↔
    k ∈ ls := by
  rw [← List.mem_eraseDups, h, List.mem_eraseDups]

/-- What is added to lists with the same members without copies leaves them so. -/
lemma eraseDups_append_congr {ks ls : List κ} (h : ks.eraseDups = ls.eraseDups) (more : List κ) :
    (ks ++ more).eraseDups = (ls ++ more).eraseDups := by
  have hmore : more.removeAll ks = more.removeAll ls := by
    refine List.filter_congr fun k _ => ?_
    rw [Bool.eq_iff_iff]
    simp [mem_iff_of_eraseDups_eq h k]
  rw [List.eraseDups_append, List.eraseDups_append, h, hmore]

/-- What is there already adds nothing. -/
lemma eraseDups_append_of_subset {ks more : List κ} (h : ∀ k ∈ more, k ∈ ks) :
    (ks ++ more).eraseDups = ks.eraseDups := by
  have hmore : more.removeAll ks = [] := by
    refine List.filter_eq_nil_iff.2 fun k hk => ?_
    simp [h k hk]
  rw [List.eraseDups_append, hmore, List.eraseDups_nil, List.append_nil]

lemma nodup_eraseDups (ks : List κ) : ks.eraseDups.Nodup := by
  induction hn : ks.length using Nat.strongRecOn generalizing ks with
  | _ n ih =>
    cases ks with
    | nil => exact List.nodup_nil
    | cons k ks =>
      subst hn
      rw [List.eraseDups_cons, List.nodup_cons, List.mem_eraseDups]
      refine ⟨by simp, ih _ ?_ _ rfl⟩
      exact Nat.lt_succ_of_le (List.length_filter_le _ _)

end

/-- If calls only repeat what stands before them, all that is wanted is in segments. -/
lemma Request.eraseDups_wanted {rs : List Request} {ks known : List (String × String)}
    (hks : ks.eraseDups = known.eraseDups) (h : callsRepeat known rs = true) :
    (ks ++ rs.flatMap wanted).eraseDups = (known ++ rs.flatMap marked).eraseDups := by
  induction rs generalizing ks known with
  | nil => rwa [List.flatMap_nil, List.flatMap_nil, List.append_nil, List.append_nil]
  | cons r rs ih =>
    rw [callsRepeat, Bool.and_eq_true, List.all_eq_true] at h
    obtain ⟨hcalled, hrest⟩ := h
    rw [List.flatMap_cons, List.flatMap_cons, ← List.append_assoc, ← List.append_assoc]
    refine ih ?_ hrest
    rw [wanted]
    obtain hmarked | hnone := r.marked_or_called
    · rw [hmarked, List.nil_append, List.append_nil, ← hks]
      refine eraseDups_append_of_subset fun k hk => ?_
      exact (mem_iff_of_eraseDups_eq hks k).2 (List.contains_iff_mem.1 (hcalled k hk))
    · rw [hnone, List.append_nil]
      exact eraseDups_append_congr hks _

namespace Description

open Markup Build

variable {α : Type} {module : String} {ns : List Markup.Node} {an : Annotated α} {o : Options}
  {d : Description}

/-- A description has the keys of its segments. -/
lemma translations_eq (ha : Annotated.ofNodes module ns = .ok an) (hd : ofAnnotated o an = .ok d) :
    d.translations = ((Node.requestsList ns).flatMap Request.marked).eraseDups := by
  obtain ⟨f, -, rfl, -⟩ := wellFormed_ofAnnotated ha hd
  rw [finished, Annotated.translations_ofNodes ha, List.map_map]
  exact List.map_id _

/-- Whether a template is read and its description built, so that what comes of it passes a check.
-/
def builds (check : List Markup.Node → Annotated Unit → Description → Bool) (source : String) :
    Bool :=
  match Markup.read {} source with
  | .error _ => false
  | .ok ns =>
    match (Annotated.ofNodes "A" ns : Except Fault (Annotated Unit)) with
    | .error _ => false
    | .ok an =>
      match ofAnnotated { module := "A" } an with
      | .error _ => false
      | .ok d => check ns an d

lemma exists_of_builds {check : List Markup.Node → Annotated Unit → Description → Bool}
    {source : String} (h : builds check source = true) :
    ∃ (ns : List Markup.Node) (an : Annotated Unit) (d : Description),
      Markup.read {} source = .ok ns ∧ Annotated.ofNodes "A" ns = .ok an ∧
        ofAnnotated { module := "A" } an = .ok d ∧ check ns an d = true := by
  rw [builds] at h
  split at h
  next => cases h
  next ns hns =>
    split at h
    next => cases h
    next an han =>
      split at h
      next => cases h
      next d hd => exact ⟨ns, an, d, hns, han, hd, h⟩

/-- **The keys of a template.** A description lists each key once.  It lists all that the segments
and the calls of the template want translated if and only if each call repeats the text and the
context of a segment; and if that segment stands before the call, it lists them in the order in
which they are met. -/
theorem translations_ofAnnotated (ha : Annotated.ofNodes module ns = .ok an)
    (hd : ofAnnotated o an = .ok d) :
    d.translations.Nodup ∧
      ((∀ k ∈ (Node.requestsList ns).flatMap Request.wanted, k ∈ d.translations) ↔
        ∀ k ∈ (Node.requestsList ns).flatMap Request.called,
        k ∈ (Node.requestsList ns).flatMap Request.marked) ∧
      (Request.callsRepeat [] (Node.requestsList ns) = true →
        d.translations = ((Node.requestsList ns).flatMap Request.wanted).eraseDups) := by
  rw [translations_eq ha hd]
  refine ⟨nodup_eraseDups _, ?_, fun hrepeat => ?_⟩
  · simp only [List.mem_eraseDups, Request.wanted, List.mem_flatMap, List.mem_append]
    constructor
    · rintro h k ⟨r, hr, hk⟩
      exact h k ⟨r, hr, .inr hk⟩
    · rintro h k ⟨r, hr, hk | hk⟩
      · exact ⟨r, hr, hk⟩
      · exact h k ⟨r, hr, hk⟩
  · have hempty : ([] : List (String × String)).eraseDups = [].eraseDups := rfl
    exact (Request.eraseDups_wanted hempty hrepeat).symm

/-- A text that stands in a segment and is then asked for by a call. -/
theorem translations_repeated : ∃ (ns : List Markup.Node) (an : Annotated Unit) (d : Description),
    Markup.read {} "\x7b[ Bye ]\x7d\x7b\x7b rk('Bye') \x7d\x7d" = .ok ns ∧
    Annotated.ofNodes "A" ns = .ok an ∧
      ofAnnotated { module := "A" } an = .ok d ∧ Request.callsRepeat []
      (Node.requestsList ns) = true ∧
        (Node.requestsList ns).flatMap Request.wanted = [("Bye", ""), ("Bye", "")] ∧
            d.translations = [("Bye", "")] := by
  have hbuilds : builds (fun ns _ _ => Request.callsRepeat [] (Node.requestsList ns) &&
      (Node.requestsList ns).flatMap Request.wanted == [("Bye", ""), ("Bye", "")])
        "\x7b[ Bye ]\x7d\x7b\x7b rk('Bye') \x7d\x7d" = true := by decide +kernel
  obtain ⟨ns, an, d, hns, han, hd, hcheck⟩ := exists_of_builds hbuilds
  rw [Bool.and_eq_true, beq_iff_eq] at hcheck
  obtain ⟨hrepeat, hwanted⟩ := hcheck
  obtain ⟨-, -, htranslations⟩ := translations_ofAnnotated han hd
  refine ⟨ns, an, d, hns, han, hd, hrepeat, hwanted, (htranslations hrepeat).trans ?_⟩
  rw [hwanted]
  rfl

/-- A text that only a call asks for is missing. -/
theorem translations_missing : ∃ (ns : List Markup.Node) (an : Annotated Unit) (d : Description),
    Markup.read {} "\x7b\x7b rk('Bye') \x7d\x7d" = .ok ns ∧ Annotated.ofNodes "A" ns = .ok an ∧
      ofAnnotated { module := "A" } an = .ok d ∧
        (Node.requestsList ns).flatMap Request.wanted = [("Bye", "")] ∧ d.translations = [] := by
  have hbuilds : builds (fun ns _ d => (Node.requestsList ns).flatMap Request.wanted ==
    [("Bye", "")] &&
      d.translations == []) "\x7b\x7b rk('Bye') \x7d\x7d" = true := by decide +kernel
  obtain ⟨ns, an, d, hns, han, hd, hcheck⟩ := exists_of_builds hbuilds
  rw [Bool.and_eq_true, beq_iff_eq, beq_iff_eq] at hcheck
  exact ⟨ns, an, d, hns, han, hd, hcheck.1, hcheck.2⟩

/-! ### Whether there are translations -/

/-- Expressions of a template that was read are compiled. -/
lemma isCompiled_of_read {ro : ReadOptions} {source : String}
    (hread : Markup.read ro source = .ok ns)
    (ha : Annotated.ofNodes module ns = .ok an) {p : Program} {isCompiled : Bool}
    (hp : .program p isCompiled ∈ Node.requestsList an.nodes) : isCompiled = true := by
  obtain ⟨r, hr, hstands⟩ :=
    Annotated.exists_of_mem_left (List.Forall₂.flip (Annotated.stands_ofNodes ha).2) hp
  have hcompiled := Markup.requests_read hread r hr
  cases r with
  | program q isCompiled' =>
    obtain ⟨q', heq, -, -⟩ := hstands
    cases heq
    exact hcompiled.2
  | _ => cases (hstands : Request.program p isCompiled = _)

/-- A translation that is compiled is seen where the program is annotated, and so is one that a mark
is given. -/
lemma callsTranslation_of_asked {c : Code.Options} {p : Program}
    (hplain : p.nodes.all Node.callsPlainly = true)
    (h : Code.Translates c p ∨ p.nodes.any Node.isGivenTranslation = true) :
    (Trellis.Node.program p).callsTranslation = true := by
  obtain ⟨field, forced, s, f, hf, htranslation⟩ | hgiven := h
  · rw [(Code.value_callsTranslation c field forced p s f hf).1 hplain, htranslation, Bool.true_or]
  · exact Code.given_program p hgiven

/-- A call of the translation function is given to a mark, or compiled to something that depends on
translations. -/
lemma exists_entry_or_given (ha : Annotated.ofNodes module ns = .ok an)
    (hd : ofAnnotated o an = .ok d)
    {p : Program} (hp : .program p true ∈ Node.requestsList an.nodes)
    (hplain : p.nodes.all Node.callsPlainly = true)
    (hcalls : (Trellis.Node.program p).callsTranslation = true) :
    (∃ e ∈ d.expressions, e.program = p ∧ Code.Translates (code o) p) ∨
      p.nodes.any Node.isGivenTranslation = true := by
  by_cases hgiven : p.nodes.any Node.isGivenTranslation = true
  · exact .inr hgiven
  rw [Bool.not_eq_true] at hgiven
  left
  obtain ⟨field, s, f, hf, hconstant⟩ | ⟨e, he, hprogram, hcompiles⟩ := entered_ofAnnotated ha hd hp
  · -- a constant asks for nothing
    obtain ⟨htranslation, hnone⟩ := Code.value_callsTranslation (code o) field false p s f hf
    rw [hcalls, hnone hconstant, hgiven] at htranslation
    cases htranslation hplain
  · obtain ⟨f, hf⟩ := hcompiles {}
    refine ⟨e, he, hprogram, "", false, {}, f, hf, ?_⟩
    have htranslation := (Code.value_callsTranslation (code o) "" false p {} f hf).1 hplain
    rwa [hcalls, hgiven, Bool.or_false, eq_comm] at htranslation

/-- The manifest of a template whose programs call plainly. -/
lemma translates_manifest_iff {ro : ReadOptions} {source : String}
    (hread : Markup.read ro source = .ok ns)
    (ha : Annotated.ofNodes module ns = .ok an) (hd : ofAnnotated o an = .ok d)
    (hplain : (Node.requestsList an.nodes).all Request.callsPlainly = true) :
    an.manifest.translates = true ↔
    (∃ text context, .translate text context ∈ Node.requestsList ns) ∨
      ∃ p isCompiled, .program p isCompiled ∈ Node.requestsList an.nodes ∧
        ((∃ e ∈ d.expressions, e.program = p ∧ Code.Translates (code o) p) ∨
          p.nodes.any Node.isGivenTranslation = true) := by
  have hstands := (Annotated.stands_ofNodes ha).2
  have hplain' : ∀ {p isCompiled}, .program p isCompiled ∈ Node.requestsList an.nodes →
      p.nodes.all Node.callsPlainly = true := fun hp => List.all_eq_true.1 hplain _ hp
  rw [Annotated.translates_ofNodes ha, List.any_eq_true]
  constructor
  · rintro ⟨r, hr, htranslates⟩
    cases r with
    | program p isCompiled =>
      obtain rfl := isCompiled_of_read hread ha hr
      exact .inr ⟨p, true, hr, exists_entry_or_given ha hd hr (hplain' hr) htranslates⟩
    | translate text context =>
      obtain ⟨r', hr', heq⟩ := Annotated.exists_of_mem_left (List.Forall₂.flip hstands) hr
      cases r' with
      | program q isCompiled =>
        obtain ⟨q', heq, -, -⟩ := heq
        cases heq
      | translate text' context' => exact .inl ⟨text', context', hr'⟩
      | _ => cases (heq : Request.translate text context = _)
    | _ => cases htranslates
  · rintro (⟨text, context, hmem⟩ | ⟨p, isCompiled, hp, hasked⟩)
    · obtain ⟨r', hr', heq⟩ := Annotated.exists_of_mem_left hstands hmem
      cases (heq : r' = Request.translate text context)
      exact ⟨_, hr', rfl⟩
    · refine ⟨_, hp, callsTranslation_of_asked (c := code o) (hplain' hp) (hasked.imp_left ?_)⟩
      rintro ⟨e, -, -, htranslates⟩
      exact htranslates

/-- **Whether there are translations.** A program that does not call the translation function in
parentheses calls it exactly if its compiled value depends on translations, or a binding mark in it
is given one, which is not compiled.  So if no program of a template calls it in parentheses, the
manifest says that there are translations exactly if the template has a text that is to be
translated, or a program that has an entry in the description and whose compiled value depends on
translations, or one with such a mark. -/
theorem translates_iff :
    (∀ (c : Code.Options) (field : String) (forced : Bool) (p : Program) (s : Symbols)
    (f : Code.Fragment),
      p.nodes.all Node.callsPlainly = true → ((Code.value c field forced p).run.run s).1 = .ok f →
        ((Trellis.Node.program p).callsTranslation = true ↔
          f.flags.translation = true ∨ p.nodes.any Node.isGivenTranslation = true)) ∧
    ∀ (ro : ReadOptions) (source module : String) (o : Options) (ns : List Markup.Node)
    (an : Annotated α)
      (d : Description), Markup.read ro source = .ok ns → Annotated.ofNodes module ns = .ok an →
        ofAnnotated o an = .ok d → (Node.requestsList an.nodes).all Request.callsPlainly = true →
          (an.manifest.translates = true ↔
          (∃ text context, .translate text context ∈ Node.requestsList ns) ∨
            ∃ p isCompiled, .program p isCompiled ∈ Node.requestsList an.nodes ∧
              ((∃ e ∈ d.expressions, e.program = p ∧ Code.Translates (code o) p) ∨
                p.nodes.any Node.isGivenTranslation = true)) := by
  refine ⟨fun c field forced p s f hp hf => ?_, fun ro source module o ns an d hread ha hd hplain =>
    translates_manifest_iff hread ha hd hplain⟩
  rw [(Code.value_callsTranslation c field forced p s f hf).1 hp, Bool.or_eq_true]

/-- A template without segments whose only expression asks for a translation. -/
theorem translates_iff_call : ∃ (ns : List Markup.Node) (an : Annotated Unit) (d : Description),
    Markup.read {} "\x7b\x7b rk('Bye') \x7d\x7d" = .ok ns ∧ Annotated.ofNodes "A" ns = .ok an ∧
      ofAnnotated { module := "A" } an = .ok d ∧
      (Node.requestsList an.nodes).all Request.callsPlainly = true ∧
        (∀ text context, .translate text context ∉ Node.requestsList ns) ∧
          an.manifest.translates = true ∧
          (∃ p isCompiled, .program p isCompiled ∈ Node.requestsList an.nodes ∧
            p.nodes.all Node.callsPlainly = true ∧
            ∃ e ∈ d.expressions, e.program = p ∧ ∃ field forced s f,
              ((Code.value (code { module := "A" }) field forced p).run.run s).1 = .ok f ∧
                f.flags.translation = true ∧ (Trellis.Node.program p).callsTranslation = true) := by
  have hbuilds : builds (fun ns an _ => (Node.requestsList an.nodes).all Request.callsPlainly &&
      ((Node.requestsList ns).flatMap Request.marked).isEmpty && an.manifest.translates &&
        (Node.requestsList an.nodes).all fun r =>
            !r.givesTranslation) "\x7b\x7b rk('Bye') \x7d\x7d" = true := by
    decide +kernel
  obtain ⟨ns, an, d, hns, han, hd, hcheck⟩ := exists_of_builds hbuilds
  simp only [Bool.and_eq_true, List.isEmpty_iff] at hcheck
  obtain ⟨⟨⟨hplain, hmarked⟩, htranslates⟩, hnotgiven⟩ := hcheck
  have hnone : ∀ text context, .translate text context ∉ Node.requestsList ns :=
      fun text context hmem =>
    List.not_mem_nil (hmarked ▸ List.mem_flatMap.2
      ⟨_, hmem, List.mem_singleton_self (text, context)⟩)
  obtain ⟨text, context, hmem⟩ | ⟨p, isCompiled, hp, hentry | hgiven⟩ :=
    (translates_iff.2 _ _ _ _ ns an d hns han hd hplain).1 htranslates
  · exact absurd hmem (hnone text context)
  · obtain ⟨e, he, hprogram, field, forced, s, f, hf, htranslation⟩ := hentry
    have hp' : p.nodes.all Node.callsPlainly = true := List.all_eq_true.1 hplain _ hp
    have hcalls := ((translates_iff (α := Unit)).1 _ field forced p s f hp' hf).2
      (.inl htranslation)
    exact ⟨ns, an, d, hns, han, hd, hplain, hnone, htranslates, p, isCompiled, hp, hp', e, he,
      hprogram, field,
      forced, s, f, hf, htranslation, hcalls⟩
  · have hnotgiven' : (!p.nodes.any Node.isGivenTranslation) = true :=
      List.all_eq_true.1 hnotgiven _ hp
    rw [hgiven] at hnotgiven'
    cases hnotgiven'

/-- What a text is read as calls the translation function for annotating, and depends on
translations when it is compiled. -/
def answers (source : String) : Option (Bool × Bool) :=
  match Program.parse source with
  | .error _ => none
  | .ok p =>
    match ((Code.value {} "" false p).run.run {}).1 with
    | .error _ => none
    | .ok f => some ((Trellis.Node.program p).callsTranslation, f.flags.translation)

lemma exists_of_answers {source : String} {calls depends : Bool}
    (h : answers source = some (calls, depends)) :
    ∃ p f, Program.parse source = .ok p ∧ ((Code.value {} "" false p).run.run {}).1 = .ok f ∧
      (Trellis.Node.program p).callsTranslation = calls ∧ f.flags.translation = depends := by
  rw [answers] at h
  split at h
  next => cases h
  next p hp =>
    split at h
    next => cases h
    next f hf =>
      cases h
      exact ⟨p, f, hp, hf, rfl, rfl⟩

/-- A call of the translation function in parentheses is only seen where it is compiled, and what a
binding mark is given only where it is annotated. -/
theorem translates_differ :
    (∃ p f, Program.parse "(rk)('Hello')" = .ok p ∧ ((Code.value {} "" false p).run.run {}).1 =
    .ok f ∧
      (Trellis.Node.program p).callsTranslation = false ∧ f.flags.translation = true) ∧
    ∃ p f, Program.parse "x|bind('a', rk('b'))" = .ok p ∧
    ((Code.value {} "" false p).run.run {}).1 = .ok f ∧
      (Trellis.Node.program p).callsTranslation = true ∧ f.flags.translation = false := by
  have hmissed : answers "(rk)('Hello')" = some (false, true) := by decide +kernel
  have hleft : answers "x|bind('a', rk('b'))" = some (true, false) := by decide +kernel
  exact ⟨exists_of_answers hmissed, exists_of_answers hleft⟩

end Description

end Trellis
