/-
Building with and without folding, node by node.

The two sides go through the same nodes.  Each step keeps the tables as they have to be and makes
instructions that agree (`Build.sim_node`).
-/
import Trellis.Proofs.Description.Entry
import Trellis.Proofs.Description.Twin

namespace Trellis.Description

open Container Markup

namespace Build

open Construction

variable {a : Arena} {o : Options} {L L' : List String} {K : Prop}

/-! ### Texts and attributes -/

/-- The one expression of a text is among its expressions. -/
lemma textAll_single? {P : Program → Prop} {ss : List Segment} {source : String} {p : Program}
    (h : TextAll P ss) (hsingle : Segment.single? ss = some (source, p)) : P p := by
  have hrequests := textAll_requests.1 h
  rw [textRequests_single? hsingle] at hrequests
  exact hrequests _ (List.mem_singleton_self _)

theorem sim_parts (field : String) {ss : List Segment} (h : TextAll a.table.Knows ss) :
    Sim a (code o) L L' K (parts (folding o) field ss) (parts (plain o) field ss)
      (List.Forall₂ (PartAgrees (SameText L L') (FoldedAt a (code o) L'))) := by
  refine sim_mapM fun s hs => ?_
  cases hcontent : s.content with
  | text value source => exact sim_pure fun _ => .text value
  | translation text context _ _ => exact sim_pure fun _ => .translation text context
  | expression source p => exact sim_exprPart field (h s hs source p hcontent)

/-- The parts of an attribute, in one of its two forms. -/
lemma sim_markup (field : String) {ss : List Segment} (h : TextAll a.table.Knows ss) :
    Sim a (code o) L L' K (do return AttrValue.markup (← parts (folding o) field ss))
      (do return AttrValue.markup (← parts (plain o) field ss))
      (AttrValueAgrees (SameText L L') (FoldedAt a (code o) L')) :=
  sim_bind (sim_parts field h) fun _ _ => sim_pure fun hk => .markup hk.2

lemma sim_option (field : String) {ss : List Segment} (h : TextAll a.table.Knows ss) :
    Sim a (code o) L L' K (do return AttrValue.option (← parts (folding o) field ss))
      (do return AttrValue.option (← parts (plain o) field ss))
      (AttrValueAgrees (SameText L L') (FoldedAt a (code o) L')) :=
  sim_bind (sim_parts field h) fun _ _ => sim_pure fun hk => .option hk.2

theorem sim_attrValue (atCall : Bool) {attr : Attribute} (h : attr.value.All a.table.Knows) :
    Sim a (code o) L L' K (attrValue (folding o) atCall attr) (attrValue (plain o) atCall attr)
      (AttrValueAgrees (SameText L L') (FoldedAt a (code o) L')) := by
  obtain ⟨name, kind, raw, value, line, column⟩ := attr
  cases value with
  | program p =>
    cases kind with
    | bind =>
      refine sim_bind (sim_slot rfl rfl _ h) fun i j => ?_
      refine sim_compiled rfl rfl (Code.bind_alike rfl p name) fun f g hfg => ?_
      rw [hfg.binding]
      exact sim_pure fun hk => .bind _ hk.2
    | event => exact sim_bind (sim_slot rfl rfl _ h) fun i j => sim_pure fun hk => .event hk.2
    | plain => exact sim_pure fun _ => .markup .nil
    | «attribute» => exact sim_pure fun _ => .markup .nil
  | segments ss =>
    cases hplain : atCall && kind == .plain with
    | false =>
      simp only [attrValue, hplain]
      exact sim_markup name h
    | true =>
      simp only [attrValue, hplain, if_true]
      cases hsingle : Segment.single? ss with
      | none => exact sim_option name h
      | some r =>
        obtain ⟨source, p⟩ := r
        have hp : a.table.Knows p := textAll_single? h hsingle
        refine sim_compiled rfl rfl (Code.value_alike rfl p name false) fun f g hfg => ?_
        simp only [hfg.binding]
        split
        · exact sim_bind (sim_slot rfl rfl _ hp) fun i j => sim_pure fun hk => .bind _ hk.2
        · exact sim_option name h

theorem sim_attrs (atCall : Bool) {as : List Attribute} (h : AttrsAll a.table.Knows as) :
    Sim a (code o) L L' K (attrs (folding o) atCall as) (attrs (plain o) atCall as)
      (List.Forall₂ (AttrAgrees (SameText L L') (FoldedAt a (code o) L'))) := by
  refine sim_mapM fun attr hattr => ?_
  refine sim_bind (sim_located attr.line attr.column (sim_attrValue atCall (h attr hattr)))
    fun v w => ?_
  exact sim_pure fun hk => ⟨rfl, hk.2⟩

mutual
theorem sim_optionValue (field : String) : ∀ {K : Prop} {v : TypedValue}, v.All a.table.Knows →
    Sim a (code o) L L' K (optionValue (folding o) field v) (optionValue (plain o) field v)
      (OptionValueAgrees (SameText L L') (FoldedAt a (code o) L'))
  | _, .scalar type ss, h => by
    rw [optionValue, optionValue]
    exact sim_bind (sim_parts field h) fun _ _ => sim_pure fun hk => .scalar type.name hk.2
  | _, .array items, h => by
    rw [optionValue, optionValue]
    exact sim_bind (sim_optionItems h) fun _ _ => sim_pure fun hk => .array hk.2
  | _, .object properties, h => by
    rw [optionValue, optionValue]
    exact sim_bind (sim_options h) fun _ _ => sim_pure fun hk => .object hk.2

theorem sim_optionItems : ∀ {K : Prop} {vs : List TypedValue}, TypedValue.AllOf a.table.Knows vs →
    Sim a (code o) L L' K (optionItems (folding o) vs) (optionItems (plain o) vs)
      (OptionsAgree (SameText L L') (FoldedAt a (code o) L'))
  | _, [], _ => by
    rw [optionItems, optionItems]
    exact sim_pure fun _ => .nil
  | _, v :: vs, ⟨hv, hvs⟩ => by
    rw [optionItems, optionItems]
    refine sim_bind (sim_optionValue "" hv) fun v w => ?_
    exact sim_bind (sim_optionItems hvs) fun _ _ => sim_pure fun hk => .cons "" hk.1.2 hk.2

theorem sim_options : ∀ {K : Prop} {os : List TypedOption}, TypedOption.AllOf a.table.Knows os →
    Sim a (code o) L L' K (options (folding o) os) (options (plain o) os)
      (OptionsAgree (SameText L L') (FoldedAt a (code o) L'))
  | _, [], _ => by
    rw [options, options]
    exact sim_pure fun _ => .nil
  | _, .mk _ name v :: os, ⟨hv, hos⟩ => by
    rw [options, options]
    refine sim_bind (sim_optionValue name hv) fun v w => ?_
    exact sim_bind (sim_options hos) fun _ _ => sim_pure fun hk => .cons name hk.1.2 hk.2
end

/-! ### Calls and nodes -/

theorem sim_forcedSlot {p : Program} (hp : a.table.Knows p) :
    Sim a (code o) L L' K (forcedSlot (folding o) p) (forcedSlot (plain o) p) (SameText L L') :=
  sim_slot rfl rfl _ hp

theorem sim_optSlot {clause : Option Program} (h : ClauseAll a.table.Knows clause) :
    Sim a (code o) L L' K (optSlot (folding o) clause) (optSlot (plain o) clause)
      (ClauseAgrees (SameText L L')) := by
  cases clause with
  | none => exact sim_pure fun _ => .none
  | some p => exact sim_bind (sim_forcedSlot (h p rfl)) fun i j => sim_pure fun hk => .some hk.2

/-- Stored programs get slots, one after the other. -/
def allocatedAll (d : Construction) (es : List Entry) : Construction :=
  es.foldl (fun d e => d.allocated e.stored) d

lemma allocatedAll_eq (d : Construction) (es : List Entry) :
    allocatedAll d es = { d with arena := (allocatedAll d es).arena } := by
  induction es generalizing d with
  | nil => rfl
  | cons e es ih => exact ih (d.allocated e.stored)

lemma watchers_allocatedAll (d : Construction) (es : List Entry) :
    (allocatedAll d es).watchers = d.watchers := by rw [allocatedAll_eq]

lemma bodies_allocatedAll (d : Construction) (es : List Entry) :
    (allocatedAll d es).bodies = d.bodies := by rw [allocatedAll_eq]

lemma prefix_allocatedAll (d : Construction) (es : List Entry) :
    d.texts <+: (allocatedAll d es).texts := by
  induction es generalizing d with
  | nil => exact List.prefix_rfl
  | cons e es ih => exact (prefix_allocated d e.stored).trans (ih (d.allocated e.stored))

lemma twin_allocatedAll {c : Code.Options} {d d' : Construction} {es : List Entry}
    (h : Twin a c d d')
    (hes : ∀ e ∈ es, a.table.Has e.stored) : Twin a c (allocatedAll d es) (allocatedAll d' es) := by
  induction es generalizing d d' with
  | nil => exact h
  | cons e es ih =>
    refine ih (h.allocated ?_) fun e' he' => hes e' (List.mem_cons_of_mem _ he')
    rw [(hes e List.mem_cons_self).find?]
    rfl

lemma arena_allocatedAll (d : Construction) (es : List Entry) :
    (allocatedAll d es).arena = { d.arena with table := d.arena.table.allocateAll es } := by
  induction es generalizing d with
  | nil => rfl
  | cons e es ih => exact ih (d.allocated e.stored)

/-- Asking what a container watches gives slots to its entries. -/
lemma on_watched {d : Construction} {id : Nat} {w : Container} (hget : d.arena.get? id = some w) :
    (Work.watched id).on d.arena =
      (.ok (Work.inOrder (allocatedAll d (watchedEntries w)).arena.table w),
        (allocatedAll d (watchedEntries w)).arena) := by
  rw [Work.on_watched, hget, Option.getD_some, arena_allocatedAll]

lemma run_watch_known {d : Construction} {id : Nat} {r : Nat × Option Nat}
    (h : d.watchers.find? (·.1 == id) = some r) : (watch (some id)).run d = .ok (r.2, d) := by
  rw [watch, StateT.run_bind, StateT.run_get, pure_bind]
  simp only [h]
  rfl

lemma run_watch_missing {d : Construction} {id : Nat} (h : d.watchers.find? (·.1 == id) = none)
    (hget : d.arena.get? id = none) : (watch (some id)).run d = .ok (none, d) := by
  rw [watch, StateT.run_bind, StateT.run_get, pure_bind]
  simp only [h, hget, Option.isNone_none, if_true]
  rfl

lemma run_watch_new {d : Construction} {id : Nat} {w : Container}
    (h : d.watchers.find? (·.1 == id) = none) (hget : d.arena.get? id = some w) :
    ∃ known watches, (watch (some id)).run d = .ok (known,
      { allocatedAll d (watchedEntries w) with
        watches, watchers := (id, known) :: (allocatedAll d (watchedEntries w)).watchers }) := by
  rw [watch, StateT.run_bind, StateT.run_get, pure_bind]
  simp only [h, hget, Option.isNone_some, Bool.false_eq_true, if_false]
  rw [run_bind, run_work, on_watched hget]
  simp only
  rw [← allocatedAll_eq]
  generalize Work.inOrder (allocatedAll d (watchedEntries w)).arena.table w = found
  cases hempty : (found.map (·.1)).isEmpty with
  | true =>
    refine ⟨none, (allocatedAll d (watchedEntries w)).watches, ?_⟩
    simp only [if_true]
    rfl
  | false =>
    refine ⟨some (allocatedAll d (watchedEntries w)).watches.size,
      (allocatedAll d (watchedEntries w)).watches.push
        (Container.ranges ((found.map (·.1)).map Int.ofNat)), ?_⟩
    simp only [Bool.false_eq_true, if_false]
    rfl

/-- What a container watches is the same in both, and gets slots in both tables. -/
theorem sim_watch (ha : a.Held a.table) (container : Option Nat) :
    Sim a (code o) L L' K (watch container) (watch container) fun _ _ => True := by
  intro d d' hd
  cases container with
  | none => exact ⟨hd, List.prefix_rfl, List.prefix_rfl, fun _ _ _ hbodies => ⟨hbodies, trivial⟩⟩
  | some id =>
    have hsame : (d.watchers.find? (·.1 == id)).isSome =
        (d'.watchers.find? (·.1 == id)).isSome := by
      have hany := congrArg (fun keys : List Nat => keys.any (· == id)) hd.watchers
      simp only [List.any_map, Function.comp_def] at hany
      rw [List.isSome_find?, List.isSome_find?]
      exact hany
    have hget : d.arena.get? id = d'.arena.get? id := by
      rw [Arena.get?, hd.left.containers, Arena.get?, hd.right.containers]
    cases hfind : d.watchers.find? (·.1 == id) with
    | some r =>
      rw [hfind, Option.isSome_some] at hsame
      obtain ⟨r', hfind'⟩ := Option.isSome_iff_exists.1 hsame.symm
      rw [run_watch_known hfind, run_watch_known hfind']
      exact ⟨hd, List.prefix_rfl, List.prefix_rfl, fun _ _ _ hbodies => ⟨hbodies, trivial⟩⟩
    | none =>
      rw [hfind, Option.isSome_none] at hsame
      have hfind' := Option.isNone_iff_eq_none.1 (Option.isSome_eq_false_iff.1 hsame.symm)
      cases hw : d.arena.get? id with
      | none =>
        rw [run_watch_missing hfind hw, run_watch_missing hfind' (hget.symm.trans hw)]
        exact ⟨hd, List.prefix_rfl, List.prefix_rfl, fun _ _ _ hbodies => ⟨hbodies, trivial⟩⟩
      | some w =>
        obtain ⟨known, watches, hrun⟩ := run_watch_new hfind hw
        obtain ⟨known', watches', hrun'⟩ := run_watch_new hfind' (hget.symm.trans hw)
        rw [hrun, hrun']
        have hes : ∀ e ∈ watchedEntries w, a.table.Has e.stored := by
          rw [Arena.get?, hd.left.containers] at hw
          exact fun e he => ha.programs hw e (mem_of_mem_watchedEntries he)
        have htwin := twin_allocatedAll hd hes
        refine ⟨htwin.congr rfl rfl rfl rfl ?_ htwin.size htwin.root htwin.root',
          prefix_allocatedAll d _,
          prefix_allocatedAll d' _, fun _ _ _ hbodies => ⟨?_, trivial⟩⟩
        · rw [List.map_cons, List.map_cons, watchers_allocatedAll, watchers_allocatedAll,
            hd.watchers]
        · rwa [bodies_allocatedAll, bodies_allocatedAll]

theorem sim_addBody {b b' : Body} (hroot : b.kind ≠ .root) (hroot' : b'.kind ≠ .root)
    (h : K → BodyAgrees (SameText L L') (FoldedAt a (code o) L') b b') :
    Sim a (code o) L L' K (addBody b) (addBody b') fun i j => i = j := by
  intro d d' hd
  refine ⟨hd.congr rfl rfl rfl rfl hd.watchers ?_ (rooted_push hd.root hroot)
    (rooted_push hd.root' hroot'),
    List.prefix_rfl, List.prefix_rfl, ?_⟩
  · simp only [Array.size_push, hd.size]
  · refine fun hk _ _ hbodies => ⟨fun i x y hx hy => ?_, hd.size⟩
    rw [Array.getElem?_push] at hx hy
    rw [hd.size] at hx
    split at hx
    · next hi =>
      rw [if_pos hi] at hy
      cases hx
      cases hy
      exact h hk
    · next hi =>
      rw [if_neg hi] at hy
      exact hbodies i x y hx hy

/-- Calls agree that pass the same contents. -/
theorem sim_call (ha : a.Held a.table) (info : Meta) {as : List Attribute} {os : List TypedOption}
    (has : AttrsAll a.table.Knows as) (hos : TypedOption.AllOf a.table.Knows os)
    {cs ds : Build (List ContentRef)} (hcs : ∀ {K : Prop}, Sim a (code o) L L' K cs ds Eq) :
    Sim a (code o) L L' K (call (folding o) info as os cs) (call (plain o) info as os ds)
      (CallAgrees (SameText L L') (FoldedAt a (code o) L')) := by
  refine sim_bind (sim_attrs true has) fun as bs => sim_bind (sim_options hos) fun os ps => ?_
  refine sim_bind hcs fun cs ds => sim_bind (sim_watch ha info.container) fun _ _ => ?_
  exact sim_pure fun ⟨⟨⟨⟨_, has⟩, hos⟩, hcs⟩, _⟩ => ⟨has, hos, hcs⟩

mutual
theorem sim_node (ha : a.Held a.table) : ∀ {K : Prop} {n : Markup.Node}, n.All a.table.Knows →
    Sim a (code o) L L' K (node (folding o) n) (node (plain o) n)
      (InstructionsAgree (SameText L L') (FoldedAt a (code o) L'))
  | _, .text info ss, h => by
    rw [node, node]
    refine sim_located _ _ (sim_bind (sim_parts "" h) fun ps qs => ?_)
    exact sim_pure fun hk => .singleton (.text _ hk.2)
  | _, .element info name as children void, ⟨has, hchildren⟩ => by
    rw [node, node]
    refine sim_located _ _ (sim_bind (sim_attrs false has) fun as bs => ?_)
    refine sim_bind (sim_nodes ha hchildren) fun is js => ?_
    exact sim_pure fun ⟨⟨_, has⟩, hs⟩ => .singleton (.element _ _ _ has hs)
  | _, .component info name as os cs, ⟨has, hos, hcs⟩ => by
    rw [node, node]
    refine sim_located _ _ (sim_bind (sim_call ha info has hos (sim_contents ha hcs)) fun c d => ?_)
    exact sim_pure fun hk => .singleton (.component _ _ hk.2)
  | _, .partialCall info target as os cs, ⟨htarget, has, hos, hcs⟩ => by
    -- what follows the target, which is one of three
    have hrest : ∀ {K : Prop} {s t : Target}, (K → TargetAgrees (SameText L L') s t) →
        Sim a (code o) L L' K
          (do return [.partialCall info.key s
            (← call (folding o) info as os (contents (folding o) cs))])
          (do return [.partialCall info.key t
            (← call (plain o) info as os (contents (plain o) cs))])
          (InstructionsAgree (SameText L L') (FoldedAt a (code o) L')) := by
      intro K s t hst
      refine sim_bind (sim_call ha info has hos (sim_contents ha hcs)) fun c d => ?_
      exact sim_pure fun hk => .singleton (.partialCall _ (hst hk.1) hk.2)
    rw [node, node]
    refine sim_located _ _ ?_
    cases target with
    | inline name => exact hrest fun _ => .inline name
    | «static» path => exact hrest fun _ => .static path
    | dynamic p =>
      exact sim_bind (sim_forcedSlot htarget) fun i j => hrest fun hk => .dynamic "" hk.2
  | _, .template info name children, h => by
    rw [node, node]
    refine sim_located _ _ (sim_bind (sim_nodes ha h) fun is js => ?_)
    refine sim_bind (sim_watch ha info.container) fun watch watch' => ?_
    refine sim_bind (sim_addBody nofun nofun fun ⟨⟨_, hs⟩, _⟩ => ⟨rfl, rfl, hs⟩) fun _ _ => ?_
    exact sim_pure fun _ => .nil
  | _, .branches info test children others, ⟨htest, hchildren, hothers⟩ => by
    rw [node, node]
    refine sim_located _ _ (sim_bind (sim_forcedSlot htest) fun i j => ?_)
    refine sim_bind (sim_nodes ha hchildren) fun is js => ?_
    refine sim_bind (sim_watch ha info.container) fun watch watch' => ?_
    refine sim_bind (sim_arms ha hothers) fun as bs => ?_
    refine sim_pure fun ⟨⟨⟨⟨_, hij⟩, hs⟩, _⟩, has⟩ => ?_
    exact .singleton (.branches _ (.cons _ _ (.some hij) hs has))
  | _, .loop info init test update names children, ⟨hinit, htest, hupdate, hchildren⟩ => by
    rw [node, node]
    refine sim_located _ _ (sim_bind (sim_optSlot hinit) fun i i' => ?_)
    refine sim_bind (sim_forcedSlot htest) fun j j' => ?_
    refine sim_bind (sim_optSlot hupdate) fun k k' => ?_
    refine sim_bind (sim_nodes ha hchildren) fun is js => ?_
    refine sim_bind (sim_watch ha info.container) fun watch watch' => ?_
    refine sim_pure fun ⟨⟨⟨⟨⟨_, hi⟩, hj⟩, hk⟩, hs⟩, _⟩ => ?_
    exact .singleton (.loop _ _ _ _ hi (.some hj) hk hs)
  | _, .each info index iterator collection children, ⟨hcollection, hchildren⟩ => by
    rw [node, node]
    refine sim_located _ _ (sim_bind (sim_forcedSlot hcollection) fun i j => ?_)
    refine sim_bind (sim_nodes ha hchildren) fun is js => ?_
    refine sim_bind (sim_watch ha info.container) fun watch watch' => ?_
    exact sim_pure fun ⟨⟨⟨_, hij⟩, hs⟩, _⟩ => .singleton (.each _ _ _ _ _ hij hs)

theorem sim_nodes (ha : a.Held a.table) : ∀ {K : Prop} {ns : List Markup.Node},
    Node.AllOf a.table.Knows ns →
    Sim a (code o) L L' K (nodes (folding o) ns) (nodes (plain o) ns)
      (InstructionsAgree (SameText L L') (FoldedAt a (code o) L'))
  | _, [], _ => by
    rw [nodes, nodes]
    exact sim_pure fun _ => .nil
  | _, n :: ns, ⟨hn, hns⟩ => by
    rw [nodes, nodes]
    refine sim_bind (sim_node ha hn) fun is js => sim_bind (sim_nodes ha hns) fun ks ls => ?_
    exact sim_pure fun ⟨⟨_, hs⟩, hs'⟩ => hs.append hs'

theorem sim_arms (ha : a.Held a.table) : ∀ {K : Prop} {bs : List Branch},
    Branch.AllOf a.table.Knows bs →
    Sim a (code o) L L' K (arms (folding o) bs) (arms (plain o) bs)
      (ArmsAgree (SameText L L') (FoldedAt a (code o) L'))
  | _, [], _ => by
    rw [arms, arms]
    exact sim_pure fun _ => .nil
  | _, .mk info test children :: bs, ⟨htest, hchildren, hbs⟩ => by
    rw [arms, arms]
    refine sim_bind (sim_optSlot htest) fun i j => sim_bind (sim_nodes ha hchildren) fun is js => ?_
    refine sim_bind (sim_watch ha info.container) fun watch watch' => ?_
    refine sim_bind (sim_arms ha hbs) fun as bs => ?_
    exact sim_pure fun ⟨⟨⟨⟨_, hij⟩, hs⟩, _⟩, has⟩ => .cons _ _ hij hs has

theorem sim_contents (ha : a.Held a.table) : ∀ {K : Prop} {cs : List Content},
    Content.AllOf a.table.Knows cs →
      Sim a (code o) L L' K (contents (folding o) cs) (contents (plain o) cs) Eq
  | _, [], _ => by
    rw [contents, contents]
    exact sim_pure fun _ => rfl
  | _, .mk info name children :: cs, ⟨hchildren, hcs⟩ => by
    rw [contents, contents]
    refine sim_bind (sim_nodes ha hchildren) fun is js => ?_
    refine sim_bind (sim_watch ha info.container) fun watch watch' => ?_
    refine sim_bind (sim_addBody nofun nofun fun ⟨⟨_, hs⟩, _⟩ => ⟨rfl, rfl, hs⟩) fun i j => ?_
    refine sim_bind (sim_contents ha hcs) fun cs ds => ?_
    exact sim_pure fun ⟨⟨_, hij⟩, hcs⟩ => by rw [hij, hcs]
end

end Build

end Trellis.Description

/-!
Building with and without folding gives descriptions that agree.

The two constructions end with tables that are filled, whatever was left to `Build.remaining`, and
what stands in them for one text says the same (`Construction.Twin.core_eq`).
-/

namespace Trellis.Description

open Container Markup

namespace Build

open Construction

variable {a : Arena} {o : Options} {L L' : List String} {K : Prop}

/-- What building starts with: the root, as yet without instructions. -/
def start (a : Arena) : Construction := { arena := a, bodies := #[{ kind := .root }] }

/-- Builds all bodies but leaves programs without entries. -/
def bodiesOnly (o : Options) (ns : List Markup.Node) : Build Unit := do
  let children ← nodes o ns
  let watch ← watch (some 0)
  modify fun d => { d with bodies := d.bodies.setIfInBounds 0 { kind := .root, children, watch } }

lemma run_bodies (o : Options) (ns : List Markup.Node) (a : Arena) :
    (bodies o ns).run { arena := a } = (bodiesOnly o ns >>= fun _ => remaining o).run
    (start a) := by
  have heq : bodies o ns = (do
      let _ ← addBody { kind := .root }
      bodiesOnly o ns
      remaining o) := by
    simp only [bodies, bodiesOnly, bind_assoc]
  rw [heq, run_bind]
  rfl

lemma sim_setRoot {b b' : Body} (hroot : b.kind = .root) (hroot' : b'.kind = .root)
    (h : K → BodyAgrees (SameText L L') (FoldedAt a (code o) L') b b') :
    Sim a (code o) L L' K (modify fun d => { d with bodies := d.bodies.setIfInBounds 0 b })
      (modify fun d => { d with bodies := d.bodies.setIfInBounds 0 b' }) fun _ _ => True := by
  intro d d' hd
  refine ⟨hd.congr rfl rfl rfl rfl hd.watchers ?_ (rooted_set hd.root hroot)
    (rooted_set hd.root' hroot'),
    List.prefix_rfl, List.prefix_rfl, ?_⟩
  · simp only [Array.size_setIfInBounds, hd.size]
  · refine fun hk _ _ hbodies => ⟨fun i x y hx hy => ?_, trivial⟩
    rw [Array.getElem?_setIfInBounds] at hx hy
    split at hx
    · next hi =>
      rw [if_pos hi] at hy
      split at hx
      · split at hy
        · cases hx
          cases hy
          exact h hk
        · cases hy
      · cases hx
    · next hi =>
      rw [if_neg hi] at hy
      exact hbodies i x y hx hy

theorem sim_bodiesOnly (ha : a.Held a.table) {ns : List Markup.Node}
    (h : Node.AllOf a.table.Knows ns) :
    Sim a (code o) L L' K (bodiesOnly (folding o) ns) (bodiesOnly (plain o) ns) fun _ _ =>
    True := by
  refine sim_bind (sim_nodes ha h) fun is js => sim_bind (sim_watch ha (some 0)) fun _ _ => ?_
  exact sim_setRoot rfl rfl fun ⟨⟨_, hs⟩, _⟩ => ⟨rfl, rfl, hs⟩

lemma twin_start (ha : a.Held a.table) (c : Code.Options) : Twin a c (start a) (start a) := by
  have htexts : (start a).texts = [] := ha.slots
  have hnone : ∀ x, (start a).filling? x = none := by
    intro x
    rw [Construction.filling?, htexts]
    rfl
  have hroot : Rooted (start a).bodies := ⟨_, [], rfl, rfl, fun b hb => absurd hb List.not_mem_nil⟩
  have hsane : Sane a (start a) := by
    refine ⟨rfl, rfl, ?_, ?_, Nat.zero_le _, fun h => ?_⟩
    · rw [htexts]
      exact List.nodup_nil
    · rw [htexts]
      exact fun x hx => absurd hx List.not_mem_nil
    · rw [hnone] at h
      cases h
  refine ⟨hsane, hsane, fun x hx => hx, fun x hx => .inl hx, fun _ => ?_, rfl, rfl, hroot, hroot⟩
  rw [hnone]
  exact .none

lemma bodiesAgree_start : BodiesAgree a (code o) L L' (start a).bodies (start a).bodies := by
  intro i b b' hb hb'
  have hsingle : (start a).bodies = #[{ kind := .root }] := rfl
  rw [hsingle, Array.getElem?_singleton] at hb hb'
  split at hb
  · next hi =>
    rw [if_pos hi] at hb'
    cases hb
    cases hb'
    exact ⟨rfl, rfl, .nil⟩
  · cases hb

end Build

/-- Two descriptions that are put together alike.  What belongs together in their tables says the
same, and where a constant stands in the first, the second has an expression that is this constant.
-/
structure Agrees (ref : Nat → Nat → Prop) (fold : Datum → Nat → Prop) (d d' : Description) :
    Prop where
  module : d.module = d'.module
  root : Rooted d.bodies
  root' : Rooted d'.bodies
  entry : ∀ {i j}, ref i j → ∃ e e', d.expressions[i]? = some e ∧ d'.expressions[j]? = some e' ∧
    e.core = e'.core
  constant : ∀ {v j}, fold v j → ∃ e', d'.expressions[j]? = some e' ∧
    Expr.areClosed e'.program.exprs ∧ e'.program.closed.datum? = some v
  size : d.bodies.size = d'.bodies.size
  body : ∀ {i : Nat} {b b' : Body}, d.bodies[i]? = some b → d'.bodies[i]? = some b' →
    BodyAgrees ref fold b b'

/-- Where every slot is filled, leaving out the others moves none. -/
lemma getElem?_filterMap_self {es : Array (Option Expression)}
    (h : ∀ i < es.size, (es[i]?.join).isSome)
    {i : Nat} {e : Expression} (he : es[i]?.join = some e) : (es.filterMap fun e => e)[i]? =
    some e := by
  have hlist : ∀ (l : List (Option Expression)) (i : Nat), (∀ i < l.length, (l[i]?.join).isSome) →
      (l.filterMap fun e => e)[i]? = l[i]?.join := by
    intro l
    induction l with
    | nil => simp
    | cons x l ih =>
      intro i hl
      have hx := hl 0 (Nat.zero_lt_succ _)
      cases x with
      | none => cases hx
      | some y =>
        cases i with
        | zero => rfl
        | succ i =>
          change (y :: l.filterMap fun e => e)[i + 1]? = (some y :: l)[i + 1]?.join
          rw [List.getElem?_cons_succ, List.getElem?_cons_succ]
          exact ih i fun j hj => hl (j + 1) (Nat.succ_lt_succ hj)
  rw [← Array.getElem?_toList, Array.toList_filterMap, hlist _ _ ?_, Array.getElem?_toList, he]
  intro j hj
  rw [Array.getElem?_toList]
  exact h j hj

namespace Construction

variable {a : Arena} {d : Construction} {i : Nat} {x : String} {e : Expression}

/-- The entry of a text stands in the finished table where its slot is. -/
lemma getElem?_expressions (hd : d.Sane a) (hfilled : ∀ x ∈ d.texts, (d.filling? x).isSome)
    (hi : d.texts[i]? = some x) (he : d.filling? x = some e) :
    (d.expressions.filterMap fun e => e)[i]? = some e := by
  refine getElem?_filterMap_self (fun j hj => ?_) ?_
  · have hj' : j < d.texts.length := Nat.lt_of_lt_of_le hj hd.size
    rw [← filling?_of_getElem? hd (List.getElem?_eq_getElem hj')]
    exact hfilled _ (List.getElem_mem hj')
  · rw [← filling?_of_getElem? hd hi]
    exact he

end Construction

open Construction Build

/-- The description that a construction amounts to. -/
def finished {α : Type} (o : Options) (a : Annotated α) (d : Construction) : Description where
  module := o.module
  dependencies := a.manifest.paths
  bodies := d.bodies.map fun b => { b with source := b.text }
  reactive := a.reactive
  expressions := d.expressions.filterMap fun e => e
  watches := d.watches
  childNames := a.childNames
  translations := a.manifest.translations.map fun k => (k.text, k.context)
  symbols := d.symbols.values

lemma ofAnnotated_eq {α : Type} (o : Options) (a : Annotated α) :
    ofAnnotated o a =
      ((Build.bodies o a.nodes).run { arena := a.arena }).map fun r => finished o a r.2 := by
  rw [ofAnnotated]
  cases (Build.bodies o a.nodes).run { arena := a.arena } <;> rfl

section

variable {a : Arena} {c : Code.Options} {d d' e e' : Construction} {x : String} {s : Stored}

/-- A program that is not compiled on one side is not compiled on the other one either. -/
lemma Construction.Twin.missing_iff (h : Twin a c d d') (hs : a.table.find? x = some s) :
    (x ∈ d.texts ∧ d.filling? x = none ∧ ¬Compiles c s.program) ↔
      x ∈ d'.texts ∧ d'.filling? x = none ∧ ¬Compiles c s.program := by
  have hentry := h.entry hs
  constructor
  · rintro ⟨hx, hnone, hnot⟩
    rw [hnone] at hentry
    refine ⟨h.subset hx, ?_, hnot⟩
    cases hentry' : d'.filling? x with
    | none => rfl
    | some en =>
      rw [hentry'] at hentry
      cases hentry with
      | folded hp => exact absurd (fun t => hp.compiles "" false t) hnot
  · rintro ⟨hx, hnone, hnot⟩
    obtain hx | hsome := h.filled x hx
    · refine ⟨hx, ?_, hnot⟩
      rw [hnone] at hentry
      cases hentry' : d.filling? x with
      | none => rfl
      | some en =>
        rw [hentry'] at hentry
        cases hentry
    · rw [hnone] at hsome
      cases hsome

/-- Once all slots are filled, what both tables have of a text says the same. -/
lemma Construction.Twin.core_eq (h : Twin a c d d') (hf : Fills a c d e) (hf' : Fills a c d' e')
    (hs : a.table.find? x = some s) {en en' : Expression}
    (hen : e.filling? x = some en) (hen' : e'.filling? x = some en') : en.core = en'.core := by
  have hprogram := program_of_filling? hf.sane hs hen
  have hprogram' := program_of_filling? hf'.sane hs hen'
  have hentry := h.entry hs
  cases hd : d.filling? x with
  | some f =>
    rw [hd] at hentry
    rw [hf.kept hd] at hen
    cases hd' : d'.filling? x with
    | none =>
      rw [hd'] at hentry
      cases hentry
    | some f' =>
      rw [hd'] at hentry
      rw [hf'.kept hd'] at hen'
      cases hen
      cases hen'
      cases hentry with
      | both hcore => exact hcore
  | none =>
    have hnew := (hf.new hd hen).1
    rw [hprogram] at hnew
    rw [hd] at hentry
    cases hd' : d'.filling? x with
    | none =>
      have hnew' := (hf'.new hd' hen').1
      rw [hprogram'] at hnew'
      exact hnew.trans hnew'.symm
    | some f' =>
      rw [hd'] at hentry
      rw [hf'.kept hd'] at hen'
      cases hen'
      cases hentry with
      | folded hp hcore =>
        rw [hnew, hcore, valueCore, hp.unmarked]
        rfl

end

lemma rooted_map {bs : Array Body} (h : Rooted bs) :
    Rooted (bs.map fun b => { b with source := b.text }) := by
  obtain ⟨root, rest, hlist, hroot, hrest⟩ := h
  refine ⟨{ root with source := root.text }, rest.map fun b => { b with source := b.text }, ?_,
    hroot,
    fun b hb => ?_⟩
  · rw [Array.toList_map, hlist, List.map_cons]
  · obtain ⟨b', hb', rfl⟩ := List.mem_map.1 hb
    exact hrest b' hb'

/-- The descriptions of two finished constructions agree. -/
lemma Construction.Twin.agrees {α : Type} {a : Annotated α} {o : Options} {d d' e e' : Construction}
    (h : Twin a.arena (code o) d d') (hf : Fills a.arena (code o) d e)
    (hf' : Fills a.arena (code o) d' e') (hfilled : ∀ x ∈ d.texts, (e.filling? x).isSome)
    (hfilled' : ∀ x ∈ d'.texts, (e'.filling? x).isSome)
    (hbodies : BodiesAgree a.arena (code o) d.texts d'.texts d.bodies d'.bodies) :
    Agrees (SameText d.texts d'.texts) (FoldedAt a.arena (code o) d'.texts)
    (finished (folding o) a e)
      (finished (plain o) a e') where
  module := rfl
  root := by
    rw [finished, hf.bodies]
    exact rooted_map h.root
  root' := by
    rw [finished, hf'.bodies]
    exact rooted_map h.root'
  entry {i j} hij := by
    obtain ⟨x, hi, hj⟩ := hij
    have hx : x ∈ d.texts := List.mem_of_getElem? hi
    obtain ⟨en, hen⟩ := Option.isSome_iff_exists.1 (hfilled x hx)
    obtain ⟨en', hen'⟩ := Option.isSome_iff_exists.1 (hfilled' x (h.subset hx))
    obtain ⟨s, hs⟩ := Option.isSome_iff_exists.1 (h.left.known x hx)
    refine ⟨en, en', ?_, ?_, h.core_eq hf hf' hs hen hen'⟩
    · rw [← hf.texts] at hfilled hi
      exact getElem?_expressions hf.sane hfilled hi hen
    · rw [← hf'.texts] at hfilled' hj
      exact getElem?_expressions hf'.sane hfilled' hj hen'
  constant {v j} hv := by
    obtain ⟨x, s, hj, hs, hp⟩ := hv
    obtain ⟨en', hen'⟩ := Option.isSome_iff_exists.1 (hfilled' x (List.mem_of_getElem? hj))
    have hprogram := program_of_filling? hf'.sane hs hen'
    refine ⟨en', ?_, ?_, ?_⟩
    · rw [← hf'.texts] at hfilled' hj
      exact getElem?_expressions hf'.sane hfilled' hj hen'
    · rw [hprogram]
      exact hp.closed
    · rw [hprogram]
      exact hp.datum
  size := by
    simp only [finished, Array.size_map, hf.bodies, hf'.bodies, h.size]
  body {i b b'} hb hb' := by
    simp only [finished, Array.getElem?_map, hf.bodies, hf'.bodies,
      Option.map_eq_some_iff] at hb hb'
    obtain ⟨b, hb, rfl⟩ := hb
    obtain ⟨b', hb', rfl⟩ := hb'
    obtain ⟨hkind, hname, hchildren⟩ := hbodies i b b' hb hb'
    exact ⟨hkind, hname, hchildren⟩

/-- **Folding.**  A template is built with folding if and only if it is built without, and the two
descriptions agree. -/
theorem agrees_ofAnnotated {α : Type} {a : Annotated α} (o : Options)
    (ha : a.arena.Held a.arena.table) (h : Node.AllOf a.arena.table.Knows a.nodes) :
    Code.Ends (fun d d' => ∃ ref fold, Agrees ref fold d d') (ofAnnotated (folding o) a)
      (ofAnnotated (plain o) a) := by
  have hends : ∀ L L', Code.Ends _ _ _ := fun L L' =>
    (sim_bodiesOnly ha h : Sim a.arena (code o) L L' True _ _ _) (start a.arena) (start a.arena)
      (twin_start ha (code o))
  rw [ofAnnotated_eq, ofAnnotated_eq, run_bodies, run_bodies]
  refine Code.Ends.map (R := fun r r' : Unit × Construction => ∃ ref fold, Agrees ref fold
    (finished (folding o) a r.2) (finished (plain o) a r'.2)) ?_ fun _ _ h => h
  rw [run_bind, run_bind]
  cases hr : (bodiesOnly (folding o) a.nodes).run (start a.arena) with
  | error f =>
    have hends := hends [] []
    rw [hr] at hends
    cases hr' : (bodiesOnly (plain o) a.nodes).run (start a.arena) with
    | error g => exact True.intro
    | ok r' =>
      rw [hr'] at hends
      exact hends.elim
  | ok r =>
    obtain ⟨_, d⟩ := r
    cases hr' : (bodiesOnly (plain o) a.nodes).run (start a.arena) with
    | error g =>
      have hends := hends [] []
      rw [hr, hr'] at hends
      exact hends.elim
    | ok r' =>
      obtain ⟨_, d'⟩ := r'
      have hends := hends d.texts d'.texts
      rw [hr, hr'] at hends
      obtain ⟨htwin, -, -, hbodies⟩ := hends
      have hrest := run_remaining (o := folding o) ha.own htwin.left
      have hrest' := run_remaining (o := plain o) ha.own htwin.right
      simp only
      cases hm : (remaining (folding o)).run d with
      | error f =>
        rw [hm] at hrest
        cases hm' : (remaining (plain o)).run d' with
        | error g => exact True.intro
        | ok r' =>
          rw [hm'] at hrest'
          obtain ⟨x, s, hx, hs, hnone, hnot⟩ := hrest
          obtain ⟨hx', hnone', hnot'⟩ := (htwin.missing_iff hs).1 ⟨hx, hnone, hnot⟩
          exact absurd (hrest'.1.compiles hs hnone' (hrest'.2 x hx')) hnot'
      | ok r =>
        rw [hm] at hrest
        cases hm' : (remaining (plain o)).run d' with
        | error g =>
          rw [hm'] at hrest'
          obtain ⟨x, s, hx, hs, hnone, hnot⟩ := hrest'
          obtain ⟨hx', hnone', hnot'⟩ := (htwin.missing_iff hs).2 ⟨hx, hnone, hnot⟩
          exact absurd (hrest.1.compiles hs hnone' (hrest.2 x hx')) hnot'
        | ok r' =>
          rw [hm'] at hrest'
          obtain ⟨hbodies, -⟩ := hbodies trivial List.prefix_rfl List.prefix_rfl bodiesAgree_start
          exact ⟨_, _, htwin.agrees hrest.1 hrest'.1 hrest.2 hrest'.2 hbodies⟩

end Trellis.Description
