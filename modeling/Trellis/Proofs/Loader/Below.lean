/-
A loader stays below its root.

The name of a module is spelled with slashes where it had dots, so that its steps lead down only,
whatever the name is; the one dot in the path of its file is that of the ending
(`Names.fileOf_below`).

So what is loaded depends on the files below the root and on no others.  Work of the loader is
confined to the root (`Confined`) if it comes to the same over all files that are the same there,
and leaves files that are again; there is one rule for each way of putting work together, and
loading a module, and with it all that it depends on, is confined (`confined_loadTo`).
-/
import Trellis.Proofs.Files
import Trellis.Proofs.Loader.Cycles

namespace Trellis.Loader

/-! ### Files of modules -/

namespace Names

/-- A path from a folder down to a template: no step is empty, stays where it is or goes up, and it
has the ending. -/
structure IsDown (path : String) : Prop where
  steps : ∀ name ∈ Text.splitOnChar path '/', name ≠ "" ∧ name ≠ "." ∧ name ≠ ".."
  ending : Text.endsWith path fileEnding

variable {n : Names}

/-- The steps of a module have no dots. -/
lemma dot_not_mem_steps (n : Names) (module : String) : '.' ∉ (n.steps module).toList := by
  rw [steps, Registry.normalize, String.toList_map]
  intro hmem
  obtain ⟨c, -, hc⟩ := List.mem_map.1 hmem
  split at hc
  · cases hc
  · next hne => exact hne (beq_iff_eq.2 hc)

/-- A text without dots and with the ending behind it has steps that lead down, and the last of them
has the ending. -/
lemma pieces_of_dot_not_mem {s : String} (hs : '.' ∉ s.toList) :
    (∀ y ∈ Text.splitOnChar (s ++ fileEnding) '/', y ≠ "" → Path.IsProper y) ∧
      ∃ front last, (Text.splitOnChar (s ++ fileEnding) '/').filter (!·.isEmpty) = front ++
      [last ++ fileEnding] := by
  have hflat : '/' ∉ fileEnding.toList := by decide
  obtain ⟨ws, w, hws, hall⟩ := Text.splitChars_append_flat hflat s.toList
  have hpieces : Text.splitOnChar (s ++ fileEnding) '/' =
      ws.map String.ofList ++ [String.ofList w ++ fileEnding] := by
    rw [Text.splitOnChar, String.toList_append, hall, List.map_append, List.map_singleton,
      String.ofList_append,
      String.ofList_toList]
  constructor
  · intro y hy hne
    have hslash := (Text.mem_splitOnChar hy).1
    rw [hpieces] at hy
    obtain hy | hy := List.mem_append.1 hy
    · -- a step in front has no dots, for the text has none
      obtain ⟨v, hv, rfl⟩ := List.mem_map.1 hy
      have hdot : '.' ∉ v := by
        have hmem : v ∈ Text.splitChars '/' s.toList := hws ▸ List.mem_append_left [w] hv
        exact fun hdot => hs ((Text.mem_splitChars hmem).2 '.' hdot)
      rw [← String.toList_ofList (l := v)] at hdot
      refine ⟨hslash, hne, fun heq => ?_, fun heq => ?_⟩ <;>
        rw [heq] at hdot <;> exact hdot (by decide)
    · obtain rfl := List.mem_singleton.1 hy
      have hlong : 5 ≤ (String.ofList w ++ fileEnding).length + 1 := by
        rw [String.length_append]
        exact Nat.succ_le_succ (Nat.le_add_left 4 _)
      refine ⟨hslash, hne, fun heq => ?_, fun heq => ?_⟩ <;>
        rw [heq] at hlong <;> revert hlong <;> decide
  · refine ⟨(ws.map String.ofList).filter (!·.isEmpty), String.ofList w, ?_⟩
    have hne : String.ofList w ++ fileEnding ≠ "" :=
      fun hempty => absurd (String.append_eq_empty_iff.1 hempty).2 (by decide)
    rw [hpieces, List.filter_append, List.filter_cons_of_pos (p := fun x : String =>
      !x.isEmpty) (Text.not_isEmpty_iff.2 hne),
      List.filter_nil]

/-- The file of a module below a rooted folder: its names are those of the folder and others. -/
lemma fileOf_eq (hroot : Path.isRooted n.root) (module : String) :
    ∃ front last, let down := front ++ [last ++ fileEnding]
      (∀ x ∈ down, Path.IsProper x) ∧
        n.fileOf module = Path.inside (Path.clean n.root) ++ "/".intercalate down ∧
          Path.names (n.fileOf module) = Path.names n.root ++ down := by
  obtain ⟨hproper, front, last, hdown⟩ := pieces_of_dot_not_mem (dot_not_mem_steps n module)
  have hne : n.root ≠ "" := by
    intro hempty
    rw [hempty] at hroot
    cases hroot
  have hne' : n.steps module ++ fileEnding ≠ "" :=
    fun hempty => absurd (String.append_eq_empty_iff.1 hempty).2 (by decide)
  have hfile : n.fileOf module = Path.clean (n.root ++ "/" ++ (n.steps module ++ fileEnding)) :=
    Path.join_pair hne hne'
  refine ⟨front, last, fun x hx => ?_, ?_, ?_⟩
  · rw [← hdown, List.mem_filter] at hx
    exact hproper x hx.1 (Text.not_isEmpty_iff.1 hx.2)
  · rw [hfile, Path.clean_below hroot hproper
      (by rw [hdown]; exact List.append_ne_nil_of_right_ne_nil _ (by simp)), hdown]
  · have hrooted : Path.isRooted (n.root ++ "/" ++ (n.steps module ++ fileEnding)) := by
      rw [String.append_assoc]
      exact Path.isRooted_append hroot _
    rw [hfile, Path.names_clean hrooted, Path.names_below hroot hproper, hdown]

lemma isRooted_fileOf (hroot : Path.isRooted n.root) (module : String) :
    Path.isRooted (n.fileOf module) := by
  obtain ⟨front, last, -, hfile, -⟩ := fileOf_eq hroot module
  rw [hfile]
  exact Path.isRooted_append (Path.isRooted_inside (Path.isRooted_clean hroot)) _

/-- The file of a module is below the root. -/
lemma fileOf_below (hroot : Path.isRooted n.root) (module : String) :
    ∃ path, n.fileOf module = Path.inside (Path.clean n.root) ++ path ∧ IsDown path := by
  obtain ⟨front, last, hproper, hfile, -⟩ := fileOf_eq hroot module
  refine ⟨_, hfile, fun x hx => ?_, ?_⟩
  · rw [Text.splitOnChar_intercalate (List.append_ne_nil_of_right_ne_nil _ (by simp)) fun y hy =>
      (hproper y hy).flat] at hx
    exact ⟨(hproper x hx).ne_empty, (hproper x hx).ne_dot, (hproper x hx).ne_up⟩
  · by_cases hfront : front = []
    · subst hfront
      rw [List.nil_append, String.intercalate_singleton]
      exact Text.endsWith_append last fileEnding
    · rw [String.intercalate_append_of_ne_nil hfront (by simp), String.intercalate_singleton,
        ← String.append_assoc]
      exact Text.endsWith_append _ fileEnding

end Names

/-! ### Work that looks below the root only -/

variable {root : String} {α β : Type}

/-- Work of the loader that comes to the same over files that are the same below the root.  What it
leaves is the same as well, but for the files, which are the same below the root. -/
def Confined (root : String) (w : Load α) : Prop :=
  ∀ (s : State) (files : Files), s.files.SameBelow root files →
    (on w { s with files }).1 = (on w s).1 ∧
      ∃ files', (on w { s with files }).2 = { (on w s).2 with files := files' } ∧
        (on w s).2.files.SameBelow root files'

lemma confined_except (r : Except Fault α) : Confined root (ExceptT.mk (pure r) : Load α) :=
  fun _ files h => ⟨rfl, files, rfl, h⟩

lemma confined_pure (x : α) : Confined root (pure x : Load α) := confined_except (.ok x)

lemma confined_throw (f : Fault) : Confined root (throw f : Load α) := confined_except (.error f)

/-- What follows a fault is not done. -/
lemma confined_throw_bind (f : Fault) (g : β → Load α) : Confined root (throw f >>= g) :=
  confined_throw f

lemma confined_bind {w : Load β} {g : β → Load α} (hw : Confined root w)
    (hg : ∀ x, Confined root (g x)) :
    Confined root (w >>= g) := by
  have hon : ∀ s, on (w >>= g) s = match on w s with
      | (.ok x, s') => on (g x) s'
      | (.error f, s') => (.error f, s') := by
    intro s
    change (ExceptT.bindCont g (on w s).1).run (on w s).2 = _
    rcases on w s with ⟨_ | x, s'⟩ <;> rfl
  intro s files h
  obtain ⟨hresult, files', hstate, hsame⟩ := hw s files h
  rw [hon, hon]
  rcases hrun : on w s with ⟨r, s'⟩
  rcases hrun' : on w { s with files } with ⟨r', s''⟩
  rw [hrun, hrun'] at hresult hstate
  rw [hrun] at hsame
  obtain rfl : r' = r := hresult
  obtain rfl : s'' = { s' with files := files' } := hstate
  cases r' with
  | error f => exact ⟨rfl, files', rfl, hsame⟩
  | ok x => exact hg x s' files' hsame

/-- What is read of the state must be the same over such files. -/
lemma confined_get {g : State → Load α}
    (hg : ∀ (s : State) (files : Files), s.files.SameBelow root files → g { s with files } = g s)
    (hconfined : ∀ s, Confined root (g s)) : Confined root (get >>= g) := by
  intro s files h
  have hon : ∀ t, on (get >>= g) t = on (g t) t := fun _ => rfl
  rw [hon, hon, hg s files h]
  exact hconfined s s files h

/-- A change of the state that neither looks at the files nor changes them. -/
lemma confined_modify {f : State → State}
    (hf : ∀ (s : State) (files : Files), f { s with files } = { f s with files })
    (hfiles : ∀ s, (f s).files = s.files) : Confined root (modify f : Load Unit) := by
  intro s files h
  have hon : ∀ t, on (modify f : Load Unit) t = (.ok (), f t) := fun _ => rfl
  rw [hon, hon, hf]
  refine ⟨rfl, files, rfl, ?_⟩
  dsimp only
  rw [hfiles]
  exact h

lemma confined_report (r : Log.Report) : Confined root (report r) :=
  confined_modify (fun _ _ => rfl) fun _ => rfl

lemma confined_attempt {w : Load α} (hw : Confined root w) : Confined root (attempt w) := by
  intro s files h
  obtain ⟨hresult, files', hstate, hsame⟩ := hw s files h
  exact ⟨congrArg Except.ok hresult, files', hstate, hsame⟩

lemma confined_inMemory (w : Run α) : Confined root (inMemory w) := by
  intro s files h
  exact ⟨rfl, files, rfl, h⟩

lemma confined_mapM {xs : List β} {f : β → Load α} (h : ∀ x, Confined root (f x)) :
    Confined root (xs.mapM f) := by
  induction xs with
  | nil => exact confined_pure []
  | cons x xs ih =>
    rw [List.mapM_cons]
    exact confined_bind (h x) fun y => confined_bind ih fun ys => confined_pure (y :: ys)

/-! ### Loading -/

variable (o : Options)

/-- A store is looked into where it is held, and not in its file. -/
lemma confined_stored (module digest : String) : Confined root (stored o module digest) := by
  refine confined_get (fun _ _ _ => rfl) fun s => ?_
  have hwarn : ∀ (message : String) (f : Fault), Confined root (do
      log .warn message [("module", .text module), ("error", .text f.text)]
      return none : Load (Option Description)) := fun message f =>
    confined_bind (confined_report _) fun _ => confined_pure none
  cases s.store with
  | none => exact confined_pure none
  | some store =>
    dsimp only
    split
    · exact hwarn _ _
    · exact confined_pure none
    · split
      · exact hwarn _ _
      · exact confined_bind (confined_report _) fun _ => confined_pure _

/-- A store is written to its file, which may be anywhere. -/
lemma confined_persist (module digest : String) (d : Description) :
    Confined root (persist module digest d) := by
  intro s files h
  have hon : ∀ (g : State → Load Unit) (t : State), on (get >>= g) t = on (g t) t := fun _ _ => rfl
  have hset : ∀ t t' : State, on (set t' : Load Unit) t = (.ok (), t') := fun _ _ => rfl
  have hsave : ∀ store : Store, (store.save s.files).SameBelow root (store.save files) := by
    intro store
    unfold Store.save
    split
    · -- the file may be below the root as well: both systems get the same there
      exact h.put _ _
    · exact h
  obtain ⟨memory, fs, input, store, cache, registry, reports⟩ := s
  rw [persist, hon, hon]
  dsimp only
  cases store with
  | none => exact ⟨rfl, files, rfl, h⟩
  | some store =>
    dsimp only
    cases d.document? with
    | none =>
      dsimp only
      exact confined_report _ _ files h
    | some doc =>
      dsimp only
      cases store.put module digest (Json.text true doc) with
      | error f =>
        dsimp only
        exact confined_report _ _ files h
      | ok store =>
        rw [hset, hset]
        exact ⟨rfl, store.save files, rfl, hsave store⟩

variable {load : String → Load Nat}

lemma confined_require (hload : ∀ name, Confined root (load name)) (a : Manifest Unit) :
    Confined root (require o load a) := by
  refine confined_bind (confined_mapM fun name => confined_get (fun _ _ _ => rfl) fun s => ?_)
    fun outcomes => ?_
  · have hloaded : Confined root (do return (name, (← attempt (load name)).map fun _ =>
      ()) : Load _) :=
      confined_bind (confined_attempt (hload name)) fun _ => confined_pure _
    split
    · exact hloaded
    · exact hloaded
    · exact confined_pure _
  · split
    · exact confined_pure ()
    · exact confined_except _

lemma confined_describe (hload : ∀ name, Confined root (load name)) (module file source : String) :
    Confined root (describe o load module file source) := by
  refine confined_bind (confined_except _) fun nodes => confined_bind (confined_except _) fun a =>
    ?_
  refine confined_bind (confined_require o hload _) fun _ =>
    confined_bind (confined_except _) fun d => ?_
  exact confined_bind (confined_report _) fun _ => confined_pure d

variable {o}

/-- The files of modules are the same over files that are the same below the root. -/
lemma read_fileOf (hroot : Path.isRooted o.names.root) {f g : Files}
    (h : f.SameBelow o.names.root g) (module : String) :
    f.read (o.names.fileOf module) = g.read (o.names.fileOf module) := by
  obtain ⟨front, last, -, -, hnames⟩ := Names.fileOf_eq hroot module
  exact h.read (Names.isRooted_fileOf hroot module) hnames

/-- Loading a module is confined to the root, and so is loading what it depends on. -/
lemma confined_loadTo (hroot : Path.isRooted o.names.root) (depth : Nat) :
    ∀ chain name, Confined o.names.root (loadTo o depth chain name) := by
  induction depth with
  | zero => exact fun _ _ => confined_throw _
  | succ depth ih =>
    intro chain name
    rw [loadTo]
    dsimp only
    split
    · exact confined_throw _
    refine confined_get (fun s files h => ?_) fun s => ?_
    · -- nothing but the file of the module is read
      dsimp only
      rw [read_fileOf hroot h]
    cases s.files.read (o.names.fileOf (o.names.moduleOf name)) with
    | error f => exact confined_throw_bind _ _
    | ok source =>
    dsimp only
    rw [pure_bind]
    refine confined_get (fun _ _ _ => rfl) fun s => ?_
    refine confined_bind (confined_modify (fun _ _ => rfl) fun _ => rfl) fun _ => ?_
    split
    · exact confined_pure _
    have hkeep : ∀ d : Description, Confined o.names.root (do
        let t ← ExceptT.mk (pure (Template.ofDescription d o.toolkit))
        let at_ ← inMemory (Memory.newTemplate t)
        modify fun s => { s with
          cache := s.cache.set (o.names.moduleOf name) (Digest.ofText source) at_
          registry := s.registry.register (o.names.moduleOf name) (.template at_) }
        return at_ : Load Nat) := fun d =>
      confined_bind (confined_except _) fun t => confined_bind (confined_inMemory _) fun at_ =>
        confined_bind (confined_modify (fun _ _ => rfl) fun _ => rfl) fun _ => confined_pure at_
    refine confined_bind (confined_stored o _ _) fun d => ?_
    -- with a description from the store or without one, what it depends on is loaded with a depth
    -- that is one less
    cases d with
    | some d => exact confined_bind (confined_require o (ih _) _) fun _ => hkeep d
    | none =>
      exact confined_bind (confined_describe o (ih _) _ _ _) fun d =>
        confined_bind (confined_persist _ _ d) fun _ => hkeep d

/-- **Modules stay below the root.** With a rooted folder as the root, the file of every module, and
the file of the module that any path stands for, is the cleaned root with a path down to a template
behind it.  So a name that a template depends on leads to no file elsewhere: loading a module,
however deep modules depend on each other, and describing a template, with all that it depends on,
come to the same over all files that are the same below the root. -/
theorem loads_below_root {o : Options} (hroot : Path.isRooted o.names.root) :
    (∀ module, ∀ file ∈ [o.names.fileOf module, o.names.fileOf (o.names.moduleOf module)],
      ∃ path, file = Path.inside (Path.clean o.names.root) ++ path ∧ Names.IsDown path) ∧
    ∀ depth chain, (∀ name, Confined o.names.root (loadTo o depth chain name)) ∧
      ∀ module file source,
      Confined o.names.root (describe o (loadTo o depth chain) module file source) := by
  refine ⟨fun module file hfile => ?_, fun depth chain =>
    ⟨confined_loadTo hroot depth chain, fun _ _ _ => ?_⟩⟩
  · obtain rfl | hfile := List.mem_cons.1 hfile
    · exact Names.fileOf_below hroot module
    · rw [List.mem_singleton.1 hfile]
      exact Names.fileOf_below hroot _
  · exact confined_describe o (confined_loadTo hroot depth chain) _ _ _

/-- A template that asks for what is elsewhere. -/
def climbing : String := "<ws:partial template=\"../../etc/passwd\"/>"

/-- A system with that template, and with a file elsewhere. -/
def guardedFiles (secret : String) : Files where
  tree := .folder [("etc", .folder [("passwd.wml", .file secret)]),
    ("srv", .folder [("views", .folder [("A.wml", .file climbing)])])]

theorem loads_below_root_views : let o : Options := { names := .ofLead "/srv/views" "" }
    Path.isRooted o.names.root ∧ wants o (guardedFiles "x") (o.names.moduleOf "A") =
      ["../../etc/passwd"] ∧
      o.names.fileOf "../../etc/passwd" = "/srv/views/etc/passwd.wml" ∧
      (∃ path, "/srv/views/etc/passwd.wml" = Path.inside (Path.clean o.names.root) ++ path ∧
        Names.IsDown path) ∧
      (on (loadTo o 3 [] "A") { files := guardedFiles "y" }).1 =
        (on (loadTo o 3 [] "A") { files := guardedFiles "x" }).1 := by
  intro o
  have hroot : Path.isRooted o.names.root := by decide +kernel
  have hwants : wants o (guardedFiles "x") (o.names.moduleOf "A") = ["../../etc/passwd"] := by
    decide +kernel
  have hfile : o.names.fileOf "../../etc/passwd" = "/srv/views/etc/passwd.wml" := by decide +kernel
  obtain ⟨hfiles, hloads⟩ := loads_below_root hroot
  have hsame : (guardedFiles "x").SameBelow "/srv/views" (guardedFiles "y") :=
    ⟨rfl, FileTree.sameAt_of_find (x := .folder [("A.wml", .file climbing)]) rfl rfl⟩
  refine ⟨hroot, hwants, hfile, ?_, ((hloads 3 []).1 "A" { files := guardedFiles "x" } _ hsame).1⟩
  rw [← hfile]
  exact hfiles "../../etc/passwd" _ List.mem_cons_self

end Trellis.Loader
