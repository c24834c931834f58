/-
Paths, and reading them step by step.

A fixed path is read at once.  With parentheses around a part of it, or with a name that is
computed, it is read step by step (`Eval.Steps`), and this comes to the same value or the same fault
(`Eval.expr_steps`): what has been read so far can still be followed as on the path (`Run.Agrees`).

Two roots are read otherwise alone than at the start of a path.  `context` alone is the nearest
ambient context, while a path looks for its first name in all of them, from the nearest on; and
`undefined` alone is no name.  So the two ways part where nothing but such a root is read in the
first step, and the nearest context lacks the name, or something is bound under the name `undefined`
(`Eval.expr_steps_roots`).
-/
import Trellis.Proofs.Code.Flags
import Trellis.Proofs.Value.Run

namespace Trellis

/-! ### Following -/

/-- What a value leads to is the same in two memories, names, faults and all. -/
def Value.ReadsAlike (h : Host) (v : Value) (m n : Memory) : Prop :=
  ∀ names, ((v.follow h names).on m).1 = ((v.follow h names).on n).1

namespace Run

/-- Two pieces of work give the same value or the same fault, and what the value leads to is the
same after either of them. -/
def Agrees (h : Host) (m : Memory) (w w' : Run Value) : Prop :=
  (w.on m).1 = (w'.on m).1 ∧ ∀ v, (w.on m).1 = .ok v → v.ReadsAlike h (w.on m).2 (w'.on m).2

variable {h : Host} {m n : Memory} {w w' w'' : Run Value}

lemma Agrees.refl (h : Host) (m : Memory) (w : Run Value) : Agrees h m w w :=
  ⟨rfl, fun _ _ _ => rfl⟩

lemma Agrees.trans (hw : Agrees h m w w') (hw' : Agrees h m w' w'') : Agrees h m w w'' := by
  refine ⟨hw.1.trans hw'.1, fun v hv names => ?_⟩
  exact (hw.2 v hv names).trans (hw'.2 v (hw.1 ▸ hv) names)

lemma agrees_of_error {f : Fault} {m' m'' : Memory} (hw : w.on m = (.error f, m'))
    (hw' : w'.on m = (.error f, m'')) :
    Agrees h m w w' := by
  refine ⟨by rw [hw, hw'], fun v hv => ?_⟩
  rw [hw] at hv
  cases hv

lemma agrees_of_ok {v : Value} {m' m'' : Memory} (hw : w.on m = (.ok v, m'))
    (hw' : w'.on m = (.ok v, m'')) (halike : v.ReadsAlike h m' m'') : Agrees h m w w' := by
  refine ⟨by rw [hw, hw'], fun u hu => ?_⟩
  rw [hw] at hu
  cases hu
  rwa [hw, hw']

end Run

namespace Value

variable {h : Host} {v : Value} {m n : Memory}

lemma ReadsAlike.symm (halike : v.ReadsAlike h m n) : v.ReadsAlike h n m :=
  fun names => (halike names).symm

lemma follow_undefined (h : Host) (names : List String) : Value.undefined.follow h names =
    pure .undefined := by
  cases names <;> rfl

/-- A path is followed in two parts. -/
lemma follow_append (h : Host) (v : Value) (p q : List String) :
    v.follow h (p ++ q) = v.follow h p >>= fun w => w.follow h q := by
  induction p generalizing v with
  | nil => rw [List.nil_append, follow, pure_bind]
  | cons name p ih =>
    rw [List.cons_append, follow, follow]
    split
    · exact (pure_bind _ _).trans (follow_undefined h q) |>.symm
    · rw [bind_assoc]
      exact bind_congr fun w => ih w

/-- What a value leads to leads on alike. -/
lemma ReadsAlike.step (halike : v.ReadsAlike h m n) (name : String) :
    ((v.follow h [name]).on m).1 = ((v.follow h [name]).on n).1 ∧
    ∀ u, ((v.follow h [name]).on m).1 = .ok u →
      u.ReadsAlike h ((v.follow h [name]).on m).2 ((v.follow h [name]).on n).2 := by
  refine ⟨halike [name], fun u hu names => ?_⟩
  obtain ⟨m', hm'⟩ : ∃ m', (v.follow h [name]).on m = (.ok u, m') := ⟨_, Prod.ext hu rfl⟩
  obtain ⟨n', hn'⟩ : ∃ n', (v.follow h [name]).on n = (.ok u, n') :=
    ⟨_, Prod.ext ((halike [name]).symm.trans hu) rfl⟩
  have hmore := halike ([name] ++ names)
  rw [follow_append, Run.on_bind hm', Run.on_bind hn'] at hmore
  rwa [hm', hn']

end Value

open Run

/-- What agrees agrees one step further on. -/
lemma Run.Agrees.follow {h : Host} {m : Memory} {w w' : Run Value} (hw : Agrees h m w w')
    (name : String) :
    Agrees h m (do (← w).follow h [name]) (do (← w').follow h [name]) := by
  obtain ⟨r, m₁, hr⟩ : ∃ r m₁, w.on m = (r, m₁) := ⟨_, _, rfl⟩
  obtain ⟨r', m₂, hr'⟩ : ∃ r' m₂, w'.on m = (r', m₂) := ⟨_, _, rfl⟩
  obtain ⟨heq, halike⟩ := hw
  rw [hr, hr'] at heq halike
  obtain rfl : r = r' := heq
  cases r with
  | error f => exact agrees_of_error (on_bind_error hr _) (on_bind_error hr' _)
  | ok v =>
    rw [Agrees, on_bind hr, on_bind hr']
    exact (halike v rfl).step name

namespace Eval

variable {m : Machine} {env : Env} {mem : Memory} {e base : Expr} {p : List String}

/-! ### Steps -/

/-- A key that comes to a name: wherever the owner has been read, the key has a value that is shown
as the name, and what the owner leads to stays as it is. -/
def Names (m : Machine) (env : Env) (mem : Memory) (owner key : Expr) (name : String) : Prop :=
  ∀ o mem₁, (expr m env owner).on mem = (.ok o, mem₁) → ∃ k mem₂ mem₃,
    (expr m env key).on mem₁ = (.ok k, mem₂) ∧ (k.toText m).on mem₂ = (.ok name, mem₃) ∧
      o.ReadsAlike m.host mem₁ mem₃

/-- An expression that goes along a path from a root, step by step: each step is a name after a dot,
a text in brackets or a key that comes to the name, and there may be parentheses around any part. -/
inductive Steps (m : Machine) (env : Env) (mem : Memory) : Expr → List String → Prop where
  | root (s : Span) (name : String) : Steps m env mem (.ident s name) [name]
  | paren (s : Span) {e : Expr} {p : List String} : Steps m env mem e p →
      Steps m env mem (.paren s e) p
  | dot (s ns : Span) (name : String) {e : Expr} {p : List String} :
    Steps m env mem e p → Steps m env mem (.member s e ns name) (p ++ [name])
  | text (s ls : Span) (name raw : String) {e : Expr} {p : List String} :
    Steps m env mem e p → Steps m env mem (.index s e (.lit ls (.string name raw))) (p ++ [name])
  | key (s : Span) {key : Expr} {name : String} {e : Expr} {p : List String} :
    (∀ ls value raw, key ≠ .lit ls (.string value raw)) → Names m env mem e key name →
    Steps m env mem e p → Steps m env mem (.index s e key) (p ++ [name])

lemma Steps.ne_nil (h : Steps m env mem e p) : p ≠ [] := by
  induction h with
  | root s name => exact List.cons_ne_nil _ _
  | paren s _ ih => exact ih
  | _ => exact List.append_ne_nil_of_right_ne_nil _ (List.cons_ne_nil _ _)

/-- A key that is no text in the source makes no fixed path. -/
lemma path?_key {s : Span} {key : Expr} (hkey : ∀ ls value raw, key ≠ .lit ls (.string value raw)) :
    (Expr.index s base key).path? = none := by
  rw [Expr.path?.eq_def]
  split
  · next heq => cases heq
  · next heq => cases heq
  · next heq =>
    cases heq
    exact absurd rfl (hkey _ _ _)
  · rfl

/-- Where an expression is a fixed path it goes along that path. -/
lemma Steps.path_eq (h : Steps m env mem e p) {q : List String} (hq : e.path? = some q) :
    q = p := by
  induction h generalizing q with
  | root s name =>
    cases hq
    rfl
  | paren s _ _ => cases hq
  | dot s ns name _ ih =>
    obtain ⟨q', hq', rfl⟩ := Option.map_eq_some_iff.1 hq
    rw [ih hq']
  | text s ls name raw _ ih =>
    obtain ⟨q', hq', rfl⟩ := Option.map_eq_some_iff.1 hq
    rw [ih hq']
  | key s hkey _ _ _ =>
    rw [path?_key hkey] at hq
    cases hq

/-- Whether the root of a path is read alone, and not together with the first step. -/
def readsRoot : Expr → Bool
  | .ident _ _ => true
  | .paren _ e => readsRoot e
  | .member s base ns name => (Expr.member s base ns name).path?.isNone && readsRoot base
  | .index s base key => (Expr.index s base key).path?.isNone && readsRoot base
  | _ => false

/-- The fields that memory has somewhere. -/
def fieldsAt (mem : Memory) (at_ : Nat) : Fields :=
  match mem.cells[at_]? with
  | some (.fields fs) => fs
  | _ => []

/-- What an ambient context has under a name. -/
def held? (mem : Memory) (name : String) (context : Option Nat) : Option Value :=
  context.bind fun at_ => (fieldsAt mem at_).get? name

/-- A root that may be read alone: of the ambient contexts the nearest has the first name, or none
has it, and `undefined` has no value. -/
structure RootAlone (m : Machine) (env : Env) (mem : Memory) (root first : String) : Prop where
  context : root = "context" → (held? mem first (env.ambient.head?.join)).isSome ∨
    ∀ context ∈ env.ambient, held? mem first context = none
  undefined : root = "undefined" → ∃ mem', (name m env "undefined").on mem = (.ok .undefined, mem')

/-! ### Roots -/

lemma fields_on (mem : Memory) (at_ : Nat) : (Memory.fields at_).on mem = (.ok (fieldsAt mem at_),
    mem) := by
  rw [Memory.fields, Memory.cell?, bind_assoc, on_bind (on_get mem), pure_bind, fieldsAt]
  rcases mem.cells[at_]? with _ | c
  · rfl
  · cases c <;> rfl

/-- A path finds its first name in the nearest ambient context that has it. -/
lemma ambientName_on (first : String) (contexts : List (Option Nat)) (mem : Memory) :
    (ambientName first contexts).on mem =
    (.ok ((contexts.findSome? (held? mem first)).getD .undefined), mem) := by
  induction contexts with
  | nil => rfl
  | cons context rest ih =>
    cases context with
    | none => exact ih
    | some at_ =>
      rw [ambientName, on_bind (fields_on mem at_), List.findSome?_cons,
        show held? mem first (some at_) = (fieldsAt mem at_).get? first from rfl]
      cases (fieldsAt mem at_).get? first with
      | none => exact ih
      | some v => rfl

/-- `context` alone is the nearest ambient context. -/
lemma ambientData_on (h : Host) (first : String) (mem : Memory) :
    ((ambientData env).follow h [first]).on mem =
      (.ok ((held? mem first env.ambient.head?.join).getD .undefined), mem) := by
  rw [ambientData]
  split
  · next at_ heq =>
    rw [heq, Value.follow]
    change ((Memory.fields at_ >>= fun fs => pure ((fs.get? first).getD .undefined)) >>= fun v =>
      v.follow h []).on mem = _
    rw [bind_assoc, on_bind (fields_on mem at_)]
    rfl
  · next hnone =>
    have hhead : env.ambient.head?.join = none := by
      cases hhead : env.ambient.head? with
      | none => rfl
      | some context =>
        cases context with
        | none => rfl
        | some at_ => exact absurd hhead (hnone at_)
    rw [hhead, Value.follow_undefined]
    rfl

lemma head_or_none {contexts : List (Option Nat)} {first : String}
    (h : (held? mem first contexts.head?.join).isSome ∨ ∀ context ∈ contexts,
    held? mem first context = none) :
    contexts.findSome? (held? mem first) = held? mem first contexts.head?.join := by
  cases contexts with
  | nil => rfl
  | cons context rest =>
    rw [List.findSome?_cons]
    change _ = held? mem first context
    cases hheld : held? mem first context with
    | some v => rfl
    | none =>
      refine List.findSome?_eq_none_iff.2 fun context' hcontext' => ?_
      obtain hhead | hnone := h
      · rw [show (context :: rest).head?.join = context from rfl, hheld] at hhead
        cases hhead
      · exact hnone context' (List.mem_cons_of_mem _ hcontext')

/-- A path from any other root starts with its name. -/
lemma path_name {root : String} (hcontext : root ≠ "context") (hchildren : root ≠ "_children")
    (rest : List String) :
    path m env (root :: rest) = name m env root >>= fun v => v.follow m.host rest := by
  rw [path]
  · rintro first rest rfl
    exact absurd rfl hcontext
  · rintro first rest rfl
    exact absurd rfl hchildren

/-- The first step from a root that may be read alone. -/
lemma agrees_root {root first : String} (h : RootAlone m env mem root first) :
    Agrees m.host mem (do (← identifier m env root).follow m.host [first])
    (path m env [root, first]) := by
  by_cases hcontext : root = "context"
  · subst hcontext
    have hpath : (path m env ["context", first]).on mem =
        (.ok ((held? mem first env.ambient.head?.join).getD .undefined), mem) := by
      change (ambientName first env.ambient >>= fun v => v.follow m.host []).on mem = _
      rw [on_bind (ambientName_on _ _ _), head_or_none (h.context rfl)]
      rfl
    exact agrees_of_ok (ambientData_on m.host first mem) hpath fun _ => rfl
  · by_cases hchildren : root = "_children"
    · subst hchildren
      refine (congrArg (Agrees m.host mem · _) ?_).mp (Agrees.refl _ _ _)
      change childName env first >>= _ = (pure (childrenData env) >>= _)
      rw [childName, childrenData]
      cases env.children with
      | none => rfl
      | some at_ => rfl
    · rw [path_name hcontext hchildren]
      by_cases hundefined : root = "undefined"
      · subst hundefined
        obtain ⟨mem', hname⟩ := h.undefined rfl
        have hpath : (do (← name m env "undefined").follow m.host [first]).on mem =
            (.ok .undefined, mem') := by
          rw [on_bind hname]
          rfl
        have hstep : (do (← identifier m env "undefined").follow m.host [first]).on mem =
          (.ok .undefined, mem) := rfl
        refine agrees_of_ok hstep hpath fun names => ?_
        rw [Value.follow_undefined]
        rfl
      · rw [identifier.eq_def]
        split
        · exact absurd rfl hundefined
        · exact absurd rfl hcontext
        · exact absurd rfl hchildren
        · exact Agrees.refl _ _ _

/-- A path of several steps is followed one step further. -/
lemma path_append (root first : String) (rest : List String) (x : String) :
    path m env (root :: first :: (rest ++ [x])) =
      path m env (root :: first :: rest) >>= fun v => v.follow m.host [x] := by
  by_cases hcontext : root = "context"
  · subst hcontext
    change (ambientName first env.ambient >>= _) = (ambientName first env.ambient >>= _) >>= _
    rw [bind_assoc]
    exact bind_congr fun v => Value.follow_append m.host v rest [x]
  · by_cases hchildren : root = "_children"
    · subst hchildren
      change (childName env first >>= _) = (childName env first >>= _) >>= _
      rw [bind_assoc]
      exact bind_congr fun v => Value.follow_append m.host v rest [x]
    · rw [path_name hcontext hchildren, path_name hcontext hchildren, bind_assoc,
        ← List.cons_append]
      exact bind_congr fun v => Value.follow_append m.host v (first :: rest) [x]

/-! ### Expressions -/

/-- A computed step is the step to the name that its key comes to. -/
lemma agrees_key {s : Span} {owner key : Expr} {name : String}
    (hpath : (Expr.index s owner key).path? = none) (hkey : Names m env mem owner key name) :
    Agrees m.host mem (expr m env (.index s owner key))
    (do (← expr m env owner).follow m.host [name]) := by
  rw [expr_index m hpath]
  obtain ⟨r, mem₁, howner⟩ : ∃ r mem₁, (expr m env owner).on mem = (r, mem₁) := ⟨_, _, rfl⟩
  cases r with
  | error f => exact agrees_of_error (on_bind_error howner _) (on_bind_error howner _)
  | ok o =>
    obtain ⟨k, mem₂, mem₃, hk, htext, halike⟩ := hkey o mem₁ howner
    rw [Agrees, on_bind howner, on_bind howner, on_bind hk, on_bind htext]
    exact halike.symm.step name

/-- A text in brackets is a name. -/
lemma expr_text {s ls : Span} {owner : Expr} {name raw : String}
    (hpath : (Expr.index s owner (.lit ls (.string name raw))).path? = none) :
    expr m env (.index s owner (.lit ls (.string name raw))) =
      expr m env owner >>= fun o => o.follow m.host [name] := by
  rw [expr_index m hpath]
  refine bind_congr fun o => ?_
  rw [expr, pure_bind]
  rfl

/-- A step from where the steps before it led. -/
lemma agrees_step {w : Run Value} {name root first : String} {rest : List String} {alone : Prop}
    (hw : Agrees m.host mem w (do (← expr m env e).follow m.host [name])) (hne : p ≠ [])
    (hroot : ∀ root, p = [root] → expr m env e = identifier m env root ∧ alone)
    (hpath : ∀ root first rest, p = root :: first :: rest →
    (alone → RootAlone m env mem root first) →
      Agrees m.host mem (expr m env e) (path m env p))
    (hp : p ++ [name] = root :: first :: rest) (halone : alone → RootAlone m env mem root first) :
    Agrees m.host mem w (path m env (p ++ [name])) := by
  match p, hne with
  | [root'], _ =>
    cases hp
    obtain ⟨hident, hreads⟩ := hroot root rfl
    rw [hident] at hw
    exact hw.trans (agrees_root (halone hreads))
  | root' :: first' :: rest', _ =>
    cases hp
    refine hw.trans ?_
    rw [List.cons_append, List.cons_append, path_append]
    exact (hpath root first rest' rfl halone).follow name

/-- What the steps of an expression come to: a root alone to the name, and several steps to their
path. -/
lemma agrees_path (h : Steps m env mem e p) :
    (∀ root, p = [root] → expr m env e = identifier m env root ∧ readsRoot e) ∧
    ∀ root first rest, p = root :: first :: rest → (readsRoot e → RootAlone m env mem root first) →
      Agrees m.host mem (expr m env e) (path m env p) := by
  have hlonger : ∀ {p : List String} {name root : String}, p ≠ [] → p ++ [name] ≠ [root] := by
    intro p name root hp heq
    cases p with
    | nil => exact hp rfl
    | cons x p => cases p <;> cases heq
  induction h with
  | root s name =>
    refine ⟨fun root hroot => ?_, fun root first rest hp => ?_⟩
    · cases hroot
      rw [expr]
      exact ⟨rfl, rfl⟩
    · cases hp
  | paren s _ ih =>
    rw [expr, readsRoot]
    exact ih
  | @dot s ns name base p hbase ih =>
    refine ⟨fun root hroot => absurd hroot (hlonger hbase.ne_nil), fun root first rest hp halone =>
      ?_⟩
    cases hq : (Expr.member s base ns name).path? with
    | some q =>
      rw [expr, hq, (hbase.dot s ns name).path_eq hq]
      exact .refl _ _ _
    | none =>
      rw [readsRoot, hq] at halone
      rw [expr_member m hq]
      exact agrees_step (.refl _ _ _) hbase.ne_nil ih.1 ih.2 hp halone
  | @text s ls name raw base p hbase ih =>
    refine ⟨fun root hroot => absurd hroot (hlonger hbase.ne_nil), fun root first rest hp halone =>
      ?_⟩
    cases hq : (Expr.index s base (.lit ls (.string name raw))).path? with
    | some q =>
      rw [expr, hq, (hbase.text s ls name raw).path_eq hq]
      exact .refl _ _ _
    | none =>
      rw [readsRoot, hq] at halone
      rw [expr_text hq]
      exact agrees_step (.refl _ _ _) hbase.ne_nil ih.1 ih.2 hp halone
  | @key s key name base p hlit hkey hbase ih =>
    refine ⟨fun root hroot => absurd hroot (hlonger hbase.ne_nil), fun root first rest hp halone =>
      ?_⟩
    have hq : (Expr.index s base key).path? = none := path?_key hlit
    rw [readsRoot, hq] at halone
    exact agrees_step (agrees_key hq hkey) hbase.ne_nil ih.1 ih.2 hp halone

/-- A fixed path goes along itself. -/
lemma Steps.of_path (h : e.path? = some p) : Steps m env mem e p := by
  fun_induction Expr.path? e generalizing p with
  | case1 s name =>
    cases h
    exact .root s name
  | case2 s base ns name ih =>
    obtain ⟨q, hq, rfl⟩ := Option.map_eq_some_iff.1 h
    exact (ih hq).dot s ns name
  | case3 s base ls name raw ih =>
    obtain ⟨q, hq, rfl⟩ := Option.map_eq_some_iff.1 h
    exact (ih hq).text s ls name raw
  | case4 => cases h

/-- A fixed path reads its root together with the first step. -/
lemma readsRoot_path {root first : String} {rest : List String}
    (h : e.path? = some (root :: first :: rest)) :
    readsRoot e = false := by
  cases e with
  | ident s name => cases h
  | member s base ns name => rw [readsRoot, h, Option.isNone_some, Bool.false_and]
  | index s base key => rw [readsRoot, h, Option.isNone_some, Bool.false_and]
  | _ => cases h

/-- **Paths.** Read step by step, with parentheses around any part and with names that are computed,
a path comes to what it comes to when it is read at once: the same value, or the same fault.  This
holds for all paths, environments and ambient contexts, unless the root is read alone and is
`context` or `undefined`: then the nearest ambient context must have the first name, or none may
have it, and nothing may be bound under the name `undefined`. -/
theorem expr_steps (m : Machine) (env : Env) (mem : Memory) {e e' : Expr} {p : List String}
    (he : e.path? = some p) (h : Steps m env mem e' p)
    (hroot : ∀ root first rest, p = root :: first :: rest → readsRoot e' →
    RootAlone m env mem root first) :
    ((expr m env e').on mem).1 = ((expr m env e).on mem).1 := by
  obtain ⟨hone, hmore⟩ := agrees_path h
  obtain ⟨hone', hmore'⟩ := agrees_path (Steps.of_path he : Steps m env mem e p)
  match p, h.ne_nil with
  | [root], _ => rw [(hone root rfl).1, (hone' root rfl).1]
  | root :: first :: rest, _ =>
    have hfixed : readsRoot e → RootAlone m env mem root first := fun hreads => by
      rw [readsRoot_path he] at hreads
      cases hreads
    exact (hmore root first rest rfl (hroot root first rest rfl)).1.trans
      (hmore' root first rest rfl hfixed).1.symm

/-- A machine without a host. -/
def bareMachine : Machine := { content := fun _ _ => return [], decorator? := fun _ _ => none }

/-- Data with a record, with the name of its field, and with a record under the name `undefined`;
besides, an ambient context that has a name and one that has not. -/
def nestedMemory : Memory where
  cells := #[
    .fields [("a", .object 1), ("k", .text "b"), ("undefined", .object 1)],
    .fields [("b", .text "x")],
    .fields [("c", .text "y")]]
  scopes := #[{ data := .object 0 }]

/-- Such data, where the nearest ambient context lacks a name that the one around it has. -/
def nestedEnv : Env := { scope := some 0, ambient := [some 2, some 1] }

/-- The place of all nodes in the examples. -/
def here : Span := ⟨1, 1, 1, 1⟩

/-- `x.b` for a name `x`. -/
def atOnce (x : String) : Expr := .member here (.ident here x) here "b"

/-- `(x).b` for a name `x`. -/
def inSteps (x : String) : Expr := .member here (.paren here (.ident here x)) here "b"

/-- Of `(a)[k]` the key comes to `b`, and the whole to what `a.b` comes to. -/
theorem expr_steps_key :
    ((expr bareMachine nestedEnv (.index here (.paren here (.ident here "a")) (.ident here "k"))).on
    nestedMemory).1 = ((expr bareMachine nestedEnv (atOnce "a")).on nestedMemory).1 := by
  have hkey : Names bareMachine nestedEnv nestedMemory (.paren here (.ident here "a"))
      (.ident here "k") "b" := by
    intro o mem₁ ho
    have howner : (expr bareMachine nestedEnv (.paren here (.ident here "a"))).on nestedMemory =
        (.ok (.object 1), nestedMemory) := rfl
    rw [howner] at ho
    cases ho
    exact ⟨.text "b", nestedMemory, nestedMemory, rfl, rfl, fun _ => rfl⟩
  have hsteps : Steps bareMachine nestedEnv nestedMemory
    (.index here (.paren here (.ident here "a")) (.ident here "k"))
      ["a", "b"] := .key here (fun _ _ _ h => Expr.noConfusion h) hkey
        (.paren here (.root here "a"))
  refine expr_steps bareMachine nestedEnv nestedMemory rfl hsteps fun root first rest hp _ => ?_
  cases hp
  exact ⟨fun h => absurd h (by decide), fun h => absurd h (by decide)⟩

/-- `x.b` comes to a text at once, and `(x).b`, which goes along the same path, to nothing. -/
def Strays (x : String) : Prop :=
  (atOnce x).path? = some [x, "b"] ∧ Steps bareMachine nestedEnv nestedMemory (inSteps x) [x, "b"] ∧
    ((expr bareMachine nestedEnv (atOnce x)).on nestedMemory).1 = .ok (.text "x") ∧
    ((expr bareMachine nestedEnv (inSteps x)).on nestedMemory).1 = .ok .undefined

/-- **Roots.** `context.b` is read from the ambient context that has the name, and `undefined.b`
from what is bound under `undefined`; `(context).b` and `(undefined).b` come to nothing. -/
theorem expr_steps_roots : Strays "context" ∧ Strays "undefined" := by
  have hsteps : ∀ x, Steps bareMachine nestedEnv nestedMemory (inSteps x) [x, "b"] := fun x =>
    .dot here here "b" (.paren here (.root here x))
  exact ⟨⟨rfl, hsteps "context", rfl, rfl⟩, ⟨rfl, hsteps "undefined", rfl, rfl⟩⟩

end Eval

end Trellis
