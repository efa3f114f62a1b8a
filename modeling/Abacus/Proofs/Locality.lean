import Abacus.Proofs.Similarity

/-!
# What a line can see and touch

A line knows the variables that are named in it and no others. What it
answers depends on their values only, so two environments that agree on them
give the same answer, be it a value or a fault; and the line cannot change
anything else. This holds of a line that is refused in the middle too: what
counts are the names that have been scanned, up to the first character that
is stray.

What a line can do to its own variables is told by its operators. It never
takes a value away. It gives one to a variable that had none only with `=`,
since every other operator reads its target before it changes it. And without
any operator that has a target it leaves the environment as it was.
-/

namespace Abacus

/-- The names in a line, up to the first stray character. -/
def Scan.names (s : Scan) : List String :=
  (s.tokens.filter (·.kind = .name)).map Token.text

theorem Scan.mem_names {s : Scan} {t : Token} (ht : t ∈ s.tokens) (hk : t.kind = .name) :
    t.text ∈ s.names :=
  List.mem_map_of_mem (List.mem_filter.mpr ⟨ht, decide_eq_true hk⟩)

/-- The kinds of tokens that operators with a target are written with. -/
def Token.Kind.changes : Kind → Bool
  | .increment | .decrement | .assign | .plusAssign | .minusAssign | .starAssign
  | .slashAssign => true
  | _ => false

/-- An operation has a target exactly if its token says so. -/
theorem Operation.changes_symbol (op : Operation) :
    op.symbol.changes = op.takesTarget := by
  cases op with
  | stepBefore d | stepAfter d => cases d <;> rfl
  | arithmetic op | assignWith op => cases op <;> rfl
  | compare c => cases c <;> rfl
  | negate | choose | assign => rfl

/-- **Environments that agree on names**: each of them has the same value in
both, or none in either. -/
def Environment.AgreeOn (names : List String) (env env' : Environment) : Prop :=
  ∀ x ∈ names, env'.get? x = env.get? x

/-! ## Two environments -/

/-- A binding that is made in both environments keeps them in agreement. -/
theorem Environment.AgreeOn.bind {names : List String} {env env' : Environment}
    (h : AgreeOn names env env') (x : String) (v : Int) :
    AgreeOn names (env.bind x v) (env'.bind x v) := by
  intro y hy
  rw [get?_bind, get?_bind, h y hy]

/-- **Agreement on names is a similarity** for lines with no other names. -/
def agreement (names : List String) : Similarity where
  Name := (· ∈ names)
  Value _ := True
  Allowed _ := True
  Env := Environment.AgreeOn names
  get?_eq h hx := h _ hx
  value_of_get? _ _ _ := trivial
  value_wrap _ := trivial
  assign _ h _ _ := h.bind _ _
  update _ _ h _ _ := h.bind _ _

theorem covers_agreement (source : String) :
    (agreement (Scan.ofString source).names).Covers source :=
  Similarity.covers_of_tokens (fun _ _ _ _ _ => trivial) (fun _ => Scan.mem_names)
    fun _ _ _ _ => trivial

/-! ## One environment, before and after -/

/-- **What remains of an environment** when only certain names are bound: the
variables with other names, and every name. -/
structure Environment.Remains (names : List String) (before env : Environment) : Prop where
  get?_eq : ∀ x ∉ names, env.get? x = before.get? x
  contains : ∀ x, before.contains x = true → env.contains x = true

namespace Environment.Remains

variable {names : List String} {before env : Environment}

theorem refl (env : Environment) : Remains names env env :=
  ⟨fun _ _ => rfl, fun _ => id⟩

theorem bind (h : Remains names before env) {x : String} (hx : x ∈ names) (v : Int) :
    Remains names before (env.bind x v) := by
  refine ⟨fun y hy => ?_, fun y hy => env.contains_bind_of_contains x v (h.contains y hy)⟩
  have hne : y ≠ x := fun heq => hy (heq ▸ hx)
  rw [get?_bind, if_neg hne, h.get?_eq y hy]

end Environment.Remains

/-- **What a line cannot change**: it binds its own names only. -/
def remainder (names : List String) (before : Environment) : Invariant where
  Name := (· ∈ names)
  Value _ := True
  Allowed _ := True
  Holds := Environment.Remains names before
  value_of_get? _ _ _ := trivial
  value_wrap _ := trivial
  assign _ h hx _ := h.bind hx _
  update _ _ h hx _ := h.bind hx _

theorem covers_remainder (source : String) (before : Environment) :
    (remainder (Scan.ofString source).names before).similarity.Covers source :=
  Similarity.covers_of_tokens (fun _ _ _ _ _ => trivial) (fun _ => Scan.mem_names)
    fun _ _ _ _ => trivial

/-- **What a line without `=` cannot do**: give a value to a variable that has
none. -/
def nothingNew (before : Environment) : Invariant where
  Name _ := True
  Value _ := True
  Allowed op := op ≠ .assign
  Holds env := ∀ x, env.contains x = true → before.contains x = true
  value_of_get? _ _ _ := trivial
  value_wrap _ := trivial
  assign hop := absurd rfl hop
  update := by
    intro op env x v _ _ h _ hx y hy
    rw [Environment.contains_bind, Bool.or_eq_true, beq_iff_eq] at hy
    rcases hy with rfl | hy
    · exact h y hx
    · exact h y hy

theorem covers_nothingNew {source : String} (before : Environment)
    (h : ∀ t ∈ (Scan.ofString source).tokens, t.kind ≠ .assign) :
    (nothingNew before).similarity.Covers source := by
  refine Similarity.covers_of_tokens (fun _ _ _ _ _ => trivial) (fun _ _ _ => trivial) ?_
  rintro t ht _ hk rfl
  exact h t ht hk.symm

/-- **What a line without targets cannot do**: change anything. -/
def nothingChanged (before : Environment) : Invariant where
  Name _ := True
  Value _ := True
  Allowed op := op.takesTarget = false
  Holds env := env = before
  value_of_get? _ _ _ := trivial
  value_wrap _ := trivial
  assign hop := Bool.noConfusion hop
  update hop htarget := Bool.noConfusion (hop.symm.trans htarget)

theorem covers_nothingChanged {source : String} (before : Environment)
    (h : ∀ t ∈ (Scan.ofString source).tokens, t.kind.changes = false) :
    (nothingChanged before).similarity.Covers source := by
  refine Similarity.covers_of_tokens (fun _ _ _ _ _ => trivial) (fun _ _ _ => trivial) ?_
  intro t ht op hk
  show op.takesTarget = false
  rw [← op.changes_symbol, hk]
  exact h t ht

/-! ## Lines -/

/-- **Evaluation is local.** Environments that agree on the names of a line give
it the same outcome and the same events, and agree afterwards. And on any
environment, whether the line has a value or a fault: variables that it does
not name are unchanged, no name loses its value, none gains one unless there
is a `=`, and nothing changes at all unless there is an operator with a
target. -/
theorem evaluation_local (source : String) :
    (∀ env env', Environment.AgreeOn (Scan.ofString source).names env env' →
      (evaluate source env').outcome = (evaluate source env).outcome ∧
      (evaluate source env').journal = (evaluate source env).journal ∧
      Environment.AgreeOn (Scan.ofString source).names (evaluate source env).env
        (evaluate source env').env) ∧
    ∀ env,
      (∀ x ∉ (Scan.ofString source).names,
        (evaluate source env).env.get? x = env.get? x) ∧
      (∀ x, env.contains x = true → (evaluate source env).env.contains x = true) ∧
      (∀ x, env.contains x = false → (evaluate source env).env.contains x = true →
        ∃ t ∈ (Scan.ofString source).tokens, t.kind = .assign) ∧
      ((∀ t ∈ (Scan.ofString source).tokens, t.kind.changes = false) →
        (evaluate source env).env = env) := by
  refine ⟨fun env env' h => ?_, fun env => ⟨?_, ?_, fun x hx hafter => ?_, fun h => ?_⟩⟩
  · obtain ⟨houtcome, hjournal, henv, -⟩ :=
      Similarity.lockstep_evaluate (covers_agreement source) h
    exact ⟨houtcome, hjournal, henv⟩
  · exact ((remainder _ env).holds_evaluate (covers_remainder source env) (.refl env)).1.get?_eq
  · exact ((remainder _ env).holds_evaluate (covers_remainder source env) (.refl env)).1.contains
  · refine Classical.byContradiction fun h => ?_
    have hnone : ∀ t ∈ (Scan.ofString source).tokens, t.kind ≠ .assign :=
      fun t ht hk => h ⟨t, ht, hk⟩
    have hnew := ((nothingNew env).holds_evaluate (covers_nothingNew env hnone)
      fun _ => id).1
    exact Bool.noConfusion (hx.symm.trans (hnew x hafter))
  · exact ((nothingChanged env).holds_evaluate (covers_nothingChanged env h) rfl).1

/-- A variable that a line does not name, and one that it names but never gets
to, since it ends with a stray character before. -/
theorem evaluation_local_stray :
    Environment.AgreeOn (Scan.ofString "x = y + 1; z").names (.ofList [("y", 1)])
        (.ofList [("z", 2), ("y", 1)]) ∧
      (evaluate "x = y + 1; z" (.ofList [("z", 2), ("y", 1)])).outcome
        = (evaluate "x = y + 1; z" (.ofList [("y", 1)])).outcome := by
  have hnames : (Scan.ofString "x = y + 1; z").names = ["x", "y"] := by decide +kernel
  have hagree : Environment.AgreeOn (Scan.ofString "x = y + 1; z").names
      (.ofList [("y", 1)]) (.ofList [("z", 2), ("y", 1)]) := by
    rw [hnames]
    exact List.forall_mem_cons.mpr ⟨by decide, List.forall_mem_singleton.mpr (by decide)⟩
  exact ⟨hagree, ((evaluation_local "x = y + 1; z").1 _ _ hagree).1⟩

end Abacus
