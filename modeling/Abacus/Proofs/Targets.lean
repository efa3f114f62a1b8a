import Abacus.Proofs.EarlyResolution

/-!
# Targets

Whether something can be assigned to is found out when the assignment is
carried out: a target is wanted, and what is left of its operand is a name or
is none. The parser takes `1 = 2` and `a + b = c` like anything else.

It can be read off the expression all the same. What is left of a variable is
its name, in parentheses or not, and of everything else it is a value, even
of a choice between variables and of an assignment to one. So an expression
whose targets are all variables (`Expr.isPlaced`) never wants for one, and
then it can fail in two ways only: a variable has no value, and had none to
begin with, or a division has no result (`Expr.safe_value`). If there is
another target anywhere, nothing helps: whatever the variables are, something
goes wrong in time (`Expr.isPlaced_of_eval`).
-/

namespace Abacus

open Step

/-! ## Expressions and their targets -/

namespace Expr

/-- **Whether all targets are variables**: the first operand of every
assignment and of every step. -/
def isPlaced : Expr → Bool
  | .operand _ => true
  | .unary op _ a => (!op.takesTarget || a.name?.isSome) && a.isPlaced
  | .binary op _ a b =>
    (!op.takesTarget || a.name?.isSome) && a.isPlaced && b.isPlaced
  | .ternary op _ a b c =>
    (!op.takesTarget || a.name?.isSome) && a.isPlaced && b.isPlaced && c.isPlaced

/-- The variables of an expression, each as often as it occurs. -/
def names : Expr → List String
  | .operand (.literal _) => []
  | .operand (.name x) => [x]
  | .unary _ _ a => a.names
  | .binary _ _ a b => a.names ++ b.names
  | .ternary _ _ a b c => a.names ++ b.names ++ c.names

/-- An expression that is a variable is one of its variables. -/
theorem mem_names_of_name? {e : Expr} {x : String} (h : e.name? = some x) :
    x ∈ e.names := by
  unfold name? at h
  split at h
  · obtain rfl := Option.some.inj h
    exact List.mem_singleton_self _
  · cases h

end Expr

/-! ## Safe steps -/

namespace Step

variable {α β : Type}

/-- **A safe outcome** of a step on `env`, when variables of `N` may be read:
no variable has lost its value; or a division has no result; or a variable
was read that had no value to begin with. -/
inductive SafeOutcome (N : String → Prop) (env : Environment) :
    EStateM.Result Fault Environment α → Prop
  | ok {a : α} {env' : Environment} :
      (∀ x, env.contains x = true → env'.contains x = true) →
      SafeOutcome N env (.ok a env')
  | division {env' : Environment} : SafeOutcome N env (.error .divisionByZero env')
  | undefined {x : String} {env' : Environment} :
      N x → ¬env.contains x = true → SafeOutcome N env (.error (.undefined x) env')

/-- **A safe step** has a safe outcome on every environment. -/
def Safe (N : String → Prop) (f : Step Environment α) : Prop :=
  ∀ env, SafeOutcome N env (f env)

namespace Safe

variable {N : String → Prop} {f : Step Environment α} {g : α → Step Environment β}

/-- The second step only has to be safe after what the first one can give. -/
theorem bind (hf : Safe N f)
    (hg : ∀ env a env', f env = .ok a env' → Safe N (g a)) : Safe N (f >>= g) := by
  intro env
  have h := hf env
  cases hfenv : f env with
  | error fault env' =>
    rw [bind_of_error hfenv]
    rw [hfenv] at h
    cases h with
    | division => exact .division
    | undefined hx hcontains => exact .undefined hx hcontains
  | ok a env' =>
    rw [bind_of_ok hfenv]
    rw [hfenv] at h
    cases h with
    | ok hgrows =>
      have h' := hg env a env' hfenv env'
      generalize g a env' = r at h' ⊢
      cases h' with
      | ok hgrows' => exact .ok fun x hx => hgrows' x (hgrows x hx)
      | division => exact .division
      | undefined hx hcontains =>
        exact .undefined hx fun h => hcontains (hgrows _ h)

theorem seq (hf : Safe N f) (hg : ∀ a, Safe N (g a)) : Safe N (f >>= g) :=
  hf.bind fun _ a _ _ => hg a

theorem of_pure (a : α) : Safe N (pure a) :=
  fun _ => .ok fun _ => id

theorem of_bind (x : String) (v : Int) :
    Safe N (modify fun env => env.bind x v) :=
  fun env => .ok fun _ => env.contains_bind_of_contains x v

/-- What an environment is asked that has an answer. -/
theorem of_ask {f : Environment → Except Fault α}
    (h : ∀ env fault, f env = .error fault → fault = .divisionByZero ∨
      ∃ x, N x ∧ ¬env.contains x = true ∧ fault = .undefined x) :
    Safe N (Environment.ask f) := by
  intro env
  unfold Environment.ask
  cases hf : f env with
  | ok a => exact .ok fun _ => id
  | error fault =>
    rcases h env fault hf with rfl | ⟨x, hx, hcontains, rfl⟩
    · exact .division
    · exact .undefined hx hcontains

end Safe

end Step

variable {N : String → Prop}

/-- A change of a variable is safe if the variable may be read. -/
theorem safe_change {x : String} (hx : N x) {f : Int → Except Fault Int}
    (hf : ∀ v fault, f v = .error fault → fault = .divisionByZero) :
    Safe N (Environment.change x f) := by
  intro env
  have hupdate := Environment.update_eq env x f
  unfold Environment.change
  cases hread : env.read x with
  | error fault =>
    rw [hread] at hupdate
    obtain ⟨hcontains, rfl⟩ := Environment.eq_undefined_of_read hread
    rw [bind_of_error (Environment.ask_of_error hupdate)]
    exact .undefined hx hcontains
  | ok old =>
    rw [hread] at hupdate
    dsimp only at hupdate
    cases hv : f old with
    | error fault =>
      obtain rfl := hf old fault hv
      rw [hv] at hupdate
      rw [bind_of_error (Environment.ask_of_error hupdate)]
      exact .division
    | ok v =>
      rw [hv] at hupdate
      rw [bind_of_ok (Environment.ask_of_ok hupdate)]
      exact .ok fun _ => env.contains_bind_of_contains x _

/-! ## Operations -/

/-- An operand that is no name, or one of a variable that may be read. -/
def Operand.Within (N : String → Prop) (y : Operand) : Prop :=
  ∀ x, y = .name x → N x

theorem safe_resolve {y : Operand} (hy : y.Within N) : Safe N y.resolve := by
  cases y with
  | literal v => exact .of_pure v
  | name x =>
    refine .of_ask fun env fault h => ?_
    obtain ⟨hcontains, rfl⟩ := Environment.eq_undefined_of_read h
    exact .inr ⟨x, hy x rfl, hcontains, rfl⟩

/-- A target that is a variable is found. -/
theorem safe_target {α : Type} {y : Operand} (hy : y.Within N)
    (htarget : ∃ x, y = .name x) {g : String → Step Environment α}
    (hg : ∀ x, N x → Safe N (g x)) : Safe N (y.target >>= g) := by
  obtain ⟨x, rfl⟩ := htarget
  exact hg x (hy x rfl)

namespace Operation

theorem safe_onOne {op : Operation} {h : op.arity = 1} {y : Operand}
    (hy : y.Within N) (htarget : op.takesTarget = true → ∃ x, y = .name x) :
    Safe N (op.onOne h y) := by
  cases op with
  | negate => exact .seq (safe_resolve hy) fun _ => .of_pure _
  | stepBefore d | stepAfter d =>
    exact safe_target hy (htarget rfl) fun x hx =>
      .seq (safe_change hx fun _ _ h => nomatch h) fun _ => .of_pure _
  | _ => nomatch h

theorem safe_onTwo {op : Operation} {h : op.arity = 2} {y z : Operand}
    (hy : y.Within N) (hz : z.Within N)
    (htarget : op.takesTarget = true → ∃ x, y = .name x) :
    Safe N (op.onTwo h y z) := by
  cases op with
  | arithmetic op =>
    exact .seq (safe_resolve hz) fun _ => .seq (safe_resolve hy) fun _ =>
      .seq (.of_ask fun _ _ h => .inl (Arithmetic.eq_divisionByZero_of_eval h))
        fun _ => .of_pure _
  | compare c =>
    exact .seq (safe_resolve hz) fun _ => .seq (safe_resolve hy) fun _ => .of_pure _
  | assign =>
    exact .seq (safe_resolve hz) fun v => safe_target hy (htarget rfl) fun x _ =>
      .seq (.of_bind x v) fun _ => .of_pure _
  | assignWith op =>
    exact .seq (safe_resolve hz) fun v => safe_target hy (htarget rfl) fun x hx =>
      .seq (safe_change hx fun _ _ => Arithmetic.eq_divisionByZero_of_eval)
        fun _ => .of_pure _
  | _ => nomatch h

theorem safe_onThree {op : Operation} {h : op.arity = 3} {y z w : Operand}
    (hy : y.Within N) (hz : z.Within N) (hw : w.Within N) :
    Safe N (op.onThree h y z w) := by
  cases op with
  | choose =>
    exact .seq (safe_resolve hw) fun _ => .seq (safe_resolve hz) fun _ =>
      .seq (safe_resolve hy) fun _ => .of_pure _
  | _ => nomatch h

/-- An operation that has a target has been carried out only if its first operand
was still a name. -/
theorem exists_name_of_onOne {op : Operation} {h : op.arity = 1} {y : Operand}
    {env env' : Environment} {v : Int} (hop : op.takesTarget = true)
    (hv : op.onOne h y env = .ok v env') : ∃ x, y = .name x := by
  cases y with
  | name x => exact ⟨x, rfl⟩
  | literal w =>
    cases op with
    | stepBefore d | stepAfter d => nomatch hv
    | negate => nomatch hop
    | _ => nomatch h

theorem exists_name_of_onTwo {op : Operation} {h : op.arity = 2} {y z : Operand}
    {env env' : Environment} {v : Int} (hop : op.takesTarget = true)
    (hv : op.onTwo h y z env = .ok v env') : ∃ x, y = .name x := by
  cases y with
  | name x => exact ⟨x, rfl⟩
  | literal w =>
    cases op with
    | assign | assignWith op =>
      obtain ⟨_, _, -, hv⟩ := bind_eq_ok.mp hv
      nomatch hv
    | arithmetic | compare => nomatch hop
    | _ => nomatch h

/-- Nothing that takes three operands has a target. -/
theorem takesTarget_of_arity_three {op : Operation} (h : op.arity = 3) :
    op.takesTarget = false := by
  cases op with
  | choose => rfl
  | _ => nomatch h

end Operation

/-! ## Expressions -/

namespace Expr

/-- What is left of an expression is a name only if it is a variable. -/
theorem within_of_eval {e : Expr} {y : Operand} {env env' : Environment}
    (h : e.eval env = .ok y env') (hN : ∀ x ∈ e.names, N x) : y.Within N := by
  rintro x rfl
  exact hN x (mem_names_of_name? (name?_of_eval h))

/-- What is left of a variable is its name. -/
theorem exists_name_of_eval {op : Operation} {a : Expr} {y : Operand}
    {env env' : Environment} (h : a.eval env = .ok y env')
    (hplaced : (!op.takesTarget || a.name?.isSome) = true) (hop : op.takesTarget = true) :
    ∃ x, y = .name x := by
  rw [hop, Bool.not_true, Bool.false_or] at hplaced
  obtain ⟨x, hx⟩ := Option.isSome_iff_exists.mp hplaced
  unfold name? at hx
  split at hx
  · cases h
    exact ⟨_, rfl⟩
  · cases hx

/-- **An expression whose targets are all variables is safe**, by induction on
it. -/
theorem safe_eval {e : Expr} (h : e.isPlaced = true) (hN : ∀ x ∈ e.names, N x) :
    Safe N e.eval := by
  induction e with
  | operand y => exact .of_pure y
  | unary op harity a iha =>
    obtain ⟨hplaced, ha⟩ := Bool.and_eq_true_iff.mp h
    exact (iha ha hN).bind fun _ y _ hy =>
      .seq (op.safe_onOne (within_of_eval hy hN) (exists_name_of_eval hy hplaced))
        fun _ => .of_pure _
  | binary op harity a b iha ihb =>
    obtain ⟨h, hb⟩ := Bool.and_eq_true_iff.mp h
    obtain ⟨hplaced, ha⟩ := Bool.and_eq_true_iff.mp h
    obtain ⟨hNa, hNb⟩ := List.forall_mem_append.mp hN
    exact (iha ha hNa).bind fun _ y _ hy => (ihb hb hNb).bind fun _ z _ hz =>
      .seq (op.safe_onTwo (within_of_eval hy hNa) (within_of_eval hz hNb)
        (exists_name_of_eval hy hplaced)) fun _ => .of_pure _
  | ternary op harity a b c iha ihb ihc =>
    obtain ⟨h, hc⟩ := Bool.and_eq_true_iff.mp h
    obtain ⟨h, hb⟩ := Bool.and_eq_true_iff.mp h
    obtain ⟨-, ha⟩ := Bool.and_eq_true_iff.mp h
    obtain ⟨hNab, hNc⟩ := List.forall_mem_append.mp hN
    obtain ⟨hNa, hNb⟩ := List.forall_mem_append.mp hNab
    exact (iha ha hNa).bind fun _ y _ hy => (ihb hb hNb).bind fun _ z _ hz =>
      (ihc hc hNc).bind fun _ w _ hw =>
        .seq (op.safe_onThree (within_of_eval hy hNa) (within_of_eval hz hNb)
          (within_of_eval hw hNc)) fun _ => .of_pure _

theorem safe_value {e : Expr} (h : e.isPlaced = true) :
    Safe (· ∈ e.names) e.value :=
  (safe_eval h fun _ => id).bind fun _ _ _ hy =>
    safe_resolve (within_of_eval hy fun _ => id)

/-- **An expression that is evaluated has variables for targets**, by induction
on it: each operation that has been carried out has found its own. -/
theorem isPlaced_of_eval {e : Expr} {y : Operand} {env env' : Environment}
    (h : e.eval env = .ok y env') : e.isPlaced = true := by
  have hname {op : Operation} {a : Expr} {z : Operand} {env env' : Environment}
      (ha : a.eval env = .ok z env') (hz : op.takesTarget = true → ∃ x, z = .name x) :
      (!op.takesTarget || a.name?.isSome) = true := by
    cases hop : op.takesTarget with
    | false => rfl
    | true =>
      obtain ⟨x, rfl⟩ := hz hop
      rw [name?_of_eval ha]
      rfl
  induction e generalizing y env env' with
  | operand => rfl
  | unary op harity a iha =>
    obtain ⟨_, _, ha, h⟩ := bind_eq_ok.mp h
    obtain ⟨_, _, hop, -⟩ := bind_eq_ok.mp h
    exact Bool.and_eq_true_iff.mpr
      ⟨hname ha fun htarget => Operation.exists_name_of_onOne htarget hop, iha ha⟩
  | binary op harity a b iha ihb =>
    obtain ⟨_, _, ha, h⟩ := bind_eq_ok.mp h
    obtain ⟨_, _, hb, h⟩ := bind_eq_ok.mp h
    obtain ⟨_, _, hop, -⟩ := bind_eq_ok.mp h
    exact Bool.and_eq_true_iff.mpr ⟨Bool.and_eq_true_iff.mpr
      ⟨hname ha fun htarget => Operation.exists_name_of_onTwo htarget hop, iha ha⟩, ihb hb⟩
  | ternary op harity a b c iha ihb ihc =>
    obtain ⟨_, _, ha, h⟩ := bind_eq_ok.mp h
    obtain ⟨_, _, hb, h⟩ := bind_eq_ok.mp h
    obtain ⟨_, _, hc, -⟩ := bind_eq_ok.mp h
    have htarget : (!op.takesTarget || a.name?.isSome) = true := by
      rw [Operation.takesTarget_of_arity_three harity]
      rfl
    exact Bool.and_eq_true_iff.mpr ⟨Bool.and_eq_true_iff.mpr
      ⟨Bool.and_eq_true_iff.mpr ⟨htarget, iha ha⟩, ihb hb⟩, ihc hc⟩

/-- The outcome of an expression whose targets are all variables. -/
theorem outcome_of_isPlaced {e : Expr} (h : e.isPlaced = true) (env : Environment) :
    (∃ v, (e.outcome env).1 = .ok v) ∨ (e.outcome env).1 = .error .divisionByZero ∨
      ∃ x ∈ e.names, ¬env.contains x = true ∧ (e.outcome env).1 = .error (.undefined x) := by
  have hvalue := safe_value h env
  unfold outcome
  generalize e.value env = r at hvalue ⊢
  cases hvalue with
  | ok => exact .inl ⟨_, rfl⟩
  | division => exact .inr (.inl rfl)
  | undefined hx hcontains => exact .inr (.inr ⟨_, hx, hcontains, rfl⟩)

theorem isPlaced_of_outcome {e : Expr} {env : Environment} {v : Int}
    (h : (e.outcome env).1 = .ok v) : e.isPlaced = true := by
  unfold outcome at h
  cases hvalue : e.value env with
  | error fault env' =>
    rw [hvalue] at h
    cases h
  | ok w env' =>
    obtain ⟨_, _, heval, -⟩ := bind_eq_ok.mp hvalue
    exact isPlaced_of_eval heval

end Expr

/-! ## Lines -/

/-- **Whether a line can have a value is decided by its targets.** If they are
all variables, it never lacks a target, and if its variables all have values,
it has a value or divides by zero. If one of them is something else, it never
has a value. -/
theorem evaluate_of_targets {source : String} {l : Listing}
    (h : listing source = .ok l) (hne : l.texts ≠ []) :
    ∃ e : Tree, e.IsTreeOf source ∧ (∀ e' : Tree, e'.IsTreeOf source → e' = e) ∧
      (e.expr.isPlaced = true →
        (∀ env fault, (evaluate source env).outcome = .error fault →
          fault.kind ≠ .target) ∧
        ∀ env : Environment, (∀ x ∈ e.expr.names, env.contains x = true) →
          (∃ v, (evaluate source env).outcome = .ok v) ∨
            (evaluate source env).outcome = .error .divisionByZero) ∧
      (e.expr.isPlaced = false → ∀ env v, (evaluate source env).outcome ≠ .ok v) := by
  obtain ⟨e, he, hunique, hpost⟩ := exists_isTreeOf h hne
  have houtcome (env : Environment) :
      (evaluate source env).outcome = (e.expr.outcome env).1 :=
    congrArg Prod.fst (evaluate_of_postorder h hpost env)
  refine ⟨e, he, hunique, fun hplaced => ⟨fun env fault hfault => ?_, fun env hbound => ?_⟩,
    fun hplaced env v hv => ?_⟩
  · rw [houtcome] at hfault
    rcases Expr.outcome_of_isPlaced hplaced env with ⟨v, hv⟩ | hdivision | ⟨x, -, -, hx⟩
    · rw [hv] at hfault
      cases hfault
    · rw [hdivision] at hfault
      cases hfault
      exact Fault.Kind.noConfusion
    · rw [hx] at hfault
      cases hfault
      exact Fault.Kind.noConfusion
  · rw [houtcome]
    rcases Expr.outcome_of_isPlaced hplaced env with hv | hdivision | ⟨x, hx, hcontains, -⟩
    · exact .inl hv
    · exact .inr hdivision
    · exact absurd (hbound x hx) hcontains
  · rw [houtcome] at hv
    rw [Expr.isPlaced_of_outcome hv] at hplaced
    cases hplaced

/-- The targets of this line are `m` and `k`, and nothing in it divides. -/
theorem evaluate_of_targets_choice :
    choiceTree.IsTreeOf "n ? m-- : (k = n)" ∧ choiceTree.expr.isPlaced = true ∧
      (∀ env fault, (evaluate "n ? m-- : (k = n)" env).outcome = .error fault →
        fault.kind ≠ .target) ∧
      ∀ env : Environment, (∀ x ∈ ["n", "m", "k", "n"], env.contains x = true) →
        (∃ v, (evaluate "n ? m-- : (k = n)" env).outcome = .ok v) ∨
          (evaluate "n ? m-- : (k = n)" env).outcome = .error .divisionByZero := by
  obtain ⟨l, hlisting, hprogram⟩ := exists_listing "n ? m-- : (k = n)"
    choiceTree.expr.postorder (by decide +kernel)
  have hne : l.texts ≠ [] := by
    rw [Listing.texts, hprogram]
    decide
  obtain ⟨e, -, hunique, hplaced, -⟩ := evaluate_of_targets hlisting hne
  obtain rfl := hunique _ isTreeOf_choiceTree
  obtain ⟨htarget, hprogress⟩ := hplaced rfl
  exact ⟨isTreeOf_choiceTree, rfl, htarget, hprogress⟩

end Abacus
