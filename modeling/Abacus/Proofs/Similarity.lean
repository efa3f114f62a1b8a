import Abacus.Proofs.Lockstep
import Abacus.Proofs.Semantics

/-!
# Similar environments

Two environments are similar for a line if the line cannot tell them apart.
What that takes depends on what is asked of the line, so it is left open
here: a `Similarity` names the variables, the values and the operations that
a line may use, and a relation between environments that agree on those
variables and stay related when one of those operations changes them.

**A line that keeps to these has the same outcome on similar environments**,
whether it ends with a value or with a fault, and leaves similar ones
(`Similarity.lockstep_evaluate`). The two runs go side by side: at any time
they hold the same operands and have noted the same events
(`Similarity.Calculators`).

A similarity need not be about two environments. If it relates each one to
itself only, as long as something holds of it, the same theorem says that
the line keeps what holds (`Invariant.holds_evaluate`).
-/

namespace Abacus

open Step

/-- **A similarity of environments**, for lines that use certain names,
values and operations only. The values are those of literals, of variables
with these names, and all words that an operation computes. -/
structure Similarity where
  /-- The names of variables. -/
  Name : String → Prop
  /-- The values of operands. -/
  Value : Int → Prop
  /-- The operations that are carried out. -/
  Allowed : Operation → Prop
  /-- When two environments are similar. -/
  Env : Environment → Environment → Prop
  get?_eq {env env' : Environment} {x : String} :
    Env env env' → Name x → env'.get? x = env.get? x
  value_of_get? {env env' : Environment} {x : String} {v : Int} :
    Env env env' → Name x → env.get? x = some v → Value v
  value_wrap (v : Int) : Value (Word.wrap v)
  /-- An assignment binds a name, which may be new, to a value. -/
  assign {env env' : Environment} {x : String} {v : Int} :
    Allowed .assign → Env env env' → Name x → Value v →
      Env (env.bind x v) (env'.bind x v)
  /-- A step or a combined assignment changes a name that has a value. -/
  update {op : Operation} {env env' : Environment} {x : String} {v : Int} :
    Allowed op → op.takesTarget = true → Env env env' → Name x →
      env.contains x = true →
      Env (env.bind x (Word.wrap v)) (env'.bind x (Word.wrap v))

namespace Similarity

variable {S : Similarity}

/-- An operand that a line may use. -/
def MayPush (S : Similarity) : Operand → Prop
  | .literal v => S.Value v
  | .name x => S.Name x

/-- An instruction that a line may send. -/
def MaySend (S : Similarity) : Instruction → Prop
  | .push x => S.MayPush x
  | .apply op => S.Allowed op

/-- Two calculators with the same operands and the same journal, on similar
environments. -/
inductive Calculators (S : Similarity) : Calculator → Calculator → Prop
  | mk {stack : List Operand} {env env' : Environment}
      {journal : Array Event} : (∀ x ∈ stack, S.MayPush x) → S.Env env env' →
      Calculators S ⟨stack, env, journal⟩ ⟨stack, env', journal⟩

/-! ## The calculator -/

/-- A step of the calculator on similar environments, with a result of which
`Q` holds. -/
abbrev InLockstep (S : Similarity) {α : Type} (Q : α → Prop)
    (f : Step Calculator α) : Prop :=
  Lockstep S.Calculators Q f f

theorem read_eq {env env' : Environment} {x : String} (h : S.Env env env')
    (hx : S.Name x) : env'.read x = env.read x := by
  unfold Environment.read
  rw [S.get?_eq h hx]

theorem contains_eq {env env' : Environment} {x : String} (h : S.Env env env')
    (hx : S.Name x) : env'.contains x = env.contains x := by
  unfold Environment.contains
  rw [S.get?_eq h hx]

theorem lockstep_note (e : Event) :
    S.InLockstep (fun _ => True) (Calculator.note e) := by
  refine .of_modify trivial ?_
  rintro _ _ ⟨hstack, henv⟩
  exact ⟨hstack, henv⟩

theorem lockstep_push {x : Operand} (hx : S.MayPush x) :
    S.InLockstep (fun _ => True) (modify (Calculator.push x)) := by
  refine .of_modify trivial ?_
  rintro _ _ ⟨hstack, henv⟩
  exact ⟨List.forall_mem_cons.mpr ⟨hx, hstack⟩, henv⟩

theorem lockstep_pop : S.InLockstep S.MayPush Calculator.pop := by
  rintro ⟨stack, env, _⟩ ⟨_, env', _⟩ ⟨hstack, henv⟩
  cases stack with
  | nil => exact .error ⟨hstack, henv⟩
  | cons x stack =>
    obtain ⟨hx, hrest⟩ := List.forall_mem_cons.mp hstack
    exact .ok hx ⟨hrest, henv⟩

theorem lockstep_ofExcept {α : Type} (r : Except Fault α) :
    S.InLockstep (fun a => r = .ok a) (Calculator.ofExcept r) := by
  cases r with
  | ok a => exact .of_pure rfl
  | error fault => exact .of_throw fault

/-- A variable is read alike. -/
theorem lockstep_read {x : String} (hx : S.Name x) :
    S.InLockstep S.Value (do Calculator.ofExcept ((← get).env.read x)) := by
  refine .of_get_bind ?_
  rintro ⟨stack, env, journal⟩ ⟨_, env', _⟩ ⟨hstack, henv⟩
  dsimp only
  rw [read_eq henv hx]
  unfold Environment.read
  cases hget : env.get? x with
  | none => exact .error ⟨hstack, henv⟩
  | some v => exact .ok (S.value_of_get? henv hx hget) ⟨hstack, henv⟩

theorem lockstep_popValue : S.InLockstep S.Value Calculator.popValue := by
  refine lockstep_pop.bind fun x hx => ?_
  cases x with
  | literal v => exact .of_pure hx
  | name x => exact lockstep_read hx

theorem lockstep_popTarget : S.InLockstep S.Name Calculator.popTarget := by
  refine lockstep_pop.bind fun x hx => ?_
  cases x with
  | literal v => exact .of_throw _
  | name x => exact .of_pure hx

theorem lockstep_bind {x : String} {v : Int} (hop : S.Allowed .assign)
    (hx : S.Name x) (hv : S.Value v) :
    S.InLockstep (fun _ => True) (Calculator.bind x v) := by
  refine .of_get_bind ?_
  rintro ⟨stack, env, journal⟩ ⟨_, env', _⟩ ⟨hstack, henv⟩
  have hbind : S.InLockstep (fun _ => True)
      (modify fun c : Calculator => { c with env := c.env.bind x v }) := by
    refine .of_modify trivial ?_
    rintro _ _ ⟨hstack, henv⟩
    exact ⟨hstack, S.assign hop henv hx hv⟩
  dsimp only
  rw [contains_eq henv hx]
  cases env.contains x with
  | true => exact hbind _ _ ⟨hstack, henv⟩
  | false =>
    exact (lockstep_note (.created x)).bind (fun _ _ => hbind) _ _ ⟨hstack, henv⟩

/-- **A variable is updated alike**; its value before is one of the values,
and so is its value after. -/
theorem lockstep_update {op : Operation} {x : String} (hop : S.Allowed op)
    (htarget : op.takesTarget = true) (hx : S.Name x)
    (f : Int → Except Fault Int) :
    S.InLockstep (fun u => S.Value u.1 ∧ S.Value u.2) (Calculator.update x f) := by
  refine .of_get_bind ?_
  rintro ⟨stack, env, journal⟩ ⟨_, env', _⟩ ⟨hstack, henv⟩
  dsimp only
  rw [Environment.update_eq, Environment.update_eq, read_eq henv hx]
  unfold Environment.read
  cases hget : env.get? x with
  | none => exact .error ⟨hstack, henv⟩
  | some old =>
    dsimp only
    cases f old with
    | error fault => exact .error ⟨hstack, henv⟩
    | ok v =>
      have hcontains : env.contains x = true := by
        unfold Environment.contains
        rw [hget]
        rfl
      exact .ok ⟨S.value_of_get? henv hx hget, S.value_wrap v⟩
        ⟨hstack, S.update hop htarget henv hx hcontains⟩

/-- **Every operation computes alike**, one case for each. -/
theorem lockstep_compute {op : Operation} (hop : S.Allowed op) :
    S.InLockstep S.Value (Calculator.compute op) := by
  cases op with
  | negate =>
    exact lockstep_popValue.bind fun v _ => .of_pure (S.value_wrap _)
  | stepBefore d =>
    exact lockstep_popTarget.bind fun x hx =>
      (lockstep_update hop rfl hx _).bind fun u hu => .of_pure hu.2
  | stepAfter d =>
    exact lockstep_popTarget.bind fun x hx =>
      (lockstep_update hop rfl hx _).bind fun u hu => .of_pure hu.1
  | arithmetic op =>
    exact lockstep_popValue.bind fun b _ => lockstep_popValue.bind fun a _ =>
      (lockstep_ofExcept (op.eval a b)).bind fun v _ => .of_pure (S.value_wrap v)
  | compare op =>
    refine lockstep_popValue.bind fun b _ => lockstep_popValue.bind fun a _ =>
      .of_pure ?_
    rw [← Word.wrap_ofBool]
    exact S.value_wrap _
  | choose =>
    refine lockstep_popValue.bind fun otherwise ho =>
      lockstep_popValue.bind fun chosen hc =>
      lockstep_popValue.bind fun condition _ => .of_pure ?_
    split
    · exact hc
    · exact ho
  | assign =>
    exact lockstep_popValue.bind fun v hv => lockstep_popTarget.bind fun x hx =>
      (lockstep_bind hop hx hv).bind fun _ _ => .of_pure hv
  | assignWith op =>
    exact lockstep_popValue.bind fun v _ => lockstep_popTarget.bind fun x hx =>
      (lockstep_update hop rfl hx _).bind fun u hu => .of_pure hu.2

/-- **Every instruction is carried out alike.** -/
theorem lockstep_step : Parser.Admits S.Calculators S.MaySend := by
  intro i hi
  cases i with
  | push x => exact lockstep_push hi
  | apply op =>
    exact (lockstep_compute hi).bind fun v hv =>
      (lockstep_note _).bind fun _ _ => lockstep_push hv

theorem lockstep_result : S.InLockstep S.Value Calculator.result := by
  refine .of_get_bind ?_
  rintro ⟨stack, env, journal⟩ ⟨_, env', _⟩ ⟨hstack, henv⟩
  dsimp only
  split
  · exact lockstep_popValue _ _ ⟨hstack, henv⟩
  · exact .error ⟨hstack, henv⟩

/-! ## Lines -/

/-- A line that keeps to a similarity: what its tokens can send to the
calculator is what a line may send. -/
def Covers (S : Similarity) (source : String) : Prop :=
  ∀ t ∈ (Scan.ofString source).tokens,
    ∀ i : Instruction, i.DrawnFrom t → S.MaySend i

variable {source : String} {env env' : Environment}

/-- What a line can send is what its numbers stand for, its names, and the
operations of its operators. -/
theorem covers_of_tokens
    (hvalue : ∀ t ∈ (Scan.ofString source).tokens, t.kind = .number →
      ∀ v, literalValue t.text t.pos = .ok v → S.Value v)
    (hname : ∀ t ∈ (Scan.ofString source).tokens, t.kind = .name → S.Name t.text)
    (hop : ∀ t ∈ (Scan.ofString source).tokens,
      ∀ op : Operation, op.symbol = t.kind → S.Allowed op) :
    S.Covers source := by
  intro t ht i hi
  cases hi with
  | literal hk hv => exact hvalue t ht hk _ hv
  | name hk => exact hname t ht hk
  | operation hk => exact hop t ht _ hk

theorem related_start (h : S.Env env env') :
    Parser.Related S.Calculators S.MaySend (.start (.start env))
      (.start (.start env')) :=
  ⟨⟨List.forall_mem_nil _, h⟩, List.forall_mem_nil _⟩

theorem env_of_related {p p' : Parser Calculator}
    (h : Parser.Related S.Calculators S.MaySend p p') :
    S.Env p.machine.env p'.machine.env := by
  obtain ⟨⟨-, henv⟩, -⟩ := h
  exact henv

/-- **After some tokens of a line**, taken or refused, the environments are
similar still. -/
theorem env_forM_feed {ts : List Token} (h : S.Env env env')
    (hts : ∀ t ∈ ts, ∀ i : Instruction, i.DrawnFrom t → S.MaySend i) :
    S.Env
      (reached ((ts.forM Parser.feed : Step (Parser Calculator) Unit)
        (.start (.start env)))).machine.env
      (reached ((ts.forM Parser.feed : Step (Parser Calculator) Unit)
        (.start (.start env')))).machine.env :=
  env_of_related
    (Parser.lockstep_forM_feed lockstep_step hts _ _ (related_start h)).reached

/-- The two evaluations of a line that end in lockstep. -/
theorem ofResult {r r' : EStateM.Result Fault Calculator Int}
    (h : SameOutcome S.Calculators S.Value r r') :
    (Evaluation.ofResult r').outcome = (Evaluation.ofResult r).outcome ∧
      (Evaluation.ofResult r').journal = (Evaluation.ofResult r).journal ∧
      S.Env (Evaluation.ofResult r).env (Evaluation.ofResult r').env ∧
      ∀ v, (Evaluation.ofResult r).outcome = .ok v → S.Value v := by
  rcases h with ⟨hv, -, henv⟩ | ⟨-, henv⟩
  · refine ⟨rfl, rfl, henv, ?_⟩
    rintro _ ⟨⟩
    exact hv
  · exact ⟨rfl, rfl, henv, nofun⟩

/-- **A line has the same outcome on similar environments**, with the same
events on the way, and it leaves similar ones. -/
theorem lockstep_evaluate (hS : S.Covers source) (h : S.Env env env') :
    (evaluate source env').outcome = (evaluate source env).outcome ∧
      (evaluate source env').journal = (evaluate source env).journal ∧
      S.Env (evaluate source env).env (evaluate source env').env ∧
      ∀ v, (evaluate source env).outcome = .ok v → S.Value v := by
  have hparse := Parser.lockstep_parse lockstep_step hS _ _ (related_start h)
  unfold evaluate evaluateOn
  dsimp only
  generalize (Parser.parse source : Step (Parser Calculator) Unit)
    (.start (.start env)) = r, (Parser.parse source : Step (Parser Calculator) Unit)
    (.start (.start env')) = r' at hparse ⊢
  rcases hparse with ⟨-, hc, -⟩ | ⟨hc, -⟩
  · obtain ⟨houtcome, hjournal, hrest⟩ := ofResult (lockstep_result _ _ hc)
    exact ⟨houtcome, congrArg _ hjournal, hrest⟩
  · obtain ⟨houtcome, hjournal, hrest⟩ := ofResult (S := S) (.error hc)
    exact ⟨houtcome, congrArg _ hjournal, hrest⟩

end Similarity

/-! ## Invariants -/

/-- **An invariant of lines** that use certain names, values and operations
only: what the environment has to satisfy, and keeps satisfying when one of
those operations changes it. -/
structure Invariant where
  /-- The names of variables. -/
  Name : String → Prop
  /-- The values of operands. -/
  Value : Int → Prop
  /-- The operations that are carried out. -/
  Allowed : Operation → Prop
  /-- What holds of the environment. -/
  Holds : Environment → Prop
  value_of_get? {env : Environment} {x : String} {v : Int} :
    Holds env → Name x → env.get? x = some v → Value v
  value_wrap (v : Int) : Value (Word.wrap v)
  assign {env : Environment} {x : String} {v : Int} :
    Allowed .assign → Holds env → Name x → Value v → Holds (env.bind x v)
  update {op : Operation} {env : Environment} {x : String} {v : Int} :
    Allowed op → op.takesTarget = true → Holds env → Name x →
      env.contains x = true → Holds (env.bind x (Word.wrap v))

namespace Invariant

/-- The similarity of an environment with itself, as long as the invariant
holds. -/
def similarity (P : Invariant) : Similarity where
  Name := P.Name
  Value := P.Value
  Allowed := P.Allowed
  Env env env' := env' = env ∧ P.Holds env
  get?_eq := by
    rintro env _ x ⟨rfl, -⟩ -
    rfl
  value_of_get? h := P.value_of_get? h.2
  value_wrap := P.value_wrap
  assign := by
    rintro env _ x v hop ⟨rfl, h⟩ hx hv
    exact ⟨rfl, P.assign hop h hx hv⟩
  update := by
    rintro op env _ x v hop htarget ⟨rfl, h⟩ hx hcontains
    exact ⟨rfl, P.update hop htarget h hx hcontains⟩

variable {P : Invariant} {env : Environment}

/-- **An invariant holds after every token of a line**, taken or refused. -/
theorem holds_forM_feed {ts : List Token} (h : P.Holds env)
    (hts : ∀ t ∈ ts, ∀ i : Instruction, i.DrawnFrom t → P.similarity.MaySend i) :
    P.Holds (reached ((ts.forM Parser.feed : Step (Parser Calculator) Unit)
      (.start (.start env)))).machine.env :=
  (Similarity.env_forM_feed (S := P.similarity) ⟨rfl, h⟩ hts).2

/-- **An invariant holds after a line**, however it ends, and the value of
the line is one of its values. -/
theorem holds_evaluate {source : String} (hP : P.similarity.Covers source)
    (h : P.Holds env) :
    P.Holds (evaluate source env).env ∧
      ∀ v, (evaluate source env).outcome = .ok v → P.Value v := by
  obtain ⟨-, -, henv, hvalue⟩ :=
    Similarity.lockstep_evaluate (S := P.similarity) hP ⟨rfl, h⟩
  exact ⟨henv.2, hvalue⟩

end Invariant

end Abacus
