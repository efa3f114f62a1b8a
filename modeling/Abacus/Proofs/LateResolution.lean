import Abacus.Proofs.Recognition
import Abacus.Proofs.Semantics

/-!
# A line computes what its expression does

Evaluating a line drives the calculator while the line is read, and no tree
is ever built. Still the line has one tree, and what is computed is what the
expression of that tree computes (`evaluate_eq_outcome`): the same value or
the same fault, and the same environment afterwards.

Three things are put together. The calculator may as well be run on the
recorded instructions, when the line has been read (`evaluateOn_eq_replay`);
the recorded instructions are the postorder of the tree
(`derives_of_line`); and the postorder of an expression, on any stack, leaves
on it what is left of the expression (`computes_postorder`).

The last of these is a simulation. The steps of the semantics change an
environment, those of the calculator a stack and a journal as well;
`Computes` says of two of them that they agree on all that both have.
-/

namespace Abacus

/-! ## Steps on the calculator -/

/-- The outcome on a calculator that belongs to one on the environment alone.
What a success gives there tells what it gives here, and what stack it
leaves. A fault tells no more than the environment. -/
inductive Realizes {α β : Type} (left : α → β × List Operand) :
    EStateM.Result Fault Environment α → EStateM.Result Fault Calculator β → Prop
  | ok {a : α} {env : Environment} {journal : Array Event} :
      Realizes left (.ok a env) (.ok (left a).1 ⟨(left a).2, env, journal⟩)
  | error {fault : Fault} {c : Calculator} :
      Realizes left (.error fault c.env) (.error fault c)

/-- A value that is the same on both sides, above a stack. -/
theorem Realizes.value {α : Type} {s : List Operand} {a : α}
    {env : Environment} {journal : Array Event} :
    Realizes (fun a => (a, s)) (.ok a env) (.ok a ⟨s, env, journal⟩) :=
  .ok

/-- **The step `g` of the calculator computes `f`** on the stack `s`. -/
def Computes {α β : Type} (s : List Operand) (left : α → β × List Operand)
    (f : Step Environment α) (g : Step Calculator β) : Prop :=
  ∀ env journal, Realizes left (f env) (g ⟨s, env, journal⟩)

namespace Computes

variable {α β γ δ : Type} {s : List Operand} {left : α → β × List Operand}
  {f : Step Environment α} {g : Step Calculator β}

theorem of_pure {a : α} {b : β} (h : left a = (b, s)) :
    Computes s left (pure a) (pure b) := by
  intro env journal
  have hok : Realizes left (.ok a env)
    (.ok (left a).1 ⟨(left a).2, env, journal⟩) := .ok
  rw [h] at hok
  exact hok

theorem of_throw (fault : Fault) : Computes s left (throw fault) (throw fault) :=
  fun env journal => .error (c := ⟨s, env, journal⟩)

/-- Steps that compute can be put in sequence. -/
theorem bind {left' : γ → δ × List Operand} {f' : α → Step Environment γ}
    {g' : β → Step Calculator δ} (h : Computes s left f g)
    (h' : ∀ a, Computes (left a).2 left' (f' a) (g' (left a).1)) :
    Computes s left' (f >>= f') (g >>= g') := by
  intro env journal
  have hstep := h env journal
  -- the two first steps succeed or fail together
  cases hf : f env with
  | ok a env' =>
    rw [hf] at hstep
    rw [Step.bind_of_ok hf]
    cases hg : g ⟨s, env, journal⟩ with
    | ok b c =>
      rw [hg] at hstep
      rw [Step.bind_of_ok hg]
      cases hstep
      exact h' a _ _
    | error fault c =>
      rw [hg] at hstep
      nomatch hstep
  | error fault env' =>
    rw [hf] at hstep
    rw [Step.bind_of_error hf]
    cases hg : g ⟨s, env, journal⟩ with
    | ok b c =>
      rw [hg] at hstep
      nomatch hstep
    | error fault c =>
      rw [hg] at hstep
      rw [Step.bind_of_error hg]
      cases hstep
      exact .error

end Computes

/-! ## Operations -/

section Operations

variable {s : List Operand} {x y z : Operand}

theorem computes_ask {α : Type} (f : Environment → Except Fault α) :
    Computes s (fun a => (a, s)) (Environment.ask f)
      (do Calculator.ofExcept (f (← get).env)) := by
  intro env journal
  show Realizes _ (Environment.ask f env)
    ((Calculator.ofExcept (f env) : Step Calculator α) ⟨s, env, journal⟩)
  unfold Environment.ask
  cases f env with
  | ok a => exact Realizes.value
  | error fault => exact Computes.of_throw fault env journal

theorem computes_popValue :
    Computes (x :: s) (fun v => (v, s)) x.resolve Calculator.popValue := by
  intro env journal
  cases x with
  | literal v => exact Realizes.value
  | name n => exact computes_ask (·.read n) env journal

theorem computes_popTarget :
    Computes (x :: s) (fun n => (n, s)) x.target Calculator.popTarget := by
  intro env journal
  cases x with
  | literal => exact Computes.of_throw _ env journal
  | name n => exact Realizes.value

theorem computes_change (n : String) (f : Int → Except Fault Int) :
    Computes s (fun u => (u, s)) (Environment.change n f)
      (Calculator.update n f) :=
  (computes_ask (·.update n f)).bind fun _ _ _ => Realizes.value

/-- That a name is new is noted, and makes no other difference. -/
theorem computes_bind (n : String) (v : Int) :
    Computes s (fun u => (u, s)) (modify fun env => env.bind n v)
      (Calculator.bind n v) := by
  intro env journal
  show Realizes _ (.ok () (env.bind n v))
    ((do
      unless env.contains n do Calculator.note (.created n)
      modify fun c => { c with env := c.env.bind n v } :
        Step Calculator Unit) ⟨s, env, journal⟩)
  cases env.contains n with
  | true => exact Realizes.value
  | false => exact Realizes.value

theorem computes_result (op : Arithmetic) (a b : Int) :
    Computes s (fun v => (v, s)) (op.result a b)
      (do return Word.wrap (← Calculator.ofExcept (op.eval a b))) :=
  (computes_ask fun _ => op.eval a b).bind fun _ => .of_pure rfl

theorem computes_onOne {op : Operation} (h : op.arity = 1) :
    Computes (x :: s) (fun v => (v, s)) (op.onOne h x)
      (Calculator.compute op) := by
  cases op with
  | negate => exact computes_popValue.bind fun v => .of_pure rfl
  | stepBefore d | stepAfter d =>
    exact computes_popTarget.bind fun n =>
      (computes_change n _).bind fun u => .of_pure rfl
  | _ => nomatch h

theorem computes_onTwo {op : Operation} (h : op.arity = 2) :
    Computes (y :: x :: s) (fun v => (v, s)) (op.onTwo h x y)
      (Calculator.compute op) := by
  cases op with
  | arithmetic op =>
    exact computes_popValue.bind fun b => computes_popValue.bind fun a =>
      computes_result op a b
  | compare c =>
    exact computes_popValue.bind fun b => computes_popValue.bind fun a =>
      .of_pure rfl
  | assign =>
    exact computes_popValue.bind fun v => computes_popTarget.bind fun n =>
      (computes_bind n v).bind fun _ => .of_pure rfl
  | assignWith op =>
    exact computes_popValue.bind fun v => computes_popTarget.bind fun n =>
      (computes_change n _).bind fun u => .of_pure rfl
  | _ => nomatch h

theorem computes_onThree {op : Operation} (h : op.arity = 3) :
    Computes (z :: y :: x :: s) (fun v => (v, s)) (op.onThree h x y z)
      (Calculator.compute op) := by
  cases op with
  | choose =>
    exact computes_popValue.bind fun b => computes_popValue.bind fun a =>
      computes_popValue.bind fun c => .of_pure (by simp [Word.isTrue])
  | _ => nomatch h

end Operations

/-! ## Expressions -/

/-- An operand pushed onto a stack. -/
theorem Realizes.pushed {s : List Operand} {x : Operand} {env : Environment}
    {journal : Array Event} :
    Realizes (fun x => ((), x :: s)) (.ok x env) (.ok () ⟨x :: s, env, journal⟩) :=
  .ok

/-- What an operation computes is pushed. -/
theorem computes_apply {s s' : List Operand} {f : Step Environment Int}
    {op : Operation} (h : Computes s (fun v => (v, s')) f (Calculator.compute op)) :
    Computes s (fun x => ((), x :: s')) (do return .literal (← f))
      (Machine.step (.apply op) : Step Calculator Unit) :=
  h.bind fun _ _ _ => Realizes.pushed

/-- **The postorder of an expression leaves what is left of the expression**,
on top of any stack. -/
theorem computes_postorder (e : Expr) (s : List Operand) :
    Computes s (fun x => ((), x :: s)) e.eval
      (Machine.run e.postorder : Step Calculator Unit) := by
  induction e generalizing s with
  | operand x => exact fun _ _ => Realizes.pushed
  | unary op h a iha =>
    rw [Expr.postorder, Machine.run_append, Machine.run_singleton]
    exact (iha s).bind fun x => computes_apply (computes_onOne h)
  | binary op h a b iha ihb =>
    -- the second operand is computed above what is left of the first
    rw [Expr.postorder, List.append_assoc, Machine.run_append,
      Machine.run_append, Machine.run_singleton]
    exact (iha s).bind fun x => (ihb _).bind fun y =>
      computes_apply (computes_onTwo h)
  | ternary op h a b c iha ihb ihc =>
    rw [Expr.postorder, List.append_assoc, List.append_assoc,
      Machine.run_append, Machine.run_append, Machine.run_append,
      Machine.run_singleton]
    exact (iha s).bind fun x => (ihb _).bind fun y => (ihc _).bind fun z =>
      computes_apply (computes_onThree h)

/-- On an empty stack the operand that is left is the only one. -/
theorem computes_value (e : Expr) :
    Computes [] (fun v => (v, [])) e.value
      (do Machine.run e.postorder; Calculator.result) :=
  (computes_postorder e []).bind fun _ env journal =>
    computes_popValue env journal

/-! ## Lines -/

/-- **Replaying a postorder has the outcome of the expression.** -/
theorem replay_postorder (e : Expr) (env : Environment) :
    let r := (⟨e.postorder, none⟩ : Recording).replay (.start env)
    (r.outcome, r.env) = e.outcome env := by
  have hreplay : (⟨e.postorder, none⟩ : Recording).replay (.start env)
      = .ofResult ((do Machine.run e.postorder; Calculator.result :
          Step Calculator Int) (.start env)) := Recording.replay_eq _ _
  have hvalue := computes_value e env #[]
  rw [hreplay, Expr.outcome, Calculator.start]
  generalize e.value env = r at hvalue ⊢
  generalize (do Machine.run e.postorder; Calculator.result :
    Step Calculator Int) ⟨[], env, #[]⟩ = r' at hvalue ⊢
  cases hvalue <;> rfl

/-- **A line computes what its expression does.** -/
theorem evaluate_eq_outcome {source : String} {l : Listing}
    (h : listing source = .ok l) (hne : l.texts ≠ []) :
    ∃ e : Tree, e.IsTreeOf source ∧ (∀ e' : Tree, e'.IsTreeOf source → e' = e) ∧
      ∀ env : Environment,
        ((evaluate source env).outcome, (evaluate source env).env)
          = e.expr.outcome env := by
  obtain ⟨e, he, hunique, hpost⟩ := exists_isTreeOf h hne
  refine ⟨e, he, hunique, fun env => ?_⟩
  show ((evaluateOn (.start env) source).outcome,
    (evaluateOn (.start env) source).env) = _
  rw [evaluateOn_eq_replay, Recording.ofSource_of_listing h, hpost]
  exact replay_postorder e.expr env

/-- The line `a + (a = 1)`, in which the first `a` is read after it has been
assigned. -/
theorem evaluate_eq_outcome_assigned :
    ∃ e : Tree, e.IsTreeOf "a + (a = 1)" ∧ ∀ env : Environment,
      ((evaluate "a + (a = 1)" env).outcome, (evaluate "a + (a = 1)" env).env)
        = e.expr.outcome env := by
  obtain ⟨l, hlisting, hprogram⟩ := exists_listing "a + (a = 1)"
    [.push (.name "a"), .push (.name "a"), .push (.literal 1), .apply .assign,
      .apply (.arithmetic .add)] (by decide +kernel)
  have hne : l.texts ≠ [] := by
    rw [Listing.texts, hprogram]
    decide
  obtain ⟨e, he, -, hvalue⟩ := evaluate_eq_outcome hlisting hne
  exact ⟨e, he, hvalue⟩

end Abacus
