import Abacus.Machine.Calculator
import Abacus.Proofs.Grammar

/-!
# What an expression computes

The calculator never sees an expression, but its instructions are those of
one, so it can be asked what the expression computes. Here the answer is
given by recursion on the expression, with an environment and nothing else:
no stack, and no instructions.

A variable stays a variable until an operation needs its value. The operands
of an operation are evaluated from left to right, each changing the
environment for the next; what is left of them may still be names, and these
are read only then, from right to left, in the environment that *all* of
them have led to (`Operand.resolve`). So `a + (a = 1)` adds 1 to 1, whatever
`a` was before. An operation that changes a variable asks for the name of
its first operand after it has read the second (`Operand.target`).

A fault ends the evaluation, and what was changed before it stays changed.
-/

namespace Abacus

/-! ## Operands -/

namespace Environment

variable {α : Type}

/-- What the environment tells, or the fault that it does not. -/
def ask (f : Environment → Except Fault α) : Step Environment α := fun env =>
  match f env with
  | .ok a => .ok a env
  | .error fault => .error fault env

theorem ask_of_ok {f : Environment → Except Fault α} {env : Environment} {a : α}
    (h : f env = .ok a) : ask f env = .ok a env := by
  unfold ask
  rw [h]

theorem ask_of_error {f : Environment → Except Fault α} {env : Environment}
    {fault : Fault} (h : f env = .error fault) : ask f env = .error fault env := by
  unfold ask
  rw [h]

/-- A variable cannot be read only if it has no value. -/
theorem eq_undefined_of_read {env : Environment} {x : String} {fault : Fault}
    (h : env.read x = .error fault) :
    ¬env.contains x = true ∧ fault = .undefined x := by
  unfold read at h
  unfold contains
  cases hget : env.get? x with
  | some v =>
    rw [hget] at h
    cases h
  | none =>
    rw [hget] at h
    cases h
    exact ⟨nofun, rfl⟩

/-- What an update comes to: the value is read, then the function is applied
to it, and what that gives is wrapped and bound. -/
theorem update_eq (env : Environment) (x : String) (f : Int → Except Fault Int) :
    env.update x f = match env.read x with
      | .error fault => .error fault
      | .ok old => match f old with
        | .error fault => .error fault
        | .ok v => .ok ⟨old, Word.wrap v, env.bind x (Word.wrap v)⟩ := by
  unfold update
  cases env.read x with
  | error => rfl
  | ok old =>
    dsimp only
    show Except.bind (f old) _ = _
    cases f old <;> rfl

/-- Changes a variable that has a value by a function of it, and gives the
values before and after. -/
def change (x : String) (f : Int → Except Fault Int) :
    Step Environment (Int × Int) := do
  let u ← ask (·.update x f)
  set u.env
  return (u.old, u.new)

end Environment

namespace Operand

/-- The value of an operand, in the environment of the moment. -/
def resolve : Operand → Step Environment Int
  | .literal v => pure v
  | .name x => Environment.ask (·.read x)

/-- The variable to change: an operand that is still a name. -/
def target : Operand → Step Environment String
  | .name x => pure x
  | .literal _ => throw .targetExpected

end Operand

/-! ## Operations -/

/-- An arithmetic operation has no result only if it divides by zero. -/
theorem Arithmetic.eq_divisionByZero_of_eval {op : Arithmetic} {a b : Int}
    {fault : Fault} (h : op.eval a b = .error fault) : fault = .divisionByZero := by
  cases op with
  | div =>
    change (if b = 0 then _ else _) = _ at h
    split at h <;> cases h
    rfl
  | _ => nomatch h

/-- The result of an arithmetic operation, wrapped to a word. Division by
zero has none. -/
def Arithmetic.result (op : Arithmetic) (a b : Int) : Step Environment Int := do
  return Word.wrap (← Environment.ask fun _ => op.eval a b)

namespace Operation

/-- What an operation does with its one operand. A step gives the value after
it if it comes before the operand, and the value before it if it comes
after. -/
def onOne : (op : Operation) → op.arity = 1 → Operand → Step Environment Int
  | .negate, _, x => do
    return Word.wrap (-(← x.resolve))
  | .stepBefore d, _, x => do
    return (← Environment.change (← x.target) fun v => .ok (v + d.change)).2
  | .stepAfter d, _, x => do
    return (← Environment.change (← x.target) fun v => .ok (v + d.change)).1

/-- What an operation does with two operands, the right one of which is read
first. -/
def onTwo : (op : Operation) → op.arity = 2 → Operand → Operand →
    Step Environment Int
  | .arithmetic op, _, x, y => do
    let b ← y.resolve
    let a ← x.resolve
    op.result a b
  | .compare c, _, x, y => do
    let b ← y.resolve
    let a ← x.resolve
    return if c.holds a b then 1 else 0
  | .assign, _, x, y => do
    let v ← y.resolve
    let name ← x.target
    modify fun env => env.bind name v
    return v
  | .assignWith op, _, x, y => do
    let v ← y.resolve
    let name ← x.target
    return (← Environment.change name fun old => op.eval old v).2

/-- What a choice does with its three operands. It reads all three, whichever
it chooses. -/
def onThree : (op : Operation) → op.arity = 3 → Operand → Operand → Operand →
    Step Environment Int
  | .choose, _, c, x, y => do
    let otherwise ← y.resolve
    let chosen ← x.resolve
    let condition ← c.resolve
    return if 0 < condition then chosen else otherwise

end Operation

/-! ## Expressions -/

namespace Expr

/-- **The operand that is left of an expression.** Of an operand that is the
operand itself, unread; of an operation it is the result, on the operands
that are left of its own. -/
def eval : Expr → Step Environment Operand
  | .operand x => pure x
  | .unary op h a => do
    let x ← a.eval
    return .literal (← op.onOne h x)
  | .binary op h a b => do
    let x ← a.eval
    let y ← b.eval
    return .literal (← op.onTwo h x y)
  | .ternary op h a b c => do
    let x ← a.eval
    let y ← b.eval
    let z ← c.eval
    return .literal (← op.onThree h x y z)

/-- The value of an expression: what is left of it is read at the end. -/
def value (e : Expr) : Step Environment Int := do
  let x ← e.eval
  x.resolve

/-- **The outcome of an expression** on an environment: its value or the
fault that ended it, and the environment afterwards. -/
def outcome (e : Expr) (env : Environment) : Except Fault Int × Environment :=
  match e.value env with
  | .ok v env => (.ok v, env)
  | .error fault env => (.error fault, env)

end Expr

end Abacus
