import Abacus.Environment
import Abacus.Journal
import Abacus.Machine

/-!
# The calculator

The machine that computes. It holds a stack of operands, the environment, and a journal of what it
did. Variables stay on the stack by name and are read when an operation takes them, so an operation
sees every change made by its operands; an assignment takes the name itself.

Operands are popped from the right, each one read as it is popped. Results of arithmetic, steps and
combined assignments are wrapped to words; literals and plainly assigned values are kept as they
are.
-/

namespace Abacus

/-- The quotient of two integers, truncated toward zero. -/
def Arithmetic.quotient (a b : Int) : Except Fault Int :=
  if b = 0 then .error .divisionByZero else .ok (a.tdiv b)

/-- The exact result of an arithmetic operation. -/
def Arithmetic.eval : Arithmetic → Int → Int → Except Fault Int
  | .add, a, b => .ok (a + b)
  | .sub, a, b => .ok (a - b)
  | .mul, a, b => .ok (a * b)
  | .div, a, b => quotient a b

/-- Whether a comparison holds. -/
def Comparison.holds : Comparison → Int → Int → Bool
  | .eq, a, b => a = b
  | .ne, a, b => a ≠ b
  | .gt, a, b => a > b
  | .ge, a, b => a ≥ b
  | .lt, a, b => a < b
  | .le, a, b => a ≤ b

/-- The state of the machine that computes: its operands, topmost first, the environment, and the
journal, oldest event first. -/
structure Calculator where
  stack : List Operand
  env : Environment
  journal : Array Event

namespace Calculator

/-- A calculator without operands. -/
def start (env : Environment) : Calculator := ⟨[], env, #[]⟩

/-- The calculator with one more operand. -/
def push (operand : Operand) (c : Calculator) : Calculator :=
  { c with stack := operand :: c.stack }

/-- Notes an event in the journal. -/
def note (e : Event) : Step Calculator Unit :=
  modify fun c => { c with journal := c.journal.push e }

/-- A result that does not depend on the state. -/
def ofExcept {α : Type} : Except Fault α → Step Calculator α
  | .ok a => pure a
  | .error f => throw f

/-- Takes the topmost operand. -/
def pop : Step Calculator Operand := fun c =>
  match c.stack with
  | [] => .error .operandMissing c
  | operand :: rest => .ok operand { c with stack := rest }

/-- Takes the topmost operand and reads its value. -/
def popValue : Step Calculator Int := do
  match ← pop with
  | .literal v => pure v
  | .name x => ofExcept ((← get).env.read x)

/-- Takes the topmost operand, which has to be a name. -/
def popTarget : Step Calculator String := do
  match ← pop with
  | .name x => pure x
  | .literal _ => throw .targetExpected

/-- Binds a name to a value, which is noted if the name is new. -/
def bind (x : String) (v : Int) : Step Calculator Unit := do
  unless (← get).env.contains x do note (.created x)
  modify fun c => { c with env := c.env.bind x v }

/-- Updates a variable by a function of its value, and gives the values before and after. -/
def update (x : String) (f : Int → Except Fault Int) : Step Calculator (Int × Int) := do
  let u ← ofExcept ((← get).env.update x f)
  modify fun c => { c with env := u.env }
  return (u.old, u.new)

/-- Takes the operands of an operation and computes its result. -/
def compute : Operation → Step Calculator Int
  | .negate => do
    let v ← popValue
    return Word.wrap (-v)
  | .stepBefore d => do
    let x ← popTarget
    let (_, new) ← update x fun v => .ok (v + d.change)
    return new
  | .stepAfter d => do
    let x ← popTarget
    let (old, _) ← update x fun v => .ok (v + d.change)
    return old
  | .arithmetic op => do
    let b ← popValue
    let a ← popValue
    return Word.wrap (← ofExcept (op.eval a b))
  | .compare op => do
    let b ← popValue
    let a ← popValue
    return Word.ofBool (op.holds a b)
  | .choose => do
    let otherwise ← popValue
    let chosen ← popValue
    let condition ← popValue
    return if Word.isTrue condition then chosen else otherwise
  | .assign => do
    let v ← popValue
    let x ← popTarget
    bind x v
    return v
  | .assignWith op => do
    let v ← popValue
    let x ← popTarget
    let (_, new) ← update x fun old => op.eval old v
    return new

/-- Carries out an operation: its operands give way to its result. -/
def apply (op : Operation) : Step Calculator Unit := do
  let v ← compute op
  note (.reduced op v)
  modify (push (.literal v))

instance : Machine Calculator where
  push := push
  apply := apply

/-- Takes the value of a finished line: the one operand that is left. -/
def result : Step Calculator Int := do
  if (← get).stack.length = 1 then popValue else throw .noSingleResult

end Calculator

end Abacus
