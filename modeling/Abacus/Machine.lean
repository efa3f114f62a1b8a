import Abacus.Fault

/-!
# Stack machines

A parse produces no tree. It sends instructions, in postfix order, to a stack machine: operands to
push, and operations to carry out on the topmost operands. `Machine` is what a parse asks of such
a machine, so that one parser serves both the machine that computes and the one that only writes
down what it was sent.

A machine may refuse an operation. A refusal keeps the state that the machine had reached: what
was popped or stored before the fault stays so. Hence steps are state transformers whose failures
carry a state too.
-/

namespace Abacus

/-- An operand: a literal value, or the name of a variable. A name stays a name until an operation
asks for its value. -/
inductive Operand
  | literal (value : Int)
  | name (x : String)
  deriving DecidableEq, Repr

/-- The text of an operand in listings. -/
def Operand.text : Operand → String
  | .literal v => Numeral.intText v
  | .name x => x

/-- An instruction to a stack machine. -/
inductive Instruction
  | push (operand : Operand)
  | apply (op : Operation)
  deriving DecidableEq, Repr

/-- The text of an instruction in listings. -/
def Instruction.text : Instruction → String
  | .push operand => operand.text
  | .apply op => op.code

/-- A step on a state that may fail; the state reached is kept either way. -/
abbrev Step (σ α : Type) : Type := EStateM Fault σ α

/-- A stack machine: pushing always succeeds, an operation may be refused. -/
class Machine (μ : Type) where
  push : Operand → μ → μ
  apply : Operation → Step μ Unit

namespace Machine

variable {μ : Type} [Machine μ]

/-- One instruction. -/
def step : Instruction → Step μ Unit
  | .push operand => modify (push operand)
  | .apply op => apply op

/-- A list of instructions, up to the first that is refused. -/
def run (program : List Instruction) : Step μ Unit :=
  program.forM step

@[simp] theorem run_nil : (run [] : Step μ Unit) = pure () := rfl

@[simp] theorem run_cons (i : Instruction) (program : List Instruction) :
    (run (i :: program) : Step μ Unit) = step i >>= fun _ => run program := rfl

/-- A list of instructions can be cut anywhere: its parts are run in turn. -/
theorem run_append (p q : List Instruction) :
    (run (p ++ q) : Step μ Unit) = run p >>= fun _ => run q := by
  induction p with
  | nil => rfl
  | cons i p ih => simp [ih, bind_assoc]

end Machine

end Abacus
