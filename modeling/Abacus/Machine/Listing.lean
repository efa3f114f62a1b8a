import Abacus.Machine

/-!
# Listings

The machine that refuses nothing and computes nothing: it writes down the instructions it is sent,
and counts how many operands a computing machine would hold.
-/

namespace Abacus

/-- The instructions received so far, and the number of operands they leave. -/
structure Listing where
  instructions : Array Instruction
  depth : Int
  deriving Repr

namespace Listing

/-- The listing of no instruction. -/
def empty : Listing := ⟨#[], 0⟩

/-- The listing with one more operand. -/
def push (operand : Operand) (l : Listing) : Listing :=
  ⟨l.instructions.push (.push operand), l.depth + 1⟩

/-- The listing with one more operation, which takes its operands and leaves one. -/
def apply (op : Operation) (l : Listing) : Listing :=
  ⟨l.instructions.push (.apply op), l.depth - (op.arity - 1)⟩

instance : Machine Listing where
  push := push
  apply op := modify (apply op)

/-- The texts of the instructions, in order. -/
def texts (l : Listing) : List String :=
  l.instructions.toList.map (·.text)

end Listing

end Abacus
