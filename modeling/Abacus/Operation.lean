import Abacus.Token

/-!
# Operations and their precedence

What an operator computes depends on where it stands: `-` before an operand negates, after one it
subtracts, and `++` counts up before it is read or after. `Operation` names what is computed, and
three tables tell which operation a token stands for before, after and between operands.

Each operation belongs to one precedence class, and all members of a class group in the same
direction. The loosest class, `Precedence.opener`, has no operation: it is the class of an open
parenthesis and of a `?` still waiting for its `:`, which no operator reaches across.
-/

namespace Abacus

/-- The four arithmetic operations. -/
inductive Arithmetic
  | add | sub | mul | div
  deriving DecidableEq, Repr

/-- The six comparisons. -/
inductive Comparison
  | eq | ne | gt | ge | lt | le
  deriving DecidableEq, Repr

/-- The direction of a step: `++` counts up, `--` counts down. -/
inductive Direction
  | up | down
  deriving DecidableEq, Repr

/-- The operations. -/
inductive Operation
  /-- The negative of a value. -/
  | negate
  /-- A step whose value is the one after it. -/
  | stepBefore (d : Direction)
  /-- A step whose value is the one before it. -/
  | stepAfter (d : Direction)
  | arithmetic (a : Arithmetic)
  | compare (c : Comparison)
  /-- The choice between two values by a condition. -/
  | choose
  | assign
  /-- An assignment that combines the old value with a new one. -/
  | assignWith (a : Arithmetic)
  deriving DecidableEq, Repr

/-- The precedence classes, tightest first. -/
inductive Precedence
  | stepAfter
  | unary
  | multiplicative
  | additive
  | relational
  | equality
  | conditional
  | assignment
  | opener
  deriving DecidableEq, Repr

/-- The direction in which a chain of one class groups. -/
inductive Associativity
  | left | right
  deriving DecidableEq, Repr

namespace Precedence

/-- The place of a class in the order from tightest to loosest. -/
def rank : Precedence → Nat
  | .stepAfter => 0
  | .unary => 1
  | .multiplicative => 2
  | .additive => 3
  | .relational => 4
  | .equality => 5
  | .conditional => 6
  | .assignment => 7
  | .opener => 8

/-- The name of a class. -/
def label : Precedence → String
  | .stepAfter => "postfix"
  | .unary => "prefix"
  | .multiplicative => "multiplicative"
  | .additive => "additive"
  | .relational => "relational"
  | .equality => "equality"
  | .conditional => "conditional"
  | .assignment => "assignment"
  | .opener => "barrier"

/-- The direction in which a class groups. -/
def associativity : Precedence → Associativity
  | .unary | .conditional | .assignment => .right
  | _ => .left

/-- The loosest rank that an operator of the class carries out when it arrives: its own if the
class groups to the left, one tighter if it groups to the right. -/
def reach (p : Precedence) : Nat :=
  match p.associativity with
  | .left => p.rank
  | .right => p.rank - 1

/-- The classes of operations, tightest first. -/
def classes : List Precedence :=
  [.stepAfter, .unary, .multiplicative, .additive, .relational, .equality, .conditional,
    .assignment]

end Precedence

/-- The name of a direction. -/
def Associativity.label : Associativity → String
  | .left => "left"
  | .right => "right"

/-- The sign of an arithmetic operation. -/
def Arithmetic.sign : Arithmetic → String
  | .add => "+"
  | .sub => "-"
  | .mul => "*"
  | .div => "/"

/-- The sign of a comparison. -/
def Comparison.sign : Comparison → String
  | .eq => "=="
  | .ne => "!="
  | .gt => ">"
  | .ge => ">="
  | .lt => "<"
  | .le => "<="

/-- The sign of a step. -/
def Direction.sign : Direction → String
  | .up => "++"
  | .down => "--"

/-- What a step adds. -/
def Direction.change : Direction → Int
  | .up => 1
  | .down => -1

namespace Operation

/-- The code of an operation in listings. -/
def code : Operation → String
  | .negate => "neg"
  | .stepBefore d => d.sign ++ "x"
  | .stepAfter d => "x" ++ d.sign
  | .arithmetic a => a.sign
  | .compare c => c.sign
  | .choose => "?:"
  | .assign => "="
  | .assignWith a => a.sign ++ "="

/-- All operations, in the order in which the operator table lists them within a class. -/
def all : List Operation :=
  [.stepAfter .up, .stepAfter .down, .negate, .stepBefore .up, .stepBefore .down,
    .arithmetic .mul, .arithmetic .div, .arithmetic .add, .arithmetic .sub,
    .compare .gt, .compare .ge, .compare .lt, .compare .le, .compare .eq, .compare .ne, .choose,
    .assign, .assignWith .add, .assignWith .sub, .assignWith .mul, .assignWith .div]

theorem mem_all (op : Operation) : op ∈ all := by
  cases op <;> (try (rename_i x; cases x)) <;> decide

/-- The operation with a given code. -/
def ofCode? (s : String) : Option Operation :=
  all.find? (·.code == s)

/-- No two operations have the same code. -/
theorem ofCode?_code (op : Operation) : ofCode? op.code = some op := by
  cases op <;> (try (rename_i x; cases x)) <;> decide

/-- The number of operands of an operation. -/
def arity : Operation → Nat
  | .negate | .stepBefore _ | .stepAfter _ => 1
  | .choose => 3
  | .arithmetic _ | .compare _ | .assign | .assignWith _ => 2

/-- Whether the first operand of an operation has to be a variable. -/
def takesTarget : Operation → Bool
  | .stepBefore _ | .stepAfter _ | .assign | .assignWith _ => true
  | .negate | .arithmetic _ | .compare _ | .choose => false

/-- The class of an operation. -/
def precedence : Operation → Precedence
  | .stepAfter _ => .stepAfter
  | .negate | .stepBefore _ => .unary
  | .arithmetic .mul | .arithmetic .div => .multiplicative
  | .arithmetic .add | .arithmetic .sub => .additive
  | .compare .eq | .compare .ne => .equality
  | .compare _ => .relational
  | .choose => .conditional
  | .assign | .assignWith _ => .assignment

/-- The kind of the token that an operation is read from. A choice is read from its `:`. -/
def symbol : Operation → Token.Kind
  | .negate => .minus
  | .stepBefore .up | .stepAfter .up => .increment
  | .stepBefore .down | .stepAfter .down => .decrement
  | .arithmetic .add => .plus
  | .arithmetic .sub => .minus
  | .arithmetic .mul => .star
  | .arithmetic .div => .slash
  | .compare .eq => .equal
  | .compare .ne => .notEqual
  | .compare .gt => .greater
  | .compare .ge => .greaterEqual
  | .compare .lt => .less
  | .compare .le => .lessEqual
  | .choose => .colon
  | .assign => .assign
  | .assignWith .add => .plusAssign
  | .assignWith .sub => .minusAssign
  | .assignWith .mul => .starAssign
  | .assignWith .div => .slashAssign

/-- The operation of a token that stands before an operand. -/
def before? : Token.Kind → Option Operation
  | .minus => some .negate
  | .increment => some (.stepBefore .up)
  | .decrement => some (.stepBefore .down)
  | _ => none

/-- The operation of a token that stands after an operand and takes no other. -/
def after? : Token.Kind → Option Operation
  | .increment => some (.stepAfter .up)
  | .decrement => some (.stepAfter .down)
  | _ => none

/-- The operation of a token that stands between two operands. -/
def between? : Token.Kind → Option Operation
  | .star => some (.arithmetic .mul)
  | .slash => some (.arithmetic .div)
  | .plus => some (.arithmetic .add)
  | .minus => some (.arithmetic .sub)
  | .greater => some (.compare .gt)
  | .greaterEqual => some (.compare .ge)
  | .less => some (.compare .lt)
  | .lessEqual => some (.compare .le)
  | .equal => some (.compare .eq)
  | .notEqual => some (.compare .ne)
  | .colon => some .choose
  | .assign => some .assign
  | .plusAssign => some (.assignWith .add)
  | .minusAssign => some (.assignWith .sub)
  | .starAssign => some (.assignWith .mul)
  | .slashAssign => some (.assignWith .div)
  | _ => none

theorem arity_pos (op : Operation) : 0 < op.arity := by
  cases op <;> simp [arity]

theorem precedence_ne_opener (op : Operation) : op.precedence ≠ .opener := by
  cases op <;> (try (rename_i x; cases x)) <;> decide

theorem symbol_of_before? {k : Token.Kind} {op : Operation} (h : before? k = some op) :
    op.symbol = k := by
  cases k <;> simp [before?] at h <;> subst h <;> rfl

theorem symbol_of_after? {k : Token.Kind} {op : Operation} (h : after? k = some op) :
    op.symbol = k := by
  cases k <;> simp [after?] at h <;> subst h <;> rfl

theorem symbol_of_between? {k : Token.Kind} {op : Operation} (h : between? k = some op) :
    op.symbol = k := by
  cases k <;> simp [between?] at h <;> subst h <;> rfl

end Operation

/-- A row of the operator table: a class, its direction, and its operations. -/
structure OperatorRow where
  precedence : Precedence
  operations : List Operation

/-- The operator table, tightest class first. -/
def operatorTable : List OperatorRow :=
  Precedence.classes.map fun p => ⟨p, Operation.all.filter (·.precedence = p)⟩

end Abacus
