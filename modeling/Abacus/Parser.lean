import Abacus.Machine
import Abacus.Token.Scan
import Abacus.Word

/-!
# Parsing by operator precedence

One pass from left to right, with a stack of pending operators and no tree. The parser is always
in one of two states: it waits for an operand, or for an operator. The state decides what a token
stands for: `-` negates where an operand is awaited and subtracts where an operator is.

Operands go to the machine at once. An operator waits on the stack until one arrives that binds no
tighter; then it is carried out, so the machine receives its instructions in postfix order. An
open parenthesis and an open `?` wait as well. No operator reaches across them; only the matching
`)` or `:`, or the end of the line, does.

A failing step keeps what was done before the failure. In particular a pending operator leaves the
stack before it is carried out, and stays away if the machine refuses it.
-/

namespace Abacus

/-- What waits on the stack of a parse. -/
inductive Pending
  | opener (o : Opener) (pos : Int)
  | operator (op : Operation) (pos : Int)
  deriving DecidableEq, Repr

namespace Pending

/-- The kind of the token that was put on the stack. -/
def symbol : Pending → Token.Kind
  | .opener o _ => o.symbol
  | .operator op _ => op.symbol

/-- The precedence class: no operator has that of an opener. -/
def precedence : Pending → Precedence
  | .opener .. => .opener
  | .operator op _ => op.precedence

/-- The operation that waits, if it is not an opener. -/
def operation? : Pending → Option Operation
  | .opener .. => none
  | .operator op _ => some op

/-- The place of the token. -/
def pos : Pending → Int
  | .opener _ pos | .operator _ pos => pos

/-- Whether it is an opener. -/
def isOpener : Pending → Bool
  | .opener .. => true
  | .operator .. => false

/-- The text of an entry: the code of its operation, or the name of its opener. -/
def text : Pending → String
  | .opener o _ => o.symbol.label
  | .operator op _ => op.code

/-- The entry of a token that opens a group. -/
def ofOpener? (t : Token) : Option Pending :=
  (Opener.ofKind? t.kind).map (.opener · t.pos)

end Pending

/-- What a parse waits for. -/
inductive Awaiting
  | operand | operator
  deriving DecidableEq, Repr

/-- The state of a parse: the machine it drives, the pending entries, topmost first, what it waits
for, and whether it has seen a token. -/
structure Parser (μ : Type) where
  machine : μ
  pending : List Pending
  awaiting : Awaiting
  started : Bool

/-! ## Number tokens -/

/-- The number of digits of the greatest word. -/
def literalDigits : Nat := 10

/-- The value of a number token: leading zeros count for nothing, and the value may not exceed the
greatest word. Of a text with more than `literalDigits` further characters no value is needed. -/
def literalValue (text : String) (pos : Int) : Except Fault Int :=
  let digits := text.toList.dropWhile (· = '0')
  let digits := if digits = [] then ['0'] else digits
  if literalDigits < digits.length then .error (.literalTooLarge text pos)
  else match Numeral.readInt? digits with
    | none => .error (.unreadableNumber text pos)
    | some v => if Word.greatest < v then .error (.literalTooLarge text pos) else .ok v

namespace Parser

variable {μ : Type}

/-- A parse that has seen nothing. -/
def start (machine : μ) : Parser μ := ⟨machine, [], .operand, false⟩

/-! ## Steps on the stack and on the machine -/

/-- Puts an entry on the stack. -/
def shift (entry : Pending) : Step (Parser μ) Unit :=
  modify fun p => { p with pending := entry :: p.pending }

/-- Sets what the parse waits for. -/
def await (a : Awaiting) : Step (Parser μ) Unit :=
  modify fun p => { p with awaiting := a }

/-- Sends an operand to the machine. -/
def push [Machine μ] (operand : Operand) : Step (Parser μ) Unit :=
  modify fun p => { p with machine := Machine.push operand p.machine }

/-- Has the machine carry out an operation. -/
def perform [Machine μ] (op : Operation) : Step (Parser μ) Unit := fun p =>
  match (Machine.apply op : Step μ Unit) p.machine with
  | .ok _ machine => .ok () { p with machine }
  | .error fault machine => .error fault { p with machine }

/-- Carries out entries from the top of a stack, as long as they are operators of at most the rank
`limit`. Gives the rest of the stack and the machine. -/
def settleStack [Machine μ] (limit : Nat) :
    List Pending → μ → EStateM.Result Fault (List Pending × μ) Unit
  | .operator op pos :: rest, machine =>
    if op.precedence.rank ≤ limit then
      match (Machine.apply op : Step μ Unit) machine with
      | .ok _ machine => settleStack limit rest machine
      | .error fault machine => .error fault (rest, machine)
    else .ok () (.operator op pos :: rest, machine)
  | pending, machine => .ok () (pending, machine)

/-- Carries out the pending operators of at most the rank `limit`. -/
def settle [Machine μ] (limit : Nat) : Step (Parser μ) Unit := fun p =>
  match settleStack limit p.pending p.machine with
  | .ok _ (pending, machine) => .ok () { p with pending, machine }
  | .error fault (pending, machine) => .error fault { p with pending, machine }

/-- The limit that carries out every operator down to the next opener. -/
def groupLimit : Nat := Precedence.opener.rank - 1

/-- Carries out everything down to the opener that `t` closes, and takes the opener away. -/
def close [Machine μ] (o : Opener) (t : Token) : Step (Parser μ) Unit := do
  settle groupLimit
  match (← get).pending with
  | .opener o' _ :: rest =>
    if o' = o then modify fun p => { p with pending := rest }
    else throw (.unmatchedCloser t o)
  | _ => throw (.unmatchedCloser t o)

/-! ## Tokens -/

/-- Takes a token where an operand is awaited. -/
def acceptOperand [Machine μ] (t : Token) : Step (Parser μ) Unit :=
  match t.kind with
  | .number =>
    match literalValue t.text t.pos with
    | .ok v => do
      push (.literal v)
      await .operator
    | .error fault => throw fault
  | .name => do
    push (.name t.text)
    await .operator
  | .openParen => shift (.opener .paren t.pos)
  | kind =>
    match Operation.before? kind with
    | some op => shift (.operator op t.pos)
    | none => throw (.unexpectedToken t)

/-- Takes a token where an operator is awaited. A closed group is a finished operand, and so is one
with a step after it; every other operator asks for an operand. -/
def acceptOperator [Machine μ] (t : Token) : Step (Parser μ) Unit :=
  match t.kind with
  | .closeParen => close .paren t
  | .question => do
    settle (Precedence.conditional.rank - 1)
    shift (.opener .question t.pos)
    await .operand
  | .colon => do
    close .question t
    shift (.operator .choose t.pos)
    await .operand
  | kind =>
    match Operation.after? kind with
    | some op => perform op
    | none =>
      match Operation.between? kind with
      | some op => do
        settle op.precedence.reach
        shift (.operator op t.pos)
        await .operand
      | none => throw (.unexpectedToken t)

/-- Takes the next token. -/
def feed [Machine μ] (t : Token) : Step (Parser μ) Unit := do
  modify fun p => { p with started := true }
  match (← get).awaiting with
  | .operand => acceptOperand t
  | .operator => acceptOperator t

/-- Takes the tokens of a scan, and then reports the character that ended it. -/
def feedAll [Machine μ] (s : Scan) : Step (Parser μ) Unit := do
  s.tokens.forM feed
  match s.stray? with
  | some (c, pos) => throw (.strayCharacter c pos)
  | none => pure ()

/-- Ends the line: carries out all that is pending. A line without tokens may end at once. -/
def finish [Machine μ] : Step (Parser μ) Unit := do
  let p ← get
  if p.started && p.awaiting = .operand then throw .unexpectedEnd
  settle groupLimit
  match (← get).pending with
  | .opener o pos :: rest => do
    modify fun p => { p with pending := rest }
    throw (.unmatchedOpener o pos)
  | _ => pure ()

/-- Parses a line to its end. -/
def parse [Machine μ] (source : String) : Step (Parser μ) Unit := do
  feedAll (Scan.ofString source)
  finish

end Parser

end Abacus
