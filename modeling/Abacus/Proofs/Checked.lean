import Abacus.Evaluation

/-!
# The program with its checks

The types of the parser leave no room for some mistakes: what is pending is
an opener or an operation, and every operation has its rule. Written with
plainer data, the same program has to check as it goes. Here it is written
once more in that way, with entries that are records of a token kind, a
precedence and perhaps an operation, and with tables that may lack a row.
Where it needs more than its data promise, it checks, and a check that fails
breaks the line off (`Check`):

* a run of digits or of letters is found where one begins;
* an entry without an operation is made of a token that opens a group;
* an entry that is carried out has an operation;
* an operation that is carried out is in one of the tables;
* what is left over at the end of a line has the kind of an opener.

A check that has to do with the number of operands is not among them: the
calculator makes it itself.
-/

namespace Abacus

/-- The checks that the types of the parser make superfluous. -/
inductive Check
  /-- A run of characters is found where one begins. -/
  | run
  /-- An entry without an operation is made of a token that opens a group. -/
  | opening
  /-- An entry that is carried out has an operation. -/
  | operation
  /-- An operation that is carried out is in one of the tables. -/
  | dispatch
  /-- What is left over at the end of a line has the kind of an opener. -/
  | leftover
  deriving DecidableEq, Repr

/-- Why a checked program stops. -/
inductive Halt
  | fault (f : Fault)
  | check (c : Check)
  deriving DecidableEq, Repr

namespace Checked

/-! ## Scanning -/

/-- The run of characters of a class that begins a text, and the rest. -/
def run? (p : Char → Bool) (cs : List Char) : Option (List Char × List Char) :=
  match cs.takeWhile p with
  | [] => none
  | text => some (text, cs.dropWhile p)

/-- A lexeme that is a run of characters of a class. -/
def runHead (kind : Token.Kind) (p : Char → Bool) (cs : List Char) :
    Except Check Scan.Head :=
  match run? p cs with
  | some (text, rest) => .ok (.lexeme kind text rest)
  | none => .error .run

/-- What stands at the head of a text. -/
def head : List Char → Except Check Scan.Head
  | [] => .ok .finish
  | c :: rest =>
    if Text.isBlank c then .ok (.blank rest)
    else if Text.isDigit c then runHead .number Text.isDigit (c :: rest)
    else if Scan.isNameChar c then runHead .name Scan.isNameChar (c :: rest)
    else .ok (Scan.operatorHead c rest)

theorem runHead_cons (kind : Token.Kind) {p : Char → Bool} {c : Char}
    (h : p c = true) (rest : List Char) :
    runHead kind p (c :: rest)
      = .ok (.lexeme kind (c :: rest.takeWhile p) (rest.dropWhile p)) := by
  rw [runHead, run?, List.takeWhile_cons_of_pos h, List.dropWhile_cons_of_pos h]

theorem head_eq (cs : List Char) : head cs = .ok (Scan.head cs) := by
  cases cs with
  | nil => rfl
  | cons c rest =>
    rw [head, Scan.head]
    split
    · rfl
    split
    · rename_i hdigit
      exact runHead_cons .number hdigit rest
    split
    · rename_i hname
      exact runHead_cons .name hname rest
    · rfl

theorem head_eq_of_ok {cs : List Char} {h : Scan.Head} (hcs : head cs = .ok h) :
    Scan.head cs = h :=
  Except.ok.inj ((head_eq cs).symm.trans hcs)

/-- The tokens of a text, and what stops the scan, if it is not the end. -/
def scanChars (pos : Nat) (cs : List Char) : List Token × Option Halt :=
  match _h : head cs with
  | .error check => ([], some (.check check))
  | .ok .finish => ([], none)
  | .ok (.blank rest) => scanChars (pos + 1) rest
  | .ok (.lexeme kind text rest) =>
    let (tokens, stop?) := scanChars (pos + text.length) rest
    (⟨kind, String.ofList text, pos⟩ :: tokens, stop?)
  | .ok (.stray c) => ([], some (.fault (.strayCharacter c pos)))
termination_by cs.length
decreasing_by
  · exact Scan.length_lt_of_blank (head_eq_of_ok _h)
  · exact Scan.length_lt_of_lexeme (head_eq_of_ok _h)

/-! ## Calculating -/

section Lift

variable {σ τ α : Type}

/-- An outcome that no check has brought about, seen as that of a checked
program. -/
def outcome (view : σ → τ) : EStateM.Result Fault σ α → EStateM.Result Halt τ α
  | .ok a s => .ok a (view s)
  | .error fault s => .error (.fault fault) (view s)

/-- A step that checks nothing, as a step of a checked program. -/
def ofStep (f : Step σ α) : EStateM Halt σ α := fun s =>
  outcome id (f s)

end Lift

/-- The table of the operations on two values. -/
def onValues? : Operation → Option (Int → Int → Except Fault Int)
  | .arithmetic op => some op.eval
  | .compare c => some fun a b => .ok (Word.ofBool (c.holds a b))
  | _ => none

/-- The table of the steps: what is added, and whether the value is the one
after it. -/
def stepping? : Operation → Option (Int × Bool)
  | .stepBefore d => some (d.change, true)
  | .stepAfter d => some (d.change, false)
  | _ => none

/-- The table of the combined assignments. -/
def combining? : Operation → Option (Int → Int → Except Fault Int)
  | .assignWith op => some op.eval
  | _ => none

open Calculator in
/-- Takes the operands of an operation and computes its result. -/
def compute (op : Operation) : EStateM Halt Calculator Int :=
  if let some f := onValues? op then ofStep do
    let b ← popValue
    let a ← popValue
    return Word.wrap (← Calculator.ofExcept (f a b))
  else if op = .negate then ofStep do
    return Word.wrap (-(← popValue))
  else if let some (change, isNew) := stepping? op then ofStep do
    let x ← popTarget
    let (old, new) ← update x fun v => .ok (v + change)
    return if isNew then new else old
  else if op = .assign then ofStep do
    let v ← popValue
    let x ← popTarget
    bind x v
    return v
  else if let some f := combining? op then ofStep do
    let v ← popValue
    let x ← popTarget
    let (_, new) ← update x fun old => f old v
    return new
  else if op = .choose then ofStep do
    let otherwise ← popValue
    let chosen ← popValue
    let condition ← popValue
    return if Word.isTrue condition then chosen else otherwise
  else throw (.check .dispatch)

/-- Carries out an operation: its operands give way to its result. -/
def apply (op : Operation) : EStateM Halt Calculator Unit := do
  let v ← compute op
  ofStep (Calculator.note (.reduced op v))
  modify (Calculator.push (.literal v))

/-! ## Parsing -/

/-- An entry of the parser, as plain data. -/
structure Entry where
  kind : Token.Kind
  precedence : Precedence
  operation? : Option Operation
  pos : Int

namespace Entry

/-- The entry of an operation. -/
def ofOperation (t : Token) (op : Operation) : Entry :=
  ⟨t.kind, op.precedence, some op, t.pos⟩

/-- The entry of a token that opens a group. -/
def ofOpener (t : Token) : Except Check Entry :=
  match Opener.ofKind? t.kind with
  | some _ => .ok ⟨t.kind, .opener, none, t.pos⟩
  | none => .error .opening

end Entry

/-- The state of a checked parse. -/
structure State where
  machine : Calculator
  /-- The entries, topmost first. -/
  entries : List Entry
  awaiting : Awaiting
  started : Bool

/-- Puts an entry on the stack. -/
def shift (e : Entry) : EStateM Halt State Unit :=
  modify fun s => { s with entries := e :: s.entries }

/-- Puts the entry of a token that opens a group on the stack. -/
def shiftOpener (t : Token) : EStateM Halt State Unit :=
  match Entry.ofOpener t with
  | .ok e => shift e
  | .error check => throw (.check check)

/-- Sets what the parse waits for. -/
def await (a : Awaiting) : EStateM Halt State Unit :=
  modify fun s => { s with awaiting := a }

/-- Sends an operand to the machine. -/
def push (x : Operand) : EStateM Halt State Unit :=
  modify fun s => { s with machine := Calculator.push x s.machine }

/-- Carries out an entry. -/
def perform (e : Entry) : EStateM Halt State Unit := fun s =>
  match e.operation? with
  | none => .error (.check .operation) s
  | some op =>
    match apply op s.machine with
    | .ok _ machine => .ok () { s with machine }
    | .error halt machine => .error halt { s with machine }

/-- Carries out the entries of a stack that are of at most the rank `limit`. -/
def settleStack (limit : Nat) : List Entry → EStateM Halt State Unit
  | e :: rest =>
    if e.precedence.rank ≤ limit then do
      modify fun s => { s with entries := rest }
      perform e
      settleStack limit rest
    else pure ()
  | [] => pure ()

/-- Carries out the pending entries of at most the rank `limit`. -/
def settle (limit : Nat) : EStateM Halt State Unit := do
  settleStack limit (← get).entries

/-- Carries out everything down to the opener that `t` closes, and takes the
opener away. -/
def close (o : Opener) (t : Token) : EStateM Halt State Unit := do
  settle Parser.groupLimit
  match (← get).entries with
  | e :: rest =>
    if e.kind = o.symbol then modify fun s => { s with entries := rest }
    else throw (.fault (.unmatchedCloser t o))
  | [] => throw (.fault (.unmatchedCloser t o))

/-- Takes a token where an operand is awaited. -/
def acceptOperand (t : Token) : EStateM Halt State Unit :=
  match t.kind with
  | .number =>
    match literalValue t.text t.pos with
    | .ok v => do
      push (.literal v)
      await .operator
    | .error fault => throw (.fault fault)
  | .name => do
    push (.name t.text)
    await .operator
  | .openParen => shiftOpener t
  | kind =>
    match Operation.before? kind with
    | some op => shift (.ofOperation t op)
    | none => throw (.fault (.unexpectedToken t))

/-- Takes a token where an operator is awaited. -/
def acceptOperator (t : Token) : EStateM Halt State Unit :=
  match t.kind with
  | .closeParen => close .paren t
  | .question => do
    settle (Precedence.conditional.rank - 1)
    shiftOpener t
    await .operand
  | .colon => do
    close .question t
    shift (.ofOperation t .choose)
    await .operand
  | kind =>
    match Operation.after? kind with
    | some op => perform (.ofOperation t op)
    | none =>
      match Operation.between? kind with
      | some op => do
        settle op.precedence.reach
        shift (.ofOperation t op)
        await .operand
      | none => throw (.fault (.unexpectedToken t))

/-- Takes the next token. -/
def feed (t : Token) : EStateM Halt State Unit := do
  modify fun s => { s with started := true }
  match (← get).awaiting with
  | .operand => acceptOperand t
  | .operator => acceptOperator t

/-- Carries out all that is pending at the end of a line, and reports an
opener that is left over. -/
def release : EStateM Halt State Unit := do
  settle Parser.groupLimit
  match (← get).entries with
  | e :: rest => do
    modify fun s => { s with entries := rest }
    match Opener.ofKind? e.kind with
    | some o => throw (.fault (.unmatchedOpener o e.pos))
    | none => throw (.check .leftover)
  | [] => pure ()

/-- Ends the line. -/
def finish : EStateM Halt State Unit := do
  let s ← get
  if s.started && s.awaiting = .operand then throw (.fault .unexpectedEnd)
  release

/-- Parses a line to its end. -/
def parse (source : String) : EStateM Halt State Unit := do
  let (tokens, stop?) := scanChars 0 source.toList
  tokens.forM feed
  match stop? with
  | some halt => throw halt
  | none => pure ()
  finish

/-- Evaluates a line on an environment, if no check fails. -/
def evaluate (source : String) (env : Environment) : Except Check Evaluation :=
  let note (e : Evaluation) := { e with journal := .parsing source :: e.journal }
  match parse source ⟨.start env, [], .operand, false⟩ with
  | .ok _ s => .ok (note (.ofResult (Calculator.result s.machine)))
  | .error (.fault fault) s => .ok (note (.ofResult (.error fault s.machine)))
  | .error (.check check) _ => .error check

end Checked

end Abacus
