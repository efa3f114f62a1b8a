import Abacus.Proofs.Checked
import Abacus.Proofs.OperandCount

/-!
# Checks that never fail

The program with its checks does what the program does, on every line and
every environment, and so **no check ever fails** (`Checked.evaluate_eq`).
The entries of the one are what is pending in the other
(`Entry.ofPending`), and the two run step by step (`Checked.Passes`). That
only operations are carried out is because openers are looser than the limit
of every operator, and that what is left over at the end of a line is an
opener, because there every operator is in reach.
-/

namespace Abacus

namespace Checked

/-! ## Steps that pass their checks -/

section Passes

variable {σ τ α β : Type}

/-- **A checked step passes its checks**, in the view of a state `s`: it does
what the step does on `s`. -/
def Passes (view : σ → τ) (s : σ) (f : Step σ α) (g : EStateM Halt τ α) : Prop :=
  g (view s) = outcome view (f s)

namespace Passes

variable {view : σ → τ} {s : σ} {f : Step σ α} {g : EStateM Halt τ α}

/-- The second step only has to pass after what the first one does. -/
theorem bind {f' : α → Step σ β} {g' : α → EStateM Halt τ β}
    (h : Passes view s f g)
    (h' : ∀ a s', f s = .ok a s' → Passes view s' (f' a) (g' a)) :
    Passes view s (f >>= f') (g >>= g') := by
  show EStateM.bind g g' (view s) = outcome view (EStateM.bind f f' s)
  unfold EStateM.bind
  rw [show g (view s) = _ from h]
  cases hf : f s with
  | ok a s' => exact h' a s' hf
  | error => rfl

theorem seq {f' : α → Step σ β} {g' : α → EStateM Halt τ β}
    (h : Passes view s f g) (h' : ∀ a s', Passes view s' (f' a) (g' a)) :
    Passes view s (f >>= f') (g >>= g') :=
  h.bind fun a s' _ => h' a s'

theorem of_throw (fault : Fault) :
    Passes view s (throw fault : Step σ α) (throw (.fault fault)) :=
  rfl

end Passes

end Passes

/-! ## Scanning and calculating -/

/-- What stops a scan that the checks do not. -/
def stop? (s : Scan) : Option Halt :=
  s.stray?.map fun (c, pos) => .fault (.strayCharacter c pos)

/-- A checked scan goes on as a scan does. -/
theorem scanChars_of_head (pos : Nat) (cs : List Char) :
    scanChars pos cs = match Scan.head cs with
      | .finish => ([], none)
      | .blank rest => scanChars (pos + 1) rest
      | .lexeme kind text rest =>
        let (tokens, stop?) := scanChars (pos + text.length) rest
        (⟨kind, String.ofList text, pos⟩ :: tokens, stop?)
      | .stray c => ([], some (.fault (.strayCharacter c pos))) := by
  rw [scanChars]
  split
  · rename_i check hcheck
    rw [head_eq] at hcheck
    cases hcheck
  all_goals
    rename_i hhead
    rw [head_eq_of_ok hhead]

/-- **A run is found where one begins**: the checked scan is the scan. -/
theorem scanChars_eq (pos : Nat) (cs : List Char) :
    scanChars pos cs = ((Scan.ofChars pos cs).tokens, stop? (Scan.ofChars pos cs)) := by
  fun_induction Scan.ofChars pos cs with
  | case1 pos cs h =>
    rw [scanChars_of_head, h]
    rfl
  | case2 pos cs rest h ih =>
    rw [scanChars_of_head, h]
    exact ih
  | case3 pos cs kind text rest h ih =>
    rw [scanChars_of_head, h]
    dsimp only
    rw [ih]
    rfl
  | case4 pos cs c h =>
    rw [scanChars_of_head, h]
    rfl

/-- **Every operation is in one of the tables**, and the tables compute what
it does. -/
theorem compute_eq (op : Operation) :
    compute op = ofStep (Calculator.compute op) := by
  cases op with
  | compare c =>
    refine congrArg ofStep (bind_congr fun b => bind_congr fun a => ?_)
    show (pure _ : Step Calculator Int) = pure _
    rw [Word.wrap_ofBool]
  | _ => rfl

theorem passes_apply (op : Operation) (c : Calculator) :
    Passes id c (Calculator.apply op) (apply op) := by
  rw [apply, compute_eq]
  refine Passes.seq (f := Calculator.compute op) rfl fun v c => ?_
  exact Passes.seq (f := Calculator.note _) rfl fun _ _ => rfl

/-! ## Parsing -/

/-- The entry of what is pending. -/
def Entry.ofPending (e : Pending) : Entry :=
  ⟨e.symbol, e.precedence, e.operation?, e.pos⟩

/-- The state of a parse, as that of a checked parse. -/
def State.of (p : Parser Calculator) : State :=
  ⟨p.machine, p.pending.map Entry.ofPending, p.awaiting, p.started⟩

section Simulation

variable {p : Parser Calculator} {t : Token}

theorem Entry.ofOperation_eq {op : Operation} (h : op.symbol = t.kind) :
    Entry.ofOperation t op = .ofPending (.operator op t.pos) := by
  rw [Entry.ofOperation, ← h]
  rfl

theorem Entry.ofOpener_eq {o : Opener} (h : t.kind = o.symbol) :
    Entry.ofOpener t = .ok (.ofPending (.opener o t.pos)) := by
  unfold Entry.ofOpener
  rw [h]
  cases o <;> rfl

/-- The kind of an entry tells which opener it is, and that an operation is
none. -/
theorem ofKind?_opener (o : Opener) : Opener.ofKind? o.symbol = some o := by
  cases o <;> rfl

theorem ofKind?_operation (op : Operation) : Opener.ofKind? op.symbol = none := by
  rcases op with _ | (_ | _) | (_ | _) | (_ | _ | _ | _) |
    (_ | _ | _ | _ | _ | _) | _ | _ | (_ | _ | _ | _) <;> rfl

theorem passes_shift (e : Pending) :
    Passes State.of p (Parser.shift e) (shift (.ofPending e)) :=
  rfl

theorem passes_shiftOpener {o : Opener} (h : t.kind = o.symbol) :
    Passes State.of p (Parser.shift (.opener o t.pos)) (shiftOpener t) := by
  rw [shiftOpener, Entry.ofOpener_eq h]
  exact passes_shift _

theorem passes_await (a : Awaiting) :
    Passes State.of p (Parser.await a) (await a) :=
  rfl

theorem passes_push (x : Operand) :
    Passes State.of p (Parser.push x) (push x) :=
  rfl

/-- **An entry of an operation is carried out.** -/
theorem passes_perform {op : Operation} {e : Entry}
    (he : e.operation? = some op) :
    Passes State.of p (Parser.perform op) (perform e) := by
  have happly : apply op (State.of p).machine
      = outcome id (Calculator.apply op p.machine) := passes_apply op p.machine
  have hmachine : (Machine.apply op : Step Calculator Unit)
      = Calculator.apply op := rfl
  unfold Passes perform Parser.perform
  rw [he]
  dsimp only
  rw [happly, hmachine]
  cases Calculator.apply op p.machine <;> rfl

/-- Carrying out the entries in reach begins with the topmost one. -/
theorem settle_cons {limit : Nat} {op : Operation} {pos : Int}
    {rest : List Pending} (hop : op.precedence.rank ≤ limit)
    (hp : p.pending = .operator op pos :: rest) :
    (Parser.settle limit : Step (Parser Calculator) Unit) p
      = (Parser.perform op >>= fun _ => Parser.settle limit)
          { p with pending := rest } := by
  obtain ⟨machine, pending, awaiting, started⟩ := p
  obtain rfl : pending = _ := hp
  rw [Parser.settle, Parser.settleStack, if_pos hop]
  cases happly : (Machine.apply op : Step Calculator Unit) machine with
  | ok _ c =>
    have hperform : Parser.perform op ⟨machine, rest, awaiting, started⟩
        = .ok () ⟨c, rest, awaiting, started⟩ := by
      rw [Parser.perform, happly]
    rw [Step.bind_of_ok hperform]
    rfl
  | error fault c =>
    have hperform : Parser.perform op ⟨machine, rest, awaiting, started⟩
        = .error fault ⟨c, rest, awaiting, started⟩ := by
      rw [Parser.perform, happly]
    rw [Step.bind_of_error hperform]

theorem pending_of_perform {op : Operation} {q : Parser Calculator}
    (h : Parser.perform op p = .ok () q) : q.pending = p.pending := by
  unfold Parser.perform at h
  split at h <;> cases h
  rfl

/-- **Only operations are carried out**, since openers are looser than every
limit. -/
theorem passes_settleStack {limit : Nat} (hlimit : limit ≤ Parser.groupLimit)
    {pending : List Pending} (hp : p.pending = pending) :
    Passes State.of p (Parser.settle limit)
      (settleStack limit (pending.map Entry.ofPending)) := by
  induction pending generalizing p with
  | nil =>
    obtain ⟨machine, pending, awaiting, started⟩ := p
    obtain rfl : pending = _ := hp
    rfl
  | cons e rest ih =>
    cases e with
    | opener o pos =>
      have hrank : ¬Precedence.opener.rank ≤ limit := by
        rw [Nat.not_le]
        exact Nat.lt_of_le_of_lt hlimit (by decide)
      obtain ⟨machine, pending, awaiting, started⟩ := p
      obtain rfl : pending = _ := hp
      exact congrFun (if_neg hrank) _
    | operator op pos =>
      by_cases hop : op.precedence.rank ≤ limit
      · have hrest : Passes State.of { p with pending := rest }
            (Parser.perform op >>= fun _ => Parser.settle limit)
            (perform (.ofPending (.operator op pos)) >>= fun _ =>
              settleStack limit (rest.map Entry.ofPending)) := by
          refine (passes_perform rfl).bind fun _ q hq => ih ?_
          exact pending_of_perform hq
        unfold Passes
        rw [settle_cons hop hp]
        exact (congrFun (if_pos hop) _).trans hrest
      · obtain ⟨machine, pending, awaiting, started⟩ := p
        obtain rfl : pending = _ := hp
        unfold Passes Parser.settle
        rw [Parser.settleStack, if_neg hop]
        exact congrFun (if_neg hop) _

theorem passes_settle {limit : Nat} (hlimit : limit ≤ Parser.groupLimit) :
    Passes State.of p (Parser.settle limit) (settle limit) :=
  passes_settleStack hlimit rfl

theorem passes_close (o : Opener) (t : Token) :
    Passes State.of p (Parser.close o t) (close o t) := by
  refine (passes_settle (Nat.le_refl _)).seq fun _ q => ?_
  obtain ⟨machine, pending, awaiting, started⟩ := q
  rcases pending with _ | ⟨⟨o', pos⟩ | ⟨op, pos⟩, rest⟩
  · rfl
  · show Passes State.of _ (if o' = o then _ else _)
      (if o'.symbol = o.symbol then _ else _)
    by_cases ho : o' = o
    · rw [if_pos ho, if_pos (congrArg Opener.symbol ho)]
      rfl
    · have hsymbol : o'.symbol ≠ o.symbol := by
        intro h
        have hkind := congrArg Opener.ofKind? h
        rw [ofKind?_opener, ofKind?_opener] at hkind
        exact ho (Option.some.inj hkind)
      rw [if_neg ho, if_neg hsymbol]
      rfl
  · have hsymbol : op.symbol ≠ o.symbol := by
      intro h
      have hkind := congrArg Opener.ofKind? h
      rw [ofKind?_operation, ofKind?_opener] at hkind
      cases hkind
    exact congrFun (if_neg hsymbol) _

/-- What an operator does that stands between two operands. -/
theorem passes_between {op : Operation} (h : op.symbol = t.kind) :
    Passes State.of p
      (do
        Parser.settle op.precedence.reach
        Parser.shift (.operator op t.pos)
        Parser.await .operand)
      (do
        settle op.precedence.reach
        shift (.ofOperation t op)
        await .operand) := by
  rw [Entry.ofOperation_eq h]
  exact (passes_settle op.reach_le_groupLimit).seq fun _ _ =>
    (passes_shift _).seq fun _ _ => passes_await _

theorem passes_acceptOperand (t : Token) :
    Passes State.of p (Parser.acceptOperand t) (acceptOperand t) := by
  obtain ⟨kind, text, pos⟩ := t
  cases kind with
  | number =>
    unfold Parser.acceptOperand acceptOperand
    dsimp only
    cases literalValue text pos with
    | ok v => exact (passes_push _).seq fun _ _ => passes_await _
    | error fault => exact .of_throw _
  | name => exact (passes_push _).seq fun _ _ => passes_await _
  | openParen => exact passes_shiftOpener (o := .paren) rfl
  | minus | increment | decrement => exact passes_shift _
  | _ => exact .of_throw _

theorem passes_acceptOperator (t : Token) :
    Passes State.of p (Parser.acceptOperator t) (acceptOperator t) := by
  obtain ⟨kind, text, pos⟩ := t
  cases kind with
  | closeParen => exact passes_close _ _
  | question =>
    exact (passes_settle (by decide)).seq fun _ _ =>
      (passes_shiftOpener (o := .question) rfl).seq fun _ _ => passes_await _
  | colon =>
    exact (passes_close _ _).seq fun _ _ =>
      (passes_shift _).seq fun _ _ => passes_await _
  | increment =>
    exact passes_perform
      (e := .ofOperation ⟨.increment, text, pos⟩ (.stepAfter .up)) rfl
  | decrement =>
    exact passes_perform
      (e := .ofOperation ⟨.decrement, text, pos⟩ (.stepAfter .down)) rfl
  | number | name | openParen => exact .of_throw _
  | _ => exact passes_between rfl

theorem passes_feed (t : Token) :
    Passes State.of p (Parser.feed t) (feed t) := by
  refine Passes.seq (f := modify _) (g := modify _) rfl fun _ q => ?_
  obtain ⟨machine, pending, awaiting, started⟩ := q
  cases awaiting with
  | operand => exact passes_acceptOperand t
  | operator => exact passes_acceptOperator t

theorem passes_forM_feed (ts : List Token) :
    Passes State.of p (ts.forM Parser.feed) (ts.forM feed) := by
  induction ts generalizing p with
  | nil => rfl
  | cons t ts ih => exact (passes_feed t).seq fun _ _ => ih

theorem closed_of_settle {q : Parser Calculator}
    (h : Parser.settle Parser.groupLimit p = .ok () q) : Closed q.pending := by
  unfold Parser.settle at h
  split at h <;> rename_i hsettle <;> cases h
  exact Parser.closed_of_settleStack hsettle

/-- **What is left over at the end of a line is an opener.** -/
theorem passes_release : Passes State.of p Parser.release release := by
  refine (passes_settle (Nat.le_refl _)).bind fun _ q hq => ?_
  have hclosed := closed_of_settle hq
  obtain ⟨machine, pending, awaiting, started⟩ := q
  rcases pending with _ | ⟨⟨o, pos⟩ | ⟨op, pos⟩, rest⟩
  · rfl
  · cases o <;> rfl
  · exact absurd (hclosed _ rfl) Bool.false_ne_true

theorem passes_finish : Passes State.of p Parser.finish finish := by
  unfold Passes
  rw [Parser.finish_eq]
  show (if p.started && p.awaiting = .operand then _ else _ :
    EStateM Halt State Unit) (State.of p) = _
  by_cases h : (p.started && p.awaiting = .operand) = true
  · rw [if_pos h, if_pos h]
    rfl
  · rw [if_neg h, if_neg h]
    exact passes_release

theorem passes_parse (source : String) :
    Passes State.of p (Parser.parse source) (parse source) := by
  unfold Parser.parse parse Parser.feedAll
  rw [scanChars_eq, bind_assoc, Scan.ofString]
  obtain ⟨tokens, stray?⟩ := Scan.ofChars 0 source.toList
  refine (passes_forM_feed tokens).seq fun _ q => ?_
  cases stray? with
  | none => exact passes_finish
  | some stray => rfl

end Simulation

/-- **No check fails.** The checked program evaluates every line, on every
environment, as the program does. -/
theorem evaluate_eq (source : String) (env : Environment) :
    evaluate source env = .ok (Abacus.evaluate source env) := by
  have h : parse source (.of (Parser.start (.start env)))
      = outcome State.of (Parser.parse source (Parser.start (.start env))) :=
    passes_parse source
  unfold evaluate Abacus.evaluate evaluateOn
  rw [show (⟨.start env, [], .operand, false⟩ : State)
    = .of (Parser.start (.start env)) from rfl, h]
  cases (Parser.parse source (Parser.start (.start env)) :
    EStateM.Result Fault (Parser Calculator) Unit) <;> rfl

end Checked

end Abacus
