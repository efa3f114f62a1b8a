import Abacus.Evaluation

/-!
# Reading a line and carrying it out

The parser drives its machine while it reads: an operand is pushed and an
operation carried out as soon as it is known, and a machine that refuses an
operation ends the line in the middle of it. Nothing of this interleaving
matters. The instructions that a line sends do not depend on the machine
that receives them, so it makes no difference whether they are carried out
at once or written down first and carried out afterwards
(`evaluate_eq_replay`).

The comparison is between two runs of one parser, on a `Listing` and on any
machine. `Replays f g` says of a step `f` of the first run and a step `g` of
the second that `g` carries out what `f` writes down: up to a refusal the
two agree, and a refusal ends `g`. The relation is kept by sequencing, so it
holds of the parser because it holds of the few steps that touch the
machine.

The line of a failing parse is covered as well. Which of several faults wins
is then plain: a refusal if one of the instructions written down before the
parse failed is refused, and the fault of the parse otherwise.
-/

namespace Abacus

variable {α β μ : Type}

/-! ## Sequencing steps -/

namespace Step

variable {σ : Type} {f : Step σ α} {g : α → Step σ β} {s s' : σ}

/-- After a step that succeeds, the next one goes on from its state. -/
theorem bind_of_ok {a : α} (h : f s = .ok a s') : (f >>= g) s = g a s' := by
  show EStateM.bind f g s = _
  rw [EStateM.bind, h]

/-- A step that fails ends the sequence. -/
theorem bind_of_error {fault : Fault} (h : f s = .error fault s') :
    (f >>= g) s = .error fault s' := by
  show EStateM.bind f g s = _
  rw [EStateM.bind, h]

/-- A sequence succeeds if its parts do, one after the other. -/
theorem bind_eq_ok {s'' : σ} {b : β} :
    (f >>= g) s = .ok b s'' ↔ ∃ a s', f s = .ok a s' ∧ g a s' = .ok b s'' := by
  cases h : f s with
  | ok a s' =>
    rw [bind_of_ok h]
    constructor
    · exact fun hg => ⟨a, s', rfl, hg⟩
    · rintro ⟨_, _, ⟨⟩, hg⟩
      exact hg
  | error fault s' =>
    rw [bind_of_error h]
    constructor
    · nofun
    · rintro ⟨_, _, ⟨⟩, _⟩

/-- The state that an outcome leaves behind. -/
def reached : EStateM.Result Fault σ α → σ
  | .ok _ s | .error _ s => s

/-- What holds of the state that a step reaches, however it ends, holds of
that which a sequence reaches, if every further step keeps it. -/
theorem reached_bind {P : σ → Prop} (hf : P (reached (f s)))
    (hg : ∀ a s', P s' → P (reached (g a s'))) : P (reached ((f >>= g) s)) := by
  cases h : f s with
  | ok a s' =>
    rw [h] at hf
    rw [bind_of_ok h]
    exact hg a s' hf
  | error fault s' =>
    rw [h] at hf
    rw [bind_of_error h]
    exact hf

/-- The fault of an outcome, if it is a failure. -/
def fault? : EStateM.Result Fault σ α → Option Fault
  | .ok _ _ => none
  | .error fault _ => some fault

end Step

variable [Machine μ]

namespace Machine

variable {program rest : List Instruction} {m m' : μ} {fault : Fault}

theorem run_append_of_ok (h : (run program : Step μ Unit) m = .ok () m') :
    (run (program ++ rest) : Step μ Unit) m = (run rest : Step μ Unit) m' := by
  rw [run_append]
  exact Step.bind_of_ok h

theorem run_append_of_error
    (h : (run program : Step μ Unit) m = .error fault m') :
    (run (program ++ rest) : Step μ Unit) m = .error fault m' := by
  rw [run_append]
  exact Step.bind_of_error h

theorem run_singleton (i : Instruction) : (run [i] : Step μ Unit) = step i := by
  rw [run_cons, run_nil]
  exact bind_pure _

end Machine

/-! ## What a listing grows by -/

namespace Listing

/-- The listing with one more instruction. -/
def add (l : Listing) : Instruction → Listing
  | .push operand => l.push operand
  | .apply op => l.apply op

/-- The listing with the instructions of a program added, in order. -/
def extend (l : Listing) (program : List Instruction) : Listing :=
  program.foldl add l

@[simp] theorem extend_nil (l : Listing) : l.extend [] = l := rfl

@[simp] theorem extend_append (l : Listing) (p q : List Instruction) :
    l.extend (p ++ q) = (l.extend p).extend q :=
  List.foldl_append

/-- Extending a listing writes the program down after what stands there. -/
theorem toList_instructions_extend (l : Listing) (p : List Instruction) :
    (l.extend p).instructions.toList = l.instructions.toList ++ p := by
  induction p generalizing l with
  | nil => simp
  | cons i p ih =>
    rw [extend, List.foldl_cons, ← extend, ih]
    cases i <;> simp [add, push, apply]

/-- A listing refuses nothing. -/
theorem run_eq (program : List Instruction) (l : Listing) :
    (Machine.run program : Step Listing Unit) l = .ok () (l.extend program) := by
  induction program generalizing l with
  | nil => rfl
  | cons i program ih =>
    have hstep : (Machine.step i : Step Listing Unit) l = .ok () (l.add i) := by
      cases i <;> rfl
    rw [Machine.run_cons, Step.bind_of_ok hstep, ih]
    rfl

end Listing

/-! ## One step on two machines -/

/-- The parse `p` with the machine `m` in place of its own. -/
def Parser.on (p : Parser α) (m : β) : Parser β :=
  ⟨m, p.pending, p.awaiting, p.started⟩

/-- **How the outcome on a machine follows the recorded one.** The recorded
step started from `p` and wrote `program` down, the other started with the
machine `m`. If `m` carries the program out, the outcomes are the same; if
it refuses an instruction, the refusal is the outcome. -/
inductive Follows (p : Parser Listing) (m : μ) (program : List Instruction) :
    EStateM.Result Fault (Parser Listing) α →
      EStateM.Result Fault (Parser μ) α → Prop
  | ok {a : α} {p' : Parser Listing} {m' : μ} :
      (Machine.run program : Step μ Unit) m = .ok () m' →
      p'.machine = p.machine.extend program →
      Follows p m program (.ok a p') (.ok a (p'.on m'))
  | error {fault : Fault} {p' : Parser Listing} {m' : μ} :
      (Machine.run program : Step μ Unit) m = .ok () m' →
      p'.machine = p.machine.extend program →
      Follows p m program (.error fault p') (.error fault (p'.on m'))
  | refused {fault : Fault} {r : EStateM.Result Fault (Parser Listing) α}
      {m' : μ} {q : Parser μ} :
      (Machine.run program : Step μ Unit) m = .error fault m' →
      (Step.reached r).machine = p.machine.extend program → q.machine = m' →
      Follows p m program r (.error fault q)

namespace Follows

variable {p p' : Parser Listing} {m m' : μ} {program rest : List Instruction}
  {r : EStateM.Result Fault (Parser Listing) α}
  {r' : EStateM.Result Fault (Parser μ) α}

/-- Whatever the outcome, the recorded step wrote the program down. -/
theorem machine_reached (h : Follows p m program r r') :
    (Step.reached r).machine = p.machine.extend program := by
  cases h with
  | ok _ hp => exact hp
  | error _ hp => exact hp
  | refused _ hp _ => exact hp

/-- A program that was carried out may be put in front. -/
theorem trans (hm : (Machine.run program : Step μ Unit) m = .ok () m')
    (hp : p'.machine = p.machine.extend program)
    (h : Follows p' m' rest r r') : Follows p m (program ++ rest) r r' := by
  have hext : p'.machine.extend rest = p.machine.extend (program ++ rest) := by
    rw [hp, Listing.extend_append]
  cases h with
  | ok hr hs =>
    exact .ok (by rw [Machine.run_append_of_ok hm, hr]) (hs.trans hext)
  | error hr hs =>
    exact .error (by rw [Machine.run_append_of_ok hm, hr]) (hs.trans hext)
  | refused hr hs hq =>
    exact .refused (by rw [Machine.run_append_of_ok hm, hr]) (hs.trans hext) hq

end Follows

/-- **One step replays another**: `g` on a machine carries out what `f`
writes down, from every state. -/
def Replays (f : Step (Parser Listing) α) (g : Step (Parser μ) α) : Prop :=
  ∀ (p : Parser Listing) (m : μ),
    ∃ program, Follows p m program (f p) (g (p.on m))

namespace Replays

/-- **Sequencing keeps the relation.** A refusal in the first step ends the
run on the machine; the recorded run goes on, and what it writes down after
the refusal is never carried out. -/
theorem bind {f : Step (Parser Listing) α} {g : Step (Parser μ) α}
    {f' : α → Step (Parser Listing) β} {g' : α → Step (Parser μ) β}
    (h : Replays f g) (h' : ∀ a, Replays (f' a) (g' a)) :
    Replays (f >>= f') (g >>= g') := by
  intro p m
  obtain ⟨program, hf⟩ := h p m
  show ∃ _, Follows p m _ (EStateM.bind f f' p) (EStateM.bind g g' (p.on m))
  unfold EStateM.bind
  generalize f p = r, g (p.on m) = r' at hf
  cases hf with
  | ok hr hs =>
    obtain ⟨rest, hf'⟩ := h' _ _ _
    exact ⟨program ++ rest, hf'.trans hr hs⟩
  | error hr hs => exact ⟨program, .error hr hs⟩
  | refused hr hs hq =>
    cases r with
    | error => exact ⟨program, .refused hr hs hq⟩
    | ok a p' =>
      -- any machine will do to see what the rest of the line writes down
      obtain ⟨rest, hf'⟩ := h' a p' m
      refine ⟨program ++ rest, .refused (Machine.run_append_of_error hr) ?_ hq⟩
      rw [Listing.extend_append, ← hs]
      exact hf'.machine_reached

theorem of_pure (a : α) : Replays (pure a) (pure a : Step (Parser μ) α) :=
  fun _ _ => ⟨[], .ok rfl rfl⟩

theorem of_throw (fault : Fault) :
    Replays (throw fault) (throw fault : Step (Parser μ) α) :=
  fun _ _ => ⟨[], .error rfl rfl⟩

/-- What is read of the state is the same on both sides, the machine
apart. -/
theorem of_get_bind {f : Parser Listing → Step (Parser Listing) α}
    {g : Parser μ → Step (Parser μ) α}
    (h : ∀ p m, Replays (f p) (g (p.on m))) :
    Replays (get >>= f) (get >>= g) :=
  fun p m => h p m p m

/-- A change of the state that leaves the machine alone. -/
theorem of_modify {f : Parser Listing → Parser Listing}
    {g : Parser μ → Parser μ} (h : ∀ p m, g (p.on m) = (f p).on m)
    (hm : ∀ p, (f p).machine = p.machine) :
    Replays (modify f) (modify g : Step (Parser μ) Unit) := by
  intro p m
  refine ⟨[], ?_⟩
  show Follows p m [] (.ok () (f p)) (.ok () (g (p.on m)))
  rw [h]
  exact .ok rfl (hm p)

end Replays

/-! ## The steps of the parser -/

namespace Parser

theorem replays_shift (e : Pending) :
    Replays (shift e) (shift e : Step (Parser μ) Unit) :=
  .of_modify (fun _ _ => rfl) fun _ => rfl

theorem replays_await (a : Awaiting) :
    Replays (await a) (await a : Step (Parser μ) Unit) :=
  .of_modify (fun _ _ => rfl) fun _ => rfl

theorem replays_push (x : Operand) :
    Replays (push x) (push x : Step (Parser μ) Unit) := by
  intro p m
  have hrun : (Machine.run [.push x] : Step μ Unit) m
      = .ok () (Machine.push x m) := by
    rw [Machine.run_singleton]
    rfl
  exact ⟨[.push x], .ok hrun rfl⟩

theorem replays_perform (op : Operation) :
    Replays (perform op) (perform op : Step (Parser μ) Unit) := by
  intro p m
  refine ⟨[.apply op], ?_⟩
  have hrun : (Machine.run [.apply op] : Step μ Unit) m
      = (Machine.apply op : Step μ Unit) m := by
    rw [Machine.run_singleton]
    rfl
  have hmachine : (p.on m).machine = m := rfl
  cases h : (Machine.apply op : Step μ Unit) m with
  | ok a m' =>
    have hperform : perform op (p.on m) = .ok () (p.on m') := by
      rw [perform, hmachine, h]
      rfl
    rw [hperform]
    exact .ok (hrun.trans h) rfl
  | error fault m' =>
    have hperform : perform op (p.on m) = .error fault (p.on m') := by
      rw [perform, hmachine, h]
      rfl
    rw [hperform]
    exact .refused (hrun.trans h) rfl rfl

/-- **A run of reductions.** On a listing all of them go through; on a
machine they stop where the program they make up stops. The induction is on
the stack of pending entries, and the machine changes from entry to
entry. -/
theorem settleStack_eq_replay (limit : Nat) (pending : List Pending)
    (l : Listing) (m : μ) :
    ∃ rest program,
      settleStack limit pending l = .ok () (rest, l.extend program) ∧
      match (Machine.run program : Step μ Unit) m with
      | .ok _ m' => settleStack limit pending m = .ok () (rest, m')
      | .error fault m' =>
        ∃ rest', settleStack limit pending m = .error fault (rest', m') := by
  induction pending generalizing l m with
  | nil => exact ⟨[], [], rfl, rfl⟩
  | cons e pending ih =>
    cases e with
    | opener o pos => exact ⟨.opener o pos :: pending, [], rfl, rfl⟩
    | operator op pos =>
      simp only [settleStack]
      by_cases hop : op.precedence.rank ≤ limit
      · simp only [if_pos hop]
        cases hm : (Machine.apply op : Step μ Unit) m with
        | ok a m' =>
          obtain ⟨rest, program, hl, hm'⟩ := ih (l.apply op) m'
          refine ⟨rest, .apply op :: program, hl, ?_⟩
          rw [Machine.run_cons,
            Step.bind_of_ok (f := Machine.step (.apply op)) hm]
          exact hm'
        | error fault m' =>
          -- the rest of the program is written down, and never reached
          obtain ⟨rest, program, hl, -⟩ := ih (l.apply op) m'
          refine ⟨rest, .apply op :: program, hl, ?_⟩
          rw [Machine.run_cons,
            Step.bind_of_error (f := Machine.step (.apply op)) hm]
          exact ⟨pending, rfl⟩
      · simp only [if_neg hop]
        exact ⟨.operator op pos :: pending, [], rfl, rfl⟩

theorem replays_settle (limit : Nat) :
    Replays (settle limit) (settle limit : Step (Parser μ) Unit) := by
  intro p m
  obtain ⟨rest, program, hl, hm⟩ :=
    settleStack_eq_replay limit p.pending p.machine m
  have hp : settle limit p = .ok ()
      { p with pending := rest, machine := p.machine.extend program } := by
    rw [settle, hl]
  refine ⟨program, ?_⟩
  rw [hp]
  cases hr : (Machine.run program : Step μ Unit) m with
  | ok a m' =>
    rw [hr] at hm
    rw [settle, show settleStack limit (p.on m).pending (p.on m).machine = _
      from hm]
    exact .ok hr rfl
  | error fault m' =>
    rw [hr] at hm
    obtain ⟨rest', hm⟩ := hm
    rw [settle, show settleStack limit (p.on m).pending (p.on m).machine = _
      from hm]
    exact .refused hr rfl rfl

theorem replays_close (o : Opener) (t : Token) :
    Replays (close o t) (close o t : Step (Parser μ) Unit) := by
  refine (replays_settle groupLimit).bind fun _ => .of_get_bind fun p m => ?_
  obtain ⟨_, pending, _, _⟩ := p
  rcases pending with _ | ⟨⟨o', pos⟩ | _, rest⟩
  · exact .of_throw _
  · show Replays (if o' = o then _ else _) (if o' = o then _ else _)
    by_cases ho : o' = o
    · rw [if_pos ho, if_pos ho]
      exact .of_modify (fun _ _ => rfl) fun _ => rfl
    · rw [if_neg ho, if_neg ho]
      exact .of_throw _
  · exact .of_throw _

/-- What a token does where an operand is awaited. -/
theorem acceptOperand_cases {motive : Step (Parser μ) Unit → Prop} (t : Token)
    (number : ∀ v, t.kind = .number → literalValue t.text t.pos = .ok v →
      motive (do push (.literal v); await .operator))
    (refused : ∀ fault, t.kind = .number →
      literalValue t.text t.pos = .error fault → motive (throw fault))
    (name : t.kind = .name → motive (do push (.name t.text); await .operator))
    (group : t.kind = .openParen → motive (shift (.opener .paren t.pos)))
    (before : ∀ op, Operation.before? t.kind = some op →
      motive (shift (.operator op t.pos)))
    (unexpected : motive (throw (.unexpectedToken t))) :
    motive (acceptOperand t) := by
  unfold acceptOperand
  split
  · rename_i hk
    split
    · rename_i v hv
      exact number v hk hv
    · rename_i fault hv
      exact refused fault hk hv
  · rename_i hk
    exact name hk
  · rename_i hk
    exact group hk
  · split
    · rename_i op hop
      exact before op hop
    · exact unexpected

/-- What a token does where an operator is awaited. -/
theorem acceptOperator_cases {motive : Step (Parser μ) Unit → Prop} (t : Token)
    (group : t.kind = .closeParen → motive (close .paren t))
    (question : t.kind = .question → motive (do
      settle (Precedence.conditional.rank - 1)
      shift (.opener .question t.pos)
      await .operand))
    (colon : t.kind = .colon → motive (do
      close .question t
      shift (.operator .choose t.pos)
      await .operand))
    (after : ∀ op, Operation.after? t.kind = some op → motive (perform op))
    (between : ∀ op, t.kind ≠ .colon → Operation.after? t.kind = none →
      Operation.between? t.kind = some op → motive (do
        settle op.precedence.reach
        shift (.operator op t.pos)
        await .operand))
    (unexpected : motive (throw (.unexpectedToken t))) :
    motive (acceptOperator t) := by
  unfold acceptOperator
  split
  · rename_i hk
    exact group hk
  · rename_i hk
    exact question hk
  · rename_i hk
    exact colon hk
  · rename_i hcolon
    split
    · rename_i op hop
      exact after op hop
    · rename_i hafter
      split
      · rename_i op hop
        exact between op hcolon hafter hop
      · exact unexpected

theorem replays_acceptOperand (t : Token) :
    Replays (acceptOperand t) (acceptOperand t : Step (Parser μ) Unit) := by
  unfold acceptOperand
  split
  · split
    · exact (replays_push _).bind fun _ => replays_await _
    · exact .of_throw _
  · exact (replays_push _).bind fun _ => replays_await _
  · exact replays_shift _
  · split
    · exact replays_shift _
    · exact .of_throw _

theorem replays_acceptOperator (t : Token) :
    Replays (acceptOperator t) (acceptOperator t : Step (Parser μ) Unit) := by
  have hshift : ∀ e : Pending,
      Replays (do shift e; await .operand)
        (do shift e; await .operand : Step (Parser μ) Unit) :=
    fun e => (replays_shift e).bind fun _ => replays_await _
  unfold acceptOperator
  split
  · exact replays_close _ t
  · exact (replays_settle _).bind fun _ => hshift _
  · exact (replays_close _ t).bind fun _ => hshift _
  · split
    · exact replays_perform _
    · split
      · exact (replays_settle _).bind fun _ => hshift _
      · exact .of_throw _

theorem replays_feed (t : Token) :
    Replays (feed t) (feed t : Step (Parser μ) Unit) := by
  refine Replays.bind (.of_modify (fun _ _ => rfl) fun _ => rfl)
    fun _ => .of_get_bind fun p m => ?_
  obtain ⟨_, _, awaiting, _⟩ := p
  cases awaiting with
  | operand => exact replays_acceptOperand t
  | operator => exact replays_acceptOperator t

/-- A list of tokens can be cut anywhere: its parts are taken in turn. -/
theorem forM_feed_append (ts us : List Token) :
    ((ts ++ us).forM feed : Step (Parser μ) Unit) = (do ts.forM feed; us.forM feed) :=
  List.forM_append

theorem replays_forM_feed (ts : List Token) :
    Replays (ts.forM feed) (ts.forM feed : Step (Parser μ) Unit) := by
  induction ts with
  | nil => exact .of_pure ()
  | cons t ts ih => exact (replays_feed t).bind fun _ => ih

theorem replays_feedAll (s : Scan) :
    Replays (feedAll s) (feedAll s : Step (Parser μ) Unit) := by
  refine (replays_forM_feed s.tokens).bind fun _ => ?_
  obtain ⟨_, stray?⟩ := s
  cases stray? with
  | none => exact .of_pure ()
  | some stray => exact .of_throw _

/-- What the end of a line does when no operand is awaited: everything
pending is carried out, and an opener that is left is reported. -/
def release : Step (Parser μ) Unit := do
  settle groupLimit
  match (← get).pending with
  | .opener o pos :: rest => do
    modify fun p => { p with pending := rest }
    throw (.unmatchedOpener o pos)
  | _ => pure ()

/-- The end of a line tests whether an operand is awaited, and no more. -/
theorem finish_eq (p : Parser μ) :
    finish p = if p.started && p.awaiting = .operand then
        .error .unexpectedEnd p
      else release p := by
  show (if p.started && p.awaiting = .operand then _ else _ :
    Step (Parser μ) Unit) p = _
  by_cases h : (p.started && p.awaiting = .operand) = true
  · rw [if_pos h, if_pos h]
    rfl
  · rw [if_neg h, if_neg h]
    rfl

/-- What that comes to once everything pending is carried out. -/
theorem release_eq {p p' : Parser μ} (h : settle groupLimit p = .ok () p') :
    release p = match p'.pending with
      | .opener o pos :: rest =>
        .error (.unmatchedOpener o pos) { p' with pending := rest }
      | _ => .ok () p' := by
  rw [release, Step.bind_of_ok h]
  obtain ⟨machine, pending, awaiting, started⟩ := p'
  rcases pending with _ | ⟨_ | _, rest⟩ <;> rfl

theorem replays_release :
    Replays release (release : Step (Parser μ) Unit) := by
  refine (replays_settle groupLimit).bind fun _ => .of_get_bind fun p m => ?_
  obtain ⟨_, pending, _, _⟩ := p
  rcases pending with _ | ⟨_ | _, rest⟩
  · exact .of_pure ()
  · exact Replays.bind (.of_modify (fun _ _ => rfl) fun _ => rfl)
      fun _ => .of_throw _
  · exact .of_pure ()

theorem replays_finish : Replays finish (finish : Step (Parser μ) Unit) := by
  intro p m
  rw [finish_eq, finish_eq]
  show ∃ _, Follows p m _ _
    (if p.started && p.awaiting = .operand then _ else release (p.on m))
  by_cases h : (p.started && p.awaiting = .operand) = true
  · rw [if_pos h, if_pos h]
    exact ⟨[], .error rfl rfl⟩
  · rw [if_neg h, if_neg h]
    exact replays_release p m

/-- **The parser sends the same instructions to every machine.** -/
theorem replays_parse (source : String) :
    Replays (parse source) (parse source : Step (Parser μ) Unit) :=
  (replays_feedAll _).bind fun _ => replays_finish

end Parser

/-! ## Recording first, replaying afterwards -/

/-- What a line looks like to a machine that refuses nothing: the
instructions it was sent, and the fault that ended the line, if one did. -/
structure Recording where
  /-- The instructions, in order. -/
  program : List Instruction
  /-- The fault of the scan or of the parse. -/
  fault? : Option Fault

namespace Recording

/-- The recording of a line. -/
def ofSource (source : String) : Recording :=
  let r := (Parser.parse source : Step (Parser Listing) Unit)
    (Parser.start .empty)
  ⟨(Step.reached r).machine.instructions.toList, Step.fault? r⟩

/-- What can be listed is recorded to its end. -/
theorem ofSource_of_listing {source : String} {l : Listing}
    (h : listing source = .ok l) :
    ofSource source = ⟨l.instructions.toList, none⟩ := by
  unfold listing at h
  unfold ofSource
  generalize (Parser.parse source : Step (Parser Listing) Unit)
    (Parser.start .empty) = r at h ⊢
  cases r with
  | ok _ p =>
    obtain rfl := Except.ok.inj h
    rfl
  | error => nomatch h

/-- **The replay of a recording on a calculator.** The first instruction
that is refused ends it. If none is, the fault of the recording counts; and
if there is none either, the one operand that is left is the value. -/
def replay (r : Recording) (c : Calculator) : Evaluation :=
  match (Machine.run r.program : Step Calculator Unit) c with
  | .error fault c => .ofResult (.error fault c)
  | .ok _ c =>
    match r.fault? with
    | some fault => .ofResult (.error fault c)
    | none => .ofResult (Calculator.result c)

/-- How a line ends when all that was recorded has been carried out: with the
fault of the recording, or with the one operand that is left. -/
def ending (fault? : Option Fault) : Step Calculator Int :=
  match fault? with
  | some fault => throw fault
  | none => Calculator.result

/-- A replay is one step: the program, and then the end of the line. -/
theorem replay_eq (r : Recording) (c : Calculator) :
    r.replay c = .ofResult ((do Machine.run r.program; ending r.fault? :
      Step Calculator Int) c) := by
  obtain ⟨program, fault?⟩ := r
  unfold replay
  dsimp only
  cases hrun : (Machine.run program : Step Calculator Unit) c with
  | error fault c' => rw [Step.bind_of_error hrun]
  | ok _ c' =>
    rw [Step.bind_of_ok hrun]
    cases fault? <;> rfl

end Recording

/-- On any calculator, whatever it already holds. -/
theorem evaluateOn_eq_replay (c : Calculator) (source : String) :
    evaluateOn c source = (Recording.ofSource source).replay c := by
  obtain ⟨program, h⟩ :=
    Parser.replays_parse (μ := Calculator) source (Parser.start .empty) c
  rw [show (Parser.start .empty : Parser Listing).on c = Parser.start c
    from rfl] at h
  have hprogram : (Recording.ofSource source).program = program := by
    rw [Recording.ofSource, h.machine_reached]
    exact Listing.toList_instructions_extend _ program
  unfold evaluateOn Recording.replay
  rw [hprogram]
  unfold Recording.ofSource
  generalize (Parser.parse source : Step (Parser Listing) Unit)
    (Parser.start .empty) = r at h
  generalize (Parser.parse source : Step (Parser Calculator) Unit)
    (Parser.start c) = r' at h
  cases h with
  | ok hr _ =>
    rw [hr]
    rfl
  | error hr _ =>
    rw [hr]
    rfl
  | refused hr _ hq =>
    rw [hr, ← hq]

/-- **Fusing is recording and replaying.** A line is evaluated while it is
read, on an environment that earlier instructions may already have changed;
the value or the fault, its message and its place, and the environment
afterwards are those of recording the whole line first and carrying the
recording out on a fresh calculator. So a division by zero inside a group
comes before a stray character further right, and a fault of the parse
before an operation that was still pending. -/
theorem evaluate_eq_replay (source : String) (env : Environment) :
    evaluate source env
      = { (Recording.ofSource source).replay (.start env) with
          journal := .parsing source ::
            ((Recording.ofSource source).replay (.start env)).journal } := by
  unfold evaluate
  rw [evaluateOn_eq_replay]

end Abacus
