import Abacus.Proofs.Recognition

/-!
# Counting operands

The parser keeps no operands: it sends them on and forgets them. Yet the
pending entries tell how many the machine holds. An entry waits for its last
operand, and those before it were sent already (`Pending.weight`); between
the entries nothing is left over, but for the operand just finished if an
operator is awaited (`Parser.Counted`). Every token keeps this count, taken
or refused: a closer that finds no opener has carried out what was pending
above it, and each operation takes from the count what its entry weighed.

So an operation that is sent to the machine always finds its operands
(`Listing.Supplied`), and a line that ends well leaves one
(`operands_counted`).
-/

namespace Abacus

variable {μ : Type} [Machine μ]

/-! ## Weights -/

/-- **The weight of an entry**: how many operands it has already. A sign or a
step before its operand has none, nor has an open parenthesis. A `?` has its
condition, and an operator between operands the left one. A choice has two,
its condition and what stands before its `:`. -/
def Pending.weight : Pending → Nat
  | .opener .paren _ => 0
  | .opener .question _ => 1
  | .operator op _ =>
    match op.precedence with
    | .stepAfter | .unary => 0
    | .conditional => 2
    | _ => 1

/-- The weight of a stack of entries. -/
def Pending.total (pending : List Pending) : Nat :=
  (pending.map Pending.weight).sum

/-- An operation is carried out with one operand more than its entry weighs. -/
theorem Pending.arity_eq_weight (op : Operation) (pos : Int) :
    op.arity = (Pending.operator op pos).weight + 1 := by
  rcases op with _ | _ | _ | (_ | _ | _ | _) | (_ | _ | _ | _ | _ | _) | _ | _ | _ <;>
    rfl

theorem Pending.total_cons (e : Pending) (pending : List Pending) :
    total (e :: pending) = e.weight + total pending := by
  rw [total, total, List.map_cons, List.sum_cons]

/-- The operand just finished, which no entry has yet. -/
def Awaiting.finished : Awaiting → Nat
  | .operand => 0
  | .operator => 1

/-! ## Listings without want -/

/-- **Every operation finds its operands**: a listing written down from
nothing, in which at every operation the operands before it are at least as
many as it takes. -/
inductive Listing.Supplied : Listing → Prop
  | empty : Supplied .empty
  | push {l : Listing} (x : Operand) : Supplied l → Supplied (l.push x)
  | apply {l : Listing} {op : Operation} :
      (op.arity : Int) ≤ l.depth → Supplied l → Supplied (l.apply op)

/-- What a stack of entries says of the listing that was sent: with
`finished` operands more than the entries have, there are as many as there
should be. -/
structure Counts (finished : Nat) (pending : List Pending) (l : Listing) :
    Prop where
  supplied : l.Supplied
  depth_eq : l.depth = finished + Pending.total pending

namespace Counts

variable {finished finished' : Nat} {pending : List Pending} {l : Listing}

theorem push (h : Counts 0 pending l) (x : Operand) :
    Counts 1 pending (l.push x) := by
  refine ⟨.push x h.supplied, ?_⟩
  show l.depth + 1 = _
  rw [h.depth_eq]
  omega

/-- An operation on the operand just finished, and on those of its entry. -/
theorem apply {op : Operation} {pos : Int}
    (h : Counts 1 (.operator op pos :: pending) l) :
    Counts 1 pending (l.apply op) := by
  have hdepth := h.depth_eq
  have harity := Pending.arity_eq_weight op pos
  rw [Pending.total_cons] at hdepth
  refine ⟨.apply (by omega) h.supplied, ?_⟩
  show l.depth - (op.arity - 1) = _
  omega

/-- An operation after its operand, which takes no other. -/
theorem apply_after {op : Operation} (hop : op.arity = 1)
    (h : Counts 1 pending l) : Counts 1 pending (l.apply op) := by
  have hdepth := h.depth_eq
  refine ⟨.apply (by omega) h.supplied, ?_⟩
  show l.depth - (op.arity - 1) = _
  omega

/-- An entry takes the operands that it waits with. -/
theorem shift {e : Pending} (he : e.weight = finished)
    (h : Counts finished pending l) : Counts 0 (e :: pending) l := by
  refine ⟨h.supplied, ?_⟩
  rw [Pending.total_cons, h.depth_eq]
  omega

/-- Without the entry, what it has is wanted, or it is a finished operand. -/
theorem drop {e : Pending} (he : finished + e.weight = finished')
    (h : Counts finished (e :: pending) l) : Counts finished' pending l := by
  have hdepth := h.depth_eq
  rw [Pending.total_cons] at hdepth
  exact ⟨h.supplied, by omega⟩

/-- **Carrying out entries keeps the count**, however far it goes. -/
theorem settleStack (limit : Nat) (h : Counts 1 pending l) :
    ∃ rest l', Parser.settleStack limit pending l = .ok () (rest, l') ∧
      Counts 1 rest l' := by
  induction pending generalizing l with
  | nil => exact ⟨[], l, rfl, h⟩
  | cons e pending ih =>
    cases e with
    | opener o pos => exact ⟨_, l, rfl, h⟩
    | operator op pos =>
      by_cases hop : op.precedence.rank ≤ limit
      · obtain ⟨rest, l', hsettle, h'⟩ := ih h.apply
        exact ⟨rest, l', (if_pos hop).trans hsettle, h'⟩
      · exact ⟨_, l, if_neg hop, h⟩

end Counts

/-! ## The parser keeps count -/

namespace Parser

/-- What is left below the operators in reach is out of reach. -/
theorem lt_of_settleStack {limit : Nat} (hlimit : limit ≤ groupLimit)
    {pending rest : List Pending} {m m' : μ}
    (h : settleStack limit pending m = .ok () (rest, m')) :
    ∀ e ∈ rest.head?, limit < e.precedence.rank := by
  induction pending generalizing m with
  | nil =>
    cases h
    nofun
  | cons e pending ih =>
    cases e with
    | opener o pos =>
      cases h
      rintro _ ⟨⟩
      exact Nat.lt_succ_of_le hlimit
    | operator op pos =>
      rw [settleStack] at h
      split at h
      · split at h
        · exact ih h
        · cases h
      · rename_i hop
        cases h
        rintro _ ⟨⟩
        exact Nat.not_le.mp hop

/-- At the end of a group all operators are in reach, so it is an opener. -/
theorem closed_of_settleStack {pending rest : List Pending} {m m' : μ}
    (h : settleStack groupLimit pending m = .ok () (rest, m')) :
    Closed rest := by
  intro e he
  have hopener := Precedence.eq_opener_of_lt (lt_of_settleStack le_rfl h e he)
  cases e with
  | opener => rfl
  | operator op pos => exact absurd hopener op.precedence_ne_opener

/-- **The entries of a parse count what its machine holds**, from its first
token on. -/
structure Counted (p : Parser Listing) : Prop where
  started : p.started = true
  counts : Counts p.awaiting.finished p.pending p.machine

variable {p : Parser Listing} {t : Token}

/-- **Settling keeps the count**, and at the end of a group it stops at an
opener only. -/
theorem counted_settle (limit : Nat) (ha : p.awaiting = .operator)
    (h : p.Counted) :
    ∃ l rest, settle limit p = .ok () ⟨l, rest, .operator, true⟩ ∧
      Counts 1 rest l ∧ (limit = groupLimit → Closed rest) := by
  obtain ⟨l₀, pending, awaiting, started⟩ := p
  obtain rfl : awaiting = _ := ha
  obtain rfl : started = _ := h.started
  obtain ⟨rest, l, hsettle, hcounts⟩ := h.counts.settleStack limit
  refine ⟨l, rest, ?_, hcounts, ?_⟩
  · unfold settle
    rw [show settleStack limit pending l₀ = _ from hsettle]
  · rintro rfl
    exact closed_of_settleStack hsettle

/-- **Closing a group keeps the count**, and so does failing to: what was
carried out on the way down was counted. -/
theorem counted_close (o : Opener) (t : Token) (ha : p.awaiting = .operator)
    (h : p.Counted) :
    (∃ l pos rest, close o t p = .ok () ⟨l, rest, .operator, true⟩ ∧
        Counts 1 (.opener o pos :: rest) l) ∨
      ∃ p', close o t p = .error (.unmatchedCloser t o) p' ∧ p'.Counted := by
  obtain ⟨l, rest, hsettle, hcounts, -⟩ := counted_settle groupLimit ha h
  rw [close_eq hsettle]
  rcases rest with _ | ⟨⟨o', pos⟩ | _, rest⟩
  · exact .inr ⟨_, rfl, rfl, hcounts⟩
  · by_cases ho : o' = o
    · subst ho
      exact .inl ⟨l, pos, rest, if_pos rfl, hcounts⟩
    · exact .inr ⟨_, if_neg ho, rfl, hcounts⟩
  · exact .inr ⟨_, rfl, rfl, hcounts⟩

theorem counted_acceptOperand (ha : p.awaiting = .operand) (h : p.Counted) :
    (Step.reached (acceptOperand t p)).Counted := by
  obtain ⟨l, pending, awaiting, started⟩ := p
  obtain rfl : awaiting = _ := ha
  have hs := h.started
  have hc := h.counts
  refine acceptOperand_cases (motive := fun f => (Step.reached (f _)).Counted) t
    ?number ?refused ?name ?group ?before ?unexpected
  case number => exact fun v _ _ => ⟨hs, hc.push (.literal v)⟩
  case refused => exact fun _ _ _ => h
  case name => exact fun _ => ⟨hs, hc.push (.name t.text)⟩
  case group => exact fun _ => ⟨hs, hc.shift rfl⟩
  case before =>
    intro op hop
    have harity := Pending.arity_eq_weight op t.pos
    rw [Operation.arity_of_before? hop] at harity
    exact ⟨hs, hc.shift (Nat.succ.inj harity.symm)⟩
  case unexpected => exact h

theorem counted_acceptOperator (ha : p.awaiting = .operator) (h : p.Counted) :
    (Step.reached (acceptOperator t p)).Counted := by
  refine acceptOperator_cases (motive := fun f => (Step.reached (f p)).Counted) t
    ?group ?question ?colon ?after ?between ?unexpected
  case group =>
    intro _
    rcases counted_close .paren t ha h with
      ⟨l, pos, rest, hclose, hc⟩ | ⟨p', hclose, hp'⟩
    · rw [hclose]
      exact ⟨rfl, hc.drop rfl⟩
    · rw [hclose]
      exact hp'
  case question =>
    intro _
    obtain ⟨l, rest, hsettle, hc, -⟩ := counted_settle _ ha h
    rw [Step.bind_of_ok hsettle]
    exact ⟨rfl, hc.shift rfl⟩
  case colon =>
    intro _
    rcases counted_close .question t ha h with
      ⟨l, pos, rest, hclose, hc⟩ | ⟨p', hclose, hp'⟩
    · -- the condition that the `?` had is now the first of two operands
      rw [Step.bind_of_ok hclose]
      exact ⟨rfl, (hc.drop rfl).shift rfl⟩
    · rw [Step.bind_of_error hclose]
      exact hp'
  case after =>
    intro op hop
    obtain ⟨l, pending, awaiting, started⟩ := p
    obtain rfl : awaiting = _ := ha
    exact ⟨h.started, h.counts.apply_after (Operation.arity_of_after? hop)⟩
  case between =>
    intro op hcolon _ hop
    obtain ⟨l, rest, hsettle, hc, -⟩ := counted_settle _ ha h
    have harity := Pending.arity_eq_weight op t.pos
    rw [Operation.arity_of_between? hop hcolon] at harity
    rw [Step.bind_of_ok hsettle]
    exact ⟨rfl, hc.shift (Nat.succ.inj harity.symm)⟩
  case unexpected => exact h

/-- **A token keeps the count**, taken or refused. -/
theorem counted_feed (t : Token)
    (h : Counts p.awaiting.finished p.pending p.machine) :
    (Step.reached (feed t p)).Counted := by
  obtain ⟨l, pending, awaiting, started⟩ := p
  cases awaiting with
  | operand =>
    exact counted_acceptOperand (p := ⟨l, pending, .operand, true⟩) rfl ⟨rfl, h⟩
  | operator =>
    exact counted_acceptOperator (p := ⟨l, pending, .operator, true⟩) rfl ⟨rfl, h⟩

/-- **The end of a line** carries out only what has its operands, and if it
ends well, one operand is left and nothing is pending. -/
theorem counted_finish (h : p.Counted) :
    (Step.reached (finish p)).machine.Supplied ∧
      ∀ q, finish p = .ok () q → q.pending = [] ∧ q.machine.depth = 1 := by
  rw [finish_eq, h.started]
  cases ha : p.awaiting with
  | operand => exact ⟨h.counts.supplied, nofun⟩
  | operator =>
    obtain ⟨l, rest, hsettle, hc, hclosed⟩ := counted_settle groupLimit ha h
    show (Step.reached (release p)).machine.Supplied ∧
      ∀ q, release p = .ok () q → q.pending = [] ∧ q.machine.depth = 1
    rw [release_eq hsettle]
    rcases rest with _ | ⟨_ | _, rest⟩
    · refine ⟨hc.supplied, ?_⟩
      rintro _ ⟨⟩
      exact ⟨rfl, hc.depth_eq⟩
    · exact ⟨hc.supplied, nofun⟩
    · exact absurd (hclosed rfl _ rfl) Bool.false_ne_true

/-! ## A line with refused tokens -/

/-- The parse after a list of tokens that were all given to it, those that it
refused among them. -/
def attempt (p : Parser μ) (ts : List Token) : Parser μ :=
  ts.foldl (fun p t => Step.reached ((feed t : Step (Parser μ) Unit) p)) p

theorem counted_attempt (ts : List Token) (h : p.Counted) :
    (p.attempt ts).Counted := by
  induction ts generalizing p with
  | nil => exact h
  | cons t ts ih => exact ih (counted_feed t h.counts)

theorem counts_start : Counts 0 [] Listing.empty :=
  ⟨.empty, rfl⟩

/-- Where no token is refused, nothing else is reached. -/
theorem attempt_of_forM {p p' : Parser μ} {ts : List Token}
    (h : (ts.forM feed : Step (Parser μ) Unit) p = .ok () p') :
    p.attempt ts = p' := by
  induction ts generalizing p with
  | nil => exact (EStateM.Result.ok.inj h).2
  | cons t ts ih =>
    change (feed t >>= fun _ => ts.forM feed) p = _ at h
    cases ht : (feed t : Step (Parser μ) Unit) p with
    | error =>
      rw [Step.bind_of_error ht] at h
      nomatch h
    | ok _ q =>
      rw [Step.bind_of_ok ht] at h
      rw [← ih h, attempt, List.foldl_cons, ht]
      rfl

end Parser

/-- **Operands are counted.** Whatever tokens a new parse is given, those
that it refuses among them, its machine holds the operand just finished, if
there is one, and those that the pending entries have already. So every
operation sent so far, or at the end of the line, finds as many operands as
it takes; and a line that has tokens and ends well leaves nothing pending and
one operand. -/
theorem operands_counted (ts : List Token) :
    let p := (Parser.start Listing.empty).attempt ts
    p.machine.depth = (if p.awaiting = .operator then 1 else 0)
        + (p.pending.map Pending.weight).sum ∧
      p.machine.Supplied ∧ (Step.reached (Parser.finish p)).machine.Supplied ∧
      (ts ≠ [] → ∀ q, Parser.line ts (Parser.start Listing.empty) = .ok () q →
        q.pending = [] ∧ q.machine.depth = 1) := by
  intro p
  rcases ts with _ | ⟨t, ts⟩
  · exact ⟨rfl, .empty, .empty, fun hne => absurd rfl hne⟩
  · have hp : p.Counted :=
      Parser.counted_attempt ts (Parser.counted_feed t Parser.counts_start)
    obtain ⟨hsupplied, hend⟩ := Parser.counted_finish hp
    refine ⟨?_, hp.counts.supplied, hsupplied, fun _ q hq => ?_⟩
    · rw [hp.counts.depth_eq]
      cases p.awaiting <;> rfl
    · unfold Parser.line at hq
      cases hfeed : ((t :: ts).forM Parser.feed : Step (Parser Listing) Unit)
          (Parser.start .empty) with
      | error =>
        rw [Step.bind_of_error hfeed] at hq
        nomatch hq
      | ok _ p' =>
        rw [Step.bind_of_ok hfeed, ← Parser.attempt_of_forM hfeed] at hq
        exact hend q hq

end Abacus
