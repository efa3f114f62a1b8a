import Mathlib.Data.List.Chain
import Abacus.Proofs.OperandCount

/-!
# The order of what is pending

An entry is carried out when one arrives that binds no tighter. What is left
below it then is looser than the limit of the arrival, and so the stack is
*ordered* (`Ordered`): from one entry to the one below, precedence does not
tighten more than the direction of the upper one allows. An entry that comes
before its operand is put on the stack as it is, and nothing is asked of what
it stands on; nor is it of a parenthesis.

One entry is put on the stack without a look at what lies there. The `:` of a
choice takes the place of its `?`, and what lies below is looser than a
choice because the `?` was put there when that was so.

The order outlives failure. A token that is refused, and an operation that
the machine refuses in the middle of a run, only take entries away from the
top, and what is left of an ordered stack is ordered.
-/

namespace Abacus

variable {μ : Type} [Machine μ]

/-! ## What may stand on what -/

/-- **What an entry may stand on.** An operator between operands that groups
to the left stands on looser entries only, a choice or an assignment on
entries that are no tighter, and a `?` on entries that are no tighter than a
choice. -/
structure Pending.StandsOn (u l : Pending) : Prop where
  left : ∀ op, u.operation? = some op → op.arity = 2 →
    op.precedence.associativity = .left → u.precedence.rank < l.precedence.rank
  right : u.precedence = .conditional ∨ u.precedence = .assignment →
    u.precedence.rank ≤ l.precedence.rank
  question : u.symbol = .question →
    Precedence.conditional.rank ≤ l.precedence.rank

/-- No operation is written like an opener. -/
theorem Operation.symbol_ne_opener (op : Operation) (o : Opener) :
    op.symbol ≠ o.symbol := by
  have hall : ∀ op ∈ Operation.all, op.symbol ≠ Opener.paren.symbol ∧
      op.symbol ≠ Opener.question.symbol := by
    decide
  cases o with
  | paren => exact (hall op op.mem_all).1
  | question => exact (hall op op.mem_all).2

namespace Pending

/-- Openers, and only they, have no operation, and they are of a class of
their own. -/
theorem operation?_eq_none_iff (e : Pending) :
    (e.operation? = none ↔ e.precedence = .opener) ∧
      (e.precedence = .opener ↔ e.symbol = .openParen ∨ e.symbol = .question) := by
  cases e with
  | opener o pos =>
    refine ⟨iff_of_true rfl rfl, iff_of_true rfl ?_⟩
    cases o with
    | paren => exact .inl rfl
    | question => exact .inr rfl
  | operator op pos =>
    have hsymbol : ¬(op.symbol = .openParen ∨ op.symbol = .question) :=
      not_or.mpr ⟨op.symbol_ne_opener .paren, op.symbol_ne_opener .question⟩
    exact ⟨iff_of_false nofun op.precedence_ne_opener,
      iff_of_false op.precedence_ne_opener hsymbol⟩

namespace StandsOn

variable {l : Pending} {op : Operation} {pos : Int}

theorem of_paren : StandsOn (.opener .paren pos) l where
  left := nofun
  right := nofun
  question := nofun

theorem of_question (h : Precedence.conditional.rank - 1 < l.precedence.rank) :
    StandsOn (.opener .question pos) l where
  left := nofun
  right := nofun
  question _ := Nat.le_of_pred_lt h

/-- An operation before its operand may stand on anything. -/
theorem of_unary (h : op.precedence = .unary) : StandsOn (.operator op pos) l := by
  refine ⟨?_, ?_, fun hq => absurd hq (op.symbol_ne_opener .question)⟩
  · rintro _ ⟨⟩ harity
    exact absurd (Operation.isInfix_precedence harity) (h ▸ id)
  · intro hclass
    change op.precedence = _ ∨ op.precedence = _ at hclass
    rw [h] at hclass
    nomatch hclass

/-- An operation between operands may stand on what it has not reached. -/
theorem of_reach (h : op.precedence.reach < l.precedence.rank) :
    StandsOn (.operator op pos) l := by
  refine ⟨?_, ?_, fun hq => absurd hq (op.symbol_ne_opener .question)⟩
  · rintro _ ⟨⟩ - hleft
    rw [Precedence.reach, hleft] at h
    exact h
  · intro hclass
    change op.precedence = _ ∨ op.precedence = _ at hclass
    change op.precedence.rank ≤ _
    rcases hclass with hclass | hclass <;> rw [hclass] at h ⊢ <;>
      exact Nat.le_of_pred_lt h

end StandsOn

end Pending

/-- **An ordered stack**, topmost entry first. No operation that comes after
its operand is on it, since those are carried out at once. -/
structure Ordered (pending : List Pending) : Prop where
  noStepAfter : ∀ e ∈ pending, e.precedence ≠ .stepAfter
  chain : pending.IsChain Pending.StandsOn

namespace Ordered

variable {pending rest : List Pending} {e : Pending}

theorem nil : Ordered [] :=
  ⟨List.forall_mem_nil _, .nil⟩

/-- What is left of an ordered stack is ordered. -/
theorem suffix (h : Ordered pending) (hrest : rest <:+ pending) : Ordered rest :=
  ⟨fun e he => h.noStepAfter e (hrest.subset he), h.chain.suffix hrest⟩

theorem cons (h : Ordered pending) (he : e.precedence ≠ .stepAfter)
    (hon : ∀ l ∈ pending.head?, e.StandsOn l) : Ordered (e :: pending) :=
  ⟨List.forall_mem_cons.mpr ⟨he, h.noStepAfter⟩, h.chain.cons hon⟩

/-- What an entry of an ordered stack stands on. -/
theorem standsOn (h : Ordered (e :: pending)) : ∀ l ∈ pending.head?, e.StandsOn l :=
  (List.isChain_cons.mp h.chain).1

end Ordered

/-! ## Carrying out what is pending -/

namespace Parser

variable {limit : Nat} {p q : Parser μ} {t : Token}

/-- Carrying out entries takes them from the top, however it ends. -/
theorem suffix_settleStack (limit : Nat) (pending : List Pending) (m : μ) :
    (Step.reached (settleStack limit pending m)).1 <:+ pending := by
  induction pending generalizing m with
  | nil => exact List.suffix_rfl
  | cons e pending ih =>
    cases e with
    | opener o pos => exact List.suffix_rfl
    | operator op pos =>
      rw [settleStack]
      split
      · split
        · exact (ih _).trans (List.suffix_cons _ _)
        · exact List.suffix_cons _ _
      · exact List.suffix_rfl

theorem ordered_settle (limit : Nat) (h : Ordered p.pending) :
    Ordered (Step.reached (settle limit p)).pending := by
  have hsuffix := suffix_settleStack limit p.pending p.machine
  unfold settle
  generalize settleStack limit p.pending p.machine = r at hsuffix ⊢
  rcases r with ⟨_, rest, m⟩ | ⟨fault, rest, m⟩ <;> exact h.suffix hsuffix

theorem lt_of_settle (hlimit : limit ≤ groupLimit)
    (h : settle limit p = .ok () q) :
    ∀ e ∈ q.pending.head?, limit < e.precedence.rank := by
  unfold settle at h
  cases hstack : settleStack limit p.pending p.machine with
  | ok _ r =>
    rw [hstack] at h
    cases h
    exact lt_of_settleStack hlimit hstack
  | error fault r =>
    rw [hstack] at h
    cases h

/-- An entry that is put on what is left after carrying out. -/
theorem ordered_settle_shift {e : Pending} {a : Awaiting}
    (hlimit : limit ≤ groupLimit) (he : e.precedence ≠ .stepAfter)
    (hon : ∀ l : Pending, limit < l.precedence.rank → e.StandsOn l)
    (h : Ordered p.pending) :
    Ordered (Step.reached ((do settle limit; shift e; await a :
      Step (Parser μ) Unit) p)).pending := by
  have hreached := ordered_settle limit h
  cases hsettle : (settle limit : Step (Parser μ) Unit) p with
  | ok _ q =>
    rw [hsettle] at hreached
    rw [Step.bind_of_ok hsettle]
    exact hreached.cons he fun l hl => hon l (lt_of_settle hlimit hsettle l hl)
  | error fault q =>
    rw [hsettle] at hreached
    rw [Step.bind_of_error hsettle]
    exact hreached

/-- **Closing a group** leaves the stack ordered, and where it finds its
opener, so was the stack with the opener on top. -/
theorem ordered_close (o : Opener) (t : Token) (h : Ordered p.pending) :
    Ordered (Step.reached (close o t p)).pending ∧
      ∀ q, close o t p = .ok () q → ∃ pos, Ordered (.opener o pos :: q.pending) := by
  have hreached := ordered_settle groupLimit h
  cases hsettle : (settle groupLimit : Step (Parser μ) Unit) p with
  | error fault q =>
    rw [hsettle] at hreached
    unfold close
    rw [Step.bind_of_error hsettle]
    exact ⟨hreached, nofun⟩
  | ok _ q =>
    rw [hsettle] at hreached
    change Ordered q.pending at hreached
    rw [close_eq hsettle]
    split
    · rename_i o' pos rest hq
      split
      · rename_i ho
        rw [hq, ho] at hreached
        refine ⟨hreached.suffix (List.suffix_cons _ _), ?_⟩
        rintro _ ⟨⟩
        exact ⟨pos, hreached⟩
      · exact ⟨hreached, nofun⟩
    · exact ⟨hreached, nofun⟩

/-! ## Tokens -/

theorem ordered_acceptOperand (h : Ordered p.pending) :
    Ordered (Step.reached (acceptOperand t p)).pending := by
  refine acceptOperand_cases
    (motive := fun f => Ordered (Step.reached (f p)).pending) t
    ?number ?refused ?name ?group ?before ?unexpected
  case number => exact fun _ _ _ => h
  case refused => exact fun _ _ _ => h
  case name => exact fun _ => h
  case group => exact fun _ => h.cons nofun fun _ _ => .of_paren
  case before =>
    intro op hop
    have hclass := op.precedence_of_unary (Operation.before?_eq t.kind ▸ hop)
    refine h.cons ?_ fun _ _ => .of_unary hclass
    exact fun hafter => nomatch hclass.symm.trans hafter
  case unexpected => exact h

theorem ordered_acceptOperator (h : Ordered p.pending) :
    Ordered (Step.reached (acceptOperator t p)).pending := by
  refine acceptOperator_cases
    (motive := fun f => Ordered (Step.reached (f p)).pending) t
    ?group ?question ?colon ?after ?between ?unexpected
  case group => exact fun _ => (ordered_close .paren t h).1
  case question =>
    exact fun _ => ordered_settle_shift (by decide) nofun (fun _ => .of_question) h
  case colon =>
    intro _
    obtain ⟨hreached, hopened⟩ := ordered_close .question t h
    cases hclose : (close .question t : Step (Parser μ) Unit) p with
    | error fault q =>
      rw [hclose] at hreached
      rw [Step.bind_of_error hclose]
      exact hreached
    | ok _ q =>
      rw [hclose] at hreached
      rw [Step.bind_of_ok hclose]
      obtain ⟨pos, hq⟩ := hopened q hclose
      refine Ordered.cons hreached nofun fun l hl => ?_
      exact .of_reach ((hq.standsOn l hl).question rfl)
  case after =>
    intro op _
    show Ordered (Step.reached (perform op p)).pending
    unfold perform
    split <;> exact h
  case between =>
    intro op hcolon _ hop
    have hinfix := Operation.isInfix_precedence (Operation.arity_of_between? hop hcolon)
    refine ordered_settle_shift op.reach_le_groupLimit ?_ (fun _ => .of_reach) h
    intro hclass
    rw [show op.precedence = .stepAfter from hclass] at hinfix
    exact hinfix
  case unexpected => exact h

/-- **A token keeps the stack ordered**, taken or refused. -/
theorem ordered_feed (t : Token) (h : Ordered p.pending) :
    Ordered (Step.reached (feed t p)).pending := by
  obtain ⟨m, pending, awaiting, started⟩ := p
  cases awaiting with
  | operand => exact ordered_acceptOperand (p := ⟨m, pending, .operand, true⟩) h
  | operator => exact ordered_acceptOperator (p := ⟨m, pending, .operator, true⟩) h

/-- **And so does the end of a line**, which takes entries away only. -/
theorem ordered_finish (h : Ordered p.pending) :
    Ordered (Step.reached (finish p)).pending := by
  rw [finish_eq]
  split
  · exact h
  have hreached := ordered_settle groupLimit h
  cases hsettle : (settle groupLimit : Step (Parser μ) Unit) p with
  | error fault q =>
    rw [hsettle] at hreached
    unfold release
    rw [Step.bind_of_error hsettle]
    exact hreached
  | ok _ q =>
    rw [hsettle] at hreached
    rw [release_eq hsettle]
    split
    · rename_i o pos rest hq
      change Ordered q.pending at hreached
      rw [hq] at hreached
      exact hreached.suffix (List.suffix_cons _ _)
    · exact hreached

/-! ## Any calls -/

/-- What a parse can be asked for: to take a token, or to end the line. -/
inductive Call
  | feed (t : Token)
  | finish

/-- A call as a step. -/
def Call.step : Call → Step (Parser μ) Unit
  | .feed t => Parser.feed t
  | .finish => Parser.finish

/-- The parse after calls that were all made, those that failed among
them. -/
def after (p : Parser μ) (calls : List Call) : Parser μ :=
  calls.foldl (fun p call => Step.reached ((call.step : Step (Parser μ) Unit) p)) p

theorem ordered_step (call : Call) (h : Ordered p.pending) :
    Ordered (Step.reached ((call.step : Step (Parser μ) Unit) p)).pending := by
  cases call with
  | feed t => exact ordered_feed t h
  | finish => exact ordered_finish h

/-- **Calls keep the stack ordered**, by induction on them. -/
theorem ordered_after (calls : List Call) (h : Ordered p.pending) :
    Ordered (p.after calls).pending := by
  induction calls generalizing p with
  | nil => exact h
  | cons call calls ih => exact ih (ordered_step call h)

end Parser

/-- **The stack of a parse is ordered**, on any machine, after any calls, those
that failed among them. Its entries have an operation unless they are
openers; no operation that comes after its operand is pending; and every
entry may stand on the one below it. -/
theorem pending_ordered (m : μ) (calls : List Parser.Call) :
    let pending := ((Parser.start m).after calls).pending
    (∀ e ∈ pending,
      (e.operation? = none ↔ e.precedence = .opener) ∧
      (e.precedence = .opener ↔ e.symbol = .openParen ∨ e.symbol = .question) ∧
      e.precedence ≠ .stepAfter) ∧
    pending.IsChain Pending.StandsOn := by
  have hordered : Ordered ((Parser.start m).after calls).pending :=
    Parser.ordered_after calls .nil
  refine ⟨fun e he => ?_, hordered.chain⟩
  obtain ⟨hnone, hopener⟩ := e.operation?_eq_none_iff
  exact ⟨hnone, hopener, hordered.noStepAfter e he⟩

end Abacus
