import Abacus.Proofs.OperandCount

/-!
# Why a token is refused, and what that leaves behind

A token is refused for one of three reasons: it cannot stand where it does,
it closes what is not open, or it is a number that is too large
(`Token.Refused`). Whatever the state of the parse, and whatever happened
before, there is no fourth, as long as the texts of numbers are decimal
(`raises_feed`). At the end of a line the fault is that an operand or a
closer is missing.

A parse may go on after a refusal, and the state it goes on from is known
exactly (`refused_token_leaves`). A token that cannot stand where it does, or
that is too large a number, is refused before anything is done. A closer is
refused later: it carries out what is pending in the innermost group before it
looks for its opener, and when it does not find it, the group stays *settled*
(`Parser.settled`).

In every case the refusal is final. In the state that was left behind the same
token is refused with the same fault, and nothing more is done, because
settling a group twice is settling it once (`settle_settled`).

All this is said of a machine that refuses nothing.
-/

namespace Abacus

/-! ## The faults of a step -/

namespace Step

variable {σ α β : Type} {f : Step σ α} {g : α → Step σ β}

/-- **What a step can fail with**: each of its faults satisfies `P`. -/
def Raises (P : Fault → Prop) (f : Step σ α) : Prop :=
  ∀ s fault s', f s = .error fault s' → P fault

namespace Raises

variable {P Q : Fault → Prop}

theorem mono (h : Raises P f) (hPQ : ∀ fault, P fault → Q fault) : Raises Q f :=
  fun s fault s' hf => hPQ fault (h s fault s' hf)

theorem of_pure (a : α) : Raises P (pure a : Step σ α) :=
  fun _ _ _ => nofun

theorem of_throw {fault : Fault} (h : P fault) :
    Raises P (throw fault : Step σ α) := by
  rintro s _ s' ⟨⟩
  exact h

/-- A sequence can fail with what its parts can. -/
theorem bind (hf : Raises P f) (hg : ∀ a, Raises P (g a)) :
    Raises P (f >>= g) := by
  intro s fault s' h
  cases hs : f s with
  | ok a s'' =>
    rw [bind_of_ok hs] at h
    exact hg a s'' fault s' h
  | error fault' s'' =>
    rw [bind_of_error hs] at h
    cases h
    exact hf s fault s' hs

end Raises

end Step

/-! ## Tokens -/

/-- The value of a number token is refused only if it does not fit. -/
theorem Token.tooLarge_of_literalValue {t : Token} {fault : Fault}
    (ht : t.IsDecimal) (hk : t.kind = .number)
    (h : literalValue t.text t.pos = .error fault) :
    ¬t.FitsWord ∧ fault = .literalTooLarge t.text t.pos := by
  rw [Literal.literalValue_eq (ht hk)] at h
  by_cases hfit : (Literal.decimal t.text : Int) ≤ Word.greatest
  · rw [if_pos hfit] at h
    nomatch h
  · rw [if_neg hfit] at h
    cases h
    exact ⟨fun h => hfit (h hk), rfl⟩

/-- **Why a token is refused.** -/
inductive Token.Refused (t : Token) : Fault → Prop
  | unexpected : Refused t (.unexpectedToken t)
  | unmatched (o : Opener) : Refused t (.unmatchedCloser t o)
  | tooLarge : ¬t.FitsWord → Refused t (.literalTooLarge t.text t.pos)

namespace Token.Refused

variable {t : Token} {fault : Fault}

/-- The fault is reported at the token. -/
theorem pos?_eq (h : t.Refused fault) : fault.pos? = some t.pos := by
  cases h <;> rfl

/-- A token that fits is refused for where it stands. -/
theorem kind_eq (h : t.Refused fault) (ht : t.FitsWord) :
    fault.kind = .grammar := by
  cases h with
  | unexpected | unmatched => rfl
  | tooLarge hfit => exact absurd ht hfit

end Token.Refused

/-- The texts of a listing grow by those of the instructions added. -/
theorem Listing.texts_extend (l : Listing) (program : List Instruction) :
    (l.extend program).texts = l.texts ++ program.map Instruction.text := by
  rw [texts, toList_instructions_extend, List.map_append, texts]

/-- By their codes, if these are operations. -/
theorem Listing.texts_extend_apply (l : Listing) (ops : List Operation) :
    (l.extend (ops.map .apply)).texts = l.texts ++ ops.map Operation.code := by
  rw [texts_extend, List.map_map]
  rfl

/-! ## What binds tighter, and the innermost group -/

namespace Pending

/-- The operations that wait above the topmost opener, topmost first. -/
def operations (pending : List Pending) : List Operation :=
  (pending.takeWhile (!·.isOpener)).filterMap operation?

/-- The entries from the topmost opener down. -/
def outer (pending : List Pending) : List Pending :=
  pending.dropWhile (!·.isOpener)

/-- Whether an entry binds tighter than a class. -/
def tighterThan (c : Precedence) (e : Pending) : Bool :=
  e.precedence.rank < c.rank

/-- Every operator binds tighter than an opener. -/
theorem tighterThan_opener : tighterThan .opener = (!·.isOpener) := by
  funext e
  cases e with
  | opener o pos => rfl
  | operator op pos =>
    have hle : op.precedence.rank ≤ Parser.groupLimit :=
      Nat.not_lt.mp fun h => op.precedence_ne_opener (Precedence.eq_opener_of_lt h)
    exact decide_eq_true (Nat.lt_succ_of_le hle)

end Pending

namespace Parser

variable {p p' : Parser Listing} {t : Token} {fault : Fault}

/-- A machine that refuses nothing lets everything pending be carried out. -/
theorem exists_settle (limit : Nat) (p : Parser Listing) :
    ∃ p', settle limit p = .ok () p' := by
  obtain ⟨rest, program, hsettle, -⟩ :=
    settleStack_eq_replay limit p.pending p.machine p.machine
  exact ⟨⟨_, rest, _, _⟩, by rw [settle, hsettle]⟩

/-- **Settling writes operations down** and takes their entries away, as long
as they bind tighter than the class `c`, whose limit is one tighter. -/
theorem settleStack_eq {c : Precedence} {limit : Nat} (hc : c.rank = limit + 1)
    (pending : List Pending) (l : Listing) :
    settleStack limit pending l
      = .ok () (pending.dropWhile (Pending.tighterThan c),
          l.extend (((pending.takeWhile (Pending.tighterThan c)).filterMap
            Pending.operation?).map .apply)) := by
  induction pending generalizing l with
  | nil => rfl
  | cons e pending ih =>
    cases e with
    | opener o pos =>
      have hout : ¬Pending.tighterThan c (.opener o pos) = true := by
        cases c <;> exact Bool.false_ne_true
      rw [List.dropWhile_cons_of_neg hout, List.takeWhile_cons_of_neg hout]
      rfl
    | operator op pos =>
      have hiff : Pending.tighterThan c (.operator op pos) = true
          ↔ op.precedence.rank ≤ limit := by
        rw [Pending.tighterThan, decide_eq_true_iff, hc]
        exact Nat.lt_succ_iff
      by_cases hop : op.precedence.rank ≤ limit
      · rw [List.dropWhile_cons_of_pos (hiff.mpr hop),
          List.takeWhile_cons_of_pos (hiff.mpr hop), settleStack, if_pos hop]
        exact ih (l.apply op)
      · rw [List.dropWhile_cons_of_neg (mt hiff.mp hop),
          List.takeWhile_cons_of_neg (mt hiff.mp hop), settleStack, if_neg hop]
        rfl

theorem settle_tighter {c : Precedence} {limit : Nat} (hc : c.rank = limit + 1)
    (p : Parser Listing) :
    settle limit p = .ok () { p with
      pending := p.pending.dropWhile (Pending.tighterThan c)
      machine := p.machine.extend
        (((p.pending.takeWhile (Pending.tighterThan c)).filterMap
          Pending.operation?).map .apply) } := by
  rw [settle, settleStack_eq hc]

/-- Settling a group takes the entries away down to its opener. -/
theorem settleStack_groupLimit (pending : List Pending) (l : Listing) :
    settleStack groupLimit pending l
      = .ok () (Pending.outer pending,
          l.extend ((Pending.operations pending).map .apply)) := by
  have hlimit : Precedence.opener.rank = groupLimit + 1 := rfl
  rw [settleStack_eq hlimit, Pending.tighterThan_opener]
  rfl

/-- **The parse with its innermost group settled.** -/
def settled (p : Parser Listing) : Parser Listing :=
  { p with
    pending := Pending.outer p.pending
    machine := p.machine.extend ((Pending.operations p.pending).map .apply) }

theorem settle_eq (p : Parser Listing) : settle groupLimit p = .ok () p.settled := by
  rw [settle, settleStack_groupLimit]
  rfl

/-- **A settled group stays as it is.** -/
theorem settle_settled (p : Parser Listing) :
    settle groupLimit p.settled = .ok () p.settled := by
  have hclosed : Closed p.settled.pending :=
    closed_of_settleStack (settleStack_groupLimit p.pending p.machine)
  rw [settle, settleStack_of_closed hclosed]

/-- The texts of the operations are what settling adds to a listing. -/
theorem texts_settled (p : Parser Listing) :
    p.settled.machine.texts
      = p.machine.texts ++ (Pending.operations p.pending).map Operation.code :=
  Listing.texts_extend_apply _ _

/-! ## Closers -/

/-- A closer that is refused leaves the group settled. -/
theorem eq_settled_of_close {o : Opener} (h : close o t p = .error fault p') :
    fault = .unmatchedCloser t o ∧ p' = p.settled := by
  rw [close_eq (settle_eq p)] at h
  split at h
  · split at h <;> cases h
    exact ⟨rfl, rfl⟩
  · cases h
    exact ⟨rfl, rfl⟩

/-- A closer finds the same, whether the group was settled before or not. -/
theorem close_settled (o : Opener) (t : Token) (p : Parser Listing) :
    close o t p.settled = close o t p := by
  rw [close_eq (settle_settled p), close_eq (settle_eq p)]

/-! ## Refusals -/

/-- **How a token is refused** in the state `p`, with the fault and the state
that is left behind: the same one, or `p` settled if the token is a closer. -/
inductive Rejects (t : Token) (p : Parser Listing) : Fault → Parser Listing → Prop
  | unexpected : Rejects t p (.unexpectedToken t) p
  | tooLarge : ¬t.FitsWord → Rejects t p (.literalTooLarge t.text t.pos) p
  | paren : t.kind = .closeParen → Rejects t p (.unmatchedCloser t .paren) p.settled
  | colon : t.kind = .colon → Rejects t p (.unmatchedCloser t .question) p.settled

/-- Where an operand is awaited, a token is refused before anything is
done. -/
theorem rejects_acceptOperand (ht : t.IsDecimal) (p : Parser Listing) :
    ∀ fault p', acceptOperand t p = .error fault p' →
      Rejects t p fault p' ∧ p' = p := by
  refine acceptOperand_cases
    (motive := fun f => ∀ fault p', f p = .error fault p' →
      Rejects t p fault p' ∧ p' = p) t
    ?number ?refused ?name ?group ?before ?unexpected
  case number => exact fun _ _ _ _ _ => nofun
  case refused =>
    rintro fault hk hv _ _ ⟨⟩
    obtain ⟨hfit, rfl⟩ := Token.tooLarge_of_literalValue ht hk hv
    exact ⟨.tooLarge hfit, rfl⟩
  case name => exact fun _ _ _ => nofun
  case group => exact fun _ _ _ => nofun
  case before => exact fun _ _ _ _ => nofun
  case unexpected =>
    rintro _ _ ⟨⟩
    exact ⟨.unexpected, rfl⟩

/-- Where an operator is awaited, so is every token but a closer, and a closer
finds the same in the state that it leaves. -/
theorem rejects_acceptOperator (t : Token) (p : Parser Listing) :
    ∀ fault p', acceptOperator t p = .error fault p' →
      Rejects t p fault p' ∧ acceptOperator t p' = acceptOperator t p := by
  refine acceptOperator_cases
    (motive := fun f => ∀ fault p', f p = .error fault p' →
      Rejects t p fault p' ∧ f p' = f p) t
    ?group ?question ?colon ?after ?between ?unexpected
  case group =>
    intro hk fault p' h
    obtain ⟨rfl, rfl⟩ := eq_settled_of_close h
    exact ⟨.paren hk, close_settled _ _ _⟩
  case question =>
    intro _ fault p' h
    obtain ⟨q, hq⟩ := exists_settle (Precedence.conditional.rank - 1) p
    rw [Step.bind_of_ok hq] at h
    nomatch h
  case colon =>
    intro hk fault p' h
    cases hclose : close .question t p with
    | ok _ q =>
      rw [Step.bind_of_ok hclose] at h
      nomatch h
    | error fault' q =>
      rw [Step.bind_of_error hclose] at h
      cases h
      obtain ⟨rfl, rfl⟩ := eq_settled_of_close hclose
      refine ⟨.colon hk, ?_⟩
      rw [Step.bind_of_error hclose,
        Step.bind_of_error ((close_settled _ _ _).trans hclose)]
  case after => exact fun _ _ _ _ => nofun
  case between =>
    intro op _ _ _ fault p' h
    obtain ⟨q, hq⟩ := exists_settle op.precedence.reach p
    rw [Step.bind_of_ok hq] at h
    nomatch h
  case unexpected =>
    rintro _ _ ⟨⟩
    exact ⟨.unexpected, rfl⟩

/-- A refusal changes what the parse holds, not what it awaits. -/
theorem Rejects.awaiting_eq (h : Rejects t p fault p') :
    p'.awaiting = p.awaiting ∧ p'.started = p.started := by
  cases h <;> exact ⟨rfl, rfl⟩

/-- **A refusal is final**: the token is refused once more, and the state
stays. -/
theorem rejects_feed (ht : t.IsDecimal) (h : feed t p = .error fault p') :
    Rejects t { p with started := true } fault p' ∧
      feed t p' = .error fault p' := by
  obtain ⟨l, pending, _ | _, started⟩ := p
  · obtain ⟨hrejects, rfl⟩ := rejects_acceptOperand ht _ _ _ h
    exact ⟨hrejects, h⟩
  · obtain ⟨hrejects, hagain⟩ := rejects_acceptOperator t _ _ _ h
    obtain ⟨l', pending', awaiting', started'⟩ := p'
    obtain ⟨rfl, rfl⟩ : awaiting' = .operator ∧ started' = true :=
      hrejects.awaiting_eq
    exact ⟨hrejects, hagain.trans h⟩

theorem Rejects.refused (h : Rejects t p fault p') : t.Refused fault := by
  cases h with
  | unexpected => exact .unexpected
  | tooLarge hfit => exact .tooLarge hfit
  | paren | colon => exact .unmatched _

/-- **A token is refused for one of three reasons**, in any state of the
parse. -/
theorem raises_feed (ht : t.IsDecimal) :
    Step.Raises t.Refused (feed t : Step (Parser Listing) Unit) :=
  fun _ _ _ h => (rejects_feed ht h).1.refused

end Parser

/-- **What a refused token leaves behind.** In every state of a parse, and so
in every state that tokens lead to, those that it refused among them: a token
that cannot stand where it does, or that is too large a number, changes
neither what is pending nor what was sent. A closer without its opener takes
away what is pending down to the topmost opener, or all of it if there is
none, and the codes of the operations taken away are written down, topmost
first. What is awaited stays the same, and the same token is refused again,
with the same fault and without any further effect. -/
theorem refused_token_leaves {t : Token} (ht : t.IsDecimal)
    {p p' : Parser Listing} {fault : Fault}
    (h : Parser.feed t p = .error fault p') :
    ((fault = .unexpectedToken t ∨
          ¬t.FitsWord ∧ fault = .literalTooLarge t.text t.pos) ∧
        p'.pending = p.pending ∧ p'.machine = p.machine ∨
      (t.kind = .closeParen ∧ fault = .unmatchedCloser t .paren ∨
          t.kind = .colon ∧ fault = .unmatchedCloser t .question) ∧
        p'.pending = p.pending.dropWhile (!·.isOpener) ∧
        p'.machine.texts = p.machine.texts
          ++ ((p.pending.takeWhile (!·.isOpener)).filterMap
              Pending.operation?).map Operation.code) ∧
      p'.awaiting = p.awaiting ∧ Parser.feed t p' = .error fault p' := by
  obtain ⟨hrejects, hagain⟩ := Parser.rejects_feed ht h
  refine ⟨?_, hrejects.awaiting_eq.1, hagain⟩
  cases hrejects with
  | unexpected => exact .inl ⟨.inl rfl, rfl, rfl⟩
  | tooLarge hfit => exact .inl ⟨.inr ⟨hfit, rfl⟩, rfl, rfl⟩
  | paren hk => exact .inr ⟨.inl ⟨hk, rfl⟩, rfl, Parser.texts_settled _⟩
  | colon hk => exact .inr ⟨.inr ⟨hk, rfl⟩, rfl, Parser.texts_settled _⟩

/-- The line `a ? ) b + c * d`, whose first `)` is refused. -/
def straySource : List Token :=
  [⟨.name, "a", 0⟩, ⟨.question, "?", 2⟩, ⟨.closeParen, ")", 4⟩, ⟨.name, "b", 6⟩,
    ⟨.plus, "+", 8⟩, ⟨.name, "c", 10⟩, ⟨.star, "*", 12⟩, ⟨.name, "d", 14⟩]

/-- Behind it another `)` settles what stands above the `?`, and no more. -/
theorem refused_token_leaves_stray :
    let t : Token := ⟨.closeParen, ")", 16⟩
    ∃ p', Parser.feed t ((Parser.start Listing.empty).attempt straySource)
        = .error (.unmatchedCloser t .paren) p' ∧
      p'.pending = [.opener .question 2] ∧
      p'.machine.texts = ["a", "b", "c", "d", "*", "+"] ∧
      Parser.feed t p' = .error (.unmatchedCloser t .paren) p' := by
  intro t
  obtain ⟨p', h⟩ : ∃ p',
      Parser.feed t ((Parser.start Listing.empty).attempt straySource)
        = .error (.unmatchedCloser t .paren) p' :=
    ⟨_, rfl⟩
  obtain ⟨⟨hfault, -⟩ | ⟨-, hpending, htexts⟩, -, hagain⟩ :=
    refused_token_leaves (t := t) (by decide) h
  · simp at hfault
  · exact ⟨p', h, hpending, htexts, hagain⟩

end Abacus
