import Abacus.Proofs.Replay

/-!
# Two runs of one parse

The parser never looks at the machine that it drives. Two parses of one line,
on machines that answer alike, therefore go on side by side: they have the
same entries pending, they take or refuse the same tokens, and they send the
same instructions, until the line ends or both machines refuse the same
operation.

How the machines are related is left to whoever relates them. It is enough
that the relation is kept by the instructions that the line can send; and
those are drawn from its tokens, an operand from a number or a name and an
operation from the operator that it is written with
(`Instruction.DrawnFrom`). The relation of the machines then becomes one of
the parses (`Parser.Related`), which every token keeps
(`Parser.lockstep_feed`), and so does a line (`Parser.lockstep_parse`).

As in the comparison with a listing, what is compared are the outcomes of
steps, faults included, and the comparison is kept by sequencing
(`Step.Lockstep`).
-/

namespace Abacus

/-! ## Steps in lockstep -/

namespace Step

variable {α β σ τ : Type} {R : σ → τ → Prop} {Q : α → Prop} {S : β → Prop}

/-- **Outcomes in lockstep**: the same result, of which `Q` holds, or the
same fault, and in either case states that `R` relates. -/
inductive SameOutcome (R : σ → τ → Prop) (Q : α → Prop) :
    EStateM.Result Fault σ α → EStateM.Result Fault τ α → Prop
  | ok {a : α} {s : σ} {t : τ} : Q a → R s t → SameOutcome R Q (.ok a s) (.ok a t)
  | error {fault : Fault} {s : σ} {t : τ} :
      R s t → SameOutcome R Q (.error fault s) (.error fault t)

/-- **Steps in lockstep**: from related states they have outcomes in
lockstep. -/
def Lockstep (R : σ → τ → Prop) (Q : α → Prop) (f : Step σ α) (g : Step τ α) :
    Prop :=
  ∀ s t, R s t → SameOutcome R Q (f s) (g t)

theorem SameOutcome.reached {r : EStateM.Result Fault σ α}
    {r' : EStateM.Result Fault τ α} (h : SameOutcome R Q r r') :
    R (reached r) (reached r') := by
  cases h with
  | ok _ hR => exact hR
  | error hR => exact hR

namespace Lockstep

variable {f : Step σ α} {g : Step τ α} {f' : α → Step σ β} {g' : α → Step τ β}

/-- Steps in lockstep can be put in sequence. -/
theorem bind (h : Lockstep R Q f g)
    (h' : ∀ a, Q a → Lockstep R S (f' a) (g' a)) :
    Lockstep R S (f >>= f') (g >>= g') := by
  intro s t hst
  have hstep := h s t hst
  show SameOutcome R S (EStateM.bind f f' s) (EStateM.bind g g' t)
  unfold EStateM.bind
  generalize f s = r, g t = r' at hstep
  cases hstep with
  | ok ha hR => exact h' _ ha _ _ hR
  | error hR => exact .error hR

theorem of_pure {a : α} (h : Q a) :
    Lockstep R Q (pure a : Step σ α) (pure a : Step τ α) :=
  fun _ _ hR => .ok h hR

theorem of_throw (fault : Fault) :
    Lockstep R Q (throw fault : Step σ α) (throw fault : Step τ α) :=
  fun _ _ hR => .error hR

theorem of_modify {f : σ → σ} {g : τ → τ} {P : Unit → Prop} (hP : P ())
    (h : ∀ s t, R s t → R (f s) (g t)) :
    Lockstep R P (modify f) (modify g) :=
  fun s t hR => .ok hP (h s t hR)

/-- Steps that look at the state first, from states that they have not yet
left. -/
theorem of_get_bind {f : σ → Step σ α} {g : τ → Step τ α}
    (h : ∀ s t, R s t → SameOutcome R Q (f s s) (g t t)) :
    Lockstep R Q (get >>= f) (get >>= g) :=
  h

end Lockstep

end Step

open Step

/-! ## The parser -/

/-- **What a token has sent to the machine**, now or later: its value, its
name, or an operation that is written with it. -/
inductive Instruction.DrawnFrom (t : Token) : Instruction → Prop
  | literal {v : Int} : t.kind = .number → literalValue t.text t.pos = .ok v →
      DrawnFrom t (.push (.literal v))
  | name : t.kind = .name → DrawnFrom t (.push (.name t.text))
  | operation {op : Operation} : op.symbol = t.kind → DrawnFrom t (.apply op)

/-- An entry whose operation, if it has one, is admitted. -/
def Pending.Admitted (I : Instruction → Prop) : Pending → Prop
  | .opener .. => True
  | .operator op _ => I (.apply op)

namespace Parser

variable {μ : Type} {R : μ → μ → Prop} {I : Instruction → Prop}

/-- **Two parses that differ in their machines only.** The machines are
related, and what is pending is admitted. -/
inductive Related (R : μ → μ → Prop) (I : Instruction → Prop) :
    Parser μ → Parser μ → Prop
  | mk {m m' : μ} {pending : List Pending} {awaiting : Awaiting}
      {started : Bool} : R m m' → (∀ e ∈ pending, e.Admitted I) →
      Related R I ⟨m, pending, awaiting, started⟩ ⟨m', pending, awaiting, started⟩

/-- Two runs of a step of the parser, on machines that are related. -/
abbrev InLockstep (R : μ → μ → Prop) (I : Instruction → Prop)
    (f : Step (Parser μ) Unit) : Prop :=
  Lockstep (Related R I) (fun _ => True) f f

theorem lockstep_shift {e : Pending} (he : e.Admitted I) :
    InLockstep R I (shift e) := by
  refine .of_modify trivial ?_
  rintro _ _ ⟨hR, hpending⟩
  exact ⟨hR, List.forall_mem_cons.mpr ⟨he, hpending⟩⟩

theorem lockstep_await (a : Awaiting) : InLockstep R I (await a) := by
  refine .of_modify trivial ?_
  rintro _ _ ⟨hR, hpending⟩
  exact ⟨hR, hpending⟩

variable [Machine μ]

/-- The instructions that are admitted keep the machines related. -/
abbrev Admits (R : μ → μ → Prop) (I : Instruction → Prop) : Prop :=
  ∀ i, I i → Lockstep R (fun _ => True) (Machine.step i) (Machine.step i)

section Admitted

variable (hI : Admits R I)

include hI

theorem lockstep_push {x : Operand} (hx : I (.push x)) :
    InLockstep R I (push x) := by
  refine .of_modify trivial ?_
  rintro _ _ ⟨hR, hpending⟩
  exact ⟨(hI _ hx _ _ hR).reached, hpending⟩

theorem lockstep_apply {op : Operation} (hop : I (.apply op)) :
    Lockstep R (fun _ => True) (Machine.apply op : Step μ Unit) (Machine.apply op) :=
  hI _ hop

theorem lockstep_perform {op : Operation} (hop : I (.apply op)) :
    InLockstep R I (perform op) := by
  rintro ⟨m, pending, _, _⟩ ⟨m', _, _, _⟩ ⟨hR, hpending⟩
  have happly := lockstep_apply hI hop m m' hR
  unfold perform
  dsimp only
  generalize (Machine.apply op : Step μ Unit) m = r,
    (Machine.apply op : Step μ Unit) m' = r' at happly ⊢
  cases happly with
  | ok _ hR' => exact .ok trivial ⟨hR', hpending⟩
  | error hR' => exact .error ⟨hR', hpending⟩

/-- **A run of reductions**, by induction on the stack: the same entries are
carried out on both machines, and the rest is the same. -/
theorem lockstep_settleStack (limit : Nat) {pending : List Pending} {m m' : μ}
    (hR : R m m') (hpending : ∀ e ∈ pending, e.Admitted I) :
    SameOutcome
      (fun s t => t.1 = s.1 ∧ R s.2 t.2 ∧ ∀ e ∈ s.1, e.Admitted I)
      (fun _ => True) (settleStack limit pending m)
      (settleStack limit pending m') := by
  induction pending generalizing m m' with
  | nil => exact .ok trivial ⟨rfl, hR, hpending⟩
  | cons e pending ih =>
    obtain ⟨he, hrest⟩ := List.forall_mem_cons.mp hpending
    cases e with
    | opener o pos => exact .ok trivial ⟨rfl, hR, hpending⟩
    | operator op pos =>
      simp only [settleStack]
      by_cases hop : op.precedence.rank ≤ limit
      · simp only [if_pos hop]
        have happly := lockstep_apply hI he m m' hR
        generalize (Machine.apply op : Step μ Unit) m = r,
          (Machine.apply op : Step μ Unit) m' = r' at happly
        cases happly with
        | ok _ hR' => exact ih hR' hrest
        | error hR' => exact .error ⟨rfl, hR', hrest⟩
      · simp only [if_neg hop]
        exact .ok trivial ⟨rfl, hR, hpending⟩

theorem lockstep_settle (limit : Nat) : InLockstep R I (settle limit) := by
  rintro ⟨m, pending, _, _⟩ ⟨m', _, _, _⟩ ⟨hR, hpending⟩
  have hstack := lockstep_settleStack hI limit hR hpending
  unfold settle
  dsimp only
  generalize settleStack limit pending m = r,
    settleStack limit pending m' = r' at hstack ⊢
  rcases hstack with
    @⟨_, ⟨rest, n⟩, ⟨rest', n'⟩, -, h⟩ | @⟨_, ⟨rest, n⟩, ⟨rest', n'⟩, h⟩
  · obtain ⟨rfl, hR', hrest⟩ := h
    exact .ok trivial ⟨hR', hrest⟩
  · obtain ⟨rfl, hR', hrest⟩ := h
    exact .error ⟨hR', hrest⟩

theorem lockstep_close (o : Opener) (t : Token) :
    InLockstep R I (close o t) := by
  refine (lockstep_settle hI groupLimit).bind fun _ _ => .of_get_bind ?_
  rintro ⟨m, pending, _, _⟩ ⟨m', _, _, _⟩ ⟨hR, hpending⟩
  rcases pending with _ | ⟨⟨o', pos⟩ | _, rest⟩
  · exact .error ⟨hR, hpending⟩
  · show SameOutcome _ _ ((if o' = o then _ else _ : Step (Parser μ) Unit) _)
      ((if o' = o then _ else _ : Step (Parser μ) Unit) _)
    by_cases ho : o' = o
    · rw [if_pos ho]
      exact .ok trivial ⟨hR, (List.forall_mem_cons.mp hpending).2⟩
    · rw [if_neg ho]
      exact .error ⟨hR, hpending⟩
  · exact .error ⟨hR, hpending⟩

variable {t : Token} (ht : ∀ i, i.DrawnFrom t → I i)

include ht

theorem lockstep_acceptOperand : InLockstep R I (acceptOperand t) := by
  refine acceptOperand_cases (motive := InLockstep R I) t ?number ?refused ?name
    ?group ?before ?unexpected
  case number =>
    exact fun v hk hv => (lockstep_push hI (ht _ (.literal hk hv))).bind
      fun _ _ => lockstep_await _
  case refused => exact fun fault _ _ => .of_throw fault
  case name =>
    exact fun hk => (lockstep_push hI (ht _ (.name hk))).bind
      fun _ _ => lockstep_await _
  case group => exact fun _ => lockstep_shift trivial
  case before =>
    exact fun op hop => lockstep_shift
      (ht _ (.operation (Operation.symbol_of_before? hop)))
  case unexpected => exact .of_throw _

theorem lockstep_acceptOperator : InLockstep R I (acceptOperator t) := by
  have hshift {e : Pending} (he : e.Admitted I) :
      InLockstep R I (do shift e; await .operand) :=
    (lockstep_shift he).bind fun _ _ => lockstep_await _
  refine acceptOperator_cases (motive := InLockstep R I) t ?group ?question ?colon
    ?after ?between ?unexpected
  case group => exact fun _ => lockstep_close hI _ t
  case question =>
    exact fun _ => (lockstep_settle hI _).bind fun _ _ => hshift trivial
  case colon =>
    exact fun hk => (lockstep_close hI _ t).bind fun _ _ =>
      hshift (ht _ (.operation hk.symm))
  case after =>
    exact fun op hop => lockstep_perform hI
      (ht _ (.operation (Operation.symbol_of_after? hop)))
  case between =>
    exact fun op _ _ hop => (lockstep_settle hI _).bind fun _ _ =>
      hshift (ht _ (.operation (Operation.symbol_of_between? hop)))
  case unexpected => exact .of_throw _

/-- **A token is taken or refused alike** on both machines. -/
theorem lockstep_feed : InLockstep R I (feed t) := by
  refine Lockstep.bind (Q := fun _ => True) (.of_modify trivial ?_) fun _ _ =>
    .of_get_bind ?_
  · rintro _ _ ⟨hR, hpending⟩
    exact ⟨hR, hpending⟩
  · rintro ⟨m, _, _ | _, _⟩ ⟨m', _, _, _⟩ ⟨hR, hpending⟩
    · exact lockstep_acceptOperand hI ht _ _ ⟨hR, hpending⟩
    · exact lockstep_acceptOperator hI ht _ _ ⟨hR, hpending⟩

end Admitted

section Line

variable (hI : Admits R I)

include hI

theorem lockstep_forM_feed {ts : List Token}
    (hts : ∀ t ∈ ts, ∀ i, Instruction.DrawnFrom t i → I i) :
    InLockstep R I (ts.forM feed) := by
  induction ts with
  | nil => exact .of_pure trivial
  | cons t ts ih =>
    obtain ⟨ht, hrest⟩ := List.forall_mem_cons.mp hts
    exact (lockstep_feed hI ht).bind fun _ _ => ih hrest

theorem lockstep_release : InLockstep R I release := by
  refine (lockstep_settle hI groupLimit).bind fun _ _ => .of_get_bind ?_
  rintro ⟨m, pending, _, _⟩ ⟨m', _, _, _⟩ ⟨hR, hpending⟩
  rcases pending with _ | ⟨_ | _, rest⟩
  · exact .ok trivial ⟨hR, hpending⟩
  · exact .error ⟨hR, (List.forall_mem_cons.mp hpending).2⟩
  · exact .ok trivial ⟨hR, hpending⟩

theorem lockstep_finish : InLockstep R I finish := by
  rintro p p' h
  have hrelease := lockstep_release hI p p' h
  rw [finish_eq, finish_eq]
  obtain ⟨hR, hpending⟩ := h
  dsimp only
  split
  · exact .error ⟨hR, hpending⟩
  · exact hrelease

/-- **A line is parsed alike** on both machines, if all that its tokens can
send is admitted. -/
theorem lockstep_parse {source : String}
    (h : ∀ t ∈ (Scan.ofString source).tokens,
      ∀ i, Instruction.DrawnFrom t i → I i) :
    InLockstep R I (parse source) := by
  refine Lockstep.bind (Q := fun _ => True) ?_ fun _ _ => lockstep_finish hI
  refine (lockstep_forM_feed hI h).bind fun _ _ => ?_
  split
  · exact .of_throw _
  · exact .of_pure trivial

end Line

end Parser

end Abacus
