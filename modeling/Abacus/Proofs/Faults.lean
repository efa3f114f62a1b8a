import Abacus.Proofs.Atomicity
import Abacus.Proofs.Checked.Simulation
import Abacus.Proofs.Refusal

/-!
# The faults of a line

A line has a value, or it ends with a fault that says what is wrong with it:
a stray character, a number that is too large, a token out of place, an
undefined name, a value where a variable is wanted, a division by zero. Three
faults say that something is wrong with the calculator instead: a number that
cannot be read, an operation that lacks an operand, a line that does not leave
exactly one operand (`Fault.IsOrdinary` excludes them). The first two never
happen, and the third only for a line of white space; and of the checks of
the program none ever fails (`evaluate_faults`).

Numbers can be read because a scan yields decimal ones. Operands are never
wanting because they are counted: what is sent to the calculator is supplied
with operands at every operation (`Listing.Supplied`), and run on such
instructions, whatever the environment, the calculator holds as many operands
as were counted (`leaves_run`).
-/

namespace Abacus

/-- **A fault of the line, not of the calculator.** -/
def Fault.IsOrdinary : Fault → Prop
  | .unreadableNumber .. | .operandMissing | .noSingleResult => False
  | _ => True

theorem Fault.IsOrdinary.kind_ne {fault : Fault} (h : fault.IsOrdinary) :
    fault.kind ≠ .numeral := by
  cases fault with
  | unreadableNumber => exact h.elim
  | _ => exact Kind.noConfusion

open Fault Step

/-! ## The calculator -/

/-- An operation that finds its operands is refused for their values. -/
theorem Fault.Refuses.isOrdinary {n : Nat} {stack : List Operand} {fault : Fault}
    (h : fault.Refuses n stack) (hle : n ≤ stack.length) : fault.IsOrdinary := by
  cases h with
  | operandMissing hlt => exact absurd hle (not_le.mpr hlt)
  | _ => trivial

/-- **A run that goes well, as far as operands are concerned**: it leaves `n`
of them, or it ends with an ordinary fault. -/
def Leaves (n : Nat) : EStateM.Result Fault Calculator Unit → Prop
  | .ok _ c => c.stack.length = n
  | .error fault _ => fault.IsOrdinary

namespace Leaves

/-- **An operation that finds its operands** leaves one for all of them. -/
theorem of_arity {op : Operation} {c : Calculator}
    (h : op.arity ≤ c.stack.length) :
    Leaves (c.stack.length - op.arity + 1)
      ((Machine.step (.apply op) : Step Calculator Unit) c) := by
  show Leaves _ (Calculator.apply op c)
  cases happly : Calculator.apply op c with
  | ok _ c' =>
    obtain ⟨taken, rest, v, hstack, hlen, hstack', -⟩ :=
      Calculator.exists_of_apply_eq_ok happly
    show c'.stack.length = _
    rw [hstack', hstack, List.length_append, hlen, Nat.add_sub_cancel_left,
      List.length_cons]
  | error fault c' =>
    exact (Calculator.exists_of_apply_eq_error happly).1.isOrdinary h

/-- One more instruction, after a program that went well. -/
theorem concat {n m : Nat} {program : List Instruction} {i : Instruction}
    {c : Calculator} (h : Leaves n ((Machine.run program : Step _ Unit) c))
    (hi : ∀ c : Calculator, c.stack.length = n →
      Leaves m ((Machine.step i : Step _ Unit) c)) :
    Leaves m ((Machine.run (program ++ [i]) : Step _ Unit) c) := by
  cases hr : (Machine.run program : Step Calculator Unit) c with
  | ok _ c' =>
    rw [hr] at h
    rw [Machine.run_append_of_ok hr, Machine.run_singleton]
    exact hi c' h
  | error fault c' =>
    rw [hr] at h
    rw [Machine.run_append_of_error hr]
    exact h

end Leaves

/-- **A supplied listing runs well**: on any environment, the calculator holds
as many operands as the listing has counted. -/
theorem leaves_run {l : Listing} (h : l.Supplied) (env : Environment) :
    ∃ n : Nat, l.depth = n ∧
      Leaves n ((Machine.run l.instructions.toList : Step Calculator Unit)
        (.start env)) := by
  induction h with
  | empty => exact ⟨0, rfl, rfl⟩
  | @push l x _ ih =>
    obtain ⟨n, hn, hrun⟩ := ih
    refine ⟨n + 1, congrArg (· + 1) hn, ?_⟩
    rw [Listing.push, Array.toList_push]
    exact hrun.concat fun c hc => congrArg (· + 1) hc
  | @apply l op hdepth _ ih =>
    obtain ⟨n, hn, hrun⟩ := ih
    have harity := op.arity_pos
    have hle : op.arity ≤ n := by omega
    refine ⟨n - op.arity + 1, ?_, ?_⟩
    · show l.depth - (op.arity - 1) = _
      omega
    · rw [Listing.apply, Array.toList_push]
      refine hrun.concat fun c hc => ?_
      subst hc
      exact .of_arity hle

/-! ## The parser -/

theorem Token.Refused.isOrdinary {t : Token} {fault : Fault}
    (h : t.Refused fault) : fault.IsOrdinary := by
  cases h <;> trivial

namespace Parser

theorem raises_forM_feed {ts : List Token} (hts : ∀ t ∈ ts, t.IsDecimal) :
    Raises IsOrdinary (ts.forM feed : Step (Parser Listing) Unit) := by
  induction ts with
  | nil => exact .of_pure ()
  | cons t ts ih =>
    obtain ⟨ht, hts⟩ := List.forall_mem_cons.mp hts
    exact ((raises_feed ht).mono fun _ => Token.Refused.isOrdinary).bind
      fun _ => ih hts

theorem raises_finish :
    Raises IsOrdinary (finish : Step (Parser Listing) Unit) := by
  intro p fault p' h
  rw [finish_eq] at h
  split at h
  · cases h
    trivial
  · obtain ⟨q, hq⟩ := exists_settle groupLimit p
    rw [release_eq hq] at h
    split at h <;> cases h
    trivial

/-- **A parse fails with ordinary faults only**, since a scan yields decimal
numbers only. -/
theorem raises_parse (source : String) :
    Raises IsOrdinary (parse source : Step (Parser Listing) Unit) := by
  refine .bind (.bind (raises_forM_feed fun t ht => ?_) fun _ => ?_)
    fun _ => raises_finish
  · exact (Scan.isLexeme_of_mem ht).1
  · split
    · exact .of_throw trivial
    · exact .of_pure ()

theorem counted_forM_feed {p : Parser Listing} (ts : List Token)
    (h : p.Counted) :
    (reached ((ts.forM feed : Step (Parser Listing) Unit) p)).Counted := by
  induction ts generalizing p with
  | nil => exact h
  | cons t ts ih => exact reached_bind (counted_feed t h.counts) fun _ _ => ih

/-- **A parse keeps count to the end of the line**, however it ends. -/
theorem supplied_parse (source : String) :
    let r := (parse source : Step (Parser Listing) Unit) (start .empty)
    (reached r).machine.Supplied ∧ ∀ p, r = .ok () p →
      (Scan.ofString source).tokens ≠ [] → p.machine.depth = 1 := by
  unfold parse feedAll
  generalize Scan.ofString source = s
  obtain ⟨_ | ⟨t, ts⟩, stray?⟩ := s
  · refine ⟨?_, fun _ _ hne => absurd rfl hne⟩
    cases stray? <;> exact .empty
  · have hq : (reached (((t :: ts).forM feed : Step (Parser Listing) Unit)
        (start .empty))).Counted :=
      reached_bind (counted_feed t counts_start) fun _ _ => counted_forM_feed ts
    cases hr : ((t :: ts).forM feed : Step (Parser Listing) Unit)
        (start .empty) with
    | error fault q =>
      rw [hr] at hq
      rw [bind_of_error (bind_of_error hr)]
      exact ⟨hq.counts.supplied, nofun⟩
    | ok _ q =>
      rw [hr] at hq
      rw [bind_assoc, bind_of_ok hr]
      cases stray? with
      | some stray => exact ⟨hq.counts.supplied, nofun⟩
      | none =>
        obtain ⟨hsupplied, hend⟩ := counted_finish hq
        exact ⟨hsupplied, fun p hp _ => (hend p hp).2⟩

end Parser

/-! ## Lines -/

/-- The one operand that is left has a value, or it is the name of a variable
that has none. -/
theorem raises_result {c : Calculator} (hc : c.stack.length = 1)
    {fault : Fault} {c' : Calculator}
    (h : Calculator.result c = .error fault c') : fault.IsOrdinary := by
  have htakes := Calculator.Taking.popValue c
  have hresult : Calculator.result c = Calculator.popValue c := by
    show (if c.stack.length = 1 then Calculator.popValue else _ : Step Calculator Int) c = _
    rw [if_pos hc]
  rw [← hresult, h] at htakes
  obtain - | ⟨taken, hstack, hlen, hfault⟩ := htakes
  exact hfault.isOrdinary hc.ge

theorem eq_error_of_outcome {r : EStateM.Result Fault Calculator Int}
    {fault : Fault} (h : (Evaluation.ofResult r).outcome = .error fault) :
    ∃ c, r = .error fault c := by
  cases r with
  | ok => cases h
  | error fault' c =>
    cases h
    exact ⟨c, rfl⟩

/-- **A line that has tokens ends with a value or with an ordinary fault.** -/
theorem isOrdinary_of_outcome {source : String} {env : Environment}
    {fault : Fault} (h : (evaluate source env).outcome = .error fault) :
    fault.IsOrdinary ∨ Scan.ofString source = .empty := by
  change (evaluateOn (.start env) source).outcome = _ at h
  rw [evaluateOn_eq_replay] at h
  obtain ⟨hsupplied, hdepth⟩ := Parser.supplied_parse source
  obtain ⟨n, hn, hrun⟩ := leaves_run hsupplied env
  unfold Recording.replay Recording.ofSource at h
  dsimp only at h
  cases hr : (Machine.run _ : Step Calculator Unit) (.start env) with
  | error fault' c =>
    rw [hr] at h hrun
    cases h
    exact .inl hrun
  | ok _ c =>
    rw [hr] at h hrun
    cases hparse : (Parser.parse source : Step (Parser Listing) Unit)
        (Parser.start .empty) with
    | error fault' p =>
      rw [hparse] at h
      cases h
      exact .inl (Parser.raises_parse source _ _ _ hparse)
    | ok _ p =>
      rw [hparse] at h hn
      by_cases hts : (Scan.ofString source).tokens = []
      · exact .inr (Scan.eq_empty hts (line_of_parse hparse).1)
      · have hone : n = 1 := by
          have := hdepth p hparse hts
          change p.machine.depth = n at hn
          omega
        obtain ⟨c', hresult⟩ := eq_error_of_outcome h
        exact .inl (raises_result (hone ▸ hrun) hresult)

/-- A line without tokens has no value. -/
theorem outcome_of_empty {source : String} (h : Scan.ofString source = .empty)
    (env : Environment) :
    (evaluate source env).outcome = .error .noSingleResult := by
  show (evaluateOn (.start env) source).outcome = _
  unfold evaluateOn Parser.parse
  rw [h]
  rfl

/-- **The faults of a line.** A line has a value, or it ends with a fault of
one of six families, on every environment; no check of the program fails, no
number cannot be read, and no operation lacks an operand. That there is not
exactly one operand at the end is a fault of those lines that hold no token
and no stray character, which are the lines of white space. -/
theorem evaluate_faults (source : String) (env : Environment) :
    Checked.evaluate source env = .ok (evaluate source env) ∧
      (∀ fault, (evaluate source env).outcome = .error fault →
        fault.kind ∈ [.lexical, .overflow, .grammar, .undefined, .target,
            .division] ∧
          fault ≠ .operandMissing) ∧
      ((evaluate source env).outcome = .error .noSingleResult ↔
        Scan.ofString source = .empty) ∧
      (Scan.ofString source = .empty ↔
        ∀ c ∈ source.toList, Text.isBlank c = true) := by
  refine ⟨Checked.evaluate_eq source env, ?_, ?_, ?_⟩
  · intro fault h
    rcases isOrdinary_of_outcome h with hfault | hempty
    · constructor
      · cases hk : fault.kind with
        | numeral => exact absurd hk hfault.kind_ne
        | _ => decide
      · rintro rfl
        exact hfault
    · rw [outcome_of_empty hempty] at h
      cases h
      exact ⟨by decide, nofun⟩
  · constructor
    · intro h
      rcases isOrdinary_of_outcome h with hfault | hempty
      · exact hfault.elim
      · exact hempty
    · exact fun h => outcome_of_empty h env
  · exact Scan.ofChars_eq_empty_iff 0 source.toList

end Abacus
