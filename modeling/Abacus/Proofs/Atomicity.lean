import Abacus.Proofs.Replay
import Abacus.Proofs.Semantics

/-!
# Operations are all or nothing

An operation takes its operands from the stack one after the other, and any
of them may stop it: there is no operand left, a name has no value, a value
stands where a name has to. Some operands are gone from the stack then, but
nothing else has happened, since every operation changes the environment last
and at once. An update that divides by zero has read its variable and stores
nothing.

So whatever the operands and the environment are, and not only where a line
has led to them, an operation that is refused leaves the environment as it
was; and one that succeeds has put its result in the place of as many
operands as it should have (`Operation.arity`), and has changed at most the
variable that the deepest of them names, which only operations with a target
do (`Operation.takesTarget`). This is what the calculator has in common with
a listing that counts operands without looking at them
(`operations_atomic`).

The operands that a step takes are told by a list, topmost first
(`Calculator.Takes`). The lists of successive steps are put one after the
other, so that the deepest operand is the last.
-/

namespace Abacus

/-- **What may change when operands are taken**: nothing, and for a step with a
target the variable that is named by the deepest operand. -/
inductive Environment.Changes (taken : List Operand) (before : Environment) :
    Bool → Environment → Prop
  | nothing : Changes taken before false before
  | target {x : String} {v : Int} : taken.getLast? = some (.name x) →
      Changes taken before true (before.bind x v)

/-- **Why an operation is refused** that takes `n` operands from a stack: one of
them is missing, a name has no value, a value stands where a name has to, or
the divisor is zero. -/
inductive Fault.Refuses (n : Nat) (stack : List Operand) : Fault → Prop
  | operandMissing : stack.length < n → Refuses n stack .operandMissing
  | undefined (x : String) : Refuses n stack (.undefined x)
  | targetExpected : Refuses n stack .targetExpected
  | divisionByZero : Refuses n stack .divisionByZero

namespace Fault.Refuses

variable {n m : Nat} {stack : List Operand} {fault : Fault}

theorem kind_mem (h : fault.Refuses n stack) :
    fault.kind ∈ [.grammar, .undefined, .target, .division] := by
  cases h with
  | undefined => exact (by decide : Kind.undefined ∈ [.grammar, .undefined, .target, .division])
  | _ => decide

theorem mono (h : fault.Refuses n stack) (hle : n ≤ m) : fault.Refuses m stack := by
  cases h with
  | operandMissing hlt => exact .operandMissing (hlt.trans_le hle)
  | undefined x => exact .undefined x
  | targetExpected => exact .targetExpected
  | divisionByZero => exact .divisionByZero

/-- What is wrong below operands that were taken is wrong with all of them. -/
theorem below (taken : List Operand) (h : fault.Refuses m stack) :
    fault.Refuses (taken.length + m) (taken ++ stack) := by
  cases h with
  | operandMissing hlt =>
    refine .operandMissing ?_
    rw [List.length_append]
    exact Nat.add_lt_add_left hlt _
  | undefined x => exact .undefined x
  | targetExpected => exact .targetExpected
  | divisionByZero => exact .divisionByZero

theorem of_read {env : Environment} {x : String} (h : env.read x = .error fault) :
    fault.Refuses n stack := by
  obtain ⟨-, rfl⟩ := Environment.eq_undefined_of_read h
  exact .undefined x

theorem of_eval {op : Arithmetic} {a b : Int} (h : op.eval a b = .error fault) :
    fault.Refuses n stack := by
  obtain rfl := Arithmetic.eq_divisionByZero_of_eval h
  exact .divisionByZero

end Fault.Refuses

namespace Calculator

variable {α β : Type} {n m : Nat} {targets : Bool} {c : Calculator}

/-! ## Steps that take operands -/

/-- **The outcome of taking `n` operands**, topmost first. If one of them
stops the step, it is the last that was taken, and the environment is as it
was. -/
inductive Takes (n : Nat) (targets : Bool) (c : Calculator) :
    EStateM.Result Fault Calculator α → Prop
  | ok {a : α} {rest : List Operand} {env : Environment} {journal : Array Event}
      (taken : List Operand) :
      c.stack = taken ++ rest → taken.length = n →
      Environment.Changes taken c.env targets env →
      Takes n targets c (.ok a ⟨rest, env, journal⟩)
  | error {fault : Fault} {rest : List Operand} {journal : Array Event}
      (taken : List Operand) :
      c.stack = taken ++ rest → taken.length ≤ n → fault.Refuses n c.stack →
      Takes n targets c (.error fault ⟨rest, c.env, journal⟩)

/-- **A step that takes `n` operands**, from whatever stack. -/
def Taking (n : Nat) (targets : Bool) (f : Step Calculator α) : Prop :=
  ∀ c, Takes n targets c (f c)

namespace Taking

variable {f : Step Calculator α} {g : α → Step Calculator β}

/-- Operands are taken in turn, as long as only the last step has a target. -/
theorem bind (hf : Taking n false f) (hg : ∀ a, Taking m targets (g a)) :
    Taking (n + m) targets (f >>= g) := by
  intro c
  have hc := hf c
  cases hfc : f c with
  | error fault c' =>
    rw [hfc] at hc
    rw [Step.bind_of_error hfc]
    obtain - | ⟨taken, hstack, hlen, hfault⟩ := hc
    exact .error taken hstack (hlen.trans (Nat.le_add_right n m))
      (hfault.mono (Nat.le_add_right n m))
  | ok a c' =>
    rw [hfc] at hc
    rw [Step.bind_of_ok hfc]
    obtain @⟨_, rest, _, journal, taken, hstack, rfl, ⟨⟩⟩ := hc
    have hc' := hg a ⟨rest, c.env, journal⟩
    generalize g a ⟨rest, c.env, journal⟩ = r at hc' ⊢
    cases hc' with
    | ok taken' hstack' hlen henv =>
      refine .ok (taken ++ taken') ?_ ?_ ?_
      · rw [hstack, List.append_assoc]
        exact congrArg _ hstack'
      · rw [List.length_append, hlen]
      · cases henv with
        | nothing => exact .nothing
        | target hlast => exact .target (by rw [List.getLast?_append, hlast, Option.some_or])
    | error taken' hstack' hlen hfault =>
      refine .error (taken ++ taken') ?_ ?_ (hstack ▸ hfault.below taken)
      · rw [hstack, List.append_assoc]
        exact congrArg _ hstack'
      · rw [List.length_append]
        exact Nat.add_le_add_left hlen _

theorem of_pure (a : α) : Taking 0 false (pure a) :=
  fun _ => .ok [] rfl rfl .nothing

/-- What is computed without the calculator takes nothing. -/
theorem of_ofExcept {r : Except Fault α}
    (h : ∀ fault stack, r = .error fault → fault.Refuses 0 stack) :
    Taking 0 false (ofExcept r) := by
  intro c
  cases r with
  | ok a => exact .ok [] rfl rfl .nothing
  | error fault => exact .error [] rfl le_rfl (h fault _ rfl)

theorem popValue : Taking 1 false popValue := by
  rintro ⟨_ | ⟨v | x, rest⟩, env, journal⟩
  · exact .error [] rfl (Nat.zero_le 1) (.operandMissing Nat.one_pos)
  · exact .ok [.literal v] rfl rfl .nothing
  · show Takes 1 false _ ((ofExcept (env.read x) : Step Calculator Int) ⟨rest, env, journal⟩)
    cases hread : env.read x with
    | ok v => exact .ok [.name x] rfl rfl .nothing
    | error fault =>
      exact .error [.name x] rfl le_rfl (.of_read hread)

end Taking

/-! ## Steps that change a variable -/

/-- **The outcome of changing a variable**: it is bound, or nothing happens. -/
inductive Binds (x : String) (c : Calculator) :
    EStateM.Result Fault Calculator α → Prop
  | ok {a : α} {v : Int} {journal : Array Event} :
      Binds x c (.ok a ⟨c.stack, c.env.bind x v, journal⟩)
  | error {fault : Fault} : fault.Refuses 0 c.stack →
      Binds x c (.error fault c)

/-- **A step that changes a variable** and takes no operands. -/
def Binding (x : String) (f : Step Calculator α) : Prop :=
  ∀ c, Binds x c (f c)

/-- What is made of the result makes no difference. -/
theorem Binding.map {x : String} {f : Step Calculator α} (h : Binding x f) (g : α → β) :
    Binding x (do return g (← f)) := by
  intro c
  have hc := h c
  cases hfc : f c with
  | error fault c' =>
    rw [hfc] at hc
    rw [Step.bind_of_error hfc]
    obtain - | hfault := hc
    exact .error hfault
  | ok a c' =>
    rw [hfc] at hc
    rw [Step.bind_of_ok hfc]
    obtain ⟨⟩ := hc
    exact .ok

theorem binding_bind (x : String) (v : Int) : Binding x (bind x v) := by
  intro c
  show Binds x c ((do
    unless c.env.contains x do note (.created x)
    modify fun c => { c with env := c.env.bind x v } : Step Calculator Unit) c)
  cases c.env.contains x with
  | true => exact .ok
  | false => exact .ok

/-- An update stores nothing unless its function has a value. -/
theorem binding_update (x : String) {f : Int → Except Fault Int}
    (hf : ∀ v fault stack, f v = .error fault → fault.Refuses 0 stack) :
    Binding x (update x f) := by
  intro c
  show Binds x c ((do
    let u ← ofExcept (c.env.update x f)
    modify fun c => { c with env := u.env }
    return (u.old, u.new) : Step Calculator (Int × Int)) c)
  rw [Environment.update_eq]
  cases hread : c.env.read x with
  | error fault => exact .error (.of_read hread)
  | ok old =>
    dsimp only
    cases hv : f old with
    | error fault => exact .error (hf old fault _ hv)
    | ok v => exact .ok

/-- **A step with a target** takes one operand, which names the variable. -/
theorem Taking.popTarget {f : String → Step Calculator α} (hf : ∀ x, Binding x (f x)) :
    Taking 1 true (do f (← popTarget)) := by
  rintro ⟨_ | ⟨v | x, rest⟩, env, journal⟩
  · exact .error [] rfl (Nat.zero_le 1) (.operandMissing Nat.one_pos)
  · exact .error [.literal v] rfl le_rfl .targetExpected
  · show Takes 1 true _ (f x ⟨rest, env, journal⟩)
    have hx := hf x ⟨rest, env, journal⟩
    generalize f x ⟨rest, env, journal⟩ = r at hx ⊢
    cases hx with
    | ok => exact .ok [.name x] rfl rfl (.target rfl)
    | error hfault => exact .error [.name x] rfl le_rfl (hfault.below [.name x])

/-! ## Operations -/

/-- **Every operation takes its operands**, one case for each. -/
theorem taking_compute (op : Operation) :
    Taking op.arity op.takesTarget (compute op) := by
  cases op with
  | negate => exact Taking.popValue.bind fun v => .of_pure _
  | stepBefore d | stepAfter d =>
    refine .popTarget fun x => (binding_update x fun _ _ _ hv => ?_).map _
    nomatch hv
  | arithmetic op =>
    exact Taking.popValue.bind fun b => Taking.popValue.bind fun a =>
      (Taking.of_ofExcept fun _ _ => .of_eval).bind fun v => .of_pure _
  | compare op =>
    exact Taking.popValue.bind fun b => Taking.popValue.bind fun a => .of_pure _
  | choose =>
    exact Taking.popValue.bind fun b => Taking.popValue.bind fun a =>
      Taking.popValue.bind fun c => .of_pure _
  | assign =>
    exact Taking.popValue.bind fun v => .popTarget fun x => (binding_bind x v).map _
  | assignWith op =>
    exact Taking.popValue.bind fun v => .popTarget fun x =>
      (binding_update x fun _ _ _ => .of_eval).map _

/-- **An operation that succeeds** puts its result in the place of its
operands. -/
theorem exists_of_apply_eq_ok {op : Operation} {c' : Calculator}
    (h : apply op c = .ok () c') :
    ∃ taken rest v, c.stack = taken ++ rest ∧ taken.length = op.arity ∧
      c'.stack = .literal v :: rest ∧
      Environment.Changes taken c.env op.takesTarget c'.env := by
  have hcompute := taking_compute op c
  obtain ⟨v, c'', hv, h⟩ := Step.bind_eq_ok.mp h
  rw [hv] at hcompute
  obtain @⟨_, rest, env, journal, taken, hstack, hlen, henv⟩ := hcompute
  cases h
  exact ⟨taken, rest, v, hstack, hlen, rfl, henv⟩

/-- **An operation that is refused** has taken some of its operands, and that
is all. -/
theorem exists_of_apply_eq_error {op : Operation} {fault : Fault} {c' : Calculator}
    (h : apply op c = .error fault c') :
    fault.Refuses op.arity c.stack ∧ c'.env = c.env ∧
      ∃ taken, c.stack = taken ++ c'.stack ∧ taken.length ≤ op.arity := by
  have hcompute := taking_compute op c
  cases hv : compute op c with
  | ok v c'' =>
    rw [apply, Step.bind_of_ok hv] at h
    nomatch h
  | error fault' c'' =>
    rw [apply, Step.bind_of_error hv] at h
    obtain ⟨rfl, rfl⟩ := EStateM.Result.error.inj h
    rw [hv] at hcompute
    obtain - | ⟨taken, hstack, hlen, hfault⟩ := hcompute
    exact ⟨hfault, rfl, taken, hstack, hlen⟩

/-! ## Programs -/

/-- An instruction that is carried out adds to the stack what a listing adds
to its depth. -/
theorem depth_add {i : Instruction} {c c' : Calculator} {l : Listing}
    (hdepth : l.depth = c.stack.length)
    (h : (Machine.step i : Step Calculator Unit) c = .ok () c') :
    (l.add i).depth = c'.stack.length := by
  cases i with
  | push x =>
    cases h
    show l.depth + 1 = ((c.stack.length + 1 : Nat) : Int)
    rw [hdepth, Nat.cast_succ]
  | apply op =>
    obtain ⟨taken, rest, v, hstack, hlen, hstack', -⟩ := exists_of_apply_eq_ok h
    show l.depth - (op.arity - 1) = _
    rw [hdepth, hstack, hstack', List.length_append, List.length_cons, hlen]
    omega

/-- **A program that is carried out leaves as many operands as a listing
counts**, by induction on it. -/
theorem depth_extend {program : List Instruction} {c c' : Calculator} {l : Listing}
    (hdepth : l.depth = c.stack.length)
    (h : (Machine.run program : Step Calculator Unit) c = .ok () c') :
    (l.extend program).depth = c'.stack.length := by
  induction program generalizing c l with
  | nil =>
    cases h
    exact hdepth
  | cons i program ih =>
    obtain ⟨_, c'', hi, h⟩ := Step.bind_eq_ok.mp h
    exact ih (depth_add hdepth hi) h

end Calculator

/-- **Operations are all or nothing**, on any stack and any environment. One
that succeeds puts a literal in the place of its operands, and changes at most
the variable that the deepest of them names, if it is an operation with a
target. One that is refused is so for a reason of four families, has taken at
most its operands, and leaves the environment as it was. So the calculator
holds as many operands, after any instructions that it carries out, as a
listing counts that was sent the same. -/
theorem operations_atomic :
    (∀ (op : Operation) (c c' : Calculator), Calculator.apply op c = .ok () c' →
      ∃ taken rest v, c.stack = taken ++ rest ∧ taken.length = op.arity ∧
        c'.stack = .literal v :: rest ∧
        (c'.env = c.env ∨ op.takesTarget = true ∧
          ∃ x w, taken.getLast? = some (.name x) ∧ c'.env = c.env.bind x w)) ∧
    (∀ (op : Operation) (c : Calculator) (fault : Fault) (c' : Calculator),
      Calculator.apply op c = .error fault c' →
        fault.Refuses op.arity c.stack ∧
          fault.kind ∈ [.grammar, .undefined, .target, .division] ∧ c'.env = c.env ∧
          ∃ taken, c.stack = taken ++ c'.stack ∧ taken.length ≤ op.arity) ∧
    ∀ (program : List Instruction) (env : Environment) (c : Calculator),
      (Machine.run program : Step Calculator Unit) (.start env) = .ok () c →
        ∃ l, (Machine.run program : Step Listing Unit) .empty = .ok () l ∧
          l.depth = c.stack.length := by
  refine ⟨fun op c c' h => ?_, fun op c fault c' h => ?_, fun program env c h => ?_⟩
  · obtain ⟨taken, rest, v, hstack, hlen, hstack', henv⟩ :=
      Calculator.exists_of_apply_eq_ok h
    refine ⟨taken, rest, v, hstack, hlen, hstack', ?_⟩
    generalize op.takesTarget = targets at henv ⊢
    generalize c'.env = env at henv ⊢
    cases henv with
    | nothing => exact .inl rfl
    | target hlast => exact .inr ⟨rfl, _, _, hlast, rfl⟩
  · obtain ⟨hfault, hrest⟩ := Calculator.exists_of_apply_eq_error h
    exact ⟨hfault, hfault.kind_mem, hrest⟩
  · exact ⟨_, Listing.run_eq program .empty, Calculator.depth_extend rfl h⟩

/-- The assignment `x /= 0` above another operand: both of its own are gone, the
variable has been read, and its value is the old one. -/
theorem operations_atomic_divided :
    let env := Environment.ofList [("x", 5)]
    ∃ c', Calculator.apply (.assignWith .div)
        ⟨[.literal 0, .name "x", .literal 7], env, #[]⟩ = .error .divisionByZero c' ∧
      c'.stack = [.literal 7] ∧ c'.env = env := by
  intro env
  have h : Calculator.apply (.assignWith .div)
      ⟨[.literal 0, .name "x", .literal 7], env, #[]⟩
        = .error .divisionByZero ⟨[.literal 7], env, #[]⟩ := rfl
  exact ⟨_, h, rfl, (operations_atomic.2.1 _ _ _ _ h).2.2.1⟩

end Abacus
