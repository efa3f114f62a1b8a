import Abacus.Proofs.Groups
import Abacus.Proofs.LateResolution
import Abacus.Proofs.Lockstep

/-!
# Replacing one group by another

Two expressions that leave the same operand and the same environment, or fail alike,
wherever they are evaluated, can stand for each other. In parentheses this is so in
every line: what is around them, whether or not it makes sense, cannot tell them apart
(`told_evaluate_enclosed`). They may have different instructions, fail over different
stacks, and leave different journals, but nothing reads a journal, and after a fault
nothing reads the stack.

A combined assignment is such an expression, and the assignment that it abbreviates is
another: `x += (e)` and `x = x + (e)` read `x` at the same time, since a variable is not
read before it is needed. A step before its operand is a combined assignment of `1`. So
these are interchangeable in every line (`told_evaluate_abbreviation`).
-/

namespace Abacus

open Step

/-! ## What is told of a line -/

/-- **What is told of a fault**, its place apart: the family, the wording, and whether it
has a place. -/
def Fault.told (fault : Fault) : Fault.Kind × String × Bool :=
  (fault.kind, fault.text, fault.pos?.isSome)

theorem Fault.told_unplaced (fault : Fault) : fault.unplaced.told = fault.told := by
  unfold told
  rw [kind_unplaced, text_unplaced, isSome_pos?_unplaced]

/-- **What is told of an evaluation**: the value, or what is told of the fault, and the
environment afterwards. -/
def Evaluation.told (e : Evaluation) :
    Except (Fault.Kind × String × Bool) Int × Environment :=
  (e.outcome.mapError Fault.told, e.env)

/-! ## Journals are only written -/

/-- **Calculators that match**: they differ in their journals only. -/
inductive Calculator.Matches : Calculator → Calculator → Prop
  | mk {stack : List Operand} {env : Environment} {journal journal' : Array Event} :
    Matches ⟨stack, env, journal⟩ ⟨stack, env, journal'⟩

namespace Calculator

/-- A step that does the same on calculators that match. -/
abbrev Unread {α : Type} (f : Step Calculator α) : Prop :=
  Lockstep Matches (fun _ => True) f f

theorem unread_modify {f : Calculator → Calculator}
    (h : ∀ c c', Matches c c' → Matches (f c) (f c')) : Unread (modify f) :=
  .of_modify trivial h

theorem unread_note (e : Event) : Unread (note e) := by
  refine unread_modify ?_
  rintro _ _ ⟨⟩
  exact .mk

theorem unread_push (x : Operand) : Unread (modify (push x)) := by
  refine unread_modify ?_
  rintro _ _ ⟨⟩
  exact .mk

theorem unread_ofExcept {α : Type} (r : Except Fault α) : Unread (ofExcept r) := by
  cases r with
  | ok a => exact .of_pure trivial
  | error fault => exact .of_throw fault

/-- What the environment tells is told alike. -/
theorem unread_ask {α : Type} (f : Environment → Except Fault α) :
    Unread (do ofExcept (f (← get).env)) := by
  refine .of_get_bind ?_
  rintro _ _ ⟨⟩
  exact unread_ofExcept _ _ _ .mk

theorem unread_pop : Unread pop := by
  rintro _ _ @⟨stack⟩
  cases stack with
  | nil => exact .error .mk
  | cons x stack => exact .ok trivial .mk

theorem unread_popValue : Unread popValue := by
  refine unread_pop.bind fun x _ => ?_
  cases x with
  | literal v => exact .of_pure trivial
  | name x => exact unread_ask (·.read x)

theorem unread_popTarget : Unread popTarget := by
  refine unread_pop.bind fun x _ => ?_
  cases x with
  | literal v => exact .of_throw _
  | name x => exact .of_pure trivial

theorem unread_bind (x : String) (v : Int) : Unread (bind x v) := by
  have hbind : Unread (modify fun c : Calculator => { c with env := c.env.bind x v }) := by
    refine unread_modify ?_
    rintro _ _ ⟨⟩
    exact .mk
  refine .of_get_bind ?_
  rintro _ _ @⟨stack, env, journal, journal'⟩
  dsimp only
  cases env.contains x with
  | true => exact hbind _ _ .mk
  | false => exact (unread_note (.created x)).bind (fun _ _ => hbind) _ _ .mk

theorem unread_update (x : String) (f : Int → Except Fault Int) : Unread (update x f) := by
  refine (unread_ask (·.update x f)).bind fun u _ => ?_
  have hset : Unread (modify fun c : Calculator => { c with env := u.env }) := by
    refine unread_modify ?_
    rintro _ _ ⟨⟩
    exact .mk
  exact hset.bind fun _ _ => .of_pure trivial

/-- No operation reads the journal, one case for each. -/
theorem unread_compute (op : Operation) : Unread (compute op) := by
  cases op with
  | negate => exact unread_popValue.bind fun _ _ => .of_pure trivial
  | stepBefore d | stepAfter d =>
    exact unread_popTarget.bind fun x _ => (unread_update x _).bind fun _ _ => .of_pure trivial
  | arithmetic op =>
    exact unread_popValue.bind fun b _ => unread_popValue.bind fun a _ =>
      (unread_ofExcept (op.eval a b)).bind fun _ _ => .of_pure trivial
  | compare op =>
    exact unread_popValue.bind fun _ _ => unread_popValue.bind fun _ _ => .of_pure trivial
  | choose =>
    exact unread_popValue.bind fun _ _ => unread_popValue.bind fun _ _ =>
      unread_popValue.bind fun _ _ => .of_pure trivial
  | assign =>
    exact unread_popValue.bind fun v _ => unread_popTarget.bind fun x _ =>
      (unread_bind x v).bind fun _ _ => .of_pure trivial
  | assignWith op =>
    exact unread_popValue.bind fun v _ => unread_popTarget.bind fun x _ =>
      (unread_update x _).bind fun _ _ => .of_pure trivial

theorem unread_step (i : Instruction) : Unread (Machine.step i) := by
  cases i with
  | push x => exact unread_push x
  | apply op =>
    exact (unread_compute op).bind fun v _ => (unread_note _).bind fun _ _ => unread_push _

/-- **Nothing reads the journal**, whatever is carried out. -/
theorem unread_run (program : List Instruction) : Unread (Machine.run program) := by
  induction program with
  | nil => exact .of_pure trivial
  | cons i program ih => exact (unread_step i).bind fun _ _ => ih

theorem unread_result : Unread result := by
  refine .of_get_bind ?_
  rintro _ _ @⟨stack, env, journal, journal'⟩
  dsimp only
  split
  · exact unread_popValue _ _ .mk
  · exact .error .mk

end Calculator

/-! ## Replaying around an expression -/

namespace Recording

/-- A replay tells as much without places. -/
theorem told_replay_unplaced (r : Recording) (c : Calculator) :
    (r.unplaced.replay c).told = (r.replay c).told := by
  obtain ⟨program, fault?⟩ := r
  rw [replay_eq, replay_eq, unplaced]
  dsimp only
  cases hrun : (Machine.run program : Step Calculator Unit) c with
  | error fault c' => rw [Step.bind_of_error hrun, Step.bind_of_error hrun]
  | ok _ c' =>
    rw [Step.bind_of_ok hrun, Step.bind_of_ok hrun]
    cases fault? with
    | none => rfl
    | some fault =>
      show (Except.error fault.unplaced.told, c'.env) = (Except.error fault.told, c'.env)
      rw [Fault.told_unplaced]

theorem unread_ending (fault? : Option Fault) : Calculator.Unread (ending fault?) := by
  cases fault? with
  | none => exact Calculator.unread_result
  | some fault => exact .of_throw fault

/-- Journals are not told. -/
theorem told_of_sameOutcome {r r' : EStateM.Result Fault Calculator Int}
    (h : SameOutcome Calculator.Matches (fun _ => True) r r') :
    (Evaluation.ofResult r).told = (Evaluation.ofResult r').told := by
  rcases h with ⟨-, ⟨⟩⟩ | ⟨⟨⟩⟩ <;> rfl

/-- Where an expression fails, its instructions do, in the same environment. The stack is
not told. -/
theorem exists_of_realizes_error {α β : Type} {left : α → β × List Operand} {fault : Fault}
    {env : Environment} {r : EStateM.Result Fault Calculator β}
    (h : Realizes left (.error fault env) r) : ∃ c, r = .error fault c ∧ c.env = env := by
  cases h
  exact ⟨_, rfl, rfl⟩

variable {a b : Expr}

/-- **Expressions that are evaluated alike** can be replayed for each other. Where they
fail, their stacks may differ, but the line ends there. -/
theorem told_bind_of_eval_eq (h : a.eval = b.eval) {rest : Step Calculator Int}
    (hrest : Calculator.Unread rest) (c : Calculator) :
    (Evaluation.ofResult ((do Machine.run a.postorder; rest : Step Calculator Int) c)).told
      = (Evaluation.ofResult
          ((do Machine.run b.postorder; rest : Step Calculator Int) c)).told := by
  obtain ⟨stack, env, journal⟩ := c
  have ha := computes_postorder a stack env journal
  have hb := computes_postorder b stack env journal
  rw [h] at ha
  show (Evaluation.ofResult (EStateM.bind _ _ _)).told
    = (Evaluation.ofResult (EStateM.bind _ _ _)).told
  unfold EStateM.bind
  generalize (Machine.run a.postorder : Step Calculator Unit) ⟨stack, env, journal⟩ = r,
    (Machine.run b.postorder : Step Calculator Unit) ⟨stack, env, journal⟩ = r' at ha hb ⊢
  cases heval : b.eval env with
  | ok x env' =>
    rw [heval] at ha hb
    cases ha
    cases hb
    exact told_of_sameOutcome (hrest _ _ .mk)
  | error fault env' =>
    rw [heval] at ha hb
    obtain ⟨c, rfl, hc⟩ := exists_of_realizes_error ha
    obtain ⟨c', rfl, hc'⟩ := exists_of_realizes_error hb
    exact congrArg (Prod.mk _) (hc.trans hc'.symm)

theorem told_replay_of_eval_eq (h : a.eval = b.eval) (before after : List Instruction)
    (fault? : Option Fault) (c : Calculator) :
    ((Recording.mk (before ++ a.postorder ++ after) fault?).replay c).told
      = ((Recording.mk (before ++ b.postorder ++ after) fault?).replay c).told := by
  rw [replay_eq, replay_eq]
  simp only [Machine.run_append, bind_assoc]
  cases hrun : (Machine.run before : Step Calculator Unit) c with
  | error fault c' => rw [Step.bind_of_error hrun, Step.bind_of_error hrun]
  | ok _ c' =>
    rw [Step.bind_of_ok hrun, Step.bind_of_ok hrun]
    exact told_bind_of_eval_eq h
      ((Calculator.unread_run after).bind fun _ _ => unread_ending fault?) c'

end Recording

/-! ## Lines around a group -/

/-- **Groups whose expressions are evaluated alike** can stand for each other in every
line, whatever stands before and behind them. -/
theorem told_evaluate_enclosed {a b : Expr} {m n : String}
    (ha : a.WrittenAs .assignment m.toList) (hb : b.WrittenAs .assignment n.toList)
    (h : a.eval = b.eval) (p q : String) (env : Environment) :
    (evaluate (enclosed p m q) env).told = (evaluate (enclosed p n q) env).told := by
  have hreplay (source : String) : (evaluate source env).told
      = ((Recording.ofSource source).unplaced.replay (.start env)).told := by
    rw [Recording.told_replay_unplaced, evaluate_eq_replay]
    rfl
  rw [hreplay, hreplay]
  obtain ⟨before, ⟨fault, hrefused⟩ | ⟨after, fault?, hrecorded⟩⟩ :=
    exists_recording_enclosed p q
  · rw [hrefused a m ha, hrefused b n hb]
  · rw [hrecorded a m ha, hrecorded b n hb, Recording.told_replay_of_eval_eq h]

/-! ## Combined assignments -/

namespace Arithmetic

/-- A combined assignment is written with one token. -/
theorem spells_assignWith (op : Arithmetic) :
    Scan.Spells (Operation.assignWith op).symbol (op.sign ++ "=").toList := by
  cases op <;> exact .pair rfl

theorem spells (op : Arithmetic) :
    Scan.Spells (Operation.arithmetic op).symbol op.sign.toList := by
  cases op <;> exact .single rfl

theorem operator?_assignWith (op : Arithmetic) :
    Level.assignment.operator? (Operation.assignWith op).symbol = some (.assignWith op) := by
  cases op <;> rfl

/-- The level of an operation: it is a chain, between a variable and a group. -/
theorem exists_level (op : Arithmetic) :
    ∃ l m : Level, l.IsChain ∧ l.tighter? = some m ∧
      l.operator? (Operation.arithmetic op).symbol = some (.arithmetic op) ∧
      l ≤ .assignment := by
  cases op with
  | add | sub => exact ⟨.additive, _, trivial, rfl, rfl, by decide⟩
  | mul | div => exact ⟨.multiplicative, _, trivial, rfl, rfl, by decide⟩

end Arithmetic

/-- What a step does to its operand, with `1`. -/
def Direction.arithmetic : Direction → Arithmetic
  | .up => .add
  | .down => .sub

namespace Environment

/-- **A change of a variable** by an arithmetic operation is reading it, computing, and
binding it to the result. -/
theorem change_eval (x : String) (op : Arithmetic) (v : Int) :
    (do return (← change x fun old => op.eval old v).2)
      = (do
        let old ← (Operand.name x).resolve
        let new ← op.result old v
        modify fun env => env.bind x new
        return new) := by
  funext env
  have hupdate := update_eq env x fun old => op.eval old v
  cases hread : env.read x with
  | error fault =>
    rw [hread] at hupdate
    have hchange : change x (fun old => op.eval old v) env = .error fault env :=
      Step.bind_of_error (ask_of_error hupdate)
    have hresolve : (Operand.name x).resolve env = .error fault env :=
      ask_of_error (f := (·.read x)) hread
    rw [Step.bind_of_error hchange, Step.bind_of_error hresolve]
  | ok old =>
    rw [hread] at hupdate
    have hresolve : (Operand.name x).resolve env = .ok old env :=
      ask_of_ok (f := (·.read x)) hread
    rw [Step.bind_of_ok hresolve]
    dsimp only at hupdate
    cases heval : op.eval old v with
    | error fault =>
      rw [heval] at hupdate
      have hchange : change x (fun old => op.eval old v) env = .error fault env :=
        Step.bind_of_error (ask_of_error hupdate)
      have hresult : op.result old v env = .error fault env :=
        Step.bind_of_error (ask_of_error heval)
      rw [Step.bind_of_error hchange, Step.bind_of_error hresult]
    | ok new =>
      rw [heval] at hupdate
      have hchange : change x (fun old => op.eval old v) env
          = .ok (old, Word.wrap new) (env.bind x (Word.wrap new)) := by
        rw [change, Step.bind_of_ok (ask_of_ok hupdate)]
        rfl
      have hresult : op.result old v env = .ok (Word.wrap new) env :=
        Step.bind_of_ok (ask_of_ok heval)
      rw [Step.bind_of_ok hchange, Step.bind_of_ok hresult]
      rfl

end Environment

namespace Expr

variable {x : String} {e : Expr}

/-- **A combined assignment is evaluated like the assignment that it abbreviates.** The
variable is read after the right operand in both. -/
theorem eval_assignWith (x : String) (op : Arithmetic) (e : Expr) :
    (binary (.assignWith op) rfl (operand (.name x)) e).eval
      = (binary .assign rfl (operand (.name x))
          (binary (.arithmetic op) rfl (operand (.name x)) e)).eval := by
  have hliteral (v : Int) : (Operand.literal v).resolve = pure v := rfl
  simp only [eval, pure_bind, bind_assoc, Operation.onTwo, Operand.target, hliteral]
  refine bind_congr fun y => bind_congr fun v => ?_
  calc (do return Operand.literal (← Environment.change x fun old => op.eval old v).2)
    _ = (do
          let new ← (do return (← Environment.change x fun old => op.eval old v).2)
          return .literal new) := by simp only [bind_assoc, pure_bind]
    _ = _ := by simp only [Environment.change_eval, bind_assoc, pure_bind]

/-- **A step before its operand is a combined assignment of `1`.** -/
theorem eval_stepBefore (x : String) (d : Direction) :
    (unary (.stepBefore d) rfl (operand (.name x))).eval
      = (binary (.assignWith d.arithmetic) rfl (operand (.name x))
          (operand (.literal 1))).eval := by
  cases d <;> rfl

end Expr

namespace Expr.WrittenAs

variable {x : String} {b : Expr} {ds : List Char}

theorem assignWith (hx : Variable.isName x = true) (op : Arithmetic)
    (hb : b.WrittenAs .assignment ds) :
    (binary (.assignWith op) rfl (operand (.name x)) b).WrittenAs .assignment
      (x.toList ++ ' ' :: ((op.sign ++ "=").toList ++ ' ' :: ds)) := by
  have hname : (operand (.name x)).WrittenAs .conditional x.toList :=
    (name hx).mono (by decide)
  exact hname.between hb op.spells_assignWith op.operator?_assignWith .assign

theorem stepBefore (hx : Variable.isName x = true) (d : Direction) :
    (unary (.stepBefore d) rfl (operand (.name x))).WrittenAs .assignment
      (d.sign.toList ++ x.toList) := by
  have hname : (operand (.name x)).WrittenAs .unary x.toList := (name hx).mono (by decide)
  cases d with
  | up =>
    have hsign : Token.Kind.ofPair? '+' '+' = some .increment := rfl
    exact (hname.before hsign rfl).mono (by decide)
  | down =>
    have hsign : Token.Kind.ofPair? '-' '-' = some .decrement := rfl
    exact (hname.before hsign rfl).mono (by decide)

theorem assignArithmetic (hx : Variable.isName x = true) (op : Arithmetic)
    (hb : b.WrittenAs .primary ds) :
    (binary .assign rfl (operand (.name x))
        (binary (.arithmetic op) rfl (operand (.name x)) b)).WrittenAs .assignment
      (x.toList ++ ' ' :: (['='] ++ ' ' ::
        (x.toList ++ ' ' :: (op.sign.toList ++ ' ' :: ds)))) := by
  obtain ⟨l, m, hl, hm, hop, hle⟩ := op.exists_level
  have hname : (operand (.name x)).WrittenAs .conditional x.toList :=
    (name hx).mono (by decide)
  have hleft : (operand (.name x)).WrittenAs l x.toList := (name hx).mono (Nat.zero_le _)
  have hright : b.WrittenAs m ds := hb.mono (Nat.zero_le _)
  have hvalue := hleft.between (h := rfl) hright op.spells hop (.chain hl hm)
  exact hname.between (hvalue.mono hle) (.single rfl) rfl .assign

end Expr.WrittenAs

/-- A step and the combined assignment that it is, in a line. -/
theorem told_evaluate_step {x m n : String} (hx : Variable.isName x = true) (d : Direction)
    (hm : m.toList = d.sign.toList ++ x.toList)
    (hn : n.toList = x.toList ++ ' ' :: ((d.arithmetic.sign ++ "=").toList ++ [' ', '1']))
    (p q : String) (env : Environment) :
    (evaluate (enclosed p m q) env).told = (evaluate (enclosed p n q) env).told := by
  have hone : (Expr.operand (.literal 1)).WrittenAs .assignment ['1'] :=
    Expr.WrittenAs.one.mono (by decide)
  refine told_evaluate_enclosed ?_ ?_ (Expr.eval_stepBefore x d) p q env
  · rw [hm]
    exact .stepBefore hx d
  · rw [hn]
    exact .assignWith hx d.arithmetic hone

/-- **Combined assignments and steps stand for what they abbreviate**, in every line and
on every environment. For a variable `x` and a line `e` that can be listed and is not
empty, `(x op= (e))` can be replaced by `(x = x op (e))`, `(++x)` by `(x += 1)` and
`(--x)` by `(x -= 1)`, between any `p` and `q`: the value is the same, or the family and
the wording of the fault are, and so is the environment afterwards. -/
theorem told_evaluate_abbreviation {x e : String} {l : Listing}
    (hx : Variable.isName x = true) (h : listing e = .ok l) (hne : l.texts ≠ [])
    (p q : String) (env : Environment) :
    (∀ op : Arithmetic,
        (evaluate (enclosed p (x ++ " " ++ op.sign ++ "= (" ++ e ++ ")") q) env).told
          = (evaluate (enclosed p (x ++ " = " ++ x ++ " " ++ op.sign ++ " (" ++ e ++ ")") q)
              env).told) ∧
      (evaluate (enclosed p ("++" ++ x) q) env).told
        = (evaluate (enclosed p (x ++ " += 1") q) env).told ∧
      (evaluate (enclosed p ("--" ++ x) q) env).told
        = (evaluate (enclosed p (x ++ " -= 1") q) env).told := by
  obtain ⟨a, ha, -⟩ := Expr.WrittenAs.of_listing h hne
  have hgroup : a.WrittenAs .assignment _ := ha.group.mono (by decide)
  refine ⟨fun op => ?_, ?_, ?_⟩
  · have hcombined := Expr.WrittenAs.assignWith hx op hgroup
    have hplain := Expr.WrittenAs.assignArithmetic hx op ha.group
    refine told_evaluate_enclosed ?_ ?_ (Expr.eval_assignWith x op a) p q env
    · simpa using hcombined
    · simpa using hplain
  · refine told_evaluate_step hx .up ?_ ?_ p q env <;>
      simp [Direction.sign, Direction.arithmetic, Arithmetic.sign]
  · refine told_evaluate_step hx .down ?_ ?_ p q env <;>
      simp [Direction.sign, Direction.arithmetic, Arithmetic.sign]

/-- The assigned operand changes the variable itself, and the line ends with a fault, since
`y` has no value and the last parenthesis no opener. -/
theorem told_evaluate_abbreviation_unmatched :
    (evaluate "2 * (x *= (x++)) - y)" (.ofList [("x", 3)])).told
      = (evaluate "2 * (x = x * (x++)) - y)" (.ofList [("x", 3)])).told := by
  obtain ⟨l, hlisting, hprogram⟩ := exists_listing "x++"
    [.push (.name "x"), .apply (.stepAfter .up)] (by decide +kernel)
  have hne : l.texts ≠ [] := by
    rw [Listing.texts, hprogram]
    decide
  obtain ⟨hcombined, -⟩ := told_evaluate_abbreviation (x := "x") (by decide) hlisting hne
    "2 * " " - y)" (.ofList [("x", 3)])
  exact hcombined .mul

end Abacus
