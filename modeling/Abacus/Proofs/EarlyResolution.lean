import Abacus.Proofs.Keeping
import Abacus.Proofs.LateResolution

/-!
# When variables may be read at once

The calculator reads a variable when an operation needs its value, which may
be after operands further right have changed it. The usual way to evaluate
an expression is to read a variable where it stands (`Expr.walk`). The two
differ: `x + x++` adds the new value to the old one for the calculator, and
the old value to itself for the walk.

They can differ only there. Call an expression *independent* if no operand that
is a bare variable is changed by an operand to its right, of the same
operation (`Expr.independent`); the variable that an assignment or a step is
about does not count, since both ways turn to it last. **On an independent
expression the walk succeeds just when the line does**, with the same value
and the same environment (`evaluate_iff_walk`). Nothing is said about
faults: of two that compete, one way of reading may meet the one first and
the other the other.

An expression can only give a name back if it is that name, so everything
comes down to exchanging the reading of one variable with the evaluation of
an expression that keeps its value (`Step.Keeps`).
-/

namespace Abacus

/-! ## Steps that succeed alike -/

namespace Step

variable {σ α β : Type}

/-- **Two steps that succeed alike**: what one of them gives from a state,
the other one gives too. Their faults may differ. -/
def Alike (f g : Step σ α) : Prop :=
  ∀ s a s', f s = .ok a s' ↔ g s = .ok a s'

namespace Alike

variable {f f' f'' : Step σ α} {g g' : α → Step σ β}

theorem refl (f : Step σ α) : Alike f f :=
  fun _ _ _ => Iff.rfl

theorem symm (h : Alike f f') : Alike f' f :=
  fun s a s' => (h s a s').symm

theorem trans (h : Alike f f') (h' : Alike f' f'') : Alike f f'' :=
  fun s a s' => (h s a s').trans (h' s a s')

theorem bind (hf : Alike f f') (hg : ∀ a, Alike (g a) (g' a)) :
    Alike (f >>= g) (f' >>= g') := by
  intro s b s''
  rw [bind_eq_ok, bind_eq_ok]
  exact exists_congr fun a => exists_congr fun s' =>
    and_congr (hf s a s') (hg a s' b s'')

/-- Steps that never succeed are alike. -/
theorem of_fails (hf : ∀ s a s', f s ≠ .ok a s')
    (hf' : ∀ s a s', f' s ≠ .ok a s') : Alike f f' :=
  fun s a s' => iff_of_false (hf s a s') (hf' s a s')

end Alike

end Step

open Step

/-! ## Operations -/

namespace Operation

variable {x : String}

/-! An operation that takes values reads its operands, from right to left,
and then works on what was read; one that changes a variable turns to it
after it has read the other operand. -/

section Read

variable {op : Operation} {y z w : Operand}

theorem onOne_of_value (hop : op.takesTarget = false) (h : op.arity = 1) :
    op.onOne h y = (do op.onOne h (.literal (← y.resolve))) := by
  cases op with
  | negate => simp only [onOne, Operand.resolve, pure_bind]
  | stepBefore | stepAfter => nomatch hop
  | _ => nomatch h

theorem onOne_of_target (hop : op.takesTarget = true) (h : op.arity = 1) :
    op.onOne h y = (do op.onOne h (.name (← y.target))) := by
  cases op with
  | negate => nomatch hop
  | stepBefore | stepAfter => simp only [onOne, Operand.target, pure_bind]
  | _ => nomatch h

theorem onTwo_of_value (hop : op.takesTarget = false) (h : op.arity = 2) :
    op.onTwo h y z = (do
      let v ← z.resolve
      let u ← y.resolve
      op.onTwo h (.literal u) (.literal v)) := by
  cases op with
  | arithmetic | compare => simp only [onTwo, Operand.resolve, pure_bind]
  | assign | assignWith => nomatch hop
  | _ => nomatch h

theorem onTwo_of_target (hop : op.takesTarget = true) (h : op.arity = 2) :
    op.onTwo h y z = (do
      let v ← z.resolve
      let n ← y.target
      op.onTwo h (.name n) (.literal v)) := by
  cases op with
  | arithmetic | compare => nomatch hop
  | assign | assignWith =>
    simp only [onTwo, Operand.resolve, Operand.target, pure_bind]
  | _ => nomatch h

theorem onThree_eq (h : op.arity = 3) :
    op.onThree h y z w = (do
      let t ← w.resolve
      let v ← z.resolve
      let u ← y.resolve
      op.onThree h (.literal u) (.literal v) (.literal t)) := by
  cases op with
  | choose => simp only [onThree, Operand.resolve, pure_bind]
  | _ => nomatch h

end Read

end Operation

/-! ## Expressions -/

namespace Expr

/-- Whether an operand keeps clear of one to its left: if that is a variable,
it is not changed. -/
def spares (b a : Expr) : Bool :=
  a.name?.all fun x => !b.changes x

/-- **Independent expressions**: no operand that is read and is a variable is
changed by an operand to its right. -/
def independent : Expr → Bool
  | .operand _ => true
  | .unary _ _ a => a.independent
  | .binary op _ a b =>
    (op.takesTarget || b.spares a) && a.independent && b.independent
  | .ternary _ _ a b c =>
    b.spares a && c.spares a && c.spares b &&
      a.independent && b.independent && c.independent

/-- The variable that an expression is, for an operation that changes it. -/
def place : Expr → Step Environment String
  | .operand x => x.target
  | _ => throw .targetExpected

/-- **The conventional walk.** Operands are evaluated from left to right, and
a variable is read when the walk reaches it. An operation that changes a
variable turns to it after its other operand, and a choice evaluates all
three operands. -/
def walk : Expr → Step Environment Int
  | .operand x => x.resolve
  | .unary op h a =>
    if op.takesTarget then do
      let x ← a.place
      op.onOne h (.name x)
    else do
      let u ← a.walk
      op.onOne h (.literal u)
  | .binary op h a b =>
    if op.takesTarget then do
      let v ← b.walk
      let x ← a.place
      op.onTwo h (.name x) (.literal v)
    else do
      let u ← a.walk
      let v ← b.walk
      op.onTwo h (.literal u) (.literal v)
  | .ternary op h a b c => do
    let u ← a.walk
    let v ← b.walk
    let w ← c.walk
    op.onThree h (.literal u) (.literal v) (.literal w)

/-! ### Reading early and reading late -/

section Exchange

variable {α β : Type}

theorem resolve_name_eq_ok {x : String} {v : Int} {env env' : Environment} :
    (Operand.name x).resolve env = .ok v env' ↔
      env.get? x = some v ∧ env = env' := by
  simp only [Operand.resolve, Environment.ask, Environment.read]
  cases env.get? x with
  | none =>
    constructor
    · intro h
      cases h
    · rintro ⟨h, -⟩
      cases h
  | some w =>
    constructor
    · intro h
      cases h
      exact ⟨rfl, rfl⟩
    · rintro ⟨h, rfl⟩
      cases h
      rfl

/-- **A variable may be read before or after a step that keeps it.** -/
theorem alike_exchange {x : String} {g : Step Environment α} (hg : Keeps x g)
    (f : Int → α → Step Environment β) :
    Alike (do
        let a ← g
        let u ← (Operand.name x).resolve
        f u a)
      (do
        let u ← (Operand.name x).resolve
        let a ← g
        f u a) := by
  intro env b env''
  simp only [bind_eq_ok, resolve_name_eq_ok]
  constructor
  · rintro ⟨a, env', ha, u, _, ⟨hu, rfl⟩, hb⟩
    exact ⟨u, env, ⟨(hg env a env' ha).symm.trans hu, rfl⟩, a, env', ha, hb⟩
  · rintro ⟨u, _, ⟨hu, rfl⟩, a, env', ha, hb⟩
    exact ⟨a, env', ha, u, env', ⟨(hg env a env' ha).trans hu, rfl⟩, hb⟩

/-- What is left of an expression may be read before or after a step that
keeps it, if it is a name. -/
theorem alike_late {a : Expr} {g : Step Environment α}
    (hg : ∀ x, a.name? = some x → Keeps x g)
    (f : Int → α → Step Environment β) :
    Alike (do
        let y ← a.eval
        let c ← g
        let u ← y.resolve
        f u c)
      (do
        let u ← a.value
        let c ← g
        f u c) := by
  rw [value, bind_assoc]
  intro env b env''
  rw [bind_eq_ok, bind_eq_ok]
  refine exists_congr fun y => exists_congr fun env' => and_congr_right fun hy => ?_
  cases y with
  | literal v => simp only [Operand.resolve, pure_bind]
  | name x => exact alike_exchange (hg x (name?_of_eval hy)) f env' b env''

/-- The target of an operation may be looked at before or after its other
operand. -/
theorem alike_place (a : Expr) (g : Step Environment α)
    (f : String → α → Step Environment β) :
    Alike (do
        let y ← a.eval
        let c ← g
        let x ← y.target
        f x c)
      (do
        let c ← g
        let x ← a.place
        f x c) := by
  cases a with
  | operand y => exact .refl _
  | _ =>
    -- an operation is no variable, and neither side succeeds
    refine .of_fails ?_ ?_
    · intro env b env' h
      obtain ⟨y, _, hy, h⟩ := bind_eq_ok.mp h
      obtain ⟨_, _, -, h⟩ := bind_eq_ok.mp h
      obtain ⟨_, _, htarget, -⟩ := bind_eq_ok.mp h
      cases y with
      | literal => nomatch htarget
      | name x => nomatch name?_of_eval hy
    · intro env b env' h
      obtain ⟨_, _, -, h⟩ := bind_eq_ok.mp h
      obtain ⟨_, _, hplace, -⟩ := bind_eq_ok.mp h
      nomatch hplace

end Exchange

/-! ### The walk and the value -/

section Value

variable {op : Operation} {a b c : Expr}

/-- What an operation gives is a value already. -/
theorem value_unary (h : op.arity = 1) :
    (unary op h a).value = (do
      let x ← a.eval
      op.onOne h x) := by
  simp only [value, eval, bind_assoc, pure_bind, Operand.resolve, bind_pure]

theorem value_binary (h : op.arity = 2) :
    (binary op h a b).value = (do
      let x ← a.eval
      let y ← b.eval
      op.onTwo h x y) := by
  simp only [value, eval, bind_assoc, pure_bind, Operand.resolve, bind_pure]

theorem value_unary_of_value (hop : op.takesTarget = false) (h : op.arity = 1) :
    (unary op h a).value = (do
      let u ← a.value
      op.onOne h (.literal u)) := by
  rw [value_unary, value, bind_assoc]
  exact bind_congr fun _ => Operation.onOne_of_value hop h

theorem value_unary_of_target (hop : op.takesTarget = true) (h : op.arity = 1) :
    (unary op h a).value = (do
      let x ← a.eval
      let n ← x.target
      op.onOne h (.name n)) := by
  rw [value_unary]
  exact bind_congr fun _ => Operation.onOne_of_target hop h

/-- The second operand is read as soon as it is evaluated, and the first one
after it. -/
theorem value_binary_of_value (hop : op.takesTarget = false)
    (h : op.arity = 2) :
    (binary op h a b).value = (do
      let x ← a.eval
      let v ← b.value
      let u ← x.resolve
      op.onTwo h (.literal u) (.literal v)) := by
  rw [value_binary]
  refine bind_congr fun x => ?_
  rw [value, bind_assoc]
  exact bind_congr fun _ => Operation.onTwo_of_value hop h

theorem value_binary_of_target (hop : op.takesTarget = true)
    (h : op.arity = 2) :
    (binary op h a b).value = (do
      let x ← a.eval
      let v ← b.value
      let n ← x.target
      op.onTwo h (.name n) (.literal v)) := by
  rw [value_binary]
  refine bind_congr fun x => ?_
  rw [value, bind_assoc]
  exact bind_congr fun _ => Operation.onTwo_of_target hop h

theorem value_ternary (h : op.arity = 3) :
    (ternary op h a b c).value = (do
      let x ← a.eval
      let y ← b.eval
      let w ← c.value
      let v ← y.resolve
      let u ← x.resolve
      op.onThree h (.literal u) (.literal v) (.literal w)) := by
  simp only [value, eval, bind_assoc, pure_bind, Operand.resolve, bind_pure]
  exact bind_congr fun _ => bind_congr fun _ => bind_congr fun _ =>
    Operation.onThree_eq h

end Value

theorem keeps_of_spares {a b : Expr} (h : b.spares a = true) {x : String}
    (hx : a.name? = some x) : Keeps x b.value := by
  unfold spares at h
  rw [hx, Option.all_some, Bool.not_eq_true'] at h
  exact keeps_value h

/-- **On an independent expression the walk and the value succeed alike.** -/
theorem alike_walk {e : Expr} (h : e.independent = true) :
    Alike e.walk e.value := by
  induction e with
  | operand x => exact .refl _
  | unary op ha a iha =>
    rw [walk]
    cases hop : op.takesTarget with
    | true =>
      rw [value_unary_of_target hop, if_pos rfl]
      exact (alike_place a (pure ()) fun x _ => op.onOne ha (.name x)).symm
    | false =>
      rw [value_unary_of_value hop, if_neg Bool.false_ne_true]
      exact (iha h).bind fun _ => .refl _
  | binary op ha a b iha ihb =>
    rw [independent, Bool.and_eq_true, Bool.and_eq_true] at h
    obtain ⟨⟨hspares, ha'⟩, hb⟩ := h
    rw [walk]
    cases hop : op.takesTarget with
    | true =>
      rw [value_binary_of_target hop, if_pos rfl]
      refine .trans (.bind (ihb hb) fun v => .refl _) ?_
      exact (alike_place a b.value _).symm
    | false =>
      rw [hop, Bool.false_or] at hspares
      rw [value_binary_of_value hop, if_neg Bool.false_ne_true]
      refine .trans (.bind (iha ha') fun u => .bind (ihb hb) fun v => .refl _) ?_
      exact (alike_late (fun x => keeps_of_spares hspares) _).symm
  | ternary op ha a b c iha ihb ihc =>
    simp only [independent, Bool.and_eq_true] at h
    obtain ⟨⟨⟨⟨⟨hab, hac⟩, hbc⟩, ha'⟩, hb⟩, hc⟩ := h
    rw [walk, value_ternary]
    refine .trans (.bind (iha ha') fun u => .bind (ihb hb) fun v =>
      .bind (ihc hc) fun w => .refl _) ?_
    -- the second operand is read before the third, and the first before both
    have hsecond (x : Operand) := alike_late (a := b) (g := c.value)
      (fun _ => keeps_of_spares hbc) fun v w => do
        let u ← x.resolve
        op.onThree ha (.literal u) (.literal v) (.literal w)
    have hfirst := alike_late (a := a)
      (g := do return (← b.value, ← c.value))
      (fun x hx => (keeps_of_spares hab hx).seq fun _ =>
        (keeps_of_spares hac hx).seq fun _ => .of_pure _)
      fun u vw => op.onThree ha (.literal u) (.literal vw.1) (.literal vw.2)
    simp only [bind_assoc, pure_bind] at hfirst
    exact hfirst.symm.trans (.bind (.refl _) fun x => (hsecond x).symm)

end Expr

/-! ## Lines -/

/-- What a line computes, if its listing is the postorder of an
expression. -/
theorem evaluate_of_postorder {source : String} {l : Listing} {e : Expr}
    (h : listing source = .ok l) (hpost : l.instructions.toList = e.postorder)
    (env : Environment) :
    ((evaluate source env).outcome, (evaluate source env).env)
      = e.outcome env := by
  show ((evaluateOn (.start env) source).outcome,
    (evaluateOn (.start env) source).env) = _
  rw [evaluateOn_eq_replay, Recording.ofSource_of_listing h, hpost]
  exact replay_postorder e env

theorem Expr.outcome_eq_ok {e : Expr} {env env' : Environment} {v : Int} :
    e.outcome env = (.ok v, env') ↔ e.value env = .ok v env' := by
  unfold outcome
  cases e.value env with
  | ok w env₁ =>
    constructor
    · rintro ⟨⟩
      rfl
    · rintro ⟨⟩
      rfl
  | error => exact ⟨nofun, nofun⟩

/-- **Late reading agrees with the conventional walk** on every line whose
expression is independent: on any environment the walk succeeds if and only
if the line does, and then both give the same value and leave the same
environment. -/
theorem evaluate_iff_walk {source : String} {l : Listing}
    (h : listing source = .ok l) (hne : l.texts ≠ []) :
    ∃ e : Tree, e.IsTreeOf source ∧ (∀ e' : Tree, e'.IsTreeOf source → e' = e) ∧
      (e.expr.independent = true → ∀ env v env',
        e.expr.walk env = .ok v env' ↔
          (evaluate source env).outcome = .ok v ∧
            (evaluate source env).env = env') := by
  obtain ⟨e, he, hunique, hpost⟩ := exists_isTreeOf h hne
  refine ⟨e, he, hunique, fun hind env v env' => ?_⟩
  calc e.expr.walk env = .ok v env'
    _ ↔ e.expr.value env = .ok v env' := Expr.alike_walk hind env v env'
    _ ↔ e.expr.outcome env = (.ok v, env') := Expr.outcome_eq_ok.symm
    _ ↔ _ := by rw [← evaluate_of_postorder h hpost env, Prod.mk.injEq]

/-- The tree of the line `n ? m-- : (k = n)`. -/
def choiceTree : Tree :=
  .choose (.name ⟨.name, "n", 0⟩) ⟨.question, "?", 2⟩
    (.after (.name ⟨.name, "m", 4⟩) ⟨.decrement, "--", 5⟩ (.stepAfter .down) rfl)
    ⟨.colon, ":", 8⟩
    (.group ⟨.openParen, "(", 10⟩
      (.between (.name ⟨.name, "k", 11⟩) ⟨.assign, "=", 13⟩ .assign rfl
        (.name ⟨.name, "n", 15⟩))
      ⟨.closeParen, ")", 16⟩)

theorem isTreeOf_choiceTree : choiceTree.IsTreeOf "n ? m-- : (k = n)" := by
  refine ⟨?_, by decide +kernel, by decide +kernel⟩
  refine .mono (l := .conditional) (by decide) (.choose ?_ rfl ?_ rfl ?_)
  · exact .mono (l := .primary) (by decide) (.name rfl)
  · refine .mono (l := .stepped) (by decide) (.after ?_ rfl)
    exact .tighter rfl (.name rfl)
  · refine .mono (l := .primary) (by decide) (.group rfl ?_ rfl)
    refine .assign ?_ rfl ?_
    · exact .mono (l := .primary) (by decide) (.name rfl)
    · exact .mono (l := .primary) (by decide) (.name rfl)

/-- Neither branch changes the condition, so this line can be walked, and
`m` is counted down whichever branch is chosen. -/
theorem evaluate_iff_walk_choice :
    choiceTree.IsTreeOf "n ? m-- : (k = n)" ∧
      ∀ (env : Environment) (v : Int) (env' : Environment),
        choiceTree.expr.walk env = .ok v env' ↔
          (evaluate "n ? m-- : (k = n)" env).outcome = .ok v ∧
            (evaluate "n ? m-- : (k = n)" env).env = env' := by
  obtain ⟨l, hlisting, hprogram⟩ := exists_listing "n ? m-- : (k = n)"
    choiceTree.expr.postorder (by decide +kernel)
  have hne : l.texts ≠ [] := by
    rw [Listing.texts, hprogram]
    decide
  obtain ⟨e, -, hunique, hwalk⟩ := evaluate_iff_walk hlisting hne
  obtain rfl := hunique _ isTreeOf_choiceTree
  exact ⟨isTreeOf_choiceTree, hwalk rfl⟩

end Abacus
