import Abacus.Proofs.Replay
import Abacus.Proofs.Semantics

/-!
# What an expression leaves alone

An expression changes a variable only where it says so: in an assignment to
it, or in a step of it (`Expr.changes`). Every other variable has the value
afterwards that it had before, if the evaluation succeeds (`keeps_eval`).

That a step keeps a variable (`Step.Keeps`) is kept by sequencing. It holds
of all that an operation does, except to its target, and the target is a
variable only if the operand is that variable: an operation gives a value,
and never a name (`name?_of_eval`).
-/

namespace Abacus

/-! ## Steps that keep a variable -/

/-- An update that succeeds is a binding. -/
theorem Environment.env_of_update {env : Environment} {x : String}
    {f : Int → Except Fault Int} {u : Update} (h : env.update x f = .ok u) :
    u.env = env.bind x u.new := by
  rw [update_eq] at h
  split at h
  · nomatch h
  · split at h <;> cases h
    rfl

namespace Step

variable {α β : Type}

/-- **A step that keeps a variable**: if it succeeds, `x` has the value it
had, or still has none. -/
def Keeps (x : String) (f : Step Environment α) : Prop :=
  ∀ env a env', f env = .ok a env' → env'.get? x = env.get? x

namespace Keeps

variable {x : String} {f : Step Environment α} {g : α → Step Environment β}

/-- The second step only has to keep the variable after what the first one
can give. -/
theorem bind (hf : Keeps x f)
    (hg : ∀ env a env', f env = .ok a env' → Keeps x (g a)) :
    Keeps x (f >>= g) := by
  intro env b env'' h
  obtain ⟨a, env', ha, hb⟩ := bind_eq_ok.mp h
  exact (hg env a env' ha env' b env'' hb).trans (hf env a env' ha)

theorem seq (hf : Keeps x f) (hg : ∀ a, Keeps x (g a)) : Keeps x (f >>= g) :=
  hf.bind fun _ a _ _ => hg a

theorem of_pure (a : α) : Keeps x (pure a) := by
  rintro env _ _ ⟨⟩
  rfl

theorem of_ask (f : Environment → Except Fault α) :
    Keeps x (Environment.ask f) := by
  intro env a env' h
  unfold Environment.ask at h
  split at h
  · cases h
    rfl
  · nomatch h

theorem of_bind {n : String} (hn : x ≠ n) (v : Int) :
    Keeps x (modify fun env => env.bind n v) := by
  rintro env _ _ ⟨⟩
  rw [Environment.get?_bind, if_neg hn]

theorem of_change {n : String} (hn : x ≠ n) (f : Int → Except Fault Int) :
    Keeps x (Environment.change n f) := by
  intro env a env' h
  obtain ⟨u, env₁, hask, h⟩ := bind_eq_ok.mp h
  obtain ⟨_, env₂, ⟨⟩, ⟨⟩⟩ := bind_eq_ok.mp h
  unfold Environment.ask at hask
  split at hask
  · rename_i hupdate
    cases hask
    rw [Environment.env_of_update hupdate, Environment.get?_bind, if_neg hn]
  · nomatch hask

theorem of_resolve (y : Operand) : Keeps x y.resolve := by
  cases y with
  | literal v => exact of_pure v
  | name n => exact of_ask _

/-- The target of an operand that is not `x` is another variable. -/
theorem of_target {y : Operand} (hy : y ≠ .name x)
    {g : String → Step Environment β} (hg : ∀ n, x ≠ n → Keeps x (g n)) :
    Keeps x (y.target >>= g) := by
  cases y with
  | literal =>
    intro env a env' h
    nomatch h
  | name n => exact hg n fun hn => hy (congrArg Operand.name hn.symm)

end Keeps

end Step

open Step

/-! ## Operations -/

namespace Operation

variable {x : String}

theorem keeps_onOne {op : Operation} {h : op.arity = 1} {y : Operand}
    (hy : op.takesTarget = true → y ≠ .name x) : Keeps x (op.onOne h y) := by
  cases op with
  | negate => exact .seq (.of_resolve y) fun _ => .of_pure _
  | stepBefore d | stepAfter d =>
    exact .of_target (hy rfl) fun n hn => .seq (.of_change hn _) fun _ => .of_pure _
  | _ => nomatch h

theorem keeps_onTwo {op : Operation} {h : op.arity = 2} {y z : Operand}
    (hy : op.takesTarget = true → y ≠ .name x) : Keeps x (op.onTwo h y z) := by
  cases op with
  | arithmetic op =>
    exact .seq (.of_resolve z) fun _ => .seq (.of_resolve y) fun _ =>
      .seq (.of_ask _) fun _ => .of_pure _
  | compare c =>
    exact .seq (.of_resolve z) fun _ => .seq (.of_resolve y) fun _ => .of_pure _
  | assign =>
    exact .seq (.of_resolve z) fun v => .of_target (hy rfl) fun n hn =>
      .seq (.of_bind hn v) fun _ => .of_pure _
  | assignWith op =>
    exact .seq (.of_resolve z) fun v => .of_target (hy rfl) fun n hn =>
      .seq (.of_change hn _) fun _ => .of_pure _
  | _ => nomatch h

theorem keeps_onThree {op : Operation} {h : op.arity = 3} {y z w : Operand} :
    Keeps x (op.onThree h y z w) := by
  cases op with
  | choose =>
    exact .seq (.of_resolve w) fun _ => .seq (.of_resolve z) fun _ =>
      .seq (.of_resolve y) fun _ => .of_pure _
  | _ => nomatch h

end Operation

/-! ## Expressions -/

namespace Expr

/-- The name of an expression that is a variable and nothing else. -/
def name? : Expr → Option String
  | .operand (.name x) => some x
  | _ => none

/-- Whether an expression contains an assignment to a variable or a step
of it. -/
def changes (x : String) : Expr → Bool
  | .operand _ => false
  | .unary op _ a => (op.takesTarget && a.name? == some x) || a.changes x
  | .binary op _ a b =>
    (op.takesTarget && a.name? == some x) || a.changes x || b.changes x
  | .ternary _ _ a b c => a.changes x || b.changes x || c.changes x

/-- Only a name gives a name back: an operation gives a value. -/
theorem name?_of_eval {e : Expr} {x : String} {env env' : Environment}
    (h : e.eval env = .ok (.name x) env') : e.name? = some x := by
  cases e with
  | operand y =>
    cases h
    rfl
  | unary op ha a =>
    obtain ⟨_, _, -, h⟩ := bind_eq_ok.mp h
    obtain ⟨_, _, -, ⟨⟩⟩ := bind_eq_ok.mp h
  | binary op ha a b =>
    obtain ⟨_, _, -, h⟩ := bind_eq_ok.mp h
    obtain ⟨_, _, -, h⟩ := bind_eq_ok.mp h
    obtain ⟨_, _, -, ⟨⟩⟩ := bind_eq_ok.mp h
  | ternary op ha a b c =>
    obtain ⟨_, _, -, h⟩ := bind_eq_ok.mp h
    obtain ⟨_, _, -, h⟩ := bind_eq_ok.mp h
    obtain ⟨_, _, -, h⟩ := bind_eq_ok.mp h
    obtain ⟨_, _, -, ⟨⟩⟩ := bind_eq_ok.mp h

/-- The target of an operation is not `x`, if the operation does not
change `x`. -/
theorem ne_name_of_eval {op : Operation} {a : Expr} {x : String} {y : Operand}
    {env env' : Environment} (hx : (op.takesTarget && a.name? == some x) = false)
    (h : a.eval env = .ok y env') : op.takesTarget = true → y ≠ .name x := by
  rintro hop rfl
  rw [hop, name?_of_eval h, beq_self_eq_true] at hx
  nomatch hx

/-- **An expression that does not change a variable keeps it.** -/
theorem keeps_eval {e : Expr} {x : String} (h : e.changes x = false) :
    Keeps x e.eval := by
  induction e with
  | operand y => exact .of_pure y
  | unary op ha a iha =>
    obtain ⟨hx, hxa⟩ := Bool.or_eq_false_iff.mp h
    exact (iha hxa).bind fun _ y _ hy =>
      .seq (Operation.keeps_onOne (ne_name_of_eval hx hy)) fun _ => .of_pure _
  | binary op ha a b iha ihb =>
    obtain ⟨h, hxb⟩ := Bool.or_eq_false_iff.mp h
    obtain ⟨hx, hxa⟩ := Bool.or_eq_false_iff.mp h
    exact (iha hxa).bind fun _ y _ hy => (ihb hxb).seq fun _ =>
      .seq (Operation.keeps_onTwo (ne_name_of_eval hx hy)) fun _ => .of_pure _
  | ternary op ha a b c iha ihb ihc =>
    obtain ⟨h, hxc⟩ := Bool.or_eq_false_iff.mp h
    obtain ⟨hxa, hxb⟩ := Bool.or_eq_false_iff.mp h
    exact (iha hxa).seq fun _ => (ihb hxb).seq fun _ => (ihc hxc).seq fun _ =>
      .seq Operation.keeps_onThree fun _ => .of_pure _

theorem keeps_value {e : Expr} {x : String} (h : e.changes x = false) :
    Keeps x e.value :=
  (keeps_eval h).seq .of_resolve

end Expr

end Abacus
