import Mathlib.Data.Int.ModEq
import Abacus.Proofs.EarlyResolution

/-!
# Lines that are polynomials

The calculator wraps the result of each operation to a word before the next one
takes it. In a line that only negates, adds, subtracts and multiplies this cannot be
seen: its value is the one that unbounded integers give for the whole line, wrapped
once (`evaluate_of_isPolynomial`).

Wrapping does not change an integer modulo `2 ^ 32`, and there is one word in each
class (`Word.wrap_eq_wrap_iff`). So it is enough to follow an expression modulo
`2 ^ 32`, where negation, sums, differences and products of congruent integers are
congruent (`Expr.exists_unbounded`). It would not be enough for a quotient or a
comparison, and these are not among the operations.

The variables may hold any integers. A line that is a variable alone gives what the
variable holds, which need not be a word; hence some operation is asked for.
-/

namespace Abacus

/-! ## Words modulo their number -/

namespace Word

theorem wrap_modEq (v : Int) : wrap v ≡ v [ZMOD modulus] :=
  Int.bmod_emod

/-- **Each class of integers has one word.** -/
theorem wrap_eq_wrap_iff {v w : Int} : wrap v = wrap w ↔ v ≡ w [ZMOD modulus] := by
  constructor
  · intro h
    calc v
      _ ≡ wrap v [ZMOD modulus] := (wrap_modEq v).symm
      _ = wrap w := h
      _ ≡ w [ZMOD modulus] := wrap_modEq w
  · intro h
    unfold wrap
    rw [← Int.emod_bmod v, ← Int.emod_bmod w, h]

/-- A word is the one of its class. -/
theorem eq_wrap_of_modEq {v w : Int} (hfits : Fits w) (h : w ≡ v [ZMOD modulus]) :
    w = wrap v :=
  (wrap_eq_self hfits).symm.trans (wrap_eq_wrap_iff.mpr h)

end Word

/-! ## Polynomials -/

/-- The operations of polynomials. -/
def Operation.isPolynomial : Operation → Bool
  | .negate | .arithmetic .add | .arithmetic .sub | .arithmetic .mul => true
  | _ => false

/-- An instruction of a polynomial: an operand, or one of these operations. -/
def Instruction.IsPolynomial : Instruction → Prop
  | .push _ => True
  | .apply op => op.isPolynomial = true

namespace Expr

/-- **The exact value** of an expression in unbounded integers, if it is a
polynomial and its variables have values. -/
def unbounded? (env : Environment) : Expr → Option Int
  | .operand (.literal v) => some v
  | .operand (.name x) => env.get? x
  | .unary .negate _ a => do
    return -(← a.unbounded? env)
  | .binary (.arithmetic .add) _ a b => do
    return (← a.unbounded? env) + (← b.unbounded? env)
  | .binary (.arithmetic .sub) _ a b => do
    return (← a.unbounded? env) - (← b.unbounded? env)
  | .binary (.arithmetic .mul) _ a b => do
    return (← a.unbounded? env) * (← b.unbounded? env)
  | _ => none

variable {env env' : Environment} {a b e : Expr} {u v w : Int}

/-- Reading what is left of an expression changes nothing any more. -/
theorem value_eq_ok : e.value env = .ok v env' ↔
    ∃ x, e.eval env = .ok x env' ∧ x.resolve env' = .ok v env' := by
  unfold value
  rw [Step.bind_eq_ok]
  refine exists_congr fun x => ⟨?_, fun h => ⟨env', h⟩⟩
  rintro ⟨env₁, heval, hresolve⟩
  cases x with
  | literal u =>
    cases hresolve
    exact ⟨heval, rfl⟩
  | name y =>
    obtain rfl := (resolve_name_eq_ok.mp hresolve).2
    exact ⟨heval, hresolve⟩

/-- A variable that has a value. -/
theorem value_name {x : String} (hx : env.get? x = some v) :
    (operand (.name x)).value env = .ok v env :=
  value_eq_ok.mpr ⟨.name x, rfl, resolve_name_eq_ok.mpr ⟨hx, rfl⟩⟩

/-- The negative of an expression that changes nothing. -/
theorem value_negate (h : Operation.negate.arity = 1) (ha : a.value env = .ok u env) :
    (unary .negate h a).value env = .ok (Word.wrap (-u)) env := by
  rw [value_unary_of_value rfl, Step.bind_of_ok ha]
  rfl

/-- An arithmetic operation on expressions that change nothing. -/
theorem value_arithmetic {op : Arithmetic} (h : (Operation.arithmetic op).arity = 2)
    (ha : a.value env = .ok u env) (hb : b.value env = .ok v env)
    (hop : op.eval u v = .ok w) :
    (binary (.arithmetic op) h a b).value env = .ok (Word.wrap w) env := by
  obtain ⟨x, heval, hresolve⟩ := value_eq_ok.mp ha
  rw [value_binary_of_value rfl, Step.bind_of_ok heval, Step.bind_of_ok hb,
    Step.bind_of_ok hresolve]
  show op.result u v env = _
  rw [Arithmetic.result, Step.bind_of_ok (Environment.ask_of_ok hop)]
  rfl

/-- **A polynomial is followed modulo `2 ^ 32`.** Each of its operations gives a word,
congruent to the exact value. By induction on the expression: an operand is read
as it is, and need not be a word. -/
theorem exists_unbounded (hpoly : ∀ i ∈ e.postorder, i.IsPolynomial)
    (hbound : ∀ x, .push (.name x) ∈ e.postorder → env.contains x = true) :
    ∃ v w, e.unbounded? env = some v ∧ e.value env = .ok w env ∧
      w ≡ v [ZMOD Word.modulus] ∧ ((∃ op, .apply op ∈ e.postorder) → Word.Fits w) := by
  induction e with
  | operand x =>
    have hnone : ¬∃ op, Instruction.apply op ∈ (operand x).postorder := by
      rintro ⟨op, hop⟩
      cases List.mem_singleton.mp hop
    cases x with
    | literal v => exact ⟨v, v, rfl, rfl, rfl, fun h => absurd h hnone⟩
    | name x =>
      obtain ⟨v, hv⟩ := Option.isSome_iff_exists.mp (hbound x List.mem_cons_self)
      exact ⟨v, v, hv, value_name hv, rfl, fun h => absurd h hnone⟩
  | unary op h a iha =>
    simp only [postorder, List.forall_mem_append, List.forall_mem_singleton] at hpoly
    simp only [postorder, List.mem_append] at hbound
    obtain ⟨u, u', hexact, hvalue, hmod, -⟩ := iha hpoly.1 fun x hx => hbound x (.inl hx)
    cases op with
    | negate =>
      refine ⟨-u, _, ?_, value_negate h hvalue, ?_, fun _ => Word.fits_wrap _⟩
      · rw [unbounded?, hexact]
        rfl
      · exact (Word.wrap_modEq _).trans hmod.neg
    | stepBefore | stepAfter => cases hpoly.2
    | _ => cases h
  | binary op h a b iha ihb =>
    simp only [postorder, List.forall_mem_append, List.forall_mem_singleton] at hpoly
    simp only [postorder, List.mem_append] at hbound
    obtain ⟨u, u', hexact, hvalue, hmod, -⟩ :=
      iha hpoly.1.1 fun x hx => hbound x (.inl (.inl hx))
    obtain ⟨v, v', hexact', hvalue', hmod', -⟩ :=
      ihb hpoly.1.2 fun x hx => hbound x (.inl (.inr hx))
    cases op with
    | arithmetic op =>
      obtain ⟨w, w', hunbounded, heval, hmodEq⟩ : ∃ w w',
          (binary (.arithmetic op) h a b).unbounded? env = some w ∧
            op.eval u' v' = .ok w' ∧ w' ≡ w [ZMOD Word.modulus] := by
        cases op with
        | add =>
          refine ⟨u + v, u' + v', ?_, rfl, hmod.add hmod'⟩
          rw [unbounded?, hexact, hexact']
          rfl
        | sub =>
          refine ⟨u - v, u' - v', ?_, rfl, hmod.sub hmod'⟩
          rw [unbounded?, hexact, hexact']
          rfl
        | mul =>
          refine ⟨u * v, u' * v', ?_, rfl, hmod.mul hmod'⟩
          rw [unbounded?, hexact, hexact']
          rfl
        | div => cases hpoly.2
      exact ⟨w, _, hunbounded, value_arithmetic h hvalue hvalue' heval,
        (Word.wrap_modEq w').trans hmodEq, fun _ => Word.fits_wrap _⟩
    | compare | assign | assignWith => cases hpoly.2
    | _ => cases h
  | ternary op h =>
    simp only [postorder, List.forall_mem_append, List.forall_mem_singleton] at hpoly
    cases op with
    | choose => cases hpoly.2
    | _ => cases h

end Expr

/-! ## Lines -/

/-- **Wrapping each result or the last one is the same in a polynomial.** A line whose
listing has only operands, negations, sums, differences and products, and one of these
operations at least, gives the exact value of its expression, wrapped to a word, in
every environment in which its variables have values, and leaves that environment as it
is. -/
theorem evaluate_of_isPolynomial {source : String} {l : Listing}
    (h : listing source = .ok l) (hpoly : ∀ i ∈ l.instructions.toList, i.IsPolynomial)
    (hop : ∃ op, .apply op ∈ l.instructions.toList) :
    ∃ e : Tree, e.IsTreeOf source ∧ (∀ e' : Tree, e'.IsTreeOf source → e' = e) ∧
      ∀ env : Environment,
        (∀ x, .push (.name x) ∈ l.instructions.toList → env.contains x = true) →
          ∃ v, e.expr.unbounded? env = some v ∧
            (evaluate source env).outcome = .ok (Word.wrap v) ∧
            (evaluate source env).env = env := by
  have hne : l.texts ≠ [] := by
    obtain ⟨op, hop⟩ := hop
    exact List.ne_nil_of_mem (List.mem_map_of_mem hop)
  obtain ⟨e, he, hunique, hpost⟩ := exists_isTreeOf h hne
  refine ⟨e, he, hunique, fun env hbound => ?_⟩
  rw [hpost] at hpoly hop hbound
  obtain ⟨v, w, hexact, hvalue, hmod, hfits⟩ := Expr.exists_unbounded hpoly hbound
  refine ⟨v, hexact, ?_⟩
  rw [← Prod.mk.injEq, evaluate_of_postorder h hpost, Expr.outcome_eq_ok, hvalue,
    Word.eq_wrap_of_modEq (hfits hop) hmod]

/-- The line `a * a - -b`, for any values of the two variables. -/
theorem evaluate_of_isPolynomial_square :
    ∃ e : Tree, e.IsTreeOf "a * a - -b" ∧ ∀ a b : Int,
      ∃ v, e.expr.unbounded? ((Environment.empty.bind "a" a).bind "b" b) = some v ∧
        (evaluate "a * a - -b" ((Environment.empty.bind "a" a).bind "b" b)).outcome
          = .ok (Word.wrap v) := by
  obtain ⟨l, hlisting, hprogram⟩ := exists_listing "a * a - -b"
    [.push (.name "a"), .push (.name "a"), .apply (.arithmetic .mul), .push (.name "b"),
      .apply .negate, .apply (.arithmetic .sub)] (by decide +kernel)
  have hpoly : ∀ i ∈ l.instructions.toList, i.IsPolynomial := by
    rw [hprogram]
    simp [Instruction.IsPolynomial, Operation.isPolynomial]
  have hop : ∃ op, .apply op ∈ l.instructions.toList :=
    ⟨.negate, by rw [hprogram]; decide⟩
  obtain ⟨e, he, -, hvalue⟩ := evaluate_of_isPolynomial hlisting hpoly hop
  refine ⟨e, he, fun a b => ?_⟩
  obtain ⟨v, hexact, houtcome, -⟩ := hvalue ((Environment.empty.bind "a" a).bind "b" b) (by
    rw [hprogram]
    intro x hx
    have hx : x = "a" ∨ x = "b" := by simpa using hx
    rw [Environment.contains_bind, Environment.contains_bind]
    rcases hx with rfl | rfl <;> rfl)
  exact ⟨v, hexact, houtcome⟩

end Abacus
