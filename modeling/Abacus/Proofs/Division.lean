import Mathlib.Data.Rat.Floor
import Abacus.Proofs.Polynomials

/-!
# Quotients and remainders

A quotient of words is truncated toward zero, and then it is wrapped like every
result. Wrapping matters once: the quotient of the least word and `-1` is one more
than the greatest word, and comes out as the least word.

There is no operation for the remainder, but it can be written down: `a - a / b * b`
is the remainder that belongs to truncation, of the sign of `a` and smaller than `b`
(`evaluate_division`). This has no exception. Where the quotient overflows it is
wrong by a multiple of `2 ^ 32`, and so is the product, and the difference is wrapped
to the word that it should be.
-/

namespace Abacus

/-! ## Truncation -/

/-- **A rational number truncated toward zero.** -/
def truncated (q : ℚ) : Int :=
  if 0 ≤ q then ⌊q⌋ else ⌈q⌉

theorem truncated_neg (q : ℚ) : truncated (-q) = -truncated q := by
  unfold truncated
  rcases lt_trichotomy q 0 with hneg | rfl | hpos
  · rw [if_pos (neg_nonneg.mpr hneg.le), if_neg (not_le.mpr hneg), Int.floor_neg]
  · rfl
  · rw [if_neg (not_le.mpr (neg_lt_zero.mpr hpos)), if_pos hpos.le, Int.ceil_neg]

/-- Truncating division truncates the quotient. -/
theorem tdiv_eq_truncated (a b : Int) : a.tdiv b = truncated (a / b) := by
  have hnat (m n : Nat) : (m : Int).tdiv n = truncated (m / n) := by
    have hnonneg : (0 : ℚ) ≤ m / n := by positivity
    rw [truncated, if_pos hnonneg, Rat.floor_natCast_div_natCast]
    rfl
  obtain ⟨m, rfl | rfl⟩ := a.eq_nat_or_neg <;> obtain ⟨n, rfl | rfl⟩ := b.eq_nat_or_neg
  · exact hnat m n
  · rw [Int.tdiv_neg, hnat, ← truncated_neg, Int.cast_neg, div_neg]
    rfl
  · rw [Int.neg_tdiv, hnat, ← truncated_neg, Int.cast_neg, neg_div]
    rfl
  · rw [Int.neg_tdiv, Int.tdiv_neg, hnat, neg_neg, Int.cast_neg, Int.cast_neg, neg_div_neg_eq]
    rfl

/-! ## Quotients of words -/

/-- **The quotient of two words is a word**, but for the least one and `-1`. -/
theorem Word.wrap_tdiv {a b : Int} (ha : Fits a) (hb : b ≠ 0) :
    wrap (a.tdiv b) = if a = least ∧ b = -1 then least else a.tdiv b := by
  split
  · rename_i h
    rw [h.1, h.2]
    decide
  rename_i h
  refine wrap_eq_self ?_
  unfold Fits least greatest at *
  by_cases hone : b.natAbs = 1
  · rcases Int.natAbs_eq_iff.mp hone with rfl | rfl
    · rw [Int.natCast_one, Int.tdiv_one]
      exact ha
    · rw [Int.natCast_one, Int.tdiv_neg, Int.tdiv_one]
      omega
  · -- half of the range is left at most
    have hquotient : (a.tdiv b).natAbs = a.natAbs / b.natAbs := Int.natAbs_tdiv a b
    have hhalf : a.natAbs / b.natAbs ≤ a.natAbs / 2 :=
      Nat.div_le_div_left (by omega) (by decide)
    omega

/-! ## Remainders of words -/

/-- **The remainder that belongs to truncation**: smaller than the divisor, of the sign
of the dividend. -/
theorem tmod_bounds (a : Int) {b : Int} (hb : b ≠ 0) :
    |a.tmod b| < |b| ∧ (a.tmod b = 0 ∨ (a.tmod b).sign = a.sign) ∧ b ∣ a - a.tmod b := by
  refine ⟨?_, ?_, Int.dvd_self_sub_tmod⟩
  · rw [Int.abs_eq_natAbs, Int.abs_eq_natAbs, Int.natAbs_tmod]
    exact_mod_cast Nat.mod_lt _ (Int.natAbs_pos.mpr hb)
  · have hsign := Int.sign_tmod a b
    split at hsign
    · exact .inl (Int.sign_eq_zero_iff_zero.mp hsign)
    · exact .inr hsign

/-- Whatever the quotient is wrapped to, the remainder is exact. -/
theorem Word.wrap_sub_wrap_mul (a : Int) {b : Int} (hfits : Fits b) (hb : b ≠ 0) :
    wrap (a - wrap (wrap (a.tdiv b) * b)) = a.tmod b := by
  refine (eq_wrap_of_modEq ?_ ?_).symm
  · obtain ⟨hlt, -⟩ := tmod_bounds a hb
    rw [Int.abs_eq_natAbs, Int.abs_eq_natAbs] at hlt
    unfold Fits least greatest at *
    omega
  · have hproduct : wrap (wrap (a.tdiv b) * b) ≡ a.tdiv b * b [ZMOD modulus] :=
      (wrap_modEq _).trans ((wrap_modEq _).mul_right b)
    have hremainder : a.tmod b = a - a.tdiv b * b := by
      rw [Int.tmod_def, Int.mul_comm]
    rw [hremainder]
    exact hproduct.symm.sub_left a

/-! ## Lines -/

namespace Expr

/-- An arithmetic operation on two expressions. -/
def arithmetic (op : Arithmetic) (a b : Expr) : Expr :=
  .binary (.arithmetic op) rfl a b

/-- The expression of the line `a / b`. -/
def quotient : Expr :=
  .arithmetic .div (.operand (.name "a")) (.operand (.name "b"))

/-- The expression of the line `a - a / b * b`. -/
def remainder : Expr :=
  .arithmetic .sub (.operand (.name "a")) (.arithmetic .mul quotient (.operand (.name "b")))

variable {env : Environment} {a b : Int}

theorem value_quotient (ha : env.get? "a" = some a) (hb : env.get? "b" = some b)
    (hne : b ≠ 0) : quotient.value env = .ok (Word.wrap (a.tdiv b)) env :=
  value_arithmetic rfl (value_name ha) (value_name hb) (if_neg hne)

theorem value_remainder (ha : env.get? "a" = some a) (hb : env.get? "b" = some b)
    (hne : b ≠ 0) :
    remainder.value env
      = .ok (Word.wrap (a - Word.wrap (Word.wrap (a.tdiv b) * b))) env :=
  value_arithmetic rfl (value_name ha)
    (value_arithmetic rfl (value_quotient ha hb hne) (value_name hb) rfl) rfl

end Expr

/-- A line that is listed as the postorder of an expression has its value. -/
theorem outcome_of_value {source : String} {l : Listing} {e : Expr} {v : Int}
    {env env' : Environment} (h : listing source = .ok l)
    (hpost : l.instructions.toList = e.postorder) (hvalue : e.value env = .ok v env') :
    (evaluate source env).outcome = .ok v :=
  congrArg Prod.fst ((evaluate_of_postorder h hpost env).trans (Expr.outcome_eq_ok.mpr hvalue))

/-- **Division with remainder.** For any two words, the second of which is not zero, the
line `a / b` gives their quotient, truncated toward zero, except that the least word
divided by `-1` gives the least word; and the line `a - a / b * b` always gives the
remainder: smaller than `b`, zero or of the sign of `a`, and different from `a` by a
multiple of `b`. -/
theorem evaluate_division {env : Environment} {a b : Int} (ha : env.get? "a" = some a)
    (hb : env.get? "b" = some b) (hfits : Word.Fits a) (hfits' : Word.Fits b) (hne : b ≠ 0) :
    (evaluate "a / b" env).outcome
        = .ok (if a = Word.least ∧ b = -1 then Word.least else truncated (a / b)) ∧
      ∃ r, (evaluate "a - a / b * b" env).outcome = .ok r ∧
        |r| < |b| ∧ (r = 0 ∨ r.sign = a.sign) ∧ b ∣ a - r := by
  obtain ⟨l, hlisting, hpost⟩ :=
    exists_listing "a / b" Expr.quotient.postorder (by decide +kernel)
  obtain ⟨l', hlisting', hpost'⟩ :=
    exists_listing "a - a / b * b" Expr.remainder.postorder (by decide +kernel)
  constructor
  · rw [outcome_of_value hlisting hpost (Expr.value_quotient ha hb hne),
      Word.wrap_tdiv hfits hne, tdiv_eq_truncated]
  · refine ⟨a.tmod b, ?_, tmod_bounds a hne⟩
    rw [outcome_of_value hlisting' hpost' (Expr.value_remainder ha hb hne),
      Word.wrap_sub_wrap_mul a hfits' hne]

/-- The one quotient that is no word, and its remainder, which is. -/
theorem evaluate_division_least :
    (evaluate "a / b" ((Environment.empty.bind "a" (-2147483648)).bind "b" (-1))).outcome
        = .ok (-2147483648) ∧
      (evaluate "a - a / b * b"
          ((Environment.empty.bind "a" (-2147483648)).bind "b" (-1))).outcome = .ok 0 := by
  obtain ⟨hquotient, r, hremainder, hlt, -⟩ :=
    @evaluate_division ((Environment.empty.bind "a" (-2147483648)).bind "b" (-1))
      (-2147483648) (-1) rfl rfl (by decide) (by decide) (by decide)
  refine ⟨hquotient.trans (congrArg Except.ok (if_pos ⟨rfl, rfl⟩)), ?_⟩
  obtain rfl : r = 0 := Int.abs_lt_one_iff.mp hlt
  exact hremainder

end Abacus
