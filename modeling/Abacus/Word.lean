/-!
# Words

The values of the calculator are signed integers of 32 bits. They are kept as integers, so that
arithmetic is exact before it is wrapped.
-/

namespace Abacus.Word

/-- The number of distinct words, `2 ^ 32`. -/
def modulus : Nat := 4294967296

/-- The least word, `-2 ^ 31`. -/
def least : Int := -2147483648

/-- The greatest word, `2 ^ 31 - 1`. -/
def greatest : Int := 2147483647

/-- An integer that is a word. -/
def Fits (v : Int) : Prop :=
  least ≤ v ∧ v ≤ greatest

instance (v : Int) : Decidable (Fits v) :=
  inferInstanceAs (Decidable (_ ∧ _))

/-- The word that agrees with an integer up to a multiple of `2 ^ 32`. -/
def wrap (v : Int) : Int :=
  v.bmod modulus

/-- A value counts as true when it is positive. -/
def isTrue (v : Int) : Bool :=
  0 < v

/-- The word of a truth value. -/
def ofBool (b : Bool) : Int :=
  if b then 1 else 0

theorem fits_wrap (v : Int) : Fits (wrap v) := by
  have := @Int.le_bmod v modulus (by decide)
  have := @Int.bmod_lt v modulus (by decide)
  unfold Fits wrap least greatest
  unfold modulus at *
  omega

theorem wrap_eq_self {v : Int} (h : Fits v) : wrap v = v := by
  unfold Fits least greatest at h
  unfold wrap modulus
  exact Int.bmod_eq_of_le (by omega) (by omega)

/-- The word of a truth value is not changed by wrapping it. -/
theorem wrap_ofBool (b : Bool) : wrap (ofBool b) = ofBool b := by
  cases b <;> rfl

end Abacus.Word
