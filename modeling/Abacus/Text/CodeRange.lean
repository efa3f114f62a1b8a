/-!
# Ranges of code points

Tables of character properties are lists of ranges; a character has the property when one of the
ranges holds its code point.
-/

namespace Abacus.Text

/-- The code points from `first` to `last`, both included. -/
structure CodeRange where
  first : Nat
  last : Nat

/-- Whether a code point lies in the range. -/
def CodeRange.contains (r : CodeRange) (n : Nat) : Bool :=
  r.first ≤ n && n ≤ r.last

theorem CodeRange.contains_iff {r : CodeRange} {n : Nat} :
    r.contains n = true ↔ r.first ≤ n ∧ n ≤ r.last := by
  simp [contains]

end Abacus.Text
