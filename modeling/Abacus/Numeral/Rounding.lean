/-!
# Rounding to nearest

The one rounding rule of all number formats: a quotient goes to the nearest integer, and a quotient
that lies halfway goes to the even neighbour.
-/

namespace Abacus.Numeral

/-- The integer nearest to `num / den`; halfway between two, the even one. -/
def nearest (num den : Nat) : Nat :=
  let q := num / den
  let r := num % den
  if 2 * r < den || (2 * r = den && q % 2 = 0) then q else q + 1

/-- The power `2 ^ k`. -/
def powerOfTwo (k : Nat) : Nat := Nat.pow 2 k

/-- The power `10 ^ k`. -/
def powerOfTen (k : Nat) : Nat := Nat.pow 10 k

/-- The number of digits of a number in base ten. -/
def digitCount (n : Nat) : Nat :=
  (Nat.toDigits 10 n).length

/-- The first `p` digits of a number, rounded, and the exponent of the first of them: the number is
close to `d * 10 ^ (e + 1 - p)`, where `d` has `p` digits. -/
def significant (p n : Nat) : Nat × Nat :=
  if n = 0 then (0, 0)
  else
    let size := digitCount n
    let d := if size ≤ p then n * powerOfTen (p - size) else nearest n (powerOfTen (size - p))
    if d = powerOfTen p then (powerOfTen (p - 1), size) else (d, size - 1)

example : significant 1 65 = (6, 1) := by decide
example : significant 2 999 = (10, 3) := by decide

end Abacus.Numeral
