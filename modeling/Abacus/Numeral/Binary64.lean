import Abacus.Numeral.Decimal
import Abacus.Numeral.Rounding

/-!
# Binary floating-point numbers

Floating-point numbers of 64 bits, as exact data: a finite number is `mantissa * 2 ^ exponent`
with a mantissa of at most 53 bits. Nothing is computed with them. They are made from decimals,
correctly rounded, and written with the fewest digits that read back as the same number.
-/

namespace Abacus.Numeral

/-- A floating-point number of 64 bits. -/
inductive Binary64
  | finite (negative : Bool) (mantissa : Nat) (exponent : Int)
  | infinity (negative : Bool)
  | nan
  deriving DecidableEq, Repr

namespace Binary64

/-- The number of bits of a full mantissa. -/
def precision : Nat := 53

/-- The exponent of the finest numbers. -/
def leastExponent : Int := -1074

/-- The exponent of the coarsest numbers. -/
def greatestExponent : Int := 971

/-- The ratio `num / den * 2 ^ (-e)` as a pair of naturals. -/
def scaleBinary (num den : Nat) (e : Int) : Nat × Nat :=
  if e < 0 then (num * powerOfTwo (-e).toNat, den) else (num, den * powerOfTwo e.toNat)

/-- The ratio `num / den * 10 ^ (-e)` as a pair of naturals. -/
def scaleDecimal (num den : Nat) (e : Int) : Nat × Nat :=
  if e < 0 then (num * powerOfTen (-e).toNat, den) else (num, den * powerOfTen e.toNat)

/-- The greatest `e` with `2 ^ e ≤ num / den`. -/
def binaryMagnitude (num den : Nat) : Int :=
  let e : Int := (Nat.log2 num : Int) - Nat.log2 den
  let (a, b) := scaleBinary num den e
  if a < b then e - 1 else e

/-- The greatest `e` with `10 ^ e ≤ num / den`. -/
def decimalMagnitude (num den : Nat) : Int :=
  let e : Int := (digitCount num : Int) - digitCount den
  let (a, b) := scaleDecimal num den e
  if a < b then e - 1 else e

/-- The floating-point number nearest to `num / den`. -/
def ofRatio (negative : Bool) (num den : Nat) : Binary64 :=
  if num = 0 then .finite negative 0 leastExponent
  else
    let e := max (binaryMagnitude num den - (precision - 1)) leastExponent
    let (a, b) := scaleBinary num den e
    let m := nearest a b
    let (m, e) := if m = powerOfTwo precision then (powerOfTwo (precision - 1), e + 1) else (m, e)
    if greatestExponent < e then .infinity negative else .finite negative m e

/-- The decimal exponents beyond which every number is infinite or zero. -/
def decimalLimit : Int := 400

/-- The floating-point number nearest to `digits * 10 ^ e`. -/
def ofDecimal (negative : Bool) (digits : Nat) (e : Int) : Binary64 :=
  let size := digitCount digits + e
  if digits = 0 || size < -decimalLimit then .finite negative 0 leastExponent
  else if decimalLimit < size then .infinity negative
  else if e < 0 then ofRatio negative digits (powerOfTen (-e).toNat)
  else ofRatio negative (digits * powerOfTen e.toNat) 1

/-- A natural number rounded to floating point, and `none` if it is too great. -/
def roundNat? (n : Nat) : Option Nat :=
  match ofRatio false n 1 with
  | .finite _ m e => some (if e < 0 then m / powerOfTwo (-e).toNat else m * powerOfTwo e.toNat)
  | _ => none

/-! ## Writing -/

/-- The reals that round to `m * 2 ^ e`, as a closed interval with common denominator: lower end,
number, upper end, denominator. The spacing below a power of two is half the one above. -/
def neighbourhood (m : Nat) (e : Int) : Nat × Nat × Nat × Nat :=
  let narrow := m = powerOfTwo (precision - 1) && leastExponent < e
  let (lo, mid, hi) := (if narrow then 4 * m - 1 else 4 * m - 2, 4 * m, 4 * m + 2)
  if e - 2 < 0 then (lo, mid, hi, powerOfTwo (2 - e).toNat)
  else
    let s := powerOfTwo (e - 2).toNat
    (lo * s, mid * s, hi * s, 1)

/-- The points of the grid `10 ^ k` next to `m * 2 ^ e` that round to it, the nearer one if both
do; halfway, the even one. -/
def onGrid? (m : Nat) (e k : Int) : Option Nat :=
  let (lo, mid, hi, den) := neighbourhood m e
  let (num, unit) := scaleDecimal mid den k
  let (low, _) := scaleDecimal lo den k
  let (high, _) := scaleDecimal hi den k
  let holds (d : Nat) : Bool :=
    if m % 2 = 0 then low ≤ d * unit && d * unit ≤ high
    else low < d * unit && d * unit < high
  let below := num / unit
  match holds below, holds (below + 1) with
  | true, true => some (nearest num unit)
  | true, false => some below
  | false, true => some (below + 1)
  | false, false => none

/-- The fewest digits `d` and their scale `k` such that `d * 10 ^ k` rounds to `m * 2 ^ e`, tried
from one digit up to seventeen, which always suffice. -/
def shortest (m : Nat) (e : Int) : Nat × Int :=
  let (_, mid, _, den) := neighbourhood m e
  let top := decimalMagnitude mid den
  let tries := (List.range 17).map fun i : Nat => top - (i : Int)
  match tries.findSome? fun k => (onGrid? m e k).map fun d => (d, k) with
  | some found => found
  | none => (0, 0)

/-- The digits without their trailing zeros. -/
def stripZeros (cs : List Char) : List Char :=
  Text.dropEndWhile (· = '0') cs

/-- The exponent of a number in scientific form: a sign and at least two digits. -/
def exponentText (e : Int) : List Char :=
  let digits := Nat.toDigits 10 e.natAbs
  (if e < 0 then '-' else '+') :: (if digits.length < 2 then '0' :: digits else digits)

/-- The least exponent that is written positionally. -/
def leastPositional : Int := -4

/-- The least exponent beyond those that are written positionally. -/
def positionalEnd : Int := 16

/-- Digits with the point after the first of them moved by `e` places: positional for moderate
exponents, always with a digit after the point, and scientific otherwise. -/
def pointed (digits : List Char) (e : Int) : List Char :=
  if leastPositional ≤ e && e < positionalEnd then
    if e < 0 then
      ['0', '.'] ++ List.replicate (-e - 1).toNat '0' ++ digits
    else
      let whole := e.toNat + 1
      let padded := digits ++ List.replicate (whole - digits.length) '0'
      let rest := padded.drop whole
      padded.take whole ++ '.' :: (if rest.isEmpty then ['0'] else rest)
  else
    let rest := digits.drop 1
    digits.take 1 ++ (if rest.isEmpty then [] else '.' :: rest) ++ 'e' :: exponentText e

/-- The text of a positive number. -/
def positiveChars (m : Nat) (e : Int) : List Char :=
  let (d, k) := shortest m e
  let digits := Nat.toDigits 10 d
  pointed (stripZeros digits) (k + digits.length - 1)

/-- The text of a number: the fewest digits that read back. -/
def chars : Binary64 → List Char
  | .nan => ['n', 'a', 'n']
  | .infinity negative => (if negative then ['-'] else []) ++ ['i', 'n', 'f']
  | .finite negative m e =>
    (if negative then ['-'] else [])
      ++ (if m = 0 then ['0', '.', '0'] else positiveChars m e)

end Binary64

end Abacus.Numeral
