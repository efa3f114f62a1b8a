import Abacus.Text.Blank
import Abacus.Text.Digit

/-!
# Decimal integers

Reading and writing of integers in base ten. A numeral may use the digits of any script, may group
its digits with single underscores, and may stand in white space; its sign stands directly before
the first digit. Neither reading nor writing goes beyond `maxDigits` digits.
-/

namespace Abacus.Numeral

open Abacus.Text

/-- The greatest number of digits of a numeral that is read or written in base ten. -/
def maxDigits : Nat := 4300

/-- The number that a list of decimal digits denotes, most significant digit first. -/
def ofDigits (ds : List Nat) : Nat :=
  ds.foldl (fun n d => 10 * n + d) 0

/-- The values of a run of digits with single underscores between them; `afterDigit` tells whether
a digit stands directly before the run. -/
def digitRun? (afterDigit : Bool) : List Char → Option (List Nat)
  | [] => if afterDigit then some [] else none
  | c :: rest =>
    if c = '_' && afterDigit then digitRun? false rest
    else do
      let d ← digitValue? c
      let ds ← digitRun? true rest
      return d :: ds

/-- The number written by an unsigned numeral. -/
def readNat? (cs : List Char) : Option Nat := do
  let ds ← digitRun? false cs
  if ds.length ≤ maxDigits then some (ofDigits ds) else none

/-- The integer written by an optional sign and a numeral. -/
def readSigned? : List Char → Option Int
  | '-' :: rest => (readNat? rest).map fun n => -(n : Int)
  | '+' :: rest => (readNat? rest).map fun n => (n : Int)
  | cs => (readNat? cs).map fun n => (n : Int)

/-- The white space that may stand around a numeral: all but the information separators. -/
def isMargin (c : Char) : Bool :=
  isBlank c && !(0x1C ≤ c.toNat && c.toNat ≤ 0x1F)

/-- The integer written by a numeral that may stand in white space. -/
def readInt? (cs : List Char) : Option Int :=
  readSigned? (dropEndWhile isMargin (cs.dropWhile isMargin))

/-- The digits of a number in base ten. -/
def natText (n : Nat) : String := Nat.repr n

/-- An integer in base ten, with a sign only if it is negative. -/
def intText : Int → String
  | .ofNat n => natText n
  | .negSucc n => "-" ++ natText (n + 1)

/-- Whether an integer has at most `maxDigits` digits. -/
def isWritable (n : Int) : Bool :=
  n.natAbs < Nat.pow 10 maxDigits

/-- An integer in base ten, refused if it has more than `maxDigits` digits. -/
def intText? (n : Int) : Option String :=
  if isWritable n then some (intText n) else none

example : readInt? " -1_000\n".toList = some (-1000) := by decide
example : readInt? "1__0".toList = none := by decide
example : readInt? "- 5".toList = none := by decide

end Abacus.Numeral
