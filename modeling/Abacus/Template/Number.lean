import Abacus.Numeral.Binary64
import Abacus.Template.Spec

/-!
# Laying out numbers

A number is laid out in parts: a sign, a base mark, digits that may be grouped, and a tail that is
copied as it stands. Padding goes around the parts or between mark and digits. Padding with zeros
between mark and digits continues the digits, so the zeros are grouped with them.

An integer is presented in base two, eight, ten or sixteen, as the character with its code, or,
rounded to floating point, in fixed, scientific or general form.
-/

namespace Abacus.Template

/-- The parts of a number. -/
structure NumberParts where
  negative : Bool
  mark : List Char
  digits : List Char
  tail : List Char

namespace NumberParts

/-- The number of digits that fill at least `width` places when a separator stands between groups
of `size`; a group is never preceded by a separator alone. -/
def digitsToFill (size width : Nat) : Nat :=
  let n := width - width / (size + 1)
  if width % (size + 1) = 0 && 0 < width then n + 1 else n

/-- The digits, last group first, cut into groups of `size`. -/
def grouped (separator : Char) (size : Nat) : Nat → List Char → List Char
  | _, [] => []
  | 0, c :: rest => separator :: c :: grouped separator size (size - 1) rest
  | left + 1, c :: rest => c :: grouped separator size left rest

/-- The digits, extended with zeros to at least `width` places and grouped. No digits stay none. -/
def groupedDigits (grouping : Option (Char × Nat)) (width : Nat) (digits : List Char) : List Char :=
  if digits.isEmpty then []
  else
    match grouping with
    | none => List.replicate (width - digits.length) '0' ++ digits
    | some (separator, size) =>
      let zeros := List.replicate (digitsToFill size width - digits.length) '0'
      (grouped separator size size (zeros ++ digits).reverse).reverse

/-- The sign that a rule gives a number. -/
def sign (rule : Option SignRule) (negative : Bool) : List Char :=
  if negative then ['-']
  else
    match rule with
    | some .plus => ['+']
    | some .space => [' ']
    | _ => []

/-- Lays out a number. Without a word on alignment, zeros before the width go between sign and
digits, and all else goes before the number. -/
def layout (s : Spec) (grouping : Option (Char × Nat)) (n : NumberParts) : List Char :=
  let align := s.align?.getD (if s.zeroPadded then .inner else .right)
  let sign := sign s.sign? n.negative
  let rigid := sign.length + n.mark.length + n.tail.length
  let digitWidth := if s.fill = '0' && align = .inner then s.width - rigid else 0
  let digits := groupedDigits grouping digitWidth n.digits
  let lacking := s.width - (rigid + digits.length)
  let (before, after) := Spec.sidePadding align lacking
  let between := if align = .inner then lacking else 0
  List.replicate before s.fill ++ sign ++ n.mark ++ List.replicate between s.fill ++ digits
    ++ n.tail ++ List.replicate after s.fill

end NumberParts

/-! ## Integers in a base -/

/-- The base of a type of presentation, and the mark of its alternate form. -/
def baseOf? : Char → Option (Nat × List Char)
  | 'b' => some (2, ['0', 'b'])
  | 'o' => some (8, ['0', 'o'])
  | 'x' => some (16, ['0', 'x'])
  | 'X' => some (16, ['0', 'X'])
  | _ => none

/-- The parts of an integer in base ten, which has to be writable. -/
def decimalParts (v : Int) : Except Failure NumberParts :=
  if Numeral.isWritable v then .ok ⟨v < 0, [], Nat.toDigits 10 v.natAbs, []⟩
  else .error .malformed

/-- The parts of an integer in another base. -/
def basedParts (s : Spec) (type : Char) (base : Nat) (mark : List Char) (v : Int) : NumberParts :=
  let digits := Nat.toDigits base v.natAbs
  ⟨v < 0, if s.alternate then mark else [],
    if type = 'X' then digits.map Char.toUpper else digits, []⟩

/-- The number of codes that a text can be made of. -/
def codeCount : Nat := 0x110000

/-- What stands in a text for a code that is no character, being half of a pair of codes. -/
def replacement : Char := '\uFFFD'

/-- The character with a given code, as the tail of a number without digits. -/
def characterParts (v : Int) : Except Failure NumberParts :=
  if 0 ≤ v ∧ v < codeCount then
    .ok ⟨false, [], [], [if v.toNat.isValidChar then Char.ofNat v.toNat else replacement]⟩
  else .error .outOfRange

/-! ## Integers in floating point -/

/-- The precision of floating-point forms that do not name one. -/
def defaultPrecision : Nat := 6

/-- The greatest precision of floating-point forms. -/
def greatestPrecision : Nat := 2147483647

/-- The fixed form of a natural number with `p` places: whole digits and tail. -/
def fixedForm (alternate : Bool) (p n : Nat) : List Char × List Char :=
  (Nat.toDigits 10 n,
    if p = 0 then (if alternate then ['.'] else []) else '.' :: List.replicate p '0')

/-- The scientific form of a natural number with `p` places. -/
def scientificForm (alternate : Bool) (mark : Char) (p n : Nat) : List Char × List Char :=
  let (d, e) := Numeral.significant (p + 1) n
  let digits := Nat.toDigits 10 d
  let digits := digits ++ List.replicate (p + 1 - digits.length) '0'
  let places := digits.drop 1
  (digits.take 1,
    (if places.isEmpty then (if alternate then ['.'] else []) else '.' :: places)
      ++ mark :: Numeral.Binary64.exponentText e)

/-- A tail without the zeros at the end of its places, and without a point that they leave bare. -/
def bareTail (places : List Char) : List Char :=
  let places := Numeral.Binary64.stripZeros places
  if places.isEmpty then [] else '.' :: places

/-- The general form of a natural number with `p` significant digits: scientific if its exponent
reaches `p`, else fixed. Only the alternate form keeps zeros at the end of the places. -/
def generalForm (alternate : Bool) (mark : Char) (p n : Nat) : List Char × List Char :=
  let p := max p 1
  let (d, e) := Numeral.significant p n
  let digits := Nat.toDigits 10 d
  let digits := digits ++ List.replicate (p - digits.length) '0'
  let (whole, exponent) :=
    if p ≤ e then (1, mark :: Numeral.Binary64.exponentText e) else (e + 1, [])
  let places := digits.drop whole
  (digits.take whole, (if alternate then '.' :: places else bareTail places) ++ exponent)

/-- The parts of an integer in a floating-point form. A percentage is rounded again after it was
multiplied, and one that is too great for floating point is infinite. -/
def floatParts (s : Spec) (type : Char) (v : Int) : Except Failure NumberParts :=
  match Numeral.Binary64.roundNat? v.natAbs with
  | none => .error .outOfRange
  | some n =>
    let p := s.precision?.getD defaultPrecision
    if greatestPrecision < p then .error .malformed
    else
      let parts (form : List Char × List Char) : NumberParts := ⟨v < 0, [], form.1, form.2⟩
      .ok <| parts <|
        if type = 'f' || type = 'F' then fixedForm s.alternate p n
        else if type = 'e' || type = 'E' then scientificForm s.alternate type p n
        else if type = 'g' then generalForm s.alternate 'e' p n
        else if type = 'G' then generalForm s.alternate 'E' p n
        else
          match Numeral.Binary64.roundNat? (n * 100) with
          | some n =>
            let (whole, tail) := fixedForm s.alternate p n
            (whole, tail ++ ['%'])
          | none => ([], ['i', 'n', 'f', '%'])

/-! ## Integers -/

/-- Whether a type of presentation is a floating-point form. -/
def isFloatType (type : Char) : Bool :=
  ['e', 'E', 'f', 'F', 'g', 'G', '%'].contains type

/-- The parts of an integer in one of the integer presentations, which have no precision and no
negative zero. A character has neither sign nor alternate form. -/
def integerParts (s : Spec) (type : Char) (v : Int) : Except Failure NumberParts :=
  if s.precision?.isSome || s.plainZero then .error .malformed
  else if type = 'c' then
    if s.sign?.isSome || s.alternate then .error .malformed else characterParts v
  else
    match baseOf? type with
    | some (base, mark) => .ok (basedParts s type base mark v)
    | none => if type = 'd' || type = 'n' then decimalParts v else .error .malformed

/-- An integer laid out by a specification. -/
def formatInt (spec : List Char) (v : Int) : Except Failure (List Char) := do
  let s ← Spec.read spec
  let type := s.type?.getD 'd'
  let grouping ← s.grouping type
  let parts ← if isFloatType type then floatParts s type v else integerParts s type v
  return parts.layout s grouping

/-! ## Texts -/

/-- A text laid out by a specification: it may be cut and padded, and has no sign, no groups, no
alternate form and no inner padding. -/
def formatText (spec : List Char) (text : List Char) : Except Failure (List Char) := do
  let s ← Spec.read spec
  let type := s.type?.getD 's'
  let _ ← s.grouping type
  let align := s.align?.getD .left
  if type ≠ 's' || s.sign?.isSome || s.plainZero || s.alternate || align = .inner then
    throw .malformed
  let shown := match s.precision? with
    | some p => text.take p
    | none => text
  let (before, after) := Spec.sidePadding align (s.width - shown.length)
  return List.replicate before s.fill ++ shown ++ List.replicate after s.fill

end Abacus.Template
