import Abacus.Numeral.Decimal

/-!
# Layout specifications

How a value is laid out where a template mentions it. A specification is a short text with a fixed
order of optional parts:

`[[fill]align][sign][z][#][0][width][grouping][.precision][type]`

A specification is first read on its own, and only then applied to a number or a text, each of
which accepts some combinations and refuses others.
-/

namespace Abacus.Template

/-- Why a template cannot be filled in. -/
inductive Failure
  /-- The template, or one of its specifications, is not well formed or does not suit the value. -/
  | malformed
  /-- A field with a name other than that of the value. -/
  | unknownName
  /-- A field that asks for a value by its number, or for a place that a text does not have. -/
  | unknownIndex
  /-- A field that asks for an attribute the value does not have. -/
  | unknownAttribute
  /-- A field that asks for an item of what has none, or of a text by a word. -/
  | notIndexable
  /-- A field with a layout for what takes none. -/
  | noLayout
  /-- A value too great, or too small, for the asked presentation. -/
  | outOfRange
  /-- A field that asks for an attribute of what is no integer. Whether there is one is left open. -/
  | leftOpen
  deriving DecidableEq, Repr

/-- Where padding goes: after, before or around the value, or between its sign and its digits. -/
inductive Align
  | left | right | center | inner
  deriving DecidableEq, Repr

/-- The alignment a character stands for. -/
def Align.ofChar? : Char → Option Align
  | '<' => some .left
  | '>' => some .right
  | '^' => some .center
  | '=' => some .inner
  | _ => none

/-- What stands before a number that is not negative. -/
inductive SignRule
  | plus | minus | space
  deriving DecidableEq, Repr

/-- The sign rule a character stands for. -/
def SignRule.ofChar? : Char → Option SignRule
  | '+' => some .plus
  | '-' => some .minus
  | ' ' => some .space
  | _ => none

/-- A layout specification as it is read. -/
structure Spec where
  /-- The padding character, if one is named. -/
  fill? : Option Char
  align? : Option Align
  sign? : Option SignRule
  /-- Whether a negative zero is to lose its sign (`z`). -/
  plainZero : Bool
  /-- Whether the alternate form is asked for (`#`). -/
  alternate : Bool
  /-- Whether a zero stands before the width. -/
  zeroPadded : Bool
  width? : Option Nat
  /-- The character between groups of digits. -/
  separator? : Option Char
  precision? : Option Nat
  type? : Option Char
  deriving DecidableEq, Repr

namespace Spec

/-- The greatest width or precision that is read. -/
def greatestSize : Nat := 9223372036854775807

/-- The number at the head of a specification and what follows it: nothing if there is no digit,
and a failure if the number is too great. -/
def readSize : List Char → Except Failure (Option Nat × List Char)
  | cs =>
    let digits := cs.takeWhile fun c => (Text.digitValue? c).isSome
    let rest := cs.dropWhile fun c => (Text.digitValue? c).isSome
    if digits.isEmpty then .ok (none, rest)
    else
      let n := Numeral.ofDigits (digits.filterMap Text.digitValue?)
      if n ≤ greatestSize then .ok (some n, rest) else .error .malformed

/-- The padding character and the alignment. A character before an alignment is the padding, even
if it is an alignment too. -/
def readAlign : List Char → Option Char × Option Align × List Char
  | c :: a :: rest =>
    match Align.ofChar? a with
    | some align => (some c, some align, rest)
    | none =>
      match Align.ofChar? c with
      | some align => (none, some align, a :: rest)
      | none => (none, none, c :: a :: rest)
  | [c] =>
    match Align.ofChar? c with
    | some align => (none, some align, [])
    | none => (none, none, [c])
  | [] => (none, none, [])

/-- The sign rule. -/
def readSign : List Char → Option SignRule × List Char
  | c :: rest =>
    match SignRule.ofChar? c with
    | some sign => (some sign, rest)
    | none => (none, c :: rest)
  | [] => (none, [])

/-- Whether a given character stands at the head. -/
def readFlag (flag : Char) : List Char → Bool × List Char
  | c :: rest => if c = flag then (true, rest) else (false, c :: rest)
  | [] => (false, [])

/-- The separator between groups: a comma or an underscore, but not both. -/
def readSeparator : List Char → Except Failure (Option Char × List Char)
  | ',' :: '_' :: _ => .error .malformed
  | '_' :: ',' :: _ => .error .malformed
  | ',' :: rest => .ok (some ',', rest)
  | '_' :: rest => .ok (some '_', rest)
  | rest => .ok (none, rest)

/-- The precision: a point and a number. -/
def readPrecision : List Char → Except Failure (Option Nat × List Char)
  | '.' :: rest => do
    let (size?, rest) ← readSize rest
    match size? with
    | some n => return (some n, rest)
    | none => throw .malformed
  | rest => .ok (none, rest)

/-- The type: at most one character, and nothing after it. -/
def readType : List Char → Except Failure (Option Char)
  | [] => .ok none
  | [c] => .ok (some c)
  | _ => .error .malformed

/-- Reads a specification. -/
def read (cs : List Char) : Except Failure Spec := do
  let (fill?, align?, cs) := readAlign cs
  let (sign?, cs) := readSign cs
  let (plainZero, cs) := readFlag 'z' cs
  let (alternate, cs) := readFlag '#' cs
  let (zeroPadded, cs) := if fill?.isSome then (false, cs) else readFlag '0' cs
  let (width?, cs) ← readSize cs
  let (separator?, cs) ← readSeparator cs
  let (precision?, cs) ← readPrecision cs
  let type? ← readType cs
  return ⟨fill?, align?, sign?, plainZero, alternate, zeroPadded, width?, separator?, precision?,
    type?⟩

/-- The padding character: the named one, else a zero if one stands before the width. -/
def fill (s : Spec) : Char :=
  s.fill?.getD (if s.zeroPadded then '0' else ' ')

/-- The least number of characters. -/
def width (s : Spec) : Nat :=
  s.width?.getD 0

/-- The size of the groups between separators for a type of presentation: three digits for decimal
presentations, four for binary, octal and hexadecimal ones, which take underscores alone. No other
type has groups. -/
def groupSize? (separator type : Char) : Option Nat :=
  if ['d', 'e', 'E', 'f', 'F', 'g', 'G', '%'].contains type then some 3
  else if separator = '_' && ['b', 'o', 'x', 'X'].contains type then some 4
  else none

/-- The separator and the size of groups asked for, if any; refused if the type has none. -/
def grouping (s : Spec) (type : Char) : Except Failure (Option (Char × Nat)) :=
  match s.separator? with
  | none => .ok none
  | some separator =>
    match groupSize? separator type with
    | some size => .ok (some (separator, size))
    | none => .error .malformed

/-- The padding before and after a value that lacks `n` characters; `inner` padding is no part of
it. -/
def sidePadding (align : Align) (n : Nat) : Nat × Nat :=
  match align with
  | .left => (0, n)
  | .right => (n, 0)
  | .center => (n / 2, n - n / 2)
  | .inner => (0, 0)

end Spec

end Abacus.Template
