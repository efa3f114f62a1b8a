import Abacus.Toml.Text

/-!
# Numbers, dates and truth values of a document

Each reader takes as much as its form allows and says nothing about what follows; text left over is
refused by the reader of the line.
-/

namespace Abacus.Toml

open Abacus.Numeral

/-- The digits at the head of a text, in a run that begins with a digit and may hold single
underscores between digits. -/
def digitRun (isDigit : Char → Bool) : List Char → List Char × List Char
  | [] => ([], [])
  | '_' :: c :: rest =>
    if isDigit c then
      let (digits, rest) := digitRun isDigit rest
      (c :: digits, rest)
    else ([], '_' :: c :: rest)
  | c :: rest =>
    if isDigit c then
      let (digits, rest) := digitRun isDigit rest
      (c :: digits, rest)
    else ([], c :: rest)

/-- The run of digits at the head of a text, empty unless a digit stands first. -/
def digits (isDigit : Char → Bool) (cs : List Char) : List Char × List Char :=
  match cs with
  | c :: _ => if isDigit c then digitRun isDigit cs else ([], cs)
  | [] => ([], [])

/-- The number written by the digits `0` to `9`. -/
def natOfDigits (cs : List Char) : Nat :=
  ofDigits (cs.map fun c => c.toNat - '0'.toNat)

/-- The base that a letter after a zero stands for. -/
def baseOf? : Char → Option Nat
  | 'x' => some 16
  | 'o' => some 8
  | 'b' => some 2
  | _ => none

/-- Whether a character is a digit of a base. -/
def isDigitOf (base : Nat) (c : Char) : Bool :=
  match hexValue? c with
  | some d => d < base
  | none => false

/-- An integer in base two, eight or sixteen. -/
def readBased? : List Char → Option (Datum × List Char)
  | '0' :: letter :: rest => do
    let base ← baseOf? letter
    let (ds, rest) := digits (isDigitOf base) rest
    if ds.isEmpty then none
    else
      let n := (ds.filterMap hexValue?).foldl (fun n d => base * n + d) 0
      return (.integer n, rest)
  | _ => none

/-- The whole part of a decimal number: a zero, or digits that do not begin with one. -/
def readWhole : List Char → List Char × List Char
  | '0' :: rest => (['0'], rest)
  | cs => digits Text.isDigit cs

/-- The part after the point, if digits follow it. -/
def readFraction (cs : List Char) : List Char × List Char :=
  match cs with
  | '.' :: rest =>
    let (ds, rest) := digits Text.isDigit rest
    if ds.isEmpty then ([], cs) else (ds, rest)
  | _ => ([], cs)

/-- The sign at the head of a text: whether it is a minus. -/
def readSign : List Char → Bool × List Char
  | '-' :: rest => (true, rest)
  | '+' :: rest => (false, rest)
  | cs => (false, cs)

/-- The exponent, if there is one. -/
def readExponent (cs : List Char) : Option Int × List Char :=
  match cs with
  | c :: rest =>
    if c = 'e' || c = 'E' then
      let (negative, rest) := readSign rest
      let (ds, rest) := digits Text.isDigit rest
      if ds.isEmpty then (none, cs)
      else
        let n : Int := natOfDigits ds
        (some (if negative then -n else n), rest)
    else (none, cs)
  | [] => (none, [])

/-- A decimal number: floating point if it has a fraction or an exponent, else an integer. -/
def readDecimal? (cs : List Char) : Option (Except Failure (Datum × List Char)) :=
  let (negative, rest) := readSign cs
  let (whole, rest) := readWhole rest
  if whole.isEmpty then none
  else
    let (part, rest) := readFraction rest
    let (exponent?, rest) := readExponent rest
    if part.isEmpty && exponent?.isNone then
      if maxDigits < whole.length then some (.error .numeralTooLong)
      else
        let n : Int := natOfDigits whole
        some (.ok (.integer (if negative then -n else n), rest))
    else
      let e := exponent?.getD 0 - part.length
      some (.ok
        (.float (.ofDecimal negative (natOfDigits (whole ++ part)) e), rest))

/-- The numbers that are written as words. -/
def readSpecialFloat? (cs : List Char) : Option (Datum × List Char) :=
  let (negative, rest) := readSign cs
  if rest.take 3 = ['i', 'n', 'f'] then some (.float (.infinity negative), rest.drop 3)
  else if rest.take 3 = ['n', 'a', 'n'] then some (.float .nan, rest.drop 3)
  else none

/-! ## Dates and times -/

/-- A number of exactly `n` digits that lies within bounds. -/
def readField? (n low high : Nat) (cs : List Char) : Option (Nat × List Char) :=
  let ds := cs.take n
  if ds.length = n && ds.all Text.isDigit then
    let v := natOfDigits ds
    if low ≤ v && v ≤ high then some (v, cs.drop n) else none
  else none

/-- The text after a given character. -/
def readChar? (c : Char) : List Char → Option (List Char)
  | x :: rest => if x = c then some rest else none
  | [] => none

/-- The number of digits of a second that are kept. -/
def fractionDigits : Nat := 6

/-- The fraction of a second, in microseconds; digits beyond those are dropped. -/
def readMicroseconds (cs : List Char) : Nat × List Char :=
  match cs with
  | '.' :: rest =>
    let ds := rest.takeWhile Text.isDigit
    if ds.isEmpty then (0, cs)
    else
      let kept := ds.take fractionDigits
      let padded := kept ++ List.replicate (fractionDigits - kept.length) '0'
      (natOfDigits padded, rest.dropWhile Text.isDigit)
  | _ => (0, cs)

/-- A time of day. -/
def readTime? (cs : List Char) : Option (TimeOfDay × List Char) := do
  let (hour, cs) ← readField? 2 0 23 cs
  let cs ← readChar? ':' cs
  let (minute, cs) ← readField? 2 0 59 cs
  let cs ← readChar? ':' cs
  let (second, cs) ← readField? 2 0 59 cs
  let (microsecond, cs) := readMicroseconds cs
  return (⟨hour, minute, second, microsecond⟩, cs)

/-- A date, whose day need not exist in its month. -/
def readDate? (cs : List Char) : Option (Date × List Char) := do
  let (year, cs) ← readField? 4 0 9999 cs
  let cs ← readChar? '-' cs
  let (month, cs) ← readField? 2 1 12 cs
  let cs ← readChar? '-' cs
  let (day, cs) ← readField? 2 1 31 cs
  return (⟨year, month, day⟩, cs)

/-- A numeric offset from universal time, in minutes, after its sign. -/
def readOffsetMinutes? (cs : List Char) : Option (Nat × List Char) := do
  let (hours, cs) ← readField? 2 0 23 cs
  let cs ← readChar? ':' cs
  let (minutes, cs) ← readField? 2 0 59 cs
  return (hours * 60 + minutes, cs)

/-- The offset after a time, if there is one. -/
def readOffset (cs : List Char) : Option Int × List Char :=
  match cs with
  | c :: rest =>
    if c = 'Z' || c = 'z' then (some 0, rest)
    else
      match readOffsetMinutes? rest with
      | some (n, rest) =>
        if c = '+' then (some n, rest) else if c = '-' then (some (-(n : Int)), rest)
        else (none, cs)
      | none => (none, cs)
  | [] => (none, [])

/-- The time that follows a date after `T` or a space, with its offset. -/
def readTimeAfterDate? (cs : List Char) : Option (TimeOfDay × Option Int × List Char) :=
  match cs with
  | c :: rest => do
    if c = 'T' || c = 't' || c = ' ' then
      let (time, rest) ← readTime? rest
      let (offset?, rest) := readOffset rest
      return (time, offset?, rest)
    else none
  | [] => none

/-- A date, a date with a time, or a time alone. A date that is not on the calendar is refused. -/
def readMoment? (cs : List Char) : Option (Except Failure (Datum × List Char)) :=
  match readDate? cs with
  | some (date, rest) =>
    if !date.isValid then some (.error .invalid)
    else
      match readTimeAfterDate? rest with
      | some (time, offset?, rest) => some (.ok (.moment (.dateTime date time offset?), rest))
      | none => some (.ok (.moment (.date date), rest))
  | none => (readTime? cs).map fun (time, rest) => .ok (.moment (.time time), rest)

/-- A truth value. -/
def readBoolean? (cs : List Char) : Option (Datum × List Char) :=
  if cs.take 4 = ['t', 'r', 'u', 'e'] then some (.boolean true, cs.drop 4)
  else if cs.take 5 = ['f', 'a', 'l', 's', 'e'] then some (.boolean false, cs.drop 5)
  else none

/-- A value that is neither a string nor composed of others. Dates come before numbers, which their
first digits could be mistaken for. -/
def readScalar (cs : List Char) : Except Failure (Datum × List Char) :=
  match readBoolean? cs with
  | some r => .ok r
  | none =>
    match readMoment? cs with
    | some r => r
    | none =>
      match readBased? cs with
      | some r => .ok r
      | none =>
        match readDecimal? cs with
        | some r => r
        | none =>
          match readSpecialFloat? cs with
          | some r => .ok r
          | none => .error .invalid

end Abacus.Toml
