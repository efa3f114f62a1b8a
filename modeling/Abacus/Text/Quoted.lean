import Abacus.Text.Printable

/-!
# Quoted text

A text in quotation marks, in the form messages show it: every character that would be invisible
or ambiguous is written as an escape. Single marks are preferred; a text that holds a single mark
and no double one is put in double marks, so that nothing needs an escape.
-/

namespace Abacus.Text

/-- The hexadecimal digits of a number, in lower case, padded with zeros to a width. -/
def hexDigits (width n : Nat) : List Char :=
  let digits := Nat.toDigits 16 n
  List.replicate (width - digits.length) '0' ++ digits

/-- The written form of one character between marks `mark`. -/
def escape (mark c : Char) : List Char :=
  if c = mark || c = '\\' then ['\\', c]
  else if c = '\t' then ['\\', 't']
  else if c = '\n' then ['\\', 'n']
  else if c = '\r' then ['\\', 'r']
  else if isPrintable c then [c]
  else if c.toNat < 0x100 then ['\\', 'x'] ++ hexDigits 2 c.toNat
  else if c.toNat < 0x10000 then ['\\', 'u'] ++ hexDigits 4 c.toNat
  else ['\\', 'U'] ++ hexDigits 8 c.toNat

/-- The single quotation mark. -/
def singleMark : Char := '\x27'

/-- The double quotation mark. -/
def doubleMark : Char := '\x22'

/-- The mark a text is put in: double if it holds a single mark and no double one. -/
def quotationMark (cs : List Char) : Char :=
  if cs.contains singleMark && !cs.contains doubleMark then doubleMark else singleMark

/-- The characters of a text, put in quotation marks. -/
def quotedChars (cs : List Char) : List Char :=
  let mark := quotationMark cs
  mark :: cs.flatMap (escape mark) ++ [mark]

/-- A text in quotation marks. -/
def quoted (s : String) : String :=
  String.ofList (quotedChars s.toList)

end Abacus.Text
