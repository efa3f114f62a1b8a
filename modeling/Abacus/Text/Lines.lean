import Abacus.Text.Blank

/-!
# Lines

Texts that are made of lines. A document or a stream may end its lines with a line feed, a carriage
return, or both; inside the program a line feed ends every line.
-/

namespace Abacus.Text

/-- Whether a character belongs to the end of a line. -/
def isLineEnd (c : Char) : Bool := c = '\n' || c = '\r'

/-- The text in which every line ends with a line feed. -/
def unifyLineEnds : List Char → List Char
  | [] => []
  | '\r' :: '\n' :: rest => '\n' :: unifyLineEnds rest
  | '\r' :: rest => '\n' :: unifyLineEnds rest
  | c :: rest => c :: unifyLineEnds rest

/-- The string in which every line ends with a line feed. -/
def unified (s : String) : String :=
  String.ofList (unifyLineEnds s.toList)

/-- The lines of a text, each with the line feed that ends it; the last may have none. -/
def linesWithEnds : List Char → List (List Char)
  | [] => []
  | c :: rest =>
    if c = '\n' then [c] :: linesWithEnds rest
    else
      match linesWithEnds rest with
      | [] => [[c]]
      | line :: lines => (c :: line) :: lines

/-- Lines put together again are the text they were cut from. -/
theorem flatten_linesWithEnds (cs : List Char) : (linesWithEnds cs).flatten = cs := by
  fun_induction linesWithEnds cs with
  | case1 => rfl
  | case2 rest ih => simpa using ih
  | case3 c rest _ h ih => simpa [h] using ih
  | case4 c rest _ line lines h ih => simpa [h] using ih

/-- The line without what ends it. -/
def withoutLineEnd (cs : List Char) : List Char :=
  dropEndWhile isLineEnd cs

/-- Whether a line holds nothing but white space. -/
def isBlankLine (cs : List Char) : Bool :=
  cs.all isBlank

end Abacus.Text
