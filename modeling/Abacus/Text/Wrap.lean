/-!
# Wrapping

Lines that are broken at spaces to fit a width. A line is filled as far as possible before the next
one begins; a word longer than the width has a line of its own.
-/

namespace Abacus.Text

/-- Breaks the words that are left into lines, of which `line` is the one being filled. -/
def fillLines (width : Nat) (line : String) : List String → List String
  | [] => [line]
  | word :: rest =>
    if line.length + 1 + word.length ≤ width then fillLines width (line ++ " " ++ word) rest
    else line :: fillLines width word rest

/-- A line broken to fit a width. -/
def wrapLine (width : Nat) (line : String) : List String :=
  match line.splitOn " " with
  | [] => []
  | word :: rest => fillLines width word rest

end Abacus.Text
