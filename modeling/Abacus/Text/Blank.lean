import Abacus.Text.CodeRange

/-!
# White space

The white space that separates tokens and is trimmed from the ends of a text: the characters with
the white-space property, and the four information separators `U+001C` to `U+001F`.
-/

namespace Abacus.Text

/-- The ranges of white space, in increasing order. -/
def blankRanges : List CodeRange := [
  ⟨0x9, 0xD⟩, ⟨0x1C, 0x20⟩, ⟨0x85, 0x85⟩, ⟨0xA0, 0xA0⟩, ⟨0x1680, 0x1680⟩, ⟨0x2000, 0x200A⟩,
  ⟨0x2028, 0x2029⟩, ⟨0x202F, 0x202F⟩, ⟨0x205F, 0x205F⟩, ⟨0x3000, 0x3000⟩]

/-- Whether a character is white space. -/
def isBlank (c : Char) : Bool :=
  blankRanges.any (·.contains c.toNat)

/-- No printable character of the ASCII range is white space. -/
theorem isBlank_eq_false {c : Char} (hl : 0x20 < c.toNat) (hu : c.toNat < 0x7F) :
    isBlank c = false := by
  rw [isBlank, List.any_eq_false]
  intro r hr
  rw [CodeRange.contains_iff]
  simp only [blankRanges, List.mem_cons, List.not_mem_nil, or_false] at hr
  rcases hr with rfl | rfl | rfl | rfl | rfl | rfl | rfl | rfl | rfl | rfl <;>
    simp only <;> omega

/-- The text without the white space at its start. -/
def trimStart (cs : List Char) : List Char :=
  cs.dropWhile isBlank

/-- The text without its longest ending that satisfies `p`. -/
def dropEndWhile (p : Char → Bool) (cs : List Char) : List Char :=
  (cs.reverse.dropWhile p).reverse

/-- The text without the white space at both ends. -/
def trim (cs : List Char) : List Char :=
  dropEndWhile isBlank (trimStart cs)

/-- The string without the white space at both ends. -/
def trimmed (s : String) : String :=
  String.ofList (trim s.toList)

example : trim " a b\t".toList = "a b".toList := by decide

end Abacus.Text
