import Abacus.Text.Lines

/-!
# Documents

The documents that a program can read, by name. Names are paths; two that differ only in repeated
or closing slashes, or in steps that stay in place, name the same document.
-/

namespace Abacus

/-- Documents with their names. Of two with the same name the later one counts. -/
structure Documents where
  texts : List (String × String)

namespace Documents

/-- No documents. -/
def none : Documents := ⟨[]⟩

/-- The steps of a path. -/
def steps (path : List Char) : List (List Char) :=
  (path.splitOn '/').filter fun step => !step.isEmpty && step ≠ ['.']

/-- The slashes a normal path begins with: two are kept, more count as one. -/
def root (path : List Char) : List Char :=
  match (path.takeWhile (· = '/')).length with
  | 0 => []
  | 2 => ['/', '/']
  | _ => ['/']

/-- The normal form of a path. -/
def normalPath (path : String) : String :=
  let chars := root path.toList ++ ['/'].intercalate (steps path.toList)
  if chars.isEmpty then "." else String.ofList chars

/-- The text of a document, with lines that end in a line feed. -/
def read? (documents : Documents) (path : String) : Option String :=
  (documents.texts.reverse.find? fun (name, _) => normalPath name = normalPath path).map
    fun (_, text) => Text.unified text

end Documents

end Abacus
