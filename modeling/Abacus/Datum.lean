import Abacus.Datum.Moment
import Abacus.Numeral.Binary64
import Abacus.Text.Quoted

/-!
# Data

The values that a settings document can hold. A table keeps its entries in the order in which they
were written. Messages that refuse a value show it in full; only an integer with too many digits
cannot be shown.
-/

namespace Abacus

/-- A value of a document. -/
inductive Datum
  | nothing
  | boolean (b : Bool)
  | integer (n : Int)
  | float (x : Numeral.Binary64)
  | text (s : String)
  | moment (m : Moment)
  | list (items : List Datum)
  | table (entries : List (String × Datum))

namespace Datum

instance : Inhabited Datum := ⟨nothing⟩

mutual

/-- The text of a value, and `none` if it holds an integer that cannot be shown. -/
def show? : Datum → Option String
  | .nothing => some "None"
  | .boolean b => some (if b then "True" else "False")
  | .integer n => Numeral.intText? n
  | .float x => some (String.ofList x.chars)
  | .text s => some (Text.quoted s)
  | .moment m => some m.text
  | .list items => do
    let parts ← showItems? items
    return "[" ++ ", ".intercalate parts ++ "]"
  | .table entries => do
    let parts ← showEntries? entries
    return "\x7b" ++ ", ".intercalate parts ++ "\x7d"

/-- The texts of the items of a list. -/
def showItems? : List Datum → Option (List String)
  | [] => some []
  | d :: rest => do
    let part ← d.show?
    let parts ← showItems? rest
    return part :: parts

/-- The texts of the entries of a table. -/
def showEntries? : List (String × Datum) → Option (List String)
  | [] => some []
  | (key, d) :: rest => do
    let part ← d.show?
    let parts ← showEntries? rest
    return (Text.quoted key ++ ": " ++ part) :: parts

end

end Datum

end Abacus
