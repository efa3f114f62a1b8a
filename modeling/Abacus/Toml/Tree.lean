import Abacus.Association
import Abacus.Toml.Text

/-!
# Tables under construction

A document builds its tables piecemeal: headers open them, dotted keys reach into them, and repeated
headers add to arrays of them. Each table remembers how it came about, because that decides who may
still add to it:

* one that was only passed through on the way to another may be opened once by a header, or
  reached by dotted keys;
* one that dotted keys made or reached may be reached again by dotted keys of the same section, and
  by nothing else;
* one that a header opened is complete when its section ends.

Values, including inline tables and arrays, are never added to.
-/

namespace Abacus.Toml

/-- How a table came about. Sections are numbered by the headers before them. -/
inductive Origin
  | passed
  | dotted (section_ : Nat)
  | opened
  deriving DecidableEq, Repr

/-- Whether dotted keys of a section may reach into a table. -/
def Origin.isReachableFrom (o : Origin) (section_ : Nat) : Bool :=
  o = .passed || o = .dotted section_

/-- A node of the tree of tables. The items of an array of tables stand last first. -/
inductive Node
  | value (d : Datum)
  | table (origin : Origin) (entries : List (String × Node))
  | tables (items : List (List (String × Node)))

namespace Node

/-- The entries of a table under construction. -/
abbrev Entries : Type := List (String × Node)

mutual

/-- The finished value of a node. -/
def toDatum : Node → Datum
  | .value d => d
  | .table _ entries => .table (finish entries)
  | .tables items => .list (finishItems items).reverse

/-- The finished entries of a table. -/
def finish : List (String × Node) → List (String × Datum)
  | [] => []
  | (key, node) :: rest => (key, node.toDatum) :: finish rest

/-- The finished items of an array of tables, last first. -/
def finishItems : List (List (String × Node)) → List Datum
  | [] => []
  | entries :: rest => .table (finish entries) :: finishItems rest

end

/-- Changes the table at a path by `f`, passing through tables and through the last items of arrays
of tables; tables that are missing are made. -/
def changeAt (f : Entries → Except Failure Entries) : List String → Entries → Except Failure Entries
  | [], entries => f entries
  | key :: path, entries => do
    let node ← match entries.lookup key with
      | none => (changeAt f path []).map (Node.table .passed)
      | some (.table origin inner) => (changeAt f path inner).map (Node.table origin)
      | some (.tables (last :: earlier)) =>
        (changeAt f path last).map fun last => Node.tables (last :: earlier)
      | some _ => .error .invalid
    return Association.set key node entries

/-- Opens the table with a given name. -/
def openTable (name : String) (entries : Entries) : Except Failure Entries :=
  match entries.lookup name with
  | none => .ok (Association.set name (.table .opened []) entries)
  | some (.table .passed inner) => .ok (Association.set name (.table .opened inner) entries)
  | some _ => .error .invalid

/-- Adds an empty table to the array of tables with a given name. -/
def openItem (name : String) (entries : Entries) : Except Failure Entries :=
  match entries.lookup name with
  | none => .ok (Association.set name (.tables [[]]) entries)
  | some (.tables items) => .ok (Association.set name (.tables ([] :: items)) entries)
  | some _ => .error .invalid

/-- Adds a value under a dotted key. The value has to be new. -/
def insert (section_ : Nat) (d : Datum) : List String → Entries → Except Failure Entries
  | [], _ => .error .invalid
  | [key], entries =>
    if (entries.lookup key).isSome then .error .invalid
    else .ok (Association.set key (.value d) entries)
  | key :: path, entries => do
    let inner ← match entries.lookup key with
      | none => pure []
      | some (.table origin inner) =>
        if origin.isReachableFrom section_ then pure inner else throw .invalid
      | some _ => throw .invalid
    let inner ← insert section_ d path inner
    return Association.set key (.table (.dotted section_) inner) entries

end Node

end Abacus.Toml
