import Abacus.Toml.Scalar
import Abacus.Toml.Tree

/-!
# TOML documents

A document is a list of lines: headers, which open tables, and pairs of a key and a value, which go
into the table opened last. The first line that breaks a rule makes the whole document invalid.

Values nest, so their readers call each other; what ends them is that the text left grows shorter.
Where a reader goes on with what another one left, it tests that this is so.
-/

namespace Abacus.Toml

/-! ## Values -/

mutual

/-- Reads a value. -/
def readValue (cs : List Char) : Except Failure (Datum × List Char) :=
  match cs with
  | [] => .error .invalid
  | c :: rest =>
    if c = Text.doubleMark || c = Text.singleMark then do
      let (body, rest) ← readString c (c :: rest)
      return (.text (String.ofList body), rest)
    else if c = '[' then do
      let next ← skipLines false rest
      if _h : next.length ≤ rest.length then
        let (items, rest) ← readItems next
        return (.list items, rest)
      else throw .invalid
    else if c = '{' then do
      if (skipSpaces rest).head? = some '}' then return (.table [], (skipSpaces rest).drop 1)
      else if _h : (skipSpaces rest).length ≤ rest.length then
        let (entries, rest) ← readEntries [] (skipSpaces rest)
        return (.table (Node.finish entries), rest)
      else throw .invalid
    else readScalar (c :: rest)
termination_by (cs.length, 0)
decreasing_by all_goals simp only [List.length_cons]; omega

/-- Reads the items of an array up to its end; a comma may stand before the end. -/
def readItems (cs : List Char) : Except Failure (List Datum × List Char) :=
  match cs with
  | ']' :: rest => .ok ([], rest)
  | cs => do
    let (d, rest) ← readValue cs
    match ← skipLines false rest with
    | ']' :: rest => return ([d], rest)
    | ',' :: rest => do
      let next ← skipLines false rest
      if _h : next.length < cs.length then
        let (items, rest) ← readItems next
        return (d :: items, rest)
      else throw .invalid
    | _ => throw .invalid
termination_by (cs.length, 1)
decreasing_by all_goals omega

/-- Reads the entries of an inline table up to its end, and adds them to those before. -/
def readEntries (entries : Node.Entries) (cs : List Char) :
    Except Failure (Node.Entries × List Char) := do
  let (key, rest) ← readKey cs
  match rest with
  | '=' :: rest => do
    if _h : (skipSpaces rest).length < cs.length then
      let (d, rest) ← readValue (skipSpaces rest)
      let entries ← Node.insert 0 d key entries
      match skipSpaces rest with
      | '}' :: rest => return (entries, rest)
      | ',' :: rest => do
        if _h : (skipSpaces rest).length < cs.length then readEntries entries (skipSpaces rest)
        else throw .invalid
      | _ => throw .invalid
    else throw .invalid
  | _ => throw .invalid
termination_by (cs.length, 1)
decreasing_by all_goals omega

end

/-! ## Lines -/

/-- The state between lines: the header of the section, its number, and the tables built so far. -/
structure Progress where
  header : List String
  section_ : Nat
  entries : Node.Entries

/-- The state before the first line. -/
def Progress.start : Progress := ⟨[], 0, []⟩

/-- Begins the section of a header, whose table `f` opens under the last part of its name. -/
def Progress.enter (p : Progress) (f : String → Node.Entries → Except Failure Node.Entries)
    (header : List String) : Except Failure Progress :=
  match header.getLast? with
  | none => .error .invalid
  | some name => do
    let entries ← Node.changeAt (f name) header.dropLast p.entries
    return ⟨header, p.section_ + 1, entries⟩

/-- Adds a pair to the table of the section. -/
def Progress.add (p : Progress) (key : List String) (d : Datum) : Except Failure Progress := do
  let entries ← Node.changeAt (Node.insert p.section_ d key) p.header p.entries
  return { p with entries }

/-- Reads what a line says, up to its comment or end; a line may say nothing. -/
def readLine (p : Progress) (cs : List Char) : Except Failure (Progress × List Char) :=
  match cs with
  | [] => .ok (p, [])
  | '[' :: '[' :: rest => do
    let (header, rest) ← readKey (skipSpaces rest)
    let p ← p.enter Node.openItem header
    match rest with
    | ']' :: ']' :: rest => return (p, rest)
    | _ => throw .invalid
  | '[' :: rest => do
    let (header, rest) ← readKey (skipSpaces rest)
    let p ← p.enter Node.openTable header
    match rest with
    | ']' :: rest => return (p, rest)
    | _ => throw .invalid
  | c :: rest =>
    if beginsKey c then do
      let (key, rest) ← readKey (c :: rest)
      match rest with
      | '=' :: rest => do
        let (d, rest) ← readValue (skipSpaces rest)
        return (← p.add key d, rest)
      | _ => throw .invalid
    else if c = '#' || c = '\n' then .ok (p, c :: rest)
    else .error .invalid

/-- Reads the lines of a document. -/
def readLines (p : Progress) (cs : List Char) : Except Failure Progress := do
  let (p, rest) ← readLine p (skipSpaces cs)
  match ← skipComment (skipSpaces rest) with
  | [] => return p
  | '\n' :: rest =>
    if _h : rest.length < cs.length then readLines p rest else throw .invalid
  | _ => throw .invalid
termination_by cs.length

/-- The table that a document, with lines that end in `\n`, describes. -/
def read (source : String) : Except Failure (List (String × Datum)) :=
  (readLines .start source.toList).map fun p => Node.finish p.entries

end Abacus.Toml
