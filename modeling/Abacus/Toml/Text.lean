import Abacus.Datum

/-!
# Keys, strings and comments of a document

The parts of a TOML document whose text is free: what may be skipped between values, the four kinds
of string, and keys. Readers take the text that is left and give back what they read together with
the rest.
-/

namespace Abacus.Toml

/-- Why a document cannot be read. -/
inductive Failure
  /-- The text breaks the rules of the format. -/
  | invalid
  /-- A decimal integer has more digits than are read. -/
  | numeralTooLong
  deriving DecidableEq, Repr

/-- White space within a line. -/
def isSpace (c : Char) : Bool := c = ' ' || c = '\t'

/-- White space and line ends. -/
def isSpaceOrLine (c : Char) : Bool := isSpace c || c = '\n'

/-- Control characters other than the tab, which may stand nowhere but for line ends. -/
def isControl (c : Char) : Bool := (c.toNat < 0x20 || c.toNat = 0x7F) && c ≠ '\t'

/-- The text without the white space at its start. -/
def skipSpaces (cs : List Char) : List Char := cs.dropWhile isSpace

/-- Skips a comment, if one begins here, up to the line end. -/
def skipComment : List Char → Except Failure (List Char)
  | '#' :: rest =>
    if (rest.takeWhile (· ≠ '\n')).any isControl then .error .invalid
    else .ok (rest.dropWhile (· ≠ '\n'))
  | cs => .ok cs

/-- Skips white space, line ends and comments; `inComment` tells whether a comment has begun. -/
def skipLines (inComment : Bool) : List Char → Except Failure (List Char)
  | [] => .ok []
  | c :: rest =>
    if c = '\n' then skipLines false rest
    else if inComment then if isControl c then .error .invalid else skipLines true rest
    else if isSpace c then skipLines false rest
    else if c = '#' then skipLines true rest
    else .ok (c :: rest)

/-! ## Strings -/

/-- The value of a hexadecimal digit. -/
def hexValue? (c : Char) : Option Nat :=
  if '0' ≤ c ∧ c ≤ '9' then some (c.toNat - '0'.toNat)
  else if 'a' ≤ c ∧ c ≤ 'f' then some (c.toNat - 'a'.toNat + 10)
  else if 'A' ≤ c ∧ c ≤ 'F' then some (c.toNat - 'A'.toNat + 10)
  else none

/-- The character that a one-letter escape stands for. -/
def escaped? : Char → Option Char
  | 'b' => some '\x08'
  | 't' => some '\t'
  | 'n' => some '\n'
  | 'f' => some '\x0c'
  | 'r' => some '\r'
  | '\x22' => some '\x22'
  | '\\' => some '\\'
  | _ => none

/-- How far the reading of a basic string has come. -/
inductive StringState
  /-- Between characters; `skipping` after a backslash at a line end, which hides white space. -/
  | plain (skipping : Bool)
  /-- After a backslash. -/
  | escape
  /-- After a backslash and white space: the line has to end. -/
  | gap
  /-- In a numbered escape, with `left` digits to come. -/
  | hex (left value : Nat)

/-- Reads a basic string after its opening marks; `acc` holds its characters backwards. -/
def readBasic (multiline : Bool) :
    StringState → List Char → List Char → Except Failure (List Char × List Char)
  | _, _, [] => .error .invalid
  | .plain skipping, acc, c :: rest =>
    if skipping && isSpaceOrLine c then readBasic multiline (.plain true) acc rest
    else if c = Text.doubleMark then
      if !multiline then .ok (acc.reverse, rest)
      else if rest.take 2 = [Text.doubleMark, Text.doubleMark] then .ok (acc.reverse, rest.drop 2)
      else readBasic multiline (.plain false) (c :: acc) rest
    else if c = '\\' then readBasic multiline .escape acc rest
    else if isControl c && !(multiline && c = '\n') then .error .invalid
    else readBasic multiline (.plain false) (c :: acc) rest
  | .escape, acc, c :: rest =>
    if multiline && c = '\n' then readBasic multiline (.plain true) acc rest
    else if multiline && isSpace c then readBasic multiline .gap acc rest
    else if c = 'u' then readBasic multiline (.hex 4 0) acc rest
    else if c = 'U' then readBasic multiline (.hex 8 0) acc rest
    else
      match escaped? c with
      | some x => readBasic multiline (.plain false) (x :: acc) rest
      | none => .error .invalid
  | .gap, acc, c :: rest =>
    if c = '\n' then readBasic multiline (.plain true) acc rest
    else if isSpace c then readBasic multiline .gap acc rest
    else .error .invalid
  | .hex left value, acc, c :: rest =>
    match hexValue? c with
    | none => .error .invalid
    | some d =>
      let value := 16 * value + d
      if 1 < left then readBasic multiline (.hex (left - 1) value) acc rest
      else if value.isValidChar then
        readBasic multiline (.plain false) (Char.ofNat value :: acc) rest
      else .error .invalid

/-- Reads a literal string of one line after its opening mark. -/
def readLiteral (cs : List Char) : Except Failure (List Char × List Char) :=
  let body := cs.takeWhile (· ≠ Text.singleMark)
  match cs.dropWhile (· ≠ Text.singleMark) with
  | [] => .error .invalid
  | _ :: rest => if body.any isControl then .error .invalid else .ok (body, rest)

/-- Reads a literal string of several lines after its opening marks. -/
def readLiteralLines (acc : List Char) : List Char → Except Failure (List Char × List Char)
  | [] => .error .invalid
  | c :: rest =>
    if c = Text.singleMark && rest.take 2 = [Text.singleMark, Text.singleMark] then
      .ok (acc.reverse, rest.drop 2)
    else if isControl c && c ≠ '\n' then .error .invalid
    else readLiteralLines (c :: acc) rest

/-- The text after a line end that stands first. -/
def dropFirstLineEnd : List Char → List Char
  | '\n' :: rest => rest
  | cs => cs

/-- Up to two more marks after the three that close a string belong to the string. -/
def takeExtraMarks (mark : Char) (body rest : List Char) : List Char × List Char :=
  if rest.take 2 = [mark, mark] then (body ++ [mark, mark], rest.drop 2)
  else if rest.take 1 = [mark] then (body ++ [mark], rest.drop 1)
  else (body, rest)

/-- Reads a string that begins here with a mark: three marks begin one of several lines. -/
def readString (mark : Char) (cs : List Char) : Except Failure (List Char × List Char) :=
  if cs.take 3 = [mark, mark, mark] then do
    let inner := dropFirstLineEnd (cs.drop 3)
    let (body, rest) ←
      if mark = Text.doubleMark then readBasic true (.plain false) [] inner
      else readLiteralLines [] inner
    return takeExtraMarks mark body rest
  else if mark = Text.doubleMark then readBasic false (.plain false) [] (cs.drop 1)
  else readLiteral (cs.drop 1)

/-! ## Keys -/

/-- The characters of a bare key. -/
def isBareKeyChar (c : Char) : Bool :=
  ('a' ≤ c && c ≤ 'z') || ('A' ≤ c && c ≤ 'Z') || ('0' ≤ c && c ≤ '9') || c = '-' || c = '_'

/-- Whether a character begins a key. -/
def beginsKey (c : Char) : Bool :=
  isBareKeyChar c || c = Text.singleMark || c = Text.doubleMark

/-- Reads one part of a key: bare, or a string of one line. -/
def readKeyPart : List Char → Except Failure (String × List Char)
  | [] => .error .invalid
  | c :: rest =>
    if isBareKeyChar c then
      .ok (String.ofList (c :: rest.takeWhile isBareKeyChar), rest.dropWhile isBareKeyChar)
    else do
      let (part, rest) ←
        if c = Text.singleMark then readLiteral rest
        else if c = Text.doubleMark then readBasic false (.plain false) [] rest
        else .error .invalid
      return (String.ofList part, rest)

/-- Reads a key, whose parts are divided by points, and the white space after it. The text left
grows shorter with each part, which is tested before the next part is read. -/
def readKey (cs : List Char) : Except Failure (List String × List Char) := do
  let (part, rest) ← readKeyPart cs
  match skipSpaces rest with
  | '.' :: rest =>
    let next := skipSpaces rest
    if _h : next.length < cs.length then
      let (parts, rest) ← readKey next
      return (part :: parts, rest)
    else throw .invalid
  | rest => return ([part], rest)
termination_by cs.length

end Abacus.Toml
