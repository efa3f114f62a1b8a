import Abacus.Template.Attribute

/-!
# Templates

A template is a text with fields in braces; the one value it can mention is the integer named
`value`. A field may ask for an attribute of the value or for an item of one, for a conversion to
text, and for a layout (`{value:>8}`); the layout may itself mention the value, one level deep. A
brace that stands for itself is written twice.

Filling goes from left to right and stops at the first failure, so a failure at the end of a
template shows only if every field before it can be filled.
-/

namespace Abacus.Template

/-- A piece of a template. -/
inductive Piece
  | text (cs : List Char)
  | field (name : List Char) (conversion : Option Char) (spec : List Char)
  /-- The rest of a template that is not well formed. -/
  | broken
  deriving DecidableEq, Repr

/-- How far the reading of a template has come. Texts are collected backwards. -/
inductive Reading
  /-- In plain text. -/
  | text (cs : List Char)
  /-- In the name of a field; `item` tells whether a bracket is open in it. -/
  | name (cs : List Char) (item : Bool)
  /-- After the `!` of a field. -/
  | conversion (name : List Char)
  /-- After the conversion of a field, or what stands in its place. -/
  | converted (name : List Char) (conversion : Option Char)
  /-- In the layout of a field; `level` counts the braces open in it. -/
  | spec (name : List Char) (conversion : Option Char) (cs : List Char) (level : Nat)

/-- The conversion that a character asks for: the one with code zero asks for none. -/
def conversionOf (c : Char) : Option Char :=
  if c = '\x00' then none else some c

/-- The pieces of a template. -/
def pieces : Reading → List Char → List Piece
  | .text cs, [] => [.text cs.reverse]
  | .text cs, '{' :: '{' :: rest => pieces (.text ('{' :: cs)) rest
  | .text cs, '}' :: '}' :: rest => pieces (.text ('}' :: cs)) rest
  | .text cs, '{' :: rest => .text cs.reverse :: pieces (.name [] false) rest
  | .text _, '}' :: _ => [.broken]
  | .text cs, c :: rest => pieces (.text (c :: cs)) rest
  | .name _ _, [] => [.broken]
  | .name cs true, c :: rest => pieces (.name (c :: cs) (c ≠ ']')) rest
  | .name _ false, '{' :: _ => [.broken]
  | .name cs false, '}' :: rest => .field cs.reverse none [] :: pieces (.text []) rest
  | .name cs false, ':' :: rest => pieces (.spec cs.reverse none [] 0) rest
  | .name cs false, '!' :: rest => pieces (.conversion cs.reverse) rest
  | .name cs false, c :: rest => pieces (.name (c :: cs) (c = '[')) rest
  | .conversion _, [] => [.broken]
  | .conversion name, c :: rest => pieces (.converted name (conversionOf c)) rest
  | .converted name conversion, '}' :: rest =>
    .field name conversion [] :: pieces (.text []) rest
  | .converted name conversion, ':' :: rest => pieces (.spec name conversion [] 0) rest
  | .converted _ _, _ => [.broken]
  | .spec _ _ _ _, [] => [.broken]
  | .spec name conversion cs level, '{' :: rest =>
    pieces (.spec name conversion ('{' :: cs) (level + 1)) rest
  | .spec name conversion cs 0, '}' :: rest =>
    .field name conversion cs.reverse :: pieces (.text []) rest
  | .spec name conversion cs (level + 1), '}' :: rest =>
    pieces (.spec name conversion ('}' :: cs) level) rest
  | .spec name conversion cs level, c :: rest =>
    pieces (.spec name conversion (c :: cs) level) rest

/-! ## Fields -/

/-- Whether a character begins an accessor. -/
def beginsAccessor (c : Char) : Bool := c = '.' || c = '['

/-- Follows the accessors of a field. -/
def follow (accessors : List Char) (asked : Asked) : Except Failure Asked :=
  match accessors with
  | [] => .ok asked
  | '.' :: rest =>
    let name := rest.takeWhile fun c => !beginsAccessor c
    if name.isEmpty then .error .malformed
    else
      match asked.get name with
      | .ok asked => follow (rest.dropWhile fun c => !beginsAccessor c) asked
      | .error failure => .error failure
  | '[' :: rest =>
    let item := rest.takeWhile (· ≠ ']')
    if item.isEmpty || !rest.contains ']' then .error .malformed
    else
      match asked.item (readIndex 0 item) with
      | .ok asked => follow (rest.drop (item.length + 1)) asked
      | .error failure => .error failure
  | _ => .error .malformed
termination_by accessors.length
decreasing_by
  · exact Nat.lt_succ_of_le (List.dropWhile_suffix _).length_le
  · exact Nat.lt_succ_of_le (List.drop_suffix _ _).length_le

/-- What a field with a given name asks of a value. -/
def lookup (name : List Char) (v : Int) : Except Failure Asked :=
  let first := name.takeWhile fun c => !beginsAccessor c
  let accessors := name.dropWhile fun c => !beginsAccessor c
  if first.isEmpty then .error .unknownIndex
  else
    match readIndex 0 first with
    | .tooGreat => .error .malformed
    | .number _ => .error .unknownIndex
    | .word =>
      if first = "value".toList then follow accessors (.integer v) else .error .unknownName

/-- Fills in a template, whose layouts may mention the value `levels - 1` levels deep. -/
def fill (levels : Nat) (template : List Char) (v : Int) : Except Failure (List Char) :=
  match levels with
  | 0 => .error .malformed
  | levels + 1 => do
    let parts ← (pieces (.text []) template).mapM fun
      | .text cs => .ok cs
      | .broken => .error .malformed
      | .field name conversion spec => do
        let asked ← lookup name v
        let asked ← asked.convert conversion
        let spec ← if spec.contains '{' then fill levels spec v else .ok spec
        asked.present spec
    return parts.flatten

/-- The levels of a template: its own, and the one inside layouts. -/
def levels : Nat := 2

/-- A template with its fields filled in for a value. -/
def render (template : String) (v : Int) : Except Failure String :=
  (fill levels template.toList v).map String.ofList

end Abacus.Template
