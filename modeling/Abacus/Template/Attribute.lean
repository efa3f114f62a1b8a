import Abacus.Template.Number
import Abacus.Text.Quoted

/-!
# Attributes of integers

What a field of a template can come to: an integer, a text, or one of the other things an integer
has an attribute for, which are its class and its methods. Of these nothing is used but how they
are written. What attributes texts and those other things have is left open.

The written form of a method ends with its place in memory, which changes from run to run; dots
stand for it.
-/

namespace Abacus.Template

/-- What a field asks for. -/
inductive Asked
  | integer (v : Int)
  | text (cs : List Char)
  /-- A class or a method, of which only the written form is known. -/
  | other (written : List Char)
  deriving DecidableEq, Repr

namespace Attribute

/-- The description that all integers have. -/
def description : String :=
  "int([x]) -> integer\n" ++
  "int(x, base=10) -> integer\n" ++
  "\n" ++
  "Convert a number or string to an integer, or return 0 if no arguments\n" ++
  "are given.  If x is a number, return x.__int__().  For floating point\n" ++
  "numbers, this truncates towards zero.\n" ++
  "\n" ++
  "If x is not a number or if base is given, then x must be a string,\n" ++
  "bytes, or bytearray instance representing an integer literal in the\n" ++
  "given base.  The literal can be preceded by '+' or '-' and be surrounded\n" ++
  "by whitespace.  The base defaults to 10.  Valid bases are 0 and 2-36.\n" ++
  "Base 0 means to interpret the base from the string as an integer literal.\n" ++
  ">>> int('0b100', base=0)\n" ++
  "4"

/-- The methods behind operators and built-in functions. -/
def operations : List String := [
  "__abs__", "__add__", "__and__", "__bool__", "__delattr__", "__divmod__", "__eq__", "__float__",
  "__floordiv__", "__ge__", "__getattribute__", "__gt__", "__hash__", "__index__", "__init__",
  "__int__", "__invert__", "__le__", "__lshift__", "__lt__", "__mod__", "__mul__", "__ne__",
  "__neg__", "__or__", "__pos__", "__pow__", "__radd__", "__rand__", "__rdivmod__", "__repr__",
  "__rfloordiv__", "__rlshift__", "__rmod__", "__rmul__", "__ror__", "__rpow__", "__rrshift__",
  "__rshift__", "__rsub__", "__rtruediv__", "__rxor__", "__setattr__", "__str__", "__sub__",
  "__truediv__", "__xor__"]

/-- The other methods of an integer. -/
def methods : List String := [
  "__ceil__", "__dir__", "__floor__", "__format__", "__getnewargs__", "__getstate__",
  "__reduce__", "__reduce_ex__", "__round__", "__sizeof__", "__trunc__", "as_integer_ratio",
  "bit_count", "bit_length", "conjugate", "to_bytes"]

/-- The methods that an integer has from its class. -/
def classMethods : List String :=
  ["__init_subclass__", "__new__", "__subclasshook__", "from_bytes"]

/-- A method with a name, as it is written. -/
def method (kind owner name : String) : Asked :=
  .other ("<" ++ kind ++ " " ++ name ++ " of " ++ owner ++ " object at 0x...>").toList

/-- The attributes that are the same for all integers. -/
def common : List (String × Asked) :=
  [("imag", .integer 0), ("denominator", .integer 1), ("__doc__", .text description.toList),
    ("__class__", .other "<class 'int'>".toList)]
  ++ operations.map (fun name => (name, method "method-wrapper" "int" ("'" ++ name ++ "'")))
  ++ methods.map (fun name => (name, method "built-in method" "int" name))
  ++ classMethods.map (fun name => (name, method "built-in method" "type" name))

end Attribute

/-- The attribute of an integer with a given name. -/
def attribute? (name : List Char) (v : Int) : Option Asked :=
  if name = "real".toList || name = "numerator".toList then some (.integer v)
  else (Attribute.common.find? fun e => e.1.toList = name).map (·.2)

/-- What the text of an index says. -/
inductive Index
  | number (n : Nat)
  | word
  | tooGreat
  deriving DecidableEq, Repr

/-- Reads an index digit by digit: a number too great is noticed before what follows it. -/
def readIndex (n : Nat) : List Char → Index
  | [] => .number n
  | c :: rest =>
    match Text.digitValue? c with
    | none => .word
    | some d => if Spec.greatestSize < 10 * n + d then .tooGreat else readIndex (10 * n + d) rest

namespace Asked

/-- The attribute with a given name. -/
def get (name : List Char) : Asked → Except Failure Asked
  | .integer v =>
    match attribute? name v with
    | some asked => .ok asked
    | none => .error .unknownAttribute
  | .text _ | .other _ => .error .leftOpen

/-- The item at an index: a text has its characters as items, and nothing else has any. -/
def item (index : Index) (asked : Asked) : Except Failure Asked :=
  match index, asked with
  | .tooGreat, _ => .error .malformed
  | .number n, .text cs =>
    match cs[n]? with
    | some c => .ok (.text [c])
    | none => .error .unknownIndex
  | _, _ => .error .notIndexable

/-- The written form, which an integer that is too long has not. -/
def written? : Asked → Option (List Char)
  | .integer v => (Numeral.intText? v).map String.toList
  | .text cs | .other cs => some cs

/-- Whether a conversion is known: as it is written, quoted, or quoted in plain letters. -/
def isConversion (c : Char) : Bool := c = 's' || c = 'r' || c = 'a'

/-- The text that a conversion gives. Only texts are quoted, and those that a field comes to are in
plain letters. -/
def converted? (c : Char) : Asked → Option (List Char)
  | .text cs => some (if c = 's' then cs else Text.quotedChars cs)
  | asked => asked.written?

/-- What a field asks for, converted to a text if the field says so. -/
def convert (conversion : Option Char) (asked : Asked) : Except Failure Asked :=
  match conversion with
  | none => .ok asked
  | some c =>
    if isConversion c then
      match asked.converted? c with
      | some cs => .ok (.text cs)
      | none => .error .malformed
    else .error .malformed

/-- What a field asks for, laid out by a specification; the empty one leaves it as it is written. -/
def present (spec : List Char) (asked : Asked) : Except Failure (List Char) :=
  if spec.isEmpty then
    match asked.written? with
    | some cs => .ok cs
    | none => .error .malformed
  else
    match asked with
    | .integer v => formatInt spec v
    | .text cs => formatText spec cs
    | .other _ => .error .noLayout

end Asked

end Abacus.Template
