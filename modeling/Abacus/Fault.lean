import Abacus.Operation

/-!
# Faults

Everything that can stop the evaluation of a line. A fault keeps its cause; the wording and the
place are functions of the cause. What happened before the fault is not undone.
-/

namespace Abacus

/-- The punctuation that opens a group: a parenthesis, or the `?` of a choice. -/
inductive Opener
  | paren | question
  deriving DecidableEq, Repr

/-- The kind of the token of an opener. -/
def Opener.symbol : Opener → Token.Kind
  | .paren => .openParen
  | .question => .question

/-- The opener that a kind of token spells. -/
def Opener.ofKind? : Token.Kind → Option Opener
  | .openParen => some .paren
  | .question => some .question
  | _ => none

/-- The spelling of an opener. -/
def Opener.sign : Opener → String
  | .paren => "("
  | .question => "?"

/-- The causes for which the evaluation of a line stops. -/
inductive Fault
  /-- A character that starts no token. -/
  | strayCharacter (c : Char) (pos : Int)
  /-- A literal greater than the greatest word. -/
  | literalTooLarge (text : String) (pos : Int)
  /-- A number token whose text is not a numeral. -/
  | unreadableNumber (text : String) (pos : Int)
  /-- A token that cannot stand where it does. -/
  | unexpectedToken (token : Token)
  /-- The line ends where an operand has to follow. -/
  | unexpectedEnd
  /-- A `)` or `:` without its opener. -/
  | unmatchedCloser (token : Token) (opener : Opener)
  /-- A `(` or `?` that is never closed. -/
  | unmatchedOpener (opener : Opener) (pos : Int)
  /-- An operation without enough operands. -/
  | operandMissing
  /-- A line that leaves no operand, or more than one. -/
  | noSingleResult
  /-- A variable that has no value. -/
  | undefined (name : String)
  /-- An assignment or a step on something other than a variable. -/
  | targetExpected
  | divisionByZero
  deriving DecidableEq, Repr

namespace Fault

/-- The families of faults. -/
inductive Kind
  | lexical
  | overflow
  | numeral
  | grammar
  | undefined
  | target
  | division
  deriving DecidableEq, Repr

/-- The family of a fault. -/
def kind : Fault → Kind
  | .strayCharacter .. => .lexical
  | .literalTooLarge .. => .overflow
  | .unreadableNumber .. => .numeral
  | .unexpectedToken _ | .unexpectedEnd | .unmatchedCloser .. | .unmatchedOpener ..
  | .operandMissing | .noSingleResult => .grammar
  | .undefined _ => .undefined
  | .targetExpected => .target
  | .divisionByZero => .division

/-- The place of a fault, if it has one. -/
def pos? : Fault → Option Int
  | .strayCharacter _ pos | .literalTooLarge _ pos | .unreadableNumber _ pos
  | .unmatchedOpener _ pos => some pos
  | .unexpectedToken token | .unmatchedCloser token _ => some token.pos
  | .unexpectedEnd | .operandMissing | .noSingleResult | .undefined _ | .targetExpected
  | .divisionByZero => none

/-- The number of characters of a literal that messages show. -/
def shownDigits : Nat := 20

/-- A literal cut to the part that messages show. -/
def shorten (text : String) : String :=
  if text.length ≤ shownDigits then text
  else String.ofList (text.toList.take shownDigits) ++ "..."

/-- The wording of a fault, without its place. -/
def text : Fault → String
  | .strayCharacter c _ => "Unexpected character " ++ Text.quoted (String.singleton c)
  | .literalTooLarge t _ => "Number '" ++ shorten t ++ "' does not fit a 32-bit integer"
  | .unreadableNumber t _ => "Number '" ++ shorten t ++ "' cannot be read"
  | .unexpectedToken t => "Unexpected token '" ++ t.text ++ "' of " ++ t.kind.label ++ " type."
  | .unexpectedEnd => "Unexpected end of expression. Operand expected."
  | .unmatchedCloser t o =>
    "Invalid expression. '" ++ t.text ++ "' has no matching '" ++ o.sign ++ "'."
  | .unmatchedOpener o _ => "Invalid expression. '" ++ o.sign ++ "' has no corresponding match."
  | .operandMissing => "Invalid expression. Operand expected."
  | .noSingleResult => "Invalid expression."
  | .undefined name => "Variable '" ++ name ++ "' is not defined."
  | .targetExpected => "LValue is expected."
  | .divisionByZero => "Division by zero."

/-- A message with the place it is about, if there is one. -/
def located (text : String) : Option Int → String
  | none => text
  | some pos => text ++ " at " ++ Numeral.intText pos ++ " position."

/-- The full message of a fault. -/
def message (f : Fault) : String :=
  located f.text f.pos?

end Fault

end Abacus
