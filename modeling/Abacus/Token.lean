import Abacus.Text.Quoted
import Abacus.Numeral.Decimal

/-!
# Tokens

A token is a kind, the text it was written with, and its place in the line. Operator and
punctuation kinds have one spelling each; numbers and names have many.
-/

namespace Abacus

/-- The kinds of token. -/
inductive Token.Kind
  | number
  | name
  | openParen
  | closeParen
  | question
  | colon
  | increment
  | decrement
  | plus
  | minus
  | star
  | slash
  | equal
  | notEqual
  | greater
  | greaterEqual
  | less
  | lessEqual
  | assign
  | plusAssign
  | minusAssign
  | starAssign
  | slashAssign
  deriving DecidableEq, Repr

/-- A token. Places are integers, so that a caller may count them from any origin of its own. -/
structure Token where
  kind : Token.Kind
  text : String
  pos : Int
  deriving DecidableEq, Repr

namespace Token.Kind

/-- The name of a kind in messages. -/
def label : Kind → String
  | .number => "number"
  | .name => "variable"
  | .openParen => "lparen"
  | .closeParen => "rparen"
  | .question => "question"
  | .colon => "colon"
  | .increment => "increment"
  | .decrement => "decrement"
  | .plus => "plus"
  | .minus => "minus"
  | .star => "star"
  | .slash => "slash"
  | .equal => "eq"
  | .notEqual => "ne"
  | .greater => "gt"
  | .greaterEqual => "ge"
  | .less => "lt"
  | .lessEqual => "le"
  | .assign => "assign"
  | .plusAssign => "plus_assign"
  | .minusAssign => "minus_assign"
  | .starAssign => "star_assign"
  | .slashAssign => "slash_assign"

/-- The kind spelled by two characters. -/
def ofPair? : Char → Char → Option Kind
  | '+', '+' => some .increment
  | '-', '-' => some .decrement
  | '+', '=' => some .plusAssign
  | '-', '=' => some .minusAssign
  | '*', '=' => some .starAssign
  | '/', '=' => some .slashAssign
  | '=', '=' => some .equal
  | '!', '=' => some .notEqual
  | '>', '=' => some .greaterEqual
  | '<', '=' => some .lessEqual
  | _, _ => none

/-- The kind spelled by one character. -/
def ofChar? : Char → Option Kind
  | '+' => some .plus
  | '-' => some .minus
  | '*' => some .star
  | '/' => some .slash
  | '=' => some .assign
  | '>' => some .greater
  | '<' => some .less
  | '(' => some .openParen
  | ')' => some .closeParen
  | '?' => some .question
  | ':' => some .colon
  | _ => none

end Token.Kind

/-- A token in the form diagnostics show it. -/
def Token.describe (t : Token) : String :=
  "Token(" ++ t.kind.label ++ ", " ++ Text.quoted t.text ++ ", pos=" ++ Numeral.intText t.pos ++ ")"

end Abacus
