import Abacus.Datum
import Abacus.Environment
import Abacus.Token.Scan

/-!
# Initial variables

A session may begin with variables that have a value already. Wherever they are given, they pass
the same checks, in this order: the name has to be one that a line can use, the value has to be an
integer, and the integer has to be a word.
-/

namespace Abacus.Variable

/-- Whether a text can name a variable: it is not empty, and a scan takes it for one name. -/
def isName (s : String) : Bool :=
  !s.isEmpty && s.toList.all Scan.isNameChar

/-- Why a variable is refused. -/
inductive Refusal
  | notName (name : String)
  | notInteger (name : String) (given : Datum)
  | notWord (name : String) (value : Int)

/-- The wording of a refusal, which shows the value; `none` if the value cannot be shown. -/
def Refusal.message? : Refusal → Option String
  | .notName name => some ("Invalid variable name: " ++ Text.quoted name)
  | .notInteger name given => do
    let shown ← given.show?
    return "Variable '" ++ name ++ "' must be an integer, got " ++ shown
  | .notWord name value => do
    let shown ← Numeral.intText? value
    return "Variable '" ++ name ++ "' does not fit a 32-bit integer: " ++ shown

/-- The value of an initial variable, if it passes the checks. A truth value is no integer. -/
def check (name : String) (given : Datum) : Except Refusal Int :=
  if !isName name then .error (.notName name)
  else
    match given with
    | .integer n => if Word.Fits n then .ok n else .error (.notWord name n)
    | given => .error (.notInteger name given)

/-- The environment of a list of initial variables; the first that is refused is reported. -/
def checkAll (entries : List (String × Datum)) : Except Refusal Environment :=
  entries.foldlM (fun env (name, given) => (check name given).map (env.bind name)) .empty

end Abacus.Variable
