import Abacus.Variable

/-!
# Assignments in text form

An initial variable in the form `name=value`, as it is given on a command line. The first `=`
divides the name from the value, and white space around either does not count.
-/

namespace Abacus

/-- An initial variable that has passed its checks. -/
structure Assignment where
  name : String
  value : Int
  deriving DecidableEq, Repr

namespace Assignment

/-- Why a text is no assignment. -/
inductive Refusal
  /-- There is no `=`, or no name before it. -/
  | noName (text : String)
  /-- What follows the `=` is no numeral. -/
  | notNumeral (name value : String)
  | variableRefused (refusal : Variable.Refusal)

/-- The wording of a refusal, `none` if a value cannot be shown. -/
def Refusal.message? : Refusal → Option String
  | .noName text => some ("Expected name=value, got " ++ Text.quoted text)
  | .notNumeral name value =>
    some ("Value for '" ++ name ++ "' must be an integer, got " ++ Text.quoted value)
  | .variableRefused refusal => refusal.message?

/-- Reads an assignment. -/
def read (text : String) : Except Refusal Assignment :=
  let name := String.ofList (Text.trim (text.toList.takeWhile (· ≠ '=')))
  match text.toList.dropWhile (· ≠ '=') with
  | [] => .error (.noName text)
  | _ :: value =>
    if name.isEmpty then .error (.noName text)
    else
      match Numeral.readInt? (Text.trim value) with
      | none => .error (.notNumeral name (String.ofList value))
      | some n =>
        match Variable.check name (.integer n) with
        | .ok value => .ok ⟨name, value⟩
        | .error refusal => .error (.variableRefused refusal)

end Assignment

end Abacus
