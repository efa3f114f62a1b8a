/-!
# Arguments

The reading of the arguments of a command. An argument that begins with a minus is an option, except
for a minus alone: `--name` or `--name=value` for a long name, and `-abc` for several letters, of
which one that takes a value takes the rest of the argument, or the next one if nothing is left. A
value may itself look like an option. All other arguments are words, and so is everything after
`--`.

There are commands whose options may stand anywhere between the words, and commands whose options
end at the first word.
-/

namespace Abacus.Command

/-- What an option stands for: something by itself, or together with a value. -/
inductive Meaning (α : Type)
  | flag (a : α)
  | valued (f : String → α)

/-- The options of a command. -/
structure Options (α : Type) where
  /-- Long names, with their two minuses. -/
  long : List (String × Meaning α)
  letters : List (Char × Meaning α)

variable {α : Type}

/-- What one argument says: the options in it, and the one that waits for its value. -/
structure Taken (α : Type) where
  options : List α
  waiting? : Option (String → α)

namespace Options

/-- An argument that gives a long name, and perhaps a value after `=`. Only an option that takes a
value may be given one. -/
def takeLong? (o : Options α) (argument : String) : Option (Taken α) := do
  let name := String.ofList (argument.toList.takeWhile (· ≠ '='))
  match ← o.long.lookup name, argument.toList.dropWhile (· ≠ '=') with
  | .flag a, [] => return ⟨[a], none⟩
  | .flag _, _ :: _ => none
  | .valued f, [] => return ⟨[], some f⟩
  | .valued f, _ :: value => return ⟨[f (String.ofList value)], none⟩

/-- The letters of an argument, without its minus. -/
def takeLetters? (o : Options α) : List Char → Option (Taken α)
  | [] => some ⟨[], none⟩
  | c :: rest => do
    match ← o.letters.lookup c with
    | .flag a =>
      let taken ← takeLetters? o rest
      return { taken with options := a :: taken.options }
    | .valued f =>
      if rest.isEmpty then return ⟨[], some f⟩ else return ⟨[f (String.ofList rest)], none⟩

/-- What an argument that is an option says; `none` if it names no option of the command. -/
def take? (o : Options α) (argument : String) : Option (Taken α) :=
  match argument.toList with
  | '-' :: '-' :: _ => o.takeLong? argument
  | _ :: letters => o.takeLetters? letters
  | [] => none

end Options

/-- Whether an argument is an option. -/
def isOption (argument : String) : Bool :=
  argument.startsWith "-" && argument ≠ "-"

/-- Reads arguments: the options in their order, and the words. `mixed` tells whether options may
follow words, and `waiting?` is the option that the next argument is the value of. There is no
reading if an option is unknown, lacks its value, or has a value that it does not take. -/
def readArguments (o : Options α) (mixed : Bool) :
    Option (String → α) → List String → Option (List α × List String)
  | some _, [] => none
  | some f, value :: rest => do
    let (options, words) ← readArguments o mixed none rest
    return (f value :: options, words)
  | none, [] => some ([], [])
  | none, argument :: rest =>
    if argument = "--" then some ([], rest)
    else if isOption argument then do
      let taken ← o.take? argument
      let (options, words) ← readArguments o mixed taken.waiting? rest
      return (taken.options ++ options, words)
    else if mixed then do
      let (options, words) ← readArguments o mixed none rest
      return (options, argument :: words)
    else some ([], argument :: rest)

end Abacus.Command
