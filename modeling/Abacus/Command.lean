import Abacus.Command.Arguments

/-!
# Commands

What the program can be asked to do. An invocation names a command after the general options and
before the arguments of the command, which are read in a second step, because the settings come
between the two.
-/

namespace Abacus

namespace Command

/-- The commands by name. -/
inductive Name
  /-- A session on the lines of the standard input. -/
  | repl
  /-- The values of expressions. -/
  | eval
  /-- The order in which an expression is carried out. -/
  | rpn
  /-- A summary of the language. -/
  | summary
  deriving DecidableEq, Repr

/-- The word for a command. -/
def Name.label : Name → String
  | .repl => "repl"
  | .eval => "eval"
  | .rpn => "rpn"
  | .summary => "syntax"

/-- The command that a word names. -/
def Name.ofLabel? (s : String) : Option Name :=
  [repl, eval, rpn, summary].find? (·.label == s)

end Command

/-- What the program is asked for, as far as it is known before the settings are. -/
inductive Invocation
  | help
  | version
  | command (settings? : Option String) (name : Command.Name) (arguments : List String)
  deriving DecidableEq, Repr

namespace Invocation

/-- The general options. -/
inductive Choice
  | settings (path : String)
  | version
  | help
  deriving DecidableEq, Repr

/-- The general options by name. -/
def options : Command.Options Choice where
  long := [("--config", .valued .settings), ("--version", .flag .version), ("--help", .flag .help)]
  letters := [('c', .valued .settings), ('v', .flag .version)]

/-- The request for help or for the version, if an option makes one. -/
def Choice.request? : Choice → Option Invocation
  | .settings _ => none
  | .version => some .version
  | .help => some .help

/-- The path that an option names. -/
def Choice.path? : Choice → Option String
  | .settings path => some path
  | _ => none

/-- Reads the arguments of the program. The first request for help or for the version comes before
all else, and of several paths the last counts. -/
def read? (arguments : List String) : Option Invocation := do
  let (choices, words) ← Command.readArguments options false none arguments
  match choices.findSome? Choice.request? with
  | some request => return request
  | none =>
    match words with
    | [] => none
    | word :: rest =>
      let name ← Command.Name.ofLabel? word
      return .command (choices.reverse.findSome? Choice.path?) name rest

end Invocation

/-- A command with its arguments. -/
inductive Command
  | help
  /-- A session; the banner is as in the settings unless the command says otherwise. -/
  | repl (banner? : Option Bool)
  /-- The values of expressions, after some assignments; then the variables, if they are wanted. -/
  | eval (expressions assignments : List String) (showVariables : Bool)
  | rpn (expression : String)
  | summary
  deriving DecidableEq, Repr

namespace Command

/-- The options of the commands. -/
inductive Choice
  | banner (wanted : Bool)
  | assignment (text : String)
  | showVariables
  | help
  deriving DecidableEq, Repr

/-- The options of each command. -/
def Name.options : Name → Options Choice
  | .repl => ⟨[("--banner", .flag (.banner true)), ("--no-banner", .flag (.banner false)),
      ("--help", .flag .help)], []⟩
  | .eval => ⟨[("--set", .valued .assignment), ("--show-vars", .flag .showVariables),
      ("--help", .flag .help)], [('s', .valued .assignment)]⟩
  | .rpn | .summary => ⟨[("--help", .flag .help)], []⟩

/-- What an option says about the banner. -/
def Choice.banner? : Choice → Option Bool
  | .banner wanted => some wanted
  | _ => none

/-- The assignment that an option makes. -/
def Choice.assignment? : Choice → Option String
  | .assignment text => some text
  | _ => none

/-- Reads the arguments of a command. A request for help comes before all else. -/
def read? (name : Name) (arguments : List String) : Option Command := do
  let (choices, words) ← readArguments name.options true none arguments
  if choices.contains .help then return .help
  match name, words with
  | .repl, [] => return .repl (choices.reverse.findSome? Choice.banner?)
  | .eval, _ :: _ =>
    return .eval words (choices.filterMap Choice.assignment?) (choices.contains .showVariables)
  | .rpn, [expression] => return .rpn expression
  | .summary, [] => return .summary
  | _, _ => none

end Command

end Abacus
