import Abacus.Assignment
import Abacus.Batch
import Abacus.Command
import Abacus.Journal.Level
import Abacus.Session
import Abacus.Text.Wrap

/-!
# The program

What a run of the program prints and how it ends, as a function of all that it is given: arguments,
standard input, documents, and the level asked for in the process environment.

The settings are read before the arguments of the command, so settings that cannot be read are
reported even where the arguments are wrong too. Events go to the error stream in the order in
which they happen; those that come before the level is known are printed bare.
-/

namespace Abacus

/-- What a run is given. -/
structure Request where
  arguments : List String
  /-- The standard input. -/
  input : String
  documents : Documents
  /-- The level asked for in the process environment. -/
  level? : Option String

/-- What breaks a run off without words: a refusal that has none, or a template that cannot show a
result. -/
inductive Breakdown
  | settings (refusal : Settings.Refusal)
  | template (failure : Template.Failure)

/-- How a run ends. -/
inductive Ending
  | finished
  /-- A failure that was reported. -/
  | failed
  /-- Arguments that make no sense. -/
  | misused
  | broken (cause : Breakdown)

/-- The code that a run exits with. -/
def Ending.code : Ending → Nat
  | .finished => 0
  | .failed | .broken _ => 1
  | .misused => 2

/-- What a run prints on its two streams, and how it ends. -/
structure Outcome where
  output : String
  errors : String
  ending : Ending

/-- Lines, each ended by a line feed. -/
def Outcome.ofLines (lines : List String) : String :=
  String.join (lines.map (· ++ "\n"))

/-- An event as a line of the error stream. -/
def Event.line (e : Event) : String :=
  "[" ++ e.severity.label ++ "] " ++ e.channel.label ++ ": " ++ e.message

namespace Program

/-- The version of the program. -/
def version : String := "0.3.0"

/-- What is printed where the version is asked for. -/
def versionLine : String := "exprcalc version " ++ version

/-- What is printed where help is asked for. -/
def helpLines : List String := [
  "Usage: exprcalc [--config PATH] COMMAND [ARGS]...",
  "",
  "Commands:",
  "  repl [--banner|--no-banner]                   answer expressions, one per line",
  "  eval [--set NAME=VALUE] [--show-vars] EXPR... evaluate expressions in order",
  "  rpn EXPR                                      show the order of an expression",
  "  syntax                                        list the operators"]

/-- The number of columns that the summary fits into. -/
def columns : Nat := 80

/-- The lines of the summary of the language: the banner and the table of operators. -/
def summaryLines : List String :=
  (Session.bannerLines.flatMap (Text.wrapLine columns)) ++
    ["", "Operator precedence", "Class  Associativity  Operators"] ++
    operatorTable.map fun row =>
      "  ".intercalate [row.precedence.label, row.precedence.associativity.label,
        " ".intercalate (row.operations.map (·.code))]

/-- The part of a journal that is shown at a level, as lines. -/
def shown (level : Severity) (journal : List Event) : List String :=
  (journal.filter (·.isShownAt level)).map Event.line

/-- The variables as lines, in the order of their names. -/
def variableLines (env : Environment) : List String :=
  (env.bindings.mergeSort fun a b => decide (a.1 ≤ b.1)).map fun (name, value) =>
    name ++ " = " ++ Numeral.intText value

/-- The environment of the settings with assignments carried out on it, `none` if one of them is
refused. -/
def assignAll? (env : Environment) (assignments : List String) : Option Environment :=
  assignments.foldlM (fun env text =>
    match Assignment.read text with
    | .ok a => some (env.bind a.name a.value)
    | .error _ => none) env

/-- The outcome of a batch of expressions. -/
def ofBatch (level : Severity) (showVariables : Bool) (b : Batch) : Outcome :=
  let events := shown level b.journal
  match b.stop? with
  | none =>
    let listed := if showVariables then variableLines b.env else []
    ⟨Outcome.ofLines (b.texts ++ listed), Outcome.ofLines events, .finished⟩
  | some (.fault expression fault) =>
    let report := "Failed to evaluate " ++ Text.quoted expression ++ ": " ++ fault.message
    ⟨Outcome.ofLines b.texts, Outcome.ofLines (events ++ [report]), .failed⟩
  | some (.broken failure) =>
    ⟨Outcome.ofLines b.texts, Outcome.ofLines events, .broken (.template failure)⟩

/-- The outcome of a session. -/
def ofTranscript (level : Severity) (t : Session.Transcript) : Outcome :=
  ⟨t.output, Outcome.ofLines (shown level t.journal),
    match t.broken? with
    | none => .finished
    | some failure => .broken (.template failure)⟩

/-- The outcome of listing an expression. -/
def ofListing (level : Severity) (expression : String) : Outcome :=
  let events := shown level [.parsing expression]
  match listing expression with
  | .ok l =>
    ⟨Outcome.ofLines [" ".intercalate l.texts], Outcome.ofLines events, .finished⟩
  | .error fault =>
    let report := "Failed to parse " ++ Text.quoted expression ++ ": " ++ fault.message
    ⟨"", Outcome.ofLines (events ++ [report]), .failed⟩

/-- Carries out a command. -/
def perform (settings : Settings) (level : Severity) (input : String) : Command → Outcome
  | .help => ⟨Outcome.ofLines helpLines, "", .finished⟩
  | .repl banner? =>
    let settings := { settings with banner := banner?.getD settings.banner }
    ofTranscript level (Session.run settings settings.initial (Session.linesOf input))
  | .eval expressions assignments showVariables =>
    match assignAll? settings.initial assignments with
    | none => ⟨"", "", .misused⟩
    | some env => ofBatch level showVariables (Batch.run settings.template env expressions)
  | .rpn expression => ofListing level expression
  | .summary => ⟨Outcome.ofLines summaryLines, "", .finished⟩

/-- Reads the settings, then the arguments of a command, and carries it out. -/
def runCommand (r : Request) (path? : Option String) (name : Command.Name)
    (arguments : List String) : Outcome :=
  match Settings.load r.documents path? with
  | .error refusal =>
    match refusal.message? with
    | some message => ⟨"", Outcome.ofLines ["Error loading config: " ++ message], .failed⟩
    | none => ⟨"", "", .broken (.settings refusal)⟩
  | .ok settings =>
    let (level, ignored) := Severity.choose r.level? settings.level
    let warnings := Outcome.ofLines (ignored.map (·.message))
    let outcome : Outcome := match Command.read? name arguments with
      | none => ⟨"", "", .misused⟩
      | some command => perform settings level (Text.unified r.input) command
    { outcome with errors := warnings ++ outcome.errors }

/-- A run of the program. -/
def run (r : Request) : Outcome :=
  match Invocation.read? r.arguments with
  | none => ⟨"", "", .misused⟩
  | some .help => ⟨Outcome.ofLines helpLines, "", .finished⟩
  | some .version => ⟨Outcome.ofLines [versionLine], "", .finished⟩
  | some (.command path? name arguments) => runCommand r path? name arguments

end Program

end Abacus
