import Abacus.Fault

/-!
# The journal

What happened, as a list of events in the order in which they happened. An event knows how
severe it is and which part of the calculator reports it; whether it is shown is decided later, by
the level that the session was set to.
-/

namespace Abacus

/-- How severe an event is, least severe first. -/
inductive Severity
  | debug | info | warning | error | critical
  deriving DecidableEq, Repr

namespace Severity

/-- All severities, least severe first. -/
def all : List Severity := [.debug, .info, .warning, .error, .critical]

/-- The name of a severity. -/
def label : Severity → String
  | .debug => "DEBUG"
  | .info => "INFO"
  | .warning => "WARNING"
  | .error => "ERROR"
  | .critical => "CRITICAL"

/-- The place of a severity in the order. -/
def rank : Severity → Nat
  | .debug => 0
  | .info => 1
  | .warning => 2
  | .error => 3
  | .critical => 4

/-- The severity with a given name. -/
def ofLabel? (s : String) : Option Severity :=
  all.find? (·.label == s)

end Severity

/-- The part of the calculator that reports an event. -/
inductive Channel
  | scanner | parser | calculator | environment | session | settings
  deriving DecidableEq, Repr

/-- The name under which a part reports. -/
def Channel.label : Channel → String
  | .scanner => "exprcalc.core.expression_lang.tokenizer"
  | .parser => "exprcalc.core.expression_lang.parser"
  | .calculator => "exprcalc.core.expression_lang.evaluator"
  | .environment => "exprcalc.core.expression_lang.environment"
  | .session => "exprcalc.cli.repl"
  | .settings => "exprcalc.core.config"

/-- The events. -/
inductive Event
  /-- A line was cut into `count` tokens. -/
  | scanned (source : String) (count : Nat)
  /-- The parse of a line began. -/
  | parsing (source : String)
  /-- A name was bound for the first time. -/
  | created (name : String)
  /-- An operation was carried out. -/
  | reduced (op : Operation) (result : Int)
  /-- A line of a session failed. -/
  | lineFailed (line : String) (fault : Fault)
  /-- The level asked for from outside is none, and the configured one is used. -/
  | unknownOverride (value : String)
  /-- The configured level is none, and the default is used. -/
  | unknownLevel (value : String)
  deriving DecidableEq, Repr

/-- The variable of the process environment that overrides the configured level. -/
def overrideVariable : String := "EXPRCALC_LOG_LEVEL"

namespace Event

/-- The part that reports an event. -/
def channel : Event → Channel
  | .scanned .. => .scanner
  | .parsing _ => .parser
  | .created _ => .environment
  | .reduced .. => .calculator
  | .lineFailed .. => .session
  | .unknownOverride _ | .unknownLevel _ => .settings

/-- The severity of an event: a level that is none is worth a warning, all else is detail. -/
def severity : Event → Severity
  | .unknownOverride _ | .unknownLevel _ => .warning
  | _ => .debug

/-- The wording of an event. -/
def message : Event → String
  | .scanned source count =>
    "Tokenized " ++ Text.quoted source ++ " into " ++ Numeral.natText count ++ " tokens"
  | .parsing source => "Parsing " ++ Text.quoted source
  | .created name => "Creating variable " ++ name
  | .reduced op result => "Reduced " ++ op.code ++ " -> " ++ Numeral.intText result
  | .lineFailed line fault =>
    "Evaluation of " ++ Text.quoted line ++ " failed: " ++ fault.message
  | .unknownOverride value =>
    "Unknown " ++ overrideVariable ++ " value '" ++ value ++ "'. Valid values: "
      ++ ", ".intercalate (Severity.all.map (·.label)) ++ ". Using configured level."
  | .unknownLevel value =>
    "Unknown log level '" ++ value ++ "'. Defaulting to WARNING."

/-- Whether an event is shown at a level. -/
def isShownAt (level : Severity) (e : Event) : Bool :=
  level.rank ≤ e.severity.rank

end Event

end Abacus
