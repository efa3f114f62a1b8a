import Abacus.Machine.Calculator
import Abacus.Machine.Listing
import Abacus.Parser

/-!
# Evaluating a line

The two things to do with a line: to list the order in which it is carried out, and to carry it
out on an environment.
-/

namespace Abacus

/-- The listing of a line. -/
def listing (source : String) : Except Fault Listing :=
  match (Parser.parse source : Step (Parser Listing) Unit) (Parser.start .empty) with
  | .ok _ p => .ok p.machine
  | .error fault _ => .error fault

/-- The outcome of evaluating a line: its value or what stopped it, the environment afterwards, and
what happened on the way. -/
structure Evaluation where
  outcome : Except Fault Int
  env : Environment
  journal : List Event

/-- The outcome of a step that ends a line, on the calculator it reached. -/
def Evaluation.ofResult : EStateM.Result Fault Calculator Int → Evaluation
  | .ok v c => ⟨.ok v, c.env, c.journal.toList⟩
  | .error fault c => ⟨.error fault, c.env, c.journal.toList⟩

/-- Carries out a line and takes its value. -/
def evaluateOn (c : Calculator) (source : String) : Evaluation :=
  match (Parser.parse source : Step (Parser Calculator) Unit) (Parser.start c) with
  | .ok _ p => .ofResult (Calculator.result p.machine)
  | .error fault p => .ofResult (.error fault p.machine)

/-- Evaluates a line on an environment. -/
def evaluate (source : String) (env : Environment) : Evaluation :=
  let e := evaluateOn (.start env) source
  { e with journal := .parsing source :: e.journal }

/-- The tokens of a line, and the event that tells their number, which only a line without stray
characters brings about. -/
def scanned (source : String) : Scan × List Event :=
  let s := Scan.ofString source
  match s.stray? with
  | some _ => (s, [])
  | none => (s, [.scanned source s.tokens.length])

end Abacus
