import Abacus.Evaluation
import Abacus.Template

/-!
# Batches

Expressions that are evaluated one after another on the same variables, up to the first that fails.
Unlike a session a batch does not go on after a failure; what the failing expression did before it
failed is kept all the same.
-/

namespace Abacus

namespace Batch

/-- What ends a batch early. -/
inductive Stop
  | fault (expression : String) (fault : Fault)
  /-- A result that the template of answers cannot show. -/
  | broken (failure : Template.Failure)
  deriving DecidableEq, Repr

end Batch

/-- The outcome of a batch: the texts of the results, the variables, the events, and what ended it
early, if anything did. -/
structure Batch where
  texts : List String
  env : Environment
  journal : List Event
  stop? : Option Batch.Stop

/-- Evaluates expressions in their order. -/
def Batch.run (template : String) (env : Environment) : List String → Batch
  | [] => ⟨[], env, [], none⟩
  | expression :: rest =>
    let e := evaluate expression env
    match e.outcome with
    | .error fault => ⟨[], e.env, e.journal, some (.fault expression fault)⟩
    | .ok v =>
      match Template.render template v with
      | .error failure => ⟨[], e.env, e.journal, some (.broken failure)⟩
      | .ok text =>
        let b := Batch.run template e.env rest
        { b with texts := text :: b.texts, journal := e.journal ++ b.journal }

end Abacus
