import Abacus.Journal
import Abacus.Text.Capital

/-!
# The level of a journal

The level decides which events are shown. It may be asked for from outside, in the process
environment, and in the settings; the first of the two that names a level wins. Names are read
without regard to case and to white space around them.
-/

namespace Abacus.Severity

/-- A level name in the form in which it is compared. -/
def normalName (s : String) : String :=
  Text.trimmed (Text.capitals s)

/-- The level in force, and the events that report names of no level. An empty override counts as
none. -/
def choose (override? : Option String) (configured : String) : Severity × List Event :=
  let asked := normalName (override?.getD "")
  match ofLabel? asked with
  | some level => (level, [])
  | none =>
    let ignored := if asked.isEmpty then [] else [Event.unknownOverride asked]
    match ofLabel? (normalName configured) with
    | some level => (level, ignored)
    | none => (.warning, ignored ++ [.unknownLevel configured])

end Abacus.Severity
