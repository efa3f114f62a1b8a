import Abacus.Program

/-!
# The command line

Hands the arguments, the documents, the standard input and the process environment to the program,
prints what it answers, and exits with its code.
-/

namespace Abacus.Terminal

/-- The document that the settings are read from, if there is one. -/
def settingsDocuments (path : String) : IO Documents := do
  try
    return ⟨[(path, ← IO.FS.readFile path)]⟩
  catch _ =>
    return .none

/-- The rest of the standard input. -/
partial def readAll (stream : IO.FS.Stream) (read : String) : IO String := do
  let line ← stream.getLine
  if line.isEmpty then return read else readAll stream (read ++ line)

/-- All that a run is given. The standard input is read only if a session asks for it. -/
def gather (arguments : List String) : IO Request := do
  let level? ← IO.getEnv overrideVariable
  match Invocation.read? arguments with
  | some (.command path? name _) =>
    let documents ← settingsDocuments (path?.getD Settings.defaultPath)
    let input ← if name = .repl then readAll (← IO.getStdin) "" else pure ""
    return ⟨arguments, input, documents, level?⟩
  | _ => return ⟨arguments, "", .none, level?⟩

end Abacus.Terminal

open Abacus

/-- Runs the program and exits with its code; arguments that make no sense are answered with help on
the error stream. -/
def main (arguments : List String) : IO UInt32 := do
  let outcome := Program.run (← Terminal.gather arguments)
  (← IO.getStdout).putStr outcome.output
  (← IO.getStderr).putStr outcome.errors
  if outcome.ending.code = 2 then
    (← IO.getStderr).putStr (Outcome.ofLines Program.helpLines)
  return outcome.ending.code.toUInt32
