import Abacus.Evaluation
import Abacus.Session.Banner
import Abacus.Settings

/-!
# Sessions

A session answers one line after another on variables that live as long as the session. A line that
fails is answered with what went wrong, keeps what it did before it failed, and does not end the
session. A blank line does, as does the end of the lines.

The prompt is printed before each line is asked for, so once more than there are answers. The one
thing that breaks a session off is a result that the template of answers cannot show.
-/

namespace Abacus.Session

/-- What one line brings about: the text to print, the variables afterwards, and the events. -/
structure Reply where
  text : Except Template.Failure String
  env : Environment
  journal : List Event

/-- The answer to a line. -/
def reply (template line : String) (env : Environment) : Reply :=
  let e := evaluate line env
  match e.outcome with
  | .ok v => ⟨Template.render template v, e.env, e.journal⟩
  | .error fault =>
    ⟨.ok ("Failed to evaluate: " ++ fault.message), e.env, e.journal ++ [.lineFailed line fault]⟩

/-- What a session leaves behind: all that was printed, the variables, the events, and the failure
that broke it off, if one did. -/
structure Transcript where
  output : String
  env : Environment
  journal : List Event
  broken? : Option Template.Failure

/-- Answers lines, given with their ends, up to the first blank one. -/
def answerAll (template prompt : String) (env : Environment) : List String → Transcript
  | [] => ⟨prompt, env, [], none⟩
  | raw :: rest =>
    let line := Text.withoutLineEnd raw.toList
    if Text.isBlankLine line then ⟨prompt, env, [], none⟩
    else
      let r := reply template (String.ofList line) env
      match r.text with
      | .error failure => ⟨prompt, r.env, r.journal, some failure⟩
      | .ok text =>
        let t := answerAll template prompt r.env rest
        ⟨prompt ++ text ++ "\n" ++ t.output, t.env, r.journal ++ t.journal, t.broken?⟩

/-- Nothing after a blank line is looked at. -/
theorem answerAll_of_blank (template prompt : String) (env : Environment) {raw : String}
    (rest : List String) (h : Text.isBlankLine (Text.withoutLineEnd raw.toList) = true) :
    answerAll template prompt env (raw :: rest) = ⟨prompt, env, [], none⟩ := by
  simp [answerAll, h]

/-- A whole session: the banner if it is wanted, then the answers. -/
def run (settings : Settings) (env : Environment) (lines : List String) : Transcript :=
  let t := answerAll settings.template settings.prompt env lines
  if settings.banner then { t with output := banner ++ "\n" ++ t.output } else t

/-- The lines of a stream, each with the line feed that ends it. -/
def linesOf (input : String) : List String :=
  (Text.linesWithEnds input.toList).map String.ofList

end Abacus.Session
