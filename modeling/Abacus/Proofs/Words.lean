import Abacus.Proofs.Loading
import Abacus.Proofs.Scanning
import Abacus.Proofs.Similarity

/-!
# Sessions compute in words

Nothing in an environment says that its values are words, and an assignment
does not wrap the value that it binds. All values are words nevertheless, and
all names are names: a session begins with such an environment, and from then
on a value comes from a literal, which is refused if it is too great, from a
variable, or from an operation, which wraps what it computes or passes on a
value that it has been given.

So well-formed environments are kept by lines (`wellFormedness`), at every
token and however the line ends, and by a session of any length, whose lines
may all have failed. The value of a line is a word for the same reason.
-/

namespace Abacus

open Step

/-- The environment after lines, each evaluated in what the one before it has
left. A line that fails has an effect like any other. -/
def Environment.after (env : Environment) (lines : List String) : Environment :=
  lines.foldl (fun env source => (evaluate source env).env) env

/-- A line on the calculator, taken up to a number of its tokens. -/
def Environment.during (env : Environment) (source : String) (n : Nat) : Environment :=
  (reached ((((Scan.ofString source).tokens.take n).forM Parser.feed :
    Step (Parser Calculator) Unit) (.start (.start env)))).machine.env

/-- **An invariant that all lines keep holds after any number of them**, by
induction on them. -/
theorem Invariant.holds_after {P : Invariant} {env : Environment}
    (hP : ∀ source, P.similarity.Covers source) (h : P.Holds env) (lines : List String) :
    P.Holds (env.after lines) := by
  induction lines generalizing env with
  | nil => exact h
  | cons source lines ih => exact ih (P.holds_evaluate (hP source) h).1

/-- **Well-formedness is an invariant** of lines that use names and words. -/
def wellFormedness : Invariant where
  Name x := Variable.isName x = true
  Value := Word.Fits
  Allowed _ := True
  Holds := Environment.WellFormed
  value_of_get? h _ hget := (h _ _ hget).2
  value_wrap := Word.fits_wrap
  assign _ h hx hv := h.bind hx hv
  update _ _ h hx _ := h.bind hx (Word.fits_wrap _)

/-- A literal is a word. -/
theorem fits_of_literalValue {text : String} {pos v : Int}
    (htext : Literal.IsDecimal text) (h : literalValue text pos = .ok v) :
    Word.Fits v := by
  rw [Literal.literalValue_eq htext] at h
  split at h
  case isTrue hle =>
    obtain rfl := Except.ok.inj h
    refine ⟨?_, hle⟩
    unfold Word.least
    omega
  case isFalse => cases h

/-- **Every line uses names and words only**, because the tokens of a scan do. -/
theorem covers_wellFormedness (source : String) :
    wellFormedness.similarity.Covers source :=
  Similarity.covers_of_tokens
    (fun _ ht hk _ hv => fits_of_literalValue ((Scan.isLexeme_of_mem ht).1 hk) hv)
    (fun _ ht hk => (Scan.isLexeme_of_mem ht).2 hk)
    fun _ _ _ _ => trivial

namespace Environment.WellFormed

variable {env : Environment}

/-- A line keeps an environment well formed, whether it ends with a value or
not, and its value is a word. -/
theorem evaluate (h : env.WellFormed) (source : String) :
    (Abacus.evaluate source env).env.WellFormed ∧
      ∀ v, (Abacus.evaluate source env).outcome = .ok v → Word.Fits v :=
  wellFormedness.holds_evaluate (covers_wellFormedness source) h

theorem during (h : env.WellFormed) (source : String) (n : Nat) :
    (env.during source n).WellFormed :=
  wellFormedness.holds_forM_feed h fun t ht =>
    covers_wellFormedness source t (List.mem_of_mem_take ht)

/-- **Lines keep an environment well formed.** -/
theorem after (h : env.WellFormed) (lines : List String) :
    (env.after lines).WellFormed :=
  wellFormedness.holds_after covers_wellFormedness h lines

end Environment.WellFormed

/-- **A session computes in words.** It begins with the variables of its
settings and with assignments, and answers any lines. Whenever one looks, at
the end of a line or after some of its tokens, every variable has a name that
a line can use and a word for its value, and the value of a line is a word. -/
theorem session_in_words {documents : Documents} {path? : Option String}
    {settings : Settings} {assignments : List String} {env : Environment}
    (hload : Settings.load documents path? = .ok settings)
    (hassign : Program.assignAll? settings.initial assignments = some env)
    (lines : List String) :
    (env.after lines).WellFormed ∧
      ∀ source, (∀ n, ((env.after lines).during source n).WellFormed) ∧
        ∀ v, (evaluate source (env.after lines)).outcome = .ok v → Word.Fits v := by
  have henv : env.WellFormed :=
    Program.wellFormed_of_assignAll? (Settings.sound_of_load hload).wellFormed hassign
  have hafter := henv.after lines
  exact ⟨hafter, fun source =>
    ⟨fun n => hafter.during source n, (hafter.evaluate source).2⟩⟩

/-- A session that begins with a variable of its settings and with the least
word, and in which a line fails. -/
theorem session_in_words_sample :
    ∃ settings env, Settings.load (Settings.only Settings.sample) none = .ok settings ∧
      Program.assignAll? settings.initial ["x=-2147483648"] = some env ∧
        env.bindings = [("answer", 42), ("x", -2147483648)] ∧
        (env.after ["x = x - answer", "x++ / 0"]).WellFormed ∧
          ∀ source,
            (∀ n, ((env.after ["x = x - answer", "x++ / 0"]).during source n).WellFormed) ∧
              ∀ v, (evaluate source (env.after ["x = x - answer", "x++ / 0"])).outcome
                = .ok v → Word.Fits v := by
  have hsample : (Settings.ofDocument Settings.sampleDocument).toOption.bind
      (fun s => (Program.assignAll? s.initial ["x=-2147483648"]).map (·.bindings))
      = some [("answer", 42), ("x", -2147483648)] := by
    decide +kernel
  obtain ⟨settings, hsettings, hassigned⟩ := Option.bind_eq_some_iff.mp hsample
  obtain ⟨env, hassign, hbindings⟩ := Option.map_eq_some_iff.mp hassigned
  have hload : Settings.load (Settings.only Settings.sample) none = .ok settings :=
    Settings.load_sample.trans (eq_ok_of_toOption hsettings)
  exact ⟨settings, env, hload, hassign, hbindings, session_in_words hload hassign _⟩

end Abacus
