import Abacus.Proofs.Words

/-!
# Sessions line by line

A session prints its prompt, takes a line, and answers it; it ends at a line
that holds nothing but white space, or at the end of the lines. The lines
before that are the ones that it *answers* (`Session.answered`), and as long
as its template can show what they compute (`Session.Shows`), the session is
nothing but the fold of one turn over them (`Session.run_eq_foldl`). So its
output is an answer for each, with the prompt before it, and its variables are
what the lines have made of those that it began with, failures included.

A turn may read the settings and changes the rest. In particular the initial
variables in the settings stay what they are: a session works on a copy of
them, or on variables that it was handed instead.

The lines themselves may be cut from a text, and the text can be told from
them (`Text.linesWithEnds_flatten`): they are the only lines that make up the
text and end where lines end. It does not matter which of the two a session is
given.
-/

namespace Abacus

/-! ## Lines of a text -/

namespace Text

/-- A line that ends at a line feed and holds no other. -/
def IsEnded (line : List Char) : Prop :=
  ∃ body, '\n' ∉ body ∧ line = body ++ ['\n']

/-- **Lines that are cut where they end**: at a line feed, except that the last
one need not have one, if it is not empty. -/
def AreCut : List (List Char) → Prop
  | [] => True
  | [line] => IsEnded line ∨ (line ≠ [] ∧ '\n' ∉ line)
  | line :: next :: lines => IsEnded line ∧ AreCut (next :: lines)

theorem areCut_cons {line : List Char} {lines : List (List Char)}
    (hline : IsEnded line) (hlines : AreCut lines) : AreCut (line :: lines) := by
  cases lines with
  | nil => exact .inl hline
  | cons next lines => exact ⟨hline, hlines⟩

/-- A line may be lengthened at its start. -/
theorem areCut_cons_cons {c : Char} (hc : c ≠ '\n') {line : List Char}
    {lines : List (List Char)} (h : AreCut (line :: lines)) :
    AreCut ((c :: line) :: lines) := by
  have hended : IsEnded line → IsEnded (c :: line) := by
    rintro ⟨body, hbody, rfl⟩
    exact ⟨c :: body, List.not_mem_cons_of_ne_of_not_mem hc.symm hbody, rfl⟩
  cases lines with
  | nil =>
    rcases h with h | ⟨-, h⟩
    · exact .inl (hended h)
    · exact .inr ⟨List.cons_ne_nil _ _, List.not_mem_cons_of_ne_of_not_mem hc.symm h⟩
  | cons next lines => exact ⟨hended h.1, h.2⟩

/-- The lines of a text are cut where they end. -/
theorem areCut_linesWithEnds (cs : List Char) : AreCut (linesWithEnds cs) := by
  fun_induction linesWithEnds cs with
  | case1 => trivial
  | case2 rest ih => exact areCut_cons ⟨[], List.not_mem_nil, rfl⟩ ih
  | case3 c rest hc _ _ =>
    exact .inr ⟨List.cons_ne_nil _ _,
      List.not_mem_cons_of_ne_of_not_mem (Ne.symm hc) List.not_mem_nil⟩
  | case4 c rest hc line lines h ih => exact areCut_cons_cons hc (h ▸ ih)

theorem linesWithEnds_of_notMem {line : List Char} (hne : line ≠ [])
    (h : '\n' ∉ line) : linesWithEnds line = [line] := by
  induction line with
  | nil => exact absurd rfl hne
  | cons c line ih =>
    obtain ⟨hc, hline⟩ := List.ne_and_not_mem_of_not_mem_cons h
    rw [linesWithEnds, if_neg (Ne.symm hc)]
    cases line with
    | nil => rfl
    | cons d line => rw [ih (List.cons_ne_nil _ _) hline]

theorem linesWithEnds_append {line : List Char} (h : IsEnded line)
    (cs : List Char) : linesWithEnds (line ++ cs) = line :: linesWithEnds cs := by
  obtain ⟨body, hbody, rfl⟩ := h
  induction body with
  | nil => exact if_pos rfl
  | cons c body ih =>
    obtain ⟨hc, hrest⟩ := List.ne_and_not_mem_of_not_mem_cons hbody
    rw [List.cons_append, List.cons_append, linesWithEnds, if_neg (Ne.symm hc), ih hrest]

/-- **A text has one list of lines**: those that make it up and are cut where
they end are the ones that it is cut into. -/
theorem linesWithEnds_flatten {lines : List (List Char)} (h : AreCut lines) :
    linesWithEnds lines.flatten = lines := by
  induction lines with
  | nil => rfl
  | cons line lines ih =>
    cases lines with
    | nil =>
      rw [List.flatten_singleton]
      rcases h with h | ⟨hne, h⟩
      · exact (congrArg _ (List.append_nil line).symm).trans (linesWithEnds_append h [])
      · exact linesWithEnds_of_notMem hne h
    | cons next lines =>
      rw [List.flatten_cons, linesWithEnds_append h.1, ih h.2]

theorem isBlank_of_isLineEnd {c : Char} (h : isLineEnd c = true) : isBlank c = true := by
  unfold isLineEnd at h
  rw [Bool.or_eq_true, decide_eq_true_eq, decide_eq_true_eq] at h
  rcases h with rfl | rfl <;> decide

/-- What ends a line is white space. -/
theorem isBlankLine_withoutLineEnd (cs : List Char) :
    isBlankLine (withoutLineEnd cs) = isBlankLine cs := by
  have hend : (cs.reverse.takeWhile isLineEnd).all isBlank = true :=
    List.all_eq_true.mpr fun c hc => isBlank_of_isLineEnd (List.mem_takeWhile_imp hc)
  calc (cs.reverse.dropWhile isLineEnd).reverse.all isBlank
      = (cs.reverse.dropWhile isLineEnd).all isBlank := List.all_reverse
    _ = (cs.reverse.takeWhile isLineEnd ++ cs.reverse.dropWhile isLineEnd).all isBlank := by
      rw [List.all_append, hend, Bool.true_and]
    _ = cs.all isBlank := by rw [List.takeWhile_append_dropWhile, List.all_reverse]

end Text

/-! ## Sessions -/

namespace Session

/-- The lines that a session answers: those before the first that holds
nothing but white space, without what ends them. -/
def answered (raws : List String) : List String :=
  (raws.takeWhile fun raw => !Text.isBlankLine raw.toList).map fun raw =>
    String.ofList (Text.withoutLineEnd raw.toList)

/-- **A template that can show what lines compute**, each of them evaluated in
what those before it have left. -/
def Shows (template : String) (env : Environment) (lines : List String) : Prop :=
  ∀ i (h : i < lines.length) v,
    (evaluate lines[i] (env.after (lines.take i))).outcome = .ok v →
      ∃ text, Template.render template v = .ok text

/-- **The texts that answer lines**, each of them evaluated in what those
before it have left. -/
def AreAnswers (template : String) (env : Environment) (lines texts : List String) :
    Prop :=
  texts.length = lines.length ∧
    ∀ i (h : i < lines.length) (h' : i < texts.length),
      (reply template lines[i] (env.after (lines.take i))).text = .ok texts[i]

/-- **A session under way**: its settings, its variables, all that was printed
and what has happened. -/
structure Progress where
  settings : Settings
  env : Environment
  output : String
  journal : List Event

namespace Progress

/-- The beginning of a session, with the banner if it is wanted. -/
def start (settings : Settings) (env : Environment) : Progress where
  settings := settings
  env := env
  output := if settings.banner then banner ++ "\n" else ""
  journal := []

/-- **One turn**: a line is asked for and answered. -/
def turn (p : Progress) (line : String) : Progress :=
  let r := reply p.settings.template line p.env
  { p with
    env := r.env
    output := p.output ++ (p.settings.prompt ++ r.text.toOption.getD "" ++ "\n")
    journal := p.journal ++ r.journal }

/-- The end of a session: a line is asked for, and there is none. -/
def finish (p : Progress) : Transcript :=
  ⟨p.output ++ p.settings.prompt, p.env, p.journal, none⟩

end Progress

variable {template : String} {env : Environment}

/-- A line leaves the variables that its evaluation leaves. -/
theorem env_reply (template line : String) (env : Environment) :
    (reply template line env).env = (evaluate line env).env := by
  unfold reply
  dsimp only
  cases (evaluate line env).outcome <;> rfl

/-- A line that has a value is answered with what the template makes of it. -/
theorem text_reply_of_ok {line : String} {v : Int}
    (h : (evaluate line env).outcome = .ok v) :
    (reply template line env).text = Template.render template v := by
  unfold reply
  dsimp only
  rw [h]

/-- A line that fails is answered with what went wrong. -/
theorem text_reply_of_error {line : String} {fault : Fault}
    (h : (evaluate line env).outcome = .error fault) :
    (reply template line env).text = .ok ("Failed to evaluate: " ++ fault.message) := by
  unfold reply
  dsimp only
  rw [h]

/-- A line is answered if the template can show its value, if it has one. -/
theorem exists_text_of_shown {line : String}
    (h : ∀ v, (evaluate line env).outcome = .ok v →
      ∃ text, Template.render template v = .ok text) :
    ∃ text, (reply template line env).text = .ok text := by
  cases houtcome : (evaluate line env).outcome with
  | ok v =>
    rw [text_reply_of_ok houtcome]
    exact h v houtcome
  | error fault => exact ⟨_, text_reply_of_error houtcome⟩

theorem shows_cons_iff {line : String} {lines : List String} :
    Shows template env (line :: lines) ↔
      (∀ v, (evaluate line env).outcome = .ok v →
        ∃ text, Template.render template v = .ok text) ∧
          Shows template (evaluate line env).env lines := by
  refine ⟨fun h => ⟨h 0 (Nat.succ_pos _), fun i hi => h (i + 1) (Nat.succ_lt_succ hi)⟩, ?_⟩
  rintro ⟨hline, hlines⟩ (_ | i) hi
  · exact hline
  · exact hlines i (Nat.lt_of_succ_lt_succ hi)

theorem areAnswers_cons_iff {line text : String} {lines texts : List String} :
    AreAnswers template env (line :: lines) (text :: texts) ↔
      (reply template line env).text = .ok text ∧
        AreAnswers template (evaluate line env).env lines texts := by
  refine ⟨fun ⟨hlength, h⟩ => ⟨h 0 (Nat.succ_pos _) (Nat.succ_pos _),
    Nat.succ.inj hlength, fun i hi hi' => h (i + 1) (Nat.succ_lt_succ hi)
      (Nat.succ_lt_succ hi')⟩, ?_⟩
  rintro ⟨hline, hlength, hlines⟩
  refine ⟨congrArg Nat.succ hlength, ?_⟩
  rintro (_ | i) hi hi'
  · exact hline
  · exact hlines i (Nat.lt_of_succ_lt_succ hi) (Nat.lt_of_succ_lt_succ hi')

theorem areAnswers_nil : AreAnswers template env [] [] :=
  ⟨rfl, nofun⟩

/-- **Lines are answered** by a template that can show what they compute. -/
theorem exists_areAnswers {lines : List String} (h : Shows template env lines) :
    ∃ texts, AreAnswers template env lines texts := by
  induction lines generalizing env with
  | nil => exact ⟨[], areAnswers_nil⟩
  | cons line lines ih =>
    obtain ⟨hline, hlines⟩ := shows_cons_iff.mp h
    obtain ⟨text, htext⟩ := exists_text_of_shown hline
    obtain ⟨texts, htexts⟩ := ih hlines
    exact ⟨text :: texts, areAnswers_cons_iff.mpr ⟨htext, htexts⟩⟩

/-- Lines that are answered compute what the template can show. -/
theorem shows_of_areAnswers {lines texts : List String}
    (h : AreAnswers template env lines texts) : Shows template env lines := by
  intro i hi v hv
  have htext := h.2 i hi (h.1.symm ▸ hi)
  rw [text_reply_of_ok hv] at htext
  exact ⟨_, htext⟩

/-- What answers leave to be printed, each with the prompt before it. -/
def printed (prompt : String) (texts : List String) : String :=
  String.join (texts.map fun text => prompt ++ text ++ "\n")

namespace Progress

/-- **No turn touches the settings.** -/
theorem settings_foldl (p : Progress) (lines : List String) :
    (lines.foldl turn p).settings = p.settings := by
  induction lines generalizing p with
  | nil => rfl
  | cons line lines ih => exact ih (p.turn line)

/-- Turns change the variables as the lines do. -/
theorem env_foldl (p : Progress) (lines : List String) :
    (lines.foldl turn p).env = p.env.after lines := by
  induction lines generalizing p with
  | nil => rfl
  | cons line lines ih =>
    refine (ih (p.turn line)).trans ?_
    show ((reply _ line p.env).env).after lines = _
    rw [env_reply]
    rfl

/-- **Turns print the answers**, each with the prompt before it. -/
theorem output_foldl (p : Progress) {lines texts : List String}
    (h : AreAnswers p.settings.template p.env lines texts) :
    (lines.foldl turn p).output = p.output ++ printed p.settings.prompt texts := by
  induction lines generalizing p texts with
  | nil =>
    obtain rfl := List.length_eq_zero_iff.mp h.1
    exact String.append_empty.symm
  | cons line lines ih =>
    obtain ⟨text, texts, rfl⟩ := List.exists_cons_of_length_eq_add_one h.1
    obtain ⟨hline, hlines⟩ := areAnswers_cons_iff.mp h
    rw [← env_reply p.settings.template] at hlines
    rw [List.foldl_cons, ih (p.turn line) hlines]
    show p.output ++ (p.settings.prompt ++ (reply _ line p.env).text.toOption.getD "" ++ "\n")
      ++ _ = _
    rw [hline, printed, printed, List.map_cons, String.join_cons, String.append_assoc]
    rfl

/-- **What a session prints**: the answers, and the prompt once more. -/
theorem output_finish (p : Progress) {lines texts : List String}
    (h : AreAnswers p.settings.template p.env lines texts) :
    (lines.foldl turn p).finish.output
      = p.output ++ printed p.settings.prompt texts ++ p.settings.prompt := by
  rw [finish, output_foldl p h, settings_foldl]

end Progress

/-! ## The whole of a session -/

theorem answered_cons (raw : String) (raws : List String) :
    answered (raw :: raws) = if Text.isBlankLine raw.toList then []
      else String.ofList (Text.withoutLineEnd raw.toList) :: answered raws := by
  unfold answered
  cases h : Text.isBlankLine raw.toList with
  | true => rw [List.takeWhile_cons_of_neg (by simp [h])]; rfl
  | false => rw [List.takeWhile_cons_of_pos (by simp [h])]; rfl

/-- A line that is answered is followed by the rest of the session. -/
theorem answerAll_of_text {prompt raw text : String} (raws : List String)
    (hblank : Text.isBlankLine raw.toList = false)
    (htext : (reply template (String.ofList (Text.withoutLineEnd raw.toList)) env).text
      = .ok text) :
    answerAll template prompt env (raw :: raws)
      = let r := reply template (String.ofList (Text.withoutLineEnd raw.toList)) env
        let t := answerAll template prompt r.env raws
        ⟨prompt ++ text ++ "\n" ++ t.output, t.env, r.journal ++ t.journal, t.broken?⟩ := by
  rw [answerAll, Text.isBlankLine_withoutLineEnd, hblank]
  dsimp only
  rw [if_neg Bool.false_ne_true, htext]

/-- **A session is a fold of turns** over the lines that it answers, by
induction on all lines. -/
theorem finish_foldl (p : Progress) {raws : List String}
    (h : Shows p.settings.template p.env (answered raws)) :
    ((answered raws).foldl Progress.turn p).finish
      = let t := answerAll p.settings.template p.settings.prompt p.env raws
        ⟨p.output ++ t.output, t.env, p.journal ++ t.journal, t.broken?⟩ := by
  induction raws generalizing p with
  | nil => simp [answered, answerAll, Progress.finish]
  | cons raw raws ih =>
    rw [answered_cons] at h ⊢
    cases hblank : Text.isBlankLine raw.toList with
    | true =>
      rw [answerAll_of_blank _ _ _ _ ((Text.isBlankLine_withoutLineEnd _).trans hblank)]
      simp [Progress.finish]
    | false =>
      rw [hblank] at h
      obtain ⟨hline, hlines⟩ := shows_cons_iff.mp h
      obtain ⟨text, htext⟩ := exists_text_of_shown hline
      rw [← env_reply p.settings.template] at hlines
      rw [answerAll_of_text raws hblank htext]
      refine (ih (p.turn _) hlines).trans ?_
      simp only [Progress.turn, htext, String.append_assoc, List.append_assoc]
      rfl

/-- A whole session is the fold that begins with its banner. -/
theorem run_eq_finish {settings : Settings} {raws : List String}
    (h : Shows settings.template env (answered raws)) :
    run settings env raws
      = ((answered raws).foldl Progress.turn (.start settings env)).finish := by
  rw [finish_foldl (.start settings env) h, run]
  cases hbanner : settings.banner with
  | true => simp [Progress.start, hbanner, String.append_assoc]
  | false => simp [Progress.start, hbanner]

/-- The lines that a stream is cut into make it up again. -/
theorem join_linesOf (input : String) : String.join (linesOf input) = input := by
  rw [← String.toList_inj, String.toList_join, linesOf, List.flatMap_map]
  simp only [String.toList_ofList]
  exact List.flatMap_id.trans (Text.flatten_linesWithEnds _)

theorem map_toList_linesOf (input : String) :
    (linesOf input).map String.toList = Text.linesWithEnds input.toList := by
  rw [linesOf, List.map_map]
  exact (List.map_congr_left fun _ _ => String.toList_ofList).trans (List.map_id _)

/-- **A stream has one list of lines.** -/
theorem linesOf_join {raws : List String} (h : Text.AreCut (raws.map String.toList)) :
    linesOf (String.join raws) = raws := by
  rw [linesOf, String.toList_join, List.flatMap_def, Text.linesWithEnds_flatten h,
    List.map_map]
  exact (List.map_congr_left fun _ _ => String.ofList_toList).trans (List.map_id _)

/-- **A session, told from its lines.** It starts with the variables that it is
given, or else those of its settings. If its template can show what the lines
before the first blank one compute, then these lines are what it answers, in
turn and no more: its variables are what they leave, and it prints the banner
if that is wanted, an answer for each of them with the prompt before it, and
the prompt once more. The settings are as they were. A stream is answered as
its lines are, whatever text they are cut from. -/
theorem run_eq_foldl {settings : Settings} {given? : Option Environment}
    {raws : List String}
    (h : Shows settings.template (given?.getD settings.initial) (answered raws)) :
    let env := given?.getD settings.initial
    let p := (answered raws).foldl Progress.turn (.start settings env)
    run settings env raws = p.finish ∧ p.settings = settings ∧
      p.env = env.after (answered raws) ∧
      (∃ texts, AreAnswers settings.template env (answered raws) texts ∧
        p.output = (if settings.banner then banner ++ "\n" else "")
          ++ printed settings.prompt texts) ∧
      ∀ input, String.join (linesOf input) = input ∧
        Text.AreCut ((linesOf input).map String.toList) ∧
        (Text.AreCut (raws.map String.toList) → String.join raws = input →
          run settings env (linesOf input) = run settings env raws) := by
  intro env p
  refine ⟨run_eq_finish h, Progress.settings_foldl _ _, Progress.env_foldl _ _, ?_,
    fun input => ⟨join_linesOf input, ?_, ?_⟩⟩
  · obtain ⟨texts, htexts⟩ := exists_areAnswers h
    exact ⟨texts, htexts, Progress.output_foldl (.start settings env) htexts⟩
  · rw [map_toList_linesOf]
    exact Text.areCut_linesWithEnds _
  · rintro hcut rfl
    rw [linesOf_join hcut]

/-- Settings with a prompt, without the banner, and with a variable. -/
def sampleSettings : Settings :=
  { Settings.default with prompt := "> ", banner := false, initial := .ofList [("a", 1)] }

/-- Two lines that are answered, of which the second fails when it has already
changed a variable, a blank one, and one more. -/
def sampleLines : List String :=
  ["a += 2\n", "a++ / 0\r\n", " \t\n", "a = 0\n"]

theorem areAnswers_sample :
    AreAnswers sampleSettings.template sampleSettings.initial (answered sampleLines)
      ["Result: 3", "Failed to evaluate: Division by zero."] := by
  have hlines : answered sampleLines = ["a += 2", "a++ / 0"] := by decide +kernel
  rw [hlines, areAnswers_cons_iff, areAnswers_cons_iff]
  exact ⟨eq_ok_of_toOption (by decide +kernel), eq_ok_of_toOption (by decide +kernel),
    areAnswers_nil⟩

/-- Of the sample, two lines are answered and the third ends the session. -/
theorem run_eq_foldl_sample :
    Shows sampleSettings.template sampleSettings.initial (answered sampleLines) ∧
      (run sampleSettings sampleSettings.initial sampleLines).output
        = "> Result: 3\n> Failed to evaluate: Division by zero.\n> " ∧
      (run sampleSettings sampleSettings.initial sampleLines).env.bindings = [("a", 4)] := by
  have hshows : Shows sampleSettings.template
      ((none : Option Environment).getD sampleSettings.initial) (answered sampleLines) :=
    shows_of_areAnswers areAnswers_sample
  have hrun := (run_eq_foldl hshows).1
  refine ⟨hshows, ?_, ?_⟩
  · refine (congrArg Transcript.output hrun).trans ?_
    decide +kernel
  · refine (congrArg (fun t : Transcript => t.env.bindings) hrun).trans ?_
    decide +kernel

end Session

end Abacus
