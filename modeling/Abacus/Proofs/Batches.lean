import Abacus.Program
import Abacus.Proofs.Dialogue

/-!
# Batches and sessions

A batch evaluates expressions as a session does, on variables that they share,
but gives up at the first that fails, which a session only reports. Up to
there the two print the same results, and there they tell the same fault
(`Program.batch_agrees_with_session`).

They differ in what they take for an expression: a session strips what ends a
line and stops at a blank one, and a batch does neither. So they are compared
on lines (`Session.IsLine`), which a session answers as they stand.

What a batch has done is told by its journal. Every evaluation leaves events
there, if only that the parse began, and the journal of a batch consists of
those of the lines up to the first that fails (`Batch.exists_run_eq`).
-/

namespace Abacus

namespace Environment

/-- What happens when lines are evaluated, each in what those before it have
left. -/
def journal (env : Environment) : List String → List Event
  | [] => []
  | line :: lines =>
    (evaluate line env).journal ++ (evaluate line env).env.journal lines

/-- **The number of lines before the first that fails**, or of all lines if
none does. -/
structure IsFirstFailure (env : Environment) (lines : List String) (k : Nat) : Prop where
  le : k ≤ lines.length
  succeeds : ∀ i (h : i < lines.length), i < k →
    ∃ v, (evaluate lines[i] (env.after (lines.take i))).outcome = .ok v
  fails : ∀ h : k < lines.length,
    ∃ fault, (evaluate lines[k] (env.after (lines.take k))).outcome = .error fault

namespace IsFirstFailure

variable {env : Environment} {line : String} {lines : List String}

theorem nil : env.IsFirstFailure [] 0 :=
  ⟨Nat.zero_le _, nofun, nofun⟩

theorem of_error {fault : Fault} (h : (evaluate line env).outcome = .error fault) :
    env.IsFirstFailure (line :: lines) 0 :=
  ⟨Nat.zero_le _, nofun, fun _ => ⟨fault, h⟩⟩

theorem of_ok {v : Int} {k : Nat} (h : (evaluate line env).outcome = .ok v)
    (hk : (evaluate line env).env.IsFirstFailure lines k) :
    env.IsFirstFailure (line :: lines) (k + 1) := by
  refine ⟨Nat.succ_le_succ hk.le, ?_, fun hlt => hk.fails (Nat.lt_of_succ_lt_succ hlt)⟩
  rintro (_ | i) hi hik
  · exact ⟨v, h⟩
  · exact hk.succeeds i (Nat.lt_of_succ_lt_succ hi) (Nat.lt_of_succ_lt_succ hik)

/-- There is one such number. -/
theorem unique {k l : Nat} (hk : env.IsFirstFailure lines k)
    (hl : env.IsFirstFailure lines l) : k = l := by
  have hle : ∀ {k l}, env.IsFirstFailure lines k → env.IsFirstFailure lines l → k ≤ l := by
    intro k l hk hl
    refine Nat.le_of_not_lt fun hlt => ?_
    have hlength := hlt.trans_le hk.le
    obtain ⟨v, hv⟩ := hk.succeeds l hlength hlt
    obtain ⟨fault, hfault⟩ := hl.fails hlength
    exact nomatch hv.symm.trans hfault
  exact le_antisymm (hle hk hl) (hle hl hk)

end IsFirstFailure

end Environment

/-! ## Batches -/

namespace Batch

variable {template : String} {env : Environment}

/-- A batch gives up at an expression that fails. -/
theorem run_of_error {line : String} {fault : Fault}
    (h : (evaluate line env).outcome = .error fault) (lines : List String) :
    run template env (line :: lines)
      = ⟨[], (evaluate line env).env, (evaluate line env).journal,
          some (.fault line fault)⟩ := by
  rw [run]
  dsimp only
  rw [h]

/-- A batch goes on after an expression that can be shown. -/
theorem run_of_ok {line text : String} {v : Int}
    (h : (evaluate line env).outcome = .ok v)
    (htext : Template.render template v = .ok text) (lines : List String) :
    run template env (line :: lines)
      = let b := run template (evaluate line env).env lines
        ⟨text :: b.texts, b.env, (evaluate line env).journal ++ b.journal, b.stop?⟩ := by
  rw [run]
  dsimp only
  rw [h]
  dsimp only
  rw [htext]

/-- **What a batch does**, told from the answers to its lines: it shows those
before the first that fails, and it evaluates that one and none after it. By
induction on the lines, along which the first failure is found. -/
theorem exists_run_eq {lines texts : List String}
    (h : Session.AreAnswers template env lines texts) :
    ∃ k stop?, env.IsFirstFailure lines k ∧
      run template env lines
        = ⟨texts.take k, env.after (lines.take (k + 1)),
            env.journal (lines.take (k + 1)), stop?⟩ ∧
      (k = lines.length → stop? = none) ∧
      ∀ hk : k < lines.length, ∃ fault,
        (evaluate lines[k] (env.after (lines.take k))).outcome = .error fault ∧
          stop? = some (.fault lines[k] fault) := by
  induction lines generalizing env texts with
  | nil =>
    obtain rfl := List.length_eq_zero_iff.mp h.1
    exact ⟨0, none, .nil, rfl, fun _ => rfl, nofun⟩
  | cons line lines ih =>
    obtain ⟨text, texts, rfl⟩ := List.exists_cons_of_length_eq_add_one h.1
    obtain ⟨htext, htexts⟩ := Session.areAnswers_cons_iff.mp h
    cases houtcome : (evaluate line env).outcome with
    | error fault =>
      refine ⟨0, some (.fault line fault), .of_error houtcome, ?_, nofun,
        fun _ => ⟨fault, houtcome, rfl⟩⟩
      rw [run_of_error houtcome]
      exact congrArg (Batch.mk _ _ · _) (List.append_nil _).symm
    | ok v =>
      obtain ⟨k, stop?, hk, hrun, hall, hfault⟩ := ih htexts
      rw [Session.text_reply_of_ok houtcome] at htext
      refine ⟨k + 1, stop?, .of_ok houtcome hk, ?_, fun hlength => hall (Nat.succ.inj hlength),
        fun hlt => hfault (Nat.lt_of_succ_lt_succ hlt)⟩
      rw [run_of_ok houtcome htext, hrun]
      rfl

end Batch

/-! ## Lines -/

namespace Session

/-- The answer to a line that fails tells the fault. -/
theorem AreAnswers.getElem?_of_error {template : String} {env : Environment}
    {lines texts : List String} (h : AreAnswers template env lines texts) {k : Nat}
    (hk : k < lines.length) {fault : Fault}
    (hfault : (evaluate lines[k] (env.after (lines.take k))).outcome = .error fault) :
    texts[k]? = some ("Failed to evaluate: " ++ fault.message) := by
  have hk' : k < texts.length := h.1.symm ▸ hk
  have htext := (text_reply_of_error hfault).symm.trans (h.2 k hk hk')
  rw [List.getElem?_eq_getElem hk', Except.ok.inj htext]

/-- **A line that stands alone**: it is not blank, and nothing in it ends a
line. -/
structure IsLine (line : String) : Prop where
  nonblank : Text.isBlankLine line.toList = false
  unended : ∀ c ∈ line.toList, Text.isLineEnd c = false

instance (line : String) : Decidable (IsLine line) :=
  decidable_of_iff (Text.isBlankLine line.toList = false ∧
      line.toList.any Text.isLineEnd = false)
    ⟨fun h => ⟨h.1, fun c hc => Bool.eq_false_of_not_eq_true (List.any_eq_false.mp h.2 c hc)⟩,
      fun h => ⟨h.nonblank,
        List.any_eq_false.mpr fun c hc => Bool.not_eq_true _ ▸ h.unended c hc⟩⟩

theorem IsLine.withoutLineEnd {line : String} (h : IsLine line) :
    String.ofList (Text.withoutLineEnd line.toList) = line := by
  have hkept : line.toList.reverse.dropWhile Text.isLineEnd = line.toList.reverse := by
    rw [List.dropWhile_eq_self_iff]
    intro hpos
    rw [h.unended _ (List.mem_reverse.mp (List.getElem_mem hpos))]
    exact Bool.false_ne_true
  rw [Text.withoutLineEnd, Text.dropEndWhile, hkept, List.reverse_reverse, String.ofList_toList]

/-- Lines that stand alone are answered as they are. -/
theorem answered_of_isLine {lines : List String} (h : ∀ line ∈ lines, IsLine line) :
    answered lines = lines := by
  induction lines with
  | nil => rfl
  | cons line lines ih =>
    obtain ⟨hline, hlines⟩ := List.forall_mem_cons.mp h
    rw [answered_cons, hline.nonblank, hline.withoutLineEnd, ih hlines]
    rfl

/-- Without a prompt, what is printed are the answers. -/
theorem printed_of_no_prompt (texts : List String) :
    printed "" texts = Outcome.ofLines texts := by
  simp [printed, Outcome.ofLines]

/-- A session without banner and prompt, on lines that stand alone. -/
theorem run_of_isLine {settings : Settings} {env : Environment}
    {lines texts : List String} (hlines : ∀ line ∈ lines, IsLine line)
    (h : AreAnswers settings.template env lines texts) :
    let t := run { settings with prompt := "", banner := false } env lines
    t.output = Outcome.ofLines texts ∧ t.env = env.after lines := by
  intro t
  let p : Progress := .start { settings with prompt := "", banner := false } env
  have ht : t = (lines.foldl Progress.turn p).finish := by
    refine (run_eq_finish ?_).trans ?_ <;> rw [answered_of_isLine hlines]
    exact shows_of_areAnswers h
  rw [ht]
  refine ⟨(p.output_finish h).trans ?_, p.env_foldl lines⟩
  calc "" ++ printed "" texts ++ ""
      = printed "" texts := String.append_empty.trans String.empty_append
    _ = Outcome.ofLines texts := printed_of_no_prompt texts

end Session

namespace Program

/-- The line of a variable. -/
def variableLine (binding : String × Int) : String :=
  binding.1 ++ " = " ++ Numeral.intText binding.2

/-- **The variables are listed once each, in the order of their names.** -/
theorem exists_sorted_of_variableLines (env : Environment) :
    ∃ listed : List (String × Int), variableLines env = listed.map variableLine ∧
      listed.Perm env.bindings ∧ listed.Pairwise fun a b => a.1 < b.1 := by
  have hperm := List.mergeSort_perm env.bindings fun a b => decide (a.1 ≤ b.1)
  refine ⟨_, rfl, hperm, ?_⟩
  have hle : (env.bindings.mergeSort fun a b => decide (a.1 ≤ b.1)).Pairwise
      fun a b => a.1 ≤ b.1 := by
    refine (List.pairwise_mergeSort ?_ ?_ env.bindings).imp of_decide_eq_true
    · intro a b c hab hbc
      exact decide_eq_true (le_trans (of_decide_eq_true hab) (of_decide_eq_true hbc))
    · intro a b
      rw [Bool.or_eq_true, decide_eq_true_eq, decide_eq_true_eq]
      exact le_total a.1 b.1
  have hne : (env.bindings.mergeSort fun a b => decide (a.1 ≤ b.1)).Pairwise
      fun a b => a.1 ≠ b.1 :=
    List.pairwise_map.mp ((hperm.map Prod.fst).nodup_iff.mpr env.nodup)
  exact (hle.and hne).imp fun h => lt_of_le_of_ne h.1 h.2

section Outcomes

variable {level : Severity} {showVariables : Bool} {b : Batch}

/-- A batch that a fault has stopped reports it. -/
theorem ofBatch_of_fault {line : String} {fault : Fault}
    (h : b.stop? = some (.fault line fault)) :
    ofBatch level showVariables b
      = ⟨Outcome.ofLines b.texts,
          Outcome.ofLines (shown level b.journal ++
            ["Failed to evaluate " ++ Text.quoted line ++ ": " ++ fault.message]),
          .failed⟩ := by
  unfold ofBatch
  rw [h]

/-- A batch that nothing has stopped may list its variables. -/
theorem ofBatch_of_none (h : b.stop? = none) :
    ∃ listed : List (String × Int), listed.Perm b.env.bindings ∧
      (listed.Pairwise fun a b => a.1 < b.1) ∧
      ofBatch level showVariables b
        = ⟨Outcome.ofLines (b.texts ++ if showVariables then listed.map variableLine else []),
            Outcome.ofLines (shown level b.journal), .finished⟩ := by
  obtain ⟨listed, hlisted, hperm, hsorted⟩ := exists_sorted_of_variableLines b.env
  refine ⟨listed, hperm, hsorted, ?_⟩
  unfold ofBatch
  rw [h, ← hlisted]

end Outcomes

/-- **A batch and a session agree.** They are given the same lines, which
stand alone, and the variables of the same settings, whose template can show
what the lines compute; the session has neither banner nor prompt. It prints an
answer for each line. Of these the batch prints the first `k`, where `k` is
the index of the first line that fails, or the number of lines. It evaluates
the lines up to that one and none after it. If there is one, the run fails
and reports the fault with the words that the session has for it; if there is
none, the run succeeds, and if the variables are to be shown, it lists those
that the session ends with, once each and in the order of their names. -/
theorem batch_agrees_with_session {settings : Settings} {level : Severity}
    {input : String} {lines : List String} {showVariables : Bool}
    (hlines : ∀ line ∈ lines, Session.IsLine line)
    (hshows : Session.Shows settings.template settings.initial lines) :
    let session := Session.run { settings with prompt := "", banner := false }
      settings.initial lines
    let batch := Batch.run settings.template settings.initial lines
    let outcome := perform settings level input (.eval lines [] showVariables)
    ∃ k texts, settings.initial.IsFirstFailure lines k ∧
      Session.AreAnswers settings.template settings.initial lines texts ∧
      session.output = Outcome.ofLines texts ∧
      batch.texts = texts.take k ∧
      batch.env = settings.initial.after (lines.take (k + 1)) ∧
      batch.journal = settings.initial.journal (lines.take (k + 1)) ∧
      (outcome.ending.code = 1 ↔ k < lines.length) ∧
      (∀ hk : k < lines.length, ∃ message,
        texts[k]? = some ("Failed to evaluate: " ++ message) ∧
        outcome = ⟨Outcome.ofLines (texts.take k),
          Outcome.ofLines (shown level batch.journal ++
            ["Failed to evaluate " ++ Text.quoted lines[k] ++ ": " ++ message]),
          .failed⟩) ∧
      (k = lines.length → ∃ listed : List (String × Int), listed.Perm session.env.bindings ∧
        (listed.Pairwise fun a b => a.1 < b.1) ∧
        outcome = ⟨Outcome.ofLines (texts ++
            if showVariables then listed.map variableLine else []),
          Outcome.ofLines (shown level batch.journal), .finished⟩) := by
  intro session batch outcome
  obtain ⟨texts, hanswers⟩ := Session.exists_areAnswers hshows
  obtain ⟨houtput, henv⟩ := Session.run_of_isLine hlines hanswers
  obtain ⟨k, stop?, hk, hrun, hall, hfault⟩ := Batch.exists_run_eq hanswers
  have htexts : batch.texts = texts.take k := congrArg Batch.texts hrun
  have hstop : batch.stop? = stop? := congrArg Batch.stop? hrun
  have hfailed : ∀ hlt : k < lines.length, ∃ message,
      texts[k]? = some ("Failed to evaluate: " ++ message) ∧
      outcome = ⟨Outcome.ofLines (texts.take k),
        Outcome.ofLines (shown level batch.journal ++
          ["Failed to evaluate " ++ Text.quoted lines[k] ++ ": " ++ message]),
        .failed⟩ := by
    intro hlt
    obtain ⟨fault, hfails, hfault⟩ := hfault hlt
    rw [← htexts]
    exact ⟨fault.message, hanswers.getElem?_of_error hlt hfails,
      ofBatch_of_fault (hstop.trans hfault)⟩
  have hfinished : k = lines.length → ∃ listed : List (String × Int),
      listed.Perm session.env.bindings ∧ (listed.Pairwise fun a b => a.1 < b.1) ∧
      outcome = ⟨Outcome.ofLines (texts ++
          if showVariables then listed.map variableLine else []),
        Outcome.ofLines (shown level batch.journal), .finished⟩ := by
    intro hlength
    have henv' : batch.env = session.env := by
      refine (congrArg Batch.env hrun).trans (Eq.trans ?_ henv.symm)
      rw [hlength, List.take_of_length_le (Nat.le_succ _)]
    have htexts' : batch.texts = texts :=
      htexts.trans (List.take_of_length_le (hanswers.1.trans hlength.symm).le)
    rw [← henv', ← htexts']
    exact ofBatch_of_none (hstop.trans (hall hlength))
  refine ⟨k, texts, hk, hanswers, houtput, htexts, congrArg Batch.env hrun,
    congrArg Batch.journal hrun, ⟨?_, ?_⟩, hfailed, hfinished⟩
  · intro hcode
    refine lt_of_le_of_ne hk.le fun hlength => ?_
    obtain ⟨listed, -, -, houtcome⟩ := hfinished hlength
    rw [houtcome] at hcode
    cases hcode
  · intro hlt
    obtain ⟨message, -, houtcome⟩ := hfailed hlt
    rw [houtcome]
    rfl

/-- Three lines, of which the second fails when it has already changed a
variable. -/
def sampleBatch : List String :=
  ["a += 2", "a++ / 0", "a = 9"]

/-- Of the sample, the batch shows one result and leaves the last line. -/
theorem batch_agrees_with_session_sample :
    (∀ line ∈ sampleBatch, Session.IsLine line) ∧
      Session.Shows Session.sampleSettings.template Session.sampleSettings.initial
        sampleBatch ∧
      ∃ texts,
        (Session.run { Session.sampleSettings with prompt := "", banner := false }
          Session.sampleSettings.initial sampleBatch).output = Outcome.ofLines texts ∧
        (Batch.run Session.sampleSettings.template Session.sampleSettings.initial
          sampleBatch).texts = texts.take 1 ∧
        (perform Session.sampleSettings .warning "" (.eval sampleBatch [] true)).ending.code
          = 1 := by
  have hlines : ∀ line ∈ sampleBatch, Session.IsLine line := by decide +kernel
  have hanswers : Session.AreAnswers Session.sampleSettings.template
      Session.sampleSettings.initial sampleBatch
      ["Result: 3", "Failed to evaluate: Division by zero.", "Result: 9"] := by
    refine Session.areAnswers_cons_iff.mpr ⟨eq_ok_of_toOption ?_,
      Session.areAnswers_cons_iff.mpr ⟨eq_ok_of_toOption ?_,
        Session.areAnswers_cons_iff.mpr ⟨eq_ok_of_toOption ?_, Session.areAnswers_nil⟩⟩⟩ <;>
      decide +kernel
  have hshows := Session.shows_of_areAnswers hanswers
  have hfails : ((evaluate "a++ / 0"
      (evaluate "a += 2" Session.sampleSettings.initial).env).outcome)
      = .error .divisionByZero := by decide +kernel
  have hfirst : Session.sampleSettings.initial.IsFirstFailure sampleBatch 1 :=
    .of_ok (v := 3) (eq_ok_of_toOption (by decide +kernel)) (.of_error hfails)
  obtain ⟨k, texts, hk, -, hsession, hbatch, -, -, hcode, -⟩ :=
    batch_agrees_with_session hlines hshows
  obtain rfl := hk.unique hfirst
  exact ⟨hlines, hshows, texts, hsession, hbatch, hcode.mpr (by decide)⟩

end Program

end Abacus
