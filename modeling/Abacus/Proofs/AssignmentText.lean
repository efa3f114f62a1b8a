import Mathlib.Data.List.DropRight
import Abacus.Proofs.InitialVariables
import Abacus.Proofs.LongestMatch

/-!
# Assignments in text form

Which texts are assignments can be said without mention of how they are read
(`Assignment.IsWrittenBy`): before the first `=` stands a name, behind it a
numeral that denotes a word, and white space around either is free. The
reader accepts these texts, with that name and that integer, and no other
(`read_assignment`).

Every other text is refused, and in words (`Assignment.answers_read`). The
message for an integer that is no word has to show it, and an integer may have
too many digits for that. But then it has no numeral either, and another
message is given (`Numeral.Denotes.isWritable`).
-/

namespace Abacus

/-! ## White space at the ends -/

namespace Text

/-- **A trimmed text**: what it begins and ends with is not white space. -/
structure IsTrimmed (cs : List Char) : Prop where
  head : ∀ c ∈ cs.head?, isBlank c = false
  last : ∀ c ∈ cs.getLast?, isBlank c = false

variable {cs l r : List Char} {p : Char → Bool}

theorem isTrimmed_trim (cs : List Char) : IsTrimmed (trim cs) where
  head c hc := by
    obtain ⟨rest, hrest⟩ : trim cs <+: trimStart cs := List.rdropWhile_prefix _ _
    have hstart : c ∈ (trimStart cs).head? := by
      rw [← hrest, List.head?_append, Option.mem_def.mp hc]
      rfl
    exact Bool.eq_false_iff.mpr (Scan.not_mem_head?_dropWhile cs hstart)
  last c hc := by
    rw [trim, dropEndWhile, List.getLast?_reverse] at hc
    exact Bool.eq_false_iff.mpr (Scan.not_mem_head?_dropWhile _ hc)

/-- From a text that begins otherwise nothing is taken away. -/
theorem dropWhile_eq_self (h : ∀ c ∈ cs.head?, p c = false) : cs.dropWhile p = cs :=
  (Scan.takeWhile_append_of_stop (List.forall_mem_nil _) h).2

theorem dropEndWhile_eq_self (h : ∀ c ∈ cs.getLast?, p c = false) :
    dropEndWhile p cs = cs := by
  rw [← List.head?_reverse] at h
  rw [dropEndWhile, dropWhile_eq_self h, List.reverse_reverse]

/-- White space around a trimmed text is what trimming takes away. -/
theorem trim_append (hl : ∀ c ∈ l, isBlank c = true) (hr : ∀ c ∈ r, isBlank c = true)
    (h : IsTrimmed cs) : trim (l ++ cs ++ r) = cs := by
  have hr' : ∀ c ∈ r.reverse, isBlank c = true := fun c hc => hr c (List.mem_reverse.mp hc)
  have hstart : trimStart (l ++ cs ++ r) = trimStart (cs ++ r) := by
    rw [trimStart, List.append_assoc, List.dropWhile_append_of_pos hl, trimStart]
  rw [trim, hstart]
  cases cs with
  | nil =>
    rw [trimStart, List.nil_append, List.dropWhile_eq_nil_iff.mpr hr]
    rfl
  | cons c cs =>
    have hc : ∀ d ∈ (c :: cs ++ r).head?, isBlank d = false := h.head
    rw [trimStart, dropWhile_eq_self hc]
    calc dropEndWhile isBlank (c :: cs ++ r) = dropEndWhile isBlank (c :: cs) := by
          rw [dropEndWhile, List.reverse_append, List.dropWhile_append_of_pos hr', dropEndWhile]
      _ = c :: cs := dropEndWhile_eq_self h.last

end Text

/-- The reader of integers has no more white space to skip in a trimmed text. -/
theorem Numeral.readInt?_trim_eq_some_iff {cs : List Char} {v : Int} :
    readInt? (Text.trim cs) = some v ↔ Denotes (Text.trim cs) v := by
  have hmargin : ∀ c, Text.isBlank c = false → isMargin c = false := by
    intro c hc
    rw [isMargin, hc, Bool.false_and]
  have h := Text.isTrimmed_trim cs
  rw [readInt?, Text.dropWhile_eq_self fun c hc => hmargin c (h.head c hc),
    Text.dropEndWhile_eq_self fun c hc => hmargin c (h.last c hc), readSigned?_eq_some_iff]

/-! ## Names -/

namespace Variable

/-- Names are written with the letters `a` to `z` and underscores. -/
theorem isName_iff {x : String} :
    isName x = true ↔ x ≠ "" ∧ ∀ c ∈ x.toList, ('a' ≤ c ∧ c ≤ 'z') ∨ c = '_' := by
  unfold isName Scan.isNameChar
  simp

theorem isNameChar_of_isName {x : String} (h : isName x = true) :
    ∀ c ∈ x.toList, Scan.isNameChar c = true :=
  List.all_eq_true.mp (Bool.and_eq_true_iff.mp h).2

/-- A name has no white space in it. -/
theorem isTrimmed_of_isName {x : String} (h : isName x = true) : Text.IsTrimmed x.toList where
  head c hc := Scan.isBlank_of_isNameChar (isNameChar_of_isName h c (List.mem_of_mem_head? hc))
  last c hc :=
    Scan.isBlank_of_isNameChar (isNameChar_of_isName h c (List.mem_of_mem_getLast? hc))

/-- An integer passes the check as it is. -/
theorem check_integer_eq_ok_iff {name : String} {n v : Int} :
    check name (.integer n) = .ok v ↔ isName name = true ∧ Word.Fits n ∧ v = n := by
  unfold check
  cases isName name with
  | false => exact iff_of_false nofun fun h => Bool.false_ne_true h.1
  | true =>
    by_cases hfits : Word.Fits n
    · simp [hfits, eq_comm]
    · simp [hfits]

end Variable

/-! ## The reader -/

namespace Assignment

/-- **The text of an assignment**: a name before the first `=`, and behind it a
numeral for the value, which is a word. White space around either is free. -/
def IsWrittenBy (a : Assignment) (text : String) : Prop :=
  ∃ before after, text.toList = before ++ '=' :: after ∧ '=' ∉ before ∧
    a.name = String.ofList (Text.trim before) ∧ a.name ≠ "" ∧
    (∀ c ∈ a.name.toList, ('a' ≤ c ∧ c ≤ 'z') ∨ c = '_') ∧
    Numeral.Denotes (Text.trim after) a.value ∧ Word.Fits a.value

variable {text : String} {before after : List Char} {a : Assignment}

/-- A text is divided at its first `=`, and the parts are read in turn. -/
theorem read_eq_ok_iff (htext : text.toList = before ++ '=' :: after)
    (hbefore : '=' ∉ before) :
    read text = .ok a ↔ a.name = String.ofList (Text.trim before) ∧
      Variable.isName a.name = true ∧
      Numeral.Denotes (Text.trim after) a.value ∧ Word.Fits a.value := by
  have hne : ∀ c ∈ before, decide (c ≠ '=') = true :=
    fun c hc => decide_eq_true fun h => hbefore (h ▸ hc)
  have hstop : ∀ c ∈ ('=' :: after).head?, decide (c ≠ '=') = false := by
    rintro _ ⟨⟩
    exact decide_eq_false fun h => h rfl
  obtain ⟨htake, hdrop⟩ := Scan.takeWhile_append_of_stop hne hstop
  unfold read
  rw [htext, htake, hdrop]
  dsimp only
  constructor
  · intro h
    split at h
    · nomatch h
    split at h
    · nomatch h
    rename_i n hn
    split at h
    · rename_i hcheck
      obtain ⟨hname, hfits, rfl⟩ := Variable.check_integer_eq_ok_iff.mp hcheck
      cases h
      exact ⟨rfl, hname, Numeral.readInt?_trim_eq_some_iff.mp hn, hfits⟩
    · nomatch h
  · obtain ⟨name, value⟩ := a
    rintro ⟨rfl, hname, hdenotes, hfits⟩
    have hempty : (String.ofList (Text.trim before)).isEmpty = false :=
      (Bool.not_eq_true' _).mp (Bool.and_eq_true_iff.mp hname).1
    rw [hempty, if_neg Bool.false_ne_true, Numeral.readInt?_trim_eq_some_iff.mpr hdenotes]
    dsimp only
    rw [Variable.check_integer_eq_ok_iff.mpr ⟨hname, hfits, rfl⟩]

theorem read_of_notMem (h : '=' ∉ text.toList) : read text = .error (.noName text) := by
  have hdrop : text.toList.dropWhile (· ≠ '=') = [] :=
    List.dropWhile_eq_nil_iff.mpr fun c hc => decide_eq_true fun heq => h (heq ▸ hc)
  unfold read
  rw [hdrop]

/-- **The reader accepts what is written as an assignment.** -/
theorem read_eq_ok_iff_isWrittenBy : read text = .ok a ↔ a.IsWrittenBy text := by
  constructor
  · intro h
    by_cases hmem : '=' ∈ text.toList
    · obtain ⟨before, after, htext, hbefore⟩ := List.eq_append_cons_of_mem hmem
      obtain ⟨hname, hisName, hvalue⟩ := (read_eq_ok_iff htext hbefore).mp h
      obtain ⟨hne, hchars⟩ := Variable.isName_iff.mp hisName
      exact ⟨before, after, htext, hbefore, hname, hne, hchars, hvalue⟩
    · rw [read_of_notMem hmem] at h
      nomatch h
  · rintro ⟨before, after, htext, hbefore, hname, hne, hchars, hvalue⟩
    exact (read_eq_ok_iff htext hbefore).mpr
      ⟨hname, Variable.isName_iff.mpr ⟨hne, hchars⟩, hvalue⟩

/-- What is written for an integer has no white space in it. -/
theorem isTrimmed_intText (v : Int) : Text.IsTrimmed (Numeral.intText v).toList := by
  have hblank : ∀ c ∈ (Numeral.intText v).toList, Text.isBlank c = false := by
    intro c hc
    rcases Numeral.isDigit_or_eq_of_mem_intText hc with hdigit | rfl
    · exact Scan.isBlank_of_isDigit hdigit
    · decide
  exact ⟨fun c hc => hblank c (List.mem_of_mem_head? hc),
    fun c hc => hblank c (List.mem_of_mem_getLast? hc)⟩

/-- **A name and a word are read back**, with whatever white space they are
written. -/
theorem read_written {name : String} {v : Int} {l₁ r₁ l₂ r₂ : List Char}
    (hname : Variable.isName name = true) (hv : Word.Fits v)
    (hblank : ∀ c ∈ l₁ ++ r₁ ++ l₂ ++ r₂, Text.isBlank c = true) :
    read (String.ofList (l₁ ++ name.toList ++ r₁ ++
        '=' :: (l₂ ++ (Numeral.intText v).toList ++ r₂))) = .ok ⟨name, v⟩ := by
  simp only [List.forall_mem_append] at hblank
  obtain ⟨⟨⟨hl₁, hr₁⟩, hl₂⟩, hr₂⟩ := hblank
  have hsign : ∀ c, Text.isBlank c = true ∨ Scan.isNameChar c = true → c ≠ '=' := by
    rintro _ hc rfl
    revert hc
    decide
  have hbefore : '=' ∉ l₁ ++ name.toList ++ r₁ := by
    intro hmem
    refine hsign '=' ?_ rfl
    rw [List.mem_append, List.mem_append] at hmem
    rcases hmem with (hmem | hmem) | hmem
    · exact .inl (hl₁ _ hmem)
    · exact .inr (Variable.isNameChar_of_isName hname _ hmem)
    · exact .inl (hr₁ _ hmem)
  refine (read_eq_ok_iff String.toList_ofList hbefore).mpr ?_
  rw [Text.trim_append hl₁ hr₁ (Variable.isTrimmed_of_isName hname),
    Text.trim_append hl₂ hr₂ (isTrimmed_intText v), String.ofList_toList]
  exact ⟨rfl, hname, Numeral.denotes_intText hv.isWritable, hv⟩

end Assignment

/-- **Assignments in text form.** The reader of assignments gives a name and an
integer exactly for the texts in which they are written: divided at the first
`=` and without the white space around the parts, the one is a name and the
other a numeral that denotes the integer, and the integer is a word. All other
texts are refused, each with a message. So a name and a word, written with any
white space around them, are read back. -/
theorem read_assignment :
    (∀ text a, Assignment.read text = .ok a ↔ a.IsWrittenBy text) ∧
    (∀ text, (∀ a : Assignment, ¬a.IsWrittenBy text) → ∃ refusal message,
      Assignment.read text = .error refusal ∧ refusal.message? = some message) ∧
    ∀ (name : String) (v : Int) (l₁ r₁ l₂ r₂ : List Char),
      Variable.isName name = true → Word.Fits v →
        (∀ c ∈ l₁ ++ r₁ ++ l₂ ++ r₂, Text.isBlank c = true) →
          Assignment.read (String.ofList (l₁ ++ name.toList ++ r₁ ++
            '=' :: (l₂ ++ (Numeral.intText v).toList ++ r₂))) = .ok ⟨name, v⟩ := by
  refine ⟨fun text a => Assignment.read_eq_ok_iff_isWrittenBy, fun text h => ?_,
    fun name v l₁ r₁ l₂ r₂ => Assignment.read_written⟩
  cases hread : Assignment.read text with
  | ok a => exact absurd (Assignment.read_eq_ok_iff_isWrittenBy.mp hread) (h a)
  | error refusal =>
    obtain ⟨message, hmessage⟩ := (Assignment.answers_read text).of_eq_error hread
    exact ⟨refusal, message, rfl, hmessage⟩

/-- A sign, an underscore, a leading zero and digits of two scripts. -/
theorem read_assignment_signed :
    Assignment.read "\tx_ = -0_1٣ " = .ok ⟨"x_", -13⟩ := by
  have hdigits : Numeral.Run "0_1٣".toList [0, 1, 3] :=
    .underscore rfl (.cons rfl (.single rfl))
  have hdenotes : Numeral.Denotes (Text.trim " -0_1٣ ".toList) (-13) :=
    .minus ⟨_, hdigits, by decide, rfl⟩
  have hname : Variable.isName "x_" = true := rfl
  obtain ⟨hne, hchars⟩ := Variable.isName_iff.mp hname
  exact (read_assignment.1 _ _).mpr ⟨"\tx_ ".toList, " -0_1٣ ".toList, rfl, by decide, rfl,
    hne, hchars, hdenotes, by decide⟩

end Abacus
