import Mathlib.Data.Nat.Digits.Lemmas
import Abacus.Proofs.Literal

/-!
# Numerals

A numeral is an optional sign and a run of digits, of whatever scripts, in
which a single underscore may stand between two digits. It denotes an integer
if it has at most 4300 digits (`Numeral.Denotes`). The reader of integers
accepts these texts, with white space around them, and no other
(`readSigned?_eq_some_iff`), although it looks at one character at a time and
remembers only whether the last one was a digit.

In the other direction, what is written for an integer is a numeral that
denotes it (`denotes_intText`), and a numeral denotes nothing that could not
be written again (`Denotes.isWritable`).

The literals of a line are read by the same reader, but they may have any
number of digits: the parser takes care that the reader never meets too many
(`literalValue_exact`).
-/

namespace Abacus

namespace Numeral

open Abacus.Text

/-! ## Runs of digits -/

/-- **A run of digits**, with single underscores between some of them, and the
values of the digits. -/
inductive Run : List Char → List Nat → Prop
  | single {c : Char} {d : Nat} : digitValue? c = some d → Run [c] [d]
  | cons {c : Char} {d : Nat} {cs : List Char} {ds : List Nat} :
      digitValue? c = some d → Run cs ds → Run (c :: cs) (d :: ds)
  | underscore {c : Char} {d : Nat} {cs : List Char} {ds : List Nat} :
      digitValue? c = some d → Run cs ds → Run (c :: '_' :: cs) (d :: ds)

variable {cs : List Char} {ds : List Nat} {n : Nat} {v : Int}

namespace Run

theorem lt_ten (h : Run cs ds) : ∀ d ∈ ds, d < 10 := by
  induction h with
  | single hc => exact List.forall_mem_singleton.mpr (digitValue?_lt_ten hc)
  | cons hc _ ih | underscore hc _ ih =>
    exact List.forall_mem_cons.mpr ⟨digitValue?_lt_ten hc, ih⟩

/-- It begins with a digit. -/
theorem isSome_head (h : Run cs ds) : ∃ c ∈ cs.head?, (digitValue? c).isSome = true := by
  cases h with
  | single hc | cons hc _ | underscore hc _ =>
    exact ⟨_, rfl, Option.isSome_of_eq_some hc⟩

end Run

section Reader

variable {c : Char} {d : Nat}

theorem digitRun?_cons (hc : digitValue? c = some d) (afterDigit : Bool) (cs : List Char) :
    digitRun? afterDigit (c :: cs) = (digitRun? true cs).map (d :: ·) := by
  have hund : c ≠ '_' := by
    rintro rfl
    nomatch hc
  rw [digitRun?, decide_eq_false hund, Bool.false_and, if_neg Bool.false_ne_true, hc]
  cases digitRun? true cs <;> rfl

theorem digitRun?_cons_of_none (hc : digitValue? c = none) (hund : c ≠ '_')
    (afterDigit : Bool) (cs : List Char) : digitRun? afterDigit (c :: cs) = none := by
  rw [digitRun?, decide_eq_false hund, Bool.false_and, if_neg Bool.false_ne_true, hc]
  rfl

theorem digitRun?_of_run (h : Run cs ds) (afterDigit : Bool) :
    digitRun? afterDigit cs = some ds := by
  induction h generalizing afterDigit with
  | single hc =>
    rw [digitRun?_cons hc]
    rfl
  | cons hc _ ih =>
    rw [digitRun?_cons hc, ih]
    rfl
  | @underscore c d cs ds hc _ ih =>
    have hund : digitRun? true ('_' :: cs) = digitRun? false cs := rfl
    rw [digitRun?_cons hc, hund, ih]
    rfl

/-- What is read is a run, or continues one. The reader alternates between the
two, so that they are shown together, by induction on the text. -/
theorem run_of_digitRun? :
    (digitRun? false cs = some ds → Run cs ds) ∧
      (digitRun? true cs = some ds →
        ∀ c d, digitValue? c = some d → Run (c :: cs) (d :: ds)) := by
  induction cs generalizing ds with
  | nil =>
    refine ⟨nofun, ?_⟩
    rintro ⟨⟩ c d hc
    exact .single hc
  | cons c cs ih =>
    cases hc : digitValue? c with
    | some d =>
      have hrun : ∀ afterDigit, digitRun? afterDigit (c :: cs) = some ds →
          Run (c :: cs) ds := by
        intro afterDigit h
        rw [digitRun?_cons hc] at h
        obtain ⟨_, htail, rfl⟩ := Option.map_eq_some_iff.mp h
        exact ih.2 htail c d hc
      exact ⟨hrun false, fun h c' d' hc' => .cons hc' (hrun true h)⟩
    | none =>
      by_cases hund : c = '_'
      · subst hund
        exact ⟨nofun, fun h c' d' hc' => .underscore hc' (ih.1 h)⟩
      · rw [digitRun?_cons_of_none hc hund, digitRun?_cons_of_none hc hund]
        exact ⟨nofun, nofun⟩

theorem digitRun?_eq_some_iff : digitRun? false cs = some ds ↔ Run cs ds :=
  ⟨run_of_digitRun?.1, fun h => digitRun?_of_run h false⟩

end Reader

/-! ## What a numeral denotes -/

/-- The number that a run of at most 4300 digits denotes in base ten. -/
def Writes (cs : List Char) (n : Nat) : Prop :=
  ∃ ds, Run cs ds ∧ ds.length ≤ 4300 ∧ n = Nat.ofDigits 10 ds.reverse

/-- **The integer that a numeral denotes.** -/
inductive Denotes : List Char → Int → Prop
  | plain {cs : List Char} {n : Nat} : Writes cs n → Denotes cs n
  | plus {cs : List Char} {n : Nat} : Writes cs n → Denotes ('+' :: cs) n
  | minus {cs : List Char} {n : Nat} : Writes cs n → Denotes ('-' :: cs) (-n)

theorem ofDigits_eq (ds : List Nat) : ofDigits ds = Nat.ofDigits 10 ds.reverse := by
  induction ds with
  | nil => rfl
  | cons d ds ih =>
    rw [Literal.ofDigits_cons, ih, List.reverse_cons, Nat.ofDigits_append,
      Nat.ofDigits_singleton, List.length_reverse, Nat.mul_comm, Nat.add_comm]

theorem readNat?_eq_some_iff : readNat? cs = some n ↔ Writes cs n := by
  rw [readNat?, Option.bind_eq_bind, Option.bind_eq_some_iff]
  refine exists_congr fun ds => ?_
  rw [digitRun?_eq_some_iff, ofDigits_eq]
  refine and_congr_right fun _ => ?_
  rw [Option.ite_none_right_eq_some, Option.some.injEq, eq_comm (a := n)]
  rfl

section Sign

theorem readSigned?_minus (cs : List Char) :
    readSigned? ('-' :: cs) = (readNat? cs).map fun n : Nat => -(n : Int) := by
  rw [readSigned?]
  cases readNat? cs <;> rfl

theorem readSigned?_plus (cs : List Char) :
    readSigned? ('+' :: cs) = (readNat? cs).map fun n : Nat => (n : Int) := by
  rw [readSigned?]
  cases readNat? cs <;> rfl

theorem readSigned?_unsigned (hminus : ∀ rest, cs ≠ '-' :: rest)
    (hplus : ∀ rest, cs ≠ '+' :: rest) :
    readSigned? cs = (readNat? cs).map fun n : Nat => (n : Int) := by
  rw [readSigned?.eq_3 cs hminus hplus]
  cases readNat? cs <;> rfl

/-- No sign is a digit. -/
theorem Run.ne_cons {c : Char} (h : Run cs ds) (hc : digitValue? c = none) (rest : List Char) :
    cs ≠ c :: rest := by
  rintro rfl
  obtain ⟨d, hd, hdigit⟩ := h.isSome_head
  obtain rfl := Option.some.inj hd
  rw [hc] at hdigit
  nomatch hdigit

end Sign

/-- **The reader of integers reads numerals**, and nothing else. -/
theorem readSigned?_eq_some_iff : readSigned? cs = some v ↔ Denotes cs v := by
  constructor
  · intro h
    by_cases hminus : ∃ rest, cs = '-' :: rest
    · obtain ⟨rest, rfl⟩ := hminus
      rw [readSigned?_minus] at h
      obtain ⟨n, hn, rfl⟩ := Option.map_eq_some_iff.mp h
      exact .minus (readNat?_eq_some_iff.mp hn)
    by_cases hplus : ∃ rest, cs = '+' :: rest
    · obtain ⟨rest, rfl⟩ := hplus
      rw [readSigned?_plus] at h
      obtain ⟨n, hn, rfl⟩ := Option.map_eq_some_iff.mp h
      exact .plus (readNat?_eq_some_iff.mp hn)
    · rw [readSigned?_unsigned (not_exists.mp hminus) (not_exists.mp hplus)] at h
      obtain ⟨n, hn, rfl⟩ := Option.map_eq_some_iff.mp h
      exact .plain (readNat?_eq_some_iff.mp hn)
  · intro h
    cases h with
    | plus h => rw [readSigned?_plus, readNat?_eq_some_iff.mpr h, Option.map_some]
    | minus h => rw [readSigned?_minus, readNat?_eq_some_iff.mpr h, Option.map_some]
    | plain h =>
      obtain ⟨ds, hrun, -⟩ := id h
      rw [readSigned?_unsigned (hrun.ne_cons (by decide)) (hrun.ne_cons (by decide)),
        readNat?_eq_some_iff.mpr h, Option.map_some]

/-! ## Writing -/

theorem Run.ofDigits_lt (h : Run cs ds) {digits : Nat} (hlen : ds.length ≤ digits) :
    Nat.ofDigits 10 ds.reverse < Nat.pow 10 digits := by
  have hlt : Nat.ofDigits 10 ds.reverse < 10 ^ ds.reverse.length :=
    Nat.ofDigits_lt_base_pow_length (by decide)
      fun d hd => h.lt_ten d (List.mem_reverse.mp hd)
  rw [List.length_reverse] at hlt
  exact hlt.trans_le (Nat.pow_le_pow_right (by decide) hlen)

theorem Writes.lt_pow (h : Writes cs n) : n < Nat.pow 10 maxDigits := by
  obtain ⟨ds, hrun, hlen, rfl⟩ := h
  exact hrun.ofDigits_lt hlen

/-- **A numeral denotes what can be written.** -/
theorem Denotes.isWritable (h : Denotes cs v) : isWritable v = true := by
  refine decide_eq_true ?_
  cases h with
  | plain h | plus h => exact h.lt_pow
  | minus h =>
    rw [Int.natAbs_neg]
    exact h.lt_pow

/-- So what has been read is not too long to be shown. -/
theorem isWritable_of_readInt? (h : readInt? cs = some v) : isWritable v = true :=
  (readSigned?_eq_some_iff.mp h).isWritable

/-- The digits of a number are a run that writes it. -/
theorem writes_toDigits (hn : n < Nat.pow 10 maxDigits) : Writes (Nat.toDigits 10 n) n := by
  have hdigits : ∀ c ∈ Nat.toDigits 10 n, Text.isDigit c = true := fun c hc =>
    Nat.isDigit_of_mem_toDigits (by decide) (by decide) hc
  have hrun := Literal.digitRun?_of_forall_isDigit hdigits false fun _ => Nat.toDigits_ne_nil
  have hlen : ∀ digits, 0 < digits → n < Nat.pow 10 digits →
      (Nat.toDigits 10 n).length ≤ digits := Nat.toDigits_length 10 n
  refine ⟨_, digitRun?_eq_some_iff.mp hrun, ?_, ?_⟩
  · rw [List.length_map]
    exact hlen maxDigits (by decide) hn
  · rw [← ofDigits_eq, ofDigits, List.foldl_map]
    exact (Nat.ofDigitChars_ten_toDigits (n := n)).symm

theorem toList_intText (v : Int) :
    (intText v).toList =
      if v < 0 then '-' :: Nat.toDigits 10 v.natAbs else Nat.toDigits 10 v.natAbs := by
  cases v with
  | ofNat n =>
    rw [if_neg (show ¬Int.ofNat n < 0 from Int.not_lt.mpr (Int.natCast_nonneg n))]
    exact Nat.toList_repr
  | negSucc n =>
    rw [if_pos (Int.negSucc_lt_zero n)]
    show ("-" ++ Nat.repr (n + 1)).toList = _
    rw [String.toList_append, Nat.toList_repr]
    rfl

/-- **What is written for an integer denotes it**, if it can be written. -/
theorem denotes_intText (hv : isWritable v = true) : Denotes (intText v).toList v := by
  have hwrites : Writes (Nat.toDigits 10 v.natAbs) v.natAbs :=
    writes_toDigits (of_decide_eq_true hv)
  rw [toList_intText]
  split
  · have hdenotes := Denotes.minus hwrites
    rwa [show -(v.natAbs : Int) = v by omega] at hdenotes
  · have hdenotes := Denotes.plain hwrites
    rwa [show (v.natAbs : Int) = v by omega] at hdenotes

/-- It has digits and at most a sign. -/
theorem isDigit_or_eq_of_mem_intText {c : Char} (hc : c ∈ (intText v).toList) :
    Text.isDigit c = true ∨ c = '-' := by
  have hdigit : c ∈ Nat.toDigits 10 v.natAbs → Text.isDigit c = true :=
    Nat.isDigit_of_mem_toDigits (by decide) (by decide)
  rw [toList_intText] at hc
  split at hc
  · exact (List.mem_cons.mp hc).symm.imp_left hdigit
  · exact .inl (hdigit hc)

end Numeral

/-! ## Literals -/

/-- **A literal is read exactly, however long it is.** Let `value` be the number that a
text of the digits `0` to `9` denotes in base ten. The parser gives the text this value
and no other if it is a word. If it is not, and only then, the literal is refused, as too
large and at its place. So the count of the digits behind the leading zeros never
misleads: more than ten denote no word, and up to ten are within what the reader of
integers reads. -/
theorem literalValue_exact {text : String} (h : Literal.IsDecimal text) (pos : Int) :
    let value : Nat := Nat.ofDigits 10 (text.toList.map Literal.digit).reverse
    (∀ v, literalValue text pos = .ok v ↔ v = value ∧ (value : Int) ≤ Word.greatest) ∧
      (∀ fault, literalValue text pos = .error fault ↔
        fault = .literalTooLarge text pos ∧ Word.greatest < value) ∧
      (∀ fault, literalValue text pos = .error fault →
        fault.kind = .overflow ∧ fault.pos? = some pos) ∧
      (literalDigits < (Literal.significant text).length → Word.greatest < value) ∧
      ((Literal.significant text).length ≤ literalDigits →
        Numeral.readInt? (Literal.significant text) = some (value : Int)) := by
  intro value
  have hvalue : Literal.decimal text = value := Numeral.ofDigits_eq _
  have hliteral := Literal.literalValue_eq h pos
  have hlong := (Literal.significant_spec h).2.2.2
  have hshort := Literal.readInt?_significant h
  rw [hvalue] at hliteral hlong hshort
  have hok (v : Int) : literalValue text pos = .ok v ↔
      v = value ∧ (value : Int) ≤ Word.greatest := by
    rw [hliteral]
    by_cases hfit : (value : Int) ≤ Word.greatest
    · rw [if_pos hfit, Except.ok.injEq, eq_comm, and_iff_left hfit]
    · rw [if_neg hfit]
      exact iff_of_false nofun fun hv => hfit hv.2
  have herror (fault : Fault) : literalValue text pos = .error fault ↔
      fault = .literalTooLarge text pos ∧ Word.greatest < value := by
    rw [hliteral]
    by_cases hfit : (value : Int) ≤ Word.greatest
    · rw [if_pos hfit]
      exact iff_of_false nofun fun hf => not_lt.mpr hfit hf.2
    · rw [if_neg hfit, Except.error.injEq, eq_comm, and_iff_left (not_le.mp hfit)]
  refine ⟨hok, herror, fun fault hf => ?_, hlong, fun hlen => hshort (not_lt.mpr hlen)⟩
  obtain ⟨rfl, -⟩ := (herror fault).mp hf
  exact ⟨rfl, rfl⟩

/-- Behind five thousand zeros, which the reader of integers would not read, the greatest
word is accepted, and the number after it refused. -/
theorem literalValue_exact_zeros :
    let padded (digits : String) : String :=
      String.ofList (List.replicate 5000 '0' ++ digits.toList)
    Literal.IsDecimal (padded "2147483647") ∧
      literalValue (padded "2147483647") 3 = .ok 2147483647 ∧
      Literal.IsDecimal (padded "2147483648") ∧
      literalValue (padded "2147483648") 3
        = .error (.literalTooLarge (padded "2147483648") 3) := by
  intro padded
  have hdecimal (digits : String) (h : Literal.IsDecimal digits) :
      Literal.IsDecimal (padded digits) := by
    unfold Literal.IsDecimal
    rw [String.toList_ofList]
    refine ⟨List.append_ne_nil_of_right_ne_nil _ h.1, List.forall_mem_append.mpr ⟨?_, h.2⟩⟩
    intro c hc
    rw [List.eq_of_mem_replicate hc]
    rfl
  have hvalue (digits : String) :
      Nat.ofDigits 10 ((padded digits).toList.map Literal.digit).reverse
        = Nat.ofDigits 10 (digits.toList.map Literal.digit).reverse := by
    rw [String.toList_ofList, List.map_append, List.reverse_append, List.map_replicate,
      List.reverse_replicate]
    exact Nat.ofDigits_append_replicate_zero _
  have hgreatest := hdecimal "2147483647" (by decide)
  have hnext := hdecimal "2147483648" (by decide)
  refine ⟨hgreatest, ?_, hnext, ?_⟩
  · rw [(literalValue_exact hgreatest 3).1, hvalue]
    decide
  · rw [(literalValue_exact hnext 3).2.1, hvalue]
    exact ⟨rfl, by decide⟩

/-! ## Words -/

namespace Word

theorem Fits.natAbs_le {v : Int} (h : Fits v) : v.natAbs ≤ 2147483648 := by
  obtain ⟨hl, hg⟩ := h
  unfold least at hl
  unfold greatest at hg
  omega

/-- A word has at most ten digits. -/
theorem Fits.natAbs_lt_pow {v : Int} (h : Fits v) {digits : Nat} (hdigits : 10 ≤ digits) :
    v.natAbs < Nat.pow 10 digits := by
  have hpow : 10 ^ 10 ≤ 10 ^ digits := Nat.pow_le_pow_right (by decide) hdigits
  exact (h.natAbs_le.trans_lt (by decide)).trans_le hpow

theorem Fits.isWritable {v : Int} (h : Fits v) : Numeral.isWritable v = true :=
  decide_eq_true (h.natAbs_lt_pow (by decide))

end Word

end Abacus
