import Mathlib.Tactic.Ring
import Abacus.Parser

/-!
# Literals

What a run of the digits `0` to `9` denotes, and what the parser makes of
it. The parser drops leading zeros, refuses what is then longer than ten
digits unread, and reads the rest with the reader that all integers go
through. `literalValue_eq` says that this comes to the plain rule: a literal
is its decimal value, of whatever length it is written, as long as the value
is a word.

The two sides meet at ten digits. A run that is longer and does not begin
with a zero denotes at least `10 ^ 10`, which is no word; and a run of at
most ten digits is far below the length at which reading gives up.
-/

namespace Abacus

namespace Literal

open Numeral

/-- The value of one of the digits `0` to `9`. -/
def digit (c : Char) : Nat := c.toNat - '0'.toNat

/-- The number that a run of digits denotes. -/
def decimalOf (cs : List Char) : Nat := ofDigits (cs.map digit)

/-- The number that a text of digits denotes. -/
def decimal (text : String) : Nat := decimalOf text.toList

/-- **A decimal text**: digits `0` to `9`, and at least one of them. -/
def IsDecimal (text : String) : Prop :=
  text.toList ≠ [] ∧ ∀ c ∈ text.toList, Text.isDigit c = true

-- the list is what is searched, and not all characters there are
instance (text : String) : Decidable (IsDecimal text) :=
  @instDecidableAnd _ _ _ (List.decidableBAll _ _)

/-! ## One digit -/

theorem isDigit_iff {c : Char} :
    Text.isDigit c = true ↔ 48 ≤ c.toNat ∧ c.toNat ≤ 57 := by
  unfold Text.isDigit
  rw [Bool.and_eq_true, decide_eq_true_eq, decide_eq_true_eq]
  exact Iff.rfl

/-- The reader of digits of any script gives the digits `0` to `9` their
value. -/
theorem digitValue?_of_isDigit {c : Char} (h : Text.isDigit c = true) :
    Text.digitValue? c = some (digit c) := by
  obtain ⟨hl, hu⟩ := isDigit_iff.mp h
  have hz : (decide (0x30 ≤ c.toNat) && decide (c.toNat < 0x30 + 10)) = true := by
    rw [Bool.and_eq_true, decide_eq_true_eq, decide_eq_true_eq]
    omega
  have hfind : (Text.digitZeros.find? fun z => z ≤ c.toNat && c.toNat < z + 10)
      = some 0x30 := List.find?_cons_of_pos hz
  rw [Text.digitValue?, hfind]
  rfl

theorem ne_of_isDigit {c d : Char} (h : Text.isDigit c = true)
    (hd : Text.isDigit d = false) : c ≠ d := by
  rintro rfl
  rw [h] at hd
  exact Bool.noConfusion hd

theorem isMargin_of_isDigit {c : Char} (h : Text.isDigit c = true) :
    isMargin c = false := by
  obtain ⟨hl, hu⟩ := isDigit_iff.mp h
  rw [isMargin, Text.isBlank_eq_false (by omega) (by omega), Bool.false_and]

theorem digit_eq_zero_iff {c : Char} (h : Text.isDigit c = true) :
    digit c = 0 ↔ c = '0' := by
  obtain ⟨hl, hu⟩ := isDigit_iff.mp h
  constructor
  · intro h0
    have : c.toNat = '0'.toNat := by
      unfold digit at h0
      show c.toNat = 48
      have : '0'.toNat = 48 := rfl
      omega
    exact Char.toNat_inj.mp this
  · rintro rfl
    rfl

/-! ## Runs of digits -/

theorem digitRun?_of_forall_isDigit {cs : List Char}
    (h : ∀ c ∈ cs, Text.isDigit c = true) (afterDigit : Bool)
    (hne : afterDigit = false → cs ≠ []) :
    digitRun? afterDigit cs = some (cs.map digit) := by
  induction cs generalizing afterDigit with
  | nil =>
    cases afterDigit with
    | false => exact absurd rfl (hne rfl)
    | true => rfl
  | cons c cs ih =>
    have hc : Text.isDigit c = true := h c List.mem_cons_self
    have hund : (decide (c = '_') && afterDigit) = false := by
      rw [decide_eq_false (ne_of_isDigit hc rfl), Bool.false_and]
    have hrest := ih (fun d hd => h d (List.mem_cons_of_mem c hd)) true
      (fun hf => Bool.noConfusion hf)
    rw [digitRun?, hund, if_neg Bool.false_ne_true, digitValue?_of_isDigit hc, hrest]
    rfl

/-- **The reader of integers reads a run of digits as its decimal value**,
as long as it reads it at all. -/
theorem readInt?_of_forall_isDigit {cs : List Char} (hne : cs ≠ [])
    (h : ∀ c ∈ cs, Text.isDigit c = true) (hlen : cs.length ≤ maxDigits) :
    readInt? cs = some (decimalOf cs : Int) := by
  have hmargin : ∀ ds : List Char, (∀ c ∈ ds, Text.isDigit c = true) →
      ds.dropWhile isMargin = ds := by
    intro ds hds
    cases ds with
    | nil => rfl
    | cons c ds =>
      rw [List.dropWhile_cons_of_neg]
      rw [isMargin_of_isDigit (hds c List.mem_cons_self)]
      exact Bool.false_ne_true
  have hend : Text.dropEndWhile isMargin cs = cs := by
    rw [Text.dropEndWhile, hmargin _ fun c hc => h c (List.mem_reverse.mp hc),
      List.reverse_reverse]
  have hnat : readNat? cs = some (decimalOf cs) := by
    rw [readNat?, digitRun?_of_forall_isDigit h false fun _ => hne]
    show (if (cs.map digit).length ≤ maxDigits then _ else none) = _
    rw [List.length_map, if_pos hlen]
    rfl
  rw [readInt?, hmargin cs h, hend]
  cases cs with
  | nil => exact absurd rfl hne
  | cons c cs =>
    have hc : Text.isDigit c = true := h c List.mem_cons_self
    rw [readSigned?, hnat]
    · rfl
    · rintro rest ⟨⟩
      exact Bool.noConfusion hc
    · rintro rest ⟨⟩
      exact Bool.noConfusion hc

/-! ## Magnitude -/

theorem foldl_digits (ds : List Nat) (n : Nat) :
    ds.foldl (fun n d => 10 * n + d) n = n * 10 ^ ds.length + ofDigits ds := by
  induction ds generalizing n with
  | nil => simp [ofDigits]
  | cons d ds ih =>
    have hhead : ofDigits (d :: ds) = d * 10 ^ ds.length + ofDigits ds := by
      rw [ofDigits, List.foldl_cons, ih, Nat.mul_zero, Nat.zero_add]
    rw [List.foldl_cons, ih, hhead, List.length_cons]
    ring

theorem ofDigits_cons (d : Nat) (ds : List Nat) :
    ofDigits (d :: ds) = d * 10 ^ ds.length + ofDigits ds := by
  rw [ofDigits, List.foldl_cons, foldl_digits, Nat.mul_zero, Nat.zero_add]

theorem decimalOf_dropWhile_zero (cs : List Char) :
    decimalOf (cs.dropWhile (· = '0')) = decimalOf cs := by
  induction cs with
  | nil => rfl
  | cons c cs ih =>
    by_cases hc : c = '0'
    · subst hc
      rw [List.dropWhile_cons_of_pos (by decide), ih, decimalOf, decimalOf,
        List.map_cons, ofDigits_cons, show digit '0' = 0 from rfl, Nat.zero_mul,
        Nat.zero_add]
    · rw [List.dropWhile_cons_of_neg (by simpa using hc)]

/-- A run that does not begin with a zero is at least the power of ten of
its length. -/
theorem pow_le_decimalOf {c : Char} {cs : List Char}
    (hc : Text.isDigit c = true) (h0 : c ≠ '0') :
    10 ^ cs.length ≤ decimalOf (c :: cs) := by
  have hpos : 0 < digit c :=
    Nat.pos_of_ne_zero fun h => h0 ((digit_eq_zero_iff hc).mp h)
  rw [decimalOf, List.map_cons, ofDigits_cons, List.length_map]
  calc 10 ^ cs.length = 1 * 10 ^ cs.length := (Nat.one_mul _).symm
    _ ≤ digit c * 10 ^ cs.length := Nat.mul_le_mul_right _ hpos
    _ ≤ _ := Nat.le_add_right _ _

/-! ## What the parser makes of a literal -/

/-- The digits that the parser looks at: those after the leading zeros, or
one zero if nothing is left. -/
def significant (text : String) : List Char :=
  let digits := text.toList.dropWhile (· = '0')
  if digits = [] then ['0'] else digits

/-- They are digits, they denote the same number, and if they are more than
ten, the number is no word. -/
theorem significant_spec {text : String} (h : IsDecimal text) :
    significant text ≠ [] ∧ (∀ c ∈ significant text, Text.isDigit c = true) ∧
      decimalOf (significant text) = decimal text ∧
      (literalDigits < (significant text).length →
        Word.greatest < (decimal text : Int)) := by
  have hvalue : decimalOf (text.toList.dropWhile (· = '0')) = decimal text :=
    decimalOf_dropWhile_zero _
  have hall : ∀ c ∈ text.toList.dropWhile (· = '0'), Text.isDigit c = true :=
    fun c hc => h.2 c ((List.dropWhile_sublist _).subset hc)
  unfold significant
  cases hd : text.toList.dropWhile (· = '0') with
  | nil =>
    rw [hd] at hvalue
    rw [if_pos rfl]
    refine ⟨List.cons_ne_nil _ _, ?_, hvalue, fun hlen => absurd hlen (by decide)⟩
    intro c hc
    rw [List.mem_singleton.mp hc]
    rfl
  | cons c cs =>
    rw [hd] at hvalue hall
    rw [if_neg (List.cons_ne_nil c cs)]
    refine ⟨List.cons_ne_nil _ _, hall, hvalue, fun hlen => ?_⟩
    have h0 : c ≠ '0' := by
      have hhead := List.head?_dropWhile_not (fun d => decide (d = '0')) text.toList
      rw [hd] at hhead
      simpa using hhead
    -- the first of more than ten digits stands for at least `10 ^ 10`
    have hpow : 10 ^ 10 ≤ 10 ^ cs.length :=
      Nat.pow_le_pow_right (by decide) (Nat.lt_succ_iff.mp hlen)
    have hle := hpow.trans (pow_le_decimalOf (hall c List.mem_cons_self) h0)
    rw [hvalue] at hle
    unfold Word.greatest
    omega

/-- At most ten digits are not too many for the reader of integers. -/
theorem readInt?_significant {text : String} (h : IsDecimal text)
    (hlen : ¬literalDigits < (significant text).length) :
    readInt? (significant text) = some (decimal text : Int) := by
  obtain ⟨hne, hall, hvalue, -⟩ := significant_spec h
  have hmax : (significant text).length ≤ maxDigits :=
    (not_lt.mp hlen).trans (by decide)
  rw [readInt?_of_forall_isDigit hne hall hmax, hvalue]

/-- More than ten digits are refused unread. -/
theorem literalValue_of_lt {text : String}
    (h : literalDigits < (significant text).length) (pos : Int) :
    literalValue text pos = .error (.literalTooLarge text pos) :=
  if_pos h

/-- Of at most ten the value decides. -/
theorem literalValue_of_readInt? {text : String} {v : Int}
    (h : ¬literalDigits < (significant text).length)
    (hv : readInt? (significant text) = some v) (pos : Int) :
    literalValue text pos = if Word.greatest < v
      then .error (.literalTooLarge text pos) else .ok v := by
  dsimp only [significant] at h hv
  dsimp only [literalValue]
  rw [if_neg h, hv]

/-- **A literal is its decimal value, if that is a word, and too large
otherwise.** Neither the number of leading zeros nor the length of the text
matters. -/
theorem literalValue_eq {text : String} (h : IsDecimal text) (pos : Int) :
    literalValue text pos
      = if (decimal text : Int) ≤ Word.greatest then .ok (decimal text : Int)
        else .error (.literalTooLarge text pos) := by
  by_cases hlen : literalDigits < (significant text).length
  · have hlong := (significant_spec h).2.2.2 hlen
    rw [literalValue_of_lt hlen, if_neg (not_le.mpr hlong)]
  · rw [literalValue_of_readInt? hlen (readInt?_significant h hlen)]
    by_cases hfit : (decimal text : Int) ≤ Word.greatest
    · rw [if_pos hfit]
      exact if_neg (not_lt.mpr hfit)
    · rw [if_neg hfit]
      exact if_pos (not_le.mp hfit)

end Literal

/-! ## Number tokens -/

/-- A token that is a number only if its text is one. -/
def Token.IsDecimal (t : Token) : Prop :=
  t.kind = .number → Literal.IsDecimal t.text

/-- A token that is a number only if it fits into a word. -/
def Token.FitsWord (t : Token) : Prop :=
  t.kind = .number → (Literal.decimal t.text : Int) ≤ Word.greatest

instance (t : Token) : Decidable t.IsDecimal :=
  inferInstanceAs (Decidable (t.kind = .number → Literal.IsDecimal t.text))

instance (t : Token) : Decidable t.FitsWord :=
  inferInstanceAs (Decidable (t.kind = .number →
    (Literal.decimal t.text : Int) ≤ Word.greatest))

end Abacus
