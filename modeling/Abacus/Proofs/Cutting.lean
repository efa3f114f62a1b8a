import Mathlib.Order.Bounds.Basic
import Abacus.Proofs.LongestMatch

/-!
# Cutting a text

A scan looks one character ahead, and no lexeme goes on with a parenthesis, with
white space, or with a character that is stray. Such a character *severs* a text
(`Scan.Severs`): what stands before it is scanned as if the text ended there, and
the scan goes on with it as if the text began there (`Scan.ofChars_append`).

This settles where a scan ends. Whether a character is stray can be told from it
and the one behind it (`Scan.IsStray`), without any scanning. The scan of a text
without such places runs to its end; and the first of such places, if there are
any, severs the text, so that the scan stops there, and the tokens that it has
found are those of the text before (`Scan.stray?_iff_exists_isStray`). No stray
character is ever taken into a lexeme.
-/

namespace Abacus

namespace Scan

open Token

/-! ## Characters that no lexeme goes on with -/

/-- **A character that severs** a text: it extends no lexeme before it. -/
def Severs (d : Char) : Prop :=
  ∀ kind text, ¬Extends kind text d

/-- Only these characters stand second in an operator. -/
theorem ofPair?_of_notMem {d : Char} (hd : d ∉ ['+', '-', '=']) (c : Char) :
    Kind.ofPair? c d = none := by
  unfold Kind.ofPair?
  split <;> first | rfl | exact absurd (by decide) hd

theorem severs_of_notMem {d : Char} (hdigit : Text.isDigit d = false)
    (hname : isNameChar d = false) (hd : d ∉ ['+', '-', '=']) : Severs d := by
  rintro kind text (⟨-, h⟩ | ⟨-, h⟩ | ⟨c, -, h⟩)
  · exact Bool.noConfusion (h.symm.trans hdigit)
  · exact Bool.noConfusion (h.symm.trans hname)
  · rw [ofPair?_of_notMem hd] at h
    cases h

theorem severs_of_isBlank {d : Char} (hd : Text.isBlank d = true) : Severs d :=
  fun _ _ => not_extends_of_isBlank hd

theorem Severs.ofPair?_eq_none {d : Char} (hd : Severs d) (c : Char) :
    Kind.ofPair? c d = none := by
  rw [← Option.not_isSome_iff_eq_none]
  exact fun h => hd .number [c] (.inr (.inr ⟨c, rfl, h⟩))

/-! ## Scans one after the other -/

/-- A scan that is gone on with. Behind a stray character there is nothing to go
on with. -/
def append (s s' : Scan) : Scan :=
  match s.stray? with
  | some _ => s
  | none => ⟨s.tokens ++ s'.tokens, s'.stray?⟩

theorem append_of_none {s : Scan} (h : s.stray? = none) (s' : Scan) :
    s.append s' = ⟨s.tokens ++ s'.tokens, s'.stray?⟩ := by
  unfold append
  rw [h]

theorem cons_append (t : Token) (s s' : Scan) : (s.cons t).append s' = (s.append s').cons t := by
  obtain ⟨tokens, _ | stray⟩ := s <;> rfl

variable {kind : Kind} {text rest : List Char}

/-- What a text begins with, if it is not empty. -/
theorem mem_head?_append {cs ds : List Char} {d : Char} (h : d ∈ (cs ++ ds).head?) :
    d ∈ cs.head? ∨ d ∈ ds.head? := by
  cases cs with
  | nil => exact .inr h
  | cons c cs => exact .inl h

/-- A character is stray at the head of a text if nothing is written with it alone,
and nothing with it and the next character. -/
theorem head_eq_stray_iff {c : Char} :
    head (c :: rest) = .stray c ↔
      IsSign c ∧ Kind.ofChar? c = none ∧ ∀ d ∈ rest.head?, Kind.ofPair? c d = none := by
  rw [head]
  split
  · rename_i hblank
    exact iff_of_false Head.noConfusion fun h => Bool.noConfusion (h.1.1.symm.trans hblank)
  split
  · rename_i hdigit
    exact iff_of_false Head.noConfusion fun h => Bool.noConfusion (h.1.2.1.symm.trans hdigit)
  split
  · rename_i hname
    exact iff_of_false Head.noConfusion fun h => Bool.noConfusion (h.1.2.2.symm.trans hname)
  rename_i hblank hdigit hname
  have hsign : IsSign c :=
    ⟨Bool.eq_false_iff.mpr hblank, Bool.eq_false_iff.mpr hdigit, Bool.eq_false_iff.mpr hname⟩
  unfold operatorHead
  split
  · rename_i k hk
    obtain ⟨d, hd, hpair⟩ := Option.bind_eq_some_iff.mp hk
    refine iff_of_false Head.noConfusion fun h => ?_
    rw [h.2.2 d hd] at hpair
    cases hpair
  rename_i hnone
  split
  · rename_i k hk
    refine iff_of_false Head.noConfusion fun h => ?_
    rw [h.2.1] at hk
    cases hk
  · rename_i hk
    exact iff_of_true rfl ⟨hsign, hk, fun d hd => Option.bind_eq_none_iff.mp hnone d hd⟩

theorem eq_cons_of_stray {c : Char} {cs : List Char} (h : head cs = .stray c) :
    ∃ rest, cs = c :: rest := by
  cases cs with
  | nil => cases h
  | cons d rest =>
    by_cases hd : Text.isBlank d = true
    · rw [head, if_pos hd] at h
      cases h
    · rcases head_cons hd rest with ⟨_, _, _, hhead⟩ | hhead
      · cases hhead.symm.trans h
      · cases hhead.symm.trans h
        exact ⟨rest, rfl⟩

/-- **A scan goes on where a text is severed**, as if it began there. By induction
along the scan of the first part: each of its heads is the same in the whole
text. -/
theorem ofChars_append (pos : Nat) (cs : List Char) {ds : List Char}
    (h : ∀ d ∈ ds.head?, Severs d) :
    ofChars pos (cs ++ ds) = (ofChars pos cs).append (ofChars (pos + cs.length) ds) := by
  fun_induction ofChars pos cs with
  | case1 pos cs hhead =>
    obtain rfl := eq_nil_of_head hhead
    rfl
  | case2 pos cs rest hhead ih =>
    obtain ⟨c, hc, rfl⟩ := blank_of_head hhead
    have hwhole : head (c :: (rest ++ ds)) = .blank (rest ++ ds) := if_pos hc
    rw [List.cons_append, ofChars_of_head, hwhole, List.length_cons,
      Nat.add_comm rest.length, ← Nat.add_assoc]
    exact ih
  | case3 pos cs kind text rest hhead ih =>
    obtain ⟨rfl, hspells, hstop⟩ := spells_of_head hhead
    have hstop' : ∀ d ∈ (rest ++ ds).head?, ¬Extends kind text d := fun d hd =>
      (mem_head?_append hd).elim (hstop d) fun hd => h d hd kind text
    rw [List.append_assoc, ofChars_of_head, head_of_spells hspells hstop', cons_append,
      List.length_append, ← Nat.add_assoc]
    exact congrArg (cons _) ih
  | case4 pos cs c hhead =>
    obtain ⟨rest, rfl⟩ := eq_cons_of_stray hhead
    obtain ⟨hsign, hchar, hpair⟩ := head_eq_stray_iff.mp hhead
    have hwhole : head (c :: (rest ++ ds)) = .stray c :=
      head_eq_stray_iff.mpr ⟨hsign, hchar, fun d hd =>
        (mem_head?_append hd).elim (hpair d) fun hd => (h d hd).ofPair?_eq_none c⟩
    rw [List.cons_append, ofChars_of_head, hwhole]
    rfl

/-! ## Stray characters -/

/-- The signs that stand for something by themselves. -/
def signs : List Char := ['+', '-', '*', '/', '=', '>', '<', '(', ')', '?', ':']

/-- **A stray place** of a text: the character there is neither white space nor a
digit, nor one that names are written with, nor a sign, and it is no `!` with a `=`
behind it. -/
def IsStray (cs : List Char) (i : Nat) : Prop :=
  ∃ c, cs[i]? = some c ∧ Text.isBlank c = false ∧ Text.isDigit c = false ∧
    isNameChar c = false ∧ c ∉ signs ∧ ¬(c = '!' ∧ cs[i + 1]? = some '=')

theorem ofChar?_eq_none_iff {c : Char} : Kind.ofChar? c = none ↔ c ∉ signs := by
  unfold Kind.ofChar?
  split
  case h_12 =>
    refine iff_of_true rfl fun hc => ?_
    simp only [signs, List.mem_cons, List.not_mem_nil, or_false] at hc
    rcases hc with rfl | rfl | rfl | rfl | rfl | rfl | rfl | rfl | rfl | rfl | rfl <;> contradiction
  all_goals exact iff_of_false nofun (fun h => h (by decide))

/-- Only one operator begins with a character that is no sign. -/
theorem ofPair?_eq_none_iff {c d : Char} (hc : c ∉ signs) :
    Kind.ofPair? c d = none ↔ ¬(c = '!' ∧ d = '=') := by
  unfold Kind.ofPair?
  split
  case h_8 => exact iff_of_false nofun (fun h => h ⟨rfl, rfl⟩)
  case h_11 =>
    refine iff_of_true rfl ?_
    rintro ⟨rfl, rfl⟩
    contradiction
  all_goals exact absurd (by decide) hc

/-- **The scan stops where the head of a text is stray.** -/
theorem head_eq_stray_iff_isStray {c : Char} :
    head (c :: rest) = .stray c ↔ IsStray (c :: rest) 0 := by
  rw [head_eq_stray_iff, ofChar?_eq_none_iff]
  constructor
  · rintro ⟨⟨hblank, hdigit, hname⟩, hsign, hpair⟩
    refine ⟨c, rfl, hblank, hdigit, hname, hsign, ?_⟩
    rintro ⟨rfl, hnext⟩
    rw [List.getElem?_cons_succ, ← List.head?_eq_getElem?] at hnext
    exact (ofPair?_eq_none_iff hsign).mp (hpair _ hnext) ⟨rfl, rfl⟩
  · rintro ⟨_, ⟨⟩, hblank, hdigit, hname, hsign, hnext⟩
    refine ⟨⟨hblank, hdigit, hname⟩, hsign, fun d hd => (ofPair?_eq_none_iff hsign).mpr ?_⟩
    rintro ⟨rfl, rfl⟩
    rw [List.getElem?_cons_succ, ← List.head?_eq_getElem?] at hnext
    exact hnext ⟨rfl, hd⟩

/-- Whether a place is stray is decided by what stands there and behind it. -/
theorem isStray_append_right {cs ds : List Char} {i : Nat} :
    IsStray (cs ++ ds) (cs.length + i) ↔ IsStray ds i := by
  have hget (j : Nat) : (cs ++ ds)[cs.length + j]? = ds[j]? := by
    rw [List.getElem?_append_right (Nat.le_add_right _ _), Nat.add_sub_cancel_left]
  unfold IsStray
  rw [Nat.add_assoc, hget, hget]

/-- A text without stray places is scanned to its end. -/
theorem stray?_eq_none (pos : Nat) {cs : List Char} (h : ∀ i, ¬IsStray cs i) :
    (ofChars pos cs).stray? = none := by
  fun_induction ofChars pos cs with
  | case1 => rfl
  | case2 pos cs rest hhead ih =>
    obtain ⟨c, -, rfl⟩ := blank_of_head hhead
    refine ih fun i hi => h ([c].length + i) ?_
    rw [← List.singleton_append]
    exact isStray_append_right.mpr hi
  | case3 pos cs kind text rest hhead ih =>
    obtain ⟨rfl, -, -⟩ := spells_of_head hhead
    exact ih fun i hi => h (text.length + i) (isStray_append_right.mpr hi)
  | case4 pos cs c hhead =>
    obtain ⟨rest, rfl⟩ := eq_cons_of_stray hhead
    exact absurd (head_eq_stray_iff_isStray.mp hhead) (h 0)

theorem severs_of_isStray {cs : List Char} {p : Nat} {c : Char} (h : IsStray cs p)
    (hc : cs[p]? = some c) : Severs c := by
  obtain ⟨_, hc', -, hdigit, hname, hsign, -⟩ := h
  obtain rfl := Option.some.inj (hc.symm.trans hc')
  refine severs_of_notMem hdigit hname fun hmem => hsign ?_
  have hsub : ['+', '-', '='] ⊆ signs := by decide
  exact hsub hmem

/-- Before the first stray place the text has none, also if it is cut off there:
it is not the `=` of a `!=` that is cut off. -/
theorem not_isStray_take {cs : List Char} {p : Nat} (h : IsLeast {i | IsStray cs i} p)
    (i : Nat) : ¬IsStray (cs.take p) i := by
  rintro ⟨c, hc, hblank, hdigit, hname, hsign, hnext⟩
  have hi : i < p := by
    by_contra hi
    rw [List.getElem?_take, if_neg hi] at hc
    cases hc
  rw [List.getElem?_take_of_lt hi] at hc
  refine absurd (h.2 ⟨c, hc, hblank, hdigit, hname, hsign, ?_⟩) (Nat.not_le.mpr hi)
  rintro ⟨rfl, heq⟩
  by_cases hp : i + 1 < p
  · exact hnext ⟨rfl, by rw [List.getElem?_take_of_lt hp, heq]⟩
  · obtain rfl : i + 1 = p := by omega
    obtain ⟨d, hd, -, -, -, hd', -⟩ := h.1
    obtain rfl := Option.some.inj (heq.symm.trans hd)
    exact hd' (by decide)

/-- **The first stray place severs the text.** -/
theorem ofChars_of_isLeast (pos : Nat) {cs : List Char} {p : Nat}
    (h : IsLeast {i | IsStray cs i} p) :
    ∃ c, cs[p]? = some c ∧
      ofChars pos (cs.take p) = ⟨(ofChars pos cs).tokens, none⟩ ∧
      (ofChars pos cs).stray? = some (c, pos + p) := by
  obtain ⟨c, hc, -⟩ := id h.1
  obtain ⟨hp, hcp⟩ := List.getElem?_eq_some_iff.mp hc
  have hcut : cs = cs.take p ++ c :: cs.drop (p + 1) := by
    rw [← hcp, List.getElem_cons_drop, List.take_append_drop]
  have hlength : (cs.take p).length = p := by
    rw [List.length_take]
    omega
  have hstray : IsStray (c :: cs.drop (p + 1)) 0 := by
    have hall : IsStray (cs.take p ++ c :: cs.drop (p + 1)) ((cs.take p).length + 0) := by
      rw [← hcut, hlength]
      exact h.1
    exact isStray_append_right.mp hall
  have hbehind : ofChars (pos + p) (c :: cs.drop (p + 1)) = ⟨[], some (c, pos + p)⟩ := by
    rw [ofChars_of_head, head_eq_stray_iff_isStray.mpr hstray]
  have hbefore := stray?_eq_none pos (not_isStray_take h)
  have hwhole : ofChars pos cs
      = ⟨(ofChars pos (cs.take p)).tokens, some (c, pos + p)⟩ := by
    have hsevers : ∀ d ∈ (c :: cs.drop (p + 1)).head?, Severs d := by
      rintro _ ⟨⟩
      exact severs_of_isStray h.1 hc
    conv_lhs => rw [hcut]
    rw [ofChars_append pos _ hsevers, append_of_none hbefore, hlength, hbehind,
      List.append_nil]
  refine ⟨c, hc, ?_, ?_⟩
  · rw [hwhole, ← hbefore]
  · rw [hwhole]

/-- **Stray characters are found by looking at two characters.** The scan of a line
stops at a stray character if and only if some place of the line is stray. It stops
at the first such place, and the tokens before are those of the line that ends
there, which is scanned to its end. -/
theorem stray?_iff_exists_isStray (source : String) :
    ((∃ c p, (ofString source).stray? = some (c, p)) ↔ ∃ i, IsStray source.toList i) ∧
      ∀ c p, (ofString source).stray? = some (c, p) →
        source.toList[p]? = some c ∧ IsLeast {i | IsStray source.toList i} p ∧
          ofString (String.ofList (source.toList.take p))
            = ⟨(ofString source).tokens, none⟩ := by
  have hfirst : (∃ i, IsStray source.toList i) → ∃ p, IsLeast {i | IsStray source.toList i} p := by
    classical
    exact fun h => ⟨Nat.find h, Nat.find_spec h, fun _ hi => Nat.find_min' h hi⟩
  have hnone : (¬∃ i, IsStray source.toList i) → (ofString source).stray? = none :=
    fun h => stray?_eq_none 0 fun i hi => h ⟨i, hi⟩
  refine ⟨⟨?_, fun h => ?_⟩, fun c p hstray => ?_⟩
  · rintro ⟨c, p, hstray⟩
    by_contra h
    rw [hnone h] at hstray
    cases hstray
  · obtain ⟨p, hp⟩ := hfirst h
    obtain ⟨c, -, -, hstray⟩ := ofChars_of_isLeast 0 hp
    exact ⟨c, 0 + p, hstray⟩
  · by_cases h : ∃ i, IsStray source.toList i
    · obtain ⟨q, hq⟩ := hfirst h
      obtain ⟨d, hd, hbefore, hstray'⟩ := ofChars_of_isLeast 0 hq
      obtain ⟨rfl, rfl⟩ := Prod.mk.inj (Option.some.inj (hstray.symm.trans hstray'))
      rw [Nat.zero_add]
      refine ⟨hd, hq, ?_⟩
      rw [ofString, String.toList_ofList]
      exact hbefore
    · rw [hnone h] at hstray
      cases hstray

example : (ofString "a !== b ! c").stray? = some ('!', 8) := by
  decide +kernel

end Scan

end Abacus
