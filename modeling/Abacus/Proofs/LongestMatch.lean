import Mathlib.Data.List.Chain
import Abacus.Proofs.Scanning

/-!
# The longest match

A scan takes one token after another off the front of a text, each as long as
possible, and looks no further than one character behind it. Seen from the
outside it *divides* the text (`Scan.IsDivision`): lexemes stand in it with
gaps of white space around them, and that each is as long as possible comes to
a condition on neighbours. Two that touch must not *fuse* (`Scan.Fuses`), as
two numbers do, or two names, or an operator of one character and what begins
with a character that completes it to one of two.

The condition is about neighbours that touch, since white space ends every
lexeme. So a division tells all that there is to tell about a scan without
stray characters (`Scan.ofString_eq_iff`): its tokens are those of the
division, and lexemes that are written down with white space where they would
fuse are read back as they are.

What fuses need not become one lexeme. A plus sign before `+=` takes the first
character of it and leaves `=`, as two tokens that nobody wrote.
-/

namespace Abacus

namespace Scan

open Token

/-! ## Divisions -/

/-- **The texts that spell a kind of token**: digits, the characters of names,
or an operator of one or two characters. -/
inductive Spells : Kind → List Char → Prop
  | number {text : List Char} :
    text ≠ [] → (∀ c ∈ text, Text.isDigit c = true) → Spells .number text
  | name {text : List Char} :
    text ≠ [] → (∀ c ∈ text, isNameChar c = true) → Spells .name text
  | single {kind : Kind} {c : Char} :
    Kind.ofChar? c = some kind → Spells kind [c]
  | pair {kind : Kind} {c d : Char} :
    Kind.ofPair? c d = some kind → Spells kind [c, d]

/-- A lexeme in a text, and the gap behind it. -/
structure Lexeme where
  kind : Kind
  text : List Char
  gap : List Char

/-- Lexemes written down, each with its gap. -/
def written (ls : List Lexeme) : List Char :=
  ls.flatMap fun l => l.text ++ l.gap

/-- The tokens of lexemes that stand behind `before` characters. A token has
the place of its first character, which is the number of characters before
it. -/
def tokensBehind (before : Nat) (ls : List Lexeme) : List Token :=
  ls.mapIdx fun i l =>
    ⟨l.kind, String.ofList l.text, (before + (written (ls.take i)).length : Nat)⟩

/-- **Lexemes that fuse** if nothing stands between them: two numbers, two
names, or an operator of one character and what begins with a character that
completes it to one of two. -/
def Fuses (l m : Lexeme) : Prop :=
  (l.kind = .number ∧ m.kind = .number) ∨ (l.kind = .name ∧ m.kind = .name) ∨
    ∃ c d, l.text = [c] ∧ m.text.head? = some d ∧ (Kind.ofPair? c d).isSome = true

/-- **A division of a text**: a gap, and then lexemes with a gap behind each.
Gaps are white space, and only an empty one can be wrong, between lexemes that
fuse. -/
structure IsDivision (source gap : List Char) (ls : List Lexeme) : Prop where
  eq : source = gap ++ written ls
  blank_gap : ∀ c ∈ gap, Text.isBlank c = true
  blank : ∀ l ∈ ls, ∀ c ∈ l.gap, Text.isBlank c = true
  spells : ∀ l ∈ ls, Spells l.kind l.text
  apart : ls.IsChain fun l m => l.gap = [] → ¬Fuses l m

theorem written_cons (l : Lexeme) (ls : List Lexeme) :
    written (l :: ls) = l.text ++ (l.gap ++ written ls) := by
  simp [written]

theorem tokensBehind_cons (before : Nat) (l : Lexeme) (ls : List Lexeme) :
    tokensBehind before (l :: ls) = ⟨l.kind, String.ofList l.text, before⟩ ::
      tokensBehind (before + l.text.length + l.gap.length) ls := by
  unfold tokensBehind
  rw [List.mapIdx_cons]
  refine congrArg₂ List.cons rfl (congrFun (congrArg List.mapIdx ?_) ls)
  funext i m
  rw [List.take_succ_cons, written_cons, List.length_append, List.length_append,
    ← Nat.add_assoc, ← Nat.add_assoc]

/-! ## What lexemes begin with -/

/-- A character of operators: neither white space nor a digit nor one that
names are written with. -/
def IsSign (c : Char) : Prop :=
  Text.isBlank c = false ∧ Text.isDigit c = false ∧ isNameChar c = false

instance (c : Char) : Decidable (IsSign c) :=
  inferInstanceAs (Decidable (_ ∧ _))

theorem isSign_of_ofChar? {c : Char} {kind : Kind} (h : Kind.ofChar? c = some kind) :
    IsSign c ∧ kind ≠ .number ∧ kind ≠ .name := by
  unfold Kind.ofChar? at h
  split at h <;> cases h <;> decide

theorem isSign_of_ofPair? {c d : Char} {kind : Kind}
    (h : Kind.ofPair? c d = some kind) :
    (IsSign c ∧ IsSign d) ∧ kind ≠ .number ∧ kind ≠ .name := by
  unfold Kind.ofPair? at h
  split at h <;> cases h <;> decide

theorem isSign_of_isSome {c d : Char} (h : (Kind.ofPair? c d).isSome = true) :
    IsSign c ∧ IsSign d := by
  obtain ⟨kind, hkind⟩ := Option.isSome_iff_exists.mp h
  exact (isSign_of_ofPair? hkind).1

theorem isBlank_of_isDigit {c : Char} (h : Text.isDigit c = true) :
    Text.isBlank c = false := by
  obtain ⟨hl, hu⟩ := Literal.isDigit_iff.mp h
  exact Text.isBlank_eq_false (by omega) (by omega)

theorem isBlank_of_isNameChar {c : Char} (h : isNameChar c = true) :
    Text.isBlank c = false := by
  obtain ⟨hl, hu⟩ := code_of_isNameChar h
  exact Text.isBlank_eq_false (by omega) (by omega)

namespace Spells

variable {kind : Kind} {text : List Char}

/-- **A lexeme begins with a character that is not white space**, and that
tells numbers and names from all else. -/
theorem exists_head (h : Spells kind text) :
    ∃ c, text.head? = some c ∧ Text.isBlank c = false ∧
      (Text.isDigit c = true ↔ kind = .number) ∧ (isNameChar c = true ↔ kind = .name) := by
  have hsign {c : Char} (hc : IsSign c) (hk : kind ≠ .number ∧ kind ≠ .name) :
      Text.isBlank c = false ∧ (Text.isDigit c = true ↔ kind = .number) ∧
        (isNameChar c = true ↔ kind = .name) :=
    ⟨hc.1, iff_of_false (Bool.eq_false_iff.mp hc.2.1) hk.1,
      iff_of_false (Bool.eq_false_iff.mp hc.2.2) hk.2⟩
  cases h with
  | number hne hall =>
    obtain ⟨c, tail, rfl⟩ := List.exists_cons_of_ne_nil hne
    have hc := hall c List.mem_cons_self
    exact ⟨c, rfl, isBlank_of_isDigit hc, iff_of_true hc rfl,
      iff_of_false (fun hname => not_isDigit_of_isNameChar hname hc) nofun⟩
  | name hne hall =>
    obtain ⟨c, tail, rfl⟩ := List.exists_cons_of_ne_nil hne
    have hc := hall c List.mem_cons_self
    exact ⟨c, rfl, isBlank_of_isNameChar hc,
      iff_of_false (not_isDigit_of_isNameChar hc) nofun, iff_of_true hc rfl⟩
  | single hc => exact ⟨_, rfl, hsign (isSign_of_ofChar? hc).1 (isSign_of_ofChar? hc).2⟩
  | pair hcd =>
    obtain ⟨⟨hc, -⟩, hk⟩ := isSign_of_ofPair? hcd
    exact ⟨_, rfl, hsign hc hk⟩

end Spells

/-! ## What a lexeme does not stop at -/

/-- A character that a scan takes into a lexeme that stands before it. -/
def Extends (kind : Kind) (text : List Char) (d : Char) : Prop :=
  (kind = .number ∧ Text.isDigit d = true) ∨ (kind = .name ∧ isNameChar d = true) ∨
    ∃ c, text = [c] ∧ (Kind.ofPair? c d).isSome = true

/-- White space ends every lexeme. -/
theorem not_extends_of_isBlank {kind : Kind} {text : List Char} {d : Char}
    (hd : Text.isBlank d = true) : ¬Extends kind text d := by
  rintro (⟨-, hdigit⟩ | ⟨-, hname⟩ | ⟨c, -, hpair⟩)
  · exact Bool.noConfusion ((isBlank_of_isDigit hdigit).symm.trans hd)
  · exact Bool.noConfusion ((isBlank_of_isNameChar hname).symm.trans hd)
  · exact Bool.noConfusion ((isSign_of_isSome hpair).2.1.symm.trans hd)

/-- **Lexemes fuse** if the first is extended by what the second begins
with. -/
theorem fuses_iff {l m : Lexeme} (hm : Spells m.kind m.text) :
    Fuses l m ↔ ∃ d, m.text.head? = some d ∧ Extends l.kind l.text d := by
  obtain ⟨d, hd, -, hnumber, hname⟩ := hm.exists_head
  obtain ⟨kind, text, gap⟩ := l
  constructor
  · rintro (⟨rfl, hk⟩ | ⟨rfl, hk⟩ | ⟨c, e, rfl, he, hpair⟩)
    · exact ⟨d, hd, .inl ⟨rfl, hnumber.mpr hk⟩⟩
    · exact ⟨d, hd, .inr (.inl ⟨rfl, hname.mpr hk⟩)⟩
    · exact ⟨e, he, .inr (.inr ⟨c, rfl, hpair⟩)⟩
  · rintro ⟨e, he, ⟨rfl, hdigit⟩ | ⟨rfl, hc⟩ | ⟨c, rfl, hpair⟩⟩
    · obtain rfl := Option.some.inj (hd.symm.trans he)
      exact .inl ⟨rfl, hnumber.mp hdigit⟩
    · obtain rfl := Option.some.inj (hd.symm.trans he)
      exact .inr (.inl ⟨rfl, hname.mp hc⟩)
    · exact .inr (.inr ⟨c, e, rfl, he, hpair⟩)

/-! ## The head of a text -/

variable {kind : Kind} {text rest : List Char}

/-- The longest run of a class at the head of a text, told by what follows
it. -/
theorem takeWhile_append_of_stop {p : Char → Bool} (htext : ∀ c ∈ text, p c = true)
    (hrest : ∀ d ∈ rest.head?, p d = false) :
    (text ++ rest).takeWhile p = text ∧ (text ++ rest).dropWhile p = rest := by
  rw [List.takeWhile_append_of_pos htext, List.dropWhile_append_of_pos htext]
  cases rest with
  | nil => exact ⟨List.append_nil _, rfl⟩
  | cons d rest =>
    have hd : ¬p d = true := Bool.eq_false_iff.mp (hrest d rfl)
    rw [List.takeWhile_cons_of_neg hd, List.dropWhile_cons_of_neg hd]
    exact ⟨List.append_nil _, rfl⟩

/-- A run of a class cannot be extended within the class. -/
theorem not_mem_head?_dropWhile {p : Char → Bool} (cs : List Char) {d : Char}
    (hd : d ∈ (cs.dropWhile p).head?) : ¬p d = true := by
  have h := List.head?_dropWhile_not p cs
  rw [Option.mem_def.mp hd] at h
  exact Bool.eq_false_iff.mp h

/-- A run of a class that is not that of operators is extended by characters of
the class only. -/
theorem not_extends_of_run {p : Char → Bool} {c : Char} (hc : ¬IsSign c)
    (hp : ∀ d, (kind = .number ∧ Text.isDigit d = true) ∨
      (kind = .name ∧ isNameChar d = true) → p d = true) (cs : List Char) :
    ∀ d ∈ (cs.dropWhile p).head?, ¬Extends kind (c :: cs.takeWhile p) d := by
  rintro d hd (hnumber | hname | ⟨e, he, hpair⟩)
  · exact not_mem_head?_dropWhile cs hd (hp d (.inl hnumber))
  · exact not_mem_head?_dropWhile cs hd (hp d (.inr hname))
  · obtain ⟨rfl, -⟩ := List.cons.inj he
    exact hc (isSign_of_isSome hpair).1

theorem spells_of_operatorHead {c : Char} {cs : List Char}
    (h : operatorHead c cs = .lexeme kind text rest) :
    c :: cs = text ++ rest ∧ Spells kind text ∧
      ∀ d ∈ rest.head?, ¬Extends kind text d := by
  unfold operatorHead at h
  split at h
  · rename_i k hk
    obtain ⟨rfl, rfl, rfl⟩ := Head.lexeme.inj h
    obtain ⟨d, hd, hpair⟩ := Option.bind_eq_some_iff.mp hk
    obtain ⟨cs, rfl⟩ := List.head?_eq_some_iff.mp hd
    obtain ⟨-, hnumber, hname⟩ := isSign_of_ofPair? hpair
    refine ⟨rfl, .pair hpair, ?_⟩
    -- an operator of two characters is not extended by anything
    rintro e - (⟨hk, -⟩ | ⟨hk, -⟩ | ⟨c', hc', -⟩)
    · exact hnumber hk
    · exact hname hk
    · cases hc'
  · rename_i hnone
    split at h
    · rename_i k hk
      obtain ⟨rfl, rfl, rfl⟩ := Head.lexeme.inj h
      obtain ⟨-, hnumber, hname⟩ := isSign_of_ofChar? hk
      refine ⟨rfl, .single hk, ?_⟩
      rintro d hd (⟨hk, -⟩ | ⟨hk, -⟩ | ⟨c', hc', hpair⟩)
      · exact hnumber hk
      · exact hname hk
      · obtain ⟨rfl, -⟩ := List.cons.inj hc'
        rw [Option.mem_def.mp hd, Option.bind_some] at hnone
        rw [hnone] at hpair
        cases hpair
    · cases h

/-- **What a scan finds at the head of a text** is spelled there, and nothing
that follows extends it. -/
theorem spells_of_head {cs : List Char} (h : head cs = .lexeme kind text rest) :
    cs = text ++ rest ∧ Spells kind text ∧ ∀ d ∈ rest.head?, ¬Extends kind text d := by
  cases cs with
  | nil => cases h
  | cons c cs =>
    have hrun (p : Char → Bool) : c :: cs = c :: cs.takeWhile p ++ cs.dropWhile p := by
      rw [List.cons_append, List.takeWhile_append_dropWhile]
    rw [head] at h
    split at h
    · cases h
    split at h
    · rename_i hdigit
      obtain ⟨rfl, rfl, rfl⟩ := Head.lexeme.inj h
      refine ⟨hrun _, .number (List.cons_ne_nil _ _) (forall_mem_run hdigit cs),
        not_extends_of_run (fun hc => Bool.eq_false_iff.mp hc.2.1 hdigit) ?_ cs⟩
      rintro d (⟨-, hd⟩ | ⟨hk, -⟩)
      · exact hd
      · cases hk
    split at h
    · rename_i hname
      obtain ⟨rfl, rfl, rfl⟩ := Head.lexeme.inj h
      refine ⟨hrun _, .name (List.cons_ne_nil _ _) (forall_mem_run hname cs),
        not_extends_of_run (fun hc => Bool.eq_false_iff.mp hc.2.2 hname) ?_ cs⟩
      rintro d (⟨hk, -⟩ | ⟨-, hd⟩)
      · cases hk
      · exact hd
    · exact spells_of_operatorHead h

/-- **A lexeme at the head of a text is found** if nothing that follows
extends it. -/
theorem head_of_spells (h : Spells kind text)
    (hrest : ∀ d ∈ rest.head?, ¬Extends kind text d) :
    head (text ++ rest) = .lexeme kind text rest := by
  cases h with
  | number hne hall =>
    obtain ⟨c, tail, rfl⟩ := List.exists_cons_of_ne_nil hne
    obtain ⟨hc, htail⟩ := List.forall_mem_cons.mp hall
    have hstop : ∀ d ∈ rest.head?, Text.isDigit d = false := fun d hd =>
      Bool.eq_false_iff.mpr fun hdigit => hrest d hd (.inl ⟨rfl, hdigit⟩)
    obtain ⟨htake, hdrop⟩ := takeWhile_append_of_stop htail hstop
    rw [List.cons_append, head, if_neg (Bool.eq_false_iff.mp (isBlank_of_isDigit hc)),
      if_pos hc, htake, hdrop]
  | name hne hall =>
    obtain ⟨c, tail, rfl⟩ := List.exists_cons_of_ne_nil hne
    obtain ⟨hc, htail⟩ := List.forall_mem_cons.mp hall
    have hstop : ∀ d ∈ rest.head?, isNameChar d = false := fun d hd =>
      Bool.eq_false_iff.mpr fun hname => hrest d hd (.inr (.inl ⟨rfl, hname⟩))
    obtain ⟨htake, hdrop⟩ := takeWhile_append_of_stop htail hstop
    rw [List.cons_append, head, if_neg (Bool.eq_false_iff.mp (isBlank_of_isNameChar hc)),
      if_neg (not_isDigit_of_isNameChar hc), if_pos hc, htake, hdrop]
  | @single _ c hc =>
    obtain ⟨⟨hblank, hdigit, hname⟩, -⟩ := isSign_of_ofChar? hc
    have hnone : rest.head?.bind (Kind.ofPair? c) = none := by
      rw [Option.bind_eq_none_iff]
      intro d hd
      rw [← Option.not_isSome_iff_eq_none]
      exact fun hpair => hrest d hd (.inr (.inr ⟨c, rfl, hpair⟩))
    rw [List.singleton_append, head, if_neg (Bool.eq_false_iff.mp hblank),
      if_neg (Bool.eq_false_iff.mp hdigit), if_neg (Bool.eq_false_iff.mp hname),
      operatorHead, hnone, hc]
  | @pair _ c d hcd =>
    obtain ⟨⟨⟨hblank, hdigit, hname⟩, -⟩, -⟩ := isSign_of_ofPair? hcd
    rw [List.cons_append, head, if_neg (Bool.eq_false_iff.mp hblank),
      if_neg (Bool.eq_false_iff.mp hdigit), if_neg (Bool.eq_false_iff.mp hname),
      operatorHead, List.singleton_append, List.head?_cons, Option.bind_some, hcd]
    rfl

/-! ## Divisions and scans -/

/-- **Neighbours that do not fuse**: what follows a lexeme, be it white space,
the next lexeme or nothing, does not extend it. -/
theorem apart_iff {l : Lexeme} {ls : List Lexeme}
    (hgap : ∀ c ∈ l.gap, Text.isBlank c = true)
    (hspells : ∀ m ∈ ls, Spells m.kind m.text) :
    (∀ m ∈ ls.head?, l.gap = [] → ¬Fuses l m) ↔
      ∀ d ∈ (l.gap ++ written ls).head?, ¬Extends l.kind l.text d := by
  cases hl : l.gap with
  | cons c gap =>
    refine iff_of_true (fun _ _ h => nomatch h) fun d hd => ?_
    obtain rfl := Option.some.inj (Option.mem_def.mp hd)
    exact not_extends_of_isBlank (hgap c (hl ▸ List.mem_cons_self))
  | nil =>
    cases ls with
    | nil => exact iff_of_true nofun nofun
    | cons m ls =>
      have hm := hspells m List.mem_cons_self
      obtain ⟨d, hd, -⟩ := hm.exists_head
      have hhead : ([] ++ written (m :: ls)).head? = some d := by
        rw [List.nil_append, written_cons, List.head?_append, hd, Option.some_or]
      rw [List.head?_cons, hhead]
      refine ⟨fun h e he hextends => ?_, fun h n hn _ hfuses => ?_⟩
      · obtain rfl := Option.some.inj he
        exact h m rfl rfl ((fuses_iff hm).mpr ⟨d, hd, hextends⟩)
      · obtain rfl := Option.some.inj hn
        obtain ⟨e, he, hextends⟩ := (fuses_iff hm).mp hfuses
        exact h e (hd.symm.trans he) hextends

/-- **A division begins with a lexeme** that nothing extends, and goes on as a
division of what is left. -/
theorem isDivision_cons_iff {cs : List Char} {l : Lexeme} {ls : List Lexeme} :
    IsDivision cs [] (l :: ls) ↔
      ∃ rest, cs = l.text ++ rest ∧ Spells l.kind l.text ∧
        (∀ d ∈ rest.head?, ¬Extends l.kind l.text d) ∧ IsDivision rest l.gap ls := by
  constructor
  · rintro ⟨heq, -, hblank, hspells, hapart⟩
    rw [List.forall_mem_cons] at hblank hspells
    rw [List.isChain_cons] at hapart
    exact ⟨l.gap ++ written ls, heq.trans (written_cons l ls), hspells.1,
      (apart_iff hblank.1 hspells.2).mp hapart.1,
      ⟨rfl, hblank.1, hblank.2, hspells.2, hapart.2⟩⟩
  · rintro ⟨rest, rfl, hl, hstop, rfl, hgap, hblank, hspells, hapart⟩
    refine ⟨(written_cons l ls).symm, List.forall_mem_nil _,
      List.forall_mem_cons.mpr ⟨hgap, hblank⟩, List.forall_mem_cons.mpr ⟨hl, hspells⟩,
      List.isChain_cons.mpr ⟨?_, hapart⟩⟩
    exact (apart_iff hgap hspells).mpr hstop

theorem isDivision_gap_iff {c : Char} {cs gap : List Char} {ls : List Lexeme} :
    IsDivision (c :: cs) (c :: gap) ls ↔
      Text.isBlank c = true ∧ IsDivision cs gap ls := by
  constructor
  · rintro ⟨heq, hgap, hblank, hspells, hapart⟩
    rw [List.forall_mem_cons] at hgap
    exact ⟨hgap.1, (List.cons.inj heq).2, hgap.2, hblank, hspells, hapart⟩
  · rintro ⟨hc, rfl, hgap, hblank, hspells, hapart⟩
    exact ⟨rfl, List.forall_mem_cons.mpr ⟨hc, hgap⟩, hblank, hspells, hapart⟩

theorem isDivision_nil : IsDivision [] [] [] :=
  ⟨rfl, List.forall_mem_nil _, List.forall_mem_nil _, List.forall_mem_nil _, .nil⟩

/-- **A scan finds a division**, by induction along the scan. -/
theorem exists_isDivision (pos : Nat) (cs : List Char)
    (h : (ofChars pos cs).stray? = none) :
    ∃ gap ls, IsDivision cs gap ls ∧
      tokensBehind (pos + gap.length) ls = (ofChars pos cs).tokens := by
  fun_induction ofChars pos cs with
  | case1 pos cs hhead =>
    obtain rfl := eq_nil_of_head hhead
    exact ⟨[], [], isDivision_nil, rfl⟩
  | case2 pos cs rest hhead ih =>
    obtain ⟨gap, ls, hdivision, htokens⟩ := ih h
    obtain ⟨c, hc, rfl⟩ := blank_of_head hhead
    refine ⟨c :: gap, ls, isDivision_gap_iff.mpr ⟨hc, hdivision⟩, ?_⟩
    rw [List.length_cons, ← htokens, Nat.add_assoc, Nat.add_comm 1]
  | case3 pos cs kind text rest hhead ih =>
    obtain ⟨gap, ls, hdivision, htokens⟩ := ih h
    obtain ⟨heq, hspells, hstop⟩ := spells_of_head hhead
    refine ⟨[], ⟨kind, text, gap⟩ :: ls,
      isDivision_cons_iff.mpr ⟨rest, heq, hspells, hstop, hdivision⟩, ?_⟩
    rw [tokensBehind_cons, cons, ← htokens]
    rfl
  | case4 => cases h

theorem ofChars_append_gap (pos : Nat) {gap : List Char}
    (hgap : ∀ c ∈ gap, Text.isBlank c = true) (cs : List Char) :
    ofChars pos (gap ++ cs) = ofChars (pos + gap.length) cs := by
  induction gap generalizing pos with
  | nil => rfl
  | cons c gap ih =>
    obtain ⟨hc, hgap⟩ := List.forall_mem_cons.mp hgap
    have hhead : head (c :: (gap ++ cs)) = .blank (gap ++ cs) := if_pos hc
    rw [List.cons_append, ofChars_of_head, hhead, List.length_cons,
      Nat.add_comm gap.length, ← Nat.add_assoc]
    exact ih (pos + 1) hgap

/-- **A division is what a scan finds**, by induction on its lexemes. -/
theorem ofChars_of_isDivision (pos : Nat) {cs gap : List Char} {ls : List Lexeme}
    (h : IsDivision cs gap ls) :
    ofChars pos cs = ⟨tokensBehind (pos + gap.length) ls, none⟩ := by
  induction ls generalizing pos cs gap with
  | nil =>
    rw [h.eq, ofChars_append_gap pos h.blank_gap, ofChars_of_head]
    rfl
  | cons l ls ih =>
    have hbare : IsDivision (written (l :: ls)) [] (l :: ls) :=
      ⟨rfl, List.forall_mem_nil _, h.blank, h.spells, h.apart⟩
    obtain ⟨rest, heq, hspells, hstop, hrest⟩ := isDivision_cons_iff.mp hbare
    rw [h.eq, ofChars_append_gap pos h.blank_gap, heq, ofChars_of_head,
      head_of_spells hspells hstop]
    show cons _ (ofChars _ rest) = _
    rw [ih _ hrest, tokensBehind_cons]
    rfl

/-- **The tokens of a text are those of its divisions.** A scan that meets no
stray character yields exactly the tokens of the lexemes that the text can be
divided into; conversely lexemes that are written down with gaps, none of them
empty between two that fuse, are read back. -/
theorem ofString_eq_iff (source : String) (ts : List Token) :
    ofString source = ⟨ts, none⟩ ↔
      ∃ gap ls, IsDivision source.toList gap ls ∧ tokensBehind gap.length ls = ts := by
  constructor
  · intro h
    have hstray : (ofChars 0 source.toList).stray? = none := congrArg Scan.stray? h
    obtain ⟨gap, ls, hdivision, htokens⟩ := exists_isDivision 0 source.toList hstray
    rw [Nat.zero_add] at htokens
    exact ⟨gap, ls, hdivision, htokens.trans (congrArg Scan.tokens h)⟩
  · rintro ⟨gap, ls, hdivision, rfl⟩
    rw [ofString, ofChars_of_isDivision 0 hdivision, Nat.zero_add]

example : (ofString "x---y").tokens.map (·.text) = ["x", "--", "-", "y"] := by
  decide +kernel

end Scan

end Abacus
