import Mathlib.Data.List.TakeWhile
import Abacus.Proofs.Literal
import Abacus.Variable

/-!
# What a scan yields

The parser takes any tokens; a scan yields only some. A number is a run of
the digits `0` to `9` and a name one of the letters `a` to `z` and
underscores, neither of them empty. So the parser never meets a number that
it cannot read, and a name can be taken for nothing else.
-/

namespace Abacus

/-- A token that is a name only if its text can be one. -/
def Token.IsNamed (t : Token) : Prop :=
  t.kind = .name → Variable.isName t.text = true

namespace Scan

variable {cs text rest : List Char} {kind : Token.Kind}

/-- The codes of the characters that names are written with. -/
theorem code_of_isNameChar {c : Char} (h : isNameChar c = true) :
    95 ≤ c.toNat ∧ c.toNat ≤ 122 := by
  unfold isNameChar at h
  rw [Bool.or_eq_true, Bool.and_eq_true, decide_eq_true_eq, decide_eq_true_eq,
    beq_iff_eq] at h
  rcases h with ⟨hlow, hhigh⟩ | rfl
  · have hlow : 97 ≤ c.toNat := hlow
    exact ⟨by omega, hhigh⟩
  · decide

theorem not_isDigit_of_isNameChar {c : Char} (h : isNameChar c = true) :
    ¬Text.isDigit c = true := by
  intro hdigit
  have hlow := (code_of_isNameChar h).1
  have hhigh := (Literal.isDigit_iff.mp hdigit).2
  omega

/-- An operator is neither a number nor a name. -/
theorem kind_of_operatorHead {c : Char}
    (h : operatorHead c rest = .lexeme kind text cs) :
    kind ≠ .number ∧ kind ≠ .name := by
  unfold operatorHead at h
  split at h
  · rename_i k hk
    obtain ⟨rfl, -, -⟩ := Head.lexeme.inj h
    obtain ⟨d, -, hd⟩ := Option.bind_eq_some_iff.mp hk
    unfold Token.Kind.ofPair? at hd
    split at hd <;> cases hd <;> decide
  · split at h
    · rename_i k hk
      obtain ⟨rfl, -, -⟩ := Head.lexeme.inj h
      unfold Token.Kind.ofChar? at hk
      split at hk <;> cases hk <;> decide
    · nomatch h

/-- A character and the run of its class behind it are of its class. -/
theorem forall_mem_run {p : Char → Bool} {c : Char} (h : p c = true)
    (cs : List Char) : ∀ d ∈ c :: cs.takeWhile p, p d = true :=
  List.forall_mem_cons.mpr ⟨h, fun _ => List.mem_takeWhile_imp⟩

/-- **What stands at the head of a text** is a number or a name only if it is
written as one. -/
theorem isLexeme_of_head (h : head cs = .lexeme kind text rest) (pos : Int) :
    (⟨kind, String.ofList text, pos⟩ : Token).IsDecimal ∧
      (⟨kind, String.ofList text, pos⟩ : Token).IsNamed := by
  cases cs with
  | nil => cases h
  | cons c cs =>
    rw [head] at h
    split at h
    · cases h
    split at h
    · rename_i hdigit
      obtain ⟨rfl, rfl, -⟩ := Head.lexeme.inj h
      refine ⟨fun _ => ?_, fun hk => Token.Kind.noConfusion hk⟩
      show _ ∧ _
      rw [String.toList_ofList]
      exact ⟨List.cons_ne_nil _ _, forall_mem_run hdigit cs⟩
    split at h
    · rename_i hname
      obtain ⟨rfl, rfl, -⟩ := Head.lexeme.inj h
      refine ⟨fun hk => Token.Kind.noConfusion hk, fun _ => ?_⟩
      show (!(String.ofList _).isEmpty && (String.ofList _).toList.all _) = true
      rw [String.toList_ofList, List.all_eq_true.mpr (forall_mem_run hname cs),
        Bool.and_true]
      simp
    · obtain ⟨hnumber, hname⟩ := kind_of_operatorHead h
      exact ⟨fun hk => absurd hk hnumber, fun hk => absurd hk hname⟩

theorem isLexeme_of_ofChars (pos : Nat) (cs : List Char) :
    ∀ t ∈ (ofChars pos cs).tokens, t.IsDecimal ∧ t.IsNamed := by
  fun_induction ofChars pos cs with
  | case1 => exact List.forall_mem_nil _
  | case2 _ _ _ _ ih => exact ih
  | case3 pos cs kind text rest h ih =>
    exact List.forall_mem_cons.mpr ⟨isLexeme_of_head h _, ih⟩
  | case4 => exact List.forall_mem_nil _

/-- **The numbers of a line are decimal and its names are names.** -/
theorem isLexeme_of_mem {source : String} {t : Token}
    (h : t ∈ (Scan.ofString source).tokens) : t.IsDecimal ∧ t.IsNamed :=
  isLexeme_of_ofChars 0 source.toList t h

/-! ## Lines of white space -/

theorem eq_empty {s : Scan} (htokens : s.tokens = []) (hstray : s.stray? = none) :
    s = .empty := by
  obtain ⟨tokens, stray?⟩ := s
  obtain rfl : tokens = [] := htokens
  obtain rfl : stray? = none := hstray
  rfl

/-- A scan goes on by what stands at the head of the text. -/
theorem ofChars_of_head (pos : Nat) (cs : List Char) :
    ofChars pos cs = match head cs with
      | .finish => .empty
      | .blank rest => ofChars (pos + 1) rest
      | .lexeme kind text rest =>
        cons ⟨kind, String.ofList text, pos⟩ (ofChars (pos + text.length) rest)
      | .stray c => ⟨[], some (c, pos)⟩ := by
  rw [ofChars]
  split <;> rename_i hhead <;> rw [hhead]

/-- A character that is not white space begins a token, or is stray. -/
theorem head_cons {c : Char} (hc : ¬Text.isBlank c = true) (cs : List Char) :
    (∃ kind text rest, head (c :: cs) = .lexeme kind text rest) ∨
      head (c :: cs) = .stray c := by
  rw [head, if_neg hc]
  split
  · exact .inl ⟨_, _, _, rfl⟩
  split
  · exact .inl ⟨_, _, _, rfl⟩
  unfold operatorHead
  split
  · exact .inl ⟨_, _, _, rfl⟩
  split
  · exact .inl ⟨_, _, _, rfl⟩
  · exact .inr rfl

/-- White space is skipped one character at a time. -/
theorem blank_of_head (h : head cs = .blank rest) :
    ∃ c, Text.isBlank c = true ∧ cs = c :: rest := by
  cases cs with
  | nil => cases h
  | cons c cs =>
    by_cases hc : Text.isBlank c = true
    · rw [head, if_pos hc] at h
      obtain rfl := Head.blank.inj h
      exact ⟨c, hc, rfl⟩
    · rcases head_cons hc cs with ⟨_, _, _, hhead⟩ | hhead <;> cases hhead.symm.trans h

/-- A scan ends at the end of the text. -/
theorem eq_nil_of_head (h : head cs = .finish) : cs = [] := by
  cases cs with
  | nil => rfl
  | cons c cs =>
    by_cases hc : Text.isBlank c = true
    · rw [head, if_pos hc] at h
      cases h
    · rcases head_cons hc cs with ⟨_, _, _, hhead⟩ | hhead <;> cases hhead.symm.trans h

theorem ofChars_cons_ne_empty {c : Char} (hc : ¬Text.isBlank c = true)
    (pos : Nat) (cs : List Char) : ofChars pos (c :: cs) ≠ .empty := by
  rw [ofChars_of_head]
  rcases head_cons hc cs with ⟨_, _, _, hhead⟩ | hhead
  · rw [hhead]
    exact nofun
  · rw [hhead]
    exact nofun

/-- **A text without tokens and stray characters is white space.** -/
theorem ofChars_eq_empty_iff (pos : Nat) (cs : List Char) :
    ofChars pos cs = .empty ↔ ∀ c ∈ cs, Text.isBlank c = true := by
  induction cs generalizing pos with
  | nil =>
    rw [ofChars_of_head]
    exact iff_of_true rfl (List.forall_mem_nil _)
  | cons c cs ih =>
    rw [List.forall_mem_cons]
    by_cases hc : Text.isBlank c = true
    · have hhead : head (c :: cs) = .blank cs := if_pos hc
      rw [ofChars_of_head, hhead]
      exact (ih (pos + 1)).trans (and_iff_right hc).symm
    · exact iff_of_false (ofChars_cons_ne_empty hc pos cs) fun h => hc h.1

end Scan

end Abacus
