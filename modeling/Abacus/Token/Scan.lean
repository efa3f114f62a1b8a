import Abacus.Token

/-!
# Scanning

A line is cut into tokens from left to right, each as long as possible, with white space between
them. Digits make numbers, the letters `a` to `z` and underscores make names, and an operator is
read with one character of lookahead, so that `x---y` is `x`, `--`, `-`, `y`.

A character that starts no token ends the scan. The tokens before it are still tokens: they are
handed on first, and the stray character is reported after them.
-/

namespace Abacus

namespace Scan

open Abacus.Text Token

/-- The characters that names are written with. -/
def isNameChar (c : Char) : Bool := ('a' ≤ c && c ≤ 'z') || c == '_'

/-- What stands at the head of a text: its end, a white-space character, a token of some kind, or a
character that starts none. -/
inductive Head
  | finish
  | blank (rest : List Char)
  | lexeme (kind : Kind) (text rest : List Char)
  | stray (c : Char)

/-- The operator at the head of `c :: rest`: two characters if they spell one, else the first
alone. -/
def operatorHead (c : Char) (rest : List Char) : Head :=
  match rest.head?.bind (Kind.ofPair? c) with
  | some kind => .lexeme kind (c :: rest.take 1) (rest.drop 1)
  | none =>
    match Kind.ofChar? c with
    | some kind => .lexeme kind [c] rest
    | none => .stray c

/-- What stands at the head of a text. -/
def head : List Char → Head
  | [] => .finish
  | c :: rest =>
    if isBlank c then .blank rest
    else if isDigit c then
      .lexeme .number (c :: rest.takeWhile isDigit) (rest.dropWhile isDigit)
    else if isNameChar c then
      .lexeme .name (c :: rest.takeWhile isNameChar) (rest.dropWhile isNameChar)
    else operatorHead c rest

theorem length_dropWhile_le (p : Char → Bool) (cs : List Char) :
    (cs.dropWhile p).length ≤ cs.length :=
  (List.dropWhile_suffix p).length_le

theorem length_lt_of_operatorHead {c : Char} {rest text rest' : List Char} {kind : Kind}
    (h : operatorHead c rest = .lexeme kind text rest') : rest'.length < (c :: rest).length := by
  unfold operatorHead at h
  split at h
  · obtain ⟨-, -, rfl⟩ := Head.lexeme.inj h
    simp only [List.length_drop, List.length_cons]
    omega
  · split at h
    · obtain ⟨-, -, rfl⟩ := Head.lexeme.inj h
      simp
    · exact absurd h (by simp)

/-- A lexeme takes at least one character. -/
theorem length_lt_of_lexeme {cs text rest : List Char} {kind : Kind}
    (h : head cs = .lexeme kind text rest) : rest.length < cs.length := by
  cases cs with
  | nil => simp [head] at h
  | cons c cs =>
    simp only [head] at h
    split at h
    · simp at h
    split at h
    · obtain ⟨-, -, rfl⟩ := Head.lexeme.inj h
      exact Nat.lt_succ_of_le (length_dropWhile_le isDigit cs)
    split at h
    · obtain ⟨-, -, rfl⟩ := Head.lexeme.inj h
      exact Nat.lt_succ_of_le (length_dropWhile_le isNameChar cs)
    · exact length_lt_of_operatorHead h

/-- A white-space character is skipped alone. -/
theorem length_lt_of_blank {cs rest : List Char} (h : head cs = .blank rest) :
    rest.length < cs.length := by
  cases cs with
  | nil => simp [head] at h
  | cons c cs =>
    simp only [head] at h
    split at h
    · obtain rfl := Head.blank.inj h
      simp
    split at h
    · simp at h
    split at h
    · simp at h
    · unfold operatorHead at h
      split at h
      · simp at h
      · split at h <;> simp at h

end Scan

/-- The outcome of scanning: the tokens, and the stray character that ended the scan, with its
place, if there was one. -/
structure Scan where
  tokens : List Token
  stray? : Option (Char × Nat)
  deriving DecidableEq, Repr

namespace Scan

/-- The scan of no text. -/
def empty : Scan := ⟨[], none⟩

/-- The scan with a token in front. -/
def cons (t : Token) (s : Scan) : Scan := { s with tokens := t :: s.tokens }

/-- The scan of a text whose first character has the place `pos`. -/
def ofChars (pos : Nat) (cs : List Char) : Scan :=
  match _h : head cs with
  | .finish => empty
  | .blank rest => ofChars (pos + 1) rest
  | .lexeme kind text rest =>
    cons ⟨kind, String.ofList text, pos⟩ (ofChars (pos + text.length) rest)
  | .stray c => ⟨[], some (c, pos)⟩
termination_by cs.length
decreasing_by
  · exact length_lt_of_blank _h
  · exact length_lt_of_lexeme _h

/-- The scan of a line. -/
def ofString (source : String) : Scan :=
  ofChars 0 source.toList

end Scan

end Abacus
