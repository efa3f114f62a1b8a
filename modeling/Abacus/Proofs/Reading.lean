import Abacus.Proofs.Grammar

/-!
# Reading a line into a tree

The parser builds no tree, but its stack can be understood as one that is
not finished. A pending entry stands for a node whose last operand has not
been read yet, and what was read before the entry is complete. Putting these
complete parts back into the entries gives a `Frame` for each entry, and a
`Reading` for a state of the parse: the frames, topmost first, and the
operand just finished, if an operator is awaited.

A token leads from one reading to the next (`Reads`), and where several
entries are carried out at once, the operand is put into one frame after the
other (`settle`). This is the parser over again, with trees in place of
instructions, and questions about the parser become questions about trees.
A reading holds no more than the line does: settling keeps the tokens
(`tokens_settle`), and a line is read in one way (`ReadsAll.unique`).
-/

namespace Abacus

/-! ## Frames -/

/-- **A pending entry with what was read before it**, up to the entry
below. -/
inductive Frame
  | group (l : Token)
  | question (c : Tree) (q : Token)
  | before (t : Token) (op : Operation) (h : op.arity = 1)
  | between (a : Tree) (t : Token) (op : Operation) (h : op.arity = 2)
  | choose (c : Tree) (q : Token) (a : Tree) (k : Token)

namespace Frame

/-- The entry of a frame. -/
def entry : Frame → Pending
  | .group l => .opener .paren l.pos
  | .question _ q => .opener .question q.pos
  | .before t op _ | .between _ t op _ => .operator op t.pos
  | .choose _ _ _ k => .operator .choose k.pos

/-- The tokens of a frame. -/
def tokens : Frame → List Token
  | .group l => [l]
  | .question c q => c.tokens ++ [q]
  | .before t _ _ => [t]
  | .between a t _ _ => a.tokens ++ [t]
  | .choose c q a k => c.tokens ++ q :: a.tokens ++ [k]

/-- The instructions of the complete parts of a frame. -/
def sent : Frame → List Instruction
  | .group _ | .before .. => []
  | .question c _ => c.expr.postorder
  | .between a _ _ _ => a.expr.postorder
  | .choose c _ a _ => c.expr.postorder ++ a.expr.postorder

/-- The node of an operator's frame, given its last operand. An opener takes
none: it has to be closed first. -/
def plug? : Frame → Tree → Option Tree
  | .group _, _ | .question .., _ => none
  | .before t op h, e => some (.before t op h e)
  | .between a t op h, e => some (.between a t op h e)
  | .choose c q a k, e => some (.choose c q a k e)

/-- Plugging keeps the tokens. -/
theorem tokens_of_plug? {f : Frame} {e e' : Tree} (h : f.plug? e = some e') :
    e'.tokens = f.tokens ++ e.tokens := by
  cases f <;> simp only [plug?, Option.some.injEq, reduceCtorEq] at h <;>
    subst h <;> simp [Tree.tokens, tokens]

/-- The operation of the entry is carried out when the frame is plugged. -/
theorem postorder_of_plug? {f : Frame} {e e' : Tree} (h : f.plug? e = some e') :
    ∃ op pos, f.entry = .operator op pos ∧
      f.sent ++ e.expr.postorder ++ [.apply op] = e'.expr.postorder := by
  cases f <;> simp only [plug?, Option.some.injEq, reduceCtorEq] at h <;>
    subst h <;> refine ⟨_, _, rfl, ?_⟩ <;>
    simp [sent, Tree.expr, Expr.postorder]

theorem eq_group_of_entry {f : Frame} {pos : Int}
    (h : f.entry = .opener .paren pos) : ∃ l, f = .group l := by
  cases f <;> simp_all [entry]

theorem eq_question_of_entry {f : Frame} {pos : Int}
    (h : f.entry = .opener .question pos) : ∃ c q, f = .question c q := by
  cases f <;> simp_all [entry]

/-- Only an opener cannot be plugged. -/
theorem isOpener_of_plug?_eq_none {f : Frame} {e : Tree} (h : f.plug? e = none) :
    ∃ o pos, f.entry = .opener o pos := by
  cases f <;> simp only [plug?, reduceCtorEq] at h <;> exact ⟨_, _, rfl⟩

end Frame

/-- The tokens of a stack of frames, topmost first, in the order in which
they were read. -/
def framesTokens : List Frame → List Token
  | [] => []
  | f :: fs => framesTokens fs ++ f.tokens

/-- The instructions of the complete parts of a stack of frames. -/
def framesSent : List Frame → List Instruction
  | [] => []
  | f :: fs => framesSent fs ++ f.sent

/-! ## Settling -/

/-- The operand `e` put into the frames from the top of a stack, as long as
they are of operators of at most the rank `limit`. Gives the frames that are
left and the operand above them. -/
def settle (limit : Nat) : List Frame → Tree → List Frame × Tree
  | [], e => ([], e)
  | f :: fs, e =>
    match f.plug? e with
    | some e' =>
      if f.entry.precedence.rank ≤ limit then settle limit fs e'
      else (f :: fs, e)
    | none => (f :: fs, e)

section Settle

variable {limit : Nat} {f : Frame} {fs : List Frame} {e e' : Tree}

theorem settle_of_le (h : f.plug? e = some e')
    (hle : f.entry.precedence.rank ≤ limit) :
    settle limit (f :: fs) e = settle limit fs e' := by
  rw [settle, h]
  exact if_pos hle

theorem settle_of_not_le (h : f.plug? e = some e')
    (hle : ¬f.entry.precedence.rank ≤ limit) :
    settle limit (f :: fs) e = (f :: fs, e) := by
  rw [settle, h]
  exact if_neg hle

theorem settle_of_plug?_eq_none (h : f.plug? e = none) :
    settle limit (f :: fs) e = (f :: fs, e) := by
  rw [settle, h]

end Settle

/-- Settling moves tokens, and neither adds nor drops any. -/
theorem tokens_settle {limit : Nat} {fs fs' : List Frame} {e e' : Tree}
    (h : settle limit fs e = (fs', e')) :
    framesTokens fs' ++ e'.tokens = framesTokens fs ++ e.tokens := by
  fun_induction settle limit fs e with
  | case1 | case3 | case4 =>
    obtain ⟨rfl, rfl⟩ := Prod.mk.inj h
    rfl
  | case2 f fs e e₁ hf hle ih =>
    rw [ih h, Frame.tokens_of_plug? hf, framesTokens, List.append_assoc]

/-! ## Readings -/

/-- **A reading**: the frames, topmost first, and the operand that was
finished last. Without it an operand is awaited. -/
structure Reading where
  frames : List Frame
  operand? : Option Tree

namespace Reading

/-- The reading of no token. -/
def start : Reading := ⟨[], none⟩

/-- The tokens read. -/
def tokens (r : Reading) : List Token :=
  framesTokens r.frames ++ (r.operand?.map Tree.tokens).getD []

/-- The instructions of the complete parts. -/
def sent (r : Reading) : List Instruction :=
  framesSent r.frames ++ (r.operand?.map fun e => e.expr.postorder).getD []

/-- What the parse awaits. -/
def awaiting (r : Reading) : Awaiting :=
  if r.operand?.isSome then .operator else .operand

end Reading

/-- **How a token is read.** -/
inductive Reads : Reading → Token → Reading → Prop
  | number {fs : List Frame} {t : Token} :
      t.kind = .number → (Literal.decimal t.text : Int) ≤ Word.greatest →
      Reads ⟨fs, none⟩ t ⟨fs, some (.number t)⟩
  | name {fs : List Frame} {t : Token} :
      t.kind = .name → Reads ⟨fs, none⟩ t ⟨fs, some (.name t)⟩
  | group {fs : List Frame} {t : Token} :
      t.kind = .openParen → Reads ⟨fs, none⟩ t ⟨.group t :: fs, none⟩
  | before {fs : List Frame} {t : Token} {op : Operation} {h : op.arity = 1} :
      Operation.before? t.kind = some op →
      Reads ⟨fs, none⟩ t ⟨.before t op h :: fs, none⟩
  | close {fs fs' : List Frame} {e e' : Tree} {l t : Token} :
      t.kind = .closeParen →
      settle Parser.groupLimit fs e = (.group l :: fs', e') →
      Reads ⟨fs, some e⟩ t ⟨fs', some (.group l e' t)⟩
  | after {fs : List Frame} {e : Tree} {t : Token} {op : Operation}
      {h : op.arity = 1} :
      Operation.after? t.kind = some op →
      Reads ⟨fs, some e⟩ t ⟨fs, some (.after e t op h)⟩
  | question {fs fs' : List Frame} {e e' : Tree} {t : Token} :
      t.kind = .question →
      settle (Precedence.conditional.rank - 1) fs e = (fs', e') →
      Reads ⟨fs, some e⟩ t ⟨.question e' t :: fs', none⟩
  | colon {fs fs' : List Frame} {e c a : Tree} {q t : Token} :
      t.kind = .colon →
      settle Parser.groupLimit fs e = (.question c q :: fs', a) →
      Reads ⟨fs, some e⟩ t ⟨.choose c q a t :: fs', none⟩
  | between {fs fs' : List Frame} {e e' : Tree} {t : Token} {op : Operation}
      {h : op.arity = 2} :
      Operation.after? t.kind = none → Operation.between? t.kind = some op →
      settle op.precedence.reach fs e = (fs', e') →
      Reads ⟨fs, some e⟩ t ⟨.between e' t op h :: fs', none⟩

/-- **How a line is read**, token by token. -/
inductive ReadsAll : Reading → List Token → Reading → Prop
  | nil {r : Reading} : ReadsAll r [] r
  | cons {r r' r'' : Reading} {t : Token} {ts : List Token} :
      Reads r t r' → ReadsAll r' ts r'' → ReadsAll r (t :: ts) r''

namespace ReadsAll

theorem single {r r' : Reading} {t : Token} (h : Reads r t r') :
    ReadsAll r [t] r' :=
  .cons h .nil

theorem append {r r' r'' : Reading} {ts us : List Token}
    (h : ReadsAll r ts r') (h' : ReadsAll r' us r'') :
    ReadsAll r (ts ++ us) r'' := by
  induction h with
  | nil => exact h'
  | cons ht _ ih => exact .cons ht (ih h')

end ReadsAll

/-- A token is read in one way. -/
theorem Reads.unique {r r₁ r₂ : Reading} {t : Token} (h₁ : Reads r t r₁)
    (h₂ : Reads r t r₂) : r₁ = r₂ := by
  cases h₁ <;> cases h₂ <;>
    simp_all [Operation.before?, Operation.after?, Operation.between?]
  -- what is left takes a colon for an operator between two operands
  all_goals
    subst_vars
    contradiction

/-- A line is read in one way. -/
theorem ReadsAll.unique {r r₁ r₂ : Reading} {ts : List Token}
    (h₁ : ReadsAll r ts r₁) (h₂ : ReadsAll r ts r₂) : r₁ = r₂ := by
  induction h₁ with
  | nil =>
    cases h₂
    rfl
  | cons ht _ ih =>
    cases h₂ with
    | cons ht' h₂ => exact ih (ht.unique ht' ▸ h₂)

end Abacus
