import Abacus.Proofs.Reading
import Abacus.Proofs.Replay

/-!
# The parser follows its reading

The state of a parse that has read `r` is fixed by `r`: its stack holds the
entries of the frames, and its machine was sent the instructions of what is
complete (`Reading.onto`). A token that can be read is accepted and leads to
the state of the next reading (`feed_of_reads`), and a token that is
accepted can be read (`exists_reads_of_feed`).

The state may stand on top of another, as long as no operator reaches into
it. For a whole line nothing lies below.

The parser also tells the value of a number from its text. Readings leave
that to the grammar, so the tokens that are fed must have decimal texts;
the scanner makes no others.
-/

namespace Abacus

/-! ## The operands of an operator -/

namespace Operation

variable {k : Token.Kind} {op : Operation}

theorem arity_of_before? (h : before? k = some op) : op.arity = 1 := by
  cases k <;> simp only [before?, reduceCtorEq, Option.some.injEq] at h <;>
    subst h <;> rfl

theorem arity_of_after? (h : after? k = some op) : op.arity = 1 := by
  cases k <;> simp only [after?, reduceCtorEq, Option.some.injEq] at h <;>
    subst h <;> rfl

/-- A colon apart, which comes with a `?`. -/
theorem arity_of_between? (h : between? k = some op) (hk : k ≠ .colon) :
    op.arity = 2 := by
  cases k <;> simp only [between?, reduceCtorEq, Option.some.injEq] at h <;>
    subst h <;> first | rfl | exact absurd rfl hk

end Operation

/-! ## States of a parse -/

namespace Reading

/-- **The state of the parse** that has read `r` on top of a base: the
entries of the frames stand above those of the base, and the instructions
were sent to its machine. -/
def onto (r : Reading) (base : Parser Listing) : Parser Listing :=
  ⟨base.machine.extend r.sent, r.frames.map Frame.entry ++ base.pending,
    r.awaiting, true⟩

end Reading

/-! ## The parser follows its reading -/

/-- A stack that no operator reaches into: an opener is on top, or nothing
is. -/
def Closed (pending : List Pending) : Prop :=
  ∀ e ∈ pending.head?, e.isOpener = true

theorem closed_nil : Closed [] :=
  fun _ h => nomatch h

theorem settleStack_of_closed {pending : List Pending} (h : Closed pending)
    (limit : Nat) (l : Listing) :
    Parser.settleStack limit pending l = .ok () (pending, l) := by
  rcases pending with _ | ⟨_ | _, _⟩
  · rfl
  · rfl
  · exact absurd (h _ rfl) Bool.false_ne_true

/-- **Carrying out entries is putting the operand into their frames.** -/
theorem settleStack_frames {base : List Pending} (hbase : Closed base)
    (limit : Nat) (fs : List Frame) (e : Tree) (l : Listing) :
    Parser.settleStack limit (fs.map Frame.entry ++ base)
        (l.extend (framesSent fs ++ e.expr.postorder))
      = .ok () ((settle limit fs e).1.map Frame.entry ++ base,
          l.extend (framesSent (settle limit fs e).1
            ++ (settle limit fs e).2.expr.postorder)) := by
  fun_induction settle limit fs e with
  | case1 => exact settleStack_of_closed hbase limit _
  | case2 f fs e e' hf hle ih =>
    obtain ⟨op, pos, hentry, hpost⟩ := Frame.postorder_of_plug? hf
    -- carrying the entry out completes the instructions of its node
    have happly : (l.extend (framesSent (f :: fs) ++ e.expr.postorder)).apply op
        = l.extend (framesSent fs ++ e'.expr.postorder) := by
      rw [← hpost, framesSent, ← List.append_assoc, ← List.append_assoc,
        Listing.extend_append l _ [.apply op], List.append_assoc]
      rfl
    rw [← ih, ← happly, List.map_cons, hentry]
    rw [hentry] at hle
    exact if_pos hle
  | case3 f fs e e' hf hle =>
    obtain ⟨op, pos, hentry, -⟩ := Frame.postorder_of_plug? hf
    rw [List.map_cons, hentry]
    rw [hentry] at hle
    exact if_neg hle
  | case4 f fs e hf =>
    obtain ⟨o, pos, hentry⟩ := Frame.isOpener_of_plug?_eq_none hf
    rw [List.map_cons, hentry]
    rfl

namespace Parser

section Accept

variable {μ : Type} [Machine μ] {t : Token} {op : Operation}

theorem acceptOperand_number {v : Int} (hk : t.kind = .number)
    (hv : literalValue t.text t.pos = .ok v) :
    (acceptOperand t : Step (Parser μ) Unit)
      = (do push (.literal v); await .operator) := by
  simp only [acceptOperand, hk, hv]

theorem acceptOperand_name (hk : t.kind = .name) :
    (acceptOperand t : Step (Parser μ) Unit)
      = (do push (.name t.text); await .operator) := by
  simp only [acceptOperand, hk]

theorem acceptOperand_openParen (hk : t.kind = .openParen) :
    (acceptOperand t : Step (Parser μ) Unit)
      = shift (.opener .paren t.pos) := by
  simp only [acceptOperand, hk]

theorem acceptOperand_before (hk : Operation.before? t.kind = some op) :
    (acceptOperand t : Step (Parser μ) Unit)
      = shift (.operator op t.pos) := by
  unfold acceptOperand
  split <;> simp_all [Operation.before?]

theorem acceptOperator_closeParen (hk : t.kind = .closeParen) :
    (acceptOperator t : Step (Parser μ) Unit) = close .paren t := by
  simp only [acceptOperator, hk]

theorem acceptOperator_question (hk : t.kind = .question) :
    (acceptOperator t : Step (Parser μ) Unit)
      = (do
        settle (Precedence.conditional.rank - 1)
        shift (.opener .question t.pos)
        await .operand) := by
  simp only [acceptOperator, hk]

theorem acceptOperator_colon (hk : t.kind = .colon) :
    (acceptOperator t : Step (Parser μ) Unit)
      = (do
        close .question t
        shift (.operator .choose t.pos)
        await .operand) := by
  simp only [acceptOperator, hk]

theorem acceptOperator_after (hk : Operation.after? t.kind = some op) :
    (acceptOperator t : Step (Parser μ) Unit) = perform op := by
  unfold acceptOperator
  split <;> simp_all [Operation.after?]

theorem acceptOperator_between (ha : Operation.after? t.kind = none)
    (hk : Operation.between? t.kind = some op) (h : op.arity = 2) :
    (acceptOperator t : Step (Parser μ) Unit)
      = (do
        settle op.precedence.reach
        shift (.operator op t.pos)
        await .operand) := by
  unfold acceptOperator
  split <;> simp_all [Operation.between?]
  subst_vars
  contradiction

/-- What closing a group comes to, once all that is pending in it is carried
out: the opener is on top, or the closer has none. -/
theorem close_eq {p p' : Parser μ} (h : settle groupLimit p = .ok () p')
    (o : Opener) (t : Token) :
    close o t p = match p'.pending with
      | .opener o' _ :: rest =>
        if o' = o then .ok () { p' with pending := rest }
        else .error (.unmatchedCloser t o) p'
      | _ => .error (.unmatchedCloser t o) p' := by
  unfold close
  rw [Step.bind_of_ok h]
  obtain ⟨machine, pending, awaiting, started⟩ := p'
  rcases pending with _ | ⟨⟨o', pos⟩ | _, rest⟩
  · rfl
  · show (if o' = o then _ else _ : Step (Parser μ) Unit) _ = if o' = o then _ else _
    by_cases ho : o' = o
    · rw [if_pos ho, if_pos ho]
      rfl
    · rw [if_neg ho, if_neg ho]
      rfl
  · rfl

/-- A group is closed if its opener is what settling lays bare. -/
theorem close_of_settle {o : Opener} {pos : Int} {rest : List Pending}
    {p p' : Parser μ} (h : settle groupLimit p = .ok () p')
    (hp : p'.pending = .opener o pos :: rest) :
    close o t p = .ok () { p' with pending := rest } := by
  rw [close_eq h, hp]
  exact if_pos rfl

/-- And only then. -/
theorem pending_of_close {o : Opener} {p p' q : Parser μ}
    (h : settle groupLimit p = .ok () p') (hq : close o t p = .ok () q) :
    ∃ pos rest, p'.pending = .opener o pos :: rest := by
  rw [close_eq h] at hq
  split at hq
  · rename_i o' pos rest hp
    split at hq
    · rename_i ho
      exact ⟨pos, rest, ho ▸ hp⟩
    · nomatch hq
  · nomatch hq

end Accept

end Parser

section Follow

variable {base : Parser Listing} {fs fs' : List Frame} {e e' : Tree}

theorem settle_onto (hbase : Closed base.pending) {limit : Nat}
    (h : settle limit fs e = (fs', e')) :
    Parser.settle limit (Reading.onto ⟨fs, some e⟩ base)
      = .ok () (Reading.onto ⟨fs', some e'⟩ base) := by
  have hstack := settleStack_frames hbase limit fs e base.machine
  rw [h] at hstack
  rw [Parser.settle, show Parser.settleStack limit
    (Reading.onto ⟨fs, some e⟩ base).pending
    (Reading.onto ⟨fs, some e⟩ base).machine = _ from hstack]
  rfl

theorem feed_operand (t : Token) :
    Parser.feed t (Reading.onto ⟨fs, none⟩ base)
      = Parser.acceptOperand t (Reading.onto ⟨fs, none⟩ base) := rfl

theorem feed_operator (t : Token) :
    Parser.feed t (Reading.onto ⟨fs, some e⟩ base)
      = Parser.acceptOperator t (Reading.onto ⟨fs, some e⟩ base) := rfl

/-- An operand is pushed. -/
theorem push_onto {x : Operand} (h : e.expr = .operand x) :
    (do Parser.push x; Parser.await .operator : Step (Parser Listing) Unit)
        (Reading.onto ⟨fs, none⟩ base)
      = .ok () (Reading.onto ⟨fs, some e⟩ base) := by
  have hsent : (⟨fs, some e⟩ : Reading).sent
      = (⟨fs, none⟩ : Reading).sent ++ [.push x] := by
    show framesSent fs ++ e.expr.postorder = framesSent fs ++ [] ++ [.push x]
    rw [h, List.append_nil]
    rfl
  show _ = EStateM.Result.ok () (Parser.mk (base.machine.extend _) _ _ _)
  rw [hsent, Listing.extend_append]
  rfl

/-- An operation after an operand is carried out at once. -/
theorem perform_onto {op : Operation}
    (h : e'.expr.postorder = e.expr.postorder ++ [.apply op]) :
    Parser.perform op (Reading.onto ⟨fs, some e⟩ base)
      = .ok () (Reading.onto ⟨fs, some e'⟩ base) := by
  have hsent : (⟨fs, some e'⟩ : Reading).sent
      = (⟨fs, some e⟩ : Reading).sent ++ [.apply op] := by
    show framesSent fs ++ e'.expr.postorder = framesSent fs ++ _ ++ _
    rw [h, List.append_assoc]
    rfl
  show _ = EStateM.Result.ok () (Parser.mk (base.machine.extend _) _ _ _)
  rw [hsent, Listing.extend_append]
  rfl

/-- A new frame goes on top; what was finished is now part of it. -/
theorem shift_onto {e? : Option Tree} {f : Frame}
    (h : f.sent = (e?.map fun e => e.expr.postorder).getD []) :
    (do Parser.shift f.entry; Parser.await .operand :
        Step (Parser Listing) Unit) (Reading.onto ⟨fs, e?⟩ base)
      = .ok () (Reading.onto ⟨f :: fs, none⟩ base) := by
  have hsent : (⟨f :: fs, none⟩ : Reading).sent = (⟨fs, e?⟩ : Reading).sent := by
    show framesSent fs ++ f.sent ++ [] = framesSent fs ++ _
    rw [h, List.append_nil]
  show _ = EStateM.Result.ok () (Parser.mk (base.machine.extend _) _ _ _)
  rw [hsent]
  rfl

/-- **The parse follows the reading.** -/
theorem feed_of_reads (hbase : Closed base.pending) {r r' : Reading}
    {t : Token} (h : Reads r t r') (ht : t.IsDecimal) :
    Parser.feed t (r.onto base) = .ok () (r'.onto base) := by
  cases h with
  | number hk hfit =>
    have hv : literalValue t.text t.pos = .ok (Literal.decimal t.text : Int) := by
      rw [Literal.literalValue_eq (ht hk), if_pos hfit]
    rw [feed_operand, Parser.acceptOperand_number hk hv]
    exact push_onto rfl
  | name hk =>
    rw [feed_operand, Parser.acceptOperand_name hk]
    exact push_onto rfl
  | group hk =>
    rw [feed_operand, Parser.acceptOperand_openParen hk]
    exact shift_onto (f := .group t) rfl
  | @before _ _ op h hk =>
    rw [feed_operand, Parser.acceptOperand_before hk]
    exact shift_onto (f := .before t op h) rfl
  | @close _ fs' _ e' l _ hk hs =>
    have hsent : (⟨.group l :: fs', some e'⟩ : Reading).sent
        = (⟨fs', some (.group l e' t)⟩ : Reading).sent := by
      show framesSent fs' ++ [] ++ e'.expr.postorder = framesSent fs' ++ _
      rw [List.append_nil]
      rfl
    rw [feed_operator, Parser.acceptOperator_closeParen hk,
      Parser.close_of_settle (settle_onto hbase hs) rfl]
    show EStateM.Result.ok () (Parser.mk (base.machine.extend _) _ _ _) = _
    rw [hsent]
    rfl
  | after hk =>
    rw [feed_operator, Parser.acceptOperator_after hk]
    exact perform_onto rfl
  | question hk hs =>
    rw [feed_operator, Parser.acceptOperator_question hk,
      Step.bind_of_ok (settle_onto hbase hs)]
    exact shift_onto (f := .question _ t) rfl
  | @colon _ fs' _ c a q _ hk hs =>
    have hsent : (⟨.question c q :: fs', some a⟩ : Reading).sent
        = (⟨.choose c q a t :: fs', none⟩ : Reading).sent := by
      show framesSent fs' ++ c.expr.postorder ++ a.expr.postorder
        = framesSent fs' ++ (c.expr.postorder ++ a.expr.postorder) ++ []
      rw [List.append_nil, List.append_assoc]
    rw [feed_operator, Parser.acceptOperator_colon hk,
      Step.bind_of_ok (Parser.close_of_settle (settle_onto hbase hs) rfl)]
    show _ = EStateM.Result.ok () (Parser.mk (base.machine.extend _) _ _ _)
    rw [← hsent]
    rfl
  | @between _ _ _ _ _ op h ha hk hs =>
    rw [feed_operator, Parser.acceptOperator_between ha hk h,
      Step.bind_of_ok (settle_onto hbase hs)]
    exact shift_onto (f := .between _ t op h) rfl

/-- **And the reading follows the parse**, where nothing lies below: a token
that is accepted can be read. -/
theorem exists_reads_of_feed (hbase : base.pending = []) {r : Reading}
    {t : Token} (ht : t.IsDecimal) {p : Parser Listing}
    (h : Parser.feed t (r.onto base) = .ok () p) : ∃ r', Reads r t r' := by
  have hclosed : Closed base.pending := hbase ▸ closed_nil
  obtain ⟨fs, _ | e⟩ := r
  · rw [feed_operand] at h
    generalize hf : (Parser.acceptOperand t : Step (Parser Listing) Unit) = f at h
    unfold Parser.acceptOperand at hf
    split at hf
    · rename_i hk
      by_cases hfit : (Literal.decimal t.text : Int) ≤ Word.greatest
      · exact ⟨_, .number hk hfit⟩
      · rw [Literal.literalValue_eq (ht hk), if_neg hfit] at hf
        subst hf
        nomatch h
    · rename_i hk
      exact ⟨_, .name hk⟩
    · rename_i hk
      exact ⟨_, .group hk⟩
    · cases hk : Operation.before? t.kind with
      | some op => exact ⟨_, .before (h := Operation.arity_of_before? hk) hk⟩
      | none =>
        rw [hk] at hf
        subst hf
        nomatch h
  · rw [feed_operator] at h
    have hclose : ∀ {o : Opener} {q : Parser Listing},
        Parser.close o t (Reading.onto ⟨fs, some e⟩ base) = .ok () q →
        ∃ f pos rest e', settle Parser.groupLimit fs e = (f :: rest, e') ∧
          f.entry = .opener o pos := by
      intro o q hq
      obtain ⟨pos, rest, hp⟩ :=
        Parser.pending_of_close (settle_onto hclosed Prod.mk.eta.symm) hq
      rw [Reading.onto, hbase, List.append_nil] at hp
      obtain ⟨f, fs', hfs, hf, -⟩ := List.map_eq_cons_iff.mp hp
      exact ⟨f, pos, fs', _, Prod.ext hfs rfl, hf⟩
    generalize hf : (Parser.acceptOperator t : Step (Parser Listing) Unit) = f at h
    unfold Parser.acceptOperator at hf
    split at hf
    · rename_i hk
      subst hf
      obtain ⟨f, pos, rest, e', hs, hf⟩ := hclose h
      obtain ⟨l, rfl⟩ := Frame.eq_group_of_entry hf
      exact ⟨_, .close hk hs⟩
    · rename_i hk
      exact ⟨_, .question hk rfl⟩
    · rename_i hk
      subst hf
      cases hq : Parser.close .question t (Reading.onto ⟨fs, some e⟩ base) with
      | ok _ q =>
        obtain ⟨f, pos, rest, e', hs, hf⟩ := hclose hq
        obtain ⟨c, q, rfl⟩ := Frame.eq_question_of_entry hf
        exact ⟨_, .colon hk hs⟩
      | error =>
        rw [Step.bind_of_error hq] at h
        nomatch h
    · rename_i hcolon
      cases ha : Operation.after? t.kind with
      | some op => exact ⟨_, .after (h := Operation.arity_of_after? ha) ha⟩
      | none =>
        cases hk : Operation.between? t.kind with
        | some op =>
          exact ⟨_, .between (h := Operation.arity_of_between? hk hcolon) ha hk rfl⟩
        | none =>
          rw [ha, hk] at hf
          subst hf
          nomatch h

end Follow

end Abacus
