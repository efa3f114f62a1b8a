import Mathlib.Data.List.Forall2
import Abacus.Proofs.LateResolution

/-!
# What a listing tells

A listing shows instructions by their texts. Is the computation of a line
fixed by its listing? Numbers, names and the codes of operations share one
space of texts, and almost nothing is lost: a literal is written with digits,
a name with letters and underscores, and no code is written with digits, or
with letters and underscores alone – except one. The code of the negation is
`neg`, and that is a name (`eq_or_neg_of_text_eq`).

So `a + -neg` and `-a + neg` have the same listing and different values
(`texts_ambiguous`). A line that does not both negate and use a variable
called `neg` is safe, whatever it is compared with
(`evaluate_eq_of_texts_eq`). The texts alone would not do for that, since the
other line might confuse the two; but a push adds an operand and a negation
does not, and the instructions of a line leave exactly one.
-/

namespace Abacus

namespace Instruction

/-- The number of operands that an instruction adds to a stack. -/
def weight : Instruction → Int
  | .push _ => 1
  | .apply op => 1 - op.arity

/-- **An instruction that a line can send.** Literals have no sign, and names
are what a scan takes for names. -/
def IsRecorded : Instruction → Prop
  | .push (.literal v) => 0 ≤ v
  | .push (.name x) => Variable.isName x = true
  | .apply _ => True

end Instruction

/-! ## The texts of instructions -/

/-- A literal without a sign is written with digits. -/
theorem isDecimal_intText {v : Int} (h : 0 ≤ v) :
    Literal.IsDecimal (Numeral.intText v) := by
  obtain ⟨n, rfl⟩ := Int.eq_ofNat_of_zero_le h
  show (Nat.repr n).toList ≠ [] ∧ ∀ c ∈ (Nat.repr n).toList, _
  rw [Nat.toList_repr]
  exact ⟨Nat.toDigits_ne_nil, fun c hc =>
    Nat.isDigit_of_mem_toDigits (by decide) (by decide) hc⟩

theorem intText_injective {v w : Int} (hv : 0 ≤ v) (hw : 0 ≤ w)
    (h : Numeral.intText v = Numeral.intText w) : v = w := by
  obtain ⟨n, rfl⟩ := Int.eq_ofNat_of_zero_le hv
  obtain ⟨m, rfl⟩ := Int.eq_ofNat_of_zero_le hw
  have hdigits : Nat.toDigits 10 n = Nat.toDigits 10 m := by
    rw [← Nat.toList_repr, ← Nat.toList_repr]
    exact congrArg String.toList h
  rw [← Nat.ofDigitChars_ten_toDigits (n := n), hdigits,
    Nat.ofDigitChars_ten_toDigits]

/-- No name is written with digits. -/
theorem not_isName_of_isDecimal {x : String} (h : Literal.IsDecimal x) :
    ¬Variable.isName x = true := by
  intro hname
  unfold Variable.isName at hname
  rw [Bool.and_eq_true, List.all_eq_true] at hname
  obtain ⟨c, hc⟩ := List.exists_mem_of_ne_nil _ h.1
  exact Scan.not_isDigit_of_isNameChar (hname.2 c hc) (h.2 c hc)

/-- And no code. -/
theorem not_isDecimal_code (op : Operation) : ¬Literal.IsDecimal op.code := by
  have hall : ∀ op ∈ Operation.all, ¬Literal.IsDecimal op.code := by decide
  exact hall op (Operation.mem_all op)

/-- One code is a name. -/
theorem eq_negate_of_isName_code {op : Operation}
    (h : Variable.isName op.code = true) : op = .negate := by
  have hall : ∀ op ∈ Operation.all,
      Variable.isName op.code = true → op = .negate := by
    decide
  exact hall op (Operation.mem_all op) h

theorem code_injective {op op' : Operation} (h : op.code = op'.code) :
    op = op' := by
  have hof := Operation.ofCode?_code op
  rw [h, Operation.ofCode?_code] at hof
  exact (Option.some.inj hof).symm

/-- The variable that is called like the negation. -/
def pushNeg : Instruction := .push (.name "neg")

/-- **One text has two meanings.** -/
theorem eq_or_neg_of_text_eq {i j : Instruction} (hi : i.IsRecorded)
    (hj : j.IsRecorded) (h : i.text = j.text) :
    i = j ∨ (i = pushNeg ∧ j = .apply .negate) ∨
      (i = .apply .negate ∧ j = pushNeg) := by
  rcases i with (v | x) | op <;> rcases j with (w | y) | op'
  · exact .inl (intText_injective hi hj h ▸ rfl)
  · change Numeral.intText v = y at h
    exact absurd hj (not_isName_of_isDecimal (h ▸ isDecimal_intText hi))
  · change Numeral.intText v = op'.code at h
    exact absurd (h ▸ isDecimal_intText hi) (not_isDecimal_code op')
  · change x = Numeral.intText w at h
    exact absurd hi (not_isName_of_isDecimal (h ▸ isDecimal_intText hj))
  · exact .inl (congrArg _ (congrArg _ h))
  · change x = op'.code at h
    subst h
    obtain rfl := eq_negate_of_isName_code hi
    exact .inr (.inl ⟨rfl, rfl⟩)
  · change op.code = Numeral.intText w at h
    exact absurd (h ▸ isDecimal_intText hj) (not_isDecimal_code op)
  · change op.code = y at h
    subst h
    obtain rfl := eq_negate_of_isName_code hj
    exact .inr (.inr ⟨rfl, rfl⟩)
  · exact .inl (congrArg _ (code_injective h))

/-! ## The instructions of a line -/

/-- Carrying out an expression leaves one operand. -/
theorem weight_postorder (e : Expr) :
    (e.postorder.map Instruction.weight).sum = 1 := by
  induction e with
  | operand => rfl
  | unary op h a iha =>
    simp [Expr.postorder, Instruction.weight, iha, h]
  | binary op h a b iha ihb =>
    simp [Expr.postorder, Instruction.weight, iha, ihb, h]
  | ternary op h a b c iha ihb ihc =>
    simp [Expr.postorder, Instruction.weight, iha, ihb, ihc, h]

/-- The instructions of a derivation whose names are names. -/
theorem isRecorded_of_derives {l : Level} {e : Tree} (h : Derives l e)
    (hts : ∀ t ∈ e.tokens, t.IsNamed) :
    ∀ i ∈ e.expr.postorder, i.IsRecorded := by
  induction h with
  | number =>
    rw [Tree.expr, Expr.postorder, List.forall_mem_singleton]
    exact Int.natCast_nonneg _
  | name hk =>
    rw [Tree.expr, Expr.postorder, List.forall_mem_singleton]
    exact hts _ List.mem_cons_self hk
  | group _ _ _ ih =>
    simp only [Tree.tokens, List.forall_mem_append, List.forall_mem_cons] at hts
    exact ih hts.1.2
  | after _ _ ih =>
    simp only [Tree.tokens, List.forall_mem_append] at hts
    rw [Tree.expr, Expr.postorder, List.forall_mem_append]
    exact ⟨ih hts.1, List.forall_mem_singleton.mpr trivial⟩
  | before _ _ ih =>
    simp only [Tree.tokens, List.forall_mem_cons] at hts
    rw [Tree.expr, Expr.postorder, List.forall_mem_append]
    exact ⟨ih hts.2, List.forall_mem_singleton.mpr trivial⟩
  | chain _ _ _ _ _ iha ihb | assign _ _ _ iha ihb =>
    simp only [Tree.tokens, List.forall_mem_append, List.forall_mem_cons] at hts
    rw [Tree.expr, Expr.postorder, List.forall_mem_append, List.forall_mem_append]
    exact ⟨⟨iha hts.1, ihb hts.2.2⟩, List.forall_mem_singleton.mpr trivial⟩
  | @choose c a b _ _ _ _ _ _ _ ihc iha ihb =>
    simp only [Tree.tokens, List.forall_mem_append, List.forall_mem_cons] at hts
    show ∀ i ∈ c.expr.postorder ++ a.expr.postorder ++ b.expr.postorder ++ _, _
    rw [List.forall_mem_append, List.forall_mem_append, List.forall_mem_append]
    exact ⟨⟨⟨ihc hts.1.1, iha hts.1.2.2⟩, ihb hts.2.2⟩,
      List.forall_mem_singleton.mpr trivial⟩
  | tighter _ _ ih => exact ih hts

/-- Where instructions of one list give way to heavier ones, the weight tells
how often. -/
theorem eq_of_weight_eq {x y : Instruction} (hxy : x.weight < y.weight)
    {p q : List Instruction}
    (h : List.Forall₂ (fun i j => i = j ∨ i = x ∧ j = y) p q) :
    (p.map Instruction.weight).sum ≤ (q.map Instruction.weight).sum ∧
      ((p.map Instruction.weight).sum = (q.map Instruction.weight).sum →
        p = q) := by
  induction h with
  | nil => exact ⟨le_refl _, fun _ => rfl⟩
  | @cons i j p q hij _ ih =>
    obtain ⟨hle, heq⟩ := ih
    simp only [List.map_cons, List.sum_cons]
    rcases hij with rfl | ⟨rfl, rfl⟩
    · refine ⟨by omega, fun h => ?_⟩
      rw [heq (by omega)]
    · exact ⟨by omega, fun h => by omega⟩

theorem forall₂_of_texts_eq {p q : List Instruction}
    (hp : ∀ i ∈ p, i.IsRecorded) (hq : ∀ i ∈ q, i.IsRecorded)
    (h : p.map Instruction.text = q.map Instruction.text) :
    List.Forall₂ (fun i j => i = j ∨ (i = pushNeg ∧ j = .apply .negate) ∨
      (i = .apply .negate ∧ j = pushNeg)) p q := by
  induction p generalizing q with
  | nil =>
    obtain rfl := List.map_eq_nil_iff.mp h.symm
    exact .nil
  | cons i p ih =>
    cases q with
    | nil => nomatch h
    | cons j q =>
      rw [List.forall_mem_cons] at hp hq
      obtain ⟨htext, htexts⟩ := List.cons.inj h
      exact .cons (eq_or_neg_of_text_eq hp.1 hq.1 htext) (ih hp.2 hq.2 htexts)

/-- **The texts tell the instructions**, together with the number of operands
that are left, unless a list both negates and uses the variable `neg`. -/
theorem eq_of_texts_eq {p q : List Instruction}
    (hp : ∀ i ∈ p, i.IsRecorded) (hq : ∀ i ∈ q, i.IsRecorded)
    (h : p.map Instruction.text = q.map Instruction.text)
    (hweight : (p.map Instruction.weight).sum = (q.map Instruction.weight).sum)
    (hneg : ¬(pushNeg ∈ p ∧ .apply .negate ∈ p)) : p = q := by
  have hpairs := forall₂_of_texts_eq hp hq h
  -- only one of the two confusions is left, and it changes the weight
  have hlt : Instruction.weight (.apply .negate) < pushNeg.weight := by decide
  by_cases hname : pushNeg ∈ p
  · -- no entry of `p` is a negation, so `q` can only have lost pushes
    have hop : ∀ i ∈ p, i ≠ .apply .negate :=
      fun i hi hop => hneg ⟨hname, hop ▸ hi⟩
    have hlost : List.Forall₂ (fun j i => j = i ∨ j = .apply .negate ∧ i = pushNeg)
        q p := by
      refine ((List.forall₂_and_left _ _).mpr ⟨hop, hpairs⟩).flip.imp ?_
      rintro j i ⟨hi, rfl | ⟨rfl, rfl⟩ | ⟨rfl, rfl⟩⟩
      · exact .inl rfl
      · exact .inr ⟨rfl, rfl⟩
      · exact absurd rfl hi
    exact ((eq_of_weight_eq hlt hlost).2 hweight.symm).symm
  · have hno : ∀ i ∈ p, i ≠ pushNeg := fun i hi hn => hname (hn ▸ hi)
    have hgained : List.Forall₂ (fun i j => i = j ∨ i = .apply .negate ∧ j = pushNeg)
        p q := by
      refine ((List.forall₂_and_left _ _).mpr ⟨hno, hpairs⟩).imp ?_
      rintro i j ⟨hi, rfl | ⟨rfl, rfl⟩ | ⟨rfl, rfl⟩⟩
      · exact .inl rfl
      · exact absurd rfl hi
      · exact .inr ⟨rfl, rfl⟩
    exact (eq_of_weight_eq hlt hgained).2 hweight

/-- The instructions of a line that can be listed: those of no line, or such
as leave one operand. -/
theorem recorded_of_listing {source : String} {l : Listing}
    (h : listing source = .ok l) (hne : l.texts ≠ []) :
    (∀ i ∈ l.instructions.toList, i.IsRecorded) ∧
      (l.instructions.toList.map Instruction.weight).sum = 1 := by
  obtain ⟨e, he, -, hpost⟩ := exists_isTreeOf h hne
  rw [hpost]
  refine ⟨isRecorded_of_derives he.derives fun t ht => ?_, weight_postorder _⟩
  rw [he.tokens_eq] at ht
  exact (Scan.isLexeme_of_mem ht).2

/-! ## Two lines with one listing -/

/-- The variables `a` and `neg`, with 1 and 2 as their values. -/
def oneAndTwo : Environment := .ofList [("a", 1), ("neg", 2)]

/-- Two lines with the same texts: one negates the variable `neg`, the other
negates `a` and adds `neg`. -/
theorem ambiguous_lines :
    ∃ l m, listing "a + -neg" = .ok l ∧ listing "-a + neg" = .ok m ∧
      l.texts = ["a", "neg", "neg", "+"] ∧ m.texts = ["a", "neg", "neg", "+"] ∧
      (evaluate "a + -neg" oneAndTwo).outcome = .ok (-1) ∧
      (evaluate "-a + neg" oneAndTwo).outcome = .ok 1 := by
  obtain ⟨l, hl, hprogram⟩ := exists_listing "a + -neg"
    [.push (.name "a"), pushNeg, .apply .negate, .apply (.arithmetic .add)]
    (by decide +kernel)
  obtain ⟨m, hm, hprogram'⟩ := exists_listing "-a + neg"
    [.push (.name "a"), .apply .negate, pushNeg, .apply (.arithmetic .add)]
    (by decide +kernel)
  refine ⟨l, m, hl, hm, ?_, ?_, by decide +kernel, by decide +kernel⟩
  · rw [Listing.texts, hprogram]
    rfl
  · rw [Listing.texts, hprogram']
    rfl

/-- **A listing does not tell the computation.** The lines `a + -neg` and
`-a + neg` have the same texts, and with 1 and 2 for `a` and `neg` the values
-1 and 1. -/
theorem texts_ambiguous :
    ¬∀ (s t : String) (l m : Listing), listing s = .ok l → listing t = .ok m →
      l.texts = m.texts → ∀ env : Environment,
        (evaluate s env).outcome = (evaluate t env).outcome ∧
          (evaluate s env).env = (evaluate t env).env := by
  intro h
  obtain ⟨l, m, hl, hm, htexts, htexts', hvalue, hvalue'⟩ := ambiguous_lines
  have hsame := (h _ _ l m hl hm (htexts.trans htexts'.symm) oneAndTwo).1
  rw [hvalue, hvalue'] at hsame
  nomatch hsame

/-- **It does for a line that does not both negate and use a variable called
`neg`.** Whatever other line has the same listing, the two compute the same,
on every environment. -/
theorem evaluate_eq_of_texts_eq {s t : String} {l m : Listing}
    (hs : listing s = .ok l) (ht : listing t = .ok m) (h : l.texts = m.texts)
    (hneg : ¬(pushNeg ∈ l.instructions.toList ∧
      .apply .negate ∈ l.instructions.toList)) (env : Environment) :
    (evaluate s env).outcome = (evaluate t env).outcome ∧
      (evaluate s env).env = (evaluate t env).env := by
  have hprogram : l.instructions.toList = m.instructions.toList := by
    by_cases hne : l.texts = []
    · have hl : l.instructions.toList = [] := List.map_eq_nil_iff.mp hne
      have hm : m.instructions.toList = [] :=
        List.map_eq_nil_iff.mp (h.symm.trans hne)
      rw [hl, hm]
    · obtain ⟨hrs, hws⟩ := recorded_of_listing hs hne
      obtain ⟨hrt, hwt⟩ := recorded_of_listing ht (h ▸ hne)
      exact eq_of_texts_eq hrs hrt h (hws.trans hwt.symm) hneg
  have hevaluate : evaluateOn (.start env) s = evaluateOn (.start env) t := by
    rw [evaluateOn_eq_replay, evaluateOn_eq_replay,
      Recording.ofSource_of_listing hs, Recording.ofSource_of_listing ht,
      hprogram]
  show (evaluateOn (.start env) s).outcome = (evaluateOn (.start env) t).outcome ∧
    (evaluateOn (.start env) s).env = (evaluateOn (.start env) t).env
  rw [hevaluate]
  exact ⟨rfl, rfl⟩

/-- Parentheses around an operand, in a line that uses `neg` and does not
negate. -/
theorem evaluate_eq_of_texts_eq_parenthesized :
    (evaluate "a - neg" oneAndTwo).outcome = .ok (-1) ∧
      (evaluate "a - neg" oneAndTwo).outcome = (evaluate "(a) - neg" oneAndTwo).outcome ∧
      (evaluate "a - neg" oneAndTwo).env = (evaluate "(a) - neg" oneAndTwo).env := by
  obtain ⟨l, hl, hprogram⟩ := exists_listing "a - neg"
    [.push (.name "a"), pushNeg, .apply (.arithmetic .sub)] (by decide +kernel)
  obtain ⟨m, hm, hprogram'⟩ := exists_listing "(a) - neg"
    [.push (.name "a"), pushNeg, .apply (.arithmetic .sub)] (by decide +kernel)
  have htexts : l.texts = m.texts := by
    rw [Listing.texts, Listing.texts, hprogram, hprogram']
  have hneg : ¬(pushNeg ∈ l.instructions.toList ∧
      .apply .negate ∈ l.instructions.toList) := by
    rw [hprogram]
    decide
  exact ⟨by decide +kernel, evaluate_eq_of_texts_eq hl hm htexts hneg oneAndTwo⟩

end Abacus
