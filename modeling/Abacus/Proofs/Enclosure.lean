import Abacus.Proofs.Refusal

/-!
# What is enclosed is read by itself

Between an opener and its closer an expression is read as it would be on a line
of its own. The opener keeps every operator of it from what lies below, whatever
that is, and the closer carries out all that the expression left pending before
it takes the opener away (`Parser.forM_feed_enclosed`). What the expression sends
is its postorder, and one operand is left of it.

A group in parentheses is therefore one finished operand, in every state in which
an operand is awaited. Between a `?` and its `:` the same is true above the `?`.
The `?` itself carries out the operators before it that bind tighter than a
choice, and the `:` puts a choice in its place.

These are statements about trees and their tokens. For a text that can be listed
by itself they say that it adds its own listing to whatever stands there already
(`enclosed_listed_alone`).
-/

namespace Abacus

/-- An expression leaves one operand. -/
theorem Listing.depth_extend_postorder (l : Listing) (a : Expr) :
    (l.extend a.postorder).depth = l.depth + 1 := by
  have happly (l : Listing) (op : Operation) :
      (l.extend [.apply op]).depth = l.depth - (op.arity - 1) := rfl
  induction a generalizing l with
  | operand x => rfl
  | unary op h a iha =>
    rw [Expr.postorder, extend_append, happly, iha, h]
    omega
  | binary op h a b iha ihb =>
    rw [Expr.postorder, extend_append, extend_append, happly, ihb, iha, h]
    omega
  | ternary op h a b c iha ihb ihc =>
    rw [Expr.postorder, extend_append, extend_append, extend_append, happly, ihc, ihb,
      iha, h]
    omega

namespace Parser

section Feed

variable {μ : Type} [Machine μ] {p : Parser μ}

theorem feed_of_operand (hp : p.awaiting = .operand) (t : Token) :
    feed t p = acceptOperand t { p with started := true } := by
  obtain ⟨machine, pending, awaiting, started⟩ := p
  obtain rfl : awaiting = .operand := hp
  rfl

theorem feed_of_operator (hp : p.awaiting = .operator) (t : Token) :
    feed t p = acceptOperator t { p with started := true } := by
  obtain ⟨machine, pending, awaiting, started⟩ := p
  obtain rfl : awaiting = .operator := hp
  rfl

end Feed

section Enclosed

variable {e : Tree} (he : Derives .assignment e)
  (hts : ∀ t ∈ e.tokens, t.IsDecimal ∧ t.FitsWord)

include he hts

/-- **An expression and its closer, above the opener.** The instructions of the
expression are sent and the opener is gone; what lies below was not touched. From
there the closer goes on with what else it has to do. -/
theorem forM_feed_enclosed {closer : Token} {o : Opener}
    {after : Step (Parser Listing) Unit}
    (hcloser : (acceptOperator closer : Step (Parser Listing) Unit)
      = (do close o closer; after))
    (l : Listing) (pos : Int) (pending : List Pending) :
    ((e.tokens ++ [closer]).forM feed : Step (Parser Listing) Unit)
        ⟨l, .opener o pos :: pending, .operand, true⟩
      = after ⟨l.extend e.expr.postorder, pending, .operator, true⟩ := by
  -- no operator of the expression reaches below the opener
  let base : Parser Listing := ⟨l, .opener o pos :: pending, .operand, true⟩
  have hclosed : Closed base.pending := by
    rintro _ ⟨⟩
    rfl
  have hl : Level.assignment ≤ hole [] := Nat.le_refl _
  obtain ⟨fs, e', h⟩ := reaches_of_derives he hl fun t ht => (hts t ht).2
  have hbody := forM_feed_of_readsAll hclosed h.reads fun t ht => (hts t ht).1
  -- all that is still pending in the expression is carried out by the closer
  have hs : Abacus.settle groupLimit fs e' = ([], e) := h.settle_eq _ (by decide)
  have hclose : feed closer (Reading.onto ⟨fs, some e'⟩ base)
      = after ⟨l.extend e.expr.postorder, pending, .operator, true⟩ := by
    rw [feed_operator, hcloser,
      Step.bind_of_ok (close_of_settle (settle_onto hclosed hs) rfl)]
    rfl
  have hlast : ([closer].forM feed : Step (Parser Listing) Unit) = feed closer :=
    bind_pure_unit
  rw [forM_feed_append, hlast, ← hclose]
  exact Step.bind_of_ok hbody

/-- **A group is read as one operand**, above whatever is pending: the instructions of
what it encloses are sent, and the rest is as it was. -/
theorem forM_feed_group {l r : Token} (hl : l.kind = .openParen) (hr : r.kind = .closeParen)
    {p : Parser Listing} (hp : p.awaiting = .operand) :
    ((l :: (e.tokens ++ [r])).forM feed : Step (Parser Listing) Unit) p
      = .ok () ⟨p.machine.extend e.expr.postorder, p.pending, .operator, true⟩ := by
  have hopen : feed l p
      = .ok () ⟨p.machine, .opener .paren l.pos :: p.pending, .operand, true⟩ := by
    rw [feed_of_operand hp, acceptOperand_openParen hl, ← hp]
    rfl
  have hcloser : (acceptOperator r : Step (Parser Listing) Unit)
      = (do close .paren r; pure ()) := by
    rw [acceptOperator_closeParen hr, bind_pure_unit]
  exact (Step.bind_of_ok hopen).trans (forM_feed_enclosed he hts hcloser _ _ _)

/-- **What stands between a `?` and its `:`** is one more operand, and the choice
takes the place of the `?`. -/
theorem forM_feed_chosen {k : Token} (hk : k.kind = .colon) (l : Listing) (pos : Int)
    (pending : List Pending) :
    ((e.tokens ++ [k]).forM feed : Step (Parser Listing) Unit)
        ⟨l, .opener .question pos :: pending, .operand, true⟩
      = .ok () ⟨l.extend e.expr.postorder, .operator .choose k.pos :: pending, .operand,
          true⟩ :=
  forM_feed_enclosed he hts (acceptOperator_colon hk) l pos pending

end Enclosed

/-- **A `?` carries out what binds tighter than a choice**, and waits above the
rest. -/
theorem feed_question {q : Token} (hq : q.kind = .question) {p : Parser Listing}
    (hp : p.awaiting = .operator) :
    feed q p = .ok ()
      ⟨p.machine.extend (((p.pending.takeWhile (Pending.tighterThan .conditional)).filterMap
          Pending.operation?).map .apply),
        .opener .question q.pos :: p.pending.dropWhile (Pending.tighterThan .conditional),
        .operand, true⟩ := by
  have hlimit : Precedence.conditional.rank = Precedence.conditional.rank - 1 + 1 := rfl
  rw [feed_of_operator hp, acceptOperator_question hq,
    Step.bind_of_ok (settle_tighter hlimit _)]
  rfl

end Parser

/-- **What is enclosed is listed as it is by itself.** Let `source` be a line that can
be listed and is not empty. In every state of a parse in which an operand is awaited,
its tokens in parentheses are taken, its listing is added to what was written down,
there is one operand more, and what is pending stays as it was. In every state in
which an operator is awaited, a `?` writes down the operators that it carries out; its
tokens and a `:` behind that add its listing to this, and of what the `?` left pending
nothing is changed, but for the choice that now stands on it. -/
theorem enclosed_listed_alone {source : String} {listed : Listing}
    (h : listing source = .ok listed) (hne : listed.texts ≠ []) :
    (∀ (l r : Token) (p : Parser Listing), l.kind = .openParen → r.kind = .closeParen →
        p.awaiting = .operand →
        ∃ p', ((l :: ((Scan.ofString source).tokens ++ [r])).forM Parser.feed :
            Step (Parser Listing) Unit) p = .ok () p' ∧
          p'.machine.texts = p.machine.texts ++ listed.texts ∧
          p'.machine.depth = p.machine.depth + 1 ∧
          p'.pending = p.pending ∧ p'.awaiting = .operator) ∧
      ∀ (q k : Token) (p : Parser Listing), q.kind = .question → k.kind = .colon →
        p.awaiting = .operator →
        ∃ p₁ p', Parser.feed q p = .ok () p₁ ∧
          (((Scan.ofString source).tokens ++ [k]).forM Parser.feed :
            Step (Parser Listing) Unit) p₁ = .ok () p' ∧
          p₁.machine.texts = p.machine.texts
            ++ ((p.pending.takeWhile (Pending.tighterThan .conditional)).filterMap
                Pending.operation?).map Operation.code ∧
          p'.machine.texts = p₁.machine.texts ++ listed.texts ∧
          p'.machine.depth = p₁.machine.depth + 1 ∧
          p'.pending = .operator .choose k.pos
            :: p.pending.dropWhile (Pending.tighterThan .conditional) ∧
          p'.awaiting = .operand := by
  obtain ⟨e, he, hscan, hts, hpost⟩ := exists_derives_of_listing h hne
  have htokens : (Scan.ofString source).tokens = e.tokens := congrArg Scan.tokens hscan
  have htexts (l : Listing) : (l.extend e.expr.postorder).texts = l.texts ++ listed.texts := by
    rw [Listing.texts_extend, ← hpost]
    rfl
  rw [htokens]
  refine ⟨fun l r p hl hr hp => ?_, fun q k p hq hk hp => ?_⟩
  · exact ⟨_, Parser.forM_feed_group he hts hl hr hp, htexts _,
      Listing.depth_extend_postorder _ _, rfl, rfl⟩
  · exact ⟨_, _, Parser.feed_question hq hp, Parser.forM_feed_chosen he hts hk _ _ _,
      Listing.texts_extend_apply _ _, htexts _, Listing.depth_extend_postorder _ _, rfl, rfl⟩

/-- A choice with an assignment in it, which binds looser than the signs around it. In
parentheses it leaves the three operators that wait for it as they are. Of three others a
`?` carries out the sum and the product, and the assignment stays below the choice. -/
theorem enclosed_listed_alone_choice :
    let tokens := (Scan.ofString "x ? y = 2 : z++").tokens
    let texts := ["x", "y", "2", "=", "z", "x++", "?:"]
    let l : Token := ⟨.openParen, "(", 9⟩
    let r : Token := ⟨.closeParen, ")", 25⟩
    let q : Token := ⟨.question, "?", 14⟩
    let k : Token := ⟨.colon, ":", 30⟩
    let p := (Parser.start Listing.empty).attempt (Scan.ofString "b = c * -").tokens
    let s := (Parser.start Listing.empty).attempt (Scan.ofString "b = c + d * e").tokens
    (∃ p', ((l :: (tokens ++ [r])).forM Parser.feed : Step (Parser Listing) Unit) p
          = .ok () p' ∧
        p'.machine.texts = ["b", "c"] ++ texts ∧
        p'.pending.map Pending.text = ["neg", "*", "="]) ∧
      ∃ s₁ s', Parser.feed q s = .ok () s₁ ∧
        ((tokens ++ [k]).forM Parser.feed : Step (Parser Listing) Unit) s₁ = .ok () s' ∧
        s'.machine.texts = ["b", "c", "d", "e", "*", "+"] ++ texts ∧
        s'.pending.map Pending.text = ["?:", "="] := by
  intro tokens texts l r q k p s
  obtain ⟨listed, hlisting, hprogram⟩ := exists_listing "x ? y = 2 : z++"
    [.push (.name "x"), .push (.name "y"), .push (.literal 2), .apply .assign,
      .push (.name "z"), .apply (.stepAfter .up), .apply .choose] (by decide +kernel)
  have htexts : listed.texts = texts := by
    rw [Listing.texts, hprogram]
    decide
  have hne : listed.texts ≠ [] := by
    rw [htexts]
    exact List.cons_ne_nil _ _
  obtain ⟨hgroup, hchoice⟩ := enclosed_listed_alone hlisting hne
  obtain ⟨p', hfeed, hp', -, hpending, -⟩ := hgroup l r p rfl rfl (by decide +kernel)
  obtain ⟨s₁, s', hfeed₁, hfeed', hs₁, hs', -, hpending', -⟩ :=
    hchoice q k s rfl rfl (by decide +kernel)
  refine ⟨⟨p', hfeed, ?_, ?_⟩, s₁, s', hfeed₁, hfeed', ?_, ?_⟩
  · rw [hp', htexts]
    decide +kernel
  · rw [hpending]
    decide +kernel
  · rw [hs', hs₁, htexts]
    decide +kernel
  · rw [hpending']
    decide +kernel

end Abacus
