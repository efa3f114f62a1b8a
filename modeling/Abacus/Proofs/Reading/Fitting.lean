import Abacus.Proofs.Reading

/-!
# Readings that fit the grammar

A reading is made of tokens as they come, and nothing about it says that the
trees in it are derivations. This module shows that they are, and that every
derivation is reached.

What the parser does with ranks, the grammar does with levels. Above a frame
a tree of one level may be built (`Precedence.right`), and the rank of an
arriving operator is compared with those of the entries for one purpose: to
find the frame above which a node of the operator may stand
(`Precedence.level_le_right_iff`). Everything else follows from this.

* *Soundness.* In the readings of a line every frame fits above the one
  below, and the operand above them is of the tightest levels
  (`Reading.Fits`). Settling keeps the frames fitting and builds a tree of
  the level that the next token asks for (`fits_settle`).
* *Completeness.* The tokens of a derivation, read above any frame where the
  derivation may stand, lead to a reading that settles as if the derivation
  stood there in one piece (`reaches_of_derives`).
-/

namespace Abacus

/-! ## The levels of a class -/

namespace Precedence

/-- The level of the nodes that the operators of a class make. An opener
makes none; when it is closed it is part of a group. -/
def level : Precedence → Level
  | .opener => .primary
  | .stepAfter => .stepped
  | .unary => .unary
  | .multiplicative => .multiplicative
  | .additive => .additive
  | .relational => .relational
  | .equality => .equality
  | .conditional => .conditional
  | .assignment => .assignment

/-- The level of what stands to the left of an operator between operands. -/
def left : Precedence → Level
  | .conditional => .equality
  | .assignment => .conditional
  | p => p.level

/-- The level of what stands to the right of an operator. Behind an opener
any expression may stand, and behind a step that follows its operand
nothing. -/
def right : Precedence → Level
  | .stepAfter => .primary
  | .unary | .multiplicative => .unary
  | .additive => .multiplicative
  | .relational => .additive
  | .equality => .relational
  | .conditional => .conditional
  | .assignment | .opener => .assignment

/-- The classes whose operators stand between operands. -/
def IsInfix : Precedence → Prop
  | .opener | .stepAfter | .unary => False
  | _ => True

theorem level_injective {p q : Precedence} (h : p.level = q.level) : p = q := by
  cases p <;> cases q <;> first | rfl | nomatch h

theorem height_level {p : Precedence} (h : p ≠ .opener) :
    p.level.height = p.rank + 1 := by
  cases p <;> first | rfl | exact absurd rfl h

/-- The reach of a class is what its left operand is made of. -/
theorem height_left {p : Precedence} (h : p.IsInfix) :
    p.left.height = p.reach + 1 := by
  cases p <;> first | rfl | exact h.elim

/-- **Ranks and levels agree.** A node of the class `p` may stand to the
right of an operator exactly if that operator waits when one of the class
`p` arrives. -/
theorem level_le_right_iff {p q : Precedence} (h : p.IsInfix) :
    p.level ≤ q.right ↔ p.reach < q.rank := by
  cases p <;> first | exact h.elim | (cases q <;> decide)

theorem right_le_level {p : Precedence} (h : p.IsInfix) : p.right ≤ p.level := by
  cases p <;> first | exact h.elim | decide

theorem not_level_le_stepped {p : Precedence} (h : p.IsInfix) :
    ¬p.level ≤ .stepped := by
  cases p <;> first | exact h.elim | decide

theorem eq_opener_of_lt {p : Precedence} (h : Parser.groupLimit < p.rank) :
    p = .opener := by
  cases p <;> first | rfl | exact absurd h (by decide)

/-- A chain has nodes of its own class to the left of an operator, and of
the next tighter to the right. -/
theorem levels_of_isChain {p : Precedence} (h : p.level.IsChain) :
    p.left = p.level ∧ p.level.tighter? = some p.right := by
  cases p <;> first | exact ⟨rfl, rfl⟩ | exact h.elim

end Precedence

theorem Level.le_assignment (l : Level) : l ≤ .assignment := by
  cases l <;> decide

/-! ## The operators of a level -/

namespace Operation

variable {k : Token.Kind} {op : Operation}

theorem before?_eq (k : Token.Kind) : before? k = Level.unary.operator? k := by
  cases k <;> rfl

theorem after?_eq (k : Token.Kind) : after? k = Level.stepped.operator? k := by
  cases k <;> rfl

/-- An operator stands in the row of its own class. -/
theorem level_of_operator? {l : Level} (h : l.operator? k = some op) :
    op.precedence.level = l := by
  cases l <;> cases k <;>
    simp only [Level.operator?, reduceCtorEq, Option.some.injEq] at h <;>
    subst h <;> rfl

theorem precedence_of_unary (h : Level.unary.operator? k = some op) :
    op.precedence = .unary :=
  Precedence.level_injective (level_of_operator? h)

theorem isInfix_precedence (h : op.arity = 2) : op.precedence.IsInfix := by
  rcases op with _ | _ | _ | (_ | _ | _ | _) | (_ | _ | _ | _ | _ | _) | _ | _ | _ <;>
    first | trivial | nomatch h

/-- An operator reaches no opener. -/
theorem reach_le_groupLimit (op : Operation) :
    op.precedence.reach ≤ Parser.groupLimit := by
  cases h : op.precedence with
  | opener => exact absurd h op.precedence_ne_opener
  | _ => decide

theorem operator?_of_between? (h : op.arity = 2) (hk : between? k = some op) :
    op.precedence.level.operator? k = some op := by
  cases k <;> simp only [between?, reduceCtorEq, Option.some.injEq] at hk <;>
    subst hk <;> first | rfl | exact absurd h (by decide)

theorem between?_of_operator? (h : op.arity = 2)
    (hk : op.precedence.level.operator? k = some op) :
    after? k = none ∧ between? k = some op := by
  generalize op.precedence.level = l at hk
  cases l <;> cases k <;>
    simp only [Level.operator?, reduceCtorEq, Option.some.injEq] at hk <;>
    subst hk <;> first | exact ⟨rfl, rfl⟩ | exact absurd h (by decide)

end Operation

/-- An operator between operands makes a node of its class from what its
class takes to the left and to the right. -/
theorem Derives.between {a b : Tree} {t : Token} {op : Operation}
    {h : op.arity = 2} (ha : Derives op.precedence.left a)
    (ht : op.precedence.level.operator? t.kind = some op)
    (hb : Derives op.precedence.right b) :
    Derives op.precedence.level (.between a t op h b) := by
  have hp := Operation.isInfix_precedence h
  generalize op.precedence = p at ha ht hb hp
  cases p with
  | opener | stepAfter | unary => exact hp.elim
  | conditional => exact absurd ht (by cases t.kind <;> exact nofun)
  | assignment => exact .assign ha ht hb
  | multiplicative | additive | relational | equality =>
    exact .chain trivial rfl ha ht hb

/-! ## Frames that fit -/

/-- The level of what may be built above a stack of frames. -/
def hole : List Frame → Level
  | [] => .assignment
  | f :: _ => f.entry.precedence.right

/-- **A frame that fits** where a tree of the level `m` may be built: its
complete parts are derived as the grammar has it, and so is its node once it
has its last operand. -/
inductive Frame.Fits (m : Level) : Frame → Prop
  | group {l : Token} : l.kind = .openParen → Fits m (.group l)
  | question {c : Tree} {q : Token} :
      Derives .equality c → q.kind = .question → .conditional ≤ m →
      Fits m (.question c q)
  | before {t : Token} {op : Operation} {h : op.arity = 1} :
      Level.unary.operator? t.kind = some op → .unary ≤ m →
      Fits m (.before t op h)
  | between {a : Tree} {t : Token} {op : Operation} {h : op.arity = 2} :
      Derives op.precedence.left a →
      op.precedence.level.operator? t.kind = some op →
      op.precedence.level ≤ m → Fits m (.between a t op h)
  | choose {c a : Tree} {q k : Token} :
      Derives .equality c → q.kind = .question → Derives .assignment a →
      k.kind = .colon → .conditional ≤ m → Fits m (.choose c q a k)

/-- A stack of frames each of which fits above the one below. -/
def FramesFit : List Frame → Prop
  | [] => True
  | f :: fs => f.Fits (hole fs) ∧ FramesFit fs

/-- **A reading that fits**: so do its frames, and its operand can take a
step after it. -/
structure Reading.Fits (r : Reading) : Prop where
  frames : FramesFit r.frames
  operand : ∀ e ∈ r.operand?, Derives .stepped e

/-! ## Soundness -/

/-- The node of a fitting frame is derived from the level of its class. -/
theorem Frame.Fits.plug {m : Level} {f : Frame} {e e' : Tree} (hf : f.Fits m)
    (he : Derives f.entry.precedence.right e) (h : f.plug? e = some e') :
    ∃ l, Derives l e' ∧ l ≤ m ∧ l.height = f.entry.precedence.rank + 1 := by
  cases hf with
  | group | question => nomatch h
  | before ht hm =>
    obtain rfl := Option.some.inj h
    have hp := Operation.precedence_of_unary ht
    rw [Frame.entry, Pending.precedence, hp] at he ⊢
    exact ⟨_, .before ht he, hm, rfl⟩
  | between ha ht hm =>
    obtain rfl := Option.some.inj h
    exact ⟨_, .between ha ht he, hm,
      Precedence.height_level (Operation.precedence_ne_opener _)⟩
  | choose hc hq ha hk hm =>
    obtain rfl := Option.some.inj h
    exact ⟨_, .choose hc hq ha hk he, hm, rfl⟩

/-- An operand that takes a sign or a step may stand anywhere. -/
theorem unary_le_hole {fs : List Frame} (h : FramesFit fs) :
    .unary ≤ hole fs := by
  rcases fs with _ | ⟨f, fs⟩
  · exact Level.le_assignment _
  · show Level.unary ≤ f.entry.precedence.right
    cases h.1 with
    | group | question => exact Level.le_assignment _
    | before ht =>
      rw [Frame.entry, Pending.precedence, Operation.precedence_of_unary ht]
      exact Nat.le_refl _
    | choose => exact show 2 ≤ 7 by decide
    | @between _ _ op hop =>
      show Level.unary ≤ op.precedence.right
      have hp := Operation.isInfix_precedence hop
      generalize op.precedence = p at hp
      cases p <;> first | exact hp.elim | decide

theorem stepped_le_hole {fs : List Frame} (h : FramesFit fs) :
    .stepped ≤ hole fs :=
  Nat.le_trans (by decide) (unary_le_hole h)

/-- **What settling builds.** The frames that are left fit, and no operator
in reach is among them; the tree fits above them and is of the loosest level
carried out, unless the operand was looser from the start. -/
theorem fits_settle {limit : Nat} (hlimit : limit ≤ Parser.groupLimit)
    {fs fs' : List Frame} {e e' : Tree} {l : Level} (hfs : FramesFit fs)
    (he : Derives l e) (hl : l ≤ hole fs)
    (h : settle limit fs e = (fs', e')) :
    FramesFit fs' ∧ (∀ f ∈ fs'.head?, limit < f.entry.precedence.rank) ∧
      ∃ l', Derives l' e' ∧ l' ≤ hole fs' ∧
        l'.height ≤ max l.height (limit + 1) := by
  fun_induction settle limit fs e generalizing l with
  | case1 e =>
    obtain ⟨rfl, rfl⟩ := Prod.mk.inj h
    refine ⟨trivial, ?_, l, he, hl, Nat.le_max_left _ _⟩
    rintro f ⟨⟩
  | case2 f fs e e₁ hf hle ih =>
    -- the node takes the place of its last operand, one frame further down
    obtain ⟨l₁, he₁, hl₁, hheight⟩ := hfs.1.plug (he.mono hl) hf
    obtain ⟨hfs', hhead, l', he', hl', hmax⟩ := ih hfs.2 he₁ hl₁ h
    refine ⟨hfs', hhead, l', he', hl', ?_⟩
    omega
  | case3 f fs e e₁ hf hle =>
    obtain ⟨rfl, rfl⟩ := Prod.mk.inj h
    refine ⟨hfs, ?_, l, he, hl, Nat.le_max_left _ _⟩
    rintro _ ⟨⟩
    exact Nat.lt_of_not_le hle
  | case4 f fs e hf =>
    obtain ⟨rfl, rfl⟩ := Prod.mk.inj h
    obtain ⟨o, pos, hentry⟩ := Frame.isOpener_of_plug?_eq_none hf
    refine ⟨hfs, ?_, l, he, hl, Nat.le_max_left _ _⟩
    rintro _ ⟨⟩
    rw [hentry]
    show limit < Precedence.opener.rank
    exact Nat.lt_of_le_of_lt hlimit (by decide)

/-- Where the operators in reach are carried out, a node of the class may
stand. -/
theorem level_le_hole {p : Precedence} (hp : p.IsInfix) {fs : List Frame}
    (h : ∀ f ∈ fs.head?, p.reach < f.entry.precedence.rank) :
    p.level ≤ hole fs := by
  rcases fs with _ | ⟨f, fs⟩
  · exact Level.le_assignment _
  · exact (Precedence.level_le_right_iff hp).mpr (h f rfl)

/-- What is settled when an operator between operands arrives is its left
operand. -/
theorem fits_settle_reach {p : Precedence} (hp : p.IsInfix)
    {fs fs' : List Frame} {e e' : Tree} (h : Reading.Fits ⟨fs, some e⟩)
    (hs : settle p.reach fs e = (fs', e')) :
    FramesFit fs' ∧ Derives p.left e' ∧ p.level ≤ hole fs' := by
  have hreach : 1 ≤ p.reach ∧ p.reach ≤ Parser.groupLimit := by
    cases p <;> first | exact hp.elim | decide
  obtain ⟨hfs', hhead, l', he', -, hmax⟩ :=
    fits_settle hreach.2 h.frames (h.operand e rfl)
      (stepped_le_hole h.frames) hs
  refine ⟨hfs', he'.mono ?_, level_le_hole hp hhead⟩
  show l'.height ≤ p.left.height
  rw [Precedence.height_left hp]
  have : Level.stepped.height = 1 := rfl
  omega

/-- What is settled when a group is closed is an expression, and an opener
stops it, if anything does. -/
theorem fits_settle_group {fs fs' : List Frame} {e e' : Tree}
    (h : Reading.Fits ⟨fs, some e⟩)
    (hs : settle Parser.groupLimit fs e = (fs', e')) :
    FramesFit fs' ∧ Derives .assignment e' ∧
      ∀ f ∈ fs'.head?, f.entry.precedence = .opener := by
  obtain ⟨hfs', hhead, l', he', -, -⟩ :=
    fits_settle (Nat.le_refl _) h.frames (h.operand e rfl)
      (stepped_le_hole h.frames) hs
  exact ⟨hfs', he'.mono (Level.le_assignment l'),
    fun f hf => Precedence.eq_opener_of_lt (hhead f hf)⟩

namespace Reading.Fits

variable {fs : List Frame} {f : Frame} {e : Tree}

/-- A finished operand above frames that fit. -/
theorem of_operand (hfs : FramesFit fs) (he : Derives .stepped e) :
    Reading.Fits ⟨fs, some e⟩ := by
  refine ⟨hfs, ?_⟩
  rintro _ ⟨⟩
  exact he

/-- A frame that has just been opened. -/
theorem of_frame (hf : f.Fits (hole fs)) (hfs : FramesFit fs) :
    Reading.Fits ⟨f :: fs, none⟩ := by
  refine ⟨⟨hf, hfs⟩, ?_⟩
  rintro _ ⟨⟩

end Reading.Fits

/-- **A token leads from one fitting reading to the next.** -/
theorem Reads.fits {r r' : Reading} {t : Token} (h : Reads r t r')
    (hr : r.Fits) : r'.Fits := by
  cases h with
  | number hk _ => exact .of_operand hr.frames (.tighter rfl (.number hk))
  | name hk => exact .of_operand hr.frames (.tighter rfl (.name hk))
  | group hk => exact .of_frame (.group hk) hr.frames
  | before hk =>
    rw [Operation.before?_eq] at hk
    exact .of_frame (.before hk (unary_le_hole hr.frames)) hr.frames
  | close hk hs =>
    obtain ⟨⟨hl, hfs⟩, he, -⟩ := fits_settle_group hr hs
    cases hl with
    | group hl => exact .of_operand hfs (.tighter rfl (.group hl he hk))
  | after hk =>
    rw [Operation.after?_eq] at hk
    exact .of_operand hr.frames (.after (hr.operand _ rfl) hk)
  | question hk hs =>
    obtain ⟨hfs, hc, hl⟩ :=
      fits_settle_reach (p := .conditional) trivial hr hs
    exact .of_frame (.question hc hk hl) hfs
  | colon hk hs =>
    obtain ⟨⟨hq, hfs⟩, ha, -⟩ := fits_settle_group hr hs
    cases hq with
    | question hc hq hl => exact .of_frame (.choose hc hq ha hk hl) hfs
  | @between _ _ _ _ _ op h _ hk hs =>
    obtain ⟨hfs, ha, hl⟩ :=
      fits_settle_reach (Operation.isInfix_precedence h) hr hs
    have ht := Operation.operator?_of_between? h hk
    exact .of_frame (.between ha ht hl) hfs

theorem ReadsAll.fits {r r' : Reading} {ts : List Token}
    (h : ReadsAll r ts r') (hr : r.Fits) : r'.Fits := by
  induction h with
  | nil => exact hr
  | cons ht _ ih => exact ih (ht.fits hr)

/-- The tokens of a reading are those that were read. -/
theorem Reads.tokens_eq {r r' : Reading} {t : Token} (h : Reads r t r') :
    r'.tokens = r.tokens ++ [t] := by
  cases h with
  | number | name | group | before | after =>
    simp [Reading.tokens, framesTokens, Frame.tokens, Tree.tokens]
  | close _ hs | question _ hs | colon _ hs | between _ _ hs =>
    have htokens := tokens_settle hs
    show _ = framesTokens _ ++ Tree.tokens _ ++ _
    rw [← htokens]
    simp [Reading.tokens, framesTokens, Frame.tokens, Tree.tokens]

theorem ReadsAll.tokens_eq {r r' : Reading} {ts : List Token}
    (h : ReadsAll r ts r') : r'.tokens = r.tokens ++ ts := by
  induction h with
  | nil => exact (List.append_nil _).symm
  | cons ht _ ih => rw [ih, ht.tokens_eq, List.append_assoc, List.singleton_append]

theorem Reads.fitsWord {r r' : Reading} {t : Token} (h : Reads r t r') :
    t.FitsWord := by
  intro hk
  cases h with
  | number _ hfit => exact hfit
  | _ => simp_all [Operation.before?, Operation.after?, Operation.between?]

theorem ReadsAll.fitsWord {r r' : Reading} {ts : List Token}
    (h : ReadsAll r ts r') : ∀ t ∈ ts, t.FitsWord := by
  induction h with
  | nil => exact List.forall_mem_nil _
  | cons ht _ ih => exact List.forall_mem_cons.mpr ⟨ht.fitsWord, ih⟩

/-! ## Completeness -/

/-- **How a derivation is reached.** Read above the frames `fs`, the tokens
of the tree `e` lead to the frames `fs'` and the operand `e'`. From there on
it makes no difference whether these are on the stack or `e` itself, since
what is carried out next are the operators of `e`; and of the tightest
levels, where none is waiting, it is `e` itself. -/
structure Reaches (fs : List Frame) (l : Level) (e : Tree)
    (fs' : List Frame) (e' : Tree) : Prop where
  reads : ReadsAll ⟨fs, none⟩ e.tokens ⟨fs', some e'⟩
  settle_eq : ∀ limit, l.height ≤ limit + 1 →
    settle limit fs' e' = settle limit fs e
  eq : l ≤ .stepped → fs' = fs ∧ e' = e

namespace Reaches

variable {fs fs' fs₁ : List Frame} {l m : Level} {a b e e' e₁ : Tree}

/-- What is read in one piece. -/
theorem of_reads (h : ReadsAll ⟨fs, none⟩ e.tokens ⟨fs, some e⟩) :
    Reaches fs l e fs e :=
  ⟨h, fun _ _ => rfl, fun _ => ⟨rfl, rfl⟩⟩

theorem mono (hlm : l ≤ m) (h : Reaches fs l e fs' e') :
    Reaches fs m e fs' e' :=
  ⟨h.reads, fun k hk => h.settle_eq k (Nat.le_trans hlm hk),
    fun hm => h.eq (Nat.le_trans hlm hm)⟩

/-- The last operand of a node is read above the node's frame. Once its
operators are carried out, so is that of the frame. -/
theorem plug {f : Frame} {ts : List Token}
    (hf : ReadsAll ⟨fs, none⟩ ts ⟨f :: fs, none⟩)
    (h : Reaches (f :: fs) m e₁ fs' e') (he : f.plug? e₁ = some e)
    (htokens : e.tokens = ts ++ e₁.tokens) (hml : m ≤ l)
    (hl : l.height = f.entry.precedence.rank + 1)
    (hstepped : ¬l ≤ .stepped) : Reaches fs l e fs' e' := by
  refine ⟨htokens ▸ hf.append h.reads, fun k hk => ?_, fun hl => absurd hl hstepped⟩
  rw [h.settle_eq k (Nat.le_trans hml hk), settle_of_le he]
  omega

end Reaches

/-- Where a node of a class may stand, an operator of the class carries
nothing out. -/
theorem settle_of_level_le {p : Precedence} (hp : p.IsInfix)
    {fs : List Frame} (h : p.level ≤ hole fs) (e : Tree) :
    settle p.reach fs e = (fs, e) := by
  rcases fs with _ | ⟨f, fs⟩
  · rfl
  · have hlt := (Precedence.level_le_right_iff hp).mp h
    cases hf : f.plug? e with
    | none => exact settle_of_plug?_eq_none hf
    | some e' => exact settle_of_not_le hf (Nat.not_le_of_lt hlt)

/-- What reaches the left operand of an operator is settled to it when the
operator arrives. -/
theorem Reaches.settle_left {p : Precedence} (hp : p.IsInfix)
    {fs fs' : List Frame} {e e' : Tree} (h : Reaches fs p.left e fs' e')
    (hl : p.level ≤ hole fs) : settle p.reach fs' e' = (fs, e) := by
  rw [h.settle_eq p.reach (Nat.le_of_eq (Precedence.height_left hp)),
    settle_of_level_le hp hl]

/-- An operator between operands that were reached. -/
theorem Reaches.between {p : Precedence} {op : Operation} {hop : op.arity = 2}
    {t : Token} {fs fs₁ fs' : List Frame} {a a₁ b e' : Tree}
    (hp : op.precedence = p) (ha : Reaches fs p.left a fs₁ a₁)
    (ht : p.level.operator? t.kind = some op) (hl : p.level ≤ hole fs)
    (hb : Reaches (.between a t op hop :: fs) p.right b fs' e') :
    Reaches fs p.level (.between a t op hop b) fs' e' := by
  subst hp
  have hp := Operation.isInfix_precedence hop
  obtain ⟨hafter, hbetween⟩ := Operation.between?_of_operator? hop ht
  have hs := ha.settle_left hp hl
  have hreads := ha.reads.append (.single (.between (h := hop) hafter hbetween hs))
  refine .plug hreads hb rfl ?_ (Precedence.right_le_level hp) ?_ ?_
  · simp [Tree.tokens]
  · exact Precedence.height_level (Operation.precedence_ne_opener op)
  · exact Precedence.not_level_le_stepped hp

/-- **Every derivation is reached**, above any frame where it may stand. -/
theorem reaches_of_derives {l : Level} {e : Tree} (h : Derives l e)
    {fs : List Frame} (hl : l ≤ hole fs)
    (hwords : ∀ t ∈ e.tokens, t.FitsWord) :
    ∃ fs' e', Reaches fs l e fs' e' := by
  induction h generalizing fs with
  | number hk =>
    have hfit := hwords _ List.mem_cons_self hk
    exact ⟨_, _, .of_reads (.single (.number hk hfit))⟩
  | name hk => exact ⟨_, _, .of_reads (.single (.name hk))⟩
  | @group l r e hopen he hclose ih =>
    simp only [Tree.tokens, List.forall_mem_append, List.forall_mem_cons] at hwords
    have hl' : Level.assignment ≤ hole (.group l :: fs) := Nat.le_refl _
    obtain ⟨fs', e', h⟩ := ih hl' hwords.1.2
    -- the parenthesis keeps every operator inside, and all are carried out
    have hs : settle Parser.groupLimit fs' e' = (.group l :: fs, e) :=
      h.settle_eq _ (by decide)
    exact ⟨_, _, .of_reads (.cons (.group hopen)
      (h.reads.append (.single (.close hclose hs))))⟩
  | after he ht ih =>
    simp only [Tree.tokens, List.forall_mem_append] at hwords
    obtain ⟨fs', e', h⟩ := ih hl hwords.1
    obtain ⟨rfl, rfl⟩ := h.eq (Nat.le_refl _)
    rw [← Operation.after?_eq] at ht
    exact ⟨_, _, .of_reads (h.reads.append (.single (.after ht)))⟩
  | @before e t op hop ht he ih =>
    simp only [Tree.tokens, List.forall_mem_cons] at hwords
    have hp := Operation.precedence_of_unary ht
    have hl' : Level.unary ≤ hole (.before t op hop :: fs) := by
      show Level.unary ≤ op.precedence.right
      rw [hp]
      exact Nat.le_refl _
    obtain ⟨fs', e', h⟩ := ih hl' hwords.2
    rw [← Operation.before?_eq] at ht
    refine ⟨fs', e', .plug (.single (.before ht)) h rfl rfl (Nat.le_refl _) ?_ ?_⟩
    · show _ = op.precedence.rank + 1
      rw [hp]
      rfl
    · decide
  | @chain l m a b t op hop hchain hm ha ht hb iha ihb =>
    simp only [Tree.tokens, List.forall_mem_append, List.forall_mem_cons] at hwords
    obtain ⟨hwordsa, -, hwordsb⟩ := hwords
    obtain rfl := Operation.level_of_operator? ht
    obtain ⟨hleft, hright⟩ := Precedence.levels_of_isChain hchain
    obtain rfl : m = op.precedence.right := Option.some.inj (hm.symm.trans hright)
    obtain ⟨fs₁, a₁, h₁⟩ := iha hl hwordsa
    -- the left operand may be a chain itself, which is carried out first
    have hlb : op.precedence.right ≤ hole (.between a t op hop :: fs) :=
      Nat.le_refl _
    obtain ⟨fs', e', h⟩ := ihb hlb hwordsb
    rw [← hleft] at h₁
    exact ⟨fs', e', h₁.between rfl ht hl h⟩
  | @choose c a b q k hc hq ha hk hb ihc iha ihb =>
    simp only [Tree.tokens, List.forall_mem_append, List.forall_mem_cons] at hwords
    obtain ⟨⟨hwordsc, -, hwordsa⟩, -, hwordsb⟩ := hwords
    obtain ⟨fs₁, c₁, h₁⟩ := ihc (Nat.le_trans (by decide) hl) hwordsc
    have hs₁ : settle Precedence.conditional.reach fs₁ c₁ = (fs, c) :=
      h₁.settle_left (p := .conditional) trivial hl
    have hla : Level.assignment ≤ hole (.question c q :: fs) := Nat.le_refl _
    obtain ⟨fs₂, a₂, h₂⟩ := iha hla hwordsa
    -- so does the `?`, for what stands between it and its `:`
    have hs₂ : settle Parser.groupLimit fs₂ a₂ = (.question c q :: fs, a) :=
      h₂.settle_eq _ (by decide)
    have hlb : Level.conditional ≤ hole (.choose c q a k :: fs) := Nat.le_refl _
    obtain ⟨fs', e', h⟩ := ihb hlb hwordsb
    have hreads := (h₁.reads.append (.cons (.question hq hs₁) h₂.reads)).append
      (.single (.colon hk hs₂))
    refine ⟨fs', e', .plug hreads h rfl ?_ (Nat.le_refl _) rfl (by decide)⟩
    simp [Tree.tokens]
  | @assign a b t op hop ha ht hb iha ihb =>
    simp only [Tree.tokens, List.forall_mem_append, List.forall_mem_cons] at hwords
    obtain ⟨hwordsa, -, hwordsb⟩ := hwords
    have hp : op.precedence = .assignment :=
      Precedence.level_injective (Operation.level_of_operator? ht)
    obtain ⟨fs₁, a₁, h₁⟩ := iha (Nat.le_trans (by decide) hl) hwordsa
    -- the right operand may be an assignment itself, which comes first
    have hlb : Level.assignment ≤ hole (.between a t op hop :: fs) := by
      show Level.assignment ≤ op.precedence.right
      rw [hp]
      exact Nat.le_refl _
    obtain ⟨fs', e', h⟩ := ihb hlb hwordsb
    exact ⟨fs', e', .between hp h₁ ht hl h⟩
  | @tighter l m e hm he ih =>
    have hml : m ≤ l := by
      cases l <;> cases hm <;> decide
    obtain ⟨fs', e', h⟩ := ih (Nat.le_trans hml hl) hwords
    exact ⟨fs', e', h.mono hml⟩

end Abacus
