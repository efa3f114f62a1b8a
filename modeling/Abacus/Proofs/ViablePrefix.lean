import Abacus.Proofs.Refusal

/-!
# A fault is reported at the earliest token

A list of tokens is *viable* if it is the beginning of an expression
(`IsViable`). The parser takes a list of tokens to its end exactly if the
list is viable (`exists_forM_feed_iff`). It therefore refuses a token as soon
as nothing that may follow could help, and never sooner.

Both halves are about readings. What has been read can always be completed:
a missing operand is made up by a number, and the frames are closed one after
the other, an open parenthesis with `)` and a `?` with `:` and one more
operand (`exists_derives_of_framesFit`). And where an expression begins with
what has been read and a token, that token can be read, because a line is
read in one way and the expression is reached.

What is left to the end of the line is to report what is missing: an operand,
or the closer of the opener that was opened last (`unclosed`).
-/

namespace Abacus

/-! ## Viable lists of tokens -/

/-- The tokens of an expression. -/
def IsExpression (ts : List Token) : Prop :=
  ∃ e, Derives .assignment e ∧ e.tokens = ts

/-- **A viable list of tokens**: the beginning of an expression. -/
def IsViable (ts : List Token) : Prop :=
  ∃ rest, IsExpression (ts ++ rest)

namespace Token

/-- The token with a number that fits: one that is too large gives way to
zero. -/
def fitted (t : Token) : Token :=
  if t.FitsWord then t else { t with text := "0" }

variable (t : Token)

theorem kind_fitted : t.fitted.kind = t.kind := by
  unfold fitted
  split <;> rfl

theorem fitsWord_fitted : t.fitted.FitsWord := by
  unfold fitted
  split
  · assumption
  · have hzero : (Literal.decimal "0" : Int) ≤ Word.greatest := by decide
    exact fun _ => hzero

end Token

/-- A list of tokens that fit and are viable can be completed by such as fit:
to the grammar a number that is too large is as good as any. -/
theorem IsViable.exists_fitsWord {ts : List Token} (h : IsViable ts)
    (hts : ∀ t ∈ ts, t.FitsWord) :
    ∃ rest e, Derives .assignment e ∧ e.tokens = ts ++ rest ∧
      ∀ t ∈ e.tokens, t.FitsWord := by
  obtain ⟨rest, e, he, htokens⟩ := h
  have hself : ts.map Token.fitted = ts :=
    (List.map_congr_left fun t ht => if_pos (hts t ht)).trans (List.map_id ts)
  refine ⟨rest.map Token.fitted, e.map Token.fitted, he.map Token.kind_fitted, ?_, ?_⟩
  · rw [Tree.tokens_map, htokens, List.map_append, hself]
  · rw [Tree.tokens_map]
    exact List.forall_mem_map.mpr fun t _ => t.fitsWord_fitted

/-! ## Completing what has been read -/

/-- A number, for an operand that is missing. -/
def zeroToken : Token := ⟨.number, "0", 0⟩

/-- The closer of an open parenthesis. -/
def parenToken : Token := ⟨.closeParen, ")", 0⟩

/-- The closer of a `?`. -/
def colonToken : Token := ⟨.colon, ":", 0⟩

/-- **Frames that fit can be completed.** Each takes the tree above it as its
last operand; an opener is closed first. -/
theorem exists_derives_of_framesFit {fs : List Frame} (hfs : FramesFit fs)
    {l : Level} {e : Tree} (he : Derives l e) (hl : l ≤ hole fs) :
    ∃ rest e', Derives .assignment e' ∧
      e'.tokens = framesTokens fs ++ e.tokens ++ rest := by
  induction fs generalizing l e with
  | nil => exact ⟨[], e, he.mono hl, (List.append_nil _).symm⟩
  | cons f fs ih =>
    obtain ⟨hf, hfs⟩ := hfs
    cases hplug : f.plug? e with
    | some e₁ =>
      obtain ⟨l₁, he₁, hl₁, -⟩ := hf.plug (he.mono hl) hplug
      obtain ⟨rest, e', he', htokens⟩ := ih hfs he₁ hl₁
      refine ⟨rest, e', he', ?_⟩
      rw [htokens, Frame.tokens_of_plug? hplug, framesTokens]
      simp only [List.append_assoc]
    | none =>
      have hassign := he.mono (Level.le_assignment l)
      cases hf with
      | @group t ht =>
        have hgroup : Derives .primary (.group t e parenToken) :=
          .group ht hassign rfl
        obtain ⟨rest, e', he', htokens⟩ := ih hfs hgroup (Nat.zero_le _)
        refine ⟨parenToken :: rest, e', he', ?_⟩
        rw [htokens]
        simp [Tree.tokens, framesTokens, Frame.tokens]
      | @question c q hc hq hm =>
        have hzero : Derives .conditional (.number zeroToken) :=
          .mono (l := .primary) (by decide) (.number rfl)
        have hchoose : Derives .conditional
            (.choose c q e colonToken (.number zeroToken)) :=
          .choose hc hq hassign rfl hzero
        obtain ⟨rest, e', he', htokens⟩ := ih hfs hchoose hm
        refine ⟨colonToken :: zeroToken :: rest, e', he', ?_⟩
        rw [htokens]
        simp [Tree.tokens, framesTokens, Frame.tokens]
      | before | between | choose => cases hplug

/-- **What has been read is viable.** -/
theorem ReadsAll.isViable {r : Reading} {ts : List Token}
    (h : ReadsAll .start ts r) : IsViable ts := by
  have hr : r.Fits := h.fits ⟨trivial, nofun⟩
  have htokens : r.tokens = ts := h.tokens_eq
  obtain ⟨fs, _ | e⟩ := r
  · -- an operand is missing, and a number will do
    have hzero : Derives .primary (.number zeroToken) := .number rfl
    obtain ⟨rest, e', he', htokens'⟩ :=
      exists_derives_of_framesFit hr.frames hzero (Nat.zero_le _)
    refine ⟨zeroToken :: rest, e', he', ?_⟩
    rw [htokens', ← htokens]
    simp [Reading.tokens, Tree.tokens]
  · obtain ⟨rest, e', he', htokens'⟩ :=
      exists_derives_of_framesFit hr.frames (hr.operand e rfl)
        (stepped_le_hole hr.frames)
    refine ⟨rest, e', he', ?_⟩
    rw [htokens', ← htokens]
    rfl

/-! ## Reading what is viable -/

/-- A line that is read has been read at every place in it. -/
theorem ReadsAll.of_append {r r' : Reading} {ts us : List Token}
    (h : ReadsAll r (ts ++ us) r') : ∃ m, ReadsAll r ts m := by
  induction ts generalizing r with
  | nil => exact ⟨r, .nil⟩
  | cons t ts ih =>
    cases h with
    | cons ht h =>
      obtain ⟨m, hm⟩ := ih h
      exact ⟨m, .cons ht hm⟩

/-- **What is viable can be read.** -/
theorem IsViable.exists_readsAll {ts : List Token} (h : IsViable ts)
    (hts : ∀ t ∈ ts, t.FitsWord) : ∃ r, ReadsAll .start ts r := by
  obtain ⟨rest, e, he, htokens, hwords⟩ := h.exists_fitsWord hts
  have hl : Level.assignment ≤ hole [] := Nat.le_refl _
  obtain ⟨fs, e', hreach⟩ := reaches_of_derives he hl hwords
  have hreads := hreach.reads
  rw [htokens] at hreads
  exact hreads.of_append

/-- **The parser takes exactly what is viable.** -/
theorem exists_forM_feed_iff {ts : List Token}
    (hts : ∀ t ∈ ts, t.IsDecimal ∧ t.FitsWord) :
    (∃ p, (ts.forM Parser.feed : Step (Parser Listing) Unit)
        (Parser.start .empty) = .ok () p) ↔ IsViable ts := by
  by_cases hne : ts = []
  · subst hne
    exact ⟨fun _ => ReadsAll.isViable .nil, fun _ => ⟨_, rfl⟩⟩
  · rw [forM_feed_start _ hne]
    constructor
    · rintro ⟨p, hp⟩
      obtain ⟨r, hr, -⟩ :=
        exists_readsAll_of_forM_feed rfl (fun t ht => (hts t ht).1) hp
      exact hr.isViable
    · intro h
      obtain ⟨r, hr⟩ := h.exists_readsAll fun t ht => (hts t ht).2
      exact ⟨_, forM_feed_of_readsAll closed_nil hr fun t ht => (hts t ht).1⟩

/-! ## The openers that are left -/

/-- The openers that are left after a closer. It matches the last one, if
that is of the kind that it closes. -/
def closedBy (k : Token.Kind) : List Token → List Token
  | [] => []
  | o :: opened => if o.kind = k then opened else o :: opened

/-- The openers that are left after one more token, the last one first. -/
def openedBy (opened : List Token) (t : Token) : List Token :=
  match t.kind with
  | .openParen | .question => t :: opened
  | .closeParen => closedBy .openParen opened
  | .colon => closedBy .question opened
  | _ => opened

/-- **The openers of a list of tokens that have no matching closer**, the
last one first. -/
def unclosed (ts : List Token) : List Token :=
  ts.foldl openedBy []

/-- The opener of a frame, if it is one. -/
def Frame.opener? : Frame → Option Token
  | .group l => some l
  | .question _ q => some q
  | .before .. | .between .. | .choose .. => none

/-- The entry of an opener's frame is in its place. -/
theorem Frame.exists_opener? {f : Frame} (h : f.entry.precedence = .opener) :
    ∃ t o, f.opener? = some t ∧ f.entry = .opener o t.pos := by
  cases f with
  | group l => exact ⟨l, .paren, rfl, rfl⟩
  | question c q => exact ⟨q, .question, rfl, rfl⟩
  | before _ op | between _ _ op =>
    exact absurd h (Operation.precedence_ne_opener op)
  | choose => nomatch h

/-- The openers of a stack of frames. -/
def openers (fs : List Frame) : List Token :=
  fs.filterMap Frame.opener?

/-- Settling carries out operators and leaves the openers. -/
theorem openers_settle {limit : Nat} {fs fs' : List Frame} {e e' : Tree}
    (h : settle limit fs e = (fs', e')) : openers fs' = openers fs := by
  fun_induction settle limit fs e with
  | case1 | case3 | case4 =>
    obtain ⟨rfl, rfl⟩ := Prod.mk.inj h
    rfl
  | case2 f fs e e₁ hf hle ih =>
    rw [ih h]
    cases f <;> first | rfl | cases hf

/-- **The openers on the stack are those that are left.** -/
theorem Reads.openers_eq {r r' : Reading} {t : Token} (h : Reads r t r')
    (hr : r.Fits) : openers r'.frames = openedBy (openers r.frames) t := by
  cases h with
  | number hk _ | name hk | group hk => simp only [openedBy, hk] <;> rfl
  | before hk =>
    unfold openedBy
    split <;> simp_all [Operation.before?]
    rfl
  | after hk =>
    unfold openedBy
    split <;> simp_all [Operation.after?]
  | close hk hs =>
    obtain ⟨⟨hl, -⟩, -, -⟩ := fits_settle_group hr hs
    cases hl with
    | group hl =>
      rw [← openers_settle hs, openedBy, hk]
      exact (if_pos hl).symm
  | question hk hs =>
    rw [← openers_settle hs, openedBy, hk]
    rfl
  | colon hk hs =>
    obtain ⟨⟨hq, -⟩, -, -⟩ := fits_settle_group hr hs
    cases hq with
    | question _ hq =>
      rw [← openers_settle hs, openedBy, hk]
      exact (if_pos hq).symm
  | @between _ _ _ _ _ op hop _ hk hs =>
    rw [← openers_settle hs]
    unfold openedBy
    split
    case h_4 hcolon =>
      -- a `:` would make a choice, which is not made of two operands
      rw [hcolon] at hk
      obtain rfl := Option.some.inj hk
      exact absurd hop (by decide)
    case h_5 => rfl
    all_goals simp_all [Operation.between?]

theorem ReadsAll.openers_eq {r r' : Reading} {ts : List Token}
    (h : ReadsAll r ts r') (hr : r.Fits) :
    openers r'.frames = ts.foldl openedBy (openers r.frames) := by
  induction h with
  | nil => rfl
  | cons ht _ ih => rw [ih (ht.fits hr), ht.openers_eq hr, List.foldl_cons]

/-! ## Faults -/

namespace Parser

/-- **The first token to be refused** by a new parse is the one at the place
`k`. -/
def RefusesAt (ts : List Token) (k : Nat) (fault : Fault) : Prop :=
  ∃ t p q, ts[k]? = some t ∧
    (ts.take k).forM feed (start Listing.empty) = .ok () p ∧
    feed t p = .error fault q

theorem forM_feed_concat (ts : List Token) (t : Token) :
    ((ts ++ [t]).forM feed : Step (Parser Listing) Unit)
      = (do ts.forM feed; feed t) := by
  rw [forM_feed_append]
  exact bind_congr fun _ => bind_pure (feed t)

/-- **A token is refused as soon as it makes the line hopeless.** -/
theorem exists_refusesAt_iff {ts : List Token}
    (hts : ∀ t ∈ ts, t.IsDecimal ∧ t.FitsWord) (k : Nat) :
    (∃ fault, RefusesAt ts k fault) ↔
      IsViable (ts.take k) ∧ ¬IsViable (ts.take (k + 1)) := by
  have hviable : ∀ n, (∃ p, (ts.take n).forM feed (start Listing.empty) = .ok () p) ↔
      IsViable (ts.take n) :=
    fun n => exists_forM_feed_iff fun t ht => hts t (List.mem_of_mem_take ht)
  cases ht : ts[k]? with
  | none =>
    -- past the end the list grows no longer
    have hlen : ts.length ≤ k := List.getElem?_eq_none_iff.mp ht
    rw [List.take_of_length_le hlen, List.take_of_length_le (by omega)]
    constructor
    · rintro ⟨fault, t, p, q, hk, -⟩
      rw [ht] at hk
      nomatch hk
    · exact fun h => absurd h.1 h.2
  | some t =>
    have htake : ts.take (k + 1) = ts.take k ++ [t] := by
      rw [List.take_add_one, ht]
      rfl
    rw [← hviable, ← hviable, htake]
    constructor
    · rintro ⟨fault, t', p, q, hk, hp, hq⟩
      obtain rfl : t = t' := Option.some.inj (ht.symm.trans hk)
      refine ⟨⟨p, hp⟩, ?_⟩
      rintro ⟨p', hp'⟩
      rw [forM_feed_concat, Step.bind_of_ok hp, hq] at hp'
      nomatch hp'
    · rintro ⟨⟨p, hp⟩, hno⟩
      cases hq : feed t p with
      | ok _ q =>
        refine absurd ⟨q, ?_⟩ hno
        rw [forM_feed_concat, Step.bind_of_ok hp, hq]
      | error fault q => exact ⟨fault, t, p, q, ht, hp, hq⟩

end Parser

/-- A non-empty list of tokens that are all taken is an expression exactly if
the line may end there. -/
theorem isExpression_iff_finish {ts : List Token}
    (hts : ∀ t ∈ ts, t.IsDecimal ∧ t.FitsWord) (hne : ts ≠ [])
    {p : Parser Listing}
    (hp : (ts.forM Parser.feed : Step (Parser Listing) Unit) (Parser.start .empty)
      = .ok () p) :
    IsExpression ts ↔ ∃ q, Parser.finish p = .ok () q := by
  have hline : Parser.line ts (Parser.start Listing.empty) = Parser.finish p :=
    Step.bind_of_ok hp
  constructor
  · rintro ⟨e, he, rfl⟩
    rw [line_of_derives he hts] at hline
    exact ⟨_, hline.symm⟩
  · rintro ⟨q, hq⟩
    obtain ⟨e, he, htokens, -, -⟩ :=
      derives_of_line hne (fun t ht => (hts t ht).1) (hline.trans hq)
    exact ⟨e, he, htokens⟩

/-- **The end of a line that is not an expression.** The fault has no place
if an operand is awaited; if not, its place is that of the last opener that
is left. -/
theorem pos?_of_finish {ts : List Token} {r : Reading}
    (h : ReadsAll .start ts r) {fault : Fault} {q : Parser Listing}
    (hq : Parser.finish (r.onto (Parser.start .empty)) = .error fault q) :
    fault.kind = .grammar ∧ (r.awaiting = .operand → fault.pos? = none) ∧
      (r.awaiting = .operator →
        ∃ o ∈ (unclosed ts).head?, fault.pos? = some o.pos) := by
  have hstart : Reading.start.Fits := ⟨trivial, nofun⟩
  have hr : r.Fits := h.fits hstart
  have hopeners : openers r.frames = unclosed ts := h.openers_eq hstart
  obtain ⟨fs, _ | e⟩ := r
  · obtain ⟨rfl, -⟩ := EStateM.Result.error.inj hq
    refine ⟨rfl, fun _ => rfl, fun ha => ?_⟩
    cases ha
  · obtain ⟨fs', e', hs⟩ : ∃ fs' e', settle Parser.groupLimit fs e = (fs', e') :=
      ⟨_, _, rfl⟩
    obtain ⟨-, -, hhead⟩ := fits_settle_group hr hs
    rw [Parser.finish_eq, if_neg (by exact Bool.false_ne_true),
      Parser.release_eq (settle_onto closed_nil hs)] at hq
    rcases fs' with _ | ⟨f, fs'⟩
    · cases hq
    · obtain ⟨t, o, ht, hentry⟩ := Frame.exists_opener? (hhead f rfl)
      have hfirst : unclosed ts = t :: openers fs' := by
        rw [← hopeners, ← openers_settle hs, openers, List.filterMap_cons_some ht]
        rfl
      rw [Reading.onto, List.map_cons, hentry] at hq
      obtain ⟨rfl, -⟩ := EStateM.Result.error.inj hq
      refine ⟨rfl, fun ha => ?_, fun _ => ⟨t, by rw [hfirst]; rfl, rfl⟩⟩
      cases ha

/-! ## The main result -/

/-- **A fault is reported at the earliest token.** Let the numbers of a list
of tokens be decimal and fit into a word. The token at the place `k` is the
first that a new parse refuses exactly if the `k` tokens before it are the
beginning of an expression and are so no longer with it, and the fault has
the place of that token. If no token is refused, the end of the line is
refused exactly if there are tokens and they are no expression. That fault
has no place if an operand is awaited, and otherwise that of the last opener
that has no matching closer. -/
theorem refused_at_earliest (ts : List Token)
    (hts : ∀ t ∈ ts, t.IsDecimal ∧ t.FitsWord) :
    (∀ k, (∃ fault, Parser.RefusesAt ts k fault) ↔
        IsViable (ts.take k) ∧ ¬IsViable (ts.take (k + 1))) ∧
      (∀ k fault, Parser.RefusesAt ts k fault →
        fault.kind = .grammar ∧ ∃ t, ts[k]? = some t ∧ fault.pos? = some t.pos) ∧
      ∀ p, (ts.forM Parser.feed : Step (Parser Listing) Unit)
          (Parser.start .empty) = .ok () p →
        ((∃ fault q, Parser.finish p = .error fault q) ↔
            ts ≠ [] ∧ ¬IsExpression ts) ∧
          ∀ fault q, Parser.finish p = .error fault q →
            fault.kind = .grammar ∧
              (p.awaiting = .operand → fault.pos? = none) ∧
              (p.awaiting = .operator →
                ∃ o ∈ (unclosed ts).head?, fault.pos? = some o.pos) := by
  refine ⟨Parser.exists_refusesAt_iff hts, ?_, ?_⟩
  · rintro k fault ⟨t, p, q, ht, -, hq⟩
    obtain ⟨hdecimal, hfits⟩ := hts t (List.mem_of_getElem? ht)
    have hrefused := Parser.raises_feed hdecimal _ _ _ hq
    exact ⟨hrefused.kind_eq hfits, t, ht, hrefused.pos?_eq⟩
  · intro p hp
    by_cases hne : ts = []
    · -- a line without tokens may end
      subst hne
      obtain ⟨-, rfl⟩ := EStateM.Result.ok.inj hp
      have hfinish : (Parser.finish : Step (Parser Listing) Unit)
          (Parser.start .empty) = .ok () (Parser.start .empty) := rfl
      rw [hfinish]
      refine ⟨⟨?_, fun h => absurd rfl h.1⟩, fun fault q hq => nomatch hq⟩
      rintro ⟨fault, q, hq⟩
      nomatch hq
    · refine ⟨?_, ?_⟩
      · rw [isExpression_iff_finish hts hne hp]
        cases hq : Parser.finish p with
        | ok _ q =>
          refine ⟨?_, fun h => absurd ⟨q, rfl⟩ h.2⟩
          rintro ⟨fault, q', hq'⟩
          nomatch hq'
        | error fault q => exact ⟨fun _ => ⟨hne, nofun⟩, fun _ => ⟨fault, q, rfl⟩⟩
      · rw [forM_feed_start _ hne] at hp
        obtain ⟨r, hr, rfl⟩ :=
          exists_readsAll_of_forM_feed rfl (fun t ht => (hts t ht).1) hp
        intro fault q hq
        exact pos?_of_finish hr hq

/-- The tokens of `(1 ? 2)`. -/
def crossedTokens : List Token :=
  [⟨.openParen, "(", 0⟩, ⟨.number, "1", 1⟩, ⟨.question, "?", 3⟩,
    ⟨.number, "2", 5⟩, ⟨.closeParen, ")", 6⟩]

/-- The parenthesis cannot be closed across the `?`: no line begins like
this. Without it, the line wants a `:`, and the fault is reported at the `?`
and not at the parenthesis. -/
theorem refused_at_earliest_crossed :
    IsViable (crossedTokens.take 4) ∧ ¬IsViable crossedTokens ∧
      ∃ p fault q, ((crossedTokens.take 4).forM Parser.feed :
          Step (Parser Listing) Unit) (Parser.start .empty) = .ok () p ∧
        Parser.finish p = .error fault q ∧ fault.pos? = some 3 := by
  obtain ⟨hrefused, -, -⟩ := refused_at_earliest crossedTokens (by decide)
  have hfeed : ∃ fault, Parser.RefusesAt crossedTokens 4 fault :=
    ⟨.unmatchedCloser ⟨.closeParen, ")", 6⟩ .paren, ⟨.closeParen, ")", 6⟩, _, _,
      rfl, rfl, rfl⟩
  obtain ⟨hviable, hhopeless⟩ := (hrefused 4).mp hfeed
  obtain ⟨-, -, hend⟩ := refused_at_earliest (crossedTokens.take 4) (by decide)
  obtain ⟨p, hp, ha, q, hq⟩ : ∃ p, ((crossedTokens.take 4).forM Parser.feed :
      Step (Parser Listing) Unit) (Parser.start .empty) = .ok () p ∧
        p.awaiting = .operator ∧
        ∃ q, Parser.finish p = .error (.unmatchedOpener .question 3) q :=
    ⟨_, rfl, rfl, _, rfl⟩
  refine ⟨hviable, hhopeless, p, _, q, hp, hq, ?_⟩
  obtain ⟨o, ho, hpos⟩ := ((hend p hp).2 _ q hq).2.2 ha
  obtain rfl : (⟨.question, "?", 3⟩ : Token) = o := Option.some.inj ho
  exact hpos

end Abacus
