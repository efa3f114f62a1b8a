import Abacus.Proofs.Reading.Fitting
import Abacus.Proofs.Reading.Simulation
import Abacus.Proofs.Scanning

/-!
# The parser recognizes the grammar

The lines that are accepted are the empty one and those that the grammar
derives from an assignment, and what is sent to the machine for a derived
line is the postorder of its tree (`line_recognizes`). There is no second
tree with the same tokens, so it makes sense to speak of the tree of a line.

The parser is followed by its readings, and a reading at the end of a line
is a tree once everything pending is carried out. Whether the line is
accepted is thus a question about readings, and readings reach exactly the
derivations.
-/

namespace Abacus

/-- Takes a list of tokens and ends the line. -/
def Parser.line {μ : Type} [Machine μ] (ts : List Token) :
    Step (Parser μ) Unit := do
  ts.forM feed
  finish

section Follow

variable {base : Parser Listing} {r r' : Reading} {ts : List Token}

theorem forM_feed_of_readsAll (hbase : Closed base.pending)
    (h : ReadsAll r ts r') (hts : ∀ t ∈ ts, t.IsDecimal) :
    (ts.forM Parser.feed : Step (Parser Listing) Unit) (r.onto base)
      = .ok () (r'.onto base) := by
  induction h with
  | nil => rfl
  | cons ht _ ih =>
    rw [List.forall_mem_cons] at hts
    exact (Step.bind_of_ok (feed_of_reads hbase ht hts.1)).trans (ih hts.2)

theorem exists_readsAll_of_forM_feed (hbase : base.pending = [])
    (hts : ∀ t ∈ ts, t.IsDecimal) {p : Parser Listing}
    (h : (ts.forM Parser.feed : Step (Parser Listing) Unit) (r.onto base)
      = .ok () p) : ∃ r', ReadsAll r ts r' ∧ p = r'.onto base := by
  induction ts generalizing r with
  | nil =>
    obtain ⟨-, rfl⟩ := EStateM.Result.ok.inj h
    exact ⟨r, .nil, rfl⟩
  | cons t ts ih =>
    rw [List.forall_mem_cons] at hts
    change (Parser.feed t >>= fun _ => ts.forM Parser.feed) _ = _ at h
    cases ht : (Parser.feed t : Step (Parser Listing) Unit) (r.onto base) with
    | error =>
      rw [Step.bind_of_error ht] at h
      nomatch h
    | ok _ q =>
      obtain ⟨r₁, hr₁⟩ := exists_reads_of_feed hbase hts.1 ht
      have hclosed : Closed base.pending := hbase ▸ closed_nil
      rw [Step.bind_of_ok (feed_of_reads hclosed hr₁ hts.1)] at h
      obtain ⟨r', hr', rfl⟩ := ih hts.2 h
      exact ⟨r', .cons hr₁ hr', rfl⟩

/-- Before its first token, a parse is at the reading of no token. It has
not noted that it started, but the token makes up for that. -/
theorem forM_feed_start (l : Listing) (hne : ts ≠ []) :
    (ts.forM Parser.feed : Step (Parser Listing) Unit) (Parser.start l)
      = (ts.forM Parser.feed : Step (Parser Listing) Unit)
          (Reading.start.onto (Parser.start l)) := by
  obtain ⟨t, ts, rfl⟩ := List.exists_cons_of_ne_nil hne
  rfl

/-! ## The end of a line -/

/-- The line ends well if one tree is left. -/
theorem finish_of_settle (hbase : base.pending = []) {fs : List Frame}
    {e e' : Tree} (h : settle Parser.groupLimit fs e = ([], e')) :
    Parser.finish (Reading.onto ⟨fs, some e⟩ base)
      = .ok () (Reading.onto ⟨[], some e'⟩ base) := by
  have hclosed : Closed base.pending := hbase ▸ closed_nil
  rw [Parser.finish_eq, if_neg (by exact Bool.false_ne_true), Parser.release,
    Step.bind_of_ok (settle_onto hclosed h)]
  obtain ⟨machine, pending, awaiting, started⟩ := base
  obtain rfl : pending = [] := hbase
  rfl

/-- And only then: of a larger stack the topmost frame is an opener. -/
theorem settle_of_finish (hbase : base.pending = []) (hr : r.Fits)
    {p : Parser Listing} (h : Parser.finish (r.onto base) = .ok () p) :
    ∃ fs e e', r = ⟨fs, some e⟩ ∧
      settle Parser.groupLimit fs e = ([], e') ∧ Derives .assignment e' := by
  obtain ⟨fs, _ | e⟩ := r
  · cases h
  · obtain ⟨fs', e', hs⟩ : ∃ fs' e', settle Parser.groupLimit fs e = (fs', e') :=
      ⟨_, _, rfl⟩
    obtain ⟨-, he', hhead⟩ := fits_settle_group hr hs
    have hclosed : Closed base.pending := hbase ▸ closed_nil
    rw [Parser.finish_eq, if_neg (by exact Bool.false_ne_true), Parser.release,
      Step.bind_of_ok (settle_onto hclosed hs)] at h
    rcases fs' with _ | ⟨f, fs'⟩
    · exact ⟨fs, e, e', rfl, hs, he'⟩
    · cases hentry : f.entry with
      | operator op pos =>
        have hop : f.entry.precedence = .opener := hhead f rfl
        rw [hentry] at hop
        exact absurd hop (Operation.precedence_ne_opener op)
      | opener o pos =>
        unfold Reading.onto at h
        rw [List.map_cons, hentry] at h
        cases h

end Follow

/-! ## Lines and trees -/

/-- **The line of a derivation is accepted**, and nothing is left pending. -/
theorem line_of_derives {e : Tree} (he : Derives .assignment e)
    (hts : ∀ t ∈ e.tokens, t.IsDecimal ∧ t.FitsWord) (l : Listing) :
    Parser.line e.tokens (Parser.start l)
      = .ok () (Reading.onto ⟨[], some e⟩ (Parser.start l)) := by
  have hl : Level.assignment ≤ hole [] := Nat.le_refl _
  obtain ⟨fs, e', h⟩ := reaches_of_derives he hl fun t ht => (hts t ht).2
  have hs : settle Parser.groupLimit fs e' = ([], e) :=
    h.settle_eq _ (by decide)
  have hclosed : Closed (Parser.start l).pending := closed_nil
  have hfeed := forM_feed_of_readsAll hclosed h.reads fun t ht => (hts t ht).1
  rw [← Reading.start, ← forM_feed_start l e.tokens_ne_nil] at hfeed
  rw [Parser.line, Step.bind_of_ok hfeed]
  exact finish_of_settle rfl hs

/-- **An accepted line is derived.** -/
theorem derives_of_line {ts : List Token} (hne : ts ≠ [])
    (hts : ∀ t ∈ ts, t.IsDecimal) {l : Listing} {p : Parser Listing}
    (h : Parser.line ts (Parser.start l) = .ok () p) :
    ∃ e, Derives .assignment e ∧ e.tokens = ts ∧ (∀ t ∈ ts, t.FitsWord) ∧
      p = Reading.onto ⟨[], some e⟩ (Parser.start l) := by
  unfold Parser.line at h
  cases hfeed : (ts.forM Parser.feed : Step (Parser Listing) Unit)
      (Parser.start l) with
  | error =>
    rw [Step.bind_of_error hfeed] at h
    nomatch h
  | ok _ q =>
    rw [Step.bind_of_ok hfeed] at h
    rw [forM_feed_start l hne] at hfeed
    obtain ⟨r, hreads, rfl⟩ := exists_readsAll_of_forM_feed rfl hts hfeed
    have hstart : Reading.start.Fits := ⟨trivial, nofun⟩
    obtain ⟨fs, e, e', rfl, hs, he'⟩ :=
      settle_of_finish rfl (hreads.fits hstart) h
    rw [finish_of_settle rfl hs] at h
    have htokens : e'.tokens = ts :=
      (tokens_settle hs).trans hreads.tokens_eq
    exact ⟨e', he', htokens, hreads.fitsWord, (EStateM.Result.ok.inj h).2.symm⟩

/-- **A line has one tree.** -/
theorem eq_of_tokens_eq {e e' : Tree} (he : Derives .assignment e)
    (he' : Derives .assignment e') (hts : ∀ t ∈ e.tokens, t.FitsWord)
    (h : e'.tokens = e.tokens) : e' = e := by
  have hl : Level.assignment ≤ hole [] := Nat.le_refl _
  obtain ⟨fs₁, e₁, h₁⟩ := reaches_of_derives he hl hts
  obtain ⟨fs₂, e₂, h₂⟩ := reaches_of_derives he' hl (h ▸ hts)
  -- the readings reached are those of one line, hence the same
  obtain ⟨rfl, rfl⟩ : fs₂ = fs₁ ∧ e₂ = e₁ := by
    have hreads := h₂.reads
    rw [h] at hreads
    obtain ⟨rfl, ⟨⟩⟩ := Reading.mk.inj (hreads.unique h₁.reads)
    exact ⟨rfl, rfl⟩
  have hs₁ : settle Parser.groupLimit fs₂ e₂ = ([], e) :=
    h₁.settle_eq _ (by decide)
  have hs₂ : settle Parser.groupLimit fs₂ e₂ = ([], e') :=
    h₂.settle_eq _ (by decide)
  exact (Prod.mk.inj (hs₂.symm.trans hs₁)).2

/-- **The parser recognizes the grammar.** Of the lists of tokens whose
numbers are decimal and fit into a word, a new parse accepts the empty one
and those with a derivation from an assignment, and no other. The derivation
is the only one, and the instructions that were sent are its postorder: an
operation after its operands, a choice once after its three, and for a
parenthesis nothing. -/
theorem line_recognizes (ts : List Token)
    (hts : ∀ t ∈ ts, t.IsDecimal ∧ t.FitsWord) :
    ((∃ p, Parser.line ts (Parser.start Listing.empty) = .ok () p) ↔
        ts = [] ∨ ∃ e, Derives .assignment e ∧ e.tokens = ts) ∧
      (∀ e e', Derives .assignment e → Derives .assignment e' →
        e.tokens = ts → e'.tokens = ts → e = e') ∧
      ∀ p, Parser.line ts (Parser.start Listing.empty) = .ok () p →
        (ts = [] → p.machine.instructions.toList = []) ∧
        ∀ e, Derives .assignment e → e.tokens = ts →
          p.machine.instructions.toList = e.expr.postorder := by
  have hempty : Parser.line [] (Parser.start Listing.empty)
      = .ok () (Parser.start Listing.empty) := rfl
  refine ⟨⟨?_, ?_⟩, ?_, ?_⟩
  · rintro ⟨p, h⟩
    by_cases hne : ts = []
    · exact .inl hne
    · obtain ⟨e, he, htokens, -, -⟩ :=
        derives_of_line hne (fun t ht => (hts t ht).1) h
      exact .inr ⟨e, he, htokens⟩
  · rintro (rfl | ⟨e, he, rfl⟩)
    · exact ⟨_, hempty⟩
    · exact ⟨_, line_of_derives he hts _⟩
  · rintro e e' he he' rfl h
    exact (eq_of_tokens_eq he he' (fun t ht => (hts t ht).2) h).symm
  · intro p h
    refine ⟨?_, ?_⟩
    · rintro rfl
      rw [hempty] at h
      obtain ⟨-, rfl⟩ := EStateM.Result.ok.inj h
      rfl
    · rintro e he rfl
      rw [line_of_derives he hts] at h
      obtain ⟨-, rfl⟩ := EStateM.Result.ok.inj h
      exact Listing.toList_instructions_extend _ _

/-- The tree of the line `-x++ - (2 ? y : 3)`. -/
def signsTree : Tree :=
  .between
    (.before ⟨.minus, "-", 0⟩ .negate rfl
      (.after (.name ⟨.name, "x", 1⟩) ⟨.increment, "++", 2⟩ (.stepAfter .up) rfl))
    ⟨.minus, "-", 5⟩ (.arithmetic .sub) rfl
    (.group ⟨.openParen, "(", 7⟩
      (.choose (.number ⟨.number, "2", 8⟩) ⟨.question, "?", 10⟩
        (.name ⟨.name, "y", 12⟩) ⟨.colon, ":", 14⟩ (.number ⟨.number, "3", 16⟩))
      ⟨.closeParen, ")", 17⟩)

theorem derives_signsTree : Derives .assignment signsTree := by
  refine .mono (l := .additive) (by decide) (.chain trivial rfl ?_ rfl ?_)
  · refine .mono (l := .unary) (by decide) (.before rfl ?_)
    refine .mono (l := .stepped) (by decide) (.after ?_ rfl)
    exact .tighter rfl (.name rfl)
  · refine .mono (l := .primary) (by decide) (.group rfl ?_ rfl)
    refine .mono (l := .conditional) (by decide) (.choose ?_ rfl ?_ rfl ?_)
    · exact .mono (l := .primary) (by decide) (.number rfl)
    · exact .mono (l := .primary) (by decide) (.name rfl)
    · exact .mono (l := .primary) (by decide) (.number rfl)

/-- The first `-` negates and the second subtracts, the step comes after its
operand, and the parentheses are gone. -/
theorem line_recognizes_signs :
    ∃ p, Parser.line signsTree.tokens (Parser.start Listing.empty) = .ok () p ∧
      p.machine.instructions.toList =
        [.push (.name "x"), .apply (.stepAfter .up), .apply .negate,
          .push (.literal 2), .push (.name "y"), .push (.literal 3),
          .apply .choose, .apply (.arithmetic .sub)] := by
  obtain ⟨haccepts, -, hsent⟩ := line_recognizes signsTree.tokens (by decide)
  obtain ⟨p, hp⟩ := haccepts.mpr (.inr ⟨_, derives_signsTree, rfl⟩)
  refine ⟨p, hp, ?_⟩
  rw [(hsent p hp).2 _ derives_signsTree rfl]
  rfl

/-! ## Lines of text -/

/-- **The tree of a line**: the scan of the line runs to its end, and the
tree is derived from an assignment and has the tokens of the scan. -/
structure Tree.IsTreeOf (e : Tree) (source : String) : Prop where
  derives : Derives .assignment e
  tokens_eq : e.tokens = (Scan.ofString source).tokens
  scanned : (Scan.ofString source).stray? = none

/-- A line is parsed to its end only if it holds no stray character. -/
theorem line_of_parse {source : String} {p q : Parser Listing}
    (h : Parser.parse source p = .ok () q) :
    (Scan.ofString source).stray? = none ∧
      Parser.line (Scan.ofString source).tokens p = .ok () q := by
  unfold Parser.parse Parser.feedAll at h
  generalize Scan.ofString source = s at h ⊢
  obtain ⟨ts, stray?⟩ := s
  unfold Parser.line
  cases hfeed : (ts.forM Parser.feed : Step (Parser Listing) Unit) p with
  | error fault q =>
    rw [Step.bind_of_error (Step.bind_of_error hfeed)] at h
    nomatch h
  | ok _ q =>
    rw [bind_assoc, Step.bind_of_ok hfeed] at h
    rw [Step.bind_of_ok hfeed]
    cases stray? with
    | none => exact ⟨rfl, h⟩
    | some stray => nomatch h

/-- A line that is listed with the instructions of a program. -/
theorem exists_listing (source : String) (program : List Instruction)
    (h : (listing source).toOption.map (fun l => l.instructions.toList)
      = some program) :
    ∃ l, listing source = .ok l ∧ l.instructions.toList = program := by
  obtain ⟨l, hl, hprogram⟩ := Option.map_eq_some_iff.mp h
  cases hlisting : listing source with
  | ok m =>
    rw [hlisting] at hl
    obtain rfl := Option.some.inj hl
    exact ⟨m, rfl, hprogram⟩
  | error fault =>
    rw [hlisting] at hl
    cases hl

/-- A line that can be listed is derived, if it is not empty, by a tree whose
numbers fit, and the listing is the postorder of what the tree means. -/
theorem exists_derives_of_listing {source : String} {l : Listing}
    (h : listing source = .ok l) (hne : l.texts ≠ []) :
    ∃ e : Tree, Derives .assignment e ∧
      Scan.ofString source = ⟨e.tokens, none⟩ ∧
      (∀ t ∈ e.tokens, t.IsDecimal ∧ t.FitsWord) ∧
      l.instructions.toList = e.expr.postorder := by
  unfold listing at h
  cases hparse : (Parser.parse source : Step (Parser Listing) Unit)
      (Parser.start .empty) with
  | error fault p =>
    rw [hparse] at h
    nomatch h
  | ok _ p =>
    rw [hparse] at h
    obtain rfl := Except.ok.inj h
    obtain ⟨hstray, hline⟩ := line_of_parse hparse
    have hts : (Scan.ofString source).tokens ≠ [] := by
      intro hts
      rw [hts] at hline
      obtain ⟨-, rfl⟩ := EStateM.Result.ok.inj hline
      exact hne rfl
    have hdecimal : ∀ t ∈ (Scan.ofString source).tokens, t.IsDecimal :=
      fun t ht => (Scan.isLexeme_of_mem ht).1
    obtain ⟨e, he, htokens, hwords, rfl⟩ := derives_of_line hts hdecimal hline
    refine ⟨e, he, ?_, ?_, Listing.toList_instructions_extend _ _⟩
    · rw [htokens, ← hstray]
    · rw [htokens]
      exact fun t ht => ⟨hdecimal t ht, hwords t ht⟩

/-- **A line that can be listed has a tree**, if it is not empty, and the
listing is the postorder of what the tree means. -/
theorem exists_isTreeOf {source : String} {l : Listing}
    (h : listing source = .ok l) (hne : l.texts ≠ []) :
    ∃ e : Tree, e.IsTreeOf source ∧ (∀ e' : Tree, e'.IsTreeOf source → e' = e) ∧
      l.instructions.toList = e.expr.postorder := by
  obtain ⟨e, he, hscan, hts, hpost⟩ := exists_derives_of_listing h hne
  have htokens : e.tokens = (Scan.ofString source).tokens :=
    (congrArg Scan.tokens hscan).symm
  refine ⟨e, ⟨he, htokens, congrArg Scan.stray? hscan⟩, ?_, hpost⟩
  intro e' he'
  exact eq_of_tokens_eq he he'.derives (fun t ht => (hts t ht).2)
    (he'.tokens_eq.trans htokens.symm)

end Abacus
