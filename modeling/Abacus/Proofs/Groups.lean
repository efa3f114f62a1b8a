import Abacus.Proofs.Enclosure
import Abacus.Proofs.Places

/-!
# Groups

A text in parentheses is an operand, wherever it stands. What is around it may be
anything, and need not be a line that is accepted; the parse comes to the opening
parenthesis either where an operand is awaited, or not at all in good order. In the
first case it sends the machine what the text means and goes on as if it had read a
variable, and in the second case it never looks at the text.

So what is recorded of a line around a group is told once for all groups
(`exists_recording_enclosed`): some instructions before, those of the group, and some
after, and a fault that is the same up to its place.

A text means an expression (`Expr.WrittenAs`) if it is scanned to the tokens of a tree
of it. Such texts are put together as the grammar says, with white space around the
operators between two operands.
-/

namespace Abacus

open Scan

/-! ## Texts of expressions -/

/-- **A text that means an expression**: it is scanned, places apart, to the tokens of a
tree of the expression that is derived from the level `l`. -/
def Expr.WrittenAs (a : Expr) (l : Level) (cs : List Char) : Prop :=
  ∃ e : Tree, Derives l e ∧ e.expr = a ∧ shape cs = ⟨e.tokens, none⟩ ∧
    ∀ t ∈ e.tokens, t.IsDecimal ∧ t.FitsWord

/-- Nothing is asked of a token that is no number. -/
theorem Token.fits_of_ne_number {t : Token} (h : t.kind ≠ .number) :
    t.IsDecimal ∧ t.FitsWord :=
  ⟨fun hk => absurd hk h, fun hk => absurd hk h⟩

theorem Level.ne_number_of_operator? {l : Level} {k : Token.Kind} {op : Operation}
    (h : l.operator? k = some op) : k ≠ .number := by
  rintro rfl
  cases l <;> cases h

theorem severs_openParen : Severs '(' :=
  severs_of_notMem (by decide) (by decide) (by decide)

theorem severs_closeParen : Severs ')' :=
  severs_of_notMem (by decide) (by decide) (by decide)

/-- A parenthesis is a token by itself, whatever stands behind it. -/
theorem shape_paren {c : Char} {kind : Token.Kind} (hc : Token.Kind.ofChar? c = some kind)
    (hpair : ∀ d, Token.Kind.ofPair? c d = none) (cs : List Char) :
    shape (c :: cs) = (shape cs).cons ⟨kind, String.singleton c, 0⟩ := by
  obtain ⟨-, hnumber, hname⟩ := isSign_of_ofChar? hc
  refine shape_lexeme (.single hc) ?_
  rintro d - (⟨hk, -⟩ | ⟨hk, -⟩ | ⟨c', hc', hd⟩)
  · exact hnumber hk
  · exact hname hk
  · obtain ⟨rfl, -⟩ := List.cons.inj hc'
    rw [hpair d] at hd
    cases hd

/-- The tokens of the parentheses of a group. -/
def openToken : Token := ⟨.openParen, "(", 0⟩

def closeToken : Token := ⟨.closeParen, ")", 0⟩

/-- A text in parentheses is scanned by itself. -/
theorem shape_group {cs : List Char} {ts : List Token} (h : shape cs = ⟨ts, none⟩)
    (ds : List Char) :
    shape ('(' :: (cs ++ ')' :: ds))
      = append ⟨openToken :: (ts ++ [closeToken]), none⟩ (shape ds) := by
  have hclose : ∀ d ∈ (')' :: ds).head?, Severs d := by
    rintro _ ⟨⟩
    exact severs_closeParen
  have hopens : Token.Kind.ofChar? '(' = some .openParen := rfl
  have hcloses : Token.Kind.ofChar? ')' = some .closeParen := rfl
  rw [shape_paren hopens fun _ => rfl, shape_append cs hclose, h,
    shape_paren hcloses fun _ => rfl]
  simp [append, cons, openToken, closeToken]

namespace Expr.WrittenAs

variable {a b : Expr} {l m : Level} {cs ds : List Char}

theorem mono (hlm : l ≤ m) (h : a.WrittenAs l cs) : a.WrittenAs m cs := by
  obtain ⟨e, he, hrest⟩ := h
  exact ⟨e, he.mono hlm, hrest⟩

/-- A name means the variable. -/
theorem name {x : String} (hx : Variable.isName x = true) :
    (Expr.operand (.name x)).WrittenAs .primary x.toList := by
  unfold Variable.isName at hx
  rw [Bool.and_eq_true, Bool.not_eq_true', List.all_eq_true] at hx
  have hspells : Spells .name x.toList := .name (by simpa using hx.1) hx.2
  have hshape : shape (x.toList ++ []) = _ := shape_lexeme hspells nofun
  rw [List.append_nil, String.ofList_toList, shape_nil] at hshape
  exact ⟨.name ⟨.name, x, 0⟩, .name rfl, rfl, hshape,
    List.forall_mem_singleton.mpr (Token.fits_of_ne_number nofun)⟩

/-- The literal of a step. -/
theorem one : (Expr.operand (.literal 1)).WrittenAs .primary ['1'] :=
  ⟨.number ⟨.number, "1", 0⟩, .number rfl, rfl, by decide +kernel, by decide⟩

/-- Parentheses mean nothing of their own. -/
theorem group (h : a.WrittenAs .assignment cs) :
    a.WrittenAs .primary ('(' :: (cs ++ [')'])) := by
  obtain ⟨e, he, hexpr, hshape, hts⟩ := h
  refine ⟨.group openToken e closeToken, .group rfl he rfl, hexpr, ?_, ?_⟩
  · rw [shape_group hshape [], shape_nil, append_of_none rfl, Scan.empty, List.append_nil]
    rfl
  · simp only [Tree.tokens, List.cons_append, List.forall_mem_cons, List.forall_mem_append]
    exact ⟨Token.fits_of_ne_number (by decide), hts, Token.fits_of_ne_number (by decide),
      List.forall_mem_nil _⟩

/-- An operator between two operands, with white space around it. -/
theorem between {k n : Level} {kind : Token.Kind} {sign : List Char} {op : Operation}
    {h : op.arity = 2} (ha : a.WrittenAs l cs) (hb : b.WrittenAs m ds)
    (hsign : Spells kind sign) (hop : n.operator? kind = some op)
    (hderives : ∀ {e₁ t e₂}, Derives l e₁ → n.operator? t.kind = some op → Derives m e₂ →
      Derives k (.between e₁ t op h e₂)) :
    (Expr.binary op h a b).WrittenAs k (cs ++ ' ' :: (sign ++ ' ' :: ds)) := by
  obtain ⟨e₁, he₁, rfl, hshape₁, hts₁⟩ := ha
  obtain ⟨e₂, he₂, rfl, hshape₂, hts₂⟩ := hb
  have hblank : Text.isBlank ' ' = true := rfl
  have hspace (rest : List Char) : ∀ d ∈ (' ' :: rest).head?, Severs d := by
    rintro _ ⟨⟩
    exact severs_of_isBlank hblank
  have hstop : ∀ d ∈ (' ' :: ds).head?, ¬Extends kind sign d :=
    fun d hd => hspace ds d hd kind sign
  refine ⟨.between e₁ ⟨kind, String.ofList sign, 0⟩ op h e₂, hderives he₁ hop he₂, rfl, ?_, ?_⟩
  · rw [shape_append cs (hspace _), shape_blank hblank, shape_lexeme hsign hstop,
      shape_blank hblank, hshape₁, hshape₂]
    rfl
  · simp only [Tree.tokens, List.forall_mem_append, List.forall_mem_cons]
    exact ⟨hts₁, Token.fits_of_ne_number (Level.ne_number_of_operator? hop), hts₂⟩

/-- An operator of two characters before its operand. -/
theorem before {kind : Token.Kind} {c d : Char} {op : Operation} {h : op.arity = 1}
    (ha : a.WrittenAs .unary cs) (hsign : Token.Kind.ofPair? c d = some kind)
    (hop : Level.unary.operator? kind = some op) :
    (Expr.unary op h a).WrittenAs .unary (c :: d :: cs) := by
  obtain ⟨e, he, rfl, hshape, hts⟩ := ha
  obtain ⟨-, hnumber, hname⟩ := isSign_of_ofPair? hsign
  have hstop : ∀ d' ∈ cs.head?, ¬Extends kind [c, d] d' := by
    rintro d' - (⟨hk, -⟩ | ⟨hk, -⟩ | ⟨c', hc', -⟩)
    · exact hnumber hk
    · exact hname hk
    · cases hc'
  refine ⟨.before ⟨kind, String.ofList [c, d], 0⟩ op h e, .before hop he, rfl, ?_, ?_⟩
  · have hcons := shape_lexeme (.pair hsign) hstop
    rw [hshape] at hcons
    exact hcons
  · exact List.forall_mem_cons.mpr ⟨Token.fits_of_ne_number hnumber, hts⟩

/-- **A line that can be listed means the expression** whose postorder is listed. -/
theorem of_listing {source : String} {listed : Listing} (h : listing source = .ok listed)
    (hne : listed.texts ≠ []) :
    ∃ a : Expr, a.WrittenAs .assignment source.toList ∧
      listed.instructions.toList = a.postorder := by
  obtain ⟨e, he, hscan, hts, hpost⟩ := exists_derives_of_listing h hne
  refine ⟨e.expr, ⟨e.map Token.unplaced, he.map Token.kind_unplaced,
    Tree.expr_map Token.text_unplaced e, ?_, ?_⟩, hpost⟩
  · show (ofString source).unplaced = _
    rw [hscan, Tree.tokens_map]
    rfl
  · rw [Tree.tokens_map]
    exact List.forall_mem_map.mpr hts

end Expr.WrittenAs

/-! ## Scans one after the other -/

theorem Parser.feedAll_append {μ : Type} [Machine μ] (s s' : Scan) :
    (feedAll (s.append s') : Step (Parser μ) Unit) = (do feedAll s; feedAll s') := by
  obtain ⟨ts, _ | ⟨c, pos⟩⟩ := s
  · unfold feedAll append
    dsimp only
    rw [forM_feed_append, bind_pure_unit, bind_assoc]
  · unfold feedAll append
    dsimp only
    rw [bind_assoc]
    rfl

namespace Recording

variable {s s' : Scan} {p q : Parser Listing}

theorem ofScan_append_of_ok (h : Parser.feedAll s p = .ok () q) :
    ofScan (s.append s') p = ofScan s' q := by
  unfold ofScan
  rw [Parser.feedAll_append, bind_assoc, Step.bind_of_ok h]

theorem ofScan_append_of_error {fault : Fault} (h : Parser.feedAll s p = .error fault q) :
    ofScan (s.append s') p = ⟨q.machine.instructions.toList, some fault⟩ := by
  unfold ofScan
  rw [Parser.feedAll_append, bind_assoc, Step.bind_of_error h]
  rfl

/-- What is recorded from a state on does not depend on what was listed before. -/
theorem ofScan_on (s : Scan) (p : Parser Listing) (l : Listing) :
    ofScan s (p.on l) = ⟨l.instructions.toList ++ (ofScan s (p.on .empty)).program,
      (ofScan s (p.on .empty)).fault?⟩ := by
  obtain ⟨program, h⟩ := ((Parser.replays_feedAll s).bind fun _ =>
    Parser.replays_finish (μ := Listing)) (p.on .empty) l
  have hprogram (m : Listing) : (m.extend program).instructions.toList
      = m.instructions.toList ++ program := Listing.toList_instructions_extend m program
  unfold ofScan
  dsimp only
  rw [show (p.on Listing.empty).on l = p.on l from rfl] at h
  generalize (do Parser.feedAll s; Parser.finish : Step (Parser Listing) Unit) (p.on .empty) = r,
    (do Parser.feedAll s; Parser.finish : Step (Parser Listing) Unit) (p.on l) = r' at h ⊢
  have hrecorded : (Step.reached r).machine.instructions.toList = program := by
    rw [h.machine_reached]
    exact hprogram .empty
  have hreplayed : (Step.reached r').machine = l.extend program ∧
      Step.fault? r' = Step.fault? r := by
    cases h with
    | ok hrun | error hrun =>
      rw [Listing.run_eq] at hrun
      obtain ⟨-, rfl⟩ := EStateM.Result.ok.inj hrun
      exact ⟨rfl, rfl⟩
    | refused hrun => cases hrun.symm.trans (Listing.run_eq program l)
  rw [hreplayed.1, hreplayed.2, hprogram, hrecorded]

end Recording

/-! ## Lines around a group -/

/-- The line in which `m` stands in parentheses between `p` and `q`. -/
def enclosed (p m q : String) : String :=
  p ++ "(" ++ m ++ ")" ++ q

theorem shape_enclosed (p q : String) {m : String} {ts : List Token}
    (h : shape m.toList = ⟨ts, none⟩) :
    (ofString (enclosed p m q)).unplaced = (shape p.toList).append
      (append ⟨openToken :: (ts ++ [closeToken]), none⟩ (shape q.toList)) := by
  have htext : (enclosed p m q).toList
      = p.toList ++ '(' :: (m.toList ++ ')' :: q.toList) := by
    simp [enclosed]
  have hopen : ∀ d ∈ ('(' :: (m.toList ++ ')' :: q.toList)).head?, Severs d := by
    rintro _ ⟨⟩
    exact severs_openParen
  show shape (enclosed p m q).toList = _
  rw [htext, shape_append _ hopen, shape_group h]

/-- **What is recorded around a group.** Whatever stands before it and behind it, either
every group is refused for the same fault, and nothing of it is sent; or the
instructions of what the group means are sent between some that do not depend on it,
and the line ends with the same fault, or the same way without one. Faults are compared
without their places. -/
theorem exists_recording_enclosed (p q : String) :
    ∃ before, (∃ fault, ∀ a m, Expr.WrittenAs a .assignment m.toList →
        (Recording.ofSource (enclosed p m q)).unplaced = ⟨before, some fault⟩) ∨
      ∃ after fault?, ∀ a m, Expr.WrittenAs a .assignment m.toList →
        (Recording.ofSource (enclosed p m q)).unplaced
          = ⟨before ++ a.postorder ++ after, fault?⟩ := by
  have hsource : ∀ m ts, shape m.toList = ⟨ts, none⟩ →
      (Recording.ofSource (enclosed p m q)).unplaced
        = Recording.ofScan ((shape p.toList).append
            (append ⟨openToken :: (ts ++ [closeToken]), none⟩ (shape q.toList)))
          (Parser.start .empty) := by
    intro m ts h
    rw [Recording.unplaced_ofSource, shape_enclosed p q h]
  cases hfeed : (Parser.feedAll (shape p.toList) : Step (Parser Listing) Unit)
      (Parser.start .empty) with
  | error fault s =>
    -- the line ends before the group
    refine ⟨s.machine.instructions.toList, .inl ⟨fault, ?_⟩⟩
    rintro a m ⟨e, -, -, hshape, -⟩
    rw [hsource m _ hshape, Recording.ofScan_append_of_error hfeed]
  | ok _ s =>
    refine ⟨s.machine.instructions.toList, ?_⟩
    cases hawaiting : s.awaiting with
    | operator =>
      -- the group comes where an operator is awaited
      refine .inl ⟨.unexpectedToken openToken, ?_⟩
      rintro a m ⟨e, -, -, hshape, -⟩
      have hopen : Parser.feed openToken s
          = .error (.unexpectedToken openToken) { s with started := true } := by
        rw [Parser.feed_of_operator hawaiting]
        rfl
      have hgroup : Parser.feedAll ⟨openToken :: (e.tokens ++ [closeToken]), none⟩ s
          = .error (.unexpectedToken openToken) { s with started := true } :=
        Step.bind_of_error (Step.bind_of_error hopen)
      rw [hsource m _ hshape, Recording.ofScan_append_of_ok hfeed,
        Recording.ofScan_append_of_error hgroup]
    | operand =>
      let rest := Recording.ofScan (shape q.toList)
        ⟨Listing.empty, s.pending, .operator, true⟩
      refine .inr ⟨rest.program, rest.fault?, ?_⟩
      rintro _ m ⟨e, he, rfl, hshape, hts⟩
      have hgroup : Parser.feedAll ⟨openToken :: (e.tokens ++ [closeToken]), none⟩ s
          = .ok () ⟨s.machine.extend e.expr.postorder, s.pending, .operator, true⟩ :=
        Step.bind_of_ok (Parser.forM_feed_group he hts rfl rfl hawaiting)
      have hrest := Recording.ofScan_on (shape q.toList)
        ⟨Listing.empty, s.pending, .operator, true⟩ (s.machine.extend e.expr.postorder)
      rw [hsource m _ hshape, Recording.ofScan_append_of_ok hfeed,
        Recording.ofScan_append_of_ok hgroup]
      rw [Listing.toList_instructions_extend] at hrest
      exact hrest

end Abacus
