import Abacus.Proofs.Cutting
import Abacus.Proofs.Replay

/-!
# Places are only carried

The tokens of a line take their places along, into what is pending and into the
faults. Nothing else is done with them. So a parse can be told from the tokens
without their places: it goes the same way, and only the places are missing from its
outcome (`Parser.Blind`).

What a line sends to the machine, and the fault that ends it, places apart, is
therefore told by its scan without places (`Recording.unplaced_ofSource`). Such a scan
does not depend on where the text begins (`Scan.unplaced_ofChars`), and where the text
is severed it falls into two (`Scan.shape_append`).
-/

namespace Abacus

/-! ## Forgetting places -/

/-- A token without its place. -/
def Token.unplaced (t : Token) : Token :=
  { t with pos := 0 }

theorem Token.kind_unplaced (t : Token) : t.unplaced.kind = t.kind := rfl

theorem Token.text_unplaced (t : Token) : t.unplaced.text = t.text := rfl

/-- A pending entry without its place. -/
def Pending.unplaced : Pending → Pending
  | .opener o _ => .opener o 0
  | .operator op _ => .operator op 0

/-- **A fault without its place.** That it has one is not forgotten. -/
def Fault.unplaced : Fault → Fault
  | .strayCharacter c _ => .strayCharacter c 0
  | .literalTooLarge text _ => .literalTooLarge text 0
  | .unreadableNumber text _ => .unreadableNumber text 0
  | .unexpectedToken t => .unexpectedToken t.unplaced
  | .unmatchedCloser t o => .unmatchedCloser t.unplaced o
  | .unmatchedOpener o _ => .unmatchedOpener o 0
  | fault => fault

namespace Fault

theorem kind_unplaced (fault : Fault) : fault.unplaced.kind = fault.kind := by
  cases fault <;> rfl

/-- The wording of a fault does not tell its place. -/
theorem text_unplaced (fault : Fault) : fault.unplaced.text = fault.text := by
  cases fault <;> rfl

theorem isSome_pos?_unplaced (fault : Fault) :
    fault.unplaced.pos?.isSome = fault.pos?.isSome := by
  cases fault <;> rfl

end Fault

/-- A scan without places. -/
def Scan.unplaced (s : Scan) : Scan :=
  ⟨s.tokens.map Token.unplaced, s.stray?.map fun stray => (stray.1, 0)⟩

/-- The state of a parse without places. -/
def Parser.unplaced {μ : Type} (p : Parser μ) : Parser μ :=
  { p with pending := p.pending.map Pending.unplaced }

/-- What is recorded of a line, without places. -/
def Recording.unplaced (r : Recording) : Recording :=
  ⟨r.program, r.fault?.map Fault.unplaced⟩

/-- The value of a number does not depend on where it stands. -/
theorem literalValue_zero (text : String) (pos : Int) :
    literalValue text 0 = (literalValue text pos).mapError Fault.unplaced := by
  unfold literalValue
  dsimp only
  generalize (if text.toList.dropWhile (· = '0') = [] then ['0']
    else text.toList.dropWhile (· = '0')) = digits
  by_cases hlength : literalDigits < digits.length
  · rw [if_pos hlength, if_pos hlength]
    rfl
  rw [if_neg hlength, if_neg hlength]
  cases Numeral.readInt? digits with
  | none => rfl
  | some v =>
    dsimp only
    split <;> rfl

/-! ## Parsing without places -/

namespace Parser

variable {α β : Type}

/-- An outcome without places. -/
def blurred : EStateM.Result Fault (Parser Listing) α → EStateM.Result Fault (Parser Listing) α
  | .ok a p => .ok a p.unplaced
  | .error fault p => .error fault.unplaced p.unplaced

/-- **The step `g` does without places what `f` does.** -/
def Blind (f g : Step (Parser Listing) α) : Prop :=
  ∀ p, g p.unplaced = blurred (f p)

namespace Blind

variable {f g : Step (Parser Listing) α}

/-- Steps of this kind can be put in sequence. -/
theorem bind {f' g' : α → Step (Parser Listing) β} (h : Blind f g)
    (h' : ∀ a, Blind (f' a) (g' a)) : Blind (f >>= f') (g >>= g') := by
  intro p
  have hstep := h p
  cases hf : f p with
  | ok a q =>
    rw [hf] at hstep
    rw [Step.bind_of_ok hf, Step.bind_of_ok hstep]
    exact h' a q
  | error fault q =>
    rw [hf] at hstep
    rw [Step.bind_of_error hf, Step.bind_of_error hstep]
    rfl

theorem of_pure (a : α) : Blind (pure a) (pure a) :=
  fun _ => rfl

theorem of_throw (fault : Fault) :
    Blind (throw fault : Step (Parser Listing) α) (throw fault.unplaced) :=
  fun _ => rfl

theorem of_get_bind {f g : Parser Listing → Step (Parser Listing) α}
    (h : ∀ p, g p.unplaced p.unplaced = blurred (f p p)) :
    Blind (get >>= f) (get >>= g) :=
  h

end Blind

theorem blind_shift (e : Pending) : Blind (shift e) (shift e.unplaced) :=
  fun _ => rfl

theorem blind_await (a : Awaiting) : Blind (await a) (await a) :=
  fun _ => rfl

theorem blind_push (x : Operand) : Blind (push x) (push x) :=
  fun _ => rfl

theorem blind_perform (op : Operation) : Blind (perform op) (perform op) :=
  fun _ => rfl

/-- An entry is carried out for what it is, and not for where it was read. -/
theorem exists_settleStack_unplaced (limit : Nat) (pending : List Pending) (l : Listing) :
    ∃ rest l', settleStack limit pending l = .ok () (rest, l') ∧
      settleStack limit (pending.map Pending.unplaced) l
        = .ok () (rest.map Pending.unplaced, l') := by
  induction pending generalizing l with
  | nil => exact ⟨[], l, rfl, rfl⟩
  | cons e pending ih =>
    cases e with
    | opener o pos => exact ⟨.opener o pos :: pending, l, rfl, rfl⟩
    | operator op pos =>
      by_cases hop : op.precedence.rank ≤ limit
      · obtain ⟨rest, l', hrest, hrest'⟩ := ih (l.apply op)
        exact ⟨rest, l', (if_pos hop).trans hrest, (if_pos hop).trans hrest'⟩
      · exact ⟨.operator op pos :: pending, l, if_neg hop, if_neg hop⟩

theorem blind_settle (limit : Nat) : Blind (settle limit) (settle limit) := by
  intro p
  obtain ⟨rest, l, hrest, hrest'⟩ := exists_settleStack_unplaced limit p.pending p.machine
  have hp : settle limit p = .ok () { p with pending := rest, machine := l } := by
    rw [settle, hrest]
  rw [hp, settle, show settleStack limit p.unplaced.pending p.unplaced.machine = _ from hrest']
  rfl

theorem blind_close (o : Opener) (t : Token) : Blind (close o t) (close o t.unplaced) := by
  refine (blind_settle groupLimit).bind fun _ => .of_get_bind fun p => ?_
  obtain ⟨machine, pending, awaiting, started⟩ := p
  rcases pending with _ | ⟨⟨o', pos⟩ | ⟨op, pos⟩, rest⟩
  · rfl
  · show (if o' = o then _ else _ : Step (Parser Listing) Unit) _
      = blurred ((if o' = o then _ else _ : Step (Parser Listing) Unit) _)
    by_cases ho : o' = o
    · rw [if_pos ho, if_pos ho]
      rfl
    · rw [if_neg ho, if_neg ho]
      rfl
  · rfl

theorem blind_acceptOperand (t : Token) :
    Blind (acceptOperand t) (acceptOperand t.unplaced) := by
  obtain ⟨kind, text, pos⟩ := t
  cases kind with
  | number =>
    unfold acceptOperand Token.unplaced
    dsimp only
    rw [literalValue_zero text pos]
    cases literalValue text pos with
    | ok v => exact (blind_push _).bind fun _ => blind_await _
    | error fault => exact .of_throw fault
  | name => exact (blind_push _).bind fun _ => blind_await _
  | openParen => exact blind_shift (.opener .paren pos)
  | minus => exact blind_shift (.operator .negate pos)
  | increment => exact blind_shift (.operator (.stepBefore .up) pos)
  | decrement => exact blind_shift (.operator (.stepBefore .down) pos)
  | _ => exact .of_throw _

/-- What an operator does that stands between two operands. -/
theorem blind_between (op : Operation) (pos : Int) :
    Blind
      (do
        settle op.precedence.reach
        shift (.operator op pos)
        await .operand)
      (do
        settle op.precedence.reach
        shift (.operator op 0)
        await .operand) :=
  (blind_settle _).bind fun _ => (blind_shift (.operator op pos)).bind fun _ =>
    blind_await _

theorem blind_acceptOperator (t : Token) :
    Blind (acceptOperator t) (acceptOperator t.unplaced) := by
  obtain ⟨kind, text, pos⟩ := t
  cases kind with
  | closeParen => exact blind_close _ _
  | question =>
    exact (blind_settle _).bind fun _ =>
      (blind_shift (.opener .question pos)).bind fun _ => blind_await _
  | colon =>
    exact (blind_close _ _).bind fun _ =>
      (blind_shift (.operator .choose pos)).bind fun _ => blind_await _
  | increment | decrement => exact blind_perform _
  | number | name | openParen => exact .of_throw _
  | _ => exact blind_between _ pos

/-- **A token is taken or refused for what it is**, and not for where it stands. -/
theorem blind_feed (t : Token) : Blind (feed t) (feed t.unplaced) := by
  refine Blind.bind (f := modify _) (g := modify _) (fun _ => rfl) fun _ =>
    .of_get_bind fun p => ?_
  obtain ⟨machine, pending, _ | _, started⟩ := p
  · exact blind_acceptOperand t _
  · exact blind_acceptOperator t _

theorem blind_forM_feed (ts : List Token) :
    Blind (ts.forM feed) ((ts.map Token.unplaced).forM feed) := by
  induction ts with
  | nil => exact .of_pure ()
  | cons t ts ih => exact (blind_feed t).bind fun _ => ih

theorem blind_feedAll (s : Scan) : Blind (feedAll s) (feedAll s.unplaced) := by
  obtain ⟨ts, _ | ⟨c, pos⟩⟩ := s
  · exact (blind_forM_feed ts).bind fun _ => .of_pure ()
  · exact (blind_forM_feed ts).bind fun _ => .of_throw (.strayCharacter c pos)

theorem blind_release : Blind release release := by
  refine (blind_settle groupLimit).bind fun _ => .of_get_bind fun p => ?_
  obtain ⟨machine, pending, awaiting, started⟩ := p
  rcases pending with _ | ⟨_ | _, rest⟩ <;> rfl

theorem blind_finish : Blind finish finish := by
  intro p
  rw [finish_eq, finish_eq]
  show (if p.started && p.awaiting = .operand then _ else _ :
    EStateM.Result Fault (Parser Listing) Unit) = _
  by_cases h : (p.started && p.awaiting = .operand) = true
  · rw [if_pos h, if_pos h]
    rfl
  · rw [if_neg h, if_neg h]
    exact blind_release p

end Parser

/-! ## Recording without places -/

namespace Recording

/-- The recording of a scan, from a state of the parse on. -/
def ofScan (s : Scan) (p : Parser Listing) : Recording :=
  let r := (do Parser.feedAll s; Parser.finish : Step (Parser Listing) Unit) p
  ⟨(Step.reached r).machine.instructions.toList, Step.fault? r⟩

/-- **A line is recorded for what its tokens are**, and not for where they stand. -/
theorem unplaced_ofSource (source : String) :
    (ofSource source).unplaced
      = ofScan (Scan.ofString source).unplaced (Parser.start .empty) := by
  have hblind := ((Parser.blind_feedAll (Scan.ofString source)).bind fun _ =>
    Parser.blind_finish) (Parser.start .empty)
  rw [show (Parser.start Listing.empty).unplaced = Parser.start .empty from rfl] at hblind
  unfold ofScan ofSource Parser.parse
  rw [hblind]
  generalize (do Parser.feedAll (Scan.ofString source); Parser.finish :
    Step (Parser Listing) Unit) (Parser.start .empty) = r
  cases r <;> rfl

end Recording

/-! ## Scanning without places -/

namespace Scan

theorem unplaced_append (s s' : Scan) :
    (s.append s').unplaced = s.unplaced.append s'.unplaced := by
  obtain ⟨ts, _ | stray⟩ := s
  · exact congrArg (Scan.mk · _) List.map_append
  · rfl

/-- Where a text begins makes no difference to its scan but the places. -/
theorem unplaced_ofChars (pos pos' : Nat) (cs : List Char) :
    (ofChars pos cs).unplaced = (ofChars pos' cs).unplaced := by
  fun_induction ofChars pos cs generalizing pos' with
  | case1 pos cs hhead =>
    rw [ofChars_of_head, hhead]
  | case2 pos cs rest hhead ih =>
    rw [ofChars_of_head pos', hhead]
    exact ih _
  | case3 pos cs kind text rest hhead ih =>
    rw [ofChars_of_head pos', hhead]
    exact congrArg (cons _) (ih _)
  | case4 pos cs c hhead =>
    rw [ofChars_of_head pos', hhead]
    rfl

/-- **The shape of a text**: its scan without places, wherever it begins. -/
def shape (cs : List Char) : Scan :=
  (ofChars 0 cs).unplaced

theorem shape_nil : shape [] = .empty := by
  unfold shape
  rw [ofChars_of_head]
  rfl

theorem shape_append (cs : List Char) {ds : List Char} (h : ∀ d ∈ ds.head?, Severs d) :
    shape (cs ++ ds) = (shape cs).append (shape ds) := by
  unfold shape
  rw [ofChars_append 0 cs h, unplaced_append, unplaced_ofChars (0 + cs.length) 0]

/-- White space at the head of a text is skipped. -/
theorem shape_blank {c : Char} (hc : Text.isBlank c = true) (cs : List Char) :
    shape (c :: cs) = shape cs := by
  have hhead : head (c :: cs) = .blank cs := if_pos hc
  unfold shape
  rw [ofChars_of_head, hhead]
  exact unplaced_ofChars _ _ cs

/-- A lexeme at the head of a text is its first token. -/
theorem shape_lexeme {kind : Token.Kind} {text rest : List Char} (h : Spells kind text)
    (hrest : ∀ d ∈ rest.head?, ¬Extends kind text d) :
    shape (text ++ rest) = (shape rest).cons ⟨kind, String.ofList text, 0⟩ := by
  unfold shape
  rw [ofChars_of_head, head_of_spells h hrest]
  exact congrArg (cons _) (unplaced_ofChars _ _ rest)

end Scan

end Abacus
