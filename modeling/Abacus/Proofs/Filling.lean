import Abacus.Proofs.Dialogue
import Abacus.Proofs.Numerals

/-!
# Filling in words

The trial of a template is on zero, and a session then fills the template in
with other words. Going over all that filling in does, one finds that a word
takes the same way through it as zero does. A field asks for the word itself,
or for zero or one, or for what is no integer and the same for all of them
(`Template.Asked.Alike`); a word has few enough digits to be written, and few
enough bits to be rounded to floating point; and everything else that can fail
looks at the template only.

There are two exceptions, and they are the ways in which a template that has
been accepted can fail all the same (`Session.reply_of_accepted`). A field may
present a number as a character (`Template.Piece.asksCharacter`), and most
words are the codes of none. And a layout may mention the value
(`Template.Piece.isFixed`); it is another layout then for another word, and
need not make sense.

A session breaks off in either case, instead of reporting the failure like
those of its lines (`Session.accepted_and_broken`). A template that is
*steady*, which has neither, never breaks a session off
(`Session.broken?_of_steady`).

All this is about templates whose trial is decided (`Template.IsDecided`).
-/

namespace Abacus

namespace Numeral.Binary64

theorem binaryMagnitude_one_le (n : Nat) : binaryMagnitude n 1 ≤ n.log2 := by
  have hlog : Nat.log2 1 = 0 := by decide
  unfold binaryMagnitude
  rw [hlog]
  dsimp only
  split <;> omega

/-- A number of few enough bits is not rounded to infinity. -/
theorem exists_roundNat? {n : Nat} (h : n.log2 < 1023) : ∃ m, roundNat? n = some m := by
  have hmagnitude := binaryMagnitude_one_le n
  have hratio : ∃ m e, ofRatio false n 1 = .finite false m e := by
    unfold ofRatio
    split
    · exact ⟨_, _, rfl⟩
    dsimp only
    rw [if_neg]
    · exact ⟨_, _, rfl⟩
    · unfold precision leastExponent greatestExponent
      split <;> dsimp only <;> omega
  obtain ⟨m, e, hratio⟩ := hratio
  unfold roundNat?
  rw [hratio]
  exact ⟨_, rfl⟩

/-- **Words are floating-point numbers.** -/
theorem exists_roundNat?_of_fits {v : Int} (h : Word.Fits v) :
    ∃ m, roundNat? v.natAbs = some m := by
  refine exists_roundNat? ?_
  calc v.natAbs.log2 = Nat.log 2 v.natAbs := Nat.log2_eq_log_two
    _ ≤ Nat.log 2 (2 ^ 31) := Nat.log_mono_right h.natAbs_le
    _ = 31 := Nat.log_pow (by decide) 31
    _ < 1023 := by decide

end Numeral.Binary64

namespace Template

/-! ## Pieces -/

/-- The type of presentation that a layout names. -/
def typeOf? (spec : List Char) : Option Char :=
  (Spec.read spec).toOption.bind Spec.type?

/-- A code that a text can be made of. -/
def IsCode (v : Int) : Prop :=
  0 ≤ v ∧ v < codeCount

namespace Piece

/-- **A piece whose layout is the same for every value**, because it does not
mention the value itself. -/
def isFixed : Piece → Bool
  | .field _ _ spec => !spec.contains '{'
  | _ => true

/-- Whether a piece presents what it asks for as the character with that
code. -/
def asksCharacter : Piece → Bool
  | .field _ none spec => typeOf? spec = some 'c'
  | _ => false

/-- **A piece that cannot show a value**: what it asks of it, it presents as a
character, and it is an integer that is the code of none. -/
def Unshown (v : Int) : Piece → Prop
  | .field name conversion spec =>
    (Piece.field name conversion spec).asksCharacter = true ∧
      ∃ w, lookup name v = .ok (.integer w) ∧ ¬IsCode w
  | _ => False

theorem asksCharacter_of_unshown {v : Int} {piece : Piece} (h : piece.Unshown v) :
    piece.asksCharacter = true := by
  cases piece with
  | text | broken => exact h.elim
  | field => exact h.1

end Piece

/-- What a piece of a template is filled in with. -/
def fillPiece (levels : Nat) (v : Int) : Piece → Except Failure (List Char)
  | .text cs => .ok cs
  | .broken => .error .malformed
  | .field name conversion spec => do
    let asked ← lookup name v
    let asked ← asked.convert conversion
    let spec ← if spec.contains '{' then fill levels spec v else .ok spec
    asked.present spec

theorem fill_succ (levels : Nat) (template : List Char) (v : Int) :
    fill (levels + 1) template v = do
      let parts ← (pieces (.text []) template).mapM (fillPiece levels v)
      return parts.flatten := by
  rfl

/-! ## From zero to words -/

variable {s : Spec} {type : Char} {v₀ v : Int}

/-- A floating-point form that shows a number shows every word. -/
theorem exists_floatParts (h : ∃ n, floatParts s type v₀ = .ok n) (hv : Word.Fits v) :
    ∃ n, floatParts s type v = .ok n := by
  obtain ⟨n, h⟩ := h
  obtain ⟨m, hround⟩ := Numeral.Binary64.exists_roundNat?_of_fits hv
  unfold floatParts at h ⊢
  rw [hround]
  split at h
  · nomatch h
  dsimp only at h ⊢
  split at h
  · nomatch h
  · rename_i hprecision
    rw [if_neg hprecision]
    exact ⟨_, rfl⟩

/-- An integer presentation that shows a number shows every word, except that
a character shows its code only. -/
theorem answers_integerParts (h : ∃ n, integerParts s type v₀ = .ok n)
    (hv : Word.Fits v) :
    Answers (fun _ => True) (fun e => e = .outOfRange ∧ type = 'c' ∧ ¬IsCode v)
      (integerParts s type v) := by
  obtain ⟨n, h⟩ := h
  unfold integerParts at h ⊢
  split at h
  · nomatch h
  rename_i hplain
  rw [if_neg hplain]
  split at h
  · rename_i htype
    rw [if_pos htype]
    split at h
    · nomatch h
    rename_i hunsigned
    rw [if_neg hunsigned]
    unfold characterParts
    split
    · exact .ok trivial
    · rename_i hcode
      exact .error ⟨rfl, htype, hcode⟩
  rename_i htype
  rw [if_neg htype]
  split
  · exact .ok trivial
  rename_i hbase
  rw [hbase] at h
  dsimp only at h
  split at h
  · rename_i hdecimal
    rw [if_pos hdecimal]
    unfold decimalParts
    rw [if_pos hv.isWritable]
    exact .ok trivial
  · nomatch h

/-- The parts of an integer in the presentation that a layout names. -/
def partsOf (s : Spec) (v : Int) : Except Failure NumberParts :=
  if isFloatType (s.type?.getD 'd') then floatParts s (s.type?.getD 'd') v
  else integerParts s (s.type?.getD 'd') v

theorem answers_partsOf (h : ∃ n, partsOf s v₀ = .ok n) (hv : Word.Fits v) :
    Answers (fun _ => True) (fun e => e = .outOfRange ∧ s.type? = some 'c' ∧ ¬IsCode v)
      (partsOf s v) := by
  unfold partsOf at h ⊢
  split
  · rename_i hfloat
    rw [if_pos hfloat] at h
    obtain ⟨n, hn⟩ := exists_floatParts h hv
    rw [hn]
    exact .ok trivial
  · rename_i hfloat
    rw [if_neg hfloat] at h
    refine (answers_integerParts h hv).mono (fun _ => id) ?_
    rintro e ⟨he, htype, hcode⟩
    refine ⟨he, ?_, hcode⟩
    -- The presentation that stands in for none is another one.
    cases hs : s.type? with
    | none => rw [hs] at htype; nomatch htype
    | some c => rw [hs] at htype; exact congrArg some htype

/-- A layout is read before it is applied to a number. -/
theorem formatInt_eq {spec : List Char} {grouping : Option (Char × Nat)}
    (hs : Spec.read spec = .ok s)
    (hgrouping : s.grouping (s.type?.getD 'd') = .ok grouping) (v : Int) :
    formatInt spec v = (partsOf s v).map (·.layout s grouping) := by
  unfold formatInt partsOf
  rw [hs]
  dsimp only [bind, Except.bind]
  rw [hgrouping]
  dsimp only
  split
  · cases floatParts s (s.type?.getD 'd') v <;> rfl
  · cases integerParts s (s.type?.getD 'd') v <;> rfl

/-- A layout that was taken for a number is taken for every word, except that
one of a character is taken for its code only. -/
theorem answers_formatInt {spec : List Char} (h : ∃ cs, formatInt spec v₀ = .ok cs)
    (hv : Word.Fits v) :
    Answers (fun _ => True)
      (fun e => e = .outOfRange ∧ typeOf? spec = some 'c' ∧ ¬IsCode v)
      (formatInt spec v) := by
  obtain ⟨cs, h⟩ := h
  obtain ⟨s, hs, hrest⟩ := bind_eq_ok_iff.mp h
  obtain ⟨grouping, hgrouping, -⟩ := bind_eq_ok_iff.mp hrest
  have htype : typeOf? spec = s.type? := by rw [typeOf?, hs]; rfl
  have hparts : ∃ n, partsOf s v₀ = .ok n :=
    exists_of_map_eq_ok ((formatInt_eq hs hgrouping v₀).symm.trans h)
  rw [formatInt_eq hs hgrouping, htype]
  exact (answers_partsOf hparts hv).map fun _ _ => trivial

/-- A layout takes every text if it takes one. -/
theorem exists_formatText {spec cs₀ : List Char} (h : ∃ cs, formatText spec cs₀ = .ok cs)
    (text : List Char) : ∃ cs, formatText spec text = .ok cs := by
  obtain ⟨cs, h⟩ := h
  obtain ⟨s, hs, h⟩ := bind_eq_ok_iff.mp h
  obtain ⟨grouping, hgrouping, h⟩ := bind_eq_ok_iff.mp h
  unfold formatText
  rw [hs]
  dsimp only [bind, Except.bind] at h ⊢
  rw [hgrouping]
  dsimp only
  split at h
  · nomatch h
  · rename_i hplain
    rw [if_neg hplain]
    exact ⟨_, rfl⟩

/-! ## Fields -/

namespace Asked

/-- What a field asks of a word, beside what it asks of another number: a word
beside an integer, and beside all else the same. -/
inductive Alike : Asked → Asked → Prop
  | integer (w₀ : Int) {w : Int} (h : Word.Fits w) : Alike (.integer w₀) (.integer w)
  | text (cs : List Char) : Alike (.text cs) (.text cs)
  | other (written : List Char) : Alike (.other written) (.other written)

theorem written?_of_fits (h : Word.Fits v) :
    (Asked.integer v).written? = some (Numeral.intText v).toList := by
  rw [written?, Numeral.intText?, if_pos h.isWritable]
  rfl

/-- Zero, one and what is no integer are alike themselves. -/
theorem alike_of_isBit {asked : Asked} (h : IsBit asked) : asked.Alike asked := by
  cases asked with
  | integer w =>
    refine .integer w ?_
    rcases h with rfl | rfl <;> decide
  | text cs => exact .text cs
  | other written => exact .other written

variable {asked₀ asked reached₀ : Asked}

/-- What has an attribute of one number has that attribute of every word. -/
theorem Alike.exists_get (h : Alike asked₀ asked) {name : List Char}
    (hget : asked₀.get name = .ok reached₀) :
    ∃ reached, asked.get name = .ok reached ∧ Alike reached₀ reached := by
  cases h with
  | text | other => nomatch hget
  | @integer w₀ w hw =>
    unfold get at hget ⊢
    dsimp only at hget ⊢
    split at hget
    case h_2 => nomatch hget
    case h_1 found hfound =>
      obtain rfl := Except.ok.inj hget
      rcases attribute?_cases hfound with ⟨rfl, hself⟩ | ⟨hbit, hcommon⟩
      · exact ⟨.integer w, by rw [hself w], .integer w₀ hw⟩
      · exact ⟨found, by rw [hcommon w], alike_of_isBit hbit⟩

/-- Only texts have items, and the texts are the same. -/
theorem Alike.exists_item (h : Alike asked₀ asked) {index : Index}
    (hitem : asked₀.item index = .ok reached₀) :
    ∃ reached, asked.item index = .ok reached ∧ Alike reached₀ reached := by
  have halike : Alike reached₀ reached₀ :=
    alike_of_isBit ((inRange_item index asked₀).of_eq_ok hitem)
  cases h with
  | integer => cases index <;> nomatch hitem
  | text | other => exact ⟨reached₀, hitem, halike⟩

theorem Alike.exists_converted? (h : Alike asked₀ asked) {c : Char} {cs₀ : List Char}
    (hconverted : asked₀.converted? c = some cs₀) : ∃ cs, asked.converted? c = some cs := by
  cases h with
  | text | other => exact ⟨cs₀, hconverted⟩
  | @integer w₀ w hw =>
    have hwritten : (Asked.integer w).converted? c = (Asked.integer w).written? := rfl
    exact ⟨_, hwritten.trans (written?_of_fits hw)⟩

/-- A conversion gives texts, and one of a number gives one of every word. -/
theorem Alike.exists_text (h : Alike asked₀ asked) {c : Char}
    (hconvert : asked₀.convert (some c) = .ok reached₀) :
    ∃ cs₀ cs, reached₀ = .text cs₀ ∧ asked.convert (some c) = .ok (.text cs) := by
  unfold convert at hconvert ⊢
  dsimp only at hconvert ⊢
  split at hconvert
  case isFalse => nomatch hconvert
  case isTrue hknown =>
    rw [if_pos hknown]
    split at hconvert
    case h_1 cs₀ hcs₀ =>
      obtain ⟨cs, hcs⟩ := h.exists_converted? hcs₀
      exact ⟨cs₀, cs, (Except.ok.inj hconvert).symm, by rw [hcs]⟩
    case h_2 => nomatch hconvert

theorem Alike.exists_convert (h : Alike asked₀ asked) {conversion : Option Char}
    (hconvert : asked₀.convert conversion = .ok reached₀) :
    ∃ reached, asked.convert conversion = .ok reached := by
  cases conversion with
  | none => exact ⟨asked, rfl⟩
  | some c =>
    obtain ⟨-, cs, -, hcs⟩ := h.exists_text hconvert
    exact ⟨.text cs, hcs⟩

/-- **What was presented of one number is presented of every word**, except that
a character is presented of its code only. -/
theorem Alike.answers_present (h : Alike asked₀ asked) {spec : List Char}
    (hpresent : ∃ cs, asked₀.present spec = .ok cs) :
    Answers (fun _ => True)
      (fun e => e = .outOfRange ∧ typeOf? spec = some 'c' ∧
        ∃ w, asked = .integer w ∧ ¬IsCode w)
      (asked.present spec) := by
  cases h with
  | text | other =>
    obtain ⟨cs, hcs⟩ := hpresent
    rw [hcs]
    exact .ok trivial
  | @integer w₀ w hw =>
    unfold present at hpresent ⊢
    split
    · rw [written?_of_fits hw]
      exact .ok trivial
    · rename_i hspec
      rw [if_neg hspec] at hpresent
      exact (answers_formatInt hpresent hw).mono (fun _ => id)
        fun e ⟨he, htype, hcode⟩ => ⟨he, htype, w, rfl, hcode⟩

/-- What is presented of one text is presented of all. -/
theorem exists_present_text {spec cs₀ : List Char}
    (h : ∃ shown, (Asked.text cs₀).present spec = .ok shown) (cs : List Char) :
    ∃ shown, (Asked.text cs).present spec = .ok shown := by
  unfold present at h ⊢
  split
  · exact ⟨cs, rfl⟩
  · rename_i hspec
    rw [if_neg hspec] at h
    exact exists_formatText h cs

end Asked

/-- Accessors that can be followed from a number can be followed from every
word, to what is alike. -/
theorem exists_follow {accessors : List Char} {asked₀ reached₀ : Asked}
    (h : follow accessors asked₀ = .ok reached₀) {asked : Asked}
    (halike : asked₀.Alike asked) :
    ∃ reached, follow accessors asked = .ok reached ∧ reached₀.Alike reached := by
  revert asked
  fun_induction follow accessors asked₀ with
  | case1 =>
    intro asked halike
    obtain rfl := Except.ok.inj h
    exact ⟨asked, by rw [follow], halike⟩
  | case2 | case4 | case5 | case7 | case8 => cases h
  | case3 asked₀ rest name hname _ hget ih =>
    intro asked halike
    obtain ⟨next, hnext, halike⟩ := halike.exists_get hget
    rw [follow, if_neg hname, hnext]
    exact ih h halike
  | case6 asked₀ rest item hitem _ hget ih =>
    intro asked halike
    obtain ⟨next, hnext, halike⟩ := halike.exists_item hget
    rw [follow, if_neg hitem, hnext]
    exact ih h halike

/-- **A field that asks something of one number asks what is alike of every
word.** -/
theorem exists_lookup {name : List Char} {asked₀ : Asked}
    (h : lookup name v₀ = .ok asked₀) (hv : Word.Fits v) :
    ∃ asked, lookup name v = .ok asked ∧ asked₀.Alike asked := by
  unfold lookup at h ⊢
  dsimp only at h ⊢
  split at h
  · nomatch h
  rename_i hfirst
  rw [if_neg hfirst]
  split at h
  · nomatch h
  · nomatch h
  split at h
  · rename_i hvalue
    rw [if_pos hvalue]
    exact exists_follow h (.integer v₀ hv)
  · nomatch h

/-! ## Templates -/

/-- A field is looked up, converted and laid out, in that order. -/
theorem fillPiece_field (levels : Nat) (v : Int) (name : List Char)
    (conversion : Option Char) (spec : List Char) :
    fillPiece levels v (.field name conversion spec) =
      lookup name v >>= fun asked => asked.convert conversion >>= fun asked =>
        (if spec.contains '{' then fill levels spec v else .ok spec) >>= fun spec =>
          asked.present spec := by
  unfold fillPiece
  dsimp only
  cases spec.contains '{' <;> rfl

/-- A field whose layout does not mention the value. -/
theorem fillPiece_fixed {spec : List Char} (hspec : spec.contains '{' = false)
    (levels : Nat) (v : Int) (name : List Char) (conversion : Option Char) :
    fillPiece levels v (.field name conversion spec) =
      lookup name v >>= fun asked => asked.convert conversion >>= (·.present spec) := by
  rw [fillPiece_field, hspec]
  rfl

/-- **A template that was filled in with one number leaves nothing open** when it
is filled in with a word, by induction on the levels at which layouts mention
the value. -/
theorem ne_leftOpen_fill {levels : Nat} {template : List Char}
    (h : ∃ cs, fill levels template v₀ = .ok cs) (hv : Word.Fits v) :
    Answers (fun _ => True) (· ≠ .leftOpen) (fill levels template v) := by
  induction levels generalizing template with
  | zero => exact .error (by decide)
  | succ levels ih =>
    obtain ⟨_, h⟩ := h
    rw [fill_succ] at h ⊢
    obtain ⟨parts, hparts, -⟩ := bind_eq_ok_iff.mp h
    refine (Answers.mapM fun piece hpiece => ?_).bind fun _ _ => .ok trivial
    obtain ⟨_, hfilled⟩ := exists_of_mapM_eq_ok hparts piece hpiece
    cases piece with
    | text => exact .ok trivial
    | broken => nomatch hfilled
    | field name conversion spec =>
      rw [fillPiece_field] at hfilled ⊢
      obtain ⟨asked₀, hasked₀, hfilled⟩ := bind_eq_ok_iff.mp hfilled
      obtain ⟨_, hconvert₀, hfilled⟩ := bind_eq_ok_iff.mp hfilled
      obtain ⟨spec₀, hspec₀, -⟩ := bind_eq_ok_iff.mp hfilled
      obtain ⟨asked, hasked, halike⟩ := exists_lookup hasked₀ hv
      obtain ⟨reached, hreached⟩ := halike.exists_convert hconvert₀
      have hspec : Answers (fun _ => True) (· ≠ .leftOpen)
          (if spec.contains '{' then fill levels spec v else .ok spec) := by
        split
        case isFalse => exact .ok trivial
        case isTrue hmentions =>
          rw [if_pos hmentions] at hspec₀
          exact ih ⟨spec₀, hspec₀⟩
      rw [hasked]
      show Answers _ _ (asked.convert conversion >>= _)
      rw [hreached]
      exact hspec.bind fun spec _ => (presents_asked spec reached).mono
        (fun _ => id) fun _ he => he.ne_leftOpen

/-- **A piece that was filled in with one number can be filled in with every
word**, except that a character is filled in with its code only. -/
theorem answers_fillPiece {levels : Nat} {piece : Piece} (hpiece : piece.isFixed = true)
    (h : ∃ cs, fillPiece levels v₀ piece = .ok cs) (hv : Word.Fits v) :
    Answers (fun _ => True) (fun e => e = .outOfRange ∧ piece.Unshown v)
      (fillPiece levels v piece) := by
  cases piece with
  | text cs => exact .ok trivial
  | broken => nomatch h.choose_spec
  | field name conversion spec =>
    have hspec : spec.contains '{' = false := Bool.not_eq_eq_eq_not.mp hpiece
    obtain ⟨_, h⟩ := h
    rw [fillPiece_fixed hspec] at h ⊢
    obtain ⟨asked₀, hasked₀, h⟩ := bind_eq_ok_iff.mp h
    obtain ⟨reached₀, hreached₀, h⟩ := bind_eq_ok_iff.mp h
    obtain ⟨asked, hasked, halike⟩ := exists_lookup hasked₀ hv
    rw [hasked]
    cases conversion with
    | none =>
      obtain rfl := Except.ok.inj hreached₀
      refine (halike.answers_present ⟨_, h⟩).mono (fun _ => id) ?_
      rintro e ⟨he, htype, w, rfl, hcode⟩
      exact ⟨he, decide_eq_true htype, w, hasked, hcode⟩
    | some c =>
      obtain ⟨cs₀, cs, rfl, hcs⟩ := halike.exists_text hreached₀
      obtain ⟨shown, hshown⟩ := Asked.exists_present_text ⟨_, h⟩ cs
      have hfilled : asked.convert (some c) >>= (·.present spec) = .ok shown := by
        rw [hcs]
        exact hshown
      exact hfilled ▸ .ok trivial

/-- The pieces of a template. -/
def piecesOf (template : String) : List Piece :=
  pieces (.text []) template.toList

theorem render_eq (template : String) (v : Int) :
    render template v = ((piecesOf template).mapM (fillPiece 1 v)).map fun parts =>
      String.ofList parts.flatten := by
  unfold render levels
  rw [fill_succ, ← piecesOf]
  cases (piecesOf template).mapM (fillPiece 1 v) <;> rfl

/-- **A template that shows one word shows every word**, unless one of its
pieces cannot be filled in. The layout of such a piece mentions the value, or
the piece would have to show as a character what is the code of none. -/
theorem answers_render {template : String}
    (h : ∃ text, render template v₀ = .ok text) (hv : Word.Fits v) :
    Answers (fun _ => True)
      (fun e => ∃ piece ∈ piecesOf template, fillPiece 1 v piece = .error e ∧
        (piece.isFixed = false ∨ e = .outOfRange ∧ piece.Unshown v))
      (render template v) := by
  obtain ⟨text, h⟩ := h
  obtain ⟨parts, hparts⟩ := exists_of_map_eq_ok ((render_eq template v₀).symm.trans h)
  rw [render_eq]
  refine (Answers.mapM fun piece hpiece => ?_).map fun _ _ => trivial
  have hshown := exists_of_mapM_eq_ok hparts piece hpiece
  cases hfill : fillPiece 1 v piece with
  | ok cs => exact .ok trivial
  | error e =>
    refine .error ⟨piece, hpiece, hfill, ?_⟩
    cases hfixed : piece.isFixed with
    | false => exact .inl rfl
    | true => exact .inr ((answers_fillPiece hfixed hshown hv).of_eq_error hfill)

/-- **A template that shows one number leaves nothing open** for a word. -/
theorem render_ne_leftOpen {template : String}
    (h : ∃ text, render template v₀ = .ok text) (hv : Word.Fits v) :
    render template v ≠ .error .leftOpen := by
  have hfill : ∃ cs, fill levels template.toList v₀ = .ok cs :=
    exists_of_map_eq_ok h.choose_spec
  exact fun hopen => Answers.of_eq_error
    ((ne_leftOpen_fill hfill hv).map (Q := fun _ => True) fun _ _ => trivial) hopen rfl

/-- **A steady template**: no layout in it mentions the value, and it presents
nothing as a character. -/
def IsSteady (template : String) : Prop :=
  ∀ piece ∈ piecesOf template, piece.isFixed = true ∧ piece.asksCharacter = false

instance (template : String) : Decidable (IsSteady template) :=
  inferInstanceAs (Decidable (∀ _ ∈ _, _))

/-- **A steady template that shows one word shows every word.** -/
theorem exists_render_of_steady {template : String} (hsteady : IsSteady template)
    (h : ∃ text, render template v₀ = .ok text) (hv : Word.Fits v) :
    ∃ text, render template v = .ok text := by
  cases hrender : render template v with
  | ok text => exact ⟨text, rfl⟩
  | error e =>
    obtain ⟨piece, hpiece, -, hcause⟩ := (answers_render h hv).of_eq_error hrender
    obtain ⟨hfixed, hplain⟩ := hsteady piece hpiece
    rcases hcause with hmentions | ⟨-, hunshown⟩
    · cases hfixed.symm.trans hmentions
    · cases hplain.symm.trans (Piece.asksCharacter_of_unshown hunshown)

end Template

/-! ## Environments of words -/

/-- **An environment of words**, whatever its names are. -/
def Environment.HasWords (env : Environment) : Prop :=
  ∀ x v, env.get? x = some v → Word.Fits v

namespace Environment

variable {env : Environment}

theorem hasWords_empty : empty.HasWords := nofun

theorem WellFormed.hasWords (h : env.WellFormed) : env.HasWords :=
  fun x v hv => (h x v hv).2

theorem HasWords.bind (h : env.HasWords) {v : Int} (hv : Word.Fits v) (x : String) :
    (env.bind x v).HasWords := by
  intro y w hy
  rw [get?_bind] at hy
  split at hy
  · exact Option.some.inj hy ▸ hv
  · exact h y w hy

/-- **Having words is an invariant** of all lines. -/
def wordValues : Invariant where
  Name _ := True
  Value := Word.Fits
  Allowed _ := True
  Holds := HasWords
  value_of_get? h _ hget := h _ _ hget
  value_wrap := Word.fits_wrap
  assign _ h _ hv := h.bind hv _
  update _ _ h _ _ := h.bind (Word.fits_wrap _) _

theorem covers_wordValues (source : String) : wordValues.similarity.Covers source :=
  Similarity.covers_of_tokens
    (fun _ ht hk _ hv => fits_of_literalValue ((Scan.isLexeme_of_mem ht).1 hk) hv)
    (fun _ _ _ => trivial) fun _ _ _ _ => trivial

theorem HasWords.after (h : env.HasWords) (lines : List String) :
    (env.after lines).HasWords :=
  wordValues.holds_after covers_wordValues h lines

/-- The value of a line is a word, if those of the variables are. -/
theorem HasWords.fits (h : env.HasWords) {source : String} {v : Int}
    (hv : (evaluate source env).outcome = .ok v) : Word.Fits v :=
  (wordValues.holds_evaluate (covers_wordValues source) h).2 v hv

end Environment

/-! ## Sessions -/

namespace Session

open Template

/-- **A steady template never breaks a session off**, once it has shown zero. -/
theorem broken?_of_steady {settings : Settings} {env : Environment}
    (hzero : ∃ text, render settings.template 0 = .ok text)
    (hsteady : IsSteady settings.template) (henv : env.HasWords) (raws : List String) :
    (run settings env raws).broken? = none := by
  have hshows : Shows settings.template env (answered raws) := fun i _ v hv =>
    exists_render_of_steady hsteady hzero ((henv.after _).fits hv)
  rw [run_eq_finish hshows]
  rfl

/-- **Settings that are loaded, with a steady template, answer all lines.** -/
theorem broken?_of_load {documents : Documents} {path? : Option String}
    {settings : Settings} (hload : Settings.load documents path? = .ok settings)
    (hsteady : IsSteady settings.template) (raws : List String) :
    (run settings settings.initial raws).broken? = none :=
  have hsound := Settings.sound_of_load hload
  broken?_of_steady hsound.usable hsteady hsound.wellFormed.hasWords raws

/-- **A template that may be accepted**: it is, or that is left open. -/
def MayBeAccepted (template : String) : Prop :=
  Settings.checkTemplate template = .ok template ∨ ¬IsDecided template

/-- An accepted template has shown zero. -/
theorem exists_render_zero {template : String} (hdecided : IsDecided template)
    (h : MayBeAccepted template) : ∃ text, render template 0 = .ok text := by
  have haccepted : Settings.checkTemplate template = .ok template :=
    h.resolve_right (not_not_intro hdecided)
  unfold Settings.checkTemplate at haccepted
  split at haccepted
  · rename_i text htext
    exact ⟨text, htext⟩
  · nomatch haccepted

/-- **What an accepted template may do** on variables that are words, if its
trial is decided. It shows what a line computes, unless one of its pieces
cannot be filled in with it; then the layout of that piece mentions the value,
or the piece would have to show as a character what is the code of none. A
template without pieces of these two kinds answers all lines, and no session
with it breaks off. -/
theorem reply_of_accepted {template : String} {env : Environment}
    (hdecided : IsDecided template) (haccepted : MayBeAccepted template)
    (henv : env.HasWords) :
    (∀ line, (∃ text, (reply template line env).text = .ok text) ∨
      ∃ v e, (evaluate line env).outcome = .ok v ∧
        (reply template line env).text = .error e ∧ e ≠ .leftOpen ∧
        ∃ piece ∈ piecesOf template, fillPiece 1 v piece = .error e ∧
          (piece.isFixed = false ∨ e = .outOfRange ∧ piece.Unshown v)) ∧
    (IsSteady template →
      (∀ line, ∃ text, (reply template line env).text = .ok text) ∧
      ∀ settings : Settings, settings.template = template → ∀ raws,
        (run settings env raws).broken? = none) := by
  have hzero := exists_render_zero hdecided haccepted
  refine ⟨fun line => ?_, fun hsteady => ⟨fun line => ?_, ?_⟩⟩
  · cases houtcome : (evaluate line env).outcome with
    | error fault => exact .inl ⟨_, text_reply_of_error houtcome⟩
    | ok v =>
      rw [text_reply_of_ok houtcome]
      cases hrender : render template v with
      | ok text => exact .inl ⟨text, rfl⟩
      | error e =>
        exact .inr ⟨v, e, rfl, rfl,
          fun hopen => render_ne_leftOpen hzero (henv.fits houtcome) (hopen ▸ hrender),
          (answers_render hzero (henv.fits houtcome)).of_eq_error hrender⟩
  · exact exists_text_of_shown fun v hv =>
      exists_render_of_steady hsteady hzero (henv.fits hv)
  · rintro settings rfl raws
    exact broken?_of_steady hzero hsteady henv raws

/-- A steady template, with a layout and with an attribute that is no integer. -/
def steadySample : String := "\x7bvalue:>4\x7d of \x7bvalue.__class__\x7d"

theorem reply_of_accepted_sample :
    IsDecided steadySample ∧ MayBeAccepted steadySample ∧
      (Environment.empty.bind "a" (-1)).HasWords ∧ IsSteady steadySample ∧
      ∀ line, ∃ text,
        (reply steadySample line (Environment.empty.bind "a" (-1))).text = .ok text := by
  have hdecided : IsDecided steadySample := by decide +kernel
  have haccepted : MayBeAccepted steadySample :=
    .inl (eq_ok_of_toOption (by decide +kernel))
  have hwords : (Environment.empty.bind "a" (-1)).HasWords :=
    Environment.hasWords_empty.bind (by decide) "a"
  have hsteady : IsSteady steadySample := by decide +kernel
  exact ⟨hdecided, haccepted, hwords, hsteady,
    ((reply_of_accepted hdecided haccepted hwords).2 hsteady).1⟩

/-- **An accepted template may break a session off.** The two kinds that are
not steady: a character, and a layout that mentions the value. Both show zero,
and the first line of the session computes a number that they cannot show. -/
theorem accepted_and_broken :
    Environment.empty.HasWords ∧
    (Settings.checkTemplate "\x7bvalue:c\x7d" = .ok "\x7bvalue:c\x7d" ∧
      (reply "\x7bvalue:c\x7d" "-1" .empty).text = .error .outOfRange ∧
      (run { Settings.default with template := "\x7bvalue:c\x7d" } .empty
        ["-1\n", "1\n"]).broken? = some .outOfRange) ∧
    (Settings.checkTemplate "\x7bvalue:.\x7bvalue\x7df\x7d"
        = .ok "\x7bvalue:.\x7bvalue\x7df\x7d" ∧
      (reply "\x7bvalue:.\x7bvalue\x7df\x7d" "-1" .empty).text = .error .malformed ∧
      (run { Settings.default with template := "\x7bvalue:.\x7bvalue\x7df\x7d" } .empty
        ["-1\n", "1\n"]).broken? = some .malformed) := by
  refine ⟨Environment.hasWords_empty, ⟨eq_ok_of_toOption ?_, ?_, ?_⟩,
    eq_ok_of_toOption ?_, ?_, ?_⟩ <;> decide +kernel

end Session

end Abacus
