import Abacus.Proofs.InitialVariables

/-!
# Trying a template out

A template is tried out on zero before it is taken for answers. Of the ways in
which a template can fail there is one that the trial does not find: a value
out of range (`Template.render_zero_ne_outOfRange`). What a field can ask for
is the value or one of its attributes, and if that is an integer, then of zero
it is zero or one; both are codes of characters, and both are floating-point
numbers.

So a template that passes may still fail on a result, as `{value:c}` does on
a negative one.

Not every trial is decided here. A template may ask for an attribute of what
is no integer, as `{value.__class__.__name__}` does, and whether there is one
is left open; of all others, the *decided* ones (`Template.IsDecided`), the
trial is known.
-/

namespace Abacus

namespace Template

/-- **A template whose trial is decided**: on its way through it, the trial on
zero asks for no attribute of what is no integer. -/
def IsDecided (template : String) : Prop :=
  render template 0 ≠ .error .leftOpen

instance (template : String) : Decidable (IsDecided template) :=
  inferInstanceAs (Decidable (_ ≠ _))

/-- What a template can make of zero, if it is an integer. -/
def IsBit : Asked → Prop
  | .integer v => v = 0 ∨ v = 1
  | .text _ | .other _ => True

/-- A step that may fail, but not because a value is out of range. -/
abbrev InRange {α : Type} (P : α → Prop) (r : Except Failure α) : Prop :=
  Answers P (· ≠ .outOfRange) r

theorem Attribute.isBit_of_mem_common {e : String × Asked} (h : e ∈ common) :
    IsBit e.2 := by
  unfold common at h
  simp only [List.mem_append, List.mem_cons, List.not_mem_nil, or_false, List.mem_map] at h
  rcases h with (((rfl | rfl | rfl | rfl) | ⟨_, _, rfl⟩) | ⟨_, _, rfl⟩) | ⟨_, _, rfl⟩
  · exact .inl rfl
  · exact .inr rfl
  all_goals exact trivial

/-- An attribute of an integer is that integer itself, or the same for all. -/
theorem attribute?_cases {name : List Char} {v : Int} {asked : Asked}
    (h : attribute? name v = some asked) :
    (asked = .integer v ∧ ∀ w, attribute? name w = some (.integer w)) ∨
      (IsBit asked ∧ ∀ w, attribute? name w = some asked) := by
  unfold attribute? at h ⊢
  split at h
  · rename_i hname
    exact .inl ⟨(Option.some.inj h).symm, fun w => if_pos hname⟩
  · rename_i hname
    obtain ⟨e, he, rfl⟩ := Option.map_eq_some_iff.mp h
    exact .inr ⟨Attribute.isBit_of_mem_common (List.mem_of_find?_eq_some he),
      fun w => (if_neg hname).trans h⟩

theorem inRange_get (name : List Char) {asked : Asked} (h : IsBit asked) :
    InRange IsBit (asked.get name) := by
  cases asked with
  | text | other => exact .error (by decide)
  | integer v =>
    unfold Asked.get
    dsimp only
    split
    case h_1 member hmember =>
      rcases attribute?_cases hmember with ⟨rfl, -⟩ | ⟨hbit, -⟩
      · exact .ok h
      · exact .ok hbit
    case h_2 => exact .error (by decide)

theorem inRange_item (index : Index) (asked : Asked) :
    InRange IsBit (asked.item index) := by
  unfold Asked.item
  split
  · exact .error (by decide)
  · split
    · exact .ok trivial
    · exact .error (by decide)
  · exact .error (by decide)

/-- The accessors of a field lead from zero and one to zero and one again, or
to what is no integer. -/
theorem inRange_follow (accessors : List Char) {asked : Asked} (h : IsBit asked) :
    InRange IsBit (follow accessors asked) := by
  fun_induction follow accessors asked with
  | case1 => exact .ok h
  | case2 | case5 | case8 => exact .error (by decide)
  | case3 asked rest name _ reached hget ih => exact ih ((inRange_get _ h).of_eq_ok hget)
  | case4 asked rest name _ failure hget =>
    exact .error ((inRange_get _ h).of_eq_error hget)
  | case6 asked rest item _ reached hitem ih => exact ih ((inRange_item _ _).of_eq_ok hitem)
  | case7 asked rest item _ failure hitem =>
    exact .error ((inRange_item _ _).of_eq_error hitem)

theorem inRange_lookup (name : List Char) {v : Int} (hv : IsBit (.integer v)) :
    InRange IsBit (lookup name v) := by
  unfold lookup
  dsimp only
  split
  · exact .error (by decide)
  split
  · exact .error (by decide)
  · exact .error (by decide)
  split
  · exact inRange_follow _ hv
  · exact .error (by decide)

theorem inRange_convert (conversion : Option Char) {asked : Asked} (h : IsBit asked) :
    InRange IsBit (asked.convert conversion) := by
  unfold Asked.convert
  split
  · exact .ok h
  split
  · split
    · exact .ok trivial
    · exact .error (by decide)
  · exact .error (by decide)

/-! ## What can fail in presenting -/

/-- A step that fails, if it does, on something malformed. -/
abbrev MalformedOnly {α : Type} (r : Except Failure α) : Prop :=
  Answers (fun _ => True) (· = .malformed) r

theorem malformedOnly_readSize (cs : List Char) : MalformedOnly (Spec.readSize cs) := by
  unfold Spec.readSize
  dsimp only
  split
  · exact .ok trivial
  split
  · exact .ok trivial
  · exact .error rfl

theorem malformedOnly_readSeparator (cs : List Char) :
    MalformedOnly (Spec.readSeparator cs) := by
  unfold Spec.readSeparator
  split
  · exact .error rfl
  · exact .error rfl
  all_goals exact .ok trivial

theorem malformedOnly_readPrecision (cs : List Char) :
    MalformedOnly (Spec.readPrecision cs) := by
  unfold Spec.readPrecision
  split
  · refine (malformedOnly_readSize _).bind fun s _ => ?_
    obtain ⟨_ | _, _⟩ := s
    · exact .error rfl
    · exact .ok trivial
  · exact .ok trivial

theorem malformedOnly_readType (cs : List Char) : MalformedOnly (Spec.readType cs) := by
  unfold Spec.readType
  split
  · exact .ok trivial
  · exact .ok trivial
  · exact .error rfl

/-- A specification is read or malformed. -/
theorem malformedOnly_read (cs : List Char) : MalformedOnly (Spec.read cs) :=
  (malformedOnly_readSize _).bind fun _ _ => (malformedOnly_readSeparator _).bind fun _ _ =>
    (malformedOnly_readPrecision _).bind fun _ _ => (malformedOnly_readType _).bind fun _ _ =>
      .ok trivial

theorem malformedOnly_grouping (s : Spec) (type : Char) :
    MalformedOnly (s.grouping type) := by
  unfold Spec.grouping
  split
  · exact .ok trivial
  split
  · exact .ok trivial
  · exact .error rfl

theorem malformedOnly_formatText (spec text : List Char) :
    MalformedOnly (formatText spec text) := by
  refine (malformedOnly_read spec).bind fun s _ =>
    (malformedOnly_grouping s _).bind fun _ _ => ?_
  dsimp only
  split
  · exact .error rfl
  · exact .ok trivial

/-- The failures in presenting what a field asks for. Zero and one are never
out of range. -/
def Unpresented (asked : Asked) (e : Failure) : Prop :=
  e = .malformed ∨ e = .noLayout ∨ e = .outOfRange ∧ ¬IsBit asked

/-- A step in presenting what a field asks for. -/
abbrev Presents {α : Type} (asked : Asked) (r : Except Failure α) : Prop :=
  Answers (fun _ => True) (Unpresented asked) r

theorem MalformedOnly.presents {α : Type} {r : Except Failure α} (h : MalformedOnly r)
    (asked : Asked) : Presents asked r :=
  h.mono (fun _ => id) fun _ => .inl

/-- Zero and one are the codes of characters. -/
theorem presents_characterParts (v : Int) :
    Presents (.integer v) (characterParts v) := by
  unfold characterParts
  split
  case isTrue => exact .ok trivial
  case isFalse hcode =>
    refine .error (.inr (.inr ⟨rfl, fun hbit => hcode ?_⟩))
    rcases hbit with rfl | rfl <;> decide

theorem malformedOnly_decimalParts (v : Int) : MalformedOnly (decimalParts v) := by
  unfold decimalParts
  cases Numeral.isWritable v with
  | true => exact .ok trivial
  | false => exact .error rfl

theorem presents_integerParts (s : Spec) (type : Char) (v : Int) :
    Presents (.integer v) (integerParts s type v) := by
  unfold integerParts
  split
  · exact .error (.inl rfl)
  split
  · split
    · exact .error (.inl rfl)
    · exact presents_characterParts v
  split
  · exact .ok trivial
  split
  · exact (malformedOnly_decimalParts v).presents _
  · exact .error (.inl rfl)

/-- Zero and one are floating-point numbers. -/
theorem presents_floatParts (s : Spec) (type : Char) (v : Int) :
    Presents (.integer v) (floatParts s type v) := by
  unfold floatParts
  split
  case h_1 hround =>
    refine .error (.inr (.inr ⟨rfl, fun hbit => ?_⟩))
    rcases hbit with rfl | rfl <;> nomatch hround
  case h_2 =>
    dsimp only
    split
    · exact .error (.inl rfl)
    · exact .ok trivial

theorem presents_formatInt (spec : List Char) (v : Int) :
    Presents (.integer v) (formatInt spec v) := by
  refine ((malformedOnly_read spec).presents _).bind fun s _ =>
    ((malformedOnly_grouping s _).presents _).bind fun _ _ => ?_
  dsimp only
  split
  · exact (presents_floatParts _ _ v).bind fun _ _ => .ok trivial
  · exact (presents_integerParts _ _ v).bind fun _ _ => .ok trivial

/-- **Presenting fails in three ways at most**, and on zero and one not because
they are out of range. -/
theorem presents_asked (spec : List Char) (asked : Asked) :
    Presents asked (asked.present spec) := by
  unfold Asked.present
  split
  · split
    · exact .ok trivial
    · exact .error (.inl rfl)
  split
  · exact presents_formatInt _ _
  · exact (malformedOnly_formatText _ _).presents _
  · exact .error (.inr (.inl rfl))

theorem Unpresented.ne_outOfRange {asked : Asked} {e : Failure} (h : Unpresented asked e)
    (hasked : IsBit asked) : e ≠ .outOfRange := by
  rcases h with rfl | rfl | ⟨-, hbit⟩
  · decide
  · decide
  · exact absurd hasked hbit

theorem Unpresented.ne_leftOpen {asked : Asked} {e : Failure} (h : Unpresented asked e) :
    e ≠ .leftOpen := by
  rcases h with rfl | rfl | ⟨rfl, -⟩ <;> decide

/-! ## The trial -/

/-- **No template finds zero or one out of range**, by induction on the levels
at which layouts mention the value. -/
theorem inRange_fill (levels : Nat) (template : List Char) {v : Int}
    (hv : IsBit (.integer v)) : InRange (fun _ => True) (fill levels template v) := by
  induction levels generalizing template with
  | zero => exact .error (by decide)
  | succ levels ih =>
    unfold fill
    refine (Answers.mapM fun piece _ => ?_).bind fun _ _ => .ok trivial
    cases piece with
    | text => exact .ok trivial
    | broken => exact .error (by decide)
    | field name conversion spec =>
      refine (inRange_lookup name hv).bind fun asked hasked => ?_
      refine (inRange_convert conversion hasked).bind fun asked hasked => ?_
      have hpresent (spec : List Char) : InRange (fun _ => True) (asked.present spec) :=
        (presents_asked spec asked).mono (fun _ => id) fun _ h => h.ne_outOfRange hasked
      dsimp only
      split
      · exact (ih spec).bind fun _ _ => hpresent _
      · exact hpresent _

/-- **A template that fails on zero does not fail because a value is out of
range.** -/
theorem render_zero_ne_outOfRange (template : String) :
    render template 0 ≠ .error .outOfRange :=
  fun h => Answers.of_eq_error ((inRange_fill levels template.toList (.inl rfl)).map
    (Q := fun _ => True) fun _ _ => trivial) h rfl

end Template

end Abacus
