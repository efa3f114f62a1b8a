import Abacus.Program
import Abacus.Proofs.Numerals

/-!
# The variables that a session begins with

An environment by itself binds any text to any integer. Those that a session
begins with are better than that: a settings document and the assignments of
a command line go through one and the same check, and what passes it is a
name that a line can use and a word (`Variable.answers_check`). So the
environment that is built of them is *well formed*
(`Environment.WellFormed`), however many there are, and in whatever order a
later one takes the place of an earlier one.

What does not pass is refused, and the refusal can be put into words, unless
these would have to show an integer that has too many digits. Both sides are
told together, of the check and of the readers that call it: what holds of
the result, and what of the refusal (`Answers`).
-/

namespace Abacus

/-! ## Results and refusals -/

theorem eq_ok_of_toOption {ε α : Type} {r : Except ε α} {a : α}
    (h : r.toOption = some a) : r = .ok a := by
  cases r with
  | ok b => exact congrArg Except.ok (Option.some.inj h)
  | error e => cases h

theorem bind_eq_ok_iff {ε α β : Type} {r : Except ε α} {f : α → Except ε β} {b : β} :
    r >>= f = .ok b ↔ ∃ a, r = .ok a ∧ f a = .ok b := by
  cases r with
  | ok a => exact ⟨fun h => ⟨a, rfl, h⟩, fun ⟨_, h, hf⟩ => Except.ok.inj h ▸ hf⟩
  | error e => exact ⟨nofun, fun ⟨_, h, _⟩ => nomatch h⟩

theorem exists_of_map_eq_ok {ε α β : Type} {r : Except ε α} {f : α → β} {b : β}
    (h : r.map f = .ok b) : ∃ a, r = .ok a := by
  cases r with
  | ok a => exact ⟨a, rfl⟩
  | error e => nomatch h

/-- If a list can be read, then so can each of its elements. -/
theorem exists_of_mapM_eq_ok {ε α β : Type} {f : α → Except ε β} {as : List α}
    {bs : List β} (h : as.mapM f = .ok bs) : ∀ a ∈ as, ∃ b, f a = .ok b := by
  induction as generalizing bs with
  | nil => exact List.forall_mem_nil _
  | cons a as ih =>
    rw [List.mapM_cons, bind_eq_ok_iff] at h
    obtain ⟨b, hb, h⟩ := h
    obtain ⟨bs, hbs, -⟩ := bind_eq_ok_iff.mp h
    exact List.forall_mem_cons.mpr ⟨⟨b, hb⟩, ih hbs⟩

/-- **An answer**: a result, of which `P` holds, or a refusal, of which `E`
holds. -/
inductive Answers {ε α : Type} (P : α → Prop) (E : ε → Prop) : Except ε α → Prop
  | ok {a : α} : P a → Answers P E (.ok a)
  | error {e : ε} : E e → Answers P E (.error e)

namespace Answers

variable {ε α β : Type} {P P' : α → Prop} {Q : β → Prop} {E E' : ε → Prop}
  {r : Except ε α}

theorem of_eq_ok {a : α} (h : Answers P E r) (hr : r = .ok a) : P a := by
  cases h with
  | ok ha => exact Except.ok.inj hr ▸ ha
  | error => cases hr

theorem of_eq_error {e : ε} (h : Answers P E r) (hr : r = .error e) : E e := by
  cases h with
  | ok => cases hr
  | error he => exact Except.error.inj hr ▸ he

theorem mono (h : Answers P E r) (hP : ∀ a, P a → P' a) (hE : ∀ e, E e → E' e) :
    Answers P' E' r := by
  cases h with
  | ok ha => exact .ok (hP _ ha)
  | error he => exact .error (hE _ he)

/-- What is read of a result answers for both. -/
theorem bind {f : α → Except ε β} (h : Answers P E r)
    (hf : ∀ a, P a → Answers Q E (f a)) : Answers Q E (r >>= f) := by
  cases h with
  | ok ha => exact hf _ ha
  | error he => exact .error he

theorem map {f : α → β} (h : Answers P E r) (hf : ∀ a, P a → Q (f a)) :
    Answers Q E (r.map f) := by
  cases h with
  | ok ha => exact .ok (hf _ ha)
  | error he => exact .error he

/-- Results for all answer for the list of them, and a refusal of one for that
of the list. -/
theorem mapM {f : α → Except ε β} {as : List α}
    (h : ∀ a ∈ as, Answers (fun _ => True) E (f a)) :
    Answers (fun _ => True) E (as.mapM f) := by
  induction as with
  | nil => exact .ok trivial
  | cons a as ih =>
    obtain ⟨ha, has⟩ := List.forall_mem_cons.mp h
    rw [List.mapM_cons]
    exact ha.bind fun _ _ => (ih has).bind fun _ _ => .ok trivial

end Answers

/-! ## Well-formed environments -/

/-- **A well-formed environment**: whatever is bound is a name that a line can
use, and its value is a word. -/
def Environment.WellFormed (env : Environment) : Prop :=
  ∀ x v, env.get? x = some v → Variable.isName x = true ∧ Word.Fits v

namespace Environment

theorem wellFormed_empty : empty.WellFormed := nofun

/-- Binding a name that a line can use to a word keeps an environment well
formed. -/
theorem WellFormed.bind {env : Environment} (h : env.WellFormed) {x : String}
    {v : Int} (hx : Variable.isName x = true) (hv : Word.Fits v) :
    (env.bind x v).WellFormed := by
  intro y w hy
  rw [get?_bind] at hy
  split at hy
  case isTrue heq =>
    obtain rfl := Option.some.inj hy
    rw [heq]
    exact ⟨hx, hv⟩
  case isFalse => exact h y w hy

end Environment

/-! ## The check -/

/-- **A value that can be shown**: it holds no integer with too many digits. -/
def Datum.IsShown (d : Datum) : Prop :=
  d.show?.isSome = true

instance (d : Datum) : Decidable d.IsShown :=
  inferInstanceAs (Decidable (_ = true))

/-- A message that shows a value can be written if the value can be shown. -/
theorem isSome_message {shown? : Option String} (h : shown?.isSome = true)
    (message : String → String) :
    (do let shown ← shown?; return message shown : Option String).isSome = true := by
  cases shown? with
  | none => cases h
  | some shown => rfl

namespace Variable

/-- A refusal that can be put into words. -/
def Refusal.IsWorded (r : Refusal) : Prop :=
  r.message?.isSome = true

theorem Refusal.isWorded_notInteger (name : String) {given : Datum}
    (h : given.IsShown) : (notInteger name given).IsWorded :=
  isSome_message h _

theorem Refusal.isWorded_notWord (name : String) {v : Int}
    (h : (Datum.integer v).IsShown) : (notWord name v).IsWorded := by
  rw [Datum.IsShown, Datum.show?] at h
  exact isSome_message h _

/-- **What passes the check** is an integer that is a word, under a name that a
line can use. What does not is refused in words, if it can be shown. -/
theorem answers_check (name : String) (given : Datum) :
    Answers (fun v => isName name = true ∧ Word.Fits v)
      (fun r => given.IsShown → r.IsWorded) (check name given) := by
  unfold check
  split
  case isTrue => exact .error fun _ => rfl
  case isFalse hname =>
    have hname : isName name = true := by simpa using hname
    split
    case h_1 n =>
      split
      case isTrue hfits => exact .ok ⟨hname, hfits⟩
      case isFalse => exact .error (Refusal.isWorded_notWord name)
    case h_2 => exact .error (Refusal.isWorded_notInteger name)

/-- Entries that all pass the check keep an environment well formed, by
induction on them. -/
theorem answers_foldlM (entries : List (String × Datum)) {env : Environment}
    (henv : env.WellFormed) :
    Answers Environment.WellFormed
      (fun r : Refusal => (∀ e ∈ entries, e.2.IsShown) → r.IsWorded)
      (entries.foldlM (fun env (name, given) => (check name given).map (env.bind name))
        env) := by
  induction entries generalizing env with
  | nil => exact .ok henv
  | cons entry entries ih =>
    obtain ⟨name, given⟩ := entry
    rw [List.foldlM_cons]
    refine Answers.bind (P := Environment.WellFormed) (Answers.map
      ((answers_check name given).mono (fun _ => id) ?_) ?_) ?_
    · exact fun r hr hshown => hr (hshown _ List.mem_cons_self)
    · exact fun v hv => henv.bind hv.1 hv.2
    · exact fun env henv => (ih henv).mono (fun _ => id)
        fun r hr hshown => hr fun e he => hshown e (List.mem_cons_of_mem _ he)

/-- **Entries that pass make a well-formed environment.** -/
theorem answers_checkAll (entries : List (String × Datum)) :
    Answers Environment.WellFormed
      (fun r : Refusal => (∀ e ∈ entries, e.2.IsShown) → r.IsWorded)
      (checkAll entries) :=
  answers_foldlM entries Environment.wellFormed_empty

end Variable

/-! ## Assignments -/

/-- **An assignment that is read** has passed the check. What is no assignment
is refused in words: an integer that has been read is not too long to be
shown. -/
theorem Assignment.answers_read (text : String) :
    Answers (fun a : Assignment => Variable.isName a.name = true ∧ Word.Fits a.value)
      (fun r : Refusal => ∃ message, r.message? = some message) (read text) := by
  unfold read
  dsimp only
  split
  · exact .error ⟨_, rfl⟩
  split
  · exact .error ⟨_, rfl⟩
  split
  · exact .error ⟨_, rfl⟩
  rename_i n hn
  split
  · rename_i hcheck
    exact .ok ((Variable.answers_check _ _).of_eq_ok hcheck)
  · rename_i hcheck
    have hshown : (Datum.integer n).IsShown := by
      rw [Datum.IsShown, Datum.show?, Numeral.intText?,
        if_pos (Numeral.isWritable_of_readInt? hn)]
      rfl
    exact .error (Option.isSome_iff_exists.mp
      ((Variable.answers_check _ _).of_eq_error hcheck hshown))

/-- **Assignments** that are all accepted keep an environment well formed, by
induction on them. -/
theorem Program.wellFormed_of_assignAll? {assignments : List String}
    {env env' : Environment} (henv : env.WellFormed)
    (h : assignAll? env assignments = some env') : env'.WellFormed := by
  induction assignments generalizing env with
  | nil =>
    cases h
    exact henv
  | cons text assignments ih =>
    rw [assignAll?, List.foldlM_cons] at h
    cases hread : Assignment.read text with
    | error refusal =>
      rw [hread] at h
      cases h
    | ok a =>
      rw [hread] at h
      obtain ⟨hname, hfits⟩ := (Assignment.answers_read text).of_eq_ok hread
      exact ih (henv.bind hname hfits) h

end Abacus
