import Mathlib
import Abacus.Proofs.Trial

/-!
# Loading settings

A document that exists is either taken, and then every setting is of its
kind, the initial variables are well formed and the template of answers has
been filled in once, or it is refused, and the refusal is put into words.

That is the intention; it holds of documents that are *regular*
(`Settings.Regular`). A refusal without words is not reported but breaks the
program off, and there are three ways to it. A section may be no table at
all. The template may ask for an item of what has none, as `{value[0]}` does,
or lay out what takes no layout, as `{value.bit_length:5}` does; every other
failure that its trial can find is told in words. And the value that is
refused may be an integer too long to be written.

A regular document also has a template whose trial is decided
(`Template.IsDecided`). Of the others it is left open whether they are taken.
-/

namespace Abacus

/-! ## Values that can be shown -/

namespace Datum

theorem isSome_showEntries? (entries : List (String × Datum)) :
    (showEntries? entries).isSome = true ↔ ∀ e ∈ entries, e.2.IsShown := by
  induction entries with
  | nil => exact iff_of_true rfl (List.forall_mem_nil _)
  | cons e entries ih =>
    obtain ⟨key, d⟩ := e
    rw [List.forall_mem_cons, ← ih, showEntries?, IsShown]
    cases d.show? with
    | none => simp
    | some part => cases showEntries? entries <;> simp

/-- **A table can be shown if all its entries can.** -/
theorem isShown_table (entries : List (String × Datum)) :
    (Datum.table entries).IsShown ↔ ∀ e ∈ entries, e.2.IsShown := by
  rw [← isSome_showEntries?, IsShown, show?]
  cases showEntries? entries <;> simp

end Datum

theorem Association.mem_of_lookup {α : Type} {key : String} {v : α}
    {bs : List (String × α)} (h : bs.lookup key = some v) : (key, v) ∈ bs := by
  induction bs with
  | nil => cases h
  | cons b bs ih =>
    obtain ⟨k, w⟩ := b
    rw [List.lookup_cons] at h
    split at h
    case h_1 heq =>
      obtain rfl := Option.some.inj h
      rw [beq_iff_eq.mp heq]
      exact List.mem_cons_self
    case h_2 => exact List.mem_cons_of_mem _ (ih h)

/-! ## Documents -/

namespace Settings

/-- A refusal that is reported in words. -/
def Refusal.IsWorded (r : Refusal) : Prop :=
  r.message?.isSome = true

/-- **A template with a proper trial**: it is decided, and it asks for no item
of what has none and for no layout of what takes none. -/
structure ProperTrial (template : String) : Prop where
  isDecided : Template.IsDecided template
  noItem : Template.render template 0 ≠ .error .notIndexable
  noLayout : Template.render template 0 ≠ .error .noLayout

/-- **A regular document**: its sections are tables, its template, if it has
one, has a proper trial, and no integer in it is too long to be written. -/
structure Regular (document : List (String × Datum)) : Prop where
  isTable : ∀ key ∈ ["repl", "logging", "variables"],
    ∀ d, document.lookup key = some d → ∃ entries, d = .table entries
  properTrial : ∀ repl template, document.lookup "repl" = some (.table repl) →
    repl.lookup "result_format" = some (.text template) → ProperTrial template
  isShown : (Datum.table document).IsShown

/-- Entries that can all be shown. -/
def Shown (entries : List (String × Datum)) : Prop :=
  ∀ e ∈ entries, e.2.IsShown

theorem Regular.shown {document : List (String × Datum)} (h : Regular document) :
    Shown document :=
  (Datum.isShown_table document).mp h.isShown

theorem Shown.lookup {entries : List (String × Datum)} (h : Shown entries)
    {key : String} {d : Datum} (hd : entries.lookup key = some d) : d.IsShown :=
  h _ (Association.mem_of_lookup hd)

section Entries

variable {document : List (String × Datum)}

/-- A section is a table of the document, or there is none; a document in which
it is something else is not regular. -/
theorem answers_table {key : String} (hkey : key ∈ ["repl", "logging", "variables"])
    (document : List (String × Datum)) :
    Answers (fun entries => document.lookup key = some (.table entries) ∨ entries = [])
      (fun r : Refusal => Regular document → r.IsWorded) (table key document) := by
  unfold table
  split
  case h_1 => exact .ok (.inr rfl)
  case h_2 entries h => exact .ok (.inl h)
  case h_3 d hd h =>
    refine .error fun hregular => ?_
    obtain ⟨entries, rfl⟩ := hregular.isTable key hkey d h
    exact absurd rfl (hd entries)

theorem shown_of_table (hregular : Regular document) {key : String}
    {entries : List (String × Datum)}
    (h : document.lookup key = some (.table entries) ∨ entries = []) :
    Shown entries := by
  rcases h with h | rfl
  · exact (Datum.isShown_table entries).mp (hregular.shown.lookup h)
  · exact List.forall_mem_nil _

theorem isWorded_wrongKind (key expected : String) {given : Datum}
    (h : given.IsShown) : (Refusal.wrongKind key expected given).IsWorded :=
  isSome_message h _

theorem answers_text (entries : List (String × Datum)) (part key missing : String) :
    Answers (fun s => entries.lookup key = some (.text s) ∨ s = missing)
      (fun r : Refusal => Shown entries → r.IsWorded)
      (text entries part key missing) := by
  unfold text
  split
  case h_1 => exact .ok (.inr rfl)
  case h_2 s h => exact .ok (.inl h)
  case h_3 given _ h => exact .error fun hshown => isWorded_wrongKind _ _ (hshown.lookup h)

theorem answers_boolean (entries : List (String × Datum)) (part key : String)
    (missing : Bool) :
    Answers (fun _ => True) (fun r : Refusal => Shown entries → r.IsWorded)
      (boolean entries part key missing) := by
  unfold boolean
  split
  case h_1 => exact .ok trivial
  case h_2 => exact .ok trivial
  case h_3 given _ h => exact .error fun hshown => isWorded_wrongKind _ _ (hshown.lookup h)

/-- **A template that is taken can be filled in for zero.** One that is not is
refused in words, if its trial is a proper one. -/
theorem answers_checkTemplate (template : String) :
    Answers (fun t => ∃ filled, Template.render t 0 = .ok filled)
      (fun r : Refusal => ProperTrial template → r.IsWorded)
      (checkTemplate template) := by
  unfold checkTemplate
  split
  case h_1 filled h => exact .ok ⟨filled, h⟩
  case h_2 failure h =>
    refine .error fun hproper => ?_
    cases failure with
    | notIndexable => exact absurd h hproper.noItem
    | noLayout => exact absurd h hproper.noLayout
    | leftOpen => exact absurd h hproper.isDecided
    | outOfRange => exact absurd h (Template.render_zero_ne_outOfRange template)
    | malformed | unknownName | unknownIndex | unknownAttribute => rfl

/-- **Sound settings**: the initial variables are well formed, and the template
can be filled in for zero. -/
structure Sound (s : Settings) : Prop where
  wellFormed : s.initial.WellFormed
  usable : ∃ filled, Template.render s.template 0 = .ok filled

/-- The template that is taken if the document has none. -/
theorem render_default : Template.render default.template 0 = .ok "Result: 0" :=
  eq_ok_of_toOption (by decide +kernel)

/-- A template that can be filled in for zero has a proper trial. -/
theorem ProperTrial.of_render {template filled : String}
    (h : Template.render template 0 = .ok filled) : ProperTrial template := by
  have hne (failure : Template.Failure) : Template.render template 0 ≠ .error failure := by
    rw [h]
    exact nofun
  exact ⟨hne _, hne _, hne _⟩

theorem sound_default : default.Sound :=
  ⟨Environment.wellFormed_empty, _, render_default⟩

/-- **The settings of a document are sound**, or they are refused; if it is
regular, in words. One entry after another, in the order in which they are
read. -/
theorem answers_ofDocument (document : List (String × Datum)) :
    Answers Sound (fun r : Refusal => Regular document → r.IsWorded)
      (ofDocument document) := by
  refine (answers_table (by decide) document).bind fun repl hrepl => ?_
  have hworded {r : Refusal} (h : Shown repl → r.IsWorded) (hregular : Regular document) :
      r.IsWorded := h (shown_of_table hregular hrepl)
  refine ((answers_text repl _ _ _).mono (fun _ => id) fun _ => hworded).bind
    fun prompt _ => ?_
  refine ((answers_boolean repl _ _ _).mono (fun _ => id) fun _ => hworded).bind
    fun banner _ => ?_
  refine ((answers_text repl _ _ _).mono (fun _ => id) fun _ => hworded).bind
    fun template htemplate => ?_
  refine ((answers_checkTemplate template).mono (fun _ => id) fun r hr hregular =>
    hr ?_).bind fun template husable => ?_
  · rcases htemplate with htemplate | rfl
    · rcases hrepl with hrepl | rfl
      · exact hregular.properTrial _ _ hrepl htemplate
      · cases htemplate
    · exact .of_render render_default
  refine (answers_table (by decide) document).bind fun logging hlogging => ?_
  refine ((answers_text logging _ _ _).mono (fun _ => id) fun r hr hregular =>
    hr (shown_of_table hregular hlogging)).bind fun level _ => ?_
  refine (answers_table (by decide) document).bind fun entries hentries => ?_
  have hvariables := Variable.answers_checkAll entries
  generalize Variable.checkAll entries = r at hvariables ⊢
  cases hvariables with
  | ok hinitial => exact .ok ⟨hinitial, husable⟩
  | error hrefusal =>
    exact .error fun hregular => hrefusal (shown_of_table hregular hentries)

end Entries

/-! ## Loading -/

/-- The name of the document that is read: the one asked for, else the
default. -/
def pathOf (path? : Option String) : String :=
  (path?.map Documents.normalPath).getD defaultPath

/-- **A text that can be loaded or refused in words**: if it is a document, it
is a regular one, and if it is not, then not because a numeral in it is too
long to be read. -/
structure Legible (source : String) : Prop where
  regular : ∀ document, Toml.read source = .ok document → Regular document
  numeral : Toml.read source ≠ .error .numeralTooLong

theorem answers_read (path source : String) :
    Answers Sound (fun r : Refusal => Legible source → r.IsWorded)
      (read path source) := by
  unfold read
  split
  case h_1 document h =>
    exact (answers_ofDocument document).mono (fun _ => id)
      fun r hr hlegible => hr (hlegible.regular document h)
  case h_2 => exact .error fun _ => rfl
  case h_3 h => exact .error fun hlegible => absurd h hlegible.numeral

theorem answers_load (documents : Documents) (path? : Option String) :
    Answers Sound
      (fun r : Refusal =>
        (∀ source, documents.read? (pathOf path?) = some source → Legible source) →
          r.IsWorded)
      (load documents path?) := by
  unfold load
  cases path? with
  | none =>
    dsimp only
    split
    case h_1 source h =>
      exact (answers_read _ source).mono (fun _ => id)
        fun r hr hlegible => hr (hlegible source h)
    case h_2 => exact .ok sound_default
  | some path =>
    dsimp only
    split
    case h_1 source h =>
      exact (answers_read _ source).mono (fun _ => id)
        fun r hr hlegible => hr (hlegible source h)
    case h_2 => exact .error fun _ => rfl

/-- **What is loaded is sound**, whether there is a document or not. -/
theorem sound_of_load {documents : Documents} {path? : Option String}
    {settings : Settings} (h : load documents path? = .ok settings) : settings.Sound :=
  (answers_load documents path?).of_eq_ok h

/-- **Loading gives sound settings or reports why it does not**, if what it
loads is legible. -/
theorem load_sound_or_reported {documents : Documents} {path? : Option String}
    (h : ∀ source, documents.read? (pathOf path?) = some source → Legible source) :
    (∃ s, load documents path? = .ok s ∧ s.Sound) ∨
      ∃ r message, load documents path? = .error r ∧ r.message? = some message := by
  have hload := answers_load documents path?
  generalize load documents path? = r at hload ⊢
  cases hload with
  | @ok s hs => exact .inl ⟨s, rfl, hs⟩
  | @error r hr =>
    obtain ⟨message, hmessage⟩ := Option.isSome_iff_exists.mp (hr h)
    exact .inr ⟨r, message, rfl, hmessage⟩

/-- The documents of which there is only the default one. -/
def only (source : String) : Documents :=
  ⟨[(defaultPath, source)]⟩

theorem load_only {source : String} {document : List (String × Datum)}
    (hread : (only source).read? defaultPath = some source)
    (hdocument : Toml.read source = .ok document) :
    load (only source) none = ofDocument document := by
  unfold load
  dsimp only
  rw [hread]
  dsimp only
  unfold read
  rw [hdocument]

/-- Settings with a template of their own and an initial variable. -/
def sample : String :=
  "[repl]\nresult_format = \"= \x7bvalue:>4\x7d\"\n[variables]\nanswer = 42\n"

/-- The document that `sample` is. -/
def sampleDocument : List (String × Datum) :=
  [("repl", .table [("result_format", .text "= \x7bvalue:>4\x7d")]),
    ("variables", .table [("answer", .integer 42)])]

theorem read_sample : Toml.read sample = .ok sampleDocument := by
  cbv

theorem load_sample : load (only sample) none = ofDocument sampleDocument :=
  load_only (by decide +kernel) read_sample

theorem legible_sample : Legible sample := by
  refine ⟨fun document h => ?_, by rw [read_sample]; exact nofun⟩
  rw [read_sample] at h
  obtain rfl := Except.ok.inj h
  have hrender : Template.render "= \x7bvalue:>4\x7d" 0 = .ok "=    0" :=
    eq_ok_of_toOption (by decide +kernel)
  refine ⟨?_, fun repl template hrepl htemplate => ?_, by decide +kernel⟩
  · intro key hkey d hd
    simp only [List.mem_cons, List.not_mem_nil, or_false] at hkey
    rcases hkey with rfl | rfl | rfl <;> cases hd <;> exact ⟨_, rfl⟩
  · cases hrepl
    cases htemplate
    exact .of_render hrender

theorem load_sound_or_reported_sample :
    (∀ source, (only sample).read? (pathOf none) = some source → Legible source) ∧
      ((∃ s, load (only sample) none = .ok s ∧ s.Sound) ∨
        ∃ r message, load (only sample) none = .error r ∧ r.message? = some message) := by
  have hread : (only sample).read? (pathOf none) = some sample := by decide +kernel
  have hlegible : ∀ source, (only sample).read? (pathOf none) = some source →
      Legible source := by
    intro source h
    rw [hread] at h
    exact Option.some.inj h ▸ legible_sample
  exact ⟨hlegible, load_sound_or_reported hlegible⟩

/-- **A template that fails on zero breaks loading off**: if the entries before
it are in order, the document is refused, whether or not there are words for
the failure. -/
theorem ofDocument_of_failure {document repl : List (String × Datum)}
    {prompt template : String} {banner : Bool} {failure : Template.Failure}
    (hrepl : table "repl" document = .ok repl)
    (hprompt : text repl "repl" "prompt" default.prompt = .ok prompt)
    (hbanner : boolean repl "repl" "banner" default.banner = .ok banner)
    (htemplate : text repl "repl" "result_format" default.template = .ok template)
    (hfailure : Template.render template 0 = .error failure) :
    ofDocument document = .error (.unusable template failure) := by
  have hcheck : checkTemplate template = .error (.unusable template failure) := by
    unfold checkTemplate
    rw [hfailure]
  simp only [ofDocument, hrepl, hprompt, hbanner, htemplate, hcheck, bind, Except.bind]

/-- A document with nothing but a template that fails on zero. -/
theorem load_of_failure {source template : String} {failure : Template.Failure}
    (hread : (only source).read? defaultPath = some source)
    (hdocument : Toml.read source
      = .ok [("repl", .table [("result_format", .text template)])])
    (hfailure : Template.render template 0 = .error failure) :
    load (only source) none = .error (.unusable template failure) :=
  (load_only hread hdocument).trans (ofDocument_of_failure rfl rfl rfl rfl hfailure)

/-- Settings with a template that asks for an item of the value. -/
def itemSample : String :=
  "[repl]\nresult_format = \"\x7bvalue[0]\x7d\"\n"

/-- Settings with a template that lays out a method of the value. -/
def layoutSample : String :=
  "[repl]\nresult_format = \"\x7bvalue.bit_length:5\x7d\"\n"

/-- **Two documents that break loading off** without a report, one for each
thing that a proper trial does not ask for. -/
theorem unreported_templates :
    ((∃ document, Toml.read itemSample = .ok document) ∧
      ∃ r, load (only itemSample) none = .error r ∧ r.message? = none) ∧
    ((∃ document, Toml.read layoutSample = .ok document) ∧
      ∃ r, load (only layoutSample) none = .error r ∧ r.message? = none) := by
  have hitem : Toml.read itemSample
      = .ok [("repl", .table [("result_format", .text "\x7bvalue[0]\x7d")])] := by
    cbv
  have hlayout : Toml.read layoutSample
      = .ok [("repl", .table [("result_format", .text "\x7bvalue.bit_length:5\x7d")])] := by
    cbv
  have hno : Template.render "\x7bvalue[0]\x7d" 0 = .error .notIndexable := by
    decide +kernel
  have hnone : Template.render "\x7bvalue.bit_length:5\x7d" 0 = .error .noLayout := by
    decide +kernel
  exact ⟨⟨⟨_, hitem⟩, _, load_of_failure (by decide +kernel) hitem hno, rfl⟩,
    ⟨_, hlayout⟩, _, load_of_failure (by decide +kernel) hlayout hnone, rfl⟩

end Settings

end Abacus
