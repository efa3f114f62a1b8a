import Abacus.Settings.Document
import Abacus.Template
import Abacus.Toml
import Abacus.Variable

/-!
# Settings

What a session can be told before it begins: its prompt, whether it shows the banner, the template
of its answers, the level of the journal, and the first variables. Settings are read from a TOML
document in which every entry may be missing.

Entries are checked in a fixed order, and the first that fails is reported. A template is tried out
on the value zero. Not every failure is reported in words: `Refusal.message?` tells which are.
-/

namespace Abacus

/-- The settings of a session. -/
structure Settings where
  /-- Printed before each line is read. -/
  prompt : String
  /-- Whether the summary of the language is printed first. -/
  banner : Bool
  /-- The template of an answer. -/
  template : String
  /-- The name of the level of the journal, as given. -/
  level : String
  /-- The variables that a session begins with. -/
  initial : Environment

namespace Settings

/-- The settings without a document. -/
def default : Settings where
  prompt := ""
  banner := true
  template := "Result: \x7bvalue\x7d"
  level := "WARNING"
  initial := .empty

instance : Inhabited Settings := ⟨default⟩

/-- The name of the document that is read if none is asked for. -/
def defaultPath : String := "exprcalc.toml"

/-- Why settings cannot be read. -/
inductive Refusal
  /-- The document that was asked for does not exist. -/
  | missing (path : String)
  /-- The document breaks the rules of its format. -/
  | invalid (path : String)
  /-- The document holds a numeral with too many digits. -/
  | numeralTooLong
  /-- The entry that should be a table is none. -/
  | notTable (key : String)
  /-- An entry has a value of the wrong kind. -/
  | wrongKind (key expected : String) (given : Datum)
  /-- The template of answers fails on the value zero. -/
  | unusable (template : String) (failure : Template.Failure)
  | variableRefused (refusal : Variable.Refusal)

/-- The wording of a refusal. There is none for a numeral with too many digits, an entry that should
be a table, a value that cannot be shown, and four failures of a template: an item of what has none,
a layout for what takes none, a value out of range, and an attribute of which it is left open
whether there is one. -/
def Refusal.message? : Refusal → Option String
  | .missing path => some ("Config file not found: " ++ path)
  | .invalid path => some ("Invalid TOML in " ++ path)
  | .numeralTooLong => none
  | .notTable _ => none
  | .wrongKind key expected given => do
    let shown ← given.show?
    return "'" ++ key ++ "' must be a " ++ expected ++ ", got " ++ shown
  | .unusable _ .notIndexable | .unusable _ .noLayout | .unusable _ .outOfRange
  | .unusable _ .leftOpen => none
  | .unusable template _ =>
    some ("'repl.result_format' must only use the \x7bvalue\x7d placeholder, got "
      ++ Text.quoted template)
  | .variableRefused refusal => refusal.message?

/-- A table of the document; one that is missing counts as empty. -/
def table (key : String) (document : List (String × Datum)) :
    Except Refusal (List (String × Datum)) :=
  match document.lookup key with
  | none => .ok []
  | some (.table entries) => .ok entries
  | some _ => .error (.notTable key)

/-- A text entry, and a value to take if it is missing. Refusals name the entry by its full key. -/
def text (entries : List (String × Datum)) (part key missing : String) : Except Refusal String :=
  match entries.lookup key with
  | none => .ok missing
  | some (.text s) => .ok s
  | some given => .error (.wrongKind (part ++ "." ++ key) "str" given)

/-- A truth-value entry, and a value to take if it is missing. -/
def boolean (entries : List (String × Datum)) (part key : String) (missing : Bool) :
    Except Refusal Bool :=
  match entries.lookup key with
  | none => .ok missing
  | some (.boolean b) => .ok b
  | some given => .error (.wrongKind (part ++ "." ++ key) "bool" given)

/-- A template that can be filled in for the value zero. -/
def checkTemplate (template : String) : Except Refusal String :=
  match Template.render template 0 with
  | .ok _ => .ok template
  | .error failure => .error (.unusable template failure)

/-- The settings that a document describes. -/
def ofDocument (document : List (String × Datum)) : Except Refusal Settings := do
  let repl ← table "repl" document
  let prompt ← text repl "repl" "prompt" default.prompt
  let banner ← boolean repl "repl" "banner" default.banner
  let template ← text repl "repl" "result_format" default.template
  let template ← checkTemplate template
  let logging ← table "logging" document
  let level ← text logging "logging" "level" default.level
  let entries ← table "variables" document
  match Variable.checkAll entries with
  | .ok initial => return { prompt, banner, template, level, initial }
  | .error refusal => throw (.variableRefused refusal)

/-- The settings of a document with a given name. -/
def read (path source : String) : Except Refusal Settings :=
  match Toml.read source with
  | .ok document => ofDocument document
  | .error .invalid => .error (.invalid path)
  | .error .numeralTooLong => .error .numeralTooLong

/-- The settings to begin with: those of the document that is asked for, which has to exist, else
those of the default document, which need not. -/
def load (documents : Documents) (path? : Option String) : Except Refusal Settings :=
  match path? with
  | some path =>
    let path := Documents.normalPath path
    match documents.read? path with
    | some source => read path source
    | none => .error (.missing path)
  | none =>
    match documents.read? defaultPath with
    | some source => read defaultPath source
    | none => .ok default

end Settings

end Abacus
