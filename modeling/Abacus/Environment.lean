import Abacus.Association
import Abacus.Fault
import Abacus.Word

/-!
# Environments

The variables of a session and their values, in the order in which they were first bound. A name
is bound at most once. Reading and updating fail for a name that has no value; binding never does.
-/

namespace Abacus

/-- A finite assignment of values to names. -/
structure Environment where
  bindings : List (String × Int)
  nodup : (bindings.map Prod.fst).Nodup

namespace Environment

/-- The environment without variables. -/
def empty : Environment := ⟨[], .nil⟩

instance : Inhabited Environment := ⟨empty⟩

/-- The value of a name, if it has one. -/
def get? (env : Environment) (name : String) : Option Int :=
  env.bindings.lookup name

/-- Whether a name has a value. -/
def contains (env : Environment) (name : String) : Bool :=
  (env.get? name).isSome

/-- The environment in which `name` has the value `v`, and all other names are as before. -/
def bind (env : Environment) (name : String) (v : Int) : Environment :=
  ⟨Association.set name v env.bindings, Association.nodup_set name v env.nodup⟩

/-- A bound name has the value it was bound to, and no other name is touched. -/
theorem get?_bind (env : Environment) (name x : String) (v : Int) :
    (env.bind name v).get? x = if x = name then some v else env.get? x :=
  Association.lookup_set name x v env.bindings

/-- The name that was bound has a value, and no name loses one. -/
theorem contains_bind (env : Environment) (name x : String) (v : Int) :
    (env.bind name v).contains x = (x == name || env.contains x) := by
  unfold contains
  rw [get?_bind]
  by_cases h : x = name
  · simp [h]
  · simp [h]

/-- No name loses its value when a name is bound. -/
theorem contains_bind_of_contains (env : Environment) {x : String} (name : String) (v : Int)
    (h : env.contains x = true) : (env.bind name v).contains x = true := by
  rw [contains_bind, h, Bool.or_true]

/-- The environment with the bindings of a list, in which a later binding of a name wins. -/
def ofList (bs : List (String × Int)) : Environment :=
  bs.foldl (fun env b => env.bind b.1 b.2) empty

/-- The value of a name, or the fault that it has none. -/
def read (env : Environment) (name : String) : Except Fault Int :=
  match env.get? name with
  | some v => .ok v
  | none => .error (.undefined name)

/-- An update of a variable: its value before, its value after, and the environment after. -/
structure Update where
  old : Int
  new : Int
  env : Environment

/-- The update of a bound name by a function of its value; what is stored is wrapped to a word.
Nothing changes if the name has no value or the function fails. -/
def update (env : Environment) (name : String) (f : Int → Except Fault Int) :
    Except Fault Update := do
  let old ← env.read name
  let new := Word.wrap (← f old)
  return ⟨old, new, env.bind name new⟩

end Environment

end Abacus
