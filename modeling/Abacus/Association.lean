/-!
# Association lists

Lists of keys with values, in the order in which the keys were first set. Setting a key keeps its
place, or adds it at the end.
-/

namespace Abacus.Association

variable {α : Type}

/-- The list in which `key` has the value `v`: its old value is replaced where it stands, and a new
key goes to the end. -/
def set (key : String) (v : α) : List (String × α) → List (String × α)
  | [] => [(key, v)]
  | (k, w) :: rest => if k = key then (k, v) :: rest else (k, w) :: set key v rest

theorem map_fst_set (key : String) (v : α) (bs : List (String × α)) :
    (set key v bs).map Prod.fst
      = if key ∈ bs.map Prod.fst then bs.map Prod.fst else bs.map Prod.fst ++ [key] := by
  induction bs with
  | nil => simp [set]
  | cons b bs ih =>
    obtain ⟨k, w⟩ := b
    by_cases h : k = key
    · simp [set, h]
    · have h' : ¬key = k := fun e => h e.symm
      simp only [set, h, if_false, List.map_cons, List.mem_cons, h', false_or, ih]
      split <;> simp

/-- Setting a key keeps keys distinct. -/
theorem nodup_set (key : String) (v : α) {bs : List (String × α)}
    (h : (bs.map Prod.fst).Nodup) : ((set key v bs).map Prod.fst).Nodup := by
  rw [map_fst_set]
  split
  · exact h
  · rename_i hn
    rw [List.nodup_append]
    refine ⟨h, by simp, fun a ha b hb => ?_⟩
    simp only [List.mem_singleton] at hb
    subst hb
    exact fun e => hn (e ▸ ha)

/-- A key has the value it was set to, and no other key is touched. -/
theorem lookup_set (key x : String) (v : α) (bs : List (String × α)) :
    (set key v bs).lookup x = if x = key then some v else bs.lookup x := by
  induction bs with
  | nil =>
    by_cases h : x = key
    · simp [set, h]
    · simp [set, List.lookup_cons, beq_eq_false_iff_ne.2 h, h]
  | cons b bs ih =>
    obtain ⟨k, w⟩ := b
    by_cases hk : k = key
    · by_cases h : x = key
      · simp [set, hk, h]
      · simp [set, List.lookup_cons, hk, beq_eq_false_iff_ne.2 h, h]
    · by_cases hx : x = k
      · subst hx
        simp [set, hk]
      · simp [set, hk, List.lookup_cons, beq_eq_false_iff_ne.2 hx, ih]

end Abacus.Association
