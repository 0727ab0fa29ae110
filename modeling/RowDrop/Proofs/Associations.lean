import Mathlib.Data.List.Basic

/-!
# Lists of pairs as maps

The names of a directory and the objects of a store are lists of pairs, and the first pair with a
key counts. What a look-up finds after a pair is replaced or taken out depends on the key alone.
-/

namespace RowDrop.Associations

variable {α β : Type} [BEq α] [LawfulBEq α] [DecidableEq α] {key : α} {value : β}

theorem lookup_replace (pairs : List (α × β)) (wanted : α) :
    (pairs.map fun pair => if pair.1 = key then (key, value) else pair).lookup wanted =
      if wanted = key then (pairs.lookup key).map fun _ => value else pairs.lookup wanted := by
  induction pairs with
  | nil => simp
  | cons pair pairs ih =>
    obtain ⟨first, old⟩ := pair
    by_cases same : first = key
    · subst same
      by_cases sought : wanted = first
      · simp [sought]
      · simp [List.lookup_cons, sought, beq_false_of_ne sought, ih]
    · by_cases sought : wanted = key
      · subst sought
        simp [List.lookup_cons, same, beq_false_of_ne (Ne.symm same), ih]
      · by_cases here : wanted = first
        · simp [here, same]
        · simp [List.lookup_cons, same, beq_false_of_ne here, ih, sought]

theorem lookup_without (pairs : List (α × β)) (wanted : α) :
    (pairs.filter (·.1 ≠ key)).lookup wanted =
      if wanted = key then none else pairs.lookup wanted := by
  induction pairs with
  | nil => simp
  | cons pair pairs ih =>
    obtain ⟨first, old⟩ := pair
    by_cases same : first = key
    · subst same
      by_cases sought : wanted = first
      · simpa [sought] using ih
      · simpa [List.lookup_cons, sought, beq_false_of_ne sought] using ih
    · by_cases here : wanted = first
      · simp [here, same]
      · simpa [List.lookup_cons, same, beq_false_of_ne here] using ih

theorem lookup_eq_none_of_all (pairs : List (α × β)) (h : ¬pairs.any (·.1 = key)) :
    pairs.lookup key = none := by
  rw [List.lookup_eq_none_iff]
  intro pair member
  have ne : pair.1 ≠ key := by
    intro same
    exact h (List.any_eq_true.mpr ⟨pair, member, by simpa using same⟩)
  simpa using Ne.symm ne

end RowDrop.Associations
