/-!
# Sets of characters

A property of characters is a list of runs of numbers, as the tables of the Unicode standard give
it.
-/

namespace RowDrop.Text

/-- The first and the last number of each run. -/
abbrev Runs := List (Nat × Nat)

/-- The character lies in one of the runs. -/
def Runs.contains (runs : Runs) (c : Char) : Bool :=
  runs.any fun run => run.1 ≤ c.toNat && c.toNat ≤ run.2

theorem Runs.contains_iff {runs : Runs} {c : Char} :
    runs.contains c ↔ ∃ run ∈ runs, run.1 ≤ c.toNat ∧ c.toNat ≤ run.2 := by
  simp [contains, List.any_eq_true]

end RowDrop.Text
