import RowDrop.Change
import Mathlib.Data.List.Basic

/-!
# Runs of changes

A run makes changes one after another, each with its own result; a change that fails does not keep
the later ones from being tried. A run follows an abstract machine if each of its steps does
(`runEach_follows`).
-/

namespace RowDrop

/-- What can be done to a dataset. -/
inductive Action where
  | drop
  | undo
  deriving DecidableEq, Repr

/-- The operation that does something to the dataset at a location. -/
def Setup.perform (setup : Setup) (location : String) : Action → Operation Unit
  | .drop => setup.drop location
  | .undo => setup.undo location

variable {σ τ ι ρ ε : Type}

/-- That a change succeeds can be seen by computing. -/
theorem eq_ok_of_toBool {result : Except ε Unit} (h : result.toBool) : result = .ok () := by
  cases result with
  | ok => rfl
  | error => cases h

/-- That a change fails can be seen by computing, too. -/
theorem exists_error_of_toBool {result : Except ε Unit} (h : result.toBool = false) :
    ∃ error, result = .error error := by
  cases result with
  | ok => cases h
  | error error => exact ⟨error, rfl⟩

/-- Takes one step for each input, and gives the results in their order. -/
def runEach (step : ι → σ → ρ × σ) : List ι → σ → List ρ × σ
  | [], state => ([], state)
  | input :: inputs, state =>
    let (result, state) := step input state
    let (results, state) := runEach step inputs state
    (result :: results, state)

section Lemmas

variable {step : ι → σ → ρ × σ} {step' : ι → τ → ρ × τ} {state : σ} {state' : τ}
variable {input : ι} {inputs more : List ι}

@[simp] theorem runEach_nil : runEach step [] state = ([], state) := rfl

@[simp] theorem runEach_cons :
    runEach step (input :: inputs) state =
      ((step input state).1 :: (runEach step inputs (step input state).2).1,
        (runEach step inputs (step input state).2).2) := rfl

/-- A run can be broken off and taken up again. -/
theorem runEach_append :
    runEach step (inputs ++ more) state =
      ((runEach step inputs state).1 ++ (runEach step more (runEach step inputs state).2).1,
        (runEach step more (runEach step inputs state).2).2) := by
  induction inputs generalizing state with
  | nil => rfl
  | cons input inputs ih =>
    rw [List.cons_append, runEach_cons, runEach_cons, ih]
    rfl

theorem runEach_concat :
    runEach step (inputs ++ [input]) state =
      ((runEach step inputs state).1 ++ [(step input (runEach step inputs state).2).1],
        (step input (runEach step inputs state).2).2) :=
  runEach_append

/-- What every step keeps, a run keeps. -/
theorem runEach_keeps (holds : σ → Prop) (start : holds state)
    (kept : ∀ input ∈ inputs, ∀ state, holds state → holds (step input state).2) :
    holds (runEach step inputs state).2 := by
  induction inputs generalizing state with
  | nil => exact start
  | cons input inputs ih =>
    rw [runEach_cons]
    exact ih (kept input List.mem_cons_self state start)
      fun input mem => kept input (List.mem_cons_of_mem _ mem)

/-- Steps that agree with the steps of a machine, and keep the two states related, make runs that
agree with the runs of the machine. -/
theorem runEach_follows {Related : σ → τ → Prop} (related : Related state state')
    (follows : ∀ input ∈ inputs, ∀ state state', Related state state' →
      (step input state).1 = (step' input state').1 ∧
        Related (step input state).2 (step' input state').2) :
    (runEach step inputs state).1 = (runEach step' inputs state').1 ∧
      Related (runEach step inputs state).2 (runEach step' inputs state').2 := by
  induction inputs generalizing state state' with
  | nil => exact ⟨rfl, related⟩
  | cons input inputs ih =>
    obtain ⟨same, next⟩ := follows input List.mem_cons_self state state' related
    obtain ⟨results, last⟩ := ih next fun input mem => follows input (List.mem_cons_of_mem _ mem)
    rw [runEach_cons, runEach_cons, same, results]
    exact ⟨rfl, last⟩

end Lemmas
end RowDrop
