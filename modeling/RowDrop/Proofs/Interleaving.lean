import RowDrop.Program

/-!
# Two programs at the same time

Two programs that run at the same time take their steps in turns, in any order (`Program.race`), and
however they begin, both can end (`Program.exists_race_ended`). A program mirrors another one
(`Program.Mirrors`) if it goes on as the other one does alone, whatever others do between its steps
as long as they keep to what it relies on; and its own steps keep to a guarantee. Where each of two
programs guarantees what the other one relies on, both end as their mirror images do alone
(`Program.Mirrors.race`).
-/

namespace RowDrop

/-- Which of two programs takes the next step. -/
inductive Turn where
  | first
  | second
  deriving DecidableEq, Repr

namespace Program

variable {α α' β β' γ γ' : Type}

/-- Takes the next step of a program, if there is one. -/
def advance : Program α → World → Program α × World
  | done value, world => (done value, world)
  | step call next, world => (next (world.reply call).1, (world.reply call).2)

/-- The value of a program that has ended. -/
def value? : Program α → Option α
  | done value => some value
  | step _ _ => none

/-- Two programs take steps in turns. A program that has ended lets its turns pass. -/
def race : List Turn → Program α → Program β → World → Program α × Program β × World
  | [], first, second, world => (first, second, world)
  | .first :: turns, first, second, world =>
    race turns (first.advance world).1 second (first.advance world).2
  | .second :: turns, first, second, world =>
    race turns first (second.advance world).1 (second.advance world).2

theorem race_append (turns more : List Turn) (first : Program α) (second : Program β)
    (world : World) :
    race (turns ++ more) first second world =
      race more (race turns first second world).1 (race turns first second world).2.1
        (race turns first second world).2.2 := by
  induction turns generalizing first second world with
  | nil => rfl
  | cons turn turns ih => cases turn <;> exact ih _ _ _

theorem exists_race_first (first : Program α) (second : Program β) (world : World) :
    ∃ turns value after, race turns first second world = (done value, second, after) := by
  induction first generalizing world with
  | done value => exact ⟨[], value, world, rfl⟩
  | step call next ih =>
    obtain ⟨turns, value, after, ended⟩ := ih (world.reply call).1 (world.reply call).2
    exact ⟨.first :: turns, value, after, ended⟩

theorem exists_race_second (first : Program α) (second : Program β) (world : World) :
    ∃ turns value after, race turns first second world = (first, done value, after) := by
  induction second generalizing world with
  | done value => exact ⟨[], value, world, rfl⟩
  | step call next ih =>
    obtain ⟨turns, value, after, ended⟩ := ih (world.reply call).1 (world.reply call).2
    exact ⟨.second :: turns, value, after, ended⟩

/-- However two programs have begun, there are turns with which both end. -/
theorem exists_race_ended (turns : List Turn) (first : Program α) (second : Program β)
    (world : World) :
    ∃ more value value' after,
      race (turns ++ more) first second world = (done value, done value', after) := by
  obtain ⟨one, value, between, ended⟩ := exists_race_first (race turns first second world).1
    (race turns first second world).2.1 (race turns first second world).2.2
  obtain ⟨two, value', after, ended'⟩ := exists_race_second (done value)
    (race turns first second world).2.1 between
  refine ⟨one ++ two, value, value', after, ?_⟩
  rw [race_append, race_append, ended]
  exact ended'

/-- A program does in a world that others change what another program does alone in its own world:
it takes as many steps, each of them keeps to a guarantee if the others keep to what is relied on,
and both end as `ends` says. -/
def Mirrors (rely guarantee : World → World → Prop) (ends : α → α' → World → World → Prop) :
    Program α → Program α' → World → World → Prop
  | done value, done value', world, alone => ends value value' world alone
  | step call next, step call' next', world, alone =>
    ∀ met, rely world met → guarantee met (met.reply call).2 ∧
      (next (met.reply call).1).Mirrors rely guarantee ends (next' (alone.reply call').1)
        (met.reply call).2 (alone.reply call').2
  | _, _, _, _ => False

theorem eq_done_of_value? {program : Program α} (h : program.value?.isSome) :
    ∃ value, program = done value := by
  cases program with
  | done value => exact ⟨value, rfl⟩
  | step => cases h

/-- What is relied on holds over no step and over several ones, and what holds at the end goes on to
hold. -/
structure Steady (rely : World → World → Prop) (ends : α → α' → World → World → Prop) : Prop where
  refl : ∀ world, rely world world
  trans : ∀ first second third, rely first second → rely second third → rely first third
  stable : ∀ value value' world met alone, ends value value' world alone → rely world met →
    ends value value' met alone

variable {rely rely' guarantee guarantee' : World → World → Prop}
variable {ends : α → α' → World → World → Prop} {ends' : β → β' → World → World → Prop}
variable {program : Program α} {image : Program α'} {other : Program β} {image' : Program β'}
variable {world met alone alone' after : World}

namespace Mirrors

theorem mono {ends' : α → α' → World → World → Prop}
    (h : program.Mirrors rely guarantee ends image world alone)
    (weaker : ∀ value value' after after', ends value value' after after' →
      ends' value value' after after') :
    program.Mirrors rely guarantee ends' image world alone := by
  induction program generalizing image world alone with
  | done value =>
    cases image with
    | done value' => exact weaker _ _ _ _ h
    | step => exact h.elim
  | step call next ih =>
    cases image with
    | done => exact h.elim
    | step call' next' => exact fun met relied => ⟨(h met relied).1, ih _ (h met relied).2⟩

/-- Programs that go on where others end. -/
theorem bind {next : α → Program γ} {next' : α' → Program γ'}
    {ends : γ → γ' → World → World → Prop}
    (h : program.Mirrors rely guarantee
      (fun value value' => (next value).Mirrors rely guarantee ends (next' value')) image world
      alone) :
    (program >>= next).Mirrors rely guarantee ends (image >>= next') world alone := by
  change (program.bind next).Mirrors rely guarantee ends (image.bind next') world alone
  induction program generalizing image world alone with
  | done value =>
    cases image with
    | done value' => exact h
    | step => exact h.elim
  | step call rest ih =>
    cases image with
    | done => exact h.elim
    | step call' rest' => exact fun met relied => ⟨(h met relied).1, ih _ (h met relied).2⟩

/-- What others do before the next step is no matter. -/
theorem later (h : program.Mirrors rely guarantee ends image world alone)
    (steady : Steady rely ends) (relied : rely world met) :
    program.Mirrors rely guarantee ends image met alone := by
  cases program with
  | done value =>
    cases image with
    | done value' => exact steady.stable _ _ _ _ _ h relied
    | step => exact h.elim
  | step call next =>
    cases image with
    | done => exact h.elim
    | step call' next' => exact fun met' relied' => h met' (steady.trans _ _ _ relied relied')

/-- Two programs that run at the same time end as their images do alone, if each guarantees what the
other one relies on. -/
theorem race {turns : List Turn} {value : α} {value' : β}
    (h : program.Mirrors rely guarantee ends image world alone)
    (h' : other.Mirrors rely' guarantee' ends' image' world alone')
    (steady : Steady rely ends) (steady' : Steady rely' ends')
    (helps : ∀ world after, guarantee world after → rely' world after)
    (helps' : ∀ world after, guarantee' world after → rely world after)
    (ended : Program.race turns program other world = (done value, done value', after)) :
    ends value (image.run alone).1 after (image.run alone).2 ∧
      ends' value' (image'.run alone').1 after (image'.run alone').2 := by
  induction turns generalizing program other image image' world alone alone' with
  | nil =>
    obtain ⟨rfl, hrest⟩ := Prod.mk.inj ended
    obtain ⟨rfl, rfl⟩ := Prod.mk.inj hrest
    cases image with
    | step => exact h.elim
    | done =>
      cases image' with
      | step => exact h'.elim
      | done => exact ⟨h, h'⟩
  | cons turn turns ih =>
    cases turn with
    | first =>
      cases program with
      | done => exact ih h h' ended
      | step call next =>
        cases image with
        | done => exact h.elim
        | step call' next' =>
          obtain ⟨kept, rest⟩ := h world (steady.refl world)
          rw [run_step]
          exact ih rest (h'.later steady' (helps _ _ kept)) ended
    | second =>
      cases other with
      | done => exact ih h h' ended
      | step call next =>
        cases image' with
        | done => exact h'.elim
        | step call' next' =>
          obtain ⟨kept, rest⟩ := h' world (steady'.refl world)
          rw [run_step]
          exact ih (h.later steady (helps' _ _ kept)) rest ended

/-- A program alone ends as its image does, and all of it keeps to the guarantee. -/
theorem run (h : program.Mirrors rely guarantee ends image world alone)
    (refl : ∀ world, rely world world) (still : ∀ world, guarantee world world)
    (trans : ∀ first second third, guarantee first second → guarantee second third →
      guarantee first third) :
    ends (program.run world).1 (image.run alone).1 (program.run world).2 (image.run alone).2 ∧
      guarantee world (program.run world).2 := by
  induction program generalizing image world alone with
  | done value =>
    cases image with
    | done value' => exact ⟨h, still world⟩
    | step => exact h.elim
  | step call next ih =>
    cases image with
    | done => exact h.elim
    | step call' next' =>
      obtain ⟨kept, rest⟩ := h world (refl world)
      obtain ⟨ended, keeps⟩ := ih _ rest
      exact ⟨ended, trans _ _ _ kept keeps⟩

end Mirrors
end Program
end RowDrop
