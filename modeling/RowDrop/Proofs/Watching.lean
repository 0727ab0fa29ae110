import RowDrop.Program

/-!
# What holds all along a run

A watch remembers the steps of a run and says what shall hold at each of its points. An operation
keeps a watch (`Operation.Keeps`) from a world and a memory on if the condition holds before its
first step and after every step, and the two ways in which it can end have conditions of their own.
The memory decides nothing: the run is the one that goes unwatched (`Operation.Keeps.of_ok`,
`Operation.Keeps.of_error`).
-/

namespace RowDrop

variable {α β μ : Type}

/-- What is remembered of the steps of a run, and what shall hold at each of its points. -/
structure Watch (μ : Type) where
  /-- What the memory is after a step with a reply. -/
  record : (call : Call) → call.Reply → μ → μ
  holds : World → μ → Prop

namespace Program

/-- The memory at the end of a run. -/
def memory (watch : Watch μ) : Program α → World → μ → μ
  | done _, _, memory => memory
  | step call next, world, memory =>
    (next (world.reply call).1).memory watch (world.reply call).2
      (watch.record call (world.reply call).1 memory)

/-- The condition of the watch holds at every point of a run, and another one at its end. -/
def Keeps (watch : Watch μ) (ends : α → World → μ → Prop) : Program α → World → μ → Prop
  | done value, world, memory => watch.holds world memory ∧ ends value world memory
  | step call next, world, memory =>
    watch.holds world memory ∧
      (next (world.reply call).1).Keeps watch ends (world.reply call).2
        (watch.record call (world.reply call).1 memory)

variable {watch : Watch μ} {ends : α → World → μ → Prop} {program : Program α}
variable {world : World} {memory : μ}

theorem Keeps.run (h : program.Keeps watch ends world memory) :
    ends (program.run world).1 (program.run world).2 (program.memory watch world memory) := by
  induction program generalizing world memory with
  | done value => exact h.2
  | step call next ih => exact ih _ h.2

theorem Keeps.mono {ends' : α → World → μ → Prop} (h : program.Keeps watch ends world memory)
    (weaker : ∀ value after memory, watch.holds after memory → ends value after memory →
      ends' value after memory) :
    program.Keeps watch ends' world memory := by
  induction program generalizing world memory with
  | done value => exact ⟨h.1, weaker _ _ _ h.1 h.2⟩
  | step call next ih => exact ⟨h.1, ih _ h.2⟩

/-- The first program ends where the second one begins. -/
theorem Keeps.bind {next : α → Program β} {ends : β → World → μ → Prop}
    (h : program.Keeps watch (fun value => (next value).Keeps watch ends) world memory) :
    (program >>= next).Keeps watch ends world memory := by
  change (program.bind next).Keeps watch ends world memory
  induction program generalizing world memory with
  | done value => exact h.2
  | step call rest ih => exact ⟨h.1, ih _ h.2⟩

end Program

namespace Operation

/-- The memory at the end of a run. -/
def memory (watch : Watch μ) (operation : Operation α) (world : World) (memory : μ) : μ :=
  Program.memory watch (ExceptT.run operation) world memory

/-- The condition of the watch holds at every point of a run; at its end holds `good` if the
operation succeeds, and `bad` if it fails. -/
def Keeps (watch : Watch μ) (operation : Operation α) (world : World) (memory : μ)
    (good : α → World → μ → Prop) (bad : Error → World → μ → Prop) : Prop :=
  Program.Keeps watch
    (fun result after memory =>
      match result with
      | .ok value => good value after memory
      | .error error => bad error after memory)
    (ExceptT.run operation) world memory

variable {watch : Watch μ} {operation : Operation α} {next : α → Operation β}
variable {world : World} {memory : μ} {bad bad' : Error → World → μ → Prop}

section Rules

variable {good : α → World → μ → Prop}

theorem keeps_pure {value : α} (here : watch.holds world memory) (ends : good value world memory) :
    Keeps watch (pure value) world memory good bad :=
  ⟨here, ends⟩

theorem keeps_throw {error : Error} (here : watch.holds world memory)
    (ends : bad error world memory) : Keeps watch (throw error) world memory good bad :=
  ⟨here, ends⟩

theorem keeps_note {event : Event} {good : Unit → World → μ → Prop}
    (here : watch.holds world memory)
    (after : watch.holds { world with log := event :: world.log }
      (watch.record (.note event) () memory))
    (ends : good () { world with log := event :: world.log }
      (watch.record (.note event) () memory)) :
    Keeps watch (note event) world memory good bad :=
  ⟨here, after, ends⟩

end Rules

namespace Keeps

variable {good : α → World → μ → Prop}

/-- What holds if the operation succeeds holds at the end of the run that goes unwatched. -/
theorem of_ok {value : α} (h : operation.Keeps watch world memory good bad)
    (succeeded : (Operation.run operation world).1 = .ok value) :
    good value (Operation.run operation world).2 (operation.memory watch world memory) := by
  have ends := Program.Keeps.run h
  rw [show (Program.run (ExceptT.run operation) world).1 = _ from succeeded] at ends
  exact ends

theorem of_error {error : Error} (h : operation.Keeps watch world memory good bad)
    (failed : (Operation.run operation world).1 = .error error) :
    bad error (Operation.run operation world).2 (operation.memory watch world memory) := by
  have ends := Program.Keeps.run h
  rw [show (Program.run (ExceptT.run operation) world).1 = _ from failed] at ends
  exact ends

/-- The condition of the watch holds at the end. -/
theorem holds (h : operation.Keeps watch world memory good bad) :
    watch.holds (Operation.run operation world).2 (operation.memory watch world memory) :=
  (Program.Keeps.mono h fun _ _ _ here _ => here).run

/-- What holds however the operation ends holds at the end of the run. -/
theorem run {ends : World → μ → Prop}
    (h : operation.Keeps watch world memory (fun _ => ends) (fun _ => ends)) :
    ends (Operation.run operation world).2 (operation.memory watch world memory) := by
  cases result : (Operation.run operation world).1 with
  | ok value => exact h.of_ok result
  | error error => exact h.of_error result

theorem mono {good' : α → World → μ → Prop} (h : operation.Keeps watch world memory good bad)
    (weaker : ∀ value after memory, good value after memory → good' value after memory)
    (weaker' : ∀ error after memory, bad error after memory → bad' error after memory) :
    operation.Keeps watch world memory good' bad' := by
  refine Program.Keeps.mono h fun result after memory _ ends => ?_
  cases result with
  | ok value => exact weaker value after memory ends
  | error error => exact weaker' error after memory ends

/-- An operation that succeeds hands on to the next one; one that fails is the end of both. -/
theorem bind {middle : α → World → μ → Prop} {good : β → World → μ → Prop}
    (h : operation.Keeps watch world memory middle bad)
    (failed : ∀ error after memory, bad error after memory → bad' error after memory)
    (rest : ∀ value after memory, middle value after memory →
      (next value).Keeps watch after memory good bad') :
    (operation >>= next).Keeps watch world memory good bad' := by
  refine Program.Keeps.bind (Program.Keeps.mono h fun result after memory here ends => ?_)
  cases result with
  | ok value => exact rest value after memory ends
  | error error => exact ⟨here, failed error after memory ends⟩

theorem ask_bind {call : Call} {next : call.Reply → Operation β} {good : β → World → μ → Prop}
    (here : watch.holds world memory)
    (rest : (next (world.reply call).1).Keeps watch (world.reply call).2
      (watch.record call (world.reply call).1 memory) good bad) :
    (Operation.ask call >>= next).Keeps watch world memory good bad :=
  ⟨here, rest⟩

theorem note_bind {event : Event} {next : Unit → Operation β} {good : β → World → μ → Prop}
    (here : watch.holds world memory)
    (rest : (next ()).Keeps watch { world with log := event :: world.log }
      (watch.record (.note event) () memory) good bad) :
    (Operation.note event >>= next).Keeps watch world memory good bad :=
  ⟨here, rest⟩

/-- Behind a reply that may be a failure, only what it succeeds with goes on. -/
theorem orFail_bind {ε : Type} {meaning : ε → Error} {reply : Except ε α}
    {good : β → World → μ → Prop} (here : watch.holds world memory)
    (failed : ∀ error, reply = .error error → bad (meaning error) world memory)
    (rest : ∀ value, reply = .ok value → (next value).Keeps watch world memory good bad) :
    (orFail meaning reply >>= next).Keeps watch world memory good bad := by
  cases reply with
  | ok value => exact rest value rfl
  | error error => exact ⟨here, failed error rfl⟩

/-- Only the value of an operation is discarded. -/
theorem discard {good : Unit → World → μ → Prop}
    (h : operation.Keeps watch world memory (fun _ => good ()) bad) :
    (discard operation).Keeps watch world memory good bad := by
  refine Program.Keeps.bind (Program.Keeps.mono h fun result after memory here ends => ?_)
  cases result with
  | ok value => exact ⟨here, ends⟩
  | error error => exact ⟨here, ends⟩

theorem discard_bind {middle : α → World → μ → Prop} {next : Unit → Operation β}
    {good : β → World → μ → Prop} (h : operation.Keeps watch world memory middle bad)
    (failed : ∀ error after memory, bad error after memory → bad' error after memory)
    (rest : ∀ value after memory, middle value after memory →
      (next ()).Keeps watch after memory good bad') :
    (Functor.discard operation >>= next).Keeps watch world memory good bad' := by
  have first : (Functor.discard operation).Keeps watch world memory
      (fun _ after memory => ∃ value, middle value after memory) bad :=
    discard (h.mono (fun value _ _ ends => ⟨value, ends⟩) fun _ _ _ => id)
  refine first.bind failed ?_
  rintro _ after memory ⟨value, ends⟩
  exact rest value after memory ends

end Keeps
end Operation
end RowDrop
