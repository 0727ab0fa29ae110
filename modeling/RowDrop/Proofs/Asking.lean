import RowDrop.Program

/-!
# The steps that a program can take

A program stays within a set of steps if it asks for no other step, whatever the replies to the
earlier ones are (`Program.Within`). This says more than a run does: it holds in every world, and
also where other programs come between the steps. What none of the steps changes, no run changes
(`Program.Within.run`).
-/

namespace RowDrop

variable {α β : Type} {allowed : Call → Prop}

/-- Every step that a program can come to is allowed. -/
def Program.Within (allowed : Call → Prop) : Program α → Prop
  | done _ => True
  | step call next => allowed call ∧ ∀ reply, (next reply).Within allowed

theorem Program.Within.bind {first : Program α} {next : α → Program β}
    (h : first.Within allowed) (h' : ∀ value, (next value).Within allowed) :
    (first >>= next).Within allowed := by
  induction first with
  | done value => exact h' value
  | step call rest ih => exact ⟨h.1, fun reply => ih reply (h.2 reply)⟩

/-- What every step keeps, the program keeps. -/
theorem Program.Within.run {σ : Type} {program : Program α} (h : program.Within allowed)
    (view : World → σ)
    (kept : ∀ world call, allowed call → view (world.reply call).2 = view world) (world : World) :
    view (program.run world).2 = view world := by
  induction program generalizing world with
  | done value => rfl
  | step call next ih =>
    rw [Program.run_step, ih _ (h.2 _)]
    exact kept world call h.1

namespace Operation

/-- Every step that an operation can come to is allowed. -/
def Within (allowed : Call → Prop) (operation : Operation α) : Prop :=
  Program.Within allowed (ExceptT.run operation)

theorem within_pure (value : α) : Within allowed (pure value : Operation α) := trivial

theorem within_throw (error : Error) : Within allowed (throw error : Operation α) := trivial

theorem within_ask {call : Call} (h : allowed call) : Within allowed (ask call) :=
  ⟨h, fun _ => trivial⟩

theorem within_note {event : Event} (h : allowed (.note event)) : Within allowed (note event) :=
  ⟨h, fun _ => trivial⟩

theorem within_orFail {ε : Type} (meaning : ε → Error) (reply : Except ε α) :
    Within allowed (orFail meaning reply) := by
  cases reply with
  | ok value => exact within_pure value
  | error error => exact within_throw (meaning error)

namespace Within

variable {operation : Operation α} {next : α → Operation β}

theorem bind (h : operation.Within allowed) (h' : ∀ value, (next value).Within allowed) :
    (operation >>= next).Within allowed := by
  refine Program.Within.bind h fun result => ?_
  cases result with
  | ok value => exact h' value
  | error error => trivial

theorem discard (h : operation.Within allowed) : (discard operation).Within allowed := by
  refine Program.Within.bind h fun result => ?_
  cases result with
  | ok value => trivial
  | error error => trivial

/-- Behind a reply that may be a failure, only what it succeeds with counts. -/
theorem orFail_bind {ε : Type} {meaning : ε → Error} {reply : Except ε α}
    (h : ∀ value, reply = .ok value → (next value).Within allowed) :
    (orFail meaning reply >>= next).Within allowed := by
  cases reply with
  | ok value => exact h value rfl
  | error error => trivial

theorem run {σ : Type} (h : operation.Within allowed) (view : World → σ)
    (kept : ∀ world call, allowed call → view (world.reply call).2 = view world) (world : World) :
    view (Operation.run operation world).2 = view world :=
  Program.Within.run h view kept world

end Within
end Operation
end RowDrop
