import GroundedAnswers.Time.Moment

namespace GroundedAnswers

/-! Work that takes time. A task runs from a moment and a state until it finishes or has to wait.
Whoever runs it may drop it while it waits, and keeps the state that it had reached. -/

/-- How far work has come: it is finished, or it waits for a moment and then goes on from the state
of that moment. -/
inductive Progress (σ α : Type) where
  | finished (value : α) (state : σ)
  | waiting (wake : Moment) (state : σ) (resume : σ → Progress σ α)

/-- Work on a state `σ` with a result `α`. It is told the moment at which it starts. -/
def Task (σ α : Type) : Type :=
  Moment → σ → Progress σ α

namespace Progress

/-- Go on with `next` once the work is finished, `now` being the moment reached so far. -/
def andThen (next : α → Task σ β) (now : Moment) : Progress σ α → Progress σ β
  | .finished value state => next value now state
  | .waiting wake state resume => .waiting wake state fun later => (resume later).andThen next wake

def run (now : Moment) : Progress σ α → α × Moment × σ
  | .finished value state => (value, now, state)
  | .waiting wake state resume => (resume state).run wake

/-- Carry work on a part of a state over to the whole state. -/
def zoom (part : τ → σ) (replace : σ → τ → τ) (whole : τ) : Progress σ α → Progress τ α
  | .finished value state => .finished value (replace state whole)
  | .waiting wake state resume =>
      .waiting wake (replace state whole) fun later =>
        (resume (part later)).zoom part replace later

end Progress

namespace Task

protected def pure (value : α) : Task σ α :=
  fun _ state => .finished value state

protected def bind (task : Task σ α) (next : α → Task σ β) : Task σ β :=
  fun now state => (task now state).andThen next now

instance : Monad (Task σ) where
  pure := Task.pure
  bind := Task.bind

instance : MonadStateOf σ (Task σ) where
  get := fun _ state => .finished state state
  set := fun state _ _ => .finished () state
  modifyGet := fun change _ state => .finished (change state).1 (change state).2

def now : Task σ Moment :=
  fun moment state => .finished moment state

def waitUntil (wake : Moment) : Task σ Unit :=
  fun now state => if wake ≤ now then .finished () state else .waiting wake state (.finished ())

def delay (nanoseconds : Nat) : Task σ Unit := do
  waitUntil ((← now).after nanoseconds)

def zoom (part : τ → σ) (replace : σ → τ → τ) (task : Task σ α) : Task τ α :=
  fun now whole => (task now (part whole)).zoom part replace whole

def run (task : Task σ α) (now : Moment) (state : σ) : α × Moment × σ :=
  (task now state).run now

theorem run_andThen (progress : Progress σ α) (next : α → Task σ β) (now : Moment) :
    (progress.andThen next now).run now =
      (next (progress.run now).1).run (progress.run now).2.1 (progress.run now).2.2 := by
  induction progress generalizing now with
  | finished value state => rfl
  | waiting wake state resume induction => exact induction state wake

theorem bind_run (task : Task σ α) (next : α → Task σ β) (now : Moment) (state : σ) :
    (task >>= next).run now state =
      (next (task.run now state).1).run (task.run now state).2.1 (task.run now state).2.2 :=
  run_andThen (task now state) next now

end Task

end GroundedAnswers
