import GroundedAnswers.CommandLine.Run
import GroundedAnswers.Proofs.Task.Running

namespace GroundedAnswers

/-! Running the work of commands alone: its result, and all that is printed by then. -/

namespace CommandTask

def runAfter (task : CommandTask σ α) (output : String) (now : Moment) (state : σ) :
    (Except CommandFailure α × String) × Moment × σ :=
  Task.run (task.run.run output) now state

variable {output printed : String} {now moment : Moment} {state after : σ}

@[simp] theorem runAfter_pure (value : α) :
    (pure value : CommandTask σ α).runAfter output now state = ((.ok value, output), now, state) :=
  rfl

@[simp] theorem runAfter_throw (failure : CommandFailure) :
    (throw failure : CommandTask σ α).runAfter output now state =
      ((.error failure, output), now, state) :=
  rfl

@[simp] theorem runAfter_print (text : String) :
    (print text : CommandTask σ Unit).runAfter output now state =
      ((.ok (), output ++ text), now, state) :=
  rfl

@[simp] theorem runAfter_silently (task : Task σ α) :
    (silently task).runAfter output now state =
      let (value, moment, after) := task.run now state
      ((.ok value, output), moment, after) := by
  change Task.run ((task >>= fun value => pure (value, output)) >>= fun printed =>
    pure (Except.ok printed.1, printed.2)) now state = _
  simp [Task.bind_run]

theorem runAfter_silently_of_run (output : String) {task : Task σ α} {value : α}
    (ran : Task.run task now state = (value, moment, after)) :
    (silently task).runAfter output now state = ((.ok value, output), moment, after) := by
  rw [runAfter_silently, ran]

theorem runAfter_bind_of_ok {task : CommandTask σ α} {value : α}
    (succeeded : task.runAfter output now state = ((.ok value, printed), moment, after))
    (next : α → CommandTask σ β) :
    (task >>= next).runAfter output now state = (next value).runAfter printed moment after := by
  unfold runAfter at succeeded ⊢
  simp only [ExceptT.run_bind, StateT.run_bind, Task.bind_run, succeeded]

theorem runAfter_bind_of_error {task : CommandTask σ α} {failure : CommandFailure}
    (failed : task.runAfter output now state = ((.error failure, printed), moment, after))
    (next : α → CommandTask σ β) :
    (task >>= next).runAfter output now state = ((.error failure, printed), moment, after) := by
  unfold runAfter at failed ⊢
  simp only [ExceptT.run_bind, StateT.run_bind, Task.bind_run, failed]
  rfl

theorem exists_of_runAfter_bind_ok {task : CommandTask σ α} {next : α → CommandTask σ β} {value : β}
    (succeeded : (task >>= next).runAfter output now state = ((.ok value, printed), moment, after)) :
    ∃ first shown reached between,
      task.runAfter output now state = ((.ok first, shown), reached, between) ∧
      (next first).runAfter shown reached between = ((.ok value, printed), moment, after) := by
  rcases ran : task.runAfter output now state with ⟨⟨result, shown⟩, reached, between⟩
  cases result with
  | error failure =>
      rw [runAfter_bind_of_error ran] at succeeded
      cases succeeded
  | ok first =>
      rw [runAfter_bind_of_ok ran] at succeeded
      exact ⟨first, shown, reached, between, rfl, succeeded⟩

section

variable (failing : ε → CommandFailure) (output : String) {task : ExceptT ε (Task σ) α}

theorem runAfter_attempt_of_ok {value : α}
    (succeeded : Task.run task.run now state = (.ok value, moment, after)) :
    (attempt failing task).runAfter output now state = ((.ok value, output), moment, after) := by
  unfold attempt
  rw [runAfter_bind_of_ok (runAfter_silently_of_run output succeeded)]
  rfl

theorem runAfter_attempt_of_error {failure : ε}
    (failed : Task.run task.run now state = (.error failure, moment, after)) :
    (attempt failing task).runAfter output now state =
      ((.error (failing failure), output), moment, after) := by
  unfold attempt
  rw [runAfter_bind_of_ok (runAfter_silently_of_run output failed)]
  rfl

theorem run_of_runAfter_attempt_ok {value : α}
    (succeeded : (attempt failing task).runAfter output now state =
      ((.ok value, printed), moment, after)) :
    Task.run task.run now state = (.ok value, moment, after) := by
  rcases ran : Task.run task.run now state with ⟨outcome, reached, between⟩
  cases outcome with
  | error failure =>
      rw [runAfter_attempt_of_error failing output ran] at succeeded
      cases succeeded
  | ok result =>
      rw [runAfter_attempt_of_ok failing output ran] at succeeded
      cases succeeded
      rfl

end

theorem run_outcome_of_ok {task : CommandTask σ Unit}
    (succeeded : task.runAfter "" now state = ((.ok (), printed), moment, after)) :
    Task.run task.outcome now state = (⟨printed, none⟩, moment, after) := by
  unfold outcome runAfter at *
  rw [Task.bind_run, succeeded]
  rfl

theorem run_outcome_of_error {task : CommandTask σ Unit} {failure : CommandFailure}
    (failed : task.runAfter "" now state = ((.error failure, printed), moment, after)) :
    Task.run task.outcome now state = (⟨printed, some failure⟩, moment, after) := by
  unfold outcome runAfter at *
  rw [Task.bind_run, failed]
  rfl

theorem run_outcome_attempt_of_error (failing : ε → CommandFailure) {task : ExceptT ε (Task σ) α}
    {failure : ε} (failed : Task.run task.run now state = (.error failure, moment, after))
    (next : α → CommandTask σ Unit) :
    Task.run (attempt failing task >>= next).outcome now state =
      (⟨"", some (failing failure)⟩, moment, after) :=
  run_outcome_of_error (runAfter_bind_of_error (runAfter_attempt_of_error failing "" failed) next)

/-! ## Work that prints nothing -/

/-- Whatever comes of the work, the output is what it was. -/
def Silent (task : CommandTask σ α) : Prop :=
  ∀ output now state, (task.runAfter output now state).1.2 = output

namespace Silent

theorem pure (value : α) : Silent (Pure.pure value : CommandTask σ α) :=
  fun _ _ _ => rfl

theorem throw (failure : CommandFailure) : Silent (MonadExcept.throw failure : CommandTask σ α) :=
  fun _ _ _ => rfl

theorem silently (task : Task σ α) : Silent (CommandTask.silently task) := by
  intro output now state
  rw [runAfter_silently]

theorem bind {task : CommandTask σ α} {next : α → CommandTask σ β} (silent : Silent task)
    (others : ∀ value, Silent (next value)) : Silent (task >>= next) := by
  intro output now state
  have kept := silent output now state
  rcases ran : task.runAfter output now state with ⟨⟨result, printed⟩, moment, after⟩
  rw [ran] at kept
  subst kept
  cases result with
  | error failure => rw [runAfter_bind_of_error ran]
  | ok value =>
      rw [runAfter_bind_of_ok ran]
      exact others value _ _ _

theorem attempt (failing : ε → CommandFailure) (task : ExceptT ε (Task σ) α) :
    Silent (CommandTask.attempt failing task) := by
  refine (silently task.run).bind fun outcome => ?_
  cases outcome with
  | ok value => exact .pure value
  | error failure => exact .throw _

end Silent

end CommandTask

end GroundedAnswers
