import GroundedAnswers.Context.Basic

namespace GroundedAnswers

/-! Running tasks alone: what comes of the parts of a task, of work on a part of a state, and of
work under a context that nothing interrupts. -/

namespace Task

/-! ## Steps that take no time -/

@[simp] theorem run_pure (value : α) (now : Moment) (state : σ) :
    (pure value : Task σ α).run now state = (value, now, state) := rfl

@[simp] theorem run_modify (change : σ → σ) (now : Moment) (state : σ) :
    (modify change : Task σ PUnit).run now state = (⟨⟩, now, change state) := rfl

@[simp] theorem run_now (now : Moment) (state : σ) :
    (Task.now : Task σ Moment).run now state = (now, now, state) := rfl

@[simp] theorem run_map (transform : α → β) (task : Task σ α) (now : Moment) (state : σ) :
    (transform <$> task).run now state =
      (transform (task.run now state).1, (task.run now state).2) :=
  bind_run task (fun value => pure (transform value)) now state

/-! ## Work that may fail -/

section Failing

variable {ε ζ : Type}

theorem run_bind_of_ok {task : ExceptT ε (Task σ) α} {now moment : Moment} {state after : σ}
    {value : α} (succeeded : task.run.run now state = (.ok value, moment, after))
    (next : α → ExceptT ε (Task σ) β) :
    (task >>= next).run.run now state = (next value).run.run moment after := by
  simp only [ExceptT.run_bind, bind_run, succeeded]

theorem run_bind_of_error {task : ExceptT ε (Task σ) α} {now moment : Moment} {state after : σ}
    {failure : ε} (failed : task.run.run now state = (.error failure, moment, after))
    (next : α → ExceptT ε (Task σ) β) :
    (task >>= next).run.run now state = (.error failure, moment, after) := by
  simp only [ExceptT.run_bind, bind_run, failed, run_pure]

theorem run_bind_lift {task : Task σ α} {now moment : Moment} {state after : σ} {outcome : α}
    (finished : task.run now state = (outcome, moment, after))
    (next : α → ExceptT ε (Task σ) β) :
    (ExceptT.lift task >>= next).run.run now state = (next outcome).run.run moment after := by
  simp only [ExceptT.run_bind, ExceptT.run_lift, bind_run, run_map, finished]

theorem exists_of_run_bind_ok {task : ExceptT ε (Task σ) α} {next : α → ExceptT ε (Task σ) β}
    {now moment : Moment} {state after : σ} {value : β}
    (succeeded : (task >>= next).run.run now state = (.ok value, moment, after)) :
    ∃ first reached between, task.run.run now state = (.ok first, reached, between) ∧
      (next first).run.run reached between = (.ok value, moment, after) := by
  rcases started : task.run.run now state with ⟨outcome, reached, between⟩
  cases outcome with
  | error failure =>
      rw [run_bind_of_error started] at succeeded
      cases succeeded
  | ok first =>
      rw [run_bind_of_ok started] at succeeded
      exact ⟨first, reached, between, rfl, succeeded⟩

end Failing

/-! ## Work that ends without a wait -/

theorem bind_of_finished {task : ExceptT ε (Task σ) α} {now : Moment} {state after : σ} {value : α}
    (finished : task now state = .finished (.ok value) after) (next : α → ExceptT ε (Task σ) β) :
    (task >>= next) now state = next value now after := by
  change (task now state).andThen _ now = _
  rw [finished]
  rfl

theorem bind_of_failed {task : ExceptT ε (Task σ) α} {now : Moment} {state after : σ} {failure : ε}
    (finished : task now state = .finished (.error failure) after)
    (next : α → ExceptT ε (Task σ) β) :
    (task >>= next) now state = .finished (.error failure) after := by
  change (task now state).andThen _ now = _
  rw [finished]
  rfl

theorem guarded_of_finished {task : ExceptT ε (Task σ) α} {now : Moment} {state after : σ}
    {outcome : Except ε α} (finished : task now state = .finished outcome after)
    (context : RequestContext) (interrupted : Interruption → ε) :
    context.guarded interrupted task now state =
      match context.interruption? now with
      | some cause => .finished (.error (interrupted cause)) state
      | none => .finished outcome after := by
  unfold RequestContext.guarded
  rw [finished]
  rfl

theorem bind_guarded_of_finished {task : ExceptT ε (Task σ) α} {now : Moment} {state after : σ}
    {outcome : Except ε α} (finished : task now state = .finished outcome after)
    (context : RequestContext) (interrupted : Interruption → ε) (next : α → ExceptT ε (Task σ) β) :
    (context.guarded interrupted task >>= next) now state =
      match context.interruption? now with
      | some cause => .finished (.error (interrupted cause)) state
      | none =>
          match outcome with
          | .error failure => .finished (.error failure) after
          | .ok value => next value now after := by
  have guarded := guarded_of_finished finished context interrupted
  cases look : context.interruption? now with
  | some cause =>
      rw [look] at guarded
      exact bind_of_failed guarded next
  | none =>
      rw [look] at guarded
      cases outcome with
      | error failure => exact bind_of_failed guarded next
      | ok value => exact bind_of_finished guarded next

/-! ## Waiting -/

theorem run_waitUntil {wake now : Moment} (later : now ≤ wake) (state : σ) :
    (waitUntil wake).run now state = ((), wake, state) := by
  by_cases come : wake ≤ now
  · have same := Nat.le_antisymm come later
    subst same
    simp [run, waitUntil, Progress.run]
  · simp [run, waitUntil, come, Progress.run]

@[simp] theorem run_delay (nanoseconds : Nat) (now : Moment) (state : σ) :
    (delay nanoseconds).run now state = ((), now.after nanoseconds, state) :=
  run_waitUntil (Moment.le_after now nanoseconds) state

/-! ## Work on a part of a state -/

structure IsPart (part : τ → σ) (replace : σ → τ → τ) : Prop where
  part_replace : ∀ state whole, part (replace state whole) = state
  replace_replace : ∀ later earlier whole,
    replace later (replace earlier whole) = replace later whole
  replace_part : ∀ whole, replace (part whole) whole = whole

theorem run_zoom {part : τ → σ} {replace : σ → τ → τ} (isPart : IsPart part replace)
    (task : Task σ α) (now : Moment) (whole : τ) :
    (zoom part replace task).run now whole =
      ((task.run now (part whole)).1, (task.run now (part whole)).2.1,
        replace (task.run now (part whole)).2.2 whole) := by
  have zoomed : ∀ (progress : Progress σ α) (now : Moment),
      (progress.zoom part replace whole).run now =
        ((progress.run now).1, (progress.run now).2.1,
          replace (progress.run now).2.2 whole) := by
    intro progress
    induction progress generalizing whole with
    | finished value state => exact fun _ => rfl
    | waiting wake state resume induction =>
        intro now
        have resumed := induction state (replace state whole) wake
        rw [isPart.replace_replace] at resumed
        simpa only [Progress.zoom, Progress.run, isPart.part_replace] using resumed
  exact zoomed (task now (part whole)) now

end Task

/-! ## Contexts that nothing interrupts -/

def RequestContext.Calm (context : RequestContext) : Prop :=
  ∀ moment, context.interruption? moment = none

namespace RequestContext.Calm

variable {context : RequestContext}

private theorem stopsAt?_eq_none (calm : context.Calm) : context.stopsAt? = none := by
  cases stops : context.stopsAt? with
  | none => rfl
  | some moment =>
      have found := (context.interruption?_isSome_iff moment).mpr ⟨moment, stops, Nat.le_refl _⟩
      rw [calm moment] at found
      cases found

private theorem breaks?_eq_none (calm : context.Calm) (wake : Moment) :
    context.breaks? wake = none := by
  simp [breaks?, calm.stopsAt?_eq_none]

private theorem run_under (calm : context.Calm) (progress : Progress σ α) (now : Moment) :
    (progress.under context).run now = (.ok (progress.run now).1, (progress.run now).2) := by
  induction progress generalizing now with
  | finished value state => rfl
  | waiting wake state resume induction =>
      simp only [Progress.under, calm.breaks?_eq_none]
      exact induction state wake

theorem run_guarded (calm : context.Calm) (interrupted : Interruption → ε)
    (task : ExceptT ε (Task σ) α) (now : Moment) (state : σ) :
    Task.run (context.guarded interrupted task).run now state = Task.run task.run now state := by
  change Progress.run now (context.guarded interrupted task now state) = _
  unfold RequestContext.guarded
  rw [calm now]
  dsimp only
  rw [Task.run_andThen, calm.run_under]
  rfl

end RequestContext.Calm

/-! ## Results under a context -/

/-- Work that ends under a context ends in the same way without it. -/
theorem Progress.run_of_run_under {context : RequestContext} {progress : Progress σ α}
    {now moment : Moment} {value : α} {after : σ}
    (finished : (progress.under context).run now = (.ok value, moment, after)) :
    progress.run now = (value, moment, after) := by
  induction progress generalizing now with
  | finished result state =>
      cases finished
      rfl
  | waiting wake state resume induction =>
      rw [Progress.under] at finished
      cases broken : context.breaks? wake with
      | none =>
          rw [broken] at finished
          exact induction state finished
      | some cause =>
          rw [broken] at finished
          cases finished

theorem RequestContext.run_of_run_guarded {context : RequestContext}
    {interrupted : Interruption → ε} {task : ExceptT ε (Task σ) α} {now moment : Moment}
    {state after : σ} {value : α}
    (succeeded : Task.run (context.guarded interrupted task).run now state =
      (.ok value, moment, after)) :
    Task.run task.run now state = (.ok value, moment, after) := by
  change Progress.run now (context.guarded interrupted task now state) = _ at succeeded
  unfold RequestContext.guarded at succeeded
  cases look : context.interruption? now with
  | some cause =>
      rw [look] at succeeded
      cases succeeded
  | none =>
      rw [look] at succeeded
      simp only [Task.run_andThen] at succeeded
      rcases ended : ((task now state).under context).run now with ⟨outcome, reached, between⟩
      rw [ended] at succeeded
      cases outcome with
      | error cause => cases succeeded
      | ok result =>
          cases succeeded
          exact Progress.run_of_run_under ended

end GroundedAnswers
