import GroundedAnswers.Proofs.Task.Ensures

namespace GroundedAnswers

/-! The moments that work waits for when it runs alone. A context drops the work at the first of
them that an interruption does not come after. -/

def Progress.waits : Progress σ α → List Moment
  | .finished _ _ => []
  | .waiting wake state resume => wake :: (resume state).waits

def Task.waits (task : Task σ α) (now : Moment) (state : σ) : List Moment :=
  (task now state).waits

namespace Progress

theorem waits_andThen (progress : Progress σ α) (next : α → Task σ β) (now : Moment) :
    (progress.andThen next now).waits =
      progress.waits ++
        (next (progress.run now).1 (progress.run now).2.1 (progress.run now).2.2).waits := by
  induction progress generalizing now with
  | finished value state => rfl
  | waiting wake state resume induction => exact congrArg (wake :: ·) (induction state wake)

theorem waits_zoom {part : τ → σ} {replace : σ → τ → τ} (isPart : Task.IsPart part replace)
    (progress : Progress σ α) (whole : τ) :
    (progress.zoom part replace whole).waits = progress.waits := by
  induction progress generalizing whole with
  | finished value state => rfl
  | waiting wake state resume induction =>
      have others := induction state (replace state whole)
      simpa only [zoom, waits, isPart.part_replace] using congrArg (wake :: ·) others

section Under

variable {context : RequestContext} {progress : Progress σ α}

/-- Work is not dropped when no interruption comes by any moment that it waits for. -/
theorem run_under_of_timely
    (timely : ∀ wake ∈ progress.waits, context.interruption? wake = none) (now : Moment) :
    (progress.under context).run now = (.ok (progress.run now).1, (progress.run now).2) := by
  induction progress generalizing now with
  | finished value state => rfl
  | waiting wake state resume induction =>
      rcases List.forall_mem_cons.mp timely with ⟨first, others⟩
      rw [under, RequestContext.breaks?_eq_none_iff.mpr first]
      exact induction state others wake

/-- Otherwise it is dropped at the first moment of an interruption, in a state that it keeps. -/
theorem run_under_of_late {keeps : σ → Prop} {ends : α → Moment → σ → Prop} {now wake : Moment}
    (ensured : Ensures keeps ends now progress) (awaited : wake ∈ progress.waits)
    (late : (context.interruption? wake).isSome) :
    ∃ stop cause after, context.stopsAt? = some stop ∧ context.interruption? stop = some cause ∧
      keeps after ∧ (progress.under context).run now = (.error cause, stop, after) := by
  induction ensured with
  | finished ended => cases awaited
  | @waiting now first state resume reached resumed induction =>
      rw [under]
      cases broken : context.breaks? first with
      | some stop =>
          rcases RequestContext.of_breaks?_eq_some broken with ⟨stops, look⟩
          exact ⟨stop.1, stop.2, state, stops, look, reached, rfl⟩
      | none =>
          rcases List.mem_cons.mp awaited with same | later
          · rw [same, RequestContext.breaks?_eq_none_iff.mp broken] at late
            cases late
          · exact induction state reached later

end Under

private theorem interruption?_of_run_under {context : RequestContext} {progress : Progress σ α}
    {now moment : Moment} {cause : Interruption} {after : σ}
    (stopped : (progress.under context).run now = (.error cause, moment, after)) :
    context.interruption? moment = some cause := by
  induction progress generalizing now with
  | finished value state => cases stopped
  | waiting wake state resume induction =>
      rw [under] at stopped
      cases broken : context.breaks? wake with
      | none =>
          rw [broken] at stopped
          exact induction state stopped
      | some stop =>
          rw [broken] at stopped
          cases stopped
          exact (RequestContext.of_breaks?_eq_some broken).2

end Progress

namespace RequestContext

variable {context : RequestContext} {interrupted : Interruption → ε} {task : ExceptT ε (Task σ) α}
  {now : Moment} {state : σ}

theorem run_guarded_of_interrupted {cause : Interruption}
    (look : context.interruption? now = some cause) :
    Task.run (context.guarded interrupted task).run now state =
      (.error (interrupted cause), now, state) := by
  change Progress.run now (context.guarded interrupted task now state) = _
  unfold guarded
  rw [look]
  rfl

theorem run_guarded_of_timely (calm : context.interruption? now = none)
    (timely : ∀ wake ∈ Task.waits task.run now state, context.interruption? wake = none) :
    Task.run (context.guarded interrupted task).run now state = Task.run task.run now state := by
  change Progress.run now (context.guarded interrupted task now state) = _
  unfold guarded
  rw [calm]
  have done := Progress.run_under_of_timely timely now
  change ((task now state).under context).run now = _ at done
  rw [Task.run_andThen, done]
  rfl

theorem run_guarded_of_late {keeps : σ → Prop} {ends : Except ε α → Moment → σ → Prop}
    (calm : context.interruption? now = none)
    (ensured : Progress.Ensures keeps ends now (task now state)) {wake : Moment}
    (awaited : wake ∈ Task.waits task.run now state) (late : (context.interruption? wake).isSome) :
    ∃ stop cause after, context.stopsAt? = some stop ∧ context.interruption? stop = some cause ∧
      keeps after ∧ Task.run (context.guarded interrupted task).run now state =
        (.error (interrupted cause), stop, after) := by
  rcases Progress.run_under_of_late ensured awaited late with
    ⟨stop, cause, after, stops, look, kept, dropped⟩
  refine ⟨stop, cause, after, stops, look, kept, ?_⟩
  change Progress.run now (context.guarded interrupted task now state) = _
  unfold guarded
  rw [calm]
  change ((task now state).under context).run now = _ at dropped
  rw [Task.run_andThen, dropped]
  rfl

/-- A run under a context is that of the work itself, unless it ends with an interruption that a
look at the context finds. -/
theorem run_of_run_guarded_of_calm {outcome : Except ε α} {moment : Moment} {after : σ}
    (ran : Task.run (context.guarded interrupted task).run now state = (outcome, moment, after))
    (unstopped : ∀ cause, outcome = .error (interrupted cause) →
      context.interruption? moment = none) :
    Task.run task.run now state = (outcome, moment, after) := by
  cases start : context.interruption? now with
  | some cause =>
      rw [run_guarded_of_interrupted start] at ran
      cases ran
      rw [unstopped cause rfl] at start
      cases start
  | none =>
      change Progress.run now (context.guarded interrupted task now state) = _ at ran
      unfold guarded at ran
      rw [start] at ran
      simp only [Task.run_andThen] at ran
      rcases ended : ((task now state).under context).run now with ⟨result, reached, between⟩
      rw [ended] at ran
      cases result with
      | ok value =>
          cases ran
          exact Progress.run_of_run_under ended
      | error cause =>
          cases ran
          have look := Progress.interruption?_of_run_under ended
          rw [unstopped cause rfl] at look
          cases look

end RequestContext

end GroundedAnswers
