import GroundedAnswers.Proofs.Task.Running

namespace GroundedAnswers

/-! Work on a part of a state, carried over to the whole state piece by piece: what is put together
on the part is the same as what is put together on the whole. -/

namespace Progress

variable {part : τ → σ} {replace : σ → τ → τ}

/-- What the part was before does not matter once the work has begun. -/
theorem zoom_replace (isPart : Task.IsPart part replace) (progress : Progress σ α) (state : σ)
    (whole : τ) :
    progress.zoom part replace (replace state whole) = progress.zoom part replace whole := by
  cases progress <;> simp only [zoom, isPart.replace_replace]

private theorem zoom_andThen (isPart : Task.IsPart part replace) (progress : Progress σ α)
    (next : α → Task σ β) (now : Moment) (whole : τ) :
    (progress.andThen next now).zoom part replace whole =
      (progress.zoom part replace whole).andThen
        (fun value => Task.zoom part replace (next value)) now := by
  induction progress generalizing now whole with
  | finished value state =>
      simp only [andThen, zoom, Task.zoom, isPart.part_replace, zoom_replace isPart]
  | waiting wake state resume induction =>
      simp only [andThen, zoom, induction]

private theorem zoom_under (isPart : Task.IsPart part replace) (context : RequestContext)
    (progress : Progress σ α) (whole : τ) :
    (progress.under context).zoom part replace whole =
      (progress.zoom part replace whole).under context := by
  induction progress generalizing whole with
  | finished value state => rfl
  | waiting wake state resume induction =>
      simp only [under, zoom]
      split
      · simp only [zoom, isPart.replace_part]
      · simp only [zoom, induction]

end Progress

namespace Task

variable {part : τ → σ} {replace : σ → τ → τ}

def zoomFailing (part : τ → σ) (replace : σ → τ → τ) (task : ExceptT ε (Task σ) α) :
    ExceptT ε (Task τ) α :=
  ExceptT.mk (zoom part replace task.run)

section

variable (isPart : IsPart part replace)

include isPart

private theorem zoom_pure (value : α) : zoom part replace (pure value : Task σ α) = pure value := by
  funext now whole
  exact congrArg (Progress.finished value) (isPart.replace_part whole)

private theorem zoom_bind (task : Task σ α) (next : α → Task σ β) :
    zoom part replace (task >>= next) =
      zoom part replace task >>= fun value => zoom part replace (next value) := by
  funext now whole
  exact Progress.zoom_andThen isPart _ next now whole

theorem zoom_now : zoom part replace (now : Task σ Moment) = now := by
  funext moment whole
  exact congrArg (Progress.finished moment) (isPart.replace_part whole)

theorem zoom_delay (nanoseconds : Nat) :
    zoom part replace (delay nanoseconds : Task σ Unit) = delay nanoseconds := by
  funext now whole
  change (waitUntil (now.after nanoseconds) now (part whole)).zoom part replace whole =
    waitUntil (now.after nanoseconds) now whole
  unfold waitUntil
  split <;> simp only [Progress.zoom, isPart.replace_part]

theorem zoomFailing_pure (value : α) :
    zoomFailing part replace (pure value : ExceptT ε (Task σ) α) = pure value :=
  zoom_pure isPart (.ok value : Except ε α)

theorem zoomFailing_throw (failure : ε) :
    zoomFailing part replace (throw failure : ExceptT ε (Task σ) α) = throw failure :=
  zoom_pure isPart (.error failure : Except ε α)

theorem zoomFailing_bind (task : ExceptT ε (Task σ) α) (next : α → ExceptT ε (Task σ) β) :
    zoomFailing part replace (task >>= next) =
      zoomFailing part replace task >>= fun value => zoomFailing part replace (next value) := by
  refine (zoom_bind isPart task.run _).trans (congrArg (zoom part replace task.run >>= ·) ?_)
  funext outcome
  cases outcome with
  | ok value => rfl
  | error failure => exact zoom_pure isPart (.error failure : Except ε β)

theorem zoomFailing_lift (task : Task σ α) :
    zoomFailing part replace (ExceptT.lift task : ExceptT ε (Task σ) α) =
      ExceptT.lift (zoom part replace task) := by
  refine (zoom_bind isPart task _).trans (congrArg (zoom part replace task >>= ·) ?_)
  funext value
  exact zoom_pure isPart (.ok value : Except ε α)

theorem bind_zoomFailing (task : ExceptT ε (Task σ) α) {next : α → ExceptT ε (Task σ) β}
    {whole : α → ExceptT ε (Task τ) β}
    (carried : ∀ value, whole value = zoomFailing part replace (next value)) :
    zoomFailing part replace task >>= whole = zoomFailing part replace (task >>= next) := by
  rw [zoomFailing_bind isPart, funext carried]

theorem bind_lift_zoomFailing {ζ : Type} (task : ExceptT ε (Task σ) α)
    {next : Except ε α → ExceptT ζ (Task σ) β} {whole : Except ε α → ExceptT ζ (Task τ) β}
    (carried : ∀ outcome, whole outcome = zoomFailing part replace (next outcome)) :
    (ExceptT.lift (zoomFailing part replace task).run >>= whole : ExceptT ζ (Task τ) β) =
      zoomFailing part replace (ExceptT.lift task.run >>= next) := by
  rw [zoomFailing_bind isPart, zoomFailing_lift isPart, funext carried]
  rfl

theorem zoomFailing_adapt {ζ : Type} (change : ε → ζ) (task : ExceptT ε (Task σ) α) :
    zoomFailing part replace (ExceptT.adapt change task) =
      ExceptT.adapt change (zoomFailing part replace task) := by
  refine (zoom_bind isPart task.run _).trans (congrArg (zoom part replace task.run >>= ·) ?_)
  funext outcome
  exact zoom_pure isPart (outcome.mapError change)

theorem zoomFailing_guarded (context : RequestContext) (interrupted : Interruption → ε)
    (task : ExceptT ε (Task σ) α) :
    zoomFailing part replace (context.guarded interrupted task) =
      context.guarded interrupted (zoomFailing part replace task) := by
  funext now whole
  change (context.guarded interrupted task now (part whole)).zoom part replace whole =
    context.guarded interrupted (zoomFailing part replace task) now whole
  unfold RequestContext.guarded
  split
  · simp only [Progress.zoom, isPart.replace_part]
  · rw [Progress.zoom_andThen isPart, Progress.zoom_under isPart]
    refine congrArg (Progress.andThen · now _) ?_
    funext outcome
    cases outcome with
    | ok result => exact zoom_pure isPart result
    | error cause => exact zoom_pure isPart (.error (interrupted cause) : Except ε α)

end

theorem run_zoomFailing (isPart : IsPart part replace) (task : ExceptT ε (Task σ) α)
    (now : Moment) (whole : τ) :
    Task.run (zoomFailing part replace task).run now whole =
      ((Task.run task.run now (part whole)).1, (Task.run task.run now (part whole)).2.1,
        replace (Task.run task.run now (part whole)).2.2 whole) :=
  run_zoom isPart task.run now whole

end Task

end GroundedAnswers
