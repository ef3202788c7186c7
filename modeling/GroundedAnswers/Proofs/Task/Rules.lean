import GroundedAnswers.Proofs.Task.Yields

namespace GroundedAnswers

/-! Properties of work that may fail which the work has if its steps have them. What follows from
these rules alone follows for each such property. -/

namespace Task

/-- A property that an interruption does not get around: work may go on after any outcome of a step,
but passes an interruption on. -/
structure Rules (context : RequestContext)
    (holds : ∀ ε α : Type, (Interruption → ε) → ExceptT ε (Task σ) α → Prop) : Prop where
  pure : ∀ {ε α : Type} {interrupted : Interruption → ε} (value : α),
    holds ε α interrupted (Pure.pure value)
  throw : ∀ {ε α : Type} {interrupted : Interruption → ε} {failure : ε},
    (∀ cause, failure ≠ interrupted cause) → holds ε α interrupted (MonadExcept.throw failure)
  bind : ∀ {ε α β : Type} {interrupted : Interruption → ε} {task : ExceptT ε (Task σ) α}
    {next : α → ExceptT ε (Task σ) β}, holds ε α interrupted task →
      (∀ value, holds ε β interrupted (next value)) → holds ε β interrupted (task >>= next)
  bind_lift : ∀ {ε ζ α β : Type} {interrupted : Interruption → ε} {interrupted' : Interruption → ζ}
    {task : ExceptT ε (Task σ) α} {next : Except ε α → ExceptT ζ (Task σ) β},
    holds ε α interrupted task →
      (∀ outcome, Regular interrupted outcome → holds ζ β interrupted' (next outcome)) →
      (∀ cause, next (.error (interrupted cause)) = MonadExcept.throw (interrupted' cause)) →
      holds ζ β interrupted' (ExceptT.lift task.run >>= next)
  sleep : ∀ {ε : Type} {interrupted : Interruption → ε} (nanoseconds : Nat),
    holds ε Unit interrupted (context.guarded interrupted (ExceptT.lift (Task.delay nanoseconds)))

theorem Definite.rules (keeps : σ → Prop) (context : RequestContext) :
    Rules context fun _ _ => Definite keeps context where
  pure := .pure
  throw := .throw
  bind := .bind
  bind_lift := .bind_lift
  sleep nanoseconds := (Definite.delay nanoseconds).guarded

theorem Yields.clock (keeps : σ → Prop) (context : RequestContext) (interrupted : Interruption → ε) :
    Yields keeps context interrupted (ExceptT.lift Task.now : ExceptT ε (Task σ) Moment) :=
  fun _ _ calm kept => .finished calm kept fun _ => nofun

theorem Yields.rules (keeps : σ → Prop) (context : RequestContext) :
    Rules context fun _ _ => Yields keeps context where
  pure := .pure
  throw := .throw
  bind := .bind
  bind_lift := .bind_lift
  sleep nanoseconds := by
    refine .guarded fun now state calm kept => ?_
    exact (Progress.Ensures.delay kept nanoseconds now).andThen
      fun _ _ _ kept => .finished ⟨fun _ _ => nofun, kept⟩

theorem Ensures.rules (keeps : σ → Prop) (context : RequestContext) :
    Rules context fun _ _ _ task => Task.Ensures keeps (fun _ _ => True) task.run where
  pure _ := .ok fun _ => True.intro
  throw _ := .failed fun _ => True.intro
  bind first others := first.bind (fun value _ _ => others value) fun _ _ _ => True.intro
  bind_lift {_ _ _ _ interrupted _ _ _} first others stops := by
    refine first.bind_lift fun outcome moment _ state kept => ?_
    by_cases broken : ∃ cause, outcome = .error (interrupted cause)
    · rcases broken with ⟨cause, rfl⟩
      rw [stops]
      exact .finished ⟨True.intro, kept⟩
    · exact others outcome (fun cause same => broken ⟨cause, same⟩) moment state kept
  sleep nanoseconds := by
    refine .guarded (fun now state kept => ?_) fun _ _ _ => True.intro
    exact (Progress.Ensures.delay kept nanoseconds now).andThen
      fun _ _ _ kept => .finished ⟨fun _ => True.intro, kept⟩

end Task

end GroundedAnswers
