import GroundedAnswers.Proofs.Task.Ensures

namespace GroundedAnswers

/-! Work that has one outcome. It may take its time, and others may change the state meanwhile, but
unless the context interrupts it, it always ends in the same way. -/

/-- Work has ended as it always does, or was interrupted by now. -/
def Settled (context : RequestContext) (interrupted : Interruption → ε) (outcome : Except ε α)
    (result : Except ε α) (moment : Moment) : Prop :=
  result = outcome ∨
    ∃ cause, result = .error (interrupted cause) ∧ (context.interruption? moment).isSome

def Regular (interrupted : Interruption → ε) (outcome : Except ε α) : Prop :=
  ∀ cause, outcome ≠ .error (interrupted cause)

theorem Regular.ok (interrupted : Interruption → ε) (value : α) :
    Regular interrupted (.ok value) :=
  fun _ => nofun

theorem Regular.bind {interrupted : Interruption → ε} {outcome : Except ε α}
    {final : α → Except ε β} (regular : Regular interrupted outcome)
    (goesOn : ∀ value, Regular interrupted (final value)) :
    Regular interrupted (outcome.bind final) := by
  cases outcome with
  | error failure => exact fun cause same => regular cause (congrArg _ (Except.error.inj same))
  | ok value => exact goesOn value

namespace Settled

variable {context : RequestContext} {interrupted : Interruption → ε} {outcome result : Except ε α}

theorem later {earlier later : Moment} (order : earlier ≤ later)
    (settled : Settled context interrupted outcome result earlier) :
    Settled context interrupted outcome result later := by
  rcases settled with same | ⟨cause, stopped, found⟩
  · exact .inl same
  · exact .inr ⟨cause, stopped, RequestContext.isSome_interruption?_of_le order found⟩

theorem eq_of_calm {moment : Moment} (settled : Settled context interrupted outcome result moment)
    (calm : context.interruption? moment = none) : result = outcome := by
  rcases settled with same | ⟨_, _, found⟩
  · exact same
  · rw [calm] at found
    cases found

end Settled

namespace Task

/-- Whenever the task starts, and whatever others do within what everyone keeps, it has one
outcome. -/
def Settles (keeps : σ → Prop) (context : RequestContext) (interrupted : Interruption → ε)
    (outcome : Except ε α) (task : ExceptT ε (Task σ) α) : Prop :=
  Task.Ensures keeps (Settled context interrupted outcome) task.run

namespace Settles

variable {keeps : σ → Prop} {context : RequestContext} {interrupted : Interruption → ε}

theorem pure (value : α) :
    Settles keeps context interrupted (.ok value) (Pure.pure value : ExceptT ε (Task σ) α) :=
  Task.Ensures.ok fun _ => .inl rfl

theorem throw (failure : ε) :
    Settles keeps context interrupted (.error failure)
      (MonadExcept.throw failure : ExceptT ε (Task σ) α) :=
  Task.Ensures.failed fun _ => .inl rfl

variable {outcome : Except ε α} {task : ExceptT ε (Task σ) α}

/-- What follows a success decides what comes of both, if an interruption may stand for that. -/
theorem ensures_bind {value : α} {next : α → ExceptT ε (Task σ) β}
    {ends : Except ε β → Moment → Prop}
    (settles : Settles keeps context interrupted (.ok value) task)
    (goesOn : Task.Ensures keeps ends (next value).run)
    (stops : ∀ cause moment, (context.interruption? moment).isSome →
      ends (.error (interrupted cause)) moment) :
    Task.Ensures keeps ends (task >>= next).run := by
  refine Task.Ensures.bind settles (fun result moment settled => ?_) fun failure moment settled => ?_
  · rcases settled with same | ⟨cause, stopped, _⟩
    · cases same
      exact goesOn
    · cases stopped
  · rcases settled with same | ⟨cause, stopped, found⟩
    · cases same
    · cases stopped
      exact stops cause moment found

theorem bind_of_ok {value : α} {final : Except ε β} {next : α → ExceptT ε (Task σ) β}
    (settles : Settles keeps context interrupted (.ok value) task)
    (goesOn : Settles keeps context interrupted final (next value)) :
    Settles keeps context interrupted final (task >>= next) :=
  settles.ensures_bind goesOn fun cause _ found => .inr ⟨cause, rfl, found⟩

theorem bind_of_error {failure : ε} {next : α → ExceptT ε (Task σ) β}
    (settles : Settles keeps context interrupted (.error failure) task) :
    Settles keeps context interrupted (.error failure) (task >>= next) := by
  refine Task.Ensures.bind settles (fun result moment settled => ?_) fun other moment settled => ?_
  · rcases settled with same | ⟨cause, stopped, _⟩
    · cases same
    · cases stopped
  · rcases settled with same | ⟨cause, stopped, found⟩
    · cases same
      exact .inl rfl
    · cases stopped
      exact .inr ⟨cause, rfl, found⟩

theorem bind {next : α → ExceptT ε (Task σ) β} {final : α → Except ε β}
    (settles : Settles keeps context interrupted outcome task)
    (goesOn : ∀ value, Settles keeps context interrupted (final value) (next value)) :
    Settles keeps context interrupted (outcome.bind final) (task >>= next) := by
  cases outcome with
  | error failure => exact settles.bind_of_error
  | ok value => exact settles.bind_of_ok (goesOn value)

/-- Work that goes on whatever comes of the work before it, unless that was interrupted. -/
theorem bind_lift {ζ : Type} {interrupted' : Interruption → ζ} {final : Except ζ β}
    {next : Except ε α → ExceptT ζ (Task σ) β}
    (settles : Settles keeps context interrupted outcome task)
    (goesOn : Settles keeps context interrupted' final (next outcome))
    (passes : ∀ cause, next (.error (interrupted cause)) =
      MonadExcept.throw (interrupted' cause)) :
    Settles keeps context interrupted' final (ExceptT.lift task.run >>= next) := by
  refine Task.Ensures.bind_lift settles fun result moment settled state kept => ?_
  rcases settled with rfl | ⟨cause, rfl, found⟩
  · exact goesOn moment state kept
  · rw [passes]
    exact .finished ⟨.inr ⟨cause, rfl, found⟩, kept⟩

theorem guarded (settles : Settles keeps context interrupted outcome task) :
    Settles keeps context interrupted outcome (context.guarded interrupted task) := by
  refine Task.Ensures.guarded (Task.Ensures.imp settles fun _ _ settled _ => settled) ?_
  exact fun moment cause look => .inr ⟨cause, rfl, look ▸ rfl⟩

theorem delay (nanoseconds : Nat) :
    Settles keeps context interrupted (.ok ())
      (ExceptT.lift (Task.delay nanoseconds) : ExceptT ε (Task σ) Unit) :=
  fun now _ kept => (Progress.Ensures.delay kept nanoseconds now).andThen
    fun _ _ _ kept => .finished ⟨.inl rfl, kept⟩

theorem adapt {ζ : Type} (interrupted' : Interruption → ζ) (change : ε → ζ)
    (carries : ∀ cause, change (interrupted cause) = interrupted' cause)
    (settles : Settles keeps context interrupted outcome task) :
    Settles keeps context interrupted' (outcome.mapError change) (ExceptT.adapt change task) := by
  intro now state kept
  refine (settles now state kept).andThen fun result moment state ended => .finished ⟨?_, ended.2⟩
  rcases ended.1 with rfl | ⟨cause, rfl, found⟩
  · exact .inl rfl
  · exact .inr ⟨cause, congrArg Except.error (carries cause), found⟩

theorem run_eq_of_calm (settles : Settles keeps context interrupted outcome task) {now : Moment}
    {state : σ} (kept : keeps state)
    (calm : context.interruption? (Task.run task.run now state).2.1 = none) :
    (Task.run task.run now state).1 = outcome :=
  (Task.Ensures.run settles now kept).1.eq_of_calm calm

theorem run_eq (settles : Settles keeps context interrupted outcome task)
    (calm : ∀ moment, context.interruption? moment = none) (now : Moment) {state : σ}
    (kept : keeps state) : (Task.run task.run now state).1 = outcome :=
  settles.run_eq_of_calm kept (calm _)

theorem zoomFailing {part : τ → σ} {replace : σ → τ → τ} {keepsWhole : τ → Prop}
    (enters : ∀ whole, keepsWhole whole → keeps (part whole))
    (leaves : ∀ state whole, keepsWhole whole → keepsWhole (replace state whole))
    (settles : Settles keeps context interrupted outcome task) :
    Settles keepsWhole context interrupted outcome (Task.zoomFailing part replace task) :=
  Task.Ensures.zoomFailing enters (fun state whole _ => leaves state whole) settles

end Settles

/-! ## Outcomes as a view shows them -/

/-- What the view shows of the task's result is always the same. -/
def SettlesAs (view : α → β) (keeps : σ → Prop) (context : RequestContext)
    (interrupted : Interruption → ε) (outcome : Except ε β) (task : ExceptT ε (Task σ) α) : Prop :=
  Task.Ensures keeps (fun result => Settled context interrupted outcome (result.map view)) task.run

namespace SettlesAs

variable {keeps : σ → Prop} {context : RequestContext} {interrupted : Interruption → ε}
  {view : α → β} {outcome : Except ε β} {task : ExceptT ε (Task σ) α}

theorem pure (value : α) :
    SettlesAs view keeps context interrupted (.ok (view value))
      (Pure.pure value : ExceptT ε (Task σ) α) :=
  Task.Ensures.ok fun _ => .inl rfl

theorem throw (failure : ε) :
    SettlesAs view keeps context interrupted (.error failure)
      (MonadExcept.throw failure : ExceptT ε (Task σ) α) :=
  Task.Ensures.failed fun _ => .inl rfl

theorem bind_of_ok {first : ExceptT ε (Task σ) γ} {value : γ} {next : γ → ExceptT ε (Task σ) α}
    (settles : Settles keeps context interrupted (.ok value) first)
    (goesOn : SettlesAs view keeps context interrupted outcome (next value)) :
    SettlesAs view keeps context interrupted outcome (first >>= next) :=
  settles.ensures_bind goesOn fun cause _ found => .inr ⟨cause, rfl, found⟩

theorem bind {next : α → ExceptT ε (Task σ) γ} {final : β → Except ε γ}
    (settles : SettlesAs view keeps context interrupted outcome task)
    (goesOn : ∀ value, Settles keeps context interrupted (final (view value)) (next value)) :
    Settles keeps context interrupted (outcome.bind final) (task >>= next) := by
  refine Task.Ensures.bind settles (fun result moment settled => ?_) fun failure moment settled => ?_
  · rcases settled with rfl | ⟨cause, stopped, _⟩
    · exact goesOn result
    · cases stopped
  · rcases settled with rfl | ⟨cause, stopped, found⟩
    · exact .inl rfl
    · cases stopped
      exact .inr ⟨cause, rfl, found⟩

theorem bind_lift {ζ : Type} {interrupted' : Interruption → ζ} {after : Except ζ γ → Moment → Prop}
    {next : Except ε α → ExceptT ζ (Task σ) γ}
    (settles : SettlesAs view keeps context interrupted outcome task)
    (goesOn : ∀ result : Except ε α, result.map view = outcome →
      Task.Ensures keeps after (next result).run)
    (passes : ∀ cause, next (.error (interrupted cause)) =
      MonadExcept.throw (interrupted' cause))
    (stops : ∀ cause moment, (context.interruption? moment).isSome →
      after (.error (interrupted' cause)) moment) :
    Task.Ensures keeps after (ExceptT.lift task.run >>= next).run := by
  refine Task.Ensures.bind_lift settles fun result moment settled state kept => ?_
  rcases settled with same | ⟨cause, stopped, found⟩
  · exact goesOn result same moment state kept
  · cases result with
    | ok value => cases stopped
    | error failure =>
        cases stopped
        rw [passes]
        exact .finished ⟨stops cause moment found, kept⟩

theorem adapt {ζ : Type} (interrupted' : Interruption → ζ) (change : ε → ζ)
    (carries : ∀ cause, change (interrupted cause) = interrupted' cause)
    (settles : SettlesAs view keeps context interrupted outcome task) :
    SettlesAs view keeps context interrupted' (outcome.mapError change)
      (ExceptT.adapt change task) := by
  intro now state kept
  refine (settles now state kept).andThen fun result moment state ended => .finished ⟨?_, ended.2⟩
  rcases ended.1 with rfl | ⟨cause, stopped, found⟩
  · cases result <;> exact .inl rfl
  · cases result with
    | ok value => cases stopped
    | error failure =>
        cases stopped
        exact .inr ⟨cause, congrArg Except.error (carries cause), found⟩

theorem zoomFailing {part : τ → σ} {replace : σ → τ → τ} {keepsWhole : τ → Prop}
    (enters : ∀ whole, keepsWhole whole → keeps (part whole))
    (leaves : ∀ state whole, keepsWhole whole → keepsWhole (replace state whole))
    (settles : SettlesAs view keeps context interrupted outcome task) :
    SettlesAs view keepsWhole context interrupted outcome (Task.zoomFailing part replace task) :=
  Task.Ensures.zoomFailing enters (fun state whole _ => leaves state whole) settles

theorem run_eq_of_calm (settles : SettlesAs view keeps context interrupted outcome task)
    {now : Moment} {state : σ} (kept : keeps state)
    (calm : context.interruption? (Task.run task.run now state).2.1 = none) :
    (Task.run task.run now state).1.map view = outcome :=
  (Task.Ensures.run settles now kept).1.eq_of_calm calm

end SettlesAs

/-! ## Some outcome -/

def Definite (keeps : σ → Prop) (context : RequestContext) (interrupted : Interruption → ε)
    (task : ExceptT ε (Task σ) α) : Prop :=
  ∃ outcome, Regular interrupted outcome ∧ Settles keeps context interrupted outcome task

namespace Definite

variable {keeps : σ → Prop} {context : RequestContext} {interrupted : Interruption → ε}

theorem pure (value : α) :
    Definite keeps context interrupted (Pure.pure value : ExceptT ε (Task σ) α) :=
  ⟨.ok value, fun _ => nofun, .pure value⟩

theorem throw {failure : ε} (regular : ∀ cause, failure ≠ interrupted cause) :
    Definite keeps context interrupted (MonadExcept.throw failure : ExceptT ε (Task σ) α) :=
  ⟨.error failure, fun cause same => regular cause (Except.error.inj same), .throw failure⟩

variable {task : ExceptT ε (Task σ) α}

theorem bind {next : α → ExceptT ε (Task σ) β} (definite : Definite keeps context interrupted task)
    (goesOn : ∀ value, Definite keeps context interrupted (next value)) :
    Definite keeps context interrupted (task >>= next) := by
  rcases definite with ⟨outcome, regular, settles⟩
  cases outcome with
  | error failure =>
      refine ⟨.error failure, fun cause same => ?_, settles.bind_of_error⟩
      cases same
      exact regular cause rfl
  | ok value =>
      rcases goesOn value with ⟨final, regular, settled⟩
      exact ⟨final, regular, settles.bind_of_ok settled⟩

theorem bind_lift {ζ : Type} {interrupted' : Interruption → ζ}
    {next : Except ε α → ExceptT ζ (Task σ) β}
    (definite : Definite keeps context interrupted task)
    (goesOn : ∀ outcome, Regular interrupted outcome →
      Definite keeps context interrupted' (next outcome))
    (passes : ∀ cause, next (.error (interrupted cause)) =
      MonadExcept.throw (interrupted' cause)) :
    Definite keeps context interrupted' (ExceptT.lift task.run >>= next) := by
  rcases definite with ⟨outcome, regular, settles⟩
  rcases goesOn outcome regular with ⟨final, regular, settled⟩
  exact ⟨final, regular, settles.bind_lift settled passes⟩

theorem guarded (definite : Definite keeps context interrupted task) :
    Definite keeps context interrupted (context.guarded interrupted task) := by
  rcases definite with ⟨outcome, regular, settles⟩
  exact ⟨outcome, regular, settles.guarded⟩

theorem delay (nanoseconds : Nat) :
    Definite keeps context interrupted
      (ExceptT.lift (Task.delay nanoseconds) : ExceptT ε (Task σ) Unit) :=
  ⟨.ok (), fun _ => nofun, .delay nanoseconds⟩

theorem zoomFailing {part : τ → σ} {replace : σ → τ → τ} {keepsWhole : τ → Prop}
    (enters : ∀ whole, keepsWhole whole → keeps (part whole))
    (leaves : ∀ state whole, keepsWhole whole → keepsWhole (replace state whole))
    (definite : Definite keeps context interrupted task) :
    Definite keepsWhole context interrupted (Task.zoomFailing part replace task) := by
  rcases definite with ⟨outcome, regular, settles⟩
  exact ⟨outcome, regular, settles.zoomFailing enters leaves⟩

end Definite

end Task

end GroundedAnswers
