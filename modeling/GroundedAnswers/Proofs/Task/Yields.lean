import GroundedAnswers.Proofs.Task.Settles

namespace GroundedAnswers

/-! Work that gives way to an interruption. As long as its context is calm it goes on, and in the
end it has a regular outcome. It never waits beyond the first interruption: woken then, it ends at
once and says what interrupted it. -/

/-- Work that begins while its context is calm. Whatever the state is when it goes on, as long as
it is one that `keeps` allows, it ends in one of two ways: at a calm moment with a `regular` value,
or at the first moment of an interruption with a value that is `broken` by its cause. -/
inductive Progress.Yields (keeps : σ → Prop) (context : RequestContext) (regular : α → Prop)
    (broken : Interruption → α → Prop) : Moment → Progress σ α → Prop
  | finished {now : Moment} {value : α} {state : σ} (calm : context.interruption? now = none)
      (kept : keeps state) (isRegular : regular value) :
      Yields keeps context regular broken now (.finished value state)
  | waiting {now wake : Moment} {state : σ} {resume : σ → Progress σ α}
      (calm : context.interruption? wake = none) (kept : keeps state)
      (resumed : ∀ later, keeps later →
        Yields keeps context regular broken wake (resume later)) :
      Yields keeps context regular broken now (.waiting wake state resume)
  | stopping {now stop : Moment} {cause : Interruption} {state : σ} {resume : σ → Progress σ α}
      (first : context.stopsAt? = some stop) (look : context.interruption? stop = some cause)
      (kept : keeps state)
      (resumed : ∀ later, keeps later →
        ∃ value, resume later = .finished value later ∧ broken cause value) :
      Yields keeps context regular broken now (.waiting stop state resume)

namespace Progress.Yields

variable {keeps : σ → Prop} {context : RequestContext} {regular : α → Prop}
  {broken : Interruption → α → Prop} {now : Moment} {progress : Progress σ α}

theorem andThen {regular' : β → Prop} {broken' : Interruption → β → Prop} {next : α → Task σ β}
    (yields : Yields keeps context regular broken now progress)
    (goesOn : ∀ value moment state, context.interruption? moment = none → keeps state →
      regular value → Yields keeps context regular' broken' moment (next value moment state))
    (passes : ∀ cause value, broken cause value →
      ∃ value', broken' cause value' ∧
        ∀ moment state, next value moment state = .finished value' state) :
    Yields keeps context regular' broken' now (progress.andThen next now) := by
  induction yields with
  | finished calm kept isRegular => exact goesOn _ _ _ calm kept isRegular
  | waiting calm kept _ induction => exact .waiting calm kept induction
  | @stopping now stop cause state resume first look kept resumed =>
      refine .stopping first look kept fun later stillKept => ?_
      rcases resumed later stillKept with ⟨value, ended, isBroken⟩
      rcases passes cause value isBroken with ⟨value', isBroken', passed⟩
      refine ⟨value', ?_, isBroken'⟩
      rw [ended]
      exact passed stop later

theorem bind_lift {state : σ} {task : Task σ α} {regular' : Except ε β → Prop}
    {broken' : Interruption → Except ε β → Prop} {next : α → ExceptT ε (Task σ) β}
    (yields : Yields keeps context regular broken now (task now state))
    (goesOn : ∀ value moment state, context.interruption? moment = none → keeps state →
      regular value → Yields keeps context regular' broken' moment (next value moment state))
    (passes : ∀ cause value, broken cause value →
      ∃ outcome, broken' cause outcome ∧
        ∀ moment state, next value moment state = .finished outcome state) :
    Yields keeps context regular' broken' now ((ExceptT.lift task >>= next) now state) := by
  have lifted : Yields keeps context
      (fun (result : Except ε α) => ∃ value, result = .ok value ∧ regular value)
      (fun cause result => ∃ value, result = .ok value ∧ broken cause value)
      now ((ExceptT.lift task : ExceptT ε (Task σ) α) now state) := by
    refine yields.andThen ?_ ?_
    · exact fun value moment state calm kept isRegular => .finished calm kept ⟨value, rfl, isRegular⟩
    · exact fun cause value isBroken => ⟨.ok value, ⟨value, rfl, isBroken⟩, fun _ _ => rfl⟩
  refine lifted.andThen ?_ ?_
  · rintro result moment state calm kept ⟨value, rfl, isRegular⟩
    exact goesOn value moment state calm kept isRegular
  · rintro cause result ⟨value, rfl, isBroken⟩
    exact passes cause value isBroken

theorem run (yields : Yields keeps context regular broken now progress) :
    let (value, moment, after) := progress.run now
    keeps after ∧
      ((context.interruption? moment = none ∧ regular value) ∨
        ∃ cause, context.stopsAt? = some moment ∧ context.interruption? moment = some cause ∧
          broken cause value) := by
  induction yields with
  | finished calm kept isRegular => exact ⟨kept, .inl ⟨calm, isRegular⟩⟩
  | waiting _ kept _ induction => exact induction _ kept
  | @stopping now stop cause state resume first look kept resumed =>
      rcases resumed state kept with ⟨value, ended, isBroken⟩
      rw [Progress.run, ended]
      exact ⟨kept, .inr ⟨cause, first, look, isBroken⟩⟩

/-- A context makes any work give way, if only what ends at calm moments is regular. -/
theorem under (calm : context.interruption? now = none)
    (ensured : Ensures keeps
      (fun value moment state => (context.interruption? moment = none → regular value) ∧ keeps state)
      now progress) :
    Yields keeps context (fun result => ∃ value, result = .ok value ∧ regular value)
      (fun cause result => result = .error cause) now (progress.under context) := by
  induction ensured with
  | finished ended => exact .finished calm ended.2 ⟨_, rfl, ended.1 calm⟩
  | @waiting now wake state resume reached resumed induction =>
      unfold Progress.under
      cases broken : context.breaks? wake with
      | none =>
          have stillCalm := RequestContext.breaks?_eq_none_iff.mp broken
          exact .waiting stillCalm reached fun later kept => induction later kept stillCalm
      | some stop =>
          rcases RequestContext.of_breaks?_eq_some broken with ⟨first, look⟩
          exact .stopping first look reached fun later _ => ⟨.error stop.2, rfl, rfl⟩

end Progress.Yields

/-! ## Tasks that may fail -/

namespace Task

/-- Whenever the task starts at a calm moment, it gives way to an interruption, which is then its
failure. Otherwise it does not fail with one. -/
def Yields (keeps : σ → Prop) (context : RequestContext) (interrupted : Interruption → ε)
    (task : ExceptT ε (Task σ) α) : Prop :=
  ∀ now state, context.interruption? now = none → keeps state →
    Progress.Yields keeps context (Regular interrupted)
      (fun cause outcome => outcome = .error (interrupted cause)) now (task now state)

/-- When the task starts at a moment of an interruption, it does nothing but fail with that. -/
def Refuses (context : RequestContext) (interrupted : Interruption → ε)
    (task : ExceptT ε (Task σ) α) : Prop :=
  ∀ now state cause, context.interruption? now = some cause →
    task now state = .finished (.error (interrupted cause)) state

variable {keeps : σ → Prop} {context : RequestContext} {interrupted : Interruption → ε}
  {task : ExceptT ε (Task σ) α}

namespace Refuses

theorem guarded (task : ExceptT ε (Task σ) α) :
    Refuses context interrupted (context.guarded interrupted task) := by
  intro now state cause look
  unfold RequestContext.guarded
  rw [look]

theorem bind (refuses : Refuses context interrupted task) (next : α → ExceptT ε (Task σ) β) :
    Refuses context interrupted (task >>= next) :=
  fun now state cause look => bind_of_failed (refuses now state cause look) next

/-- Work that goes on whatever comes of the work before it, but passes an interruption on. -/
theorem bind_lift {ζ : Type} {interrupted' : Interruption → ζ}
    {next : Except ε α → ExceptT ζ (Task σ) β} (refuses : Refuses context interrupted task)
    (passes : ∀ cause, next (.error (interrupted cause)) =
      MonadExcept.throw (interrupted' cause)) :
    Refuses context interrupted' (ExceptT.lift task.run >>= next) := by
  intro now state cause look
  have lifted : (ExceptT.lift task.run : ExceptT ζ (Task σ) (Except ε α)) now state =
      .finished (.ok (.error (interrupted cause))) state := by
    change (task now state).andThen _ now = _
    rw [refuses now state cause look]
    rfl
  rw [bind_of_finished lifted, passes]
  rfl

theorem adapt {ζ : Type} {interrupted' : Interruption → ζ} {change : ε → ζ}
    (refuses : Refuses context interrupted task)
    (carries : ∀ cause, change (interrupted cause) = interrupted' cause) :
    Refuses context interrupted' (ExceptT.adapt change task) := by
  intro now state cause look
  change (task now state).andThen _ now = _
  rw [refuses now state cause look]
  exact congrArg (Progress.finished · state) (congrArg Except.error (carries cause))

end Refuses

namespace Yields

theorem pure (value : α) :
    Yields keeps context interrupted (Pure.pure value : ExceptT ε (Task σ) α) :=
  fun _ _ calm kept => .finished calm kept fun _ => nofun

theorem throw {failure : ε} (regular : ∀ cause, failure ≠ interrupted cause) :
    Yields keeps context interrupted (MonadExcept.throw failure : ExceptT ε (Task σ) α) :=
  fun _ _ calm kept => .finished calm kept fun cause same => regular cause (Except.error.inj same)

theorem bind {next : α → ExceptT ε (Task σ) β} (yields : Yields keeps context interrupted task)
    (goesOn : ∀ value, Yields keeps context interrupted (next value)) :
    Yields keeps context interrupted (task >>= next) := by
  intro now state calm kept
  refine (yields now state calm kept).andThen ?_ ?_
  · intro outcome moment state calm kept regular
    cases outcome with
    | ok value => exact goesOn value moment state calm kept
    | error failure =>
        refine .finished calm kept fun cause same => ?_
        cases same
        exact regular cause rfl
  · rintro cause outcome rfl
    exact ⟨_, rfl, fun _ _ => rfl⟩

theorem bind_lift {ζ : Type} {interrupted' : Interruption → ζ}
    {next : Except ε α → ExceptT ζ (Task σ) β} (yields : Yields keeps context interrupted task)
    (goesOn : ∀ outcome, Regular interrupted outcome →
      Yields keeps context interrupted' (next outcome))
    (passes : ∀ cause, next (.error (interrupted cause)) =
      MonadExcept.throw (interrupted' cause)) :
    Yields keeps context interrupted' (ExceptT.lift task.run >>= next) := by
  intro now state calm kept
  refine (yields now state calm kept).bind_lift ?_ ?_
  · exact fun outcome moment state calm kept regular => goesOn outcome regular moment state calm kept
  · rintro cause outcome rfl
    refine ⟨.error (interrupted' cause), rfl, fun moment state => ?_⟩
    rw [passes]
    rfl

theorem adapt {ζ : Type} {interrupted' : Interruption → ζ} {change : ε → ζ}
    (yields : Yields keeps context interrupted task)
    (carries : ∀ cause, change (interrupted cause) = interrupted' cause)
    (reflects : ∀ failure cause, change failure = interrupted' cause →
      failure = interrupted cause) :
    Yields keeps context interrupted' (ExceptT.adapt change task) := by
  intro now state calm kept
  refine (yields now state calm kept).andThen ?_ ?_
  · intro outcome moment state calm kept regular
    refine .finished calm kept fun cause same => ?_
    cases outcome with
    | ok value => cases same
    | error failure =>
        have origin := reflects failure cause (Except.error.inj same)
        exact regular cause (congrArg Except.error origin)
  · rintro cause outcome rfl
    exact ⟨_, congrArg Except.error (carries cause), fun _ _ => rfl⟩

/-- Work under a context, if it does not make up interruptions. -/
theorem guarded
    (ensured : ∀ now state, context.interruption? now = none → keeps state →
      Progress.Ensures keeps
        (fun outcome moment state =>
          (context.interruption? moment = none → Regular interrupted outcome) ∧ keeps state)
        now (task now state)) :
    Yields keeps context interrupted (context.guarded interrupted task) := by
  intro now state calm kept
  unfold RequestContext.guarded
  rw [calm]
  refine (Progress.Yields.under calm (ensured now state calm kept)).andThen ?_ ?_
  · rintro result moment state calm kept ⟨outcome, rfl, regular⟩
    exact .finished calm kept regular
  · rintro cause result rfl
    exact ⟨_, rfl, fun _ _ => rfl⟩

theorem guarded_of_ensures
    (ensured : Task.Ensures keeps (fun outcome _ => Regular interrupted outcome) task.run) :
    Yields keeps context interrupted (context.guarded interrupted task) :=
  guarded fun now state _ kept => (ensured now state kept).imp
    fun _ _ _ ended => ⟨fun _ => ended.1, ended.2⟩

theorem run (yields : Yields keeps context interrupted task)
    (refuses : Refuses context interrupted task) (now : Moment) {state : σ} (kept : keeps state) :
    let (outcome, moment, after) := Task.run task.run now state
    keeps after ∧
      ((context.interruption? moment = none ∧ Regular interrupted outcome) ∨
        ∃ cause, (moment = now ∨ context.stopsAt? = some moment) ∧
          context.interruption? moment = some cause ∧ outcome = .error (interrupted cause)) := by
  rw [show Task.run task.run now state = (task now state).run now from rfl]
  cases look : context.interruption? now with
  | some cause =>
      rw [refuses now state cause look]
      exact ⟨kept, .inr ⟨cause, .inl rfl, look, rfl⟩⟩
  | none =>
      refine (yields now state look kept).run.imp_right (Or.imp_right ?_)
      rintro ⟨cause, first, found, failed⟩
      exact ⟨cause, .inr first, found, failed⟩

end Yields

end Task

end GroundedAnswers
