import GroundedAnswers.Proofs.Task.Zoom

namespace GroundedAnswers

/-! Two runs of a task that others may interrupt. Both wait for the same moments, and while they
wait their states may change. What is known of the two states when the runs go on, and what is true
again when they wait or end, is a relation `ready` with an index: the index is fixed from one wait
to the next, and another one may hold after a wait. -/

variable {ι : Type}

/-- The two runs wait side by side until they end, with values and states that `ends` relates. -/
inductive Progress.Alike (ready : ι → σ → τ → Prop) (ends : ι → α → σ → β → τ → Prop) :
    ι → Progress σ α → Progress τ β → Prop
  | finished {index : ι} {left : α} {leftState : σ} {right : β} {rightState : τ}
      (ended : ends index left leftState right rightState) :
      Alike ready ends index (.finished left leftState) (.finished right rightState)
  | waiting {index : ι} {wake : Moment} {leftState : σ} {rightState : τ}
      {leftResume : σ → Progress σ α} {rightResume : τ → Progress τ β}
      (reached : ready index leftState rightState)
      (resumed : ∀ later leftState rightState, ready later leftState rightState →
        Alike ready ends later (leftResume leftState) (rightResume rightState)) :
      Alike ready ends index (.waiting wake leftState leftResume)
        (.waiting wake rightState rightResume)

/-- From states that are ready, both tasks end with the same value, up to `carry`, in states that
are ready again. -/
def Task.Alike (ready : ι → σ → τ → Prop) (carry : α → β) (left : Task σ α) (right : Task τ β) :
    Prop :=
  ∀ index now leftState rightState, ready index leftState rightState →
    Progress.Alike ready
      (fun index left leftState right rightState =>
        right = carry left ∧ ready index leftState rightState)
      index (left now leftState) (right now rightState)

namespace Progress.Alike

variable {ready : ι → σ → τ → Prop} {ends : ι → α → σ → β → τ → Prop} {index : ι}
  {left : Progress σ α} {right : Progress τ β}

theorem imp {others : ι → α → σ → β → τ → Prop} (alike : Alike ready ends index left right)
    (weaker : ∀ index left leftState right rightState,
      ends index left leftState right rightState → others index left leftState right rightState) :
    Alike ready others index left right := by
  induction alike with
  | finished ended => exact .finished (weaker _ _ _ _ _ ended)
  | waiting reached _ induction => exact .waiting reached induction

theorem andThen {after : ι → γ → σ → δ → τ → Prop} {next : α → Task σ γ} {next' : β → Task τ δ}
    (alike : Alike ready ends index left right)
    (goesOn : ∀ index left leftState right rightState now,
      ends index left leftState right rightState →
      Alike ready after index (next left now leftState) (next' right now rightState))
    (now : Moment) :
    Alike ready after index (left.andThen next now) (right.andThen next' now) := by
  induction alike generalizing now with
  | finished ended => exact goesOn _ _ _ _ _ now ended
  | waiting reached _ induction =>
      exact .waiting reached fun later leftState rightState holds =>
        induction later leftState rightState holds _

theorem under (context : RequestContext) (alike : Alike ready ends index left right) :
    Alike ready
      (fun index left leftState right rightState =>
        (∃ value value', left = .ok value ∧ right = .ok value' ∧
          ends index value leftState value' rightState) ∨
        ∃ cause, left = .error cause ∧ right = .error cause ∧ ready index leftState rightState)
      index (left.under context) (right.under context) := by
  induction alike with
  | finished ended => exact .finished (.inl ⟨_, _, rfl, rfl, ended⟩)
  | @waiting index wake leftState rightState leftResume rightResume reached resumed induction =>
      unfold Progress.under
      cases context.breaks? wake with
      | none => exact .waiting reached induction
      | some stop =>
          exact .waiting reached fun _ _ _ holds =>
            .finished (.inr ⟨stop.2, rfl, rfl, holds⟩)

theorem guarded {ends : ι → Except ε α → σ → Except ζ β → τ → Prop}
    {task : ExceptT ε (Task σ) α} {task' : ExceptT ζ (Task τ) β} (context : RequestContext)
    {interrupted : Interruption → ε} {interrupted' : Interruption → ζ}
    (stopped : ∀ index leftState rightState cause, ready index leftState rightState →
      ends index (.error (interrupted cause)) leftState (.error (interrupted' cause)) rightState)
    {now : Moment} {leftState : σ} {rightState : τ} (holds : ready index leftState rightState)
    (alike : Alike ready ends index (task now leftState) (task' now rightState)) :
    Alike ready ends index (context.guarded interrupted task now leftState)
      (context.guarded interrupted' task' now rightState) := by
  unfold RequestContext.guarded
  cases context.interruption? now with
  | some cause => exact .finished (stopped _ _ _ cause holds)
  | none =>
      refine (alike.under context).andThen ?_ now
      rintro index _ leftState _ rightState now
        (⟨value, value', rfl, rfl, ended⟩ | ⟨cause, rfl, rfl, holds⟩)
      · exact .finished ended
      · exact .finished (stopped _ _ _ cause holds)

theorem zoom {part : σ → ρ} {replace : ρ → σ → σ} {part' : τ → ρ} {replace' : ρ → τ → τ}
    (agree : ∀ index leftState rightState, ready index leftState rightState →
      part leftState = part' rightState)
    (keeps : ∀ index leftState rightState state, ready index leftState rightState →
      ready index (replace state leftState) (replace' state rightState))
    (progress : Progress ρ α) {leftState : σ} {rightState : τ}
    (holds : ready index leftState rightState) :
    Alike ready
      (fun index left leftState right rightState =>
        right = left ∧ ready index leftState rightState)
      index (progress.zoom part replace leftState) (progress.zoom part' replace' rightState) := by
  induction progress generalizing index leftState rightState with
  | finished value state => exact .finished ⟨rfl, keeps _ _ _ state holds⟩
  | waiting wake state resume induction =>
      refine .waiting (keeps _ _ _ state holds) fun later leftState rightState ready => ?_
      rw [agree _ _ _ ready]
      exact induction (part' rightState) ready

end Progress.Alike

namespace Task.Alike

variable {ready : ι → σ → τ → Prop}

theorem pure (carry : α → β) (value : α) :
    Task.Alike ready carry (Pure.pure value : Task σ α) (Pure.pure (carry value)) :=
  fun _ _ _ _ holds => .finished ⟨rfl, holds⟩

theorem bind {carry : α → β} {carry' : γ → δ} {left : Task σ α} {right : Task τ β}
    {next : α → Task σ γ} {next' : β → Task τ δ} (alike : Task.Alike ready carry left right)
    (goesOn : ∀ value, Task.Alike ready carry' (next value) (next' (carry value))) :
    Task.Alike ready carry' (left >>= next) (right >>= next') := by
  intro index now leftState rightState holds
  refine (alike index now leftState rightState holds).andThen ?_ now
  rintro index value leftState _ rightState now ⟨rfl, holds⟩
  exact goesOn value index now leftState rightState holds

theorem zoom {part : σ → ρ} {replace : ρ → σ → σ} {part' : τ → ρ} {replace' : ρ → τ → τ}
    (agree : ∀ index leftState rightState, ready index leftState rightState →
      part leftState = part' rightState)
    (keeps : ∀ index leftState rightState state, ready index leftState rightState →
      ready index (replace state leftState) (replace' state rightState))
    (task : Task ρ α) :
    Task.Alike ready id (Task.zoom part replace task) (Task.zoom part' replace' task) := by
  intro index now leftState rightState holds
  unfold Task.zoom
  rw [agree _ _ _ holds]
  exact Progress.Alike.zoom agree keeps (task now (part' rightState)) holds

/-! ## Work that may fail -/

section Failing

variable {carry : α → β} {carry' : γ → δ}

theorem ok (carry : α → β) (value : α) :
    Task.Alike ready (Except.map carry) (Pure.pure value : ExceptT ε (Task σ) α).run
      (Pure.pure (carry value) : ExceptT ε (Task τ) β).run :=
  fun _ _ _ _ holds => .finished ⟨rfl, holds⟩

theorem failed (carry : α → β) (failure : ε) :
    Task.Alike ready (Except.map carry) (throw failure : ExceptT ε (Task σ) α).run
      (throw failure : ExceptT ε (Task τ) β).run :=
  fun _ _ _ _ holds => .finished ⟨rfl, holds⟩

theorem andThen {left : ExceptT ε (Task σ) α} {right : ExceptT ε (Task τ) β}
    {next : α → ExceptT ε (Task σ) γ} {next' : β → ExceptT ε (Task τ) δ}
    (alike : Task.Alike ready (Except.map carry) left.run right.run)
    (goesOn : ∀ value, Task.Alike ready (Except.map carry') (next value).run
      (next' (carry value)).run) :
    Task.Alike ready (Except.map carry') (left >>= next).run (right >>= next').run := by
  refine Task.Alike.bind alike fun outcome => ?_
  cases outcome with
  | ok value => exact goesOn value
  | error failure => exact failed carry' failure

theorem lift {left : Task σ α} {right : Task τ β} (alike : Task.Alike ready carry left right) :
    Task.Alike ready (Except.map carry) (ExceptT.lift left : ExceptT ε (Task σ) α).run
      (ExceptT.lift right : ExceptT ε (Task τ) β).run :=
  Task.Alike.bind alike fun value => ok carry value

theorem guarded {left : ExceptT ε (Task σ) α} {right : ExceptT ε (Task τ) β}
    (context : RequestContext) (interrupted : Interruption → ε)
    (alike : Task.Alike ready (Except.map carry) left.run right.run) :
    Task.Alike ready (Except.map carry) (context.guarded interrupted left).run
      (context.guarded interrupted right).run := by
  intro index now leftState rightState holds
  exact Progress.Alike.guarded context (fun _ _ _ _ holds => ⟨rfl, holds⟩) holds
    (alike index now leftState rightState holds)

theorem zoomFailing {part : σ → ρ} {replace : ρ → σ → σ} {part' : τ → ρ} {replace' : ρ → τ → τ}
    (agree : ∀ index leftState rightState, ready index leftState rightState →
      part leftState = part' rightState)
    (keeps : ∀ index leftState rightState state, ready index leftState rightState →
      ready index (replace state leftState) (replace' state rightState))
    (task : ExceptT ε (Task ρ) α) :
    Task.Alike ready (Except.map id) (Task.zoomFailing part replace task).run
      (Task.zoomFailing part' replace' task).run := by
  have same : (Except.map id : Except ε α → Except ε α) = id := by
    funext outcome
    cases outcome <;> rfl
  rw [same]
  exact zoom agree keeps task.run

end Failing

end Task.Alike

end GroundedAnswers
