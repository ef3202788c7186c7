import GroundedAnswers.Proofs.Task.Zoom

namespace GroundedAnswers

/-! What a task ensures although others may change its state while it waits. Everyone keeps a
property of the state: it holds whenever someone waits, and that is all that is known of the state
when the task goes on. -/

/-! ## Looks at a context -/

namespace RequestContext

variable {context : RequestContext}

theorem interruption?_eq_none_iff {now : Moment} :
    context.interruption? now = none ↔ ∀ stop, context.stopsAt? = some stop → now < stop := by
  rw [← Option.isNone_iff_eq_none, ← Option.not_isSome, Bool.not_eq_true', ← Bool.not_eq_true,
    context.interruption?_isSome_iff]
  simp

theorem isSome_interruption?_of_le {earlier later : Moment} (order : earlier ≤ later)
    (found : (context.interruption? earlier).isSome) : (context.interruption? later).isSome := by
  rw [interruption?_isSome_iff] at found ⊢
  rcases found with ⟨stop, stops, early⟩
  exact ⟨stop, stops, Nat.le_trans early order⟩

/-- A wait ends early exactly when a look at its end would find an interruption. -/
theorem breaks?_eq_none_iff {wake : Moment} :
    context.breaks? wake = none ↔ context.interruption? wake = none := by
  unfold breaks?
  rw [interruption?_eq_none_iff]
  cases stops : context.stopsAt? with
  | none => simp
  | some stop =>
      have found := (context.interruption?_isSome_iff stop).mpr ⟨stop, stops, Nat.le_refl stop⟩
      rcases Option.isSome_iff_exists.mp found with ⟨cause, look⟩
      by_cases early : stop ≤ wake
      · simp [early, look]
      · simp [early, Nat.lt_of_not_le early]

theorem of_breaks?_eq_some {wake moment : Moment} {cause : Interruption}
    (broken : context.breaks? wake = some (moment, cause)) :
    context.stopsAt? = some moment ∧ context.interruption? moment = some cause := by
  unfold breaks? at broken
  cases stops : context.stopsAt? with
  | none =>
      rw [stops] at broken
      cases broken
  | some stop =>
      rw [stops] at broken
      by_cases early : stop ≤ wake
      · cases look : context.interruption? stop with
        | none => simp [early, look] at broken
        | some found =>
            have same : (stop, found) = (moment, cause) := by simpa [early, look] using broken
            cases same
            exact ⟨rfl, look⟩
      · simp [early] at broken

end RequestContext

/-! ## Work under way -/

/-- Whatever the state is when the work goes on, as long as it is one that `keeps` allows, the work
waits in such states only and ends with a value, at a moment and in a state that satisfy `ends`. -/
inductive Progress.Ensures (keeps : σ → Prop) (ends : α → Moment → σ → Prop) :
    Moment → Progress σ α → Prop
  | finished {now : Moment} {value : α} {state : σ} (ended : ends value now state) :
      Ensures keeps ends now (.finished value state)
  | waiting {now wake : Moment} {state : σ} {resume : σ → Progress σ α} (reached : keeps state)
      (resumed : ∀ later, keeps later → Ensures keeps ends wake (resume later)) :
      Ensures keeps ends now (.waiting wake state resume)

namespace Progress.Ensures

variable {keeps : σ → Prop} {ends : α → Moment → σ → Prop} {now : Moment} {progress : Progress σ α}

theorem imp {weaker : α → Moment → σ → Prop} (ensured : Ensures keeps ends now progress)
    (implied : ∀ value moment state, ends value moment state → weaker value moment state) :
    Ensures keeps weaker now progress := by
  induction ensured with
  | finished ended => exact .finished (implied _ _ _ ended)
  | waiting reached _ induction => exact .waiting reached induction

theorem andThen {after : β → Moment → σ → Prop} {next : α → Task σ β}
    (ensured : Ensures keeps ends now progress)
    (goesOn : ∀ value moment state, ends value moment state →
      Ensures keeps after moment (next value moment state)) :
    Ensures keeps after now (progress.andThen next now) := by
  induction ensured with
  | finished ended => exact goesOn _ _ _ ended
  | waiting reached _ induction => exact .waiting reached induction

theorem run (ensured : Ensures keeps ends now progress) :
    ends (progress.run now).1 (progress.run now).2.1 (progress.run now).2.2 := by
  induction ensured with
  | finished ended => exact ended
  | waiting reached _ induction => exact induction _ reached

/-- Under a context, the work ends before any interruption, or else at the first one. -/
theorem under {context : RequestContext} (calm : context.interruption? now = none)
    (ensured : Ensures keeps ends now progress) :
    Ensures keeps
      (fun result moment state =>
        match result with
        | .ok value => ends value moment state ∧ context.interruption? moment = none
        | .error cause => keeps state ∧ context.stopsAt? = some moment ∧
            context.interruption? moment = some cause)
      now (progress.under context) := by
  induction ensured with
  | finished ended => exact .finished ⟨ended, calm⟩
  | @waiting now wake state resume reached resumed induction =>
      unfold Progress.under
      cases broken : context.breaks? wake with
      | none =>
          have stillCalm := RequestContext.breaks?_eq_none_iff.mp broken
          exact .waiting reached fun later holds => induction later holds stillCalm
      | some stop =>
          rcases RequestContext.of_breaks?_eq_some broken with ⟨stops, look⟩
          exact .waiting reached fun later holds => .finished ⟨holds, stops, look⟩

/-- Work that may fail, under a context: its own end comes before any interruption. An interruption
is found at the start, or at the first moment of one. -/
theorem guarded {ends : Except ε α → Moment → σ → Prop} {context : RequestContext}
    {interrupted : Interruption → ε} {task : ExceptT ε (Task σ) α} {state : σ} (holds : keeps state)
    (ensured : context.interruption? now = none →
      Ensures keeps
        (fun outcome moment state =>
          context.interruption? moment = none → ends outcome moment state)
        now (task now state))
    (stopped : ∀ moment state cause, keeps state → context.interruption? moment = some cause →
      moment = now ∨ context.stopsAt? = some moment →
      ends (.error (interrupted cause)) moment state) :
    Ensures keeps ends now (context.guarded interrupted task now state) := by
  unfold RequestContext.guarded
  cases look : context.interruption? now with
  | some cause => exact .finished (stopped now state cause holds look (.inl rfl))
  | none =>
      refine ((ensured look).under look).andThen fun result moment state ended => ?_
      cases result with
      | ok outcome => exact .finished (ended.1 ended.2)
      | error cause => exact .finished (stopped moment state cause ended.1 ended.2.2 (.inr ended.2.1))

theorem trivial (now : Moment) (progress : Progress σ α) :
    Ensures (fun _ => True) (fun _ _ _ => True) now progress := by
  induction progress generalizing now with
  | finished value state => exact .finished True.intro
  | waiting wake state resume induction =>
      exact .waiting True.intro fun later _ => induction later wake

theorem delay {state : σ} (holds : keeps state) (nanoseconds : Nat) (now : Moment) :
    Ensures keeps (fun _ _ later => keeps later) now (Task.delay nanoseconds now state) := by
  change Ensures keeps _ now (Task.waitUntil (now.after nanoseconds) now state)
  unfold Task.waitUntil
  split
  · exact .finished holds
  · exact .waiting holds fun later stillHolds => .finished stillHolds

/-- Work on a part of a state keeps what does not depend on that part. -/
theorem zoom {part : τ → σ} {replace : σ → τ → τ} {keepsWhole : τ → Prop}
    (enters : ∀ whole, keepsWhole whole → keeps (part whole))
    (leaves : ∀ state whole, keepsWhole whole → keepsWhole (replace state whole))
    (ensured : Ensures keeps ends now progress) {whole : τ} (holds : keepsWhole whole) :
    Ensures keepsWhole
      (fun value moment whole => keepsWhole whole ∧ ∃ state, ends value moment state)
      now (progress.zoom part replace whole) := by
  induction ensured generalizing whole with
  | finished ended => exact .finished ⟨leaves _ _ holds, _, ended⟩
  | waiting reached _ induction =>
      exact .waiting (leaves _ _ holds) fun later stillHolds =>
        induction _ (enters later stillHolds) stillHolds

theorem zoom_of_kept {ends : α → Moment → Prop} {part : τ → σ} {replace : σ → τ → τ}
    {keepsWhole : τ → Prop} (enters : ∀ whole, keepsWhole whole → keeps (part whole))
    (leaves : ∀ state whole, keeps state → keepsWhole whole → keepsWhole (replace state whole))
    (ensured : Ensures keeps (fun value moment state => ends value moment ∧ keeps state) now progress)
    {whole : τ} (holds : keepsWhole whole) :
    Ensures keepsWhole (fun value moment whole => ends value moment ∧ keepsWhole whole) now
      (progress.zoom part replace whole) := by
  induction ensured generalizing whole with
  | finished ended => exact .finished ⟨ended.1, leaves _ _ ended.2 holds⟩
  | waiting reached _ induction =>
      exact .waiting (leaves _ _ reached holds) fun later stillHolds =>
        induction _ (enters later stillHolds) stillHolds

theorem zoom_of_stable {part : τ → σ} {replace : σ → τ → τ} {keepsWhole : τ → Prop}
    (leaves : ∀ state whole, keepsWhole whole → keepsWhole (replace state whole)) (now : Moment)
    (progress : Progress σ α) {whole : τ} (holds : keepsWhole whole) :
    Ensures keepsWhole (fun _ _ later => keepsWhole later) now
      (progress.zoom part replace whole) :=
  ((trivial now progress).zoom (fun _ _ => True.intro) leaves holds).imp fun _ _ _ ended => ended.1

/-! ### Work that may fail -/

section Failing

variable {state : σ} {after : Except ε β → Moment → σ → Prop}

theorem bind {ends : Except ε α → Moment → σ → Prop} {task : ExceptT ε (Task σ) α}
    {next : α → ExceptT ε (Task σ) β} (ensured : Ensures keeps ends now (task now state))
    (goesOn : ∀ value moment state, ends (.ok value) moment state →
      Ensures keeps after moment (next value moment state))
    (failed : ∀ failure moment state, ends (.error failure) moment state →
      after (.error failure) moment state) :
    Ensures keeps after now ((task >>= next) now state) := by
  refine ensured.andThen fun outcome moment state ended => ?_
  cases outcome with
  | ok value => exact goesOn value moment state ended
  | error failure => exact .finished (failed failure moment state ended)

theorem bind_lift {task : Task σ α} {next : α → ExceptT ε (Task σ) β}
    (ensured : Ensures keeps ends now (task now state))
    (goesOn : ∀ value moment state, ends value moment state →
      Ensures keeps after moment (next value moment state)) :
    Ensures keeps after now ((ExceptT.lift task >>= next) now state) := by
  have lifted : Ensures keeps
      (fun (outcome : Except ε α) moment state =>
        ∃ value, outcome = .ok value ∧ ends value moment state)
      now ((ExceptT.lift task : ExceptT ε (Task σ) α) now state) :=
    ensured.andThen fun value moment state ended => .finished ⟨value, rfl, ended⟩
  refine lifted.bind ?_ ?_
  · rintro value moment state ⟨_, same, ended⟩
    cases same
    exact goesOn value moment state ended
  · rintro failure moment state ⟨_, same, _⟩
    cases same

end Failing

end Progress.Ensures

/-! ## Tasks -/

/-- Whenever the task starts, it ends with a value and at a moment that satisfy `ends`, and leaves
the state as everyone keeps it. -/
def Task.Ensures (keeps : σ → Prop) (ends : α → Moment → Prop) (task : Task σ α) : Prop :=
  ∀ now state, keeps state →
    Progress.Ensures keeps (fun value moment state => ends value moment ∧ keeps state) now
      (task now state)

namespace Task.Ensures

variable {keeps : σ → Prop}

theorem run {ends : α → Moment → Prop} {task : Task σ α} (ensured : Task.Ensures keeps ends task)
    (now : Moment) {state : σ} (holds : keeps state) :
    ends (task.run now state).1 (task.run now state).2.1 ∧ keeps (task.run now state).2.2 :=
  (ensured now state holds).run

section Failing

variable {ends : Except ε α → Moment → Prop} {after : Except ε β → Moment → Prop}

theorem imp {weaker : Except ε α → Moment → Prop} {task : ExceptT ε (Task σ) α}
    (ensured : Task.Ensures keeps ends task.run)
    (implied : ∀ outcome moment, ends outcome moment → weaker outcome moment) :
    Task.Ensures keeps weaker task.run :=
  fun now state holds => (ensured now state holds).imp
    fun outcome moment _ ended => ⟨implied outcome moment ended.1, ended.2⟩

theorem ok {value : α} (ended : ∀ moment, ends (.ok value) moment) :
    Task.Ensures keeps ends (pure value : ExceptT ε (Task σ) α).run :=
  fun now _ holds => .finished ⟨ended now, holds⟩

theorem clock :
    Task.Ensures keeps (fun (result : Except ε Moment) now => result = .ok now)
      (ExceptT.lift Task.now : ExceptT ε (Task σ) Moment).run :=
  fun _ _ holds => .finished ⟨rfl, holds⟩

theorem failed {failure : ε} (ended : ∀ moment, ends (.error failure) moment) :
    Task.Ensures keeps ends (throw failure : ExceptT ε (Task σ) α).run :=
  fun now _ holds => .finished ⟨ended now, holds⟩

theorem bind {task : ExceptT ε (Task σ) α} {next : α → ExceptT ε (Task σ) β}
    (ensured : Task.Ensures keeps ends task.run)
    (goesOn : ∀ value moment, ends (.ok value) moment → Task.Ensures keeps after (next value).run)
    (passes : ∀ failure moment, ends (.error failure) moment → after (.error failure) moment) :
    Task.Ensures keeps after (task >>= next).run :=
  fun now state holds => (ensured now state holds).bind
    (fun value moment state ended => goesOn value moment ended.1 moment state ended.2)
    (fun failure moment _ ended => ⟨passes failure moment ended.1, ended.2⟩)

theorem bind_lift {ends : α → Moment → Prop} {task : Task σ α} {next : α → ExceptT ε (Task σ) β}
    (ensured : Task.Ensures keeps ends task)
    (goesOn : ∀ value moment, ends value moment →
      ∀ state, keeps state → Progress.Ensures keeps
        (fun value moment state => after value moment ∧ keeps state) moment
        (next value moment state)) :
    Task.Ensures keeps after (ExceptT.lift task >>= next).run :=
  fun now state holds => (ensured now state holds).bind_lift
    fun value moment state ended => goesOn value moment ended.1 state ended.2

theorem guarded {context : RequestContext} {interrupted : Interruption → ε}
    {task : ExceptT ε (Task σ) α}
    (ensured : Task.Ensures keeps
      (fun outcome moment => context.interruption? moment = none → ends outcome moment) task.run)
    (stopped : ∀ moment cause, context.interruption? moment = some cause →
      ends (.error (interrupted cause)) moment) :
    Task.Ensures keeps ends (context.guarded interrupted task).run := by
  intro now state holds
  refine Progress.Ensures.guarded holds (fun _ => (ensured now state holds).imp ?_) ?_
  · exact fun _ _ _ ended calm => ⟨ended.1 calm, ended.2⟩
  · exact fun moment _ cause holds look _ => ⟨stopped moment cause look, holds⟩

theorem zoomFailing {part : τ → σ} {replace : σ → τ → τ} {keepsWhole : τ → Prop}
    (enters : ∀ whole, keepsWhole whole → keeps (part whole))
    (leaves : ∀ state whole, keeps state → keepsWhole whole → keepsWhole (replace state whole))
    {task : ExceptT ε (Task σ) α} (ensured : Task.Ensures keeps ends task.run) :
    Task.Ensures keepsWhole ends (Task.zoomFailing part replace task).run :=
  fun now whole holds =>
    (ensured now (part whole) (enters whole holds)).zoom_of_kept enters leaves holds

theorem zoomFailing_of_stable {part : τ → σ} {replace : σ → τ → τ} {keepsWhole : τ → Prop}
    (leaves : ∀ state whole, keepsWhole whole → keepsWhole (replace state whole))
    (task : ExceptT ε (Task σ) α) :
    Task.Ensures keepsWhole (fun _ _ => True) (Task.zoomFailing part replace task).run :=
  fun now whole holds =>
    (Progress.Ensures.zoom_of_stable leaves now (task now (part whole)) holds).imp
      fun _ _ _ ended => ⟨True.intro, ended⟩

end Failing

end Task.Ensures

end GroundedAnswers
