import GroundedAnswers.Proofs.Gateway.Chats
import Mathlib.Data.Nat.Find

namespace GroundedAnswers

/-! How often a chat asks its backends, and what comes of it. A backend that is asked again and
again gives a series of outcomes; a chat goes through the series of the selected backend up to its
first outcome that settles the matter, as far as the retries reach, and then through that of the
fallback. -/

/-! ## Series of attempts -/

/-- A backend asked the same over and over, with the waits of the policy in between. -/
structure Series (σ : Type) where
  policy : RetryPolicy
  context : RequestContext
  backend : Backend σ
  request : ChatRequest
  start : Moment
  state : σ

namespace Series

def ask (series : Series σ) (origin : Moment × σ) : Except ModelFailure ChatResponse × Moment × σ :=
  Task.run (series.backend.chat series.context series.request).run origin.1 origin.2

/-- Where an attempt begins. Attempts are counted from zero. -/
def begins (series : Series σ) : Nat → Moment × σ
  | 0 => (series.start, series.state)
  | index + 1 =>
      let (_, moment, state) := series.ask (series.begins index)
      (moment.after (series.policy.backoff (index + 1).toUInt32).nanoseconds, state)

def attempt (series : Series σ) (index : Nat) : Except ModelFailure ChatResponse × Moment × σ :=
  series.ask (series.begins index)

def outcome (series : Series σ) (index : Nat) : Except ModelFailure ChatResponse :=
  (series.attempt index).1

def latency (series : Series σ) (index : Nat) : UInt64 :=
  (series.begins index).1.millisecondsUntil (series.attempt index).2.1

/-- A success settles a series, and so does a failure that another attempt cannot mend. -/
def settles : Except ModelFailure ChatResponse → Bool
  | .ok _ => true
  | .error failure => !failure.isRetryable

theorem exists_last (series : Series σ) :
    ∃ index, settles (series.outcome index) ∨ series.policy.maxRetries.toNat ≤ index :=
  ⟨series.policy.maxRetries.toNat, .inr (Nat.le_refl _)⟩

/-- The first attempt that settles the series or is out of retries. -/
def last (series : Series σ) : Nat :=
  Nat.find series.exists_last

def count (series : Series σ) : Nat :=
  series.last + 1

private theorem last_le (series : Series σ) : series.last ≤ series.policy.maxRetries.toNat :=
  Nat.find_min' series.exists_last (.inr (Nat.le_refl _))

private theorem settles_last (series : Series σ) :
    settles (series.outcome series.last) ∨ series.policy.maxRetries.toNat ≤ series.last :=
  Nat.find_spec series.exists_last

private theorem retryable_of_lt_last {series : Series σ} {index : Nat}
    (early : index < series.last) :
    index < series.policy.maxRetries.toNat ∧
      ∃ failure, series.outcome index = .error failure ∧ failure.isRetryable := by
  have unsettled := Nat.find_min series.exists_last early
  rw [not_or] at unsettled
  refine ⟨Nat.lt_of_not_le unsettled.2, ?_⟩
  cases outcome : series.outcome index with
  | ok response => simp [outcome, settles] at unsettled
  | error failure => exact ⟨failure, rfl, by simpa [outcome, settles] using unsettled.1⟩

def Uninterrupted (series : Series σ) : Prop :=
  ∀ index ≤ series.last, ∀ cause, series.outcome index ≠ .error (.interrupted cause)

def verdict (series : Series σ) : Except ModelFailure ChatResponse :=
  match series.outcome series.last with
  | .ok response =>
      .ok (Gateway.completed series.backend.name series.request (series.latency series.last) response)
  | .error failure =>
      .error (.exhausted series.backend.name series.count.toUInt32 failure)

theorem verdict_of_ok {series : Series σ} {response : ChatResponse}
    (outcome : series.outcome series.last = .ok response) :
    series.verdict = .ok (Gateway.completed series.backend.name series.request
      (series.latency series.last) response) := by
  rw [verdict, outcome]

theorem verdict_of_error {series : Series σ} {failure : ModelFailure}
    (outcome : series.outcome series.last = .error failure) :
    series.verdict =
      .error (.exhausted series.backend.name series.count.toUInt32 failure) := by
  rw [verdict, outcome]

theorem toNat_count {series : Series σ}
    (bounded : series.policy.maxRetries.toNat < UInt32.size - 1) :
    series.count.toUInt32.toNat = series.count := by
  have fits : series.count < UInt32.size := by
    have limit := series.last_le
    unfold count
    omega
  exact UInt32.toNat_ofNat_of_lt' fits

theorem answers {series : Series σ}
    (bounded : series.policy.maxRetries.toNat < UInt32.size - 1) :
    match series.outcome series.last with
    | .ok response =>
        series.verdict = .ok (Gateway.completed series.backend.name series.request
          (series.latency series.last) response)
    | .error failure => ∃ attempts : UInt32, attempts.toNat = series.count ∧
        series.verdict = .error (.exhausted series.backend.name attempts failure) := by
  cases outcome : series.outcome series.last with
  | ok response => exact verdict_of_ok outcome
  | error failure => exact ⟨_, toNat_count bounded, verdict_of_error outcome⟩

def attemptEvents (series : Series σ) (index : Nat) : List BackendEvent :=
  [.asked (series.begins index).1 series.backend.name (.chat series.request),
    .replied (series.attempt index).2.1 series.backend.name
      (.chat series.request (series.outcome index))]

def events (series : Series σ) (first count : Nat) : List BackendEvent :=
  (List.range' first count).flatMap series.attemptEvents

theorem questions_events (series : Series σ) (first count : Nat) :
    BackendEvent.questions (series.events first count) =
      List.replicate count (series.backend.name, .chat series.request) := by
  induction count generalizing first with
  | zero => rfl
  | succ count induction =>
      rw [events, List.range'_succ, List.flatMap_cons, BackendEvent.questions_append,
        ← events, induction]
      rfl

end Series

/-! ## One backend -/

namespace Gateway

section OneAttempt

variable {context : RequestContext} {policy : RetryPolicy} {backend : Backend σ}
  {request : ChatRequest} {now moment : Moment} {state after : σ}

theorem run_guard (calm : context.Calm) (task : ModelTask σ α) (now : Moment) (state : σ) :
    Task.run (context.guard task).run now state = Task.run task.run now state :=
  calm.run_guarded _ _ _ _

private theorem run_attempts_of_ok (calm : context.Calm) (attempt retries : Nat)
    {response : ChatResponse} (answered : Task.run (backend.chat context request).run now state =
      (.ok response, moment, after)) :
    Task.run (attempts policy context backend request attempt retries).run now state =
      (.ok (completed backend.name request (now.millisecondsUntil moment) response), moment,
        after) := by
  unfold attempts
  rw [Task.run_bind_lift (run_ask ((run_guard calm _ _ _).trans answered))]
  rfl

private theorem isInterruption_eq_false_of_isRetryable {failure : ModelFailure}
    (retryable : failure.isRetryable) : failure.isInterruption = false := by
  cases failure <;> first | rfl | simp [ModelFailure.isRetryable] at retryable

private theorem run_attempts_of_last (calm : context.Calm) (attempt : Nat) {retries : Nat}
    {failure : ModelFailure}
    (answered : Task.run (backend.chat context request).run now state =
      (.error failure, moment, after))
    (regular : failure.isInterruption = false)
    (last : failure.isRetryable = false ∨ retries = 0) :
    Task.run (attempts policy context backend request attempt retries).run now state =
      (.error (.exhausted backend.name attempt.toUInt32 failure), moment, after) := by
  unfold attempts
  rw [Task.run_bind_lift (run_ask_of_error ((run_guard calm _ _ _).trans answered))]
  simp only [regular, Bool.false_eq_true, if_false]
  cases retries with
  | zero => rfl
  | succ left =>
      have final : failure.isRetryable = false := last.resolve_right (Nat.succ_ne_zero left)
      simp only [final, Bool.false_eq_true, if_false]
      rfl

private theorem run_attempts_of_retryable (calm : context.Calm) (attempt left : Nat)
    {failure : ModelFailure}
    (answered : Task.run (backend.chat context request).run now state =
      (.error failure, moment, after))
    (retryable : failure.isRetryable) :
    Task.run (attempts policy context backend request attempt (left + 1)).run now state =
      Task.run (attempts policy context backend request (attempt + 1) left).run
        (moment.after (policy.backoff attempt.toUInt32).nanoseconds) after := by
  have regular := isInterruption_eq_false_of_isRetryable retryable
  rw [attempts, Task.run_bind_lift (run_ask_of_error ((run_guard calm _ _ _).trans answered))]
  simp only [regular, retryable, Bool.false_eq_true, if_false, if_true]
  let delay : ModelTask σ Unit :=
    ExceptT.lift (Task.delay (policy.backoff attempt.toUInt32).nanoseconds)
  have waited : Task.run (context.guard delay).run moment after =
      (.ok (), moment.after (policy.backoff attempt.toUInt32).nanoseconds, after) := by
    rw [run_guard calm]
    simp only [delay, ExceptT.run_lift, Task.run_map, Task.run_delay]
  exact Task.run_bind_of_ok waited _

end OneAttempt

end Gateway

namespace Series

private theorem run_recorded_chat (series : Series σ) (index : Nat) (before : List BackendEvent) :
    Task.run (series.backend.recorded.chat series.context series.request).run
        (series.begins index).1 ⟨(series.begins index).2, before⟩ =
      (series.outcome index, (series.attempt index).2.1,
        ⟨(series.attempt index).2.2, before ++ series.attemptEvents index⟩) :=
  run_recording _ _ _ _ _ _

/-- From any attempt on, the remaining ones are made up to the last, and the answer is that of the
last one. -/
theorem run_attempts {series : Series σ} (calm : series.context.Calm)
    (uninterrupted : series.Uninterrupted) {index : Nat} (early : index ≤ series.last)
    (before : List BackendEvent) :
    Task.run (Gateway.attempts series.policy series.context series.backend.recorded series.request
        (index + 1) (series.policy.maxRetries.toNat - index)).run
        (series.begins index).1 ⟨(series.begins index).2, before⟩ =
      (series.verdict, (series.attempt series.last).2.1,
        ⟨(series.attempt series.last).2.2,
          before ++ series.events index (series.last + 1 - index)⟩) := by
  rcases Nat.exists_eq_add_of_le early with ⟨remaining, reached⟩
  induction remaining generalizing index before with
  | zero =>
      have atEnd : index = series.last := reached.symm
      subst atEnd
      have onlyOne : series.last + 1 - series.last = 1 := by omega
      have events : series.events series.last 1 = series.attemptEvents series.last := by
        simp [Series.events]
      rw [onlyOne, events]
      have asked := series.run_recorded_chat series.last before
      cases outcome : series.outcome series.last with
      | ok response =>
          rw [outcome] at asked
          rw [Gateway.run_attempts_of_ok calm _ _ asked, verdict_of_ok outcome]
          rfl
      | error failure =>
          rw [outcome] at asked
          have regular : failure.isInterruption = false := by
            cases failure with
            | interrupted cause =>
                exact absurd outcome (uninterrupted series.last (Nat.le_refl _) cause)
            | _ => rfl
          have final : failure.isRetryable = false ∨
              series.policy.maxRetries.toNat - series.last = 0 := by
            rcases series.settles_last with settled | exhausted
            · exact .inl (by simpa [outcome, settles] using settled)
            · exact .inr (by omega)
          rw [Gateway.run_attempts_of_last calm _ asked regular final, verdict_of_error outcome]
          rfl
  | succ remaining induction =>
      have earlier : index < series.last := by omega
      rcases retryable_of_lt_last earlier with ⟨retriesLeft, failure, outcome, retryable⟩
      have asked := series.run_recorded_chat index before
      rw [outcome] at asked
      have left : series.policy.maxRetries.toNat - index =
          series.policy.maxRetries.toNat - (index + 1) + 1 := by omega
      have more : series.last + 1 - index = series.last + 1 - (index + 1) + 1 := by omega
      rw [left, Gateway.run_attempts_of_retryable calm _ _ asked retryable]
      have next : index + 1 ≤ series.last := earlier
      have rest := induction next (before ++ series.attemptEvents index) (by omega)
      rw [more, Series.events, List.range'_succ, List.flatMap_cons, ← List.append_assoc]
      exact rest

end Series

end GroundedAnswers
