import GroundedAnswers.Proofs.Gateway.Endings
import GroundedAnswers.Proofs.Task.Waits

namespace GroundedAnswers

/-! The course of a chat that its context does not stop: the attempts on the selected backend and
those on the fallback, one after another, with their times and outcomes. Nothing is assumed of the
backends. -/

structure Attempt where
  start : Moment
  finish : Moment
  outcome : Except ModelFailure ChatResponse

namespace Attempt

def events (name : String) (asked : ChatRequest) (attempt : Attempt) : List BackendEvent :=
  [.asked attempt.start name (.chat asked),
    .replied attempt.finish name (.chat asked attempt.outcome)]

def log (name : String) (asked : ChatRequest) (attempts : List Attempt) : List BackendEvent :=
  attempts.flatMap (events name asked)

theorem log_append (name : String) (asked : ChatRequest) (left right : List Attempt) :
    log name asked (left ++ right) = log name asked left ++ log name asked right :=
  List.flatMap_append

theorem mem_log {name : String} {asked : ChatRequest} {attempts : List Attempt}
    {event : BackendEvent} :
    event ∈ log name asked attempts ↔ ∃ attempt ∈ attempts,
      event = .asked attempt.start name (.chat asked) ∨
        event = .replied attempt.finish name (.chat asked attempt.outcome) := by
  simp [log, events]

end Attempt

/-- The attempts on a backend from the one with the given number on. Each but the last fails, and
the next one begins when the policy's wait for the number of the failed one is over. -/
inductive Tries (policy : RetryPolicy) (name : String) (asked : ChatRequest) :
    Nat → Moment → List Attempt → Except ModelFailure ChatResponse → Moment → Prop
  | last {number : Nat} {start finish : Moment} {outcome answer : Except ModelFailure ChatResponse}
      (conveyed : Conveys name asked (start.millisecondsUntil finish) outcome answer) :
      Tries policy name asked number start [⟨start, finish, outcome⟩] answer finish
  | again {number : Nat} {start reached finish : Moment} {failure : ModelFailure}
      {later : List Attempt} {answer : Except ModelFailure ChatResponse}
      (retryable : failure.isRetryable)
      (others : Tries policy name asked (number + 1)
        (reached.after (policy.backoff number.toUInt32).nanoseconds) later answer finish) :
      Tries policy name asked number start (⟨start, reached, .error failure⟩ :: later) answer finish

namespace Tries

variable {policy : RetryPolicy} {name : String} {asked : ChatRequest} {number : Nat}
  {start finish : Moment} {attempts : List Attempt} {answer : Except ModelFailure ChatResponse}

theorem split (tries : Tries policy name asked number start attempts answer finish) :
    ∃ earlier last, attempts = earlier ++ [last] ∧
      (∀ attempt ∈ earlier, ∃ failure, attempt.outcome = .error failure) ∧
      last.finish = finish ∧
      Conveys name asked (last.start.millisecondsUntil finish) last.outcome answer := by
  induction tries with
  | last conveyed => exact ⟨[], _, rfl, nofun, rfl, conveyed⟩
  | again retryable later induction =>
      rcases induction with ⟨earlier, last, rfl, failed, ends⟩
      exact ⟨_ :: earlier, last, rfl, List.forall_mem_cons.mpr ⟨⟨_, rfl⟩, failed⟩, ends⟩

theorem failed {failure : ModelFailure}
    (tries : Tries policy name asked number start attempts (.error failure) finish) :
    ∀ attempt ∈ attempts, ∃ failure, attempt.outcome = .error failure := by
  rcases tries.split with ⟨earlier, ⟨begun, _, outcome⟩, rfl, failed, _, conveyed⟩
  intro attempt member
  rcases List.mem_append.mp member with early | final
  · exact failed attempt early
  · cases List.mem_singleton.mp final
    cases conveyed with
    | interruption => exact ⟨_, rfl⟩
    | failure => exact ⟨_, rfl⟩

theorem getLast? (tries : Tries policy name asked number start attempts answer finish) :
    ∃ last, attempts.getLast? = some last ∧ last.finish = finish := by
  rcases tries.split with ⟨earlier, last, rfl, _, ends, _⟩
  exact ⟨last, List.getLast?_concat, ends⟩

private theorem log_eq (tries : Tries policy name asked number start attempts answer finish) :
    ∃ earlier begun outcome,
      Attempt.log name asked attempts = earlier ++ [.asked begun name (.chat asked),
        .replied finish name (.chat asked outcome)] ∧
      Conveys name asked (begun.millisecondsUntil finish) outcome answer := by
  rcases tries.split with ⟨earlier, ⟨begun, _, outcome⟩, rfl, _, rfl, conveyed⟩
  exact ⟨_, begun, outcome, Attempt.log_append _ _ _ _, conveyed⟩

theorem head? (tries : Tries policy name asked number start attempts answer finish) :
    ∃ first, attempts.head? = some first ∧ first.start = start := by
  cases tries with
  | last => exact ⟨_, rfl, rfl⟩
  | again => exact ⟨_, rfl, rfl⟩

end Tries

/-- A chat asks the selected backend, and the fallback after a failure that is no interruption. -/
inductive Course (gateway : Gateway σ) (name : String) (sent : ChatRequest) (start : Moment) :
    List BackendEvent → Except ModelFailure ChatResponse → Moment → Prop
  | selected {attempts : List Attempt} {answer : Except ModelFailure ChatResponse} {finish : Moment}
      (bounded : attempts.length ≤ gateway.retry.maxRetries.toNat + 1)
      (tried : Tries gateway.retry name sent 1 start attempts answer finish) :
      Course gateway name sent start (Attempt.log name sent attempts) answer finish
  | fallback {first second : List Attempt} {failure : ModelFailure} {turn finish : Moment}
      {other : String} {answer : Except ModelFailure ChatResponse}
      (bounded : first.length ≤ gateway.retry.maxRetries.toNat + 1)
      (failed : Tries gateway.retry name sent 1 start first (.error failure) turn)
      (regular : failure.isInterruption = false)
      (configured : gateway.fallbackBackend = some other) (different : other ≠ name)
      (boundedFallback : second.length ≤ gateway.retry.maxRetries.toNat + 1)
      (tried : Tries gateway.retry other (gateway.fallbackRequest other sent) 1 turn second answer
        finish) :
      Course gateway name sent start
        (Attempt.log name sent first ++
          Attempt.log other (gateway.fallbackRequest other sent) second) answer finish

namespace Course

variable {gateway : Gateway σ} {name : String} {sent : ChatRequest} {start finish : Moment}
  {events : List BackendEvent} {answer : Except ModelFailure ChatResponse}

theorem same_messages (course : Course gateway name sent start events answer finish)
    {begun : Moment} {other : String} {question : Question}
    (member : .asked begun other question ∈ events) :
    ∃ asked, question = .chat asked ∧ asked.messages = sent.messages := by
  cases course with
  | selected bounded tried =>
      rcases Attempt.mem_log.mp member with ⟨attempt, _, same | same⟩ <;> cases same
      exact ⟨sent, rfl, rfl⟩
  | fallback =>
      rcases List.mem_append.mp member with first | second
      · rcases Attempt.mem_log.mp first with ⟨attempt, _, same | same⟩ <;> cases same
        exact ⟨sent, rfl, rfl⟩
      · rcases Attempt.mem_log.mp second with ⟨attempt, _, same | same⟩ <;> cases same
        exact ⟨_, rfl, rfl⟩

theorem exists_last (course : Course gateway name sent start events answer finish) :
    ∃ earlier called asked begun outcome,
      events = earlier ++ [.asked begun called (.chat asked),
        .replied finish called (.chat asked outcome)] ∧
      Conveys called asked (begun.millisecondsUntil finish) outcome answer := by
  cases course with
  | selected bounded tried =>
      rcases tried.log_eq with ⟨earlier, begun, outcome, log, conveyed⟩
      exact ⟨earlier, name, sent, begun, outcome, log, conveyed⟩
  | @fallback first second failure turn finish other answer bounded failed regular configured
      different boundedFallback tried =>
      rcases tried.log_eq with ⟨earlier, begun, outcome, log, conveyed⟩
      refine ⟨Attempt.log name sent first ++ earlier, other, _, begun, outcome, ?_, conveyed⟩
      rw [log, List.append_assoc]

theorem asks (course : Course gateway name sent start events answer finish) :
    .asked start name (.chat sent) ∈ events := by
  cases course with
  | selected bounded tried =>
      rcases tried.head? with ⟨first, isFirst, rfl⟩
      exact Attempt.mem_log.mpr ⟨first, List.mem_of_head? isFirst, .inl rfl⟩
  | fallback bounded failed =>
      rcases failed.head? with ⟨first, isFirst, rfl⟩
      exact List.mem_append_left _
        (Attempt.mem_log.mpr ⟨first, List.mem_of_head? isFirst, .inl rfl⟩)

end Course

namespace Gateway

/-! ## Attempts -/

section

variable {policy : RetryPolicy} {context : RequestContext} {backend : Backend σ}
  {asked : ChatRequest} {now moment : Moment} {before after : Recorded σ}

/-- A call that the context does not stop is in the log with its reply. -/
theorem run_guard_recorded {outcome : Except ModelFailure ChatResponse}
    (ran : Task.run (context.guard (backend.recorded.chat context asked)).run now before =
      (outcome, moment, after))
    (unstopped : ∀ cause, outcome = .error (.interrupted cause) →
      context.interruption? moment = none) :
    after.events = before.events ++ Attempt.log backend.name asked [⟨now, moment, outcome⟩] := by
  have called := RequestContext.run_of_run_guarded_of_calm ran unstopped
  have logged := run_recording backend.name (.chat asked) (.chat asked)
    (backend.chat context asked) now before
  rw [show Task.run (recording backend.name (.chat asked) (.chat asked)
    (backend.chat context asked)).run now before = (outcome, moment, after) from called] at logged
  cases logged
  rfl

private theorem run_lift_delay {nanoseconds : Nat} {outcome : Except ModelFailure Unit}
    (ran : Task.run (context.guard (ExceptT.lift (Task.delay nanoseconds))).run now before =
      (outcome, moment, after))
    (unstopped : ∀ cause, outcome = .error (.interrupted cause) →
      context.interruption? moment = none) :
    (outcome, moment, after) = (.ok (), now.after nanoseconds, before) := by
  rw [← RequestContext.run_of_run_guarded_of_calm ran unstopped]
  simp only [ExceptT.run_lift, Task.run_map, Task.run_delay]

private theorem ne_interrupted {failure : ModelFailure} (regular : failure.isInterruption = false)
    (cause : Interruption) :
    (.error failure : Except ModelFailure α) ≠ .error (.interrupted cause) := by
  rintro ⟨⟩
  cases regular

/-- Whenever they begin, attempts go on as the policy says, unless an interruption that a look finds
ends them. -/
def TakesCourse (policy : RetryPolicy) (context : RequestContext) (backend : Backend σ)
    (asked : ChatRequest) (number retries : Nat) : Prop :=
  ∀ now before answer moment after,
    Task.run (attempts policy context backend.recorded asked number retries).run now before =
      (answer, moment, after) →
    (∀ cause, answer = .error (.interrupted cause) → context.interruption? moment = none) →
    ∃ tried, tried.length ≤ retries + 1 ∧
      Tries policy backend.name asked number now tried answer moment ∧
      after.events = before.events ++ Attempt.log backend.name asked tried

private theorem exists_tries_of_wait {number left nanoseconds : Nat}
    (others : TakesCourse policy context backend asked number left)
    {answer : Except ModelFailure ChatResponse}
    (ran : Task.run (context.guard (ExceptT.lift (Task.delay nanoseconds)) >>= fun _ =>
        attempts policy context backend.recorded asked number left).run now before =
      (answer, moment, after))
    (unstopped : ∀ cause, answer = .error (.interrupted cause) →
      context.interruption? moment = none) :
    ∃ tried, tried.length ≤ left + 1 ∧
      Tries policy backend.name asked number (now.after nanoseconds) tried answer moment ∧
      after.events = before.events ++ Attempt.log backend.name asked tried := by
  rcases waited : Task.run (context.guard (ExceptT.lift (Task.delay nanoseconds))).run now
      before with
    ⟨outcome, reached, between⟩
  cases outcome with
  | error failure =>
      rw [Task.run_bind_of_error waited] at ran
      cases ran
      have calm : ∀ cause, (.error failure : Except ModelFailure Unit) =
          .error (.interrupted cause) → context.interruption? moment = none := by
        rintro cause ⟨⟩
        exact unstopped cause rfl
      cases run_lift_delay waited calm
  | ok =>
      cases run_lift_delay waited nofun
      rw [Task.run_bind_of_ok waited] at ran
      exact others _ _ answer moment after ran unstopped

private theorem attempt_takesCourse {number retries : Nat}
    (others : ∀ left, retries = left + 1 →
      TakesCourse policy context backend asked (number + 1) left) :
    TakesCourse policy context backend asked number retries := by
  intro now before answer moment after ran unstopped
  unfold attempts at ran
  rcases called : Task.run (context.guard (backend.recorded.chat context asked)).run now before with
    ⟨outcome, reached, between⟩
  have only : ∀ {answer}, Conveys backend.name asked (now.millisecondsUntil reached) outcome answer →
      (∀ cause, outcome = .error (.interrupted cause) → context.interruption? reached = none) →
      ∃ tried, tried.length ≤ retries + 1 ∧
        Tries policy backend.name asked number now tried answer reached ∧
        between.events = before.events ++ Attempt.log backend.name asked tried :=
    fun conveyed calm =>
      ⟨[_], Nat.le_add_left 1 retries, .last conveyed, run_guard_recorded called calm⟩
  cases outcome with
  | ok response =>
      rw [Task.run_bind_lift (run_ask called)] at ran
      cases ran
      refine only (.response response) fun cause same => ?_
      cases same
  | error failure =>
      rw [Task.run_bind_lift (run_ask_of_error called)] at ran
      cases kind : failure.isInterruption with
      | true =>
          simp only [kind, if_true] at ran
          cases ran
          cases failure with
          | interrupted cause => exact only (.interruption cause) unstopped
          | _ => cases kind
      | false =>
          have regular : ∀ cause, (.error failure : Except ModelFailure ChatResponse) =
              .error (.interrupted cause) → context.interruption? reached = none :=
            fun cause same => absurd same (ne_interrupted kind cause)
          simp only [kind, Bool.false_eq_true, if_false] at ran
          cases retries with
          | zero =>
              cases ran
              exact only (.failure kind _) regular
          | succ left =>
              cases again : failure.isRetryable with
              | false =>
                  simp only [again, Bool.false_eq_true, if_false] at ran
                  cases ran
                  exact only (.failure kind _) regular
              | true =>
                  simp only [again, if_true] at ran
                  rcases exists_tries_of_wait (others left rfl) ran unstopped with
                    ⟨tried, bounded, tries, logged⟩
                  refine ⟨_ :: tried, Nat.succ_le_succ bounded, .again again tries, ?_⟩
                  rw [logged, run_guard_recorded called regular, List.append_assoc]
                  rfl

private theorem attempts_takeCourse (policy : RetryPolicy) (context : RequestContext)
    (backend : Backend σ) (asked : ChatRequest) (number retries : Nat) :
    TakesCourse policy context backend asked number retries := by
  induction retries generalizing number with
  | zero => exact attempt_takesCourse nofun
  | succ left induction =>
      refine attempt_takesCourse fun other same => ?_
      cases same
      exact induction (number + 1)

/-! ## The whole chat -/

variable {gateway : Gateway σ} {request : ChatRequest} {selected : Backend σ}
  {answer : Except ModelFailure ChatResponse}

/-- A chat with a registered backend takes its course, unless an interruption that a look finds ends
it. -/
theorem exists_course_of_run_chat
    (registered : gateway.backend (request.backend.getD gateway.defaultBackend) = .ok selected)
    (ran : Task.run (gateway.recorded.chat context request).run now before =
      (answer, moment, after))
    (unstopped : ∀ cause, answer = .error (.interrupted cause) →
      context.interruption? moment = none) :
    ∃ events, after.events = before.events ++ events ∧
      Course gateway (request.backend.getD gateway.defaultBackend)
        (request.withDefaultModel gateway.defaultModel) now events answer moment := by
  have named : selected.name = request.backend.getD gateway.defaultBackend :=
    name_of_find? ((backend_eq_ok_iff _ _ _).mp registered)
  have registered' := backend_recorded registered
  rcases tried : Task.run (gateway.recorded.chatWithRetries context selected.recorded
      (request.withDefaultModel gateway.recorded.defaultModel)).run now before with
    ⟨outcome, turn, between⟩
  have first := attempts_takeCourse gateway.retry context selected
    (request.withDefaultModel gateway.defaultModel) 1 gateway.retry.maxRetries.toNat now before
    outcome turn between tried
  rw [named] at first
  cases outcome with
  | ok response =>
      rw [run_chat_of_ok registered' tried] at ran
      cases ran
      rcases first nofun with ⟨attempts, bounded, tries, logged⟩
      exact ⟨_, logged, .selected bounded tries⟩
  | error failure =>
      cases kind : failure.isInterruption with
      | true =>
          rw [run_chat_of_interruption registered' tried kind] at ran
          cases ran
          rcases first unstopped with ⟨attempts, bounded, tries, logged⟩
          exact ⟨_, logged, .selected bounded tries⟩
      | false =>
          have regular : ∀ cause, (.error failure : Except ModelFailure ChatResponse) =
              .error (.interrupted cause) → context.interruption? turn = none :=
            fun cause same => absurd same (ne_interrupted kind cause)
          rcases first regular with ⟨attempts, bounded, tries, logged⟩
          cases alternative : gateway.recorded.fallbackFor?
              (request.backend.getD gateway.recorded.defaultBackend) with
          | none =>
              rw [run_chat_of_error registered' tried alternative] at ran
              cases ran
              exact ⟨_, logged, .selected bounded tries⟩
          | some fallback =>
              rw [run_chat_of_fallback registered' tried kind alternative] at ran
              rcases of_fallbackFor?_recorded alternative with
                ⟨other, backend, configured, different, rfl, rfl⟩
              have second := attempts_takeCourse gateway.retry context backend
                (gateway.fallbackRequest backend.name
                  (request.withDefaultModel gateway.defaultModel)) 1
                gateway.retry.maxRetries.toNat turn between answer moment after ran
              rcases second unstopped with ⟨others, boundedOthers, triesOthers, loggedOthers⟩
              refine ⟨_, ?_, .fallback bounded tries kind configured different boundedOthers
                triesOthers⟩
              rw [loggedOthers, logged, List.append_assoc]

theorem exists_course_of_response {response : ChatResponse}
    (ran : Task.run (gateway.recorded.chat context request).run now before =
      (.ok response, moment, after)) :
    ∃ events, after.events = before.events ++ events ∧
      Course gateway (request.backend.getD gateway.defaultBackend)
        (request.withDefaultModel gateway.defaultModel) now events (.ok response) moment := by
  cases registered : gateway.backend (request.backend.getD gateway.defaultBackend) with
  | error failure =>
      rw [run_chat_of_unregistered (backend_recorded_of_error registered).1] at ran
      cases ran
  | ok selected => exact exists_course_of_run_chat registered ran nofun

end

end Gateway

end GroundedAnswers
