import GroundedAnswers.Proofs.Gateway.Course
import Mathlib.Algebra.GroupWithZero.Nat
import Mathlib.Algebra.Ring.Int.Defs

namespace GroundedAnswers

/-! The timetable of a chat: when each attempt begins, and how long the whole takes, to the
nanosecond. -/

def Attempt.latency (attempt : Attempt) : Int :=
  attempt.finish.nanoseconds - attempt.start.nanoseconds

namespace RetryPolicy

/-- The waits, in nanoseconds, before so many retries from one with a number on. -/
def waits (policy : RetryPolicy) (first retries : Nat) : List Nat :=
  (List.range' first retries).map fun retry => (policy.backoff retry.toUInt32).nanoseconds

def duration (policy : RetryPolicy) (attempts : List Attempt) : Int :=
  (attempts.map Attempt.latency).sum + (policy.waits 1 (attempts.length - 1)).sum

end RetryPolicy

/-- Attempts on one backend. The first one begins at the given moment, a retry when the wait for its
number is over after the failure before it. -/
structure Timetable (policy : RetryPolicy) (start : Moment) (attempts : List Attempt) : Prop where
  within : attempts.length ≤ policy.maxRetries.toNat + 1
  first : ∀ attempt, attempts[0]? = some attempt → attempt.start = start
  next : ∀ retry earlier later, attempts[retry]? = some earlier →
    attempts[retry + 1]? = some later →
      (∃ failure, earlier.outcome = .error failure) ∧
      later.start.nanoseconds =
        earlier.finish.nanoseconds + (policy.backoff (retry + 1).toUInt32).nanoseconds

namespace Tries

variable {policy : RetryPolicy} {name : String} {asked : ChatRequest} {number : Nat}
  {start finish : Moment} {attempts : List Attempt} {answer : Except ModelFailure ChatResponse}

private theorem spaced (tries : Tries policy name asked number start attempts answer finish)
    {retry : Nat} {earlier later : Attempt} (isEarlier : attempts[retry]? = some earlier)
    (isLater : attempts[retry + 1]? = some later) :
    (∃ failure, earlier.outcome = .error failure) ∧
      later.start.nanoseconds =
        earlier.finish.nanoseconds + (policy.backoff (number + retry).toUInt32).nanoseconds := by
  induction tries generalizing retry with
  | last conveyed => cases isLater
  | @again number start reached finish failure others answer retryable tries induction =>
      cases retry with
      | zero =>
          cases isEarlier
          rcases tries.head? with ⟨first, isFirst, begins⟩
          rw [List.head?_eq_getElem?] at isFirst
          cases isFirst.symm.trans isLater
          exact ⟨⟨failure, rfl⟩, by rw [begins, Moment.nanoseconds_after]; rfl⟩
      | succ retry =>
          rw [show number + (retry + 1) = number + 1 + retry by omega]
          exact induction isEarlier isLater

private theorem timetable (tries : Tries policy name asked 1 start attempts answer finish)
    (within : attempts.length ≤ policy.maxRetries.toNat + 1) : Timetable policy start attempts := by
  refine ⟨within, fun attempt isFirst => ?_, fun retry earlier later isEarlier isLater => ?_⟩
  · rcases tries.head? with ⟨first, isHead, begins⟩
    rw [List.head?_eq_getElem?, isFirst] at isHead
    cases isHead
    exact begins
  · rw [Nat.add_comm retry 1]
    exact tries.spaced isEarlier isLater

private theorem total_from (tries : Tries policy name asked number start attempts answer finish) :
    (finish.nanoseconds : Int) = start.nanoseconds + (attempts.map Attempt.latency).sum +
      (policy.waits number (attempts.length - 1)).sum := by
  induction tries with
  | last conveyed =>
      simp only [Attempt.latency, RetryPolicy.waits, List.map_cons, List.map_nil, List.sum_cons,
        List.sum_nil, List.length_singleton, Nat.sub_self, List.range'_zero]
      omega
  | @again number start reached finish failure others answer retryable tries induction =>
      rcases tries.head? with ⟨first, isFirst, _⟩
      have count : others.length = others.length - 1 + 1 := by
        cases others with
        | nil => cases isFirst
        | cons => rfl
      have waited : ((⟨start, reached, .error failure⟩ :: others : List Attempt).length - 1) =
          others.length - 1 + 1 := count
      rw [waited, RetryPolicy.waits, List.range'_succ, List.map_cons, List.sum_cons, List.map_cons,
        List.sum_cons, induction, Moment.nanoseconds_after]
      have latency : Attempt.latency ⟨start, reached, .error failure⟩ =
          reached.nanoseconds - start.nanoseconds := rfl
      rw [latency]
      unfold RetryPolicy.waits
      omega

theorem total (tries : Tries policy name asked 1 start attempts answer finish) :
    (finish.nanoseconds : Int) = start.nanoseconds + policy.duration attempts := by
  rw [tries.total_from, RetryPolicy.duration, Int.add_assoc]

end Tries

namespace Gateway

/-- A chat that nothing interrupts asks the selected backend at once. Each retry on a backend begins
when the wait for its number is over after the failure before it, and the first attempt on the
fallback at the very moment at which the selected backend failed last. The chat ends with the last
attempt, so that it takes as long as its attempts and the waits between those on one backend. -/
theorem chat_keeps_timetable (gateway : Gateway σ) (context : RequestContext)
    (request : ChatRequest) {now moment : Moment} {before after : Recorded σ}
    {answer : Except ModelFailure ChatResponse}
    (ran : Task.run (gateway.recorded.chat context request).run now before =
      (answer, moment, after))
    (calm : context.interruption? moment = none) :
    let policy := gateway.retry
    let name := request.backend.getD gateway.defaultBackend
    let model := if request.model = "" then gateway.defaultModel.getD "" else request.model
    let sent := { request with model }
    match gateway.backend name with
    | .error failure => answer = .error failure ∧ moment = now ∧ after.events = before.events
    | .ok _ => ∃ first last second,
        first.getLast? = some last ∧ Timetable policy now first ∧
        Timetable policy last.finish second ∧
        (first ++ second).getLast?.map Attempt.finish = some moment ∧
        moment.nanoseconds =
          now.nanoseconds + policy.duration first + policy.duration second ∧
        match second with
        | [] => after.events = before.events ++ Attempt.log name sent first
        | _ :: _ => ∃ other failure, gateway.fallbackBackend = some other ∧ other ≠ name ∧
            last.outcome = .error failure ∧
            after.events = before.events ++ Attempt.log name sent first ++
              Attempt.log other { request with
                backend := some other
                model := gateway.fallbackModel.getD model } second := by
  intro policy name model sent
  cases registered : gateway.backend name with
  | error failure =>
      rw [run_chat_of_unregistered (backend_recorded_of_error registered).1] at ran
      cases ran
      exact ⟨rfl, rfl, rfl⟩
  | ok selected =>
      rcases exists_course_of_run_chat registered ran fun _ _ => calm with ⟨events, logged, course⟩
      rw [ChatRequest.withDefaultModel_eq] at course
      cases course with
      | @selected attempts answer finish within tries =>
          rcases tries.getLast? with ⟨last, isLast, ends⟩
          refine ⟨attempts, last, [], isLast, tries.timetable within, ⟨Nat.zero_le _, nofun, nofun⟩,
            ?_, ?_, logged⟩
          · rw [List.append_nil, isLast, ← ends]
            rfl
          · rw [tries.total]
            exact (Int.add_zero _).symm
      | @fallback first second failure turn finish other answer within failed regular configured
          different withinFallback tries =>
          rcases failed.getLast? with ⟨last, isLast, rfl⟩
          rcases tries.getLast? with ⟨final, isFinal, ends⟩
          have failedLast := failed.failed last (List.mem_of_getLast? isLast)
          refine ⟨first, last, second, isLast, failed.timetable within,
            tries.timetable withinFallback, ?_, ?_, ?_⟩
          · rw [List.getLast?_append, isFinal, ← ends]
            rfl
          · rw [tries.total, failed.total]
          · cases second with
            | nil => cases isFinal
            | cons earliest others =>
                rcases failedLast with ⟨failure, outcome⟩
                rw [← List.append_assoc] at logged
                exact ⟨other, failure, configured, different, outcome, logged⟩

def slowlyRefusing (name : String) (status : UInt16) (latency : Nat) : Backend Unit where
  name := name
  models := []
  chat _ _ := do
    ExceptT.lift (Task.delay latency)
    throw (.refused name status "")
  chatStream _ _ := throw (.refused name status "")
  embed _ _ := throw (.refused name status "")

def slowGateway : Gateway Unit where
  backends := [slowlyRefusing "first" 503 700000, slowlyRefusing "second" 400 50000]
  defaultBackend := "first"
  fallbackBackend := some "second"
  fallbackModel := none
  defaultModel := none
  retry := ⟨2, ⟨0, 300000, by decide⟩⟩

/-- Three attempts with waits of 300 and of 1200 microseconds, then one on the fallback. -/
theorem chat_keeps_timetable_slow :
    let context : RequestContext := ⟨.ofNat 1, none, some (.ofMilliseconds 4)⟩
    let request := ChatRequest.of "large" []
    let (_, moment, after) := Task.run (slowGateway.recorded.chat context request).run 0 ⟨(), []⟩
    context.interruption? moment = none ∧ moment.nanoseconds = 3650000 ∧
      (after.events.filterMap fun event =>
          match event with
          | .asked start name _ => some (start.nanoseconds, name)
          | .replied .. => none) =
        [(0, "first"), (1000000, "first"), (2900000, "first"), (3600000, "second")] ∧
      ∃ first last second,
        first.getLast? = some last ∧ Timetable slowGateway.retry 0 first ∧
        Timetable slowGateway.retry last.finish second ∧
        3650000 = slowGateway.retry.duration first + slowGateway.retry.duration second := by
  intro context request
  have ended :
      (Task.run (slowGateway.recorded.chat context request).run 0 ⟨(), []⟩).2.1 = 7300000 := by
    decide +kernel
  have calls : ((Task.run (slowGateway.recorded.chat context request).run 0
      ⟨(), []⟩).2.2.events.filterMap fun event =>
        match event with
        | .asked start name _ => some (start.nanoseconds, name)
        | .replied .. => none) =
      [(0, "first"), (1000000, "first"), (2900000, "first"), (3600000, "second")] := by
    decide +kernel
  rcases ran : Task.run (slowGateway.recorded.chat context request).run 0 ⟨(), []⟩ with
    ⟨answer, moment, after⟩
  rw [ran] at ended calls
  change moment = 7300000 at ended
  subst ended
  have calm : context.interruption? 7300000 = none := by decide
  rcases chat_keeps_timetable slowGateway context request ran calm with
    ⟨first, last, second, isLast, timetable, fallback, _, total, _⟩
  refine ⟨calm, by decide, calls, first, last, second, isLast, timetable, fallback, ?_⟩
  rw [show Moment.nanoseconds 7300000 = 3650000 by decide,
    show Moment.nanoseconds 0 = 0 from rfl] at total
  omega

end Gateway

end GroundedAnswers
