import GroundedAnswers.Proofs.Gateway.Course

namespace GroundedAnswers

/-! What a chat is charged for: the attempt that answered it, at the price of the model that this
attempt asked for. -/

namespace Gateway

def OnlyFailures (events : List BackendEvent) : Prop :=
  ∀ moment name reply, .replied moment name reply ∈ events →
    ∃ asked failure, reply = .chat asked (.error failure)

private theorem onlyFailures_log {name : String} {asked : ChatRequest} {attempts : List Attempt}
    (failed : ∀ attempt ∈ attempts, ∃ failure, attempt.outcome = .error failure) :
    OnlyFailures (Attempt.log name asked attempts) := by
  intro moment other reply member
  rcases Attempt.mem_log.mp member with ⟨attempt, among, same | same⟩
  · cases same
  · cases same
    rcases failed attempt among with ⟨failure, outcome⟩
    exact ⟨asked, failure, by rw [outcome]⟩

theorem OnlyFailures.append {left right : List BackendEvent} (first : OnlyFailures left)
    (second : OnlyFailures right) : OnlyFailures (left ++ right) := by
  intro moment name reply member
  rcases List.mem_append.mp member with earlier | later
  · exact first moment name reply earlier
  · exact second moment name reply later

end Gateway

/-- Attempts that end with a response fail up to the last one, whose response it is. -/
theorem Tries.answered {policy : RetryPolicy} {name : String} {asked : ChatRequest} {number : Nat}
    {start finish : Moment} {attempts : List Attempt} {response : ChatResponse}
    (tries : Tries policy name asked number start attempts (.ok response) finish) :
    ∃ earlier begun original, Gateway.OnlyFailures earlier ∧
      Attempt.log name asked attempts = earlier ++ [.asked begun name (.chat asked),
        .replied finish name (.chat asked (.ok original))] ∧
      Gateway.HandsOut name asked (begun.millisecondsUntil finish) original response := by
  rcases tries.split with ⟨earlier, ⟨begun, _, outcome⟩, rfl, failed, rfl, conveyed⟩
  cases conveyed with
  | response original =>
      exact ⟨_, begun, original, Gateway.onlyFailures_log failed, Attempt.log_append _ _ _ _,
        Gateway.completed_handsOut _ _ _ _⟩

namespace Gateway

private theorem HandsOut.model_eq_priced {name : String} {sent : ChatRequest} {latency : UInt64}
    {original response : ChatResponse} (handed : HandsOut name sent latency original response) :
    response.model = if original.model = "" then
      (if sent.model = "" then original.model else sent.model) else original.model := by
  rw [handed.model]
  by_cases unnamed : original.model = ""
  · by_cases unasked : sent.model = ""
    · simp only [unnamed, unasked, if_true]
    · simp only [unnamed, unasked, if_true, if_false]
  · simp only [unnamed, if_false]

/-- A chat that succeeds is charged for the call that answered it, the last one, and for no other.
The price is that of the model in the request of this call, or where that names none, of the model
that answered. -/
theorem chat_bills_answer (gateway : Gateway σ) (context : RequestContext) (request : ChatRequest)
    {now moment : Moment} {before after : Recorded σ} {response : ChatResponse}
    (ran : Task.run (gateway.recorded.chat context request).run now before =
      (.ok response, moment, after)) :
    let name := request.backend.getD gateway.defaultBackend
    let model := if request.model = "" then gateway.defaultModel.getD "" else request.model
    ∃ earlier start answering sent original,
      after.events = before.events ++ earlier ++ [.asked start answering (.chat sent),
        .replied moment answering (.chat sent (.ok original))] ∧
      (∀ moment name reply, .replied moment name reply ∈ earlier →
        ∃ asked failure, reply = .chat asked (.error failure)) ∧
      ((answering = name ∧ sent = { request with model }) ∨
        (gateway.fallbackBackend = some answering ∧ answering ≠ name ∧
          sent = { request with
            backend := some answering
            model := gateway.fallbackModel.getD model })) ∧
      let priced := if sent.model = "" then original.model else sent.model
      response.cost =
        estimateCost priced original.usage.inputTokens original.usage.outputTokens ∧
      response.usage = original.usage ∧
      response.backend = (if original.backend = "" then answering else original.backend) ∧
      response.model = (if original.model = "" then priced else original.model) := by
  intro name model
  rcases exists_course_of_response ran with ⟨events, logged, course⟩
  rw [ChatRequest.withDefaultModel_eq] at course
  cases course with
  | selected within tries =>
      rcases tries.answered with ⟨earlier, start, original, failed, log, handed⟩
      rw [log, ← List.append_assoc] at logged
      exact ⟨earlier, start, name, { request with model }, original, logged, failed,
        .inl ⟨rfl, rfl⟩, handed.cost, handed.usage, handed.backend, handed.model_eq_priced⟩
  | @fallback first second failure turn finish other answer within tried regular configured
      different withinFallback tries =>
      rcases tries.answered with ⟨earlier, start, original, failed, log, handed⟩
      have failedFirst : OnlyFailures (Attempt.log name { request with model } first) :=
        onlyFailures_log tried.failed
      rw [log, ← List.append_assoc, ← List.append_assoc, List.append_assoc before.events] at logged
      exact ⟨_, start, other, _, original, logged, failedFirst.append failed,
        .inr ⟨configured, different, rfl⟩, handed.cost, handed.usage, handed.backend,
        handed.model_eq_priced⟩

def answering (name : String) (response : ChatResponse) : Backend Unit where
  name := name
  models := []
  chat _ _ := pure response
  chatStream _ _ := throw (.unsupported name "streams")
  embed _ _ := throw (.unsupported name "embeddings")

def datedAnswer : ChatResponse where
  id := none
  backend := ""
  model := "gpt-4o-2024-08-06"
  content := "yes"
  usage := ⟨1000, 500, 1500⟩
  cost := 99.0
  latencyMilliseconds := 0

def billedGateway : Gateway Unit where
  backends := [refusing "first" 503, answering "second" datedAnswer]
  defaultBackend := "first"
  fallbackBackend := some "second"
  fallbackModel := some "gpt-4o"
  defaultModel := some "gpt-4"
  retry := ⟨1, .ofMilliseconds 500⟩

/-- Who answered a call and which model it had asked for, and what the answer says of its origin and
usage. -/
def answered? : BackendEvent → Option (String × String × String × String × Usage)
  | .replied _ name (.chat sent (.ok original)) =>
      some (name, sent.model, original.backend, original.model, original.usage)
  | _ => none

/-- After two failures at the default model, the fallback is charged for at its own. -/
theorem chat_bills_answer_fallback :
    let context := RequestContext.ofTenant (.ofNat 1)
    let (answer, _, after) :=
      Task.run (billedGateway.recorded.chat context (.of "" [])).run 0 ⟨(), []⟩
    (BackendEvent.questions after.events).map Prod.fst = ["first", "first", "second"] ∧
      ∃ response, answer = .ok response ∧ response.cost = estimateCost "gpt-4o" 1000 500 ∧
        response.backend = "second" ∧ response.model = "gpt-4o-2024-08-06" := by
  intro context
  have succeeded : (Task.run (billedGateway.recorded.chat context (.of "" [])).run 0
      ⟨(), []⟩).1.isOk := by
    decide +kernel
  have asked : (BackendEvent.questions (Task.run (billedGateway.recorded.chat context
      (.of "" [])).run 0 ⟨(), []⟩).2.2.events).map Prod.fst = ["first", "first", "second"] := by
    decide +kernel
  have answered : (Task.run (billedGateway.recorded.chat context (.of "" [])).run 0
      ⟨(), []⟩).2.2.events.filterMap answered? =
        [("second", "gpt-4o", "", "gpt-4o-2024-08-06", ⟨1000, 500, 1500⟩)] := by
    decide +kernel
  rcases ran : Task.run (billedGateway.recorded.chat context (.of "" [])).run 0 ⟨(), []⟩ with
    ⟨answer, moment, after⟩
  rw [ran] at succeeded asked answered
  cases answer with
  | error failure => cases succeeded
  | ok response =>
      rcases chat_bills_answer billedGateway context (.of "" []) ran with
        ⟨earlier, start, name, sent, original, logged, _, _, cost, _, backend, model⟩
      rw [logged, List.filterMap_append] at answered
      have final : (name, sent.model, original.backend, original.model, original.usage) =
          ("second", "gpt-4o", "", "gpt-4o-2024-08-06", (⟨1000, 500, 1500⟩ : Usage)) := by
        simpa [answered?, List.findSome?_cons] using congrArg List.getLast? answered
      simp only [Prod.mk.injEq] at final
      rcases final with ⟨named, sentModel, noBackend, originalModel, usage⟩
      rw [sentModel, usage] at cost
      rw [noBackend, named] at backend
      rw [originalModel] at model
      exact ⟨asked, response, rfl, cost, backend, model⟩

end Gateway

end GroundedAnswers
