import GroundedAnswers.Proofs.Gateway.Recording

namespace GroundedAnswers

/-! How a chat goes on from what its calls come to, and from what its attempts on one backend do. -/

theorem ChatRequest.withDefaultModel_eq (request : ChatRequest) (model : Option String) :
    request.withDefaultModel model =
      { request with model := if request.model = "" then model.getD "" else request.model } := by
  rcases request with ⟨backend, asked, messages, temperature, maxTokens, topP, stop⟩
  by_cases empty : asked = ""
  · subst empty
    cases model <;> rfl
  · cases model with
    | none => simp only [withDefaultModel, empty, if_false]
    | some model => simp only [withDefaultModel, empty, if_false]

namespace Gateway

/-! ## Responses -/

/-- What a gateway hands out when a backend answers a request: the answer, with its gaps filled, at
the price of the model that was asked for, and with the time that it took. -/
structure HandsOut (name : String) (sent : ChatRequest) (latency : UInt64)
    (original response : ChatResponse) : Prop where
  id : response.id = original.id
  content : response.content = original.content
  usage : response.usage = original.usage
  backend : response.backend = if original.backend = "" then name else original.backend
  model : response.model = if original.model = "" then sent.model else original.model
  cost : response.cost = estimateCost (if sent.model = "" then original.model else sent.model)
    original.usage.inputTokens original.usage.outputTokens
  latency : response.latencyMilliseconds = latency

theorem completed_handsOut (name : String) (sent : ChatRequest) (latency : UInt64)
    (original : ChatResponse) :
    HandsOut name sent latency original (completed name sent latency original) where
  id := rfl
  content := rfl
  usage := rfl
  backend := rfl
  model := rfl
  cost := by
    unfold completed
    by_cases unasked : sent.model = ""
    · by_cases unnamed : original.model = ""
      · simp only [unasked, unnamed, if_true]
      · simp only [unasked, unnamed, if_true, if_false]
    · simp only [unasked, if_false]
  latency := rfl

/-! ## Backends by name -/

theorem backend_eq_ok_iff (gateway : Gateway σ) (name : String) (backend : Backend σ) :
    gateway.backend name = .ok backend ↔ find? gateway.backends name = some backend := by
  unfold Gateway.backend
  split <;> simp_all

theorem backend_recorded {gateway : Gateway σ} {name : String} {backend : Backend σ}
    (registered : gateway.backend name = .ok backend) :
    gateway.recorded.backend name = .ok backend.recorded := by
  rw [backend_eq_ok_iff] at registered ⊢
  rw [find?_recorded, registered]
  rfl

theorem backend_recorded_of_error {gateway : Gateway σ} {name : String} {failure : ModelFailure}
    (unregistered : gateway.backend name = .error failure) :
    gateway.recorded.backend name = .error failure ∧ failure.isInterruption = false := by
  unfold Gateway.backend at unregistered ⊢
  rw [find?_recorded]
  cases found : find? gateway.backends name with
  | none =>
      rw [found] at unregistered
      cases unregistered
      exact ⟨rfl, rfl⟩
  | some backend =>
      rw [found] at unregistered
      cases unregistered

theorem fallbackFor?_recorded (gateway : Gateway σ) (name : String) :
    gateway.recorded.fallbackFor? name =
      (gateway.fallbackBackend.filter (· ≠ name)).bind fun other =>
        (find? gateway.backends other).map Backend.recorded := by
  unfold fallbackFor?
  cases configured : gateway.fallbackBackend with
  | none => simp [recorded, mapBackends, configured]
  | some other =>
      have configured' : gateway.recorded.fallbackBackend = some other := configured
      by_cases same : other = name
      · simp [configured', same, Option.filter]
      · simp [configured', same, Option.filter, find?_recorded]

theorem of_fallbackFor?_recorded {gateway : Gateway σ} {name : String} {fallback : Backend (Recorded σ)}
    (alternative : gateway.recorded.fallbackFor? name = some fallback) :
    ∃ other backend, gateway.fallbackBackend = some other ∧ other ≠ name ∧ backend.name = other ∧
      fallback = Backend.recorded backend := by
  rw [fallbackFor?_recorded] at alternative
  rcases Option.bind_eq_some_iff.mp alternative with ⟨other, configured, found⟩
  rcases Option.map_eq_some_iff.mp found with ⟨backend, registered, same⟩
  rcases Option.filter_eq_some_iff.mp configured with ⟨isFallback, different⟩
  exact ⟨other, backend, isFallback, by simpa using different, name_of_find? registered, same.symm⟩

/-! ## Calls and chats -/

section Running

variable {gateway : Gateway σ} {context : RequestContext} {selected : Backend σ}
  {request : ChatRequest} {now moment : Moment} {state after : σ}

theorem run_ask {outcome : Except ModelFailure ChatResponse}
    (called : Task.run (context.guard (selected.chat context request)).run now state =
      (outcome, moment, after)) :
    Task.run (ask context selected request).run now state =
      (outcome.map (completed selected.name request (now.millisecondsUntil moment)), moment,
        after) := by
  have clock : Task.run (ExceptT.lift Task.now : ModelTask σ Moment).run now state =
      (.ok now, now, state) := rfl
  unfold ask
  rw [Task.run_bind_of_ok clock]
  cases outcome with
  | error failure => exact Task.run_bind_of_error called _
  | ok response => exact Task.run_bind_of_ok called _

theorem run_ask_of_error {failure : ModelFailure}
    (called : Task.run (context.guard (selected.chat context request)).run now state =
      (.error failure, moment, after)) :
    Task.run (ask context selected request).run now state = (.error failure, moment, after) :=
  run_ask called

theorem backend_withDefaultModel (request : ChatRequest) (model : Option String) :
    (request.withDefaultModel model).backend = request.backend := by
  unfold ChatRequest.withDefaultModel
  split
  · split <;> rfl
  · rfl

theorem look_up_finished {found : Except ModelFailure (Backend σ)}
    (looked : gateway.backend (request.backend.getD gateway.defaultBackend) = found) :
    chat.liftExcept (gateway.backend
      ((request.withDefaultModel gateway.defaultModel).backend.getD gateway.defaultBackend)) now
        state = .finished found state := by
  rw [backend_withDefaultModel, looked]
  rfl

theorem run_chat_of_unregistered {failure : ModelFailure}
    (unregistered : gateway.backend (request.backend.getD gateway.defaultBackend) =
      .error failure) :
    Task.run (gateway.chat context request).run now state = (.error failure, now, state) := by
  unfold chat
  exact Task.run_bind_of_error (congrArg (Progress.run now) (look_up_finished unregistered)) _

variable
  (registered : gateway.backend (request.backend.getD gateway.defaultBackend) = .ok selected)

include registered

private theorem run_selected :
    Task.run (chat.liftExcept (gateway.backend
      ((request.withDefaultModel gateway.defaultModel).backend.getD gateway.defaultBackend))).run
        now state = (.ok selected, now, state) :=
  congrArg (Progress.run now) (look_up_finished registered)

theorem run_chat_of_ok {response : ChatResponse}
    (succeeded : Task.run (gateway.chatWithRetries context selected
      (request.withDefaultModel gateway.defaultModel)).run now state =
        (.ok response, moment, after)) :
    Task.run (gateway.chat context request).run now state = (.ok response, moment, after) := by
  unfold chat
  rw [Task.run_bind_of_ok (run_selected registered), Task.run_bind_lift succeeded]
  rfl

variable {failure : ModelFailure}
  (failed : Task.run (gateway.chatWithRetries context selected
    (request.withDefaultModel gateway.defaultModel)).run now state =
      (.error failure, moment, after))

include failed

theorem run_chat_of_error
    (alone : gateway.fallbackFor? (request.backend.getD gateway.defaultBackend) = none) :
    Task.run (gateway.chat context request).run now state = (.error failure, moment, after) := by
  unfold chat
  rw [Task.run_bind_of_ok (run_selected registered), Task.run_bind_lift failed]
  simp only [backend_withDefaultModel, alone]
  split <;> rfl

theorem run_chat_of_interruption (interruption : failure.isInterruption) :
    Task.run (gateway.chat context request).run now state = (.error failure, moment, after) := by
  unfold chat
  rw [Task.run_bind_of_ok (run_selected registered), Task.run_bind_lift failed]
  simp only [interruption, if_true]
  rfl

theorem run_chat_of_fallback (regular : failure.isInterruption = false) {fallback : Backend σ}
    (alternative :
      gateway.fallbackFor? (request.backend.getD gateway.defaultBackend) = some fallback) :
    Task.run (gateway.chat context request).run now state =
      Task.run (gateway.chatWithRetries context fallback (gateway.fallbackRequest fallback.name
        (request.withDefaultModel gateway.defaultModel))).run moment after := by
  unfold chat
  rw [Task.run_bind_of_ok (run_selected registered), Task.run_bind_lift failed]
  simp only [regular, Bool.false_eq_true, if_false, backend_withDefaultModel, alternative]

end Running

/-! ## Backends that refuse -/

def refusing (name : String) (status : UInt16) : Backend Unit where
  name := name
  models := []
  chat _ _ := throw (.refused name status "")
  chatStream _ _ := throw (.refused name status "")
  embed _ _ := throw (.refused name status "")

def refusingGateway : Gateway Unit where
  backends := [refusing "first" 503, refusing "second" 400]
  defaultBackend := "first"
  fallbackBackend := some "second"
  fallbackModel := none
  defaultModel := none
  retry := ⟨2, .ofMilliseconds 500⟩

end Gateway

end GroundedAnswers
