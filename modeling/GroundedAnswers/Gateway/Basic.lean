import GroundedAnswers.Backend
import GroundedAnswers.Gateway.Retry
import GroundedAnswers.Model.Info
import GroundedAnswers.Model.Pricing
import GroundedAnswers.Task.FanOut

namespace GroundedAnswers

/-! A gateway sends requests to backends by name. A chat that fails is tried again where another
attempt may succeed, and then goes to the fallback. -/

structure Gateway (σ : Type) where
  /-- The registered backends, one for each name. -/
  backends : List (Backend σ)
  defaultBackend : String
  fallbackBackend : Option String
  fallbackModel : Option String
  defaultModel : Option String
  retry : RetryPolicy

namespace Gateway

def find? (backends : List (Backend σ)) (name : String) : Option (Backend σ) :=
  backends.find? (·.name = name)

def backend (gateway : Gateway σ) (name : String) : Except ModelFailure (Backend σ) :=
  match find? gateway.backends name with
  | some backend => .ok backend
  | none => .error (.notConfigured name)

def models (gateway : Gateway σ) : List ModelInfo :=
  let offered := gateway.backends.flatMap fun backend =>
    backend.models.map fun model => ⟨backend.name, model, .of model⟩
  offered.mergeSort fun left right =>
    left.backend < right.backend ∨ (left.backend = right.backend ∧ left.model ≤ right.model)

/-- The response as the gateway hands it out: without gaps, with the price of the model that was
asked for, and with the time that the answer took. -/
def completed (backend : String) (request : ChatRequest) (latency : UInt64)
    (response : ChatResponse) : ChatResponse :=
  let model := if response.model = "" then request.model else response.model
  let priced := if request.model = "" then model else request.model
  { response with
    backend := if response.backend = "" then backend else response.backend
    model := model
    cost := estimateCost priced response.usage.inputTokens response.usage.outputTokens
    latencyMilliseconds := latency }

def ask (context : RequestContext) (backend : Backend σ) (request : ChatRequest) :
    ModelTask σ ChatResponse := do
  let started ← ExceptT.lift Task.now
  let response ← context.guard (backend.chat context request)
  let latency := started.millisecondsUntil (← ExceptT.lift Task.now)
  return completed backend.name request latency response

/-- Attempt number `attempt` and, while `retries` are left, further ones. The number is reported in
a word of 32 bits. That is too short for it only where a policy allows the greatest number of
retries and all of them fail. -/
def attempts (policy : RetryPolicy) (context : RequestContext) (backend : Backend σ)
    (request : ChatRequest) (attempt retries : Nat) : ModelTask σ ChatResponse := do
  match ← ExceptT.lift (ask context backend request).run with
  | .ok response => return response
  | .error failure =>
      if failure.isInterruption then throw failure
      else
        match retries with
        | 0 => throw (.exhausted backend.name attempt.toUInt32 failure)
        | left + 1 =>
            if failure.isRetryable then
              let delay := policy.backoff attempt.toUInt32
              context.guard (ExceptT.lift (Task.delay delay.nanoseconds))
              attempts policy context backend request (attempt + 1) left
            else throw (.exhausted backend.name attempt.toUInt32 failure)

def chatWithRetries (gateway : Gateway σ) (context : RequestContext) (backend : Backend σ)
    (request : ChatRequest) : ModelTask σ ChatResponse :=
  attempts gateway.retry context backend request 1 gateway.retry.maxRetries.toNat

def fallbackFor? (gateway : Gateway σ) (primary : String) : Option (Backend σ) := do
  let name ← gateway.fallbackBackend
  if name = primary then none else find? gateway.backends name

def fallbackRequest (gateway : Gateway σ) (fallback : String) (request : ChatRequest) :
    ChatRequest :=
  { request with backend := some fallback, model := gateway.fallbackModel.getD request.model }

def chat (gateway : Gateway σ) (context : RequestContext) (request : ChatRequest) :
    ModelTask σ ChatResponse := do
  let request := request.withDefaultModel gateway.defaultModel
  let name := request.backend.getD gateway.defaultBackend
  let primary ← liftExcept (gateway.backend name)
  match ← ExceptT.lift (gateway.chatWithRetries context primary request).run with
  | .ok response => return response
  | .error failure =>
      if failure.isInterruption then throw failure
      else
        match gateway.fallbackFor? name with
        | none => throw failure
        | some fallback =>
            gateway.chatWithRetries context fallback (gateway.fallbackRequest fallback.name request)
where
  liftExcept {α : Type} (outcome : Except ModelFailure α) : ModelTask σ α :=
    ExceptT.mk (pure outcome)

def chatStream (gateway : Gateway σ) (context : RequestContext) (request : ChatRequest) :
    ModelTask σ ChatStream := do
  let request := request.withDefaultModel gateway.defaultModel
  let backend ← ExceptT.mk (pure (gateway.backend (request.backend.getD gateway.defaultBackend)))
  context.guard (backend.chatStream context request)

def embed (gateway : Gateway σ) (context : RequestContext) (request : EmbeddingRequest) :
    ModelTask σ EmbeddingResponse := do
  let backend ← ExceptT.mk (pure (gateway.backend (request.backend.getD gateway.defaultBackend)))
  let response ← context.guard (backend.embed context request)
  return { response with cost := estimateCost response.model response.tokens 0 }

/-- Several chats side by side. Answers stand in the order of the requests. -/
def chatMany (gateway : Gateway σ) (context : RequestContext) (requests : List ChatRequest)
    (concurrency : Nat) : Task σ (List (Except ModelFailure ChatResponse)) :=
  Task.buffered concurrency (requests.map fun request => (gateway.chat context request).run)

end Gateway

end GroundedAnswers
