import GroundedAnswers.Gateway.Draft
import GroundedAnswers.Number.Numeral
import GroundedAnswers.Service.Anthropic
import GroundedAnswers.Service.Ollama
import GroundedAnswers.Service.OpenAi
import GroundedAnswers.Text.Blank

namespace GroundedAnswers

/-! Settings of a gateway over the known services. A service takes part when its key, or its
address, is set. -/

structure GatewaySettings where
  openAiKey : Option String := none
  openAiBase : Option String := none
  anthropicKey : Option String := none
  ollamaAddress : Option String := none
  defaultBackend : String := "openai"
  defaultModel : String := "gpt-4o-mini"
  fallbackBackend : Option String := none
  fallbackModel : Option String := none
  maxRetries : UInt32 := 3
  baseDelayMilliseconds : UInt64 := 500
  timeoutSeconds : UInt64 := 300
  deriving DecidableEq, Repr, Inhabited

namespace GatewaySettings

def toJson (settings : GatewaySettings) : Json :=
  .object [("openai_api_key", .ofOption .string settings.openAiKey),
    ("openai_base_url", .ofOption .string settings.openAiBase),
    ("anthropic_api_key", .ofOption .string settings.anthropicKey),
    ("ollama_url", .ofOption .string settings.ollamaAddress),
    ("default_backend", .string settings.defaultBackend),
    ("default_model", .string settings.defaultModel),
    ("fallback_backend", .ofOption .string settings.fallbackBackend),
    ("fallback_model", .ofOption .string settings.fallbackModel),
    ("max_retries", .ofNat settings.maxRetries.toNat),
    ("retry_base_delay_ms", .ofNat settings.baseDelayMilliseconds.toNat),
    ("request_timeout_secs", .ofNat settings.timeoutSeconds.toNat)]

def ofJson? (json : Json) : Option GatewaySettings := do
  let standard : GatewaySettings := {}
  let names := ["openai_api_key", "openai_base_url", "anthropic_api_key", "ollama_url",
    "default_backend", "default_model", "fallback_backend", "fallback_model", "max_retries",
    "retry_base_delay_ms", "request_timeout_secs"]
  match ← json.slots? names with
  | [openAiKey, openAiBase, anthropicKey, ollamaAddress, defaultBackend, defaultModel,
      fallbackBackend, fallbackModel, maxRetries, baseDelay, timeout] =>
      return {
        openAiKey := ← openAiKey.optionalWithDefault Json.string?
        openAiBase := ← openAiBase.optionalWithDefault Json.string?
        anthropicKey := ← anthropicKey.optionalWithDefault Json.string?
        ollamaAddress := ← ollamaAddress.optionalWithDefault Json.string?
        defaultBackend := ← defaultBackend.withDefault standard.defaultBackend Json.string?
        defaultModel := ← defaultModel.withDefault standard.defaultModel Json.string?
        fallbackBackend := ← fallbackBackend.optionalWithDefault Json.string?
        fallbackModel := ← fallbackModel.optionalWithDefault Json.string?
        maxRetries := ← maxRetries.withDefault standard.maxRetries Json.uint32?
        baseDelayMilliseconds :=
          ← baseDelay.withDefault standard.baseDelayMilliseconds Json.uint64?
        timeoutSeconds := ← timeout.withDefault standard.timeoutSeconds Json.uint64? }
  | _ => none

/-- The value of a variable. A blank value counts as none. -/
def valueOf? (environment : List (String × String)) (name : String) : Option String :=
  (environment.lookup name).filter fun value => !Text.isBlankText value

def readRetries (text : String) : Except ModelFailure UInt32 :=
  match Number.readWhole 0 (UInt32.size - 1) (Text.trim text) with
  | .ok value => .ok value.toNat.toUInt32
  | .error fault =>
      .error (.configuration s!"invalid LLM_MAX_RETRIES '{text}': {fault.message}")

def ofEnvironment (environment : List (String × String)) : Except ModelFailure GatewaySettings := do
  let standard : GatewaySettings := {}
  let value? := valueOf? environment
  let maxRetries ←
    match value? "LLM_MAX_RETRIES" with
    | some text => readRetries text
    | none => pure standard.maxRetries
  return { standard with
    openAiKey := value? "OPENAI_API_KEY"
    openAiBase := value? "OPENAI_BASE_URL"
    anthropicKey := value? "ANTHROPIC_API_KEY"
    ollamaAddress := value? "OLLAMA_URL"
    defaultBackend := (value? "LLM_DEFAULT_PROVIDER").getD standard.defaultBackend
    defaultModel := (value? "LLM_DEFAULT_MODEL").getD standard.defaultModel
    fallbackBackend := value? "LLM_FALLBACK_PROVIDER"
    fallbackModel := value? "LLM_FALLBACK_MODEL"
    maxRetries := maxRetries }

def checked (settings : GatewaySettings) : Except ModelFailure GatewaySettings :=
  if Text.isBlankText settings.defaultBackend then
    .error (.configuration "default_backend must not be empty")
  else if settings.timeoutSeconds = 0 then
    .error (.configuration "request_timeout_secs must be greater than zero")
  else .ok settings

def retryPolicy (settings : GatewaySettings) : RetryPolicy :=
  ⟨settings.maxRetries, .ofMilliseconds settings.baseDelayMilliseconds⟩

def timeoutMilliseconds (settings : GatewaySettings) : Nat :=
  settings.timeoutSeconds.toNat * 1000

/-- The services that are set, in the order in which they are connected. -/
def services (settings : GatewaySettings) : List (String × (Transport σ → Backend σ)) :=
  let timeout := settings.timeoutMilliseconds
  let openAi := settings.openAiKey.map fun key =>
    (OpenAi.name, fun transport =>
      OpenAi.backend (OpenAi.endpoint key settings.openAiBase timeout transport))
  let anthropic := settings.anthropicKey.map fun key =>
    (Anthropic.name, fun transport =>
      Anthropic.backend (Anthropic.endpoint key timeout transport))
  let ollama := settings.ollamaAddress.map fun address =>
    (Ollama.name, fun transport => Ollama.backend (Ollama.endpoint address timeout transport))
  openAi.toList ++ anthropic.toList ++ ollama.toList

def connect (connection : Except String (Transport σ))
    (service : String × (Transport σ → Backend σ)) : Except ModelFailure (Backend σ) :=
  match connection with
  | .ok transport => .ok (service.2 transport)
  | .error message => .error (.configuration s!"failed to build {service.1} HTTP client: {message}")

def buildGateway (settings : GatewaySettings) (connection : Except String (Transport σ)) :
    Except ModelFailure (Gateway σ) := do
  let backends ← settings.services.mapM (connect connection)
  let draft : GatewayDraft σ :=
    { defaultBackend := some settings.defaultBackend
      defaultModel := some settings.defaultModel
      fallbackBackend := settings.fallbackBackend
      fallbackModel := settings.fallbackModel
      retry := settings.retryPolicy }
  (backends.foldl GatewayDraft.register draft).build

end GatewaySettings

end GroundedAnswers
