import GroundedAnswers.Service.Http
import GroundedAnswers.Stream.ServerSent

namespace GroundedAnswers.OpenAi

/-! The OpenAI interface for chat and embeddings, which other services offer too. -/

def name : String := "openai"

def defaultBase : String := "https://api.openai.com/v1"

def defaultEmbeddingModel : String := "text-embedding-3-small"

def models : List String :=
  ["gpt-4", "gpt-4-turbo", "gpt-4o", "gpt-4o-mini", "gpt-3.5-turbo", "text-embedding-3-small",
    "text-embedding-3-large", "text-embedding-ada-002"]

def chatBody (request : ChatRequest) (streamed : Bool) : Json :=
  .ofMembers [("model", some (.string request.model)),
    ("messages", some (.array (request.messages.map Message.toJson))),
    ("temperature", request.temperature.map .ofFloat32),
    ("max_tokens", request.maxTokens.map fun tokens => .ofNat tokens.toNat),
    ("top_p", request.topP.map .ofFloat32),
    ("stop", if request.stop.isEmpty then none else some (.ofStrings request.stop)),
    ("stream", some (.bool streamed)),
    ("stream_options",
      if streamed then some (.object [("include_usage", .bool true)]) else none)]

def usageOf? (json : Json) : Option Usage := do
  match ← json.slots? ["prompt_tokens", "completion_tokens"] with
  | [prompt, completion] =>
      return .of (← prompt.withDefault 0 Json.uint32?) (← completion.withDefault 0 Json.uint32?)
  | _ => none

structure Choice where
  message : Option String
  delta : Option String

def contentOf? (json : Json) : Option (Option String) := do
  match ← json.slots? ["content"] with
  | [content] => content.optional Json.string?
  | _ => none

def choiceOf? (json : Json) : Option Choice := do
  match ← json.slots? ["message", "delta"] with
  | [message, delta] =>
      return ⟨(← message.optional contentOf?).join, (← delta.optional contentOf?).join⟩
  | _ => none

structure Completion where
  id : Option String
  model : String
  choices : List Choice
  usage : Option Usage

def completionOf? (json : Json) : Option Completion := do
  match ← json.slots? ["id", "model", "choices", "usage"] with
  | [id, model, choices, usage] =>
      return ⟨← id.optional Json.string?, ← model.withDefault "" Json.string?,
        ← choices.withDefault [] (Json.list? choiceOf?), ← usage.optional usageOf?⟩
  | _ => none

/-- The frame in the data of one event. Only the first choice counts. -/
def frame (data : String) : Frame :=
  if data = "[DONE]" then .done
  else
    match (Json.read? data).bind completionOf? with
    | none => .failure s!"{name} stream chunk could not be parsed: {Http.notAsExpected}"
    | some chunk =>
        match ((chunk.choices.head?.bind Choice.delta).getD ""), chunk.usage with
        | "", none => .skip
        | "", some usage => .usage usage
        | text, none => .delta text
        | text, some usage => .deltaWithUsage text usage

def embeddingOf? (json : Json) : Option (UInt64 × Vector32) := do
  match ← json.slots? ["index", "embedding"] with
  | [index, embedding] =>
      return (← index.withDefault 0 Json.uint64?, ← embedding.required (Json.list? Json.float32?))
  | _ => none

def embeddingsOf? (json : Json) : Option (List Vector32 × UInt32) := do
  match ← json.slots? ["data", "usage"] with
  | [data, usage] =>
      let rows ← data.required (Json.list? embeddingOf?)
      let counts ← usage.optional usageOf?
      return ((rows.mergeSort (·.1 ≤ ·.1)).map (·.2), (counts.map Usage.inputTokens).getD 0)
  | _ => none

def endpoint (key : String) (base : Option String) (timeoutMilliseconds : Nat)
    (transport : Transport σ) : Endpoint σ where
  service := name
  base := Endpoint.withoutSlashes (base.getD defaultBase)
  headers := [("authorization", "Bearer " ++ key)]
  timeoutMilliseconds := timeoutMilliseconds
  transport := transport

def backend (endpoint : Endpoint σ) : Backend σ where
  name := name
  models := models
  chat _ request := do
    let completion ← endpoint.ask "/chat/completions" (chatBody request false) completionOf?
    return {
      id := completion.id
      backend := name
      model := if completion.model = "" then request.model else completion.model
      content := (completion.choices.head?.bind Choice.message).getD ""
      usage := completion.usage.getD .zero
      cost := 0.0
      latencyMilliseconds := 0 }
  chatStream context request := do
    let body ← endpoint.post "/chat/completions" (chatBody request true)
    return ServerSent.stream context frame body
  embed _ request := do
    let model := if request.model = "" then defaultEmbeddingModel else request.model
    let body := Json.object [("model", .string model), ("input", .ofStrings request.inputs)]
    let (embeddings, tokens) ← endpoint.ask "/embeddings" body embeddingsOf?
    return ⟨name, model, embeddings, tokens, 0.0⟩

end GroundedAnswers.OpenAi
