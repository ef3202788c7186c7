import GroundedAnswers.Service.Http
import GroundedAnswers.Stream.ServerSent

namespace GroundedAnswers.Anthropic

/-! The Anthropic messages interface. System messages are one text beside the conversation, and
there are no embeddings. -/

def name : String := "anthropic"

def base : String := "https://api.anthropic.com"

def version : String := "2023-06-01"

def defaultMaxTokens : UInt32 := 4096

def models : List String :=
  ["claude-3-opus-20240229", "claude-3-sonnet-20240229", "claude-3-haiku-20240307",
    "claude-sonnet-4-20250514", "claude-opus-4-20250514"]

def chatBody (request : ChatRequest) (streamed : Bool) : Json :=
  let system := request.messages.filter fun message => message.role = .system
  let others := request.messages.filter fun message => message.role ≠ .system
  let maxTokens :=
    match request.maxTokens with
    | some tokens => if tokens = 0 then defaultMaxTokens else tokens
    | none => defaultMaxTokens
  .ofMembers [("model", some (.string request.model)),
    ("max_tokens", some (.ofNat maxTokens.toNat)),
    ("messages", some (.array (others.map Message.toJson))),
    ("system",
      if system.isEmpty then none
      else some (.string ("\n\n".intercalate (system.map Message.content)))),
    ("temperature", request.temperature.map .ofFloat32),
    ("top_p", request.topP.map .ofFloat32),
    ("stop_sequences", if request.stop.isEmpty then none else some (.ofStrings request.stop)),
    ("stream", if streamed then some (.bool true) else none)]

def usageOf? (json : Json) : Option Usage := do
  match ← json.slots? ["input_tokens", "output_tokens"] with
  | [input, output] =>
      return .of (← input.withDefault 0 Json.uint32?) (← output.withDefault 0 Json.uint32?)
  | _ => none

structure ContentBlock where
  kind : String
  text : String

def contentBlockOf? (json : Json) : Option ContentBlock := do
  match ← json.slots? ["type", "text"] with
  | [kind, text] => return ⟨← kind.required Json.string?, ← text.withDefault "" Json.string?⟩
  | _ => none

structure Reply where
  id : Option String
  model : String
  content : List ContentBlock
  usage : Usage

def replyOf? (json : Json) : Option Reply := do
  match ← json.slots? ["id", "model", "content", "usage"] with
  | [id, model, content, usage] =>
      return ⟨← id.optional Json.string?, ← model.withDefault "" Json.string?,
        ← content.withDefault [] (Json.list? contentBlockOf?), ← usage.withDefault .zero usageOf?⟩
  | _ => none

/-- The text of a reply. Blocks of other kinds than text are left out. -/
def Reply.text (reply : Reply) : String :=
  String.join ((reply.content.filter (·.kind = "text")).map ContentBlock.text)

/-! ## Streams -/

structure EventPayload where
  kind : String
  message : Option Usage
  delta : Option ContentBlock
  usage : Option Usage
  fault : Option String

def messageUsageOf? (json : Json) : Option Usage := do
  match ← json.slots? ["usage"] with
  | [usage] => usage.withDefault .zero usageOf?
  | _ => none

def deltaOf? (json : Json) : Option ContentBlock := do
  match ← json.slots? ["type", "text"] with
  | [kind, text] =>
      return ⟨← kind.withDefault "" Json.string?, ← text.withDefault "" Json.string?⟩
  | _ => none

def faultOf? (json : Json) : Option String := do
  match ← json.slots? ["message"] with
  | [message] => message.withDefault "" Json.string?
  | _ => none

def eventPayloadOf? (json : Json) : Option EventPayload := do
  match ← json.slots? ["type", "message", "delta", "usage", "error"] with
  | [kind, message, delta, usage, fault] =>
      return ⟨← kind.required Json.string?, ← message.optional messageUsageOf?,
        ← delta.optional deltaOf?, ← usage.optional usageOf?, ← fault.optional faultOf?⟩
  | _ => none

def EventPayload.frame (payload : EventPayload) : Frame :=
  match payload.kind with
  | "message_start" => (payload.message.map Frame.usage).getD .skip
  | "content_block_delta" =>
      match payload.delta with
      | some delta =>
          if delta.kind = "text_delta" ∧ delta.text ≠ "" then .delta delta.text else .skip
      | none => .skip
  | "message_delta" => (payload.usage.map Frame.usage).getD .skip
  | "message_stop" => .done
  | "error" => .failure (payload.fault.getD "stream error")
  | _ => .skip

def frame (data : String) : Frame :=
  match (Json.read? data).bind eventPayloadOf? with
  | none => .failure s!"{name} stream event could not be parsed: {Http.notAsExpected}"
  | some payload => payload.frame

def endpoint (key : String) (timeoutMilliseconds : Nat) (transport : Transport σ) :
    Endpoint σ where
  service := name
  base := base
  headers := [("x-api-key", key), ("anthropic-version", version)]
  timeoutMilliseconds := timeoutMilliseconds
  transport := transport

def backend (endpoint : Endpoint σ) : Backend σ where
  name := name
  models := models
  chat _ request := do
    let reply ← endpoint.ask "/v1/messages" (chatBody request false) replyOf?
    return {
      id := reply.id
      backend := name
      model := if reply.model = "" then request.model else reply.model
      content := reply.text
      usage := reply.usage
      cost := 0.0
      latencyMilliseconds := 0 }
  chatStream context request := do
    let body ← endpoint.post "/v1/messages" (chatBody request true)
    return ServerSent.stream context frame body
  embed _ _ := throw (.unsupported name "embeddings")

end GroundedAnswers.Anthropic
