import GroundedAnswers.Chat.Message

namespace GroundedAnswers

/-! A request for a chat completion. Without a backend it goes to the default one, and an empty
model leaves the choice to whoever answers it. -/

structure ChatRequest where
  backend : Option String
  model : String
  messages : List Message
  temperature : Option Float32
  maxTokens : Option UInt32
  topP : Option Float32
  stop : List String

namespace ChatRequest

def of (model : String) (messages : List Message) : ChatRequest :=
  ⟨none, model, messages, none, none, none, []⟩

def withTemperature (request : ChatRequest) (temperature : Float32) : ChatRequest :=
  { request with temperature := some temperature }

def withDefaultModel (request : ChatRequest) : Option String → ChatRequest
  | some model => if request.model = "" then { request with model } else request
  | none => request

def toJson (request : ChatRequest) : Json :=
  .ofMembers [("backend", request.backend.map .string),
    ("model", some (.string request.model)),
    ("messages", some (.array (request.messages.map Message.toJson))),
    ("temperature", request.temperature.map .ofFloat32),
    ("max_tokens", request.maxTokens.map fun tokens => .ofNat tokens.toNat),
    ("top_p", request.topP.map .ofFloat32),
    ("stop", if request.stop.isEmpty then none else some (.ofStrings request.stop))]

def ofJson? (json : Json) : Option ChatRequest := do
  let names := ["backend", "model", "messages", "temperature", "max_tokens", "top_p", "stop"]
  match ← json.slots? names with
  | [backend, model, messages, temperature, maxTokens, topP, stop] =>
      return {
        backend := ← backend.optionalWithDefault Json.string?
        model := ← model.withDefault "" Json.string?
        messages := ← messages.required (Json.list? Message.ofJson?)
        temperature := ← temperature.optionalWithDefault Json.float32?
        maxTokens := ← maxTokens.optionalWithDefault Json.uint32?
        topP := ← topP.optionalWithDefault Json.float32?
        stop := ← stop.withDefault [] (Json.list? Json.string?) }
  | _ => none

end ChatRequest

end GroundedAnswers
