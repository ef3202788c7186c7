import GroundedAnswers.Service.Http
import GroundedAnswers.Stream.Lines

namespace GroundedAnswers.Ollama

/-! The interface of Ollama, which runs models locally. Its streams have one JSON value a line. -/

def name : String := "ollama"

def defaultEmbeddingModel : String := "nomic-embed-text"

def models : List String := ["llama3", "mistral", "codellama", "nomic-embed-text"]

def chatBody (request : ChatRequest) (streamed : Bool) : Json :=
  let options := [("temperature", request.temperature.map Json.ofFloat32),
    ("num_predict", request.maxTokens.map fun tokens => .ofNat tokens.toNat),
    ("top_p", request.topP.map .ofFloat32),
    ("stop", if request.stop.isEmpty then none else some (.ofStrings request.stop))]
  .ofMembers [("model", some (.string request.model)),
    ("messages", some (.array (request.messages.map Message.toJson))),
    ("stream", some (.bool streamed)),
    ("options", if options.any (·.2.isSome) then some (.ofMembers options) else none)]

structure Chunk where
  content : Option String
  done : Bool
  usage : Usage
  fault : Option String

def contentOf? (json : Json) : Option String := do
  match ← json.slots? ["content"] with
  | [content] => content.withDefault "" Json.string?
  | _ => none

def chunkOf? (json : Json) : Option Chunk := do
  match ← json.slots? ["message", "done", "prompt_eval_count", "eval_count", "error"] with
  | [message, done, prompt, answer, fault] =>
      return ⟨← message.optionalWithDefault contentOf?, ← done.withDefault false Json.bool?,
        .of (← prompt.withDefault 0 Json.uint32?) (← answer.withDefault 0 Json.uint32?),
        ← fault.optional Json.string?⟩
  | _ => none

def Chunk.frame (chunk : Chunk) : Frame :=
  match chunk.fault with
  | some fault => .failure fault
  | none =>
      match chunk.content.getD "", chunk.done with
      | "", true => .usage chunk.usage
      | text, true => .deltaWithUsage text chunk.usage
      | "", false => .skip
      | text, false => .delta text

def frame (line : String) : Frame :=
  match (Json.read? line).bind chunkOf? with
  | none => .failure s!"{name} stream line could not be parsed: {Http.notAsExpected}"
  | some chunk => chunk.frame

def embeddingsOf? (json : Json) : Option (List Vector32 × UInt32) := do
  match ← json.slots? ["embeddings", "prompt_eval_count"] with
  | [embeddings, tokens] =>
      return (← embeddings.withDefault [] (Json.list? (Json.list? Json.float32?)),
        ← tokens.withDefault 0 Json.uint32?)
  | _ => none

def endpoint (address : String) (timeoutMilliseconds : Nat) (transport : Transport σ) :
    Endpoint σ where
  service := name
  base := Endpoint.withoutSlashes address
  headers := []
  timeoutMilliseconds := timeoutMilliseconds
  transport := transport

def backend (endpoint : Endpoint σ) : Backend σ where
  name := name
  models := models
  chat _ request := do
    let chunk ← endpoint.ask "/api/chat" (chatBody request false) chunkOf?
    match chunk.fault with
    | some fault => throw (.unreadable name fault)
    | none =>
        return {
          id := none
          backend := name
          model := request.model
          content := chunk.content.getD ""
          usage := chunk.usage
          cost := 0.0
          latencyMilliseconds := 0 }
  chatStream context request := do
    let body ← endpoint.post "/api/chat" (chatBody request true)
    return Lines.stream context frame body
  embed _ request := do
    let model := if request.model = "" then defaultEmbeddingModel else request.model
    let body := Json.object [("model", .string model), ("input", .ofStrings request.inputs)]
    let (embeddings, tokens) ← endpoint.ask "/api/embed" body embeddingsOf?
    return ⟨name, model, embeddings, tokens, 0.0⟩

end GroundedAnswers.Ollama
