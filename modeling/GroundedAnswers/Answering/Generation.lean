import GroundedAnswers.Gateway.Basic
import GroundedAnswers.Number.Fixed
import GroundedAnswers.Retrieval.Document
import GroundedAnswers.Retrieval.Task

namespace GroundedAnswers

/-! Answers that rest on sources. The sources are numbered from one, in the question to the model
and in the citations alike. -/

structure GroundedAnswer where
  answer : String
  citations : List Citation
  model : String
  backend : String
  usage : Usage
  cost : Float

namespace GroundedAnswer

def toJson (answer : GroundedAnswer) : Json :=
  .object [("answer", .string answer.answer),
    ("citations", .array (answer.citations.map Citation.toJson)),
    ("model", .string answer.model), ("backend", .string answer.backend),
    ("usage", answer.usage.toJson), ("cost_usd", .ofFloat answer.cost)]

def ofJson? (json : Json) : Option GroundedAnswer := do
  match ← json.slots? ["answer", "citations", "model", "backend", "usage", "cost_usd"] with
  | [answer, citations, model, backend, usage, cost] =>
      return ⟨← answer.required Json.string?, ← citations.required (Json.list? Citation.ofJson?),
        ← model.required Json.string?, ← backend.required Json.string?,
        ← usage.required Usage.ofJson?, ← cost.required Json.float?⟩
  | _ => none

end GroundedAnswer

namespace Generation

def prompt : String :=
  "You are a helpful AI assistant. Answer the user's question based on the provided context.\n" ++
  "If the context doesn't contain enough information, say so. Always cite which sources you " ++
  "used.\nFormat citations as [Source N] where N corresponds to the context chunk number."

def source (index : Nat) (result : SearchResult) : String :=
  s!"[Source {index + 1}] (score: " ++ Number.fixed32 3 result.score ++ ")\n" ++ result.content ++
    "\n\n"

def context (results : List SearchResult) : String :=
  String.join (results.mapIdx source)

def question (query : String) (results : List SearchResult) : String :=
  "Context:\n" ++ context results ++ "\n\nQuestion: " ++ query

def request (query : String) (results : List SearchResult) (model : String)
    (backend : Option String) : ChatRequest :=
  { ChatRequest.of model [.system prompt, .user (question query results)] with backend }

def citations (results : List SearchResult) (previewCharacters : Nat) : List Citation :=
  results.map fun result => .ofResult result previewCharacters

def generate (gateway : Gateway σ) (previewCharacters : Nat) (requestContext : RequestContext)
    (query : String) (results : List SearchResult) (model : String) (backend : Option String) :
    RetrievalTask σ GroundedAnswer := do
  let response ←
    ModelTask.forRetrieval
      (gateway.chat requestContext (request query results model backend))
  return {
    answer := response.content
    citations := citations results previewCharacters
    model := response.model
    backend := response.backend
    usage := response.usage
    cost := response.cost }

end Generation

end GroundedAnswers
