import GroundedAnswers.Chat.Usage

namespace GroundedAnswers

/-! A complete answer to a chat request. -/

structure ChatResponse where
  id : Option String
  backend : String
  model : String
  content : String
  usage : Usage
  cost : Float
  latencyMilliseconds : UInt64

namespace ChatResponse

def toJson (response : ChatResponse) : Json :=
  .ofMembers [("id", response.id.map .string),
    ("backend", some (.string response.backend)),
    ("model", some (.string response.model)),
    ("content", some (.string response.content)),
    ("usage", some response.usage.toJson),
    ("cost_usd", some (.ofFloat response.cost)),
    ("latency_ms", some (.ofNat response.latencyMilliseconds.toNat))]

def ofJson? (json : Json) : Option ChatResponse := do
  let names := ["id", "backend", "model", "content", "usage", "cost_usd", "latency_ms"]
  match ← json.slots? names with
  | [id, backend, model, content, usage, cost, latency] =>
      return {
        id := ← id.optionalWithDefault Json.string?
        backend := ← backend.required Json.string?
        model := ← model.required Json.string?
        content := ← content.required Json.string?
        usage := ← usage.required Usage.ofJson?
        cost := ← cost.required Json.float?
        latencyMilliseconds := ← latency.required Json.uint64? }
  | _ => none

end ChatResponse

end GroundedAnswers
