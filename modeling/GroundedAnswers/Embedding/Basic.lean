import GroundedAnswers.Json.Record

namespace GroundedAnswers

/-! Embeddings: texts as vectors of single-precision numbers. -/

abbrev Vector32 := List Float32

structure EmbeddingRequest where
  backend : Option String
  model : String
  inputs : List String
  deriving DecidableEq, Repr

namespace EmbeddingRequest

def of (model : String) (inputs : List String) : EmbeddingRequest :=
  ⟨none, model, inputs⟩

def toJson (request : EmbeddingRequest) : Json :=
  .ofMembers [("backend", request.backend.map .string), ("model", some (.string request.model)),
    ("input", some (.ofStrings request.inputs))]

def ofJson? (json : Json) : Option EmbeddingRequest := do
  match ← json.slots? ["backend", "model", "input"] with
  | [backend, model, inputs] =>
      return ⟨← backend.optionalWithDefault Json.string?, ← model.withDefault "" Json.string?,
        ← inputs.required (Json.list? Json.string?)⟩
  | _ => none

end EmbeddingRequest

structure EmbeddingResponse where
  backend : String
  model : String
  embeddings : List Vector32
  tokens : UInt32
  cost : Float

namespace EmbeddingResponse

def toJson (response : EmbeddingResponse) : Json :=
  .object [("backend", .string response.backend), ("model", .string response.model),
    ("embeddings", .array (response.embeddings.map fun vector => .array (vector.map .ofFloat32))),
    ("tokens", .ofNat response.tokens.toNat), ("cost_usd", .ofFloat response.cost)]

def ofJson? (json : Json) : Option EmbeddingResponse := do
  match ← json.slots? ["backend", "model", "embeddings", "tokens", "cost_usd"] with
  | [backend, model, embeddings, tokens, cost] =>
      return ⟨← backend.required Json.string?, ← model.required Json.string?,
        ← embeddings.required (Json.list? (Json.list? Json.float32?)),
        ← tokens.required Json.uint32?, ← cost.required Json.float?⟩
  | _ => none

end EmbeddingResponse

end GroundedAnswers
