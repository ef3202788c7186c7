import GroundedAnswers.Chunking.Strategy
import GroundedAnswers.Retrieval.Document

namespace GroundedAnswers

/-! Requests to a pipeline. -/

structure IngestRequest where
  document : Identifier
  content : String
  chunkOptions : Option ChunkOptions
  metadata : Metadata

namespace IngestRequest

def of (document : Identifier) (content : String) : IngestRequest :=
  ⟨document, content, none, ∅⟩

def toJsonListing (metadata : List (String × String)) (request : IngestRequest) : Json :=
  .object [("document_id", request.document.toJson), ("content", .string request.content),
    ("chunk_options", .ofOption ChunkOptions.toJson request.chunkOptions),
    ("metadata", Metadata.listed metadata)]

def toJson (request : IngestRequest) : Json :=
  request.toJsonListing request.metadata.members

def ofJson? (json : Json) : Option IngestRequest := do
  match ← json.slots? ["document_id", "content", "chunk_options", "metadata"] with
  | [document, content, chunkOptions, metadata] =>
      return ⟨← document.required Identifier.ofJson?, ← content.required Json.string?,
        ← chunkOptions.optionalWithDefault ChunkOptions.ofJson?,
        ← metadata.withDefault ∅ Metadata.ofJson?⟩
  | _ => none

end IngestRequest

/-- How results are looked for, whatever they are wanted for. A count of results that is not
positive leaves it to the pipeline. -/
structure SearchRequest where
  query : String := ""
  topK : Int32 := 0
  minScore : Float32 := 0.0
  hybrid : Bool := false
  rerank : Bool := false
  rephrase : Bool := false
  hypothetical : Bool := false

namespace SearchRequest

def toJson (request : SearchRequest) : Json :=
  .object [("query", .string request.query), ("top_k", .ofInt request.topK.toInt),
    ("min_score", .ofFloat32 request.minScore), ("hybrid", .bool request.hybrid),
    ("rerank", .bool request.rerank), ("query_rewrite", .bool request.rephrase),
    ("use_hyde", .bool request.hypothetical)]

def ofJson? (json : Json) : Option SearchRequest := do
  let names := ["query", "top_k", "min_score", "hybrid", "rerank", "query_rewrite", "use_hyde"]
  match ← json.slots? names with
  | [query, topK, minScore, hybrid, rerank, rephrase, hypothetical] =>
      return {
        query := ← query.withDefault "" Json.string?
        topK := ← topK.withDefault 0 Json.int32?
        minScore := ← minScore.withDefault 0.0 Json.float32?
        hybrid := ← hybrid.withDefault false Json.bool?
        rerank := ← rerank.withDefault false Json.bool?
        rephrase := ← rephrase.withDefault false Json.bool?
        hypothetical := ← hypothetical.withDefault false Json.bool? }
  | _ => none

end SearchRequest

structure QueryRequest extends SearchRequest where
  model : String := ""
  backend : Option String := none

namespace QueryRequest

def toJson (request : QueryRequest) : Json :=
  .ofMembers [("query", some (.string request.query)),
    ("top_k", some (.ofInt request.topK.toInt)),
    ("min_score", some (.ofFloat32 request.minScore)), ("hybrid", some (.bool request.hybrid)),
    ("model", some (.string request.model)), ("backend", request.backend.map .string),
    ("rerank", some (.bool request.rerank)), ("query_rewrite", some (.bool request.rephrase)),
    ("use_hyde", some (.bool request.hypothetical))]

def ofJson? (json : Json) : Option QueryRequest := do
  let names := ["query", "top_k", "min_score", "hybrid", "model", "backend", "rerank",
    "query_rewrite", "use_hyde"]
  match ← json.slots? names with
  | [query, topK, minScore, hybrid, model, backend, rerank, rephrase, hypothetical] =>
      return {
        query := ← query.withDefault "" Json.string?
        topK := ← topK.withDefault 0 Json.int32?
        minScore := ← minScore.withDefault 0.0 Json.float32?
        hybrid := ← hybrid.withDefault false Json.bool?
        model := ← model.withDefault "" Json.string?
        backend := ← backend.optionalWithDefault Json.string?
        rerank := ← rerank.withDefault false Json.bool?
        rephrase := ← rephrase.withDefault false Json.bool?
        hypothetical := ← hypothetical.withDefault false Json.bool? }
  | _ => none

end QueryRequest

structure QueryResponse where
  answer : String
  citations : List Citation
  model : String
  tokens : UInt32
  cost : Float

namespace QueryResponse

def toJson (response : QueryResponse) : Json :=
  .object [("answer", .string response.answer),
    ("citations", .array (response.citations.map Citation.toJson)),
    ("model", .string response.model), ("tokens", .ofNat response.tokens.toNat),
    ("cost_usd", .ofFloat response.cost)]

def ofJson? (json : Json) : Option QueryResponse := do
  match ← json.slots? ["answer", "citations", "model", "tokens", "cost_usd"] with
  | [answer, citations, model, tokens, cost] =>
      return ⟨← answer.required Json.string?, ← citations.required (Json.list? Citation.ofJson?),
        ← model.required Json.string?, ← tokens.required Json.uint32?,
        ← cost.required Json.float?⟩
  | _ => none

end QueryResponse

end GroundedAnswers
