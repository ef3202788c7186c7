import GroundedAnswers.Answering.Generation
import GroundedAnswers.Chunking.Basic
import GroundedAnswers.Gateway.Settings
import GroundedAnswers.Retrieval.Requests
import GroundedAnswers.Retrieval.Settings
import GroundedAnswers.StructuredOutput

namespace GroundedAnswers

/-! Everything that is written as JSON and read again. -/

class JsonFormat (α : Type) where
  encode : α → Json
  decode? : Json → Option α

namespace JsonFormat

@[reducible] def ofNames (name : α → String) (ofName? : String → Option α) : JsonFormat α where
  encode value := .string (name value)
  decode? json := json.alternative?.bind ofName?

instance : JsonFormat Role := ofNames Role.name Role.ofName?
instance : JsonFormat ModelKind := ofNames ModelKind.name ModelKind.ofName?
instance : JsonFormat ChunkStrategy := ofNames ChunkStrategy.name ChunkStrategy.ofName?
instance : JsonFormat Message := ⟨Message.toJson, Message.ofJson?⟩
instance : JsonFormat ChatRequest := ⟨ChatRequest.toJson, ChatRequest.ofJson?⟩
instance : JsonFormat ChatResponse := ⟨ChatResponse.toJson, ChatResponse.ofJson?⟩
instance : JsonFormat Usage := ⟨Usage.toJson, Usage.ofJson?⟩
instance : JsonFormat EmbeddingRequest := ⟨EmbeddingRequest.toJson, EmbeddingRequest.ofJson?⟩
instance : JsonFormat EmbeddingResponse := ⟨EmbeddingResponse.toJson, EmbeddingResponse.ofJson?⟩
instance : JsonFormat ModelInfo := ⟨ModelInfo.toJson, ModelInfo.ofJson?⟩
instance : JsonFormat SchemaField := ⟨SchemaField.toJson, SchemaField.ofJson?⟩
instance : JsonFormat GatewaySettings := ⟨GatewaySettings.toJson, GatewaySettings.ofJson?⟩
instance : JsonFormat RetrievalSettings := ⟨RetrievalSettings.toJson, RetrievalSettings.ofJson?⟩
instance : JsonFormat ChunkOptions := ⟨ChunkOptions.toJson, ChunkOptions.ofJson?⟩
instance : JsonFormat TextChunk := ⟨TextChunk.toJson, TextChunk.ofJson?⟩
instance : JsonFormat Chunk := ⟨Chunk.toJson, Chunk.ofJson?⟩
instance : JsonFormat SearchResult := ⟨SearchResult.toJson, SearchResult.ofJson?⟩
instance : JsonFormat Citation := ⟨Citation.toJson, Citation.ofJson?⟩
instance : JsonFormat IngestRequest := ⟨IngestRequest.toJson, IngestRequest.ofJson?⟩
instance : JsonFormat QueryRequest := ⟨QueryRequest.toJson, QueryRequest.ofJson?⟩
instance : JsonFormat SearchRequest := ⟨SearchRequest.toJson, SearchRequest.ofJson?⟩
instance : JsonFormat QueryResponse := ⟨QueryResponse.toJson, QueryResponse.ofJson?⟩
instance : JsonFormat GroundedAnswer := ⟨GroundedAnswer.toJson, GroundedAnswer.ofJson?⟩

def reread (α : Type) [JsonFormat α] (json : Json) : Option Json :=
  (decode? json : Option α).map encode

end JsonFormat

end GroundedAnswers
