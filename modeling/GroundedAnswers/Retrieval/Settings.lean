import GroundedAnswers.Chunking.Strategy
import GroundedAnswers.Failure.Retrieval

namespace GroundedAnswers

/-! Settings of a pipeline. -/

structure RetrievalSettings where
  chunking : ChunkOptions := .standard
  queryTopK : UInt64 := 5
  searchTopK : UInt64 := 10
  embeddingModel : String := "text-embedding-3-small"
  embeddingBackend : Option String := none
  embeddingBatchSize : UInt64 := 100
  assistantModel : String := "gpt-4o-mini"
  rerankPreviewCharacters : UInt64 := 500
  citationPreviewCharacters : UInt64 := 200
  deriving DecidableEq, Repr

namespace RetrievalSettings

def toJson (settings : RetrievalSettings) : Json :=
  .object [("chunking", settings.chunking.toJson),
    ("query_top_k", .ofNat settings.queryTopK.toNat),
    ("search_top_k", .ofNat settings.searchTopK.toNat),
    ("embedding_model", .string settings.embeddingModel),
    ("embedding_backend", .ofOption .string settings.embeddingBackend),
    ("embedding_batch_size", .ofNat settings.embeddingBatchSize.toNat),
    ("assistant_model", .string settings.assistantModel),
    ("rerank_preview_chars", .ofNat settings.rerankPreviewCharacters.toNat),
    ("citation_preview_chars", .ofNat settings.citationPreviewCharacters.toNat)]

def ofJson? (json : Json) : Option RetrievalSettings := do
  let standard : RetrievalSettings := {}
  let names := ["chunking", "query_top_k", "search_top_k", "embedding_model", "embedding_backend",
    "embedding_batch_size", "assistant_model", "rerank_preview_chars", "citation_preview_chars"]
  match ← json.slots? names with
  | [chunking, queryTopK, searchTopK, embeddingModel, embeddingBackend, embeddingBatchSize,
      assistantModel, rerankPreview, citationPreview] =>
      return {
        chunking := ← chunking.withDefault standard.chunking ChunkOptions.ofJson?
        queryTopK := ← queryTopK.withDefault standard.queryTopK Json.uint64?
        searchTopK := ← searchTopK.withDefault standard.searchTopK Json.uint64?
        embeddingModel := ← embeddingModel.withDefault standard.embeddingModel Json.string?
        embeddingBackend := ← embeddingBackend.optionalWithDefault Json.string?
        embeddingBatchSize :=
          ← embeddingBatchSize.withDefault standard.embeddingBatchSize Json.uint64?
        assistantModel := ← assistantModel.withDefault standard.assistantModel Json.string?
        rerankPreviewCharacters :=
          ← rerankPreview.withDefault standard.rerankPreviewCharacters Json.uint64?
        citationPreviewCharacters :=
          ← citationPreview.withDefault standard.citationPreviewCharacters Json.uint64? }
  | _ => none

def checked (settings : RetrievalSettings) : Except RetrievalFailure RetrievalSettings :=
  let size := settings.chunking.size.toNat
  let overlap := settings.chunking.overlap.toNat
  if size = 0 then .error (.configuration "chunk_size must be greater than zero")
  else if size ≤ overlap then
    .error (.configuration s!"chunk_overlap ({overlap}) must be less than chunk_size ({size})")
  else if settings.queryTopK = 0 ∨ settings.searchTopK = 0 then
    .error (.configuration "top_k defaults must be greater than zero")
  else if settings.embeddingBatchSize = 0 then
    .error (.configuration "embedding_batch_size must be greater than zero")
  else if Text.isBlankText settings.embeddingModel ∨ Text.isBlankText settings.assistantModel then
    .error (.configuration "model names must not be empty")
  else .ok settings

end RetrievalSettings

end GroundedAnswers
