import GroundedAnswers.Answering.Generation
import GroundedAnswers.Chunking.Basic
import GroundedAnswers.Retrieval.Embedder
import GroundedAnswers.Retrieval.Requests
import GroundedAnswers.Retrieval.Reranking
import GroundedAnswers.Retrieval.Rephrasing
import GroundedAnswers.Retrieval.Store

namespace GroundedAnswers

/-! A pipeline from documents to grounded answers. Whatever it stores, finds or deletes belongs to
the tenant of the request's context. -/

structure Pipeline (σ : Type) where
  settings : RetrievalSettings
  gateway : Gateway σ
  embedder : Embedder σ
  store : VectorStore σ
  rephraser : Rephraser σ
  passageWriter : PassageWriter σ
  reranker : Reranker σ
  freshIdentifier : Task σ Identifier

namespace Pipeline

/-! ## Storing -/

/-- The request's own way of cutting counts when its size is positive. -/
def chunkOptions (settings : RetrievalSettings) (request : IngestRequest) : ChunkOptions :=
  (request.chunkOptions.filter (0 < ·.size)).getD settings.chunking

def makeChunks (pipeline : Pipeline σ) (tenant : Identifier) (request : IngestRequest) :
    List (TextChunk × Vector32) → RetrievalTask σ (List Chunk)
  | [] => pure []
  | (piece, embedding) :: rest => do
      let id ← ExceptT.lift pipeline.freshIdentifier
      let chunk : Chunk :=
        { id, document := request.document, tenant, index := piece.index, content := piece.content,
          embedding, tokenCount := piece.tokenCount, metadata := request.metadata }
      let others ← pipeline.makeChunks tenant request rest
      return chunk :: others

def ingest (pipeline : Pipeline σ) (context : RequestContext) (request : IngestRequest) :
    RetrievalTask σ (List Chunk) := do
  let pieces := chunkText (chunkOptions pipeline.settings request) request.content
  if pieces.isEmpty then throw .noChunks
  let embeddings ← pipeline.embedder.embed context (pieces.map TextChunk.content)
  let chunks ← pipeline.makeChunks context.tenant request (pieces.zip embeddings)
  context.guarded .interrupted (pipeline.store.upsert chunks)
  return chunks

/-! ## Finding -/

structure RetrieveOptions where
  topK : Nat
  minScore : Float32
  hybrid : Bool

def effectiveTopK (requested : Int32) (standard : UInt64) : Nat :=
  if 0 < requested then requested.toInt.toNat else standard.toNat

def retrieveOptions (request : SearchRequest) (standardTopK : UInt64) : RetrieveOptions :=
  ⟨effectiveTopK request.topK standardTopK, request.minScore, request.hybrid⟩

def retrieve (pipeline : Pipeline σ) (context : RequestContext) (options : RetrieveOptions)
    (text : String) : RetrievalTask σ (List SearchResult) := do
  let embedding ← pipeline.embedder.embedOne context text
  let search : SearchOptions := ⟨context.tenant, options.topK, options.minScore⟩
  context.guarded .interrupted
    (if options.hybrid then pipeline.store.hybridSearch text embedding search
    else pipeline.store.similaritySearch embedding search)

/-- All results in order, of those of one chunk the first, up to a number. -/
def mergeUnique (sets : List (List SearchResult)) (topK : Nat) : List SearchResult :=
  (sets.flatten.foldl keepNew []).take topK
where
  keepNew (kept : List SearchResult) (result : SearchResult) : List SearchResult :=
    if kept.any (·.chunk = result.chunk) then kept else kept ++ [result]

/-- The first failure that ends the whole search: an interruption, or any failure when nothing
succeeded. -/
def severeFailure? (outcomes : List (Except RetrievalFailure α)) : Option RetrievalFailure :=
  let failures := outcomes.filterMap fun outcome =>
    match outcome with
    | .error failure => some failure
    | .ok _ => none
  match failures.find? RetrievalFailure.isInterruption with
  | some failure => some failure
  | none => if failures.length = outcomes.length then failures.head? else none

def successes (outcomes : List (Except ε α)) : List α :=
  outcomes.filterMap fun outcome =>
    match outcome with
    | .ok value => some value
    | .error _ => none

def retrieveAll (pipeline : Pipeline σ) (context : RequestContext) (options : RetrieveOptions)
    (texts : List String) : RetrievalTask σ (List SearchResult) := do
  let searches := texts.map fun text => (pipeline.retrieve context options text).run
  let outcomes ← ExceptT.lift (Task.all searches)
  match severeFailure? outcomes with
  | some failure => throw failure
  | none => return mergeUnique (successes outcomes) options.topK

/-- Results by way of a passage that could answer the query. There are none when the passage is
empty or the attempt fails. -/
def retrieveByPassage (pipeline : Pipeline σ) (context : RequestContext)
    (options : RetrieveOptions) (query : String) : RetrievalTask σ (List SearchResult) :=
  RetrievalTask.orElse
    (do
      let passage ← pipeline.passageWriter context query
      if passage = "" then return [] else pipeline.retrieve context options passage)
    (pure [])

/-- Variants of the query to search with; none when the attempt fails. -/
def variants (pipeline : Pipeline σ) (context : RequestContext) (query : String) :
    RetrievalTask σ (List String) :=
  RetrievalTask.orElse (pipeline.rephraser context query) (pure [])

def retrieveByQuery (pipeline : Pipeline σ) (context : RequestContext) (options : RetrieveOptions)
    (request : SearchRequest) : RetrievalTask σ (List SearchResult) := do
  if request.rephrase then
    let variants ← pipeline.variants context request.query
    if 1 < variants.length then pipeline.retrieveAll context options variants
    else pipeline.retrieve context options request.query
  else pipeline.retrieve context options request.query

/-- Results before any reranking. A passage that finds nothing gives way to the query. -/
def find (pipeline : Pipeline σ) (context : RequestContext) (options : RetrieveOptions)
    (request : SearchRequest) : RetrievalTask σ (List SearchResult) := do
  let found ←
    if request.hypothetical then pipeline.retrieveByPassage context options request.query
    else pure []
  if found.isEmpty then pipeline.retrieveByQuery context options request else return found

def findRanked (pipeline : Pipeline σ) (context : RequestContext) (request : SearchRequest)
    (standardTopK : UInt64) : RetrievalTask σ (List SearchResult) := do
  let results ← pipeline.find context (retrieveOptions request standardTopK) request
  if request.rerank ∧ ¬results.isEmpty then
    RetrievalTask.orElse (pipeline.reranker context request.query results) (pure results)
  else return results

def search (pipeline : Pipeline σ) (context : RequestContext) (request : SearchRequest) :
    RetrievalTask σ (List SearchResult) :=
  pipeline.findRanked context request pipeline.settings.searchTopK

/-! ## Answering -/

def query (pipeline : Pipeline σ) (context : RequestContext) (request : QueryRequest) :
    RetrievalTask σ QueryResponse := do
  let results ← pipeline.findRanked context request.toSearchRequest pipeline.settings.queryTopK
  let answer ←
    Generation.generate pipeline.gateway pipeline.settings.citationPreviewCharacters.toNat context
      request.query results request.model request.backend
  return ⟨answer.answer, answer.citations, answer.model, answer.usage.totalTokens, answer.cost⟩

/-! ## Deleting -/

def deleteDocument (pipeline : Pipeline σ) (context : RequestContext) (document : Identifier) :
    RetrievalTask σ Nat :=
  context.guarded .interrupted (pipeline.store.delete ⟨context.tenant, some document⟩)

def deleteTenant (pipeline : Pipeline σ) (context : RequestContext) : RetrievalTask σ Nat :=
  context.guarded .interrupted (pipeline.store.delete ⟨context.tenant, none⟩)

end Pipeline

/-! ## Putting a pipeline together -/

/-- The parts of a pipeline. Those that are left out are made from the gateway and the settings,
except for the gateway and the store themselves. -/
structure PipelineDraft (σ : Type) where
  settings : RetrievalSettings := {}
  gateway : Option (Gateway σ) := none
  store : Option (VectorStore σ) := none
  embedder : Option (Embedder σ) := none
  rephraser : Option (Rephraser σ) := none
  reranker : Option (Reranker σ) := none

def PipelineDraft.build (draft : PipelineDraft σ) (freshIdentifier : Task σ Identifier) :
    Except RetrievalFailure (Pipeline σ) :=
  match draft.gateway, draft.store with
  | none, _ => .error (.configuration "gateway is required")
  | some _, none => .error (.configuration "vector_store is required")
  | some gateway, some store =>
      let settings := draft.settings
      .ok {
        settings, gateway, store, freshIdentifier
        embedder := draft.embedder.getD (GatewayEmbedder.ofSettings gateway settings).embedder
        rephraser := draft.rephraser.getD (Rephraser.byModel gateway settings.assistantModel)
        passageWriter := PassageWriter.byModel gateway settings.assistantModel
        reranker := draft.reranker.getD
          (Reranker.listwise gateway settings.assistantModel
            settings.rerankPreviewCharacters.toNat) }

end GroundedAnswers
