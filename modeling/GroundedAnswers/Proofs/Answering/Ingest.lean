import GroundedAnswers.Proofs.Answering.InMemory
import GroundedAnswers.Proofs.Retrieval.Embedding
import GroundedAnswers.Proofs.Retrieval.Zoom

namespace GroundedAnswers

/-! Storing a document in memory: all of its chunks are stored or none. -/

namespace Pipeline

/-! ## The steps of storing a document -/

def storeChunks (pipeline : Pipeline σ) (context : RequestContext) (request : IngestRequest)
    (pairs : List (TextChunk × Vector32)) : RetrievalTask σ (List Chunk) := do
  let chunks ← pipeline.makeChunks context.tenant request pairs
  context.guarded .interrupted (pipeline.store.upsert chunks)
  return chunks

theorem ingest_eq (pipeline : Pipeline σ) (context : RequestContext) (request : IngestRequest) :
    pipeline.ingest context request =
      let pieces := chunkText (chunkOptions pipeline.settings request) request.content
      if pieces.isEmpty then throw .noChunks
      else pipeline.embedder.embed context (pieces.map TextChunk.content) >>= fun embeddings =>
        pipeline.storeChunks context request (pieces.zip embeddings) := by
  unfold ingest
  dsimp only
  split
  · rfl
  · rfl

section

variable {settings : RetrievalSettings} {gateway : Gateway σ}
  {rephraser : Option (Rephraser (PipelineState σ))} {reranker : Option (Reranker (PipelineState σ))}
  {identifiers : Nat → Identifier} {pipeline : Pipeline (PipelineState σ)}
  (built : PipelineDraft.build
    { PipelineDraft.inMemory settings gateway with rephraser, reranker }
    (PipelineState.draw identifiers) = .ok pipeline)

include built

private theorem run_embed_of_built (context : RequestContext) (texts : List String) (now : Moment)
    (before : PipelineState σ) :
    Task.run (pipeline.embedder.embed context texts).run now before =
      let (outcome, moment, services) :=
        Task.run ((GatewayEmbedder.ofSettings gateway settings).embed context texts).run now
          before.services
      (outcome, moment, before.withServices services) := by
  cases built
  have carried := GatewayEmbedder.embed_zoom PipelineState.services_isPart
    (GatewayEmbedder.ofSettings gateway settings) context texts
  change Task.run (ExceptT.run (((GatewayEmbedder.ofSettings gateway settings).zoom
    PipelineState.services PipelineState.withServices).embed context texts)) now before = _
  rw [carried, Task.run_zoomFailing PipelineState.services_isPart]

/-- Embedded texts are stored without a wait, unless the context is interrupted by then. -/
theorem storeChunks_eq (context : RequestContext) (request : IngestRequest)
    (pairs : List (TextChunk × Vector32)) (now : Moment) (state : PipelineState σ) :
    pipeline.storeChunks context request pairs now state =
      let chunks := chunksFrom identifiers context.tenant request state.drawn pairs
      let drawn := state.drawn + pairs.length
      match context.interruption? now with
      | some cause => .finished (.error (.interrupted cause)) { state with drawn }
      | none =>
          match state.store.upsert chunks with
          | .error failure => .finished (.error failure) { state with drawn }
          | .ok store => .finished (.ok chunks) { state with store, drawn } := by
  cases built
  unfold storeChunks
  have stored := MemoryStore.vectorStore_upsert_eq PipelineState.store PipelineState.withStore
    (chunksFrom identifiers context.tenant request state.drawn pairs) now
    { state with drawn := state.drawn + pairs.length }
  rw [Task.bind_of_finished (makeChunks_eq rfl pairs now state)]
  dsimp only at stored ⊢
  cases upserted : state.store.upsert
      (chunksFrom identifiers context.tenant request state.drawn pairs) with
  | error failure =>
      rw [upserted] at stored
      exact Task.bind_guarded_of_finished stored context _ _
  | ok store =>
      rw [upserted] at stored
      exact Task.bind_guarded_of_finished stored context _ _

/-- How storing a document ends. Either it fails, and the store is what it was before. Or all texts
were embedded, and the store has taken the chunks that are made from them. -/
theorem ingest_cases (context : RequestContext) (request : IngestRequest) (now : Moment)
    (before : PipelineState σ) :
    (∃ failure moment services drawn,
      Task.run (pipeline.ingest context request).run now before =
        (.error failure, moment, ⟨services, before.store, drawn⟩)) ∨
    ∃ vectors moment services store drawn,
      let pieces := chunkText (chunkOptions settings request) request.content
      let chunks := chunksFrom identifiers context.tenant request before.drawn (pieces.zip vectors)
      Task.run ((GatewayEmbedder.ofSettings gateway settings).embed context
        (pieces.map TextChunk.content)).run now before.services = (.ok vectors, moment, services) ∧
      before.store.upsert chunks = .ok store ∧
      Task.run (pipeline.ingest context request).run now before =
        (.ok chunks, moment, ⟨services, store, drawn⟩) := by
  let pieces := chunkText (chunkOptions settings request) request.content
  have embedding := run_embed_of_built built context (pieces.map TextChunk.content) now before
  have sameSettings : pipeline.settings = settings := by
    cases built
    rfl
  rw [ingest_eq, sameSettings]
  by_cases empty : pieces.isEmpty
  · refine .inl ⟨.noChunks, now, before.services, before.drawn, ?_⟩
    simp only [pieces] at empty
    simp only [empty, if_true]
    rfl
  · simp only [pieces] at empty
    simp only [empty, Bool.false_eq_true, if_false]
    rcases embedded : Task.run ((GatewayEmbedder.ofSettings gateway settings).embed context
      (pieces.map TextChunk.content)).run now before.services with ⟨outcome, moment, services⟩
    rw [embedded] at embedding
    cases outcome with
    | error failure =>
        refine .inl ⟨failure, moment, services, before.drawn, ?_⟩
        rw [Task.run_bind_of_error embedding]
        rfl
    | ok vectors =>
        have storing := storeChunks_eq built context request (pieces.zip vectors) moment
          (before.withServices services)
        have whole := (Task.run_bind_of_ok embedding fun vectors =>
          pipeline.storeChunks context request (pieces.zip vectors)).trans
            (congrArg (Progress.run moment) storing)
        simp only [PipelineState.withServices] at whole
        cases look : context.interruption? moment with
        | some cause =>
            rw [look] at whole
            exact .inl ⟨_, _, _, _, whole⟩
        | none =>
            rw [look] at whole
            cases upserted : before.store.upsert (chunksFrom identifiers context.tenant request
                before.drawn (pieces.zip vectors)) with
            | error failure =>
                rw [upserted] at whole
                exact .inl ⟨_, _, _, _, whole⟩
            | ok store =>
                rw [upserted] at whole
                exact .inr ⟨vectors, moment, services, store, _, rfl, upserted, whole⟩

end

/-! ## All or nothing -/

/-- A failure leaves the store as it was. A success adds one chunk for each piece of the text, in
order, and each chunk carries the vector that the backend returned for its content. -/
theorem ingest_atomic_and_faithful {settings : RetrievalSettings} {gateway : Gateway σ}
    {rephraser : Option (Rephraser (PipelineState (Recorded σ)))}
    {reranker : Option (Reranker (PipelineState (Recorded σ)))} {identifiers : Nat → Identifier}
    {pipeline : Pipeline (PipelineState (Recorded σ))}
    (built : PipelineDraft.build
      { PipelineDraft.inMemory settings gateway.recorded with rephraser, reranker }
      (PipelineState.draw identifiers) = .ok pipeline)
    (context : RequestContext) (request : IngestRequest) (now : Moment)
    (before : PipelineState (Recorded σ)) :
    let (outcome, _, after) := Task.run (pipeline.ingest context request).run now before
    match outcome with
    | .error _ => after.store = before.store
    | .ok chunks =>
        ((∀ chunk ∈ chunks, chunk.id ∉ before.store.chunks.map Chunk.id) →
          (chunks.map Chunk.id).Nodup →
          after.store.chunks = before.store.chunks ++ chunks) ∧
        (chunks.map fun chunk => TextChunk.mk chunk.content chunk.index chunk.tokenCount) =
          chunkText ((request.chunkOptions.filter (0 < ·.size)).getD settings.chunking)
            request.content ∧
        (∀ chunk ∈ chunks, chunk.document = request.document ∧
          chunk.metadata = request.metadata ∧ chunk.tenant = context.tenant) ∧
        ∃ answered : List AnsweredBatch,
          BackendEvent.embeddings after.services.events =
            BackendEvent.embeddings before.services.events ++ answered ∧
          (∀ batch ∈ answered, batch.IsComplete) ∧
          (chunks.map fun chunk => (chunk.content, chunk.embedding)) =
            answered.flatMap AnsweredBatch.pairs := by
  rcases ingest_cases built context request now before with
    ⟨failure, moment, services, drawn, failed⟩ |
    ⟨vectors, moment, services, store, drawn, embedded, stored, succeeded⟩
  · rw [failed]
  · rw [succeeded]
    have records : (GatewayEmbedder.ofSettings gateway.recorded settings).gateway =
        gateway.recorded := rfl
    rcases GatewayEmbedder.exists_of_run_embed records embedded with
      ⟨answered, sameLength, paired, complete, noted⟩
    rw [List.length_map] at sameLength
    refine ⟨fun new distinct => MemoryStore.upsert_of_new stored new distinct, ?_, ?_,
      answered, noted, complete, ?_⟩
    · rw [map_chunksFrom Prod.fst (fun _ _ _ => rfl)]
      exact List.map_fst_zip (Nat.le_of_eq sameLength.symm)
    · exact fun chunk member => origin_of_mem_chunksFrom member
    · rw [map_chunksFrom (fun pair => (pair.1.content, pair.2)) (fun _ _ _ => rfl), ← paired,
        List.zip_map_left]
      rfl

def constantBackend (vector : Vector32) : Backend Unit where
  name := "constant"
  models := []
  chat _ _ := throw (.unsupported "constant" "chat")
  chatStream _ _ := throw (.unsupported "constant" "chat")
  embed _ request := do
    ExceptT.lift (Task.delay (5 * Duration.nanosecondsPerMillisecond))
    return ⟨"constant", request.model, request.inputs.map fun _ => vector, 0, 0.0⟩

def constantGateway : Gateway Unit where
  backends := [constantBackend [1.0]]
  defaultBackend := "constant"
  fallbackBackend := none
  fallbackModel := none
  defaultModel := none
  retry := .standard

/-- Two texts in two batches, for a store that holds a chunk already. -/
theorem ingest_atomic_and_faithful_two_batches :
    let settings : RetrievalSettings := { embeddingBatchSize := 1 }
    let pipeline := inMemory settings constantGateway.recorded .ofNat
    let request : IngestRequest := ⟨.ofNat 2, "Ab. cd", some ⟨2, 0, .sentence⟩, ∅⟩
    let present : Chunk := ⟨.ofNat 1, .ofNat 1, .ofNat 1, 0, "Ab", [1.0], 1, ∅⟩
    let (outcome, _, after) := Task.run (pipeline.ingest (.ofTenant (.ofNat 1)) request).run 0
      ⟨⟨(), []⟩, ⟨[present]⟩, 7⟩
    PipelineDraft.build (.inMemory settings constantGateway.recorded)
      (PipelineState.draw .ofNat) = .ok pipeline ∧
    ∃ chunks, outcome = .ok chunks ∧ chunks.map Chunk.id = [.ofNat 7, .ofNat 8] ∧
      after.store.chunks = present :: chunks := by
  intro settings pipeline request present
  have built : PipelineDraft.build (.inMemory settings constantGateway.recorded)
      (PipelineState.draw .ofNat) = .ok pipeline := PipelineDraft.build_inMemory _ _ _
  have faithful := ingest_atomic_and_faithful built (.ofTenant (.ofNat 1)) request 0
    ⟨⟨(), []⟩, ⟨[present]⟩, 7⟩
  have identifiers : (Task.run (pipeline.ingest (.ofTenant (.ofNat 1)) request).run 0
      ⟨⟨(), []⟩, ⟨[present]⟩, 7⟩).1.toOption.map (List.map Chunk.id) =
        some [.ofNat 7, .ofNat 8] := by
    decide +kernel
  rcases ended : Task.run (pipeline.ingest (.ofTenant (.ofNat 1)) request).run 0
    ⟨⟨(), []⟩, ⟨[present]⟩, 7⟩ with ⟨outcome, moment, after⟩
  rw [ended] at identifiers faithful
  cases outcome with
  | error failure => cases identifiers
  | ok chunks =>
      have drawn : chunks.map Chunk.id = [.ofNat 7, .ofNat 8] := Option.some.inj identifiers
      refine ⟨built, chunks, rfl, drawn, faithful.1 ?_ ?_⟩
      · intro chunk member
        have apart : ∀ id ∈ [Identifier.ofNat 7, .ofNat 8], id ∉ [present].map Chunk.id := by
          decide
        exact apart _ (drawn ▸ List.mem_map_of_mem member)
      · rw [drawn]
        decide

end Pipeline

end GroundedAnswers
