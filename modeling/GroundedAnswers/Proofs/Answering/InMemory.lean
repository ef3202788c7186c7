import GroundedAnswers.Answering.Pipeline
import GroundedAnswers.Proofs.Gateway.Recording

namespace GroundedAnswers

/-! Pipelines over a store in memory. Backends see nothing of the store, and the identifiers of new
chunks come from a sequence. -/

structure PipelineState (σ : Type) where
  services : σ
  store : MemoryStore
  drawn : Nat := 0

namespace PipelineState

def withServices (services : σ) (state : PipelineState σ) : PipelineState σ :=
  { state with services }

def withStore (store : MemoryStore) (state : PipelineState σ) : PipelineState σ :=
  { state with store }

theorem services_isPart : Task.IsPart (fun state : PipelineState σ => state.services) withServices :=
  ⟨fun _ _ => rfl, fun _ _ _ => rfl, fun _ => rfl⟩

def draw (identifiers : Nat → Identifier) : Task (PipelineState σ) Identifier :=
  fun _ state => .finished (identifiers state.drawn) { state with drawn := state.drawn + 1 }

end PipelineState

/-- A gateway and a store in memory; everything else is left to the pipeline. -/
def PipelineDraft.inMemory (settings : RetrievalSettings) (gateway : Gateway σ) :
    PipelineDraft (PipelineState σ) where
  settings := settings
  gateway := some (gateway.zoom PipelineState.services PipelineState.withServices)
  store := some (MemoryStore.vectorStore PipelineState.store PipelineState.withStore)

def Pipeline.inMemory (settings : RetrievalSettings) (gateway : Gateway σ)
    (identifiers : Nat → Identifier) : Pipeline (PipelineState σ) :=
  let zoomed := gateway.zoom PipelineState.services PipelineState.withServices
  { settings
    gateway := zoomed
    embedder := (GatewayEmbedder.ofSettings zoomed settings).embedder
    store := MemoryStore.vectorStore PipelineState.store PipelineState.withStore
    rephraser := Rephraser.byModel zoomed settings.assistantModel
    passageWriter := PassageWriter.byModel zoomed settings.assistantModel
    reranker :=
      Reranker.listwise zoomed settings.assistantModel settings.rerankPreviewCharacters.toNat
    freshIdentifier := PipelineState.draw identifiers }

theorem PipelineDraft.build_inMemory (settings : RetrievalSettings) (gateway : Gateway σ)
    (identifiers : Nat → Identifier) :
    (inMemory settings gateway).build (PipelineState.draw identifiers) =
      .ok (Pipeline.inMemory settings gateway identifiers) := rfl

namespace MemoryStore

/-! ## Storing chunks with new identifiers -/

private theorem put_of_new {chunk : Chunk} {stored : List Chunk}
    (new : chunk.id ∉ stored.map Chunk.id) : put chunk stored = stored ++ [chunk] := by
  induction stored with
  | nil => rfl
  | cons present others induction =>
      rw [List.map_cons, List.mem_cons, not_or] at new
      have different : present.id ≠ chunk.id := fun same => new.1 same.symm
      rw [put, if_neg different, induction new.2, List.cons_append]

private theorem foldl_put_of_new {chunks stored : List Chunk}
    (new : ∀ chunk ∈ chunks, chunk.id ∉ stored.map Chunk.id)
    (distinct : (chunks.map Chunk.id).Nodup) :
    chunks.foldl (fun stored chunk => put chunk stored) stored = stored ++ chunks := by
  induction chunks generalizing stored with
  | nil => exact (List.append_nil stored).symm
  | cons chunk others induction =>
      rw [List.map_cons, List.nodup_cons] at distinct
      have stillNew : ∀ other ∈ others, other.id ∉ (stored ++ [chunk]).map Chunk.id := by
        intro other member
        rw [List.map_append, List.mem_append, not_or]
        refine ⟨new other (List.mem_cons_of_mem _ member), fun same => ?_⟩
        rw [List.map_singleton, List.mem_singleton] at same
        exact distinct.1 (same ▸ List.mem_map_of_mem member)
      rw [List.foldl_cons, put_of_new (new chunk List.mem_cons_self),
        induction stillNew distinct.2, List.append_assoc, List.singleton_append]

theorem upsert_of_new {store after : MemoryStore} {chunks : List Chunk}
    (stored : store.upsert chunks = .ok after)
    (new : ∀ chunk ∈ chunks, chunk.id ∉ store.chunks.map Chunk.id)
    (distinct : (chunks.map Chunk.id).Nodup) : after.chunks = store.chunks ++ chunks := by
  unfold upsert at stored
  split at stored
  · cases stored
  · cases stored
    exact foldl_put_of_new new distinct

end MemoryStore

namespace Pipeline

/-! ## Chunks of a document -/

/-- Pieces and vectors as chunks, with identifiers of a sequence from a place on. -/
def chunksFrom (identifiers : Nat → Identifier) (tenant : Identifier) (request : IngestRequest) :
    Nat → List (TextChunk × Vector32) → List Chunk
  | _, [] => []
  | drawn, (piece, embedding) :: rest =>
      { id := identifiers drawn, document := request.document, tenant, index := piece.index,
        content := piece.content, embedding, tokenCount := piece.tokenCount,
        metadata := request.metadata } ::
        chunksFrom identifiers tenant request (drawn + 1) rest

section

variable {identifiers : Nat → Identifier} {tenant : Identifier} {request : IngestRequest}

theorem map_chunksFrom {property : Chunk → α} (ofPair : TextChunk × Vector32 → α)
    (same : ∀ id piece embedding,
      property ⟨id, request.document, tenant, piece.index, piece.content, embedding,
        piece.tokenCount, request.metadata⟩ = ofPair (piece, embedding))
    (drawn : Nat) (pairs : List (TextChunk × Vector32)) :
    (chunksFrom identifiers tenant request drawn pairs).map property = pairs.map ofPair := by
  induction pairs generalizing drawn with
  | nil => rfl
  | cons pair rest induction =>
      rw [chunksFrom, List.map_cons, List.map_cons, induction, same]

theorem origin_of_mem_chunksFrom {drawn : Nat} {pairs : List (TextChunk × Vector32)}
    {chunk : Chunk} (member : chunk ∈ chunksFrom identifiers tenant request drawn pairs) :
    chunk.document = request.document ∧ chunk.metadata = request.metadata ∧
      chunk.tenant = tenant := by
  induction pairs generalizing drawn with
  | nil => cases member
  | cons pair rest induction =>
      rcases List.mem_cons.mp member with rfl | member
      · exact ⟨rfl, rfl, rfl⟩
      · exact induction member

theorem id_of_mem_chunksFrom {drawn : Nat} {pairs : List (TextChunk × Vector32)} {chunk : Chunk}
    (member : chunk ∈ chunksFrom identifiers tenant request drawn pairs) :
    ∃ place < pairs.length, chunk.id = identifiers (drawn + place) := by
  induction pairs generalizing drawn with
  | nil => cases member
  | cons pair rest induction =>
      rcases List.mem_cons.mp member with rfl | member
      · exact ⟨0, Nat.succ_pos _, rfl⟩
      · rcases induction member with ⟨place, within, named⟩
        refine ⟨place + 1, Nat.succ_lt_succ within, named.trans (congrArg identifiers ?_)⟩
        omega

theorem makeChunks_eq {pipeline : Pipeline (PipelineState σ)}
    (draws : pipeline.freshIdentifier = PipelineState.draw identifiers)
    (pairs : List (TextChunk × Vector32)) (now : Moment) (state : PipelineState σ) :
    pipeline.makeChunks tenant request pairs now state =
      .finished (.ok (chunksFrom identifiers tenant request state.drawn pairs))
        { state with drawn := state.drawn + pairs.length } := by
  induction pairs generalizing state with
  | nil => rfl
  | cons pair rest induction =>
      rcases pair with ⟨piece, embedding⟩
      have drawn : (ExceptT.lift pipeline.freshIdentifier : RetrievalTask _ _) now state =
          .finished (.ok (identifiers state.drawn)) { state with drawn := state.drawn + 1 } := by
        rw [draws]
        rfl
      have others := induction { state with drawn := state.drawn + 1 }
      unfold makeChunks
      rw [Task.bind_of_finished drawn, Task.bind_of_finished others]
      have length : state.drawn + 1 + rest.length = state.drawn + (rest.length + 1) := by omega
      rw [List.length_cons, ← length]
      rfl

end

end Pipeline

end GroundedAnswers
