import GroundedAnswers.Answering.Generation
import GroundedAnswers.Proofs.Gateway.Yielding
import GroundedAnswers.Retrieval.Embedder
import GroundedAnswers.Retrieval.Reranking
import GroundedAnswers.Retrieval.Rephrasing
import GroundedAnswers.Retrieval.Store

namespace GroundedAnswers

/-! What a pipeline makes of a gateway gives way to an interruption, and so do the calls of a
store. Some of it goes on after a failure of the model, or reports it in a failure of its own; it
never does so with an interruption. -/

open GroundedAnswers.Task (Refuses)

namespace ModelTask

variable {keeps : σ → Prop} {context : RequestContext} {task : ModelTask σ α}

private theorem forRetrieval_yields
    (yields : Task.Yields keeps context ModelFailure.interrupted task) :
    Task.Yields keeps context RetrievalFailure.interrupted task.forRetrieval := by
  refine yields.adapt (fun _ => rfl) fun failure cause same => ?_
  cases failure with
  | interrupted other =>
      cases same
      rfl
  | _ => cases same

private theorem forRetrieval_refuses (refuses : Refuses context ModelFailure.interrupted task) :
    Refuses context RetrievalFailure.interrupted task.forRetrieval :=
  refuses.adapt fun _ => rfl

end ModelTask

/-! ## Parts that ask a model -/

section Gateway

variable {gateway : Gateway σ} {keeps : σ → Prop} {context : RequestContext}

section Yields

variable (yields : ∀ backend ∈ gateway.backends, backend.Yields keeps context)

include yields

theorem Rephraser.byModel_yields (model query : String) :
    Task.Yields keeps context RetrievalFailure.interrupted
      (Rephraser.byModel gateway model context query) := by
  unfold Rephraser.byModel
  refine (Gateway.chat_yields yields _).bind_lift (fun outcome regular => ?_) fun _ => rfl
  cases outcome with
  | ok response => exact .pure _
  | error failure =>
      cases failure with
      | interrupted cause => exact absurd rfl (regular cause)
      | _ => exact .pure [query]

theorem PassageWriter.byModel_yields (model query : String) :
    Task.Yields keeps context RetrievalFailure.interrupted
      (PassageWriter.byModel gateway model context query) := by
  unfold PassageWriter.byModel
  exact (ModelTask.forRetrieval_yields (Gateway.chat_yields yields _)).bind fun _ => .pure _

theorem Reranker.listwise_yields (model : String) (previewCharacters : Nat) (query : String)
    (results : List SearchResult) :
    Task.Yields keeps context RetrievalFailure.interrupted
      (Reranker.listwise gateway model previewCharacters context query results) := by
  unfold Reranker.listwise
  split
  · exact .pure results
  · refine (Gateway.chat_yields yields _).bind_lift (fun outcome regular => ?_) fun _ => rfl
    cases outcome with
    | ok response =>
        dsimp only
        split
        · exact .pure _
        · exact .pure results
    | error failure =>
        cases failure with
        | interrupted cause => exact absurd rfl (regular cause)
        | _ => exact .pure results

theorem Generation.generate_yields (previewCharacters : Nat) (query : String)
    (results : List SearchResult) (model : String) (backend : Option String) :
    Task.Yields keeps context RetrievalFailure.interrupted
      (Generation.generate gateway previewCharacters context query results model backend) := by
  unfold Generation.generate
  exact (ModelTask.forRetrieval_yields (Gateway.chat_yields yields _)).bind fun _ => .pure _

end Yields

section Refuses

variable {selected : Backend σ} (registered : gateway.backend gateway.defaultBackend = .ok selected)

include registered

theorem Rephraser.byModel_refuses (model query : String) :
    Refuses context RetrievalFailure.interrupted
      (Rephraser.byModel gateway model context query) := by
  unfold Rephraser.byModel
  exact (Gateway.chat_refuses context registered).bind_lift fun _ => rfl

theorem PassageWriter.byModel_refuses (model query : String) :
    Refuses context RetrievalFailure.interrupted
      (PassageWriter.byModel gateway model context query) := by
  unfold PassageWriter.byModel
  exact (ModelTask.forRetrieval_refuses (Gateway.chat_refuses context registered)).bind _

end Refuses

end Gateway

/-! ## Vectors -/

namespace GatewayEmbedder

variable {embedder : GatewayEmbedder σ} {keeps : σ → Prop} {context : RequestContext}

section Yields

variable (yields : ∀ backend ∈ embedder.gateway.backends, backend.Yields keeps context)

include yields

theorem embed_yields (texts : List String) :
    Task.Yields keeps context RetrievalFailure.interrupted (embedder.embed context texts) :=
  embedBatches_holds (Task.Yields.rules keeps context) yields 0 _

theorem embedOne_yields (text : String) :
    Task.Yields keeps context RetrievalFailure.interrupted (embedder.embedOne context text) :=
  embedOne_holds (Task.Yields.rules keeps context) yields text

end Yields

section Refuses

variable {selected : Backend σ}
  (registered : embedder.gateway.backend
    (embedder.backend.getD embedder.gateway.defaultBackend) = .ok selected)

include registered

theorem embed_refuses {texts : List String} (nonempty : texts ≠ []) :
    Refuses context RetrievalFailure.interrupted (embedder.embed context texts) := by
  unfold embed
  cases asked : batches (max embedder.batchSize 1) (by omega) texts with
  | nil => exact absurd asked (batches_ne_nil _ nonempty)
  | cons inputs rest =>
      have first : Refuses context RetrievalFailure.interrupted
          (embedder.embedBatch context 0 inputs) :=
        (Gateway.embed_refuses context registered).bind_lift fun _ => rfl
      exact first.bind _

theorem embedOne_refuses (text : String) :
    Refuses context RetrievalFailure.interrupted (embedder.embedOne context text) := by
  unfold embedOne
  exact (embed_refuses registered (List.cons_ne_nil text [])).bind_lift fun _ => rfl

end Refuses

end GatewayEmbedder

/-! ## Stores -/

/-- In states that everyone keeps, the store does not report interruptions. -/
structure VectorStore.Honest (keeps : σ → Prop) (store : VectorStore σ) : Prop where
  upsert : ∀ chunks, Task.Ensures keeps
    (fun outcome _ => Regular RetrievalFailure.interrupted outcome) (store.upsert chunks).run
  similaritySearch : ∀ embedding options, Task.Ensures keeps
    (fun outcome _ => Regular RetrievalFailure.interrupted outcome)
    (store.similaritySearch embedding options).run
  hybridSearch : ∀ query embedding options, Task.Ensures keeps
    (fun outcome _ => Regular RetrievalFailure.interrupted outcome)
    (store.hybridSearch query embedding options).run
  delete : ∀ filter, Task.Ensures keeps
    (fun outcome _ => Regular RetrievalFailure.interrupted outcome) (store.delete filter).run

structure VectorStore.Yields (keeps : σ → Prop) (context : RequestContext) (store : VectorStore σ) :
    Prop where
  upsert : ∀ chunks, Task.Yields keeps context RetrievalFailure.interrupted
    (context.guarded .interrupted (store.upsert chunks))
  similaritySearch : ∀ embedding options, Task.Yields keeps context RetrievalFailure.interrupted
    (context.guarded .interrupted (store.similaritySearch embedding options))
  hybridSearch : ∀ query embedding options, Task.Yields keeps context RetrievalFailure.interrupted
    (context.guarded .interrupted (store.hybridSearch query embedding options))
  delete : ∀ filter, Task.Yields keeps context RetrievalFailure.interrupted
    (context.guarded .interrupted (store.delete filter))

namespace VectorStore

def zoom (store : VectorStore σ) (part : τ → σ) (replace : σ → τ → τ) : VectorStore τ where
  upsert chunks := Task.zoomFailing part replace (store.upsert chunks)
  similaritySearch embedding options :=
    Task.zoomFailing part replace (store.similaritySearch embedding options)
  hybridSearch query embedding options :=
    Task.zoomFailing part replace (store.hybridSearch query embedding options)
  delete filter := Task.zoomFailing part replace (store.delete filter)

theorem Honest.zoom_yields {store : VectorStore σ} {keeps : σ → Prop} (honest : store.Honest keeps)
    {part : τ → σ} {replace : σ → τ → τ} {keepsWhole : τ → Prop} (context : RequestContext)
    (enters : ∀ whole, keepsWhole whole → keeps (part whole))
    (leaves : ∀ state whole, keeps state → keepsWhole whole → keepsWhole (replace state whole)) :
    (store.zoom part replace).Yields keepsWhole context where
  upsert chunks := .guarded_of_ensures ((honest.upsert chunks).zoomFailing enters leaves)
  similaritySearch embedding options :=
    .guarded_of_ensures ((honest.similaritySearch embedding options).zoomFailing enters leaves)
  hybridSearch query embedding options :=
    .guarded_of_ensures ((honest.hybridSearch query embedding options).zoomFailing enters leaves)
  delete filter := .guarded_of_ensures ((honest.delete filter).zoomFailing enters leaves)

end VectorStore

namespace MemoryStore

private theorem upsert_regular {store : MemoryStore} {chunks : List Chunk}
    {failure : RetrievalFailure} (refused : store.upsert chunks = .error failure) :
    Regular (α := Unit) RetrievalFailure.interrupted (.error failure) := by
  unfold upsert at refused
  split at refused
  · cases refused
    exact fun _ => nofun
  · cases refused

theorem vectorStore_honest {part : τ → MemoryStore} {replace : MemoryStore → τ → τ}
    {keeps : τ → Prop} (stays : ∀ store state, keeps state → keeps (replace store state)) :
    (vectorStore part replace).Honest keeps where
  upsert chunks now state kept := by
    rw [ExceptT.run, vectorStore_upsert_eq]
    cases stored : (part state).upsert chunks with
    | ok store => exact .finished ⟨.ok _ _, stays store state kept⟩
    | error failure => exact .finished ⟨upsert_regular stored, kept⟩
  similaritySearch _ _ _ _ kept := .finished ⟨.ok _ _, kept⟩
  hybridSearch _ _ _ _ _ kept := .finished ⟨.ok _ _, kept⟩
  delete _ _ state kept := .finished ⟨.ok _ _, stays _ state kept⟩

end MemoryStore

end GroundedAnswers
