import GroundedAnswers.Answering.Generation
import GroundedAnswers.Proofs.Gateway.Zoom
import GroundedAnswers.Retrieval.Embedder
import GroundedAnswers.Retrieval.Reranking
import GroundedAnswers.Retrieval.Rephrasing

namespace GroundedAnswers

/-! The helpers of a pipeline that only talk to a gateway: on a part of a state they do what they do
on the part itself. -/

open GroundedAnswers.Task (zoomFailing zoomFailing_pure zoomFailing_throw zoomFailing_adapt
  bind_zoomFailing bind_lift_zoomFailing)

variable {part : τ → σ} {replace : σ → τ → τ}

def GatewayEmbedder.zoom (embedder : GatewayEmbedder σ) (part : τ → σ) (replace : σ → τ → τ) :
    GatewayEmbedder τ where
  gateway := embedder.gateway.zoom part replace
  model := embedder.model
  backend := embedder.backend
  batchSize := embedder.batchSize

section

variable (isPart : Task.IsPart part replace)

include isPart

private theorem Embedder.firstOf_zoom (vectors : List Vector32) :
    (Embedder.firstOf vectors : RetrievalTask τ Vector32) =
      zoomFailing part replace (Embedder.firstOf vectors) := by
  cases vectors with
  | nil => exact (zoomFailing_throw isPart _).symm
  | cons vector others => exact (zoomFailing_pure isPart _).symm

namespace GatewayEmbedder

variable (embedder : GatewayEmbedder σ) (context : RequestContext)

private theorem embedBatch_zoom (batch : Nat) (inputs : List String) :
    (embedder.zoom part replace).embedBatch context batch inputs =
      zoomFailing part replace (embedder.embedBatch context batch inputs) := by
  have asked : (embedder.zoom part replace).gateway.embed context
      ⟨embedder.backend, embedder.model, inputs⟩ = zoomFailing part replace
        (embedder.gateway.embed context ⟨embedder.backend, embedder.model, inputs⟩) :=
    Gateway.embed_zoom isPart embedder.gateway context _
  change (ExceptT.lift ((embedder.zoom part replace).gateway.embed context
    ⟨embedder.backend, embedder.model, inputs⟩).run >>= _ : RetrievalTask τ _) = _
  rw [asked]
  refine bind_lift_zoomFailing isPart _ fun outcome => ?_
  cases outcome with
  | error failure => cases failure <;> exact (zoomFailing_throw isPart _).symm
  | ok response =>
      by_cases complete : response.embeddings.length = inputs.length
      · simp only [complete, if_true]
        exact (zoomFailing_pure isPart _).symm
      · simp only [complete, if_false]
        exact (zoomFailing_throw isPart _).symm

private theorem embedBatches_zoom (batch : Nat) (batches : List (List String)) :
    (embedder.zoom part replace).embedBatches context batch batches =
      zoomFailing part replace (embedder.embedBatches context batch batches) := by
  induction batches generalizing batch with
  | nil => exact (zoomFailing_pure isPart _).symm
  | cons inputs rest induction =>
      unfold embedBatches
      rw [embedBatch_zoom isPart]
      refine bind_zoomFailing isPart _ fun vectors => ?_
      rw [induction]
      exact bind_zoomFailing isPart _ fun others => (zoomFailing_pure isPart _).symm

theorem embed_zoom (texts : List String) :
    (embedder.zoom part replace).embed context texts =
      zoomFailing part replace (embedder.embed context texts) :=
  embedBatches_zoom isPart embedder context _ _

theorem embedOne_zoom (text : String) :
    (embedder.zoom part replace).embedOne context text =
      zoomFailing part replace (embedder.embedOne context text) := by
  unfold embedOne
  rw [embed_zoom isPart]
  refine bind_lift_zoomFailing isPart _ fun outcome => ?_
  cases outcome with
  | ok vectors => exact Embedder.firstOf_zoom isPart vectors
  | error failure =>
      cases failure with
      | vectorCount batch expected actual =>
          cases actual <;> exact (zoomFailing_throw isPart _).symm
      | _ => exact (zoomFailing_throw isPart _).symm

end GatewayEmbedder

variable (gateway : Gateway σ) (model : String) (context : RequestContext) (query : String)

theorem Rephraser.byModel_zoom :
    Rephraser.byModel (gateway.zoom part replace) model context query =
      zoomFailing part replace (Rephraser.byModel gateway model context query) := by
  unfold Rephraser.byModel
  simp only [Gateway.chat_zoom isPart]
  refine bind_lift_zoomFailing isPart _ fun outcome => ?_
  cases outcome with
  | ok response => exact (zoomFailing_pure isPart _).symm
  | error failure =>
      cases failure <;> first
        | exact (zoomFailing_throw isPart _).symm
        | exact (zoomFailing_pure isPart _).symm

theorem forRetrieval_chat_zoom (request : ChatRequest) :
    ((gateway.zoom part replace).chat context request).forRetrieval =
      zoomFailing part replace (gateway.chat context request).forRetrieval := by
  unfold ModelTask.forRetrieval
  rw [Gateway.chat_zoom isPart, zoomFailing_adapt isPart]

theorem PassageWriter.byModel_zoom :
    PassageWriter.byModel (gateway.zoom part replace) model context query =
      zoomFailing part replace (PassageWriter.byModel gateway model context query) := by
  unfold PassageWriter.byModel
  simp only [forRetrieval_chat_zoom isPart]
  exact bind_zoomFailing isPart _ fun response => (zoomFailing_pure isPart _).symm

end

end GroundedAnswers
