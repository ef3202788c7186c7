import GroundedAnswers.Proofs.Gateway.Recording
import GroundedAnswers.Retrieval.Embedder

namespace GroundedAnswers

/-! Which vector belongs to which text. The record of the backends shows the batches that were
answered; the vectors of an embedder are those of the batches, text by text. -/

abbrev AnsweredBatch := EmbeddingRequest × EmbeddingResponse

namespace AnsweredBatch

def IsComplete (batch : AnsweredBatch) : Prop :=
  batch.2.embeddings.length = batch.1.inputs.length

def pairs (batch : AnsweredBatch) : List (String × Vector32) :=
  batch.1.inputs.zip batch.2.embeddings

/-- Side by side, the texts and the vectors of complete batches pair up within each batch. -/
theorem zip_flatMap {batches : List AnsweredBatch} (complete : ∀ batch ∈ batches, IsComplete batch) :
    (batches.flatMap fun batch => batch.1.inputs).zip (batches.flatMap fun batch => batch.2.embeddings) =
      batches.flatMap pairs := by
  induction batches with
  | nil => rfl
  | cons batch rest induction =>
      have first : batch.1.inputs.length = batch.2.embeddings.length :=
        (complete batch List.mem_cons_self).symm
      rw [List.flatMap_cons, List.flatMap_cons, List.flatMap_cons, List.zip_append first]
      rw [induction fun batch member => complete batch (List.mem_cons_of_mem _ member)]
      rfl

end AnsweredBatch

section

variable {context : RequestContext} {now moment : Moment} {before after : Recorded σ}

private theorem Gateway.exists_of_backend_recorded {gateway : Gateway σ} {name : String}
    {backend : Backend (Recorded σ)} (registered : gateway.recorded.backend name = .ok backend) :
    ∃ original : Backend σ, backend = original.recorded := by
  unfold Gateway.backend at registered
  rw [find?_recorded] at registered
  cases found : find? gateway.backends name with
  | none =>
      rw [found] at registered
      cases registered
  | some original =>
      rw [found] at registered
      cases registered
      exact ⟨original, rfl⟩

theorem Gateway.exists_of_run_embed {gateway : Gateway σ} {request : EmbeddingRequest}
    {response : EmbeddingResponse}
    (succeeded : Task.run (gateway.recorded.embed context request).run now before =
      (.ok response, moment, after)) :
    ∃ answer, response.embeddings = answer.embeddings ∧
      BackendEvent.embeddings after.events =
        BackendEvent.embeddings before.events ++ [(request, answer)] := by
  unfold Gateway.embed at succeeded
  rcases Task.exists_of_run_bind_ok succeeded with ⟨backend, _, _, selected, asked⟩
  rcases Task.exists_of_run_bind_ok asked with ⟨answer, reached, between, answered, completed⟩
  cases registered : gateway.recorded.backend
      (request.backend.getD gateway.recorded.defaultBackend) with
  | error failure =>
      rw [registered] at selected
      cases selected
  | ok found =>
      rw [registered] at selected
      cases selected
      rcases exists_of_backend_recorded registered with ⟨original, rfl⟩
      have replied := RequestContext.run_of_run_guarded answered
      change Task.run (recording _ _ (Reply.embedding request) _).run now before = _ at replied
      rw [run_recording] at replied
      rcases outcome : Task.run (original.embed context request).run now before.state with
        ⟨reply, _, _⟩
      rw [outcome] at replied
      cases replied
      cases completed
      exact ⟨answer, rfl, BackendEvent.embeddings_append _ _⟩

namespace GatewayEmbedder

variable {embedder : GatewayEmbedder (Recorded σ)} {gateway : Gateway σ}
  (records : embedder.gateway = gateway.recorded)

include records

private theorem exists_of_run_embedBatch {batch : Nat} {inputs : List String}
    {vectors : List Vector32}
    (succeeded : Task.run (embedder.embedBatch context batch inputs).run now before =
      (.ok vectors, moment, after)) :
    ∃ answered : AnsweredBatch, answered.1.inputs = inputs ∧ answered.2.embeddings = vectors ∧
      answered.IsComplete ∧
      BackendEvent.embeddings after.events =
        BackendEvent.embeddings before.events ++ [answered] := by
  let request : EmbeddingRequest := ⟨embedder.backend, embedder.model, inputs⟩
  rcases asked : Task.run (embedder.gateway.embed context request).run now before with
    ⟨outcome, reached, between⟩
  unfold embedBatch at succeeded
  rw [Task.run_bind_lift asked] at succeeded
  cases outcome with
  | error failure => cases failure <;> cases succeeded
  | ok response =>
      rw [records] at asked
      rcases Gateway.exists_of_run_embed asked with ⟨answer, same, noted⟩
      by_cases complete : response.embeddings.length = inputs.length
      · simp only [complete, if_true] at succeeded
        cases succeeded
        rw [same] at complete
        exact ⟨(request, answer), rfl, same.symm, complete, noted⟩
      · simp only [complete, if_false] at succeeded
        cases succeeded

private theorem exists_of_run_embedBatches {batch : Nat} {batches : List (List String)}
    {vectors : List Vector32}
    (succeeded : Task.run (embedder.embedBatches context batch batches).run now before =
      (.ok vectors, moment, after)) :
    ∃ answered : List AnsweredBatch,
      (answered.flatMap fun batch => batch.1.inputs) = batches.flatten ∧
      (answered.flatMap fun batch => batch.2.embeddings) = vectors ∧
      (∀ batch ∈ answered, batch.IsComplete) ∧
      BackendEvent.embeddings after.events =
        BackendEvent.embeddings before.events ++ answered := by
  induction batches generalizing batch now before vectors with
  | nil =>
      cases succeeded
      exact ⟨[], rfl, rfl, nofun, (List.append_nil _).symm⟩
  | cons inputs rest induction =>
      unfold embedBatches at succeeded
      rcases Task.exists_of_run_bind_ok succeeded with ⟨first, _, between, one, others⟩
      rcases Task.exists_of_run_bind_ok others with ⟨more, _, _, several, joined⟩
      cases joined
      rcases exists_of_run_embedBatch records one with ⟨head, texts, embedded, complete, noted⟩
      rcases induction several with ⟨tail, restTexts, restEmbedded, restComplete, restNoted⟩
      refine ⟨head :: tail, ?_, ?_, ?_, ?_⟩
      · rw [List.flatMap_cons, texts, restTexts, List.flatten_cons]
      · rw [List.flatMap_cons, embedded, restEmbedded]
      · intro batch member
        rcases List.mem_cons.mp member with rfl | member
        · exact complete
        · exact restComplete batch member
      · rw [restNoted, noted, List.append_assoc, List.singleton_append]

theorem exists_of_run_embed {texts : List String} {vectors : List Vector32}
    (succeeded : Task.run (embedder.embed context texts).run now before =
      (.ok vectors, moment, after)) :
    ∃ answered : List AnsweredBatch,
      vectors.length = texts.length ∧
      texts.zip vectors = answered.flatMap AnsweredBatch.pairs ∧
      (∀ batch ∈ answered, batch.IsComplete) ∧
      BackendEvent.embeddings after.events =
        BackendEvent.embeddings before.events ++ answered := by
  rcases exists_of_run_embedBatches records succeeded with
    ⟨answered, asked, embedded, complete, noted⟩
  rw [flatten_batches] at asked
  refine ⟨answered, ?_, ?_, complete, noted⟩
  · rw [← asked, ← embedded, List.length_flatMap, List.length_flatMap]
    exact congrArg List.sum (List.map_congr_left complete)
  · rw [← asked, ← embedded, AnsweredBatch.zip_flatMap complete]

end GatewayEmbedder

end

end GroundedAnswers
