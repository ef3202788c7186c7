import GroundedAnswers.Proofs.Places
import GroundedAnswers.Proofs.Retrieval.BatchSeries
import Mathlib.Data.List.Basic

namespace GroundedAnswers

/-! Texts embedded in batches. Batches are asked for one after another, until one of them goes
wrong; when none does, each text has the vector at its place in its batch. -/

namespace GatewayEmbedder

section Embedding

variable (embedder : GatewayEmbedder σ) (context : RequestContext) (texts : List String)

def size : Nat :=
  max embedder.batchSize 1

private theorem size_pos : 0 < embedder.size :=
  Nat.lt_of_lt_of_le Nat.one_pos (Nat.le_max_right _ _)

def count : Nat :=
  (texts.length + embedder.size - 1) / embedder.size

def batch (index : Nat) : List String :=
  (texts.drop (index * embedder.size)).take embedder.size

def series (backend : Backend σ) (now : Moment) (state : σ) : BatchSeries σ where
  backend := backend
  context := context
  request index := ⟨embedder.backend, embedder.model, embedder.batch texts index⟩
  start := now
  state := state

variable {embedder context texts} {backend : Backend σ} {now : Moment} {before : Recorded σ}
  (registered : embedder.gateway.backend
    (embedder.backend.getD embedder.gateway.defaultBackend) = .ok backend)

include registered

private theorem run_embed_of_complete
    (complete : ∀ index < embedder.count texts,
      (embedder.series context texts backend now before.state).Complete index) :
    let series := embedder.series context texts backend now before.state
    let count := embedder.count texts
    Task.run (embedder.recorded.embed context texts).run now before =
      (.ok ((List.range' 0 count).flatMap series.vectors), (series.begins count).1,
        ⟨(series.begins count).2, before.events ++ series.events 0 count⟩) := by
  intro series count
  let blocks := batches embedder.size embedder.size_pos texts
  have many : blocks.length = count := length_batches embedder.size_pos texts
  have reached : 0 + count ≤ blocks.length := by omega
  have asks : ∀ index, series.request index =
    ⟨embedder.backend, embedder.model, embedder.batch texts index⟩ := fun _ => rfl
  have whole := run_embedBatches_of_complete asks registered
    (getD_batches embedder.size_pos texts) reached
    (fun index _ early => complete index (by omega)) before.events
  have nothing : blocks.drop count = [] := List.drop_of_length_le (Nat.le_of_eq many)
  simp only [Nat.zero_add] at whole
  rw [nothing] at whole
  refine whole.trans ?_
  simp [embedBatches, Except.map]

private theorem run_embed_of_failed {bad : Nat} (inside : bad < embedder.count texts)
    (complete : ∀ index < bad,
      (embedder.series context texts backend now before.state).Complete index)
    {failure : RetrievalFailure} {moment : Moment} {after : Recorded σ}
    (failed :
      let series := embedder.series context texts backend now before.state
      Task.run (embedder.recorded.embedBatch context bad (embedder.batch texts bad)).run
        (series.begins bad).1 ⟨(series.begins bad).2, before.events ++ series.events 0 bad⟩ =
          (.error failure, moment, after)) :
    Task.run (embedder.recorded.embed context texts).run now before =
      (.error failure, moment, after) := by
  let series := embedder.series context texts backend now before.state
  let blocks := batches embedder.size embedder.size_pos texts
  have many : blocks.length = embedder.count texts := length_batches embedder.size_pos texts
  have asks : ∀ index, series.request index =
    ⟨embedder.backend, embedder.model, embedder.batch texts index⟩ := fun _ => rfl
  exact run_embedBatches_of_failed asks registered (getD_batches embedder.size_pos texts)
    (many ▸ inside) complete failed

/-- Where every batch is complete, each text has a vector from its place in its batch. -/
theorem exists_vectors_of_complete
    (complete : ∀ index < embedder.count texts,
      (embedder.series context texts backend now before.state).Complete index) :
    let series := embedder.series context texts backend now before.state
    let (answer, _, after) := Task.run (embedder.recorded.embed context texts).run now before
    after.events = before.events ++ series.events 0 (embedder.count texts) ∧
    ∃ vectors, answer = .ok vectors ∧ vectors.length = texts.length ∧
      ∀ index < texts.length,
        texts[index]? = (embedder.batch texts (index / embedder.size))[index % embedder.size]? ∧
        ∃ response, series.outcome (index / embedder.size) = .ok response ∧
          vectors[index]? = response.embeddings[index % embedder.size]? := by
  intro series
  have long : ∀ index < embedder.count texts,
      (series.vectors index).length = (embedder.batch texts index).length := by
    intro index inside
    rcases (complete index inside).2 with ⟨response, outcome, long⟩
    rw [BatchSeries.vectors, outcome]
    exact long
  rcases places_of_lengths embedder.size_pos texts long with ⟨all, placed⟩
  rw [run_embed_of_complete registered complete]
  refine ⟨rfl, _, rfl, all, fun index inside => ⟨(placed index inside).1, ?_⟩⟩
  have isBatch : index / embedder.size < embedder.count texts :=
    div_lt_count embedder.size_pos inside
  rcases (complete _ isBatch).2 with ⟨response, outcome, _⟩
  refine ⟨response, outcome, (placed index inside).2.trans ?_⟩
  rw [BatchSeries.vectors, outcome]

/-- A service that lists a row for each text of a batch puts its vectors in the places of the
texts. -/
theorem exists_rows_of_lists {endpoint : Endpoint σ} (serves : backend = OpenAi.backend endpoint)
    (listed :
      let series := embedder.series context texts backend now before.state
      ∀ index < embedder.count texts, series.Timely index ∧
        ∃ rows, series.Lists index endpoint rows ∧
          (rows.map fun row => row.1.toNat).Perm
            (List.range (embedder.batch texts index).length)) :
    let series := embedder.series context texts backend now before.state
    let (answer, _, _) := Task.run (embedder.recorded.embed context texts).run now before
    ∃ vectors, answer = .ok vectors ∧ vectors.length = texts.length ∧
      ∀ index < texts.length, ∃ rows label vector,
        series.Lists (index / embedder.size) endpoint rows ∧ (label, vector) ∈ rows ∧
        label.toNat = index % embedder.size ∧ vectors[index]? = some vector := by
  intro series
  have complete : ∀ index < embedder.count texts, series.Complete index := by
    intro index inside
    rcases listed index inside with ⟨timely, rows, lists, numbered⟩
    exact BatchSeries.complete_of_lists serves timely lists numbered
  rcases exists_vectors_of_complete registered complete with ⟨_, vectors, answered, all, placed⟩
  refine ⟨vectors, answered, all, fun index inside => ?_⟩
  rcases listed _ (div_lt_count embedder.size_pos inside) with ⟨_, rows, lists, numbered⟩
  rcases placed index inside with ⟨isText, response, outcome, place⟩
  rcases BatchSeries.outcome_of_lists serves lists with ⟨_, listedOutcome, inOrder⟩
  rw [outcome] at listedOutcome
  cases listedOutcome
  have isPlace : index % embedder.size <
      (embedder.batch texts (index / embedder.size)).length := by
    rw [List.getElem?_eq_getElem inside] at isText
    exact (List.getElem?_eq_some_iff.mp isText.symm).1
  have isNumbered : OpenAi.Numbered rows
    (embedder.batch texts (index / embedder.size)).length := numbered
  rcases isNumbered.exists_row isPlace with ⟨label, vector, member, named⟩
  refine ⟨rows, label, vector, lists, member, named, ?_⟩
  rw [place, inOrder, ← named]
  exact isNumbered.getElem?_ordered member

private theorem failure_of_timely {bad : Nat}
    (timely : (embedder.series context texts backend now before.state).Timely bad)
    (incomplete : ¬(embedder.series context texts backend now before.state).Complete bad)
    (inside : bad < embedder.count texts)
    (complete : ∀ index < bad,
      (embedder.series context texts backend now before.state).Complete index) :
    let series := embedder.series context texts backend now before.state
    let (answer, _, after) := Task.run (embedder.recorded.embed context texts).run now before
    after.events = before.events ++ series.events 0 (bad + 1) ∧
    match series.outcome bad with
    | .error (.interrupted cause) => answer = .error (.interrupted cause)
    | .error failure => answer = .error (.embeddingBatch bad failure)
    | .ok response => answer = .error
        (.vectorCount bad (embedder.batch texts bad).length response.embeddings.length) := by
  intro series
  have asks : ∀ index, series.request index =
    ⟨embedder.backend, embedder.model, embedder.batch texts index⟩ := fun _ => rfl
  have ended := run_embedBatch_of_timely asks registered timely
    (before.events ++ series.events 0 bad)
  have events : before.events ++ series.events 0 bad ++ series.callEvents bad =
      before.events ++ series.events 0 (bad + 1) := by
    rw [BatchSeries.events, BatchSeries.events, List.range'_concat]
    simp
  rw [events] at ended
  cases outcome : series.outcome bad with
  | error failure =>
      rw [outcome] at ended
      cases failure <;> exact run_embed_of_failed registered inside complete ended ▸ ⟨rfl, rfl⟩
  | ok response =>
      have short : response.embeddings.length ≠ (embedder.batch texts bad).length := by
        intro same
        exact incomplete ⟨timely, response, outcome, same⟩
      rw [outcome, settled, if_neg short] at ended
      rw [run_embed_of_failed registered inside complete ended]
      exact ⟨rfl, rfl⟩

end Embedding

theorem run_embed_of_unregistered (embedder : GatewayEmbedder σ) (context : RequestContext)
    (texts : List String) (now : Moment) (before : Recorded σ) {failure : ModelFailure}
    (unregistered : embedder.gateway.backend
      (embedder.backend.getD embedder.gateway.defaultBackend) = .error failure) :
    Task.run (embedder.recorded.embed context texts).run now before =
      (if texts = [] then .ok [] else .error (.embeddingBatch 0 failure), now, before) := by
  rcases Gateway.backend_recorded_of_error unregistered with ⟨missing, regular⟩
  change Task.run (embedder.recorded.embedBatches context 0
    (batches embedder.size embedder.size_pos texts)).run now before = _
  have joined := flatten_batches embedder.size embedder.size_pos texts
  have many := length_batches embedder.size_pos texts
  cases blocks : batches embedder.size embedder.size_pos texts with
  | nil =>
      rw [blocks] at joined
      have nothing : texts = [] := joined.symm
      rw [if_pos nothing]
      rfl
  | cons inputs rest =>
      have some : texts ≠ [] := by
        rintro rfl
        rw [blocks, List.length_nil, Nat.zero_add,
          Nat.div_eq_of_lt (Nat.sub_one_lt_of_lt embedder.size_pos)] at many
        cases many
      let request : EmbeddingRequest := ⟨embedder.backend, embedder.model, inputs⟩
      have unselected : embedder.recorded.gateway.backend
        (request.backend.getD embedder.recorded.gateway.defaultBackend) = .error failure := missing
      have refused := Gateway.run_embed_of_unregistered unselected context now before
      have failed := run_embedBatch embedder.recorded context 0 refused
      rw [if_neg some, embedBatches]
      refine (Task.run_bind_of_error (failed.trans ?_) _)
      cases failure with
      | interrupted cause => cases regular
      | _ => rfl

/-- Texts are embedded in batches of one size, one batch after another. When each of them is
answered in time and in full, the vector at each place is that of the text there. The first batch
that is not ends it all: as an interruption where the context is interrupted before the answer or
the backend reports one, and otherwise with the number of the batch. An OpenAI service may list its
vectors in any order, since their indices name the places. -/
theorem embed_keeps_places (embedder : GatewayEmbedder σ) (context : RequestContext)
    (texts : List String) (now : Moment) (before : Recorded σ) :
    let (answer, _, after) := Task.run (embedder.recorded.embed context texts).run now before
    match embedder.gateway.backend (embedder.backend.getD embedder.gateway.defaultBackend) with
    | .error failure =>
        after = before ∧
          answer = if texts = [] then .ok [] else .error (.embeddingBatch 0 failure)
    | .ok backend =>
        let series := embedder.series context texts backend now before.state
        ((∀ index < embedder.count texts, series.Complete index) →
          after.events = before.events ++ series.events 0 (embedder.count texts) ∧
          ∃ vectors, answer = .ok vectors ∧ vectors.length = texts.length ∧
            ∀ index < texts.length,
              texts[index]? =
                (embedder.batch texts (index / embedder.size))[index % embedder.size]? ∧
              ∃ response, series.outcome (index / embedder.size) = .ok response ∧
                vectors[index]? = response.embeddings[index % embedder.size]?) ∧
        (∀ bad < embedder.count texts, (∀ index < bad, series.Complete index) →
          (∀ cause, context.interruption? (series.begins bad).1 = some cause →
            after.events = before.events ++ series.events 0 bad ∧
            answer = .error (.interrupted cause)) ∧
          (context.interruption? (series.begins bad).1 = none →
            (∃ wake ∈ series.waits bad, (context.interruption? wake).isSome) →
            after.events = before.events ++ series.events 0 bad ++ [series.asked bad] ∧
            ∃ stop cause, context.stopsAt? = some stop ∧
              context.interruption? stop = some cause ∧ answer = .error (.interrupted cause)) ∧
          (series.Timely bad → ¬series.Complete bad →
            after.events = before.events ++ series.events 0 (bad + 1) ∧
            match series.outcome bad with
            | .error (.interrupted cause) => answer = .error (.interrupted cause)
            | .error failure => answer = .error (.embeddingBatch bad failure)
            | .ok response => answer = .error (.vectorCount bad (embedder.batch texts bad).length
                response.embeddings.length))) ∧
        ∀ endpoint, backend = OpenAi.backend endpoint →
          (∀ index < embedder.count texts, series.Timely index ∧
            ∃ rows, series.Lists index endpoint rows ∧
              (rows.map fun row => row.1.toNat).Perm
                (List.range (embedder.batch texts index).length)) →
          ∃ vectors, answer = .ok vectors ∧ vectors.length = texts.length ∧
            ∀ index < texts.length, ∃ rows label vector,
              series.Lists (index / embedder.size) endpoint rows ∧ (label, vector) ∈ rows ∧
              label.toNat = index % embedder.size ∧ vectors[index]? = some vector := by
  rcases ran : Task.run (embedder.recorded.embed context texts).run now before with
    ⟨answer, moment, after⟩
  cases registered :
      embedder.gateway.backend (embedder.backend.getD embedder.gateway.defaultBackend) with
  | error failure =>
      have refused := embedder.run_embed_of_unregistered context texts now before registered
      rw [ran] at refused
      cases refused
      exact ⟨rfl, rfl⟩
  | ok backend =>
      let series := embedder.series context texts backend now before.state
      have asks : ∀ index, series.request index =
        ⟨embedder.backend, embedder.model, embedder.batch texts index⟩ := fun _ => rfl
      refine ⟨fun complete => ?_, fun bad inside complete => ⟨?_, ?_, ?_⟩, ?_⟩
      · have placed := exists_vectors_of_complete registered complete
        rw [ran] at placed
        exact placed
      · intro cause look
        have refused := run_embedBatch_of_interrupted asks registered look
          (before.events ++ series.events 0 bad)
        have ended := run_embed_of_failed registered inside complete refused
        rw [ran] at ended
        cases ended
        exact ⟨rfl, rfl⟩
      · rintro calm ⟨wake, awaited, late⟩
        rcases run_embedBatch_of_late asks registered calm awaited late
          (before.events ++ series.events 0 bad) with
          ⟨stop, cause, after, stops, look, noted, dropped⟩
        have ended := run_embed_of_failed registered inside complete dropped
        rw [ran] at ended
        cases ended
        exact ⟨noted, _, cause, stops, look, rfl⟩
      · intro timely incomplete
        have ended := failure_of_timely registered timely incomplete inside complete
        rw [ran] at ended
        exact ended
      · intro endpoint serves listed
        have placed := exists_rows_of_lists registered serves listed
        rw [ran] at placed
        exact placed

def quitting : Backend Unit where
  name := "mock"
  models := []
  chat _ _ := throw (.interrupted .cancelled)
  chatStream _ _ := throw (.interrupted .cancelled)
  embed _ _ := throw (.interrupted .cancelled)

/-- The failure of a backend does not carry the number of the batch when it is an interruption, not
even under a context that nothing interrupts. -/
theorem embed_relays_interruption :
    let gateway : Gateway Unit := ⟨[quitting], "mock", none, none, none, ⟨0, .ofMilliseconds 0⟩⟩
    let embedder : GatewayEmbedder Unit := ⟨gateway, "e", none, 2⟩
    let context := RequestContext.ofTenant (.ofNat 1)
    gateway.backend "mock" = .ok quitting ∧
    (∀ moment, context.interruption? moment = none) ∧
    (∀ request, (Task.run (quitting.embed context request).run 0 ()).1 =
      .error (.interrupted .cancelled)) ∧
    ∀ failure, (Task.run (embedder.embed context ["text number 0"]).run 0 ()).1 ≠
      .error (.embeddingBatch 0 failure) := by
  intro gateway embedder context
  refine ⟨rfl, fun _ => rfl, fun _ => rfl, fun failure named => ?_⟩
  have relayed : (Task.run (embedder.embed context ["text number 0"]).run 0 ()).1 =
      .error (.interrupted .cancelled) := by
    decide +kernel
  rw [relayed] at named
  cases named

end GatewayEmbedder

end GroundedAnswers