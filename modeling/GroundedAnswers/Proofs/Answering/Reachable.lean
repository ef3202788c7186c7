import GroundedAnswers.Proofs.Answering.Faithful
import GroundedAnswers.Proofs.Answering.Schedule

namespace GroundedAnswers

/-! The states of a store in memory that operations lead to, and what is found in them. -/

abbrev PipelineProgress (σ : Type) : Type :=
  Progress (PipelineState σ) (Except RetrievalFailure PipelineResult)

/-- A state that operations share, and those that have started in it. Each of them acts until it has
to wait, then any of them may go on, and nothing says that one ever does. -/
inductive Reachable {σ : Type} : PipelineState σ → List (PipelineProgress σ) → Prop
  | empty (services : σ) (drawn : Nat) : Reachable ⟨services, ⟨[]⟩, drawn⟩ []
  | started {state : PipelineState σ} {running : List (PipelineProgress σ)}
      (reachable : Reachable state running) (settings : RetrievalSettings) (gateway : Gateway σ)
      (identifiers : Nat → Identifier) (context : RequestContext) (operation : PipelineOperation)
      (now : Moment) {progress : PipelineProgress σ}
      (starts : (Pipeline.inMemory settings gateway identifiers).perform context operation now state =
        progress) :
      Reachable progress.reached (progress :: running)
  | resumed {state held : PipelineState σ} {wake : Moment}
      {resume : PipelineState σ → PipelineProgress σ} {before after : List (PipelineProgress σ)}
      (reachable : Reachable state (before ++ .waiting wake held resume :: after)) :
      Reachable (resume state).reached (before ++ resume state :: after)

private theorem Reachable.performed {state : PipelineState σ} {running : List (PipelineProgress σ)}
    (reachable : Reachable state running) (settings : RetrievalSettings) (gateway : Gateway σ)
    (identifiers : Nat → Identifier) (context : RequestContext) (operation : PipelineOperation)
    (now : Moment) :
    ∃ running, Reachable (Task.run ((Pipeline.inMemory settings gateway identifiers).perform context
      operation).run now state).2.2 running := by
  have ends : ∀ (progress : PipelineProgress σ) (now : Moment),
      Reachable progress.reached (progress :: running) →
      ∃ running, Reachable (progress.run now).2.2 running := by
    intro progress
    induction progress with
    | finished answer state => exact fun _ reachable => ⟨_, reachable⟩
    | waiting wake held resume induction =>
        intro now reachable
        have resumed : Reachable held ([] ++ .waiting wake held resume :: running) := reachable
        exact induction held wake resumed.resumed
  exact ends _ now (reachable.started settings gateway identifiers context operation now rfl)

/-- Whatever becomes of the work, identifiers stay distinct. -/
def PipelineProgress.KeepsDistinct (progress : PipelineProgress σ) : Prop :=
  ∃ now, Progress.Ensures (Keeping MemoryStore.Distinct)
    (fun _ _ state => Keeping MemoryStore.Distinct state) now progress

theorem PipelineProgress.KeepsDistinct.reached {progress : PipelineProgress σ}
    (keeps : progress.KeepsDistinct) : progress.reached.store.Distinct := by
  rcases keeps with ⟨now, ensured⟩
  cases ensured with
  | finished ended => exact ended
  | waiting reached _ => exact reached

private theorem Reachable.keeps_distinct {state : PipelineState σ}
    {running : List (PipelineProgress σ)} (reachable : Reachable state running) :
    state.store.Distinct ∧ ∀ progress ∈ running, progress.KeepsDistinct := by
  induction reachable with
  | empty services drawn =>
      exact ⟨MemoryStore.distinct_empty, fun _ member => absurd member List.not_mem_nil⟩
  | @started state running _ settings gateway identifiers context operation now progress starts
      induction =>
      have keeps : progress.KeepsDistinct := by
        have performed := Pipeline.perform_keeps_distinct settings gateway identifiers context
          operation now state induction.1
        rw [← starts]
        exact ⟨now, performed.imp fun _ _ _ ended => ended.2⟩
      exact ⟨keeps.reached, List.forall_mem_cons.mpr ⟨keeps, induction.2⟩⟩
  | @resumed state held wake resume before after _ induction =>
      rcases induction with ⟨distinct, running⟩
      rw [List.forall_mem_append, List.forall_mem_cons] at running
      rcases running with ⟨earlier, ⟨now, ensured⟩, later⟩
      have keeps : (resume state).KeepsDistinct := by
        cases ensured with
        | waiting _ resumed => exact ⟨wake, resumed state distinct⟩
      refine ⟨keeps.reached, ?_⟩
      rw [List.forall_mem_append, List.forall_mem_cons]
      exact ⟨earlier, keeps, later⟩

namespace Pipeline

private theorem effectiveTopK_eq (requested : Int32) (standard : UInt64) :
    effectiveTopK requested standard =
      if 0 < requested.toInt then requested.toInt.toNat else standard.toNat := by
  unfold effectiveTopK
  simp only [Int32.lt_iff_toInt_lt, Int32.toInt_zero]

/-- In a reachable state, a search finds no more results than asked for, no chunk twice, and each as
it is stored for the tenant, whatever models reply. An answer rests on such results. -/
theorem results_are_stored_chunks {settings : RetrievalSettings} {gateway : Gateway σ}
    {identifiers : Nat → Identifier} {pipeline : Pipeline (PipelineState σ)}
    (built : (PipelineDraft.inMemory settings gateway).build (PipelineState.draw identifiers) =
      .ok pipeline)
    {state : PipelineState σ} {running : List (PipelineProgress σ)}
    (reachable : Reachable state running) (context : RequestContext) (now : Moment) :
    let known (chunk : Chunk) := chunk ∈ state.store.chunks ∧ chunk.tenant = context.tenant
    let limit (requested : Int32) (standard : UInt64) :=
      if 0 < requested.toInt then requested.toInt.toNat else standard.toNat
    (∀ request results moment after,
      Task.run (pipeline.search context request).run now state = (.ok results, moment, after) →
      after.store = state.store ∧
        Faithful known (limit request.topK settings.searchTopK) results) ∧
    ∀ request : QueryRequest,
      let (found, moment, after) := Task.run (pipeline.findRanked context request.toSearchRequest
        settings.queryTopK).run now state
      let answered := Task.run (pipeline.query context request).run now state
      match found with
      | .error failure => answered = (.error failure, moment, after)
      | .ok results =>
          after.store = state.store ∧
          Faithful known (limit request.topK settings.queryTopK) results ∧
          answered = Task.run (do
            let answer ← Generation.generate pipeline.gateway
              settings.citationPreviewCharacters.toNat context request.query results request.model
              request.backend
            return (⟨answer.answer, answer.citations, answer.model, answer.usage.totalTokens,
              answer.cost⟩ : QueryResponse)
            : RetrievalTask (PipelineState σ) QueryResponse).run moment after := by
  intro known limit
  have same := Except.ok.inj
    (built.symm.trans (PipelineDraft.build_inMemory settings gateway identifiers))
  subst same
  have vouches : Vouches (· = state.store) context.tenant known := by
    refine ⟨fun store same => ?_, fun store same chunk stored isOwn => ?_⟩
    · rw [same]
      exact reachable.keeps_distinct.1
    · exact ⟨same ▸ stored, isOwn⟩
  have ranked : ∀ (request : SearchRequest) standardTopK,
      let ended := Task.run ((inMemory settings gateway identifiers).findRanked context request
        standardTopK).run now state
      IfOk (Faithful known (limit request.topK standardTopK)) ended.1 ended.2.1 ∧
        ended.2.2.store = state.store := by
    intro request standardTopK
    have ended := (findRanked_faithful settings gateway identifiers context vouches request
      standardTopK).run now (rfl : Keeping (· = state.store) state)
    rw [effectiveTopK_eq] at ended
    exact ended
  refine ⟨fun request results moment after found => ?_, fun request => ?_⟩
  · have held := ranked request settings.searchTopK
    have ran : Task.run ((inMemory settings gateway identifiers).findRanked context request
      settings.searchTopK).run now state = (.ok results, moment, after) := found
    rw [ran] at held
    exact ⟨held.2, held.1 results rfl⟩
  · have held := ranked request.toSearchRequest settings.queryTopK
    rcases ran : Task.run ((inMemory settings gateway identifiers).findRanked context
      request.toSearchRequest settings.queryTopK).run now state with ⟨found, moment, after⟩
    rw [ran] at held
    cases found with
    | error failure => exact Task.run_bind_of_error ran _
    | ok results => exact ⟨held.2, held.1 results rfl, Task.run_bind_of_ok ran _⟩

/-- A model that cannot be asked for variants or for a passage leaves the query to be looked for. -/
theorem results_are_stored_chunks_after_ingest :
    let pipeline := inMemory {} constantGateway .ofNat
    let context := RequestContext.ofTenant (.ofNat 1)
    let document : IngestRequest := ⟨.ofNat 9, "Ab. cd", some ⟨2, 0, .sentence⟩, ∅⟩
    let state := (Task.run (pipeline.perform context (.ingest document)).run 0 ⟨(), ⟨[]⟩, 0⟩).2.2
    let request : SearchRequest :=
      { query := "cd", topK := 1, rephrase := true, hypothetical := true }
    (PipelineDraft.inMemory {} constantGateway).build (PipelineState.draw .ofNat) = .ok pipeline ∧
    (∃ running, Reachable state running) ∧
    state.store.chunks.map Chunk.content = ["Ab.", "cd"] ∧
    ∃ results moment after,
      Task.run (pipeline.search context request).run 20 state = (.ok results, moment, after) ∧
      after.store = state.store ∧ results.length ≤ 1 ∧
      ∀ result ∈ results, ∃ chunk, (chunk ∈ state.store.chunks ∧ chunk.tenant = context.tenant) ∧
        result.Shows chunk := by
  intro pipeline context document state request
  have built : (PipelineDraft.inMemory {} constantGateway).build (PipelineState.draw .ofNat) =
      .ok pipeline := PipelineDraft.build_inMemory _ _ _
  have reachable : ∃ running, Reachable state running :=
    (Reachable.empty () 0).performed {} constantGateway .ofNat context (.ingest document) 0
  have contents : state.store.chunks.map Chunk.content = ["Ab.", "cd"] := by
    decide +kernel
  have succeeds :
      (Task.run (pipeline.search context request).run 20 state).1.toOption.isSome = true := by
    decide +kernel
  refine ⟨built, reachable, contents, ?_⟩
  rcases ran : Task.run (pipeline.search context request).run 20 state with
    ⟨outcome, moment, after⟩
  rw [ran] at succeeds
  cases outcome with
  | error failure => cases succeeds
  | ok results =>
      rcases reachable with ⟨running, reachable⟩
      have found := (results_are_stored_chunks built reachable context 20).1 request results moment
        after ran
      exact ⟨results, moment, after, rfl, found.1, found.2.few, found.2.shown⟩

end Pipeline

end GroundedAnswers
