import GroundedAnswers.Proofs.Answering.Yielding
import GroundedAnswers.Proofs.Gateway.Course
import GroundedAnswers.Proofs.Number.Printing

namespace GroundedAnswers

/-! The sources of an answer. The model reads them and the citations name them in the same order,
that of the results. -/

private theorem Text.toList_preview (text : String) (characters : Nat) :
    (preview text characters).toList = text.toList.take characters ++
      if characters < text.toList.length then ['.', '.', '.'] else [] := by
  unfold preview
  by_cases whole : text.toList.length ≤ characters
  · rw [if_pos whole, if_neg (Nat.not_lt.mpr whole), List.take_of_length_le whole, List.append_nil]
  · rw [if_neg whole, if_pos (Nat.lt_of_not_le whole), String.toList_append, String.toList_ofList]
    rfl

private theorem ChatRequest.messages_withDefaultModel (request : ChatRequest)
    (model : Option String) :
    (request.withDefaultModel model).messages = request.messages := by
  unfold withDefaultModel
  split
  · split <;> rfl
  · rfl

private theorem ModelTask.run_of_run_forRetrieval {task : ModelTask σ α} {now moment : Moment}
    {state after : σ} {value : α}
    (succeeded : Task.run task.forRetrieval.run now state = (.ok value, moment, after)) :
    Task.run task.run now state = (.ok value, moment, after) := by
  rcases ran : Task.run task.run now state with ⟨outcome, reached, between⟩
  have adapted : Task.run task.forRetrieval.run now state =
      (outcome.mapError RetrievalFailure.ofModel, reached, between) := by
    change Task.run (Except.mapError RetrievalFailure.ofModel <$> task.run) now state = _
    rw [Task.run_map, ran]
  rw [adapted] at succeeded
  cases outcome with
  | error failure => cases succeeded
  | ok result =>
      cases succeeded
      rfl

namespace Generation

private theorem source_eq (index : Nat) (result : SearchResult) :
    source index result = "[Source " ++ toString (index + 1) ++ "] (score: " ++
      Number.fixed32 3 result.score ++ ")\n" ++ result.content ++ "\n\n" := rfl

end Generation

namespace Pipeline

/-- Every call of the chat that answers a query carries one message with the results as sources:
each with its number from one on, its score to three decimal places and its whole content, in the
order of the results. The
answer cites as many sources, in this order, each by its document, its chunk and its score, with the
first characters of its content and three dots behind them exactly when it goes on. -/
theorem query_cites_sources (pipeline : Pipeline (Recorded σ)) (gateway : Gateway σ)
    (asks : pipeline.gateway = gateway.recorded) (context : RequestContext) (request : QueryRequest)
    {now moment : Moment} {before after : Recorded σ} {response : QueryResponse}
    (ran : Task.run (pipeline.query context request).run now before =
      (.ok response, moment, after)) :
    ∃ results reached between events sources,
      Task.run (pipeline.findRanked context request.toSearchRequest
        pipeline.settings.queryTopK).run now before = (.ok results, reached, between) ∧
      after.events = between.events ++ events ∧
      (∃ name question, .asked reached name question ∈ events) ∧
      (∀ start name question, .asked start name question ∈ events → ∃ sent,
        question = .chat sent ∧ sent.messages = [.system Generation.prompt,
          .user ("Context:\n" ++ String.join sources ++ "\n\nQuestion: " ++ request.query)]) ∧
      sources.length = results.length ∧ response.citations.length = results.length ∧
      ∀ index result, results[index]? = some result →
        (∃ score, Number.PrintsAs 3 result.score score ∧
          sources[index]? = some ("[Source " ++ toString (index + 1) ++ "] (score: " ++ score ++
            ")\n" ++ result.content ++ "\n\n")) ∧
        ∃ citation, response.citations[index]? = some citation ∧
          citation.document = result.document ∧ citation.chunk = result.chunk ∧
          citation.score = result.score ∧
          let characters := pipeline.settings.citationPreviewCharacters.toNat
          citation.content.toList = result.content.toList.take characters ++
            if characters < result.content.toList.length then ['.', '.', '.'] else [] := by
  unfold query at ran
  rcases Task.exists_of_run_bind_ok ran with ⟨results, reached, between, found, answered⟩
  rcases Task.exists_of_run_bind_ok answered with ⟨answer, _, _, generated, ended⟩
  cases ended
  unfold Generation.generate at generated
  rcases Task.exists_of_run_bind_ok generated with ⟨reply, _, _, chatted, ended⟩
  cases ended
  have replied := ModelTask.run_of_run_forRetrieval chatted
  rw [asks] at replied
  rcases Gateway.exists_course_of_response replied with ⟨events, logged, course⟩
  refine ⟨results, reached, between, events, results.mapIdx Generation.source, found, logged,
    ⟨_, _, course.asks⟩, fun start name question member => ?_, List.length_mapIdx,
    List.length_map _, fun index result isResult => ⟨?_, ?_⟩⟩
  · rcases course.same_messages member with ⟨sent, rfl, messages⟩
    exact ⟨sent, rfl, messages.trans (ChatRequest.messages_withDefaultModel _ _)⟩
  · refine ⟨_, Number.fixed32_printsAs 3 result.score, ?_⟩
    rw [List.getElem?_mapIdx, isResult]
    exact congrArg some (Generation.source_eq index result)
  · refine ⟨.ofResult result _, ?_, rfl, rfl, rfl, Text.toList_preview _ _⟩
    exact (List.getElem?_map ..).trans (congrArg _ isResult)

def readingBackend : Backend MemoryStore :=
  { writingBackend with
    embed := fun _ request =>
      pure ⟨"writing", request.model, request.inputs.map fun _ => [3.0, 4.0], 0, 0.0⟩ }

def fallingBackGateway : Gateway MemoryStore where
  backends := [(Gateway.refusing "first" 503).zoom (fun _ => ()) (fun _ store => store),
    readingBackend]
  defaultBackend := "first"
  fallbackBackend := some "writing"
  fallbackModel := none
  defaultModel := none
  retry := ⟨1, .ofMilliseconds 500⟩

def storedText (number : Nat) (content : String) (embedding : Vector32) : Chunk where
  id := .ofNat number
  document := .ofNat 7
  tenant := .ofNat 1
  index := number
  content := content
  embedding := embedding
  tokenCount := 1
  metadata := ∅

def askedMessages? : BackendEvent → Option (String × List Message)
  | .asked _ name (.chat sent) => some (name, sent.messages)
  | _ => none

/-- An answer of the fallback, with two sources of which one is cut. All three calls carry both. -/
theorem query_cites_sources_fallback :
    let pipeline := standard { embeddingBackend := some "writing", citationPreviewCharacters := 3 }
      fallingBackGateway.recorded (MemoryStore.alone.zoom Recorded.state Recorded.withState)
      (Recorded.draw fun store => (.ofNat store.chunks.length, store))
    let before : Recorded MemoryStore :=
      ⟨⟨[storedText 1 "Straße" [4.0, 3.0], storedText 2 "Ab" [3.0, 4.0]]⟩, []⟩
    let message := "Context:\n[Source 1] (score: 1.000)\nAb\n\n" ++
      "[Source 2] (score: 0.960)\nStraße\n\n\n\nQuestion: Ab?"
    pipeline.gateway = fallingBackGateway.recorded ∧
    let (answer, _, after) :=
      Task.run (pipeline.query (.ofTenant (.ofNat 1)) { query := "Ab?" }).run 0 before
    after.events.filterMap askedMessages? =
        ["first", "first", "writing"].map (·, [.system Generation.prompt, .user message]) ∧
      ∃ response earlier events sources, answer = .ok response ∧
        response.citations.map Citation.content = ["Ab", "Str..."] ∧
        after.events = earlier ++ events ∧ sources.length = 2 ∧
        "Context:\n" ++ String.join sources ++ "\n\nQuestion: " ++ "Ab?" = message ∧
        ∀ start name question, .asked start name question ∈ events → ∃ sent,
          question = .chat sent ∧ sent.messages = [.system Generation.prompt, .user message] := by
  intro pipeline before message
  have asks : pipeline.gateway = fallingBackGateway.recorded := rfl
  have asked : (Task.run (pipeline.query (.ofTenant (.ofNat 1))
      { query := "Ab?" }).run 0 before).2.2.events.filterMap askedMessages? =
        ["first", "first", "writing"].map (·, [.system Generation.prompt, .user message]) := by
    decide +kernel
  have cited : (match (Task.run (pipeline.query (.ofTenant (.ofNat 1))
      { query := "Ab?" }).run 0 before).1 with
    | .ok response => some (response.citations.map Citation.content)
    | .error _ => none) = some ["Ab", "Str..."] := by
    decide +kernel
  refine ⟨asks, ?_⟩
  rcases ran : Task.run (pipeline.query (.ofTenant (.ofNat 1)) { query := "Ab?" }).run 0 before with
    ⟨answer, moment, after⟩
  rw [ran] at asked cited
  cases answer with
  | error failure => cases cited
  | ok response =>
      have contents := Option.some.inj cited
      rcases query_cites_sources pipeline fallingBackGateway asks _ _ ran with
        ⟨results, _, between, events, sources, _, logged, ⟨name, _, first⟩, messages, count, citations, _⟩
      have literal : "Context:\n" ++ String.join sources ++ "\n\nQuestion: " ++ "Ab?" = message := by
        rcases messages _ _ _ first with ⟨sent, rfl, carried⟩
        have logs : BackendEvent.asked _ name (.chat sent) ∈ after.events :=
          logged ▸ List.mem_append_right _ first
        have noted : (name, sent.messages) ∈ after.events.filterMap askedMessages? :=
          List.mem_filterMap.mpr ⟨_, logs, rfl⟩
        rw [asked] at noted
        rcases List.mem_map.mp noted with ⟨_, _, same⟩
        have literal := (congrArg Prod.snd same).trans carried
        simp only [List.cons.injEq, Message.user, Message.mk.injEq, true_and, and_true] at literal
        exact literal.symm
      rw [literal] at messages
      refine ⟨asked, response, between.events, events, sources, rfl, contents, logged, ?_, literal,
        messages⟩
      rw [count, ← citations, ← List.length_map Citation.content, contents]
      rfl

end Pipeline

end GroundedAnswers
