import GroundedAnswers.Proofs.Answering.Parts

namespace GroundedAnswers

/-! A pipeline whose parts are made from a gateway and a store. An interruption stops whatever it is
doing, as far as backends and store keep to it. -/

def Pipeline.standard (settings : RetrievalSettings) (gateway : Gateway σ) (store : VectorStore σ)
    (freshIdentifier : Task σ Identifier) : Pipeline σ where
  settings := settings
  gateway := gateway
  embedder := (GatewayEmbedder.ofSettings gateway settings).embedder
  store := store
  rephraser := Rephraser.byModel gateway settings.assistantModel
  passageWriter := PassageWriter.byModel gateway settings.assistantModel
  reranker :=
    Reranker.listwise gateway settings.assistantModel settings.rerankPreviewCharacters.toNat
  freshIdentifier := freshIdentifier

/-- An identifier that is made of nothing but the state. -/
def Recorded.draw (identifier : σ → Identifier × σ) : Task (Recorded σ) Identifier :=
  Task.zoom Recorded.state Recorded.withState (modifyGet identifier)

/-- A gateway with a record of its calls, and a store beside the record. -/
def PipelineDraft.recorded (settings : RetrievalSettings) (gateway : Gateway σ)
    (store : VectorStore σ) : PipelineDraft (Recorded σ) where
  settings := settings
  gateway := some gateway.recorded
  store := some (store.zoom Recorded.state Recorded.withState)

namespace Pipeline

variable {settings : RetrievalSettings} {gateway : Gateway σ} {store : VectorStore σ}

private theorem standard_partsYield {freshIdentifier : Task σ Identifier} {keeps : σ → Prop}
    {context : RequestContext} (backends : ∀ backend ∈ gateway.backends, backend.Yields keeps context)
    (stores : store.Yields keeps context)
    (draws : ∀ now state, keeps state → ∃ id after,
      freshIdentifier now state = .finished id after ∧ keeps after) :
    (standard settings gateway store freshIdentifier).PartsYield keeps context where
  backends := backends
  store := stores
  embed texts := GatewayEmbedder.embed_yields backends texts
  embedOne text := GatewayEmbedder.embedOne_yields backends text
  rephraser query := Rephraser.byModel_yields backends _ query
  passageWriter query := PassageWriter.byModel_yields backends _ query
  reranker query results := Reranker.listwise_yields backends _ _ query results
  freshIdentifier := draws

private theorem standard_partsRefuse {freshIdentifier : Task σ Identifier}
    (context : RequestContext) {chatting embedding : Backend σ}
    (chats : gateway.backend gateway.defaultBackend = .ok chatting)
    (embeds : gateway.backend (settings.embeddingBackend.getD gateway.defaultBackend) =
      .ok embedding) :
    (standard settings gateway store freshIdentifier).PartsRefuse context where
  embed _ nonempty := GatewayEmbedder.embed_refuses embeds nonempty
  embedOne text := GatewayEmbedder.embedOne_refuses embeds text
  rephraser query := Rephraser.byModel_refuses chats _ query
  passageWriter query := PassageWriter.byModel_refuses chats _ query

private theorem build_recorded (settings : RetrievalSettings) (gateway : Gateway σ)
    (store : VectorStore σ) (identifier : σ → Identifier × σ) :
    (PipelineDraft.recorded settings gateway store).build (Recorded.draw identifier) =
      .ok (standard settings gateway.recorded (store.zoom Recorded.state Recorded.withState)
        (Recorded.draw identifier)) := rfl

section Recorded

variable {identifier : σ → Identifier × σ} {pipeline : Pipeline (Recorded σ)}
  (built : (PipelineDraft.recorded settings gateway store).build (Recorded.draw identifier) =
    .ok pipeline)
  (context : RequestContext)

include built

private theorem partsYield_of_built {keeps : σ → Prop} (before : List BackendEvent)
    (honest : ∀ backend ∈ gateway.backends, backend.Honest keeps context)
    (honestStore : store.Honest keeps) (draws : ∀ state, keeps state → keeps (identifier state).2) :
    pipeline.PartsYield (KeepsTime keeps context before) context := by
  cases Except.ok.inj (built.symm.trans (build_recorded settings gateway store identifier))
  refine standard_partsYield (Gateway.recorded_yields honest) ?_ ?_
  · exact honestStore.zoom_yields context (fun _ kept => kept.state)
      fun _ _ holds kept => kept.withState holds
  · exact fun _ recorded kept => ⟨_, _, rfl, kept.withState (draws recorded.state kept.state)⟩

private theorem partsRefuse_of_built {chatting embedding : Backend σ}
    (chats : gateway.backend gateway.defaultBackend = .ok chatting)
    (embeds : gateway.backend (settings.embeddingBackend.getD gateway.defaultBackend) =
      .ok embedding) :
    pipeline.PartsRefuse context := by
  cases Except.ok.inj (built.symm.trans (build_recorded settings gateway store identifier))
  exact standard_partsRefuse context (Gateway.backend_recorded chats)
    (Gateway.backend_recorded embeds)

end Recorded

/-- An operation that begins no later than its context is cancelled or late ends no later than that,
and begins every call of a backend earlier. If the context stops it, it fails with whichever of the
two comes first, whatever it was doing. Otherwise it does not fail with an interruption. -/
theorem perform_yields_to_interruption {identifier : σ → Identifier × σ}
    {pipeline : Pipeline (Recorded σ)}
    (built : (PipelineDraft.recorded settings gateway store).build (Recorded.draw identifier) =
      .ok pipeline)
    (context : RequestContext)
    (apart : ∀ cancel deadline, context.cancelAt = some cancel →
      context.deadline = some deadline → cancel.nanoseconds ≠ deadline.nanoseconds)
    {keeps : σ → Prop} (honest : ∀ backend ∈ gateway.backends, backend.Honest keeps context)
    (honestStore : store.Honest keeps) (draws : ∀ state, keeps state → keeps (identifier state).2)
    {chatting embedding : Backend σ}
    (chats : gateway.backend gateway.defaultBackend = .ok chatting)
    (embeds : gateway.backend (settings.embeddingBackend.getD gateway.defaultBackend) =
      .ok embedding)
    (operation : PipelineOperation)
    (written : ∀ request, operation = .ingest request → ¬Text.isBlankText request.content)
    {now : Moment}
    (early : ∀ stop, context.StopsAt stop → now.nanoseconds ≤ stop.nanoseconds)
    (before : Recorded σ) (kept : keeps before.state) :
    let (answer, moment, after) := Task.run (pipeline.perform context operation).run now before
    ∃ events, after.events = before.events ++ events ∧
      (∀ stop, context.StopsAt stop → moment.nanoseconds ≤ stop.nanoseconds ∧
        ∀ start name question, .asked start name question ∈ events → start < stop) ∧
      ((∃ cancel, context.cancelAt = some cancel ∧ moment.nanoseconds = cancel.nanoseconds ∧
          (∀ deadline, context.deadline = some deadline →
            cancel.nanoseconds < deadline.nanoseconds) ∧
          answer = .error (.interrupted .cancelled)) ∨
        (∃ deadline, context.deadline = some deadline ∧
          moment.nanoseconds = deadline.nanoseconds ∧
          (∀ cancel, context.cancelAt = some cancel →
            deadline.nanoseconds < cancel.nanoseconds) ∧
          answer = .error (.interrupted .deadlineExceeded)) ∨
        (∀ stop, context.StopsAt stop → moment < stop) ∧
          ∀ cause, answer ≠ .error (.interrupted cause)) := by
  have nothing : before.Since before.events fun events =>
      ∀ start name question, .asked start name question ∈ events →
        context.interruption? start = none :=
    ⟨[], (List.append_nil before.events).symm, fun _ _ _ => (absurd · List.not_mem_nil)⟩
  have parts := partsYield_of_built built context before.events honest honestStore draws
  have yields := perform_yields parts operation
  have refuses := perform_refuses (partsRefuse_of_built built context chats embeds) written
  have ended := yields.run refuses now ⟨kept, nothing⟩
  rcases ran : Task.run (pipeline.perform context operation).run now before with
    ⟨answer, moment, after⟩
  rw [ran] at ended
  rcases ended with ⟨⟨_, events, whole, timely⟩, ended⟩
  refine ⟨events, whole, fun stop stops => ⟨?_, fun start name question member => ?_⟩, ?_⟩
  · rcases ended with ⟨calm, _⟩ | ⟨cause, reached, _, _⟩
    · exact RequestContext.notPast_of_calm calm stop stops
    · exact Gateway.punctual_of_reached early reached stop stops
  · exact stops.lt_of_calm (timely start name question member)
  · rcases ended with ⟨calm, regular⟩ | ⟨cause, reached, look, rfl⟩
    · exact .inr (.inr ⟨fun stop stops => stops.lt_of_calm calm, regular⟩)
    · have punctual := Gateway.punctual_of_reached early reached
      rcases punctual.first look apart with ⟨cancel, isCancel, same, first, rfl⟩ |
        ⟨deadline, isDeadline, same, first, rfl⟩
      · exact .inl ⟨cancel, isCancel, same, first, rfl⟩
      · exact .inr (.inl ⟨deadline, isDeadline, same, first, rfl⟩)

def writingBackend : Backend MemoryStore where
  name := "writing"
  models := []
  chat _ _ := do
    ExceptT.lift (Task.delay 3)
    return ⟨none, "", "", "Ab", .zero, 0.0, 0⟩
  chatStream _ _ := throw (.unsupported "writing" "streams")
  embed _ request := do
    ExceptT.lift (Task.delay 5)
    return ⟨"writing", request.model, request.inputs.map fun _ => [1.0], 0, 0.0⟩

def writingGateway : Gateway MemoryStore where
  backends := [writingBackend]
  defaultBackend := "writing"
  fallbackBackend := none
  fallbackModel := none
  defaultModel := none
  retry := .standard

private theorem writingBackend_honest (context : RequestContext) :
    writingBackend.Honest (fun _ => True) context where
  chat _ now _ _ := (Progress.Ensures.delay True.intro 3 now).bind_lift
    fun _ _ _ _ => .finished ⟨fun _ => .ok _ _, True.intro⟩
  embed _ now _ _ := (Progress.Ensures.delay True.intro 5 now).bind_lift
    fun _ _ _ _ => .finished ⟨fun _ => .ok _ _, True.intro⟩

/-- A question that is cancelled while the passage that could answer it is embedded. -/
theorem perform_yields_to_interruption_passage :
    let identifier := fun store : MemoryStore => (Identifier.ofNat store.chunks.length, store)
    let pipeline := standard {} writingGateway.recorded
      (MemoryStore.alone.zoom Recorded.state Recorded.withState) (Recorded.draw identifier)
    let context : RequestContext := ⟨.ofNat 1, some 13, some 40⟩
    let request : QueryRequest :=
      { query := "Ab?", hypothetical := true, rephrase := true, rerank := true }
    (PipelineDraft.recorded {} writingGateway MemoryStore.alone).build (Recorded.draw identifier) =
      .ok pipeline ∧
    (∀ cancel deadline, context.cancelAt = some cancel → context.deadline = some deadline →
      cancel.nanoseconds ≠ deadline.nanoseconds) ∧
    (∀ backend ∈ writingGateway.backends, backend.Honest (fun _ => True) context) ∧
    MemoryStore.alone.Honest (fun _ => True) ∧
    writingGateway.backend writingGateway.defaultBackend = .ok writingBackend ∧
    (∀ stop, context.StopsAt stop → Moment.nanoseconds 0 ≤ stop.nanoseconds) ∧
    let (answer, moment, after) :=
      Task.run (pipeline.perform context (.query request)).run 0 ⟨{}, []⟩
    answer = .error (.interrupted .cancelled) ∧ moment.nanoseconds = 6 ∧
      (BackendEvent.questions after.events).map Prod.fst = ["writing", "writing"] ∧
      ∀ start name question, .asked start name question ∈ after.events → start < 13 := by
  intro identifier pipeline context request
  have apart : ∀ cancel deadline, context.cancelAt = some cancel →
      context.deadline = some deadline → cancel.nanoseconds ≠ deadline.nanoseconds := by
    intro cancel deadline isCancel isDeadline
    cases isCancel
    cases isDeadline
    decide
  have honest : ∀ backend ∈ writingGateway.backends, backend.Honest (fun _ => True) context := by
    intro backend member
    cases List.mem_singleton.mp member
    exact writingBackend_honest context
  have honestStore : MemoryStore.alone.Honest fun _ => True :=
    MemoryStore.vectorStore_honest fun _ _ kept => kept
  have early : ∀ stop, context.StopsAt stop → Moment.nanoseconds 0 ≤ stop.nanoseconds :=
    fun stop _ => Nat.zero_le _
  have built : (PipelineDraft.recorded {} writingGateway MemoryStore.alone).build
      (Recorded.draw identifier) = .ok pipeline := build_recorded _ _ _ _
  refine ⟨built, apart, honest, honestStore, rfl, early, ?_⟩
  have yields := perform_yields_to_interruption built context apart honest honestStore
    (fun _ kept => kept) rfl rfl (.query request) (fun _ => nofun) early ⟨{}, []⟩ True.intro
  have ended : (Task.run (pipeline.perform context (.query request)).run 0 ⟨{}, []⟩).2.1 = 13 := by
    decide +kernel
  have asked : (BackendEvent.questions
      (Task.run (pipeline.perform context (.query request)).run 0 ⟨{}, []⟩).2.2.events).map
        Prod.fst = ["writing", "writing"] := by
    decide +kernel
  rcases ran : Task.run (pipeline.perform context (.query request)).run 0 ⟨{}, []⟩ with
    ⟨answer, moment, after⟩
  rw [ran] at yields ended asked
  cases ended
  rcases yields with ⟨events, whole, bounds, outcomes⟩
  have cancels : context.StopsAt 13 := .inl rfl
  refine ⟨?_, rfl, asked, fun start name question member => ?_⟩
  · rcases outcomes with ⟨_, _, _, _, cancelled⟩ | ⟨deadline, isDeadline, same, _⟩ | ⟨calm, _⟩
    · exact cancelled
    · cases isDeadline
      cases same
    · exact absurd (calm 13 cancels) (Nat.lt_irrefl 13)
  · rw [whole] at member
    exact (bounds 13 cancels).2 start name question member

end Pipeline

end GroundedAnswers
