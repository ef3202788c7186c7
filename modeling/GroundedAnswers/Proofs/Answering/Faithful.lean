import GroundedAnswers.Proofs.Answering.Ingest
import GroundedAnswers.Proofs.Answering.Searching
import GroundedAnswers.Proofs.Retrieval.Results
import GroundedAnswers.Proofs.Task.EnsuresFanOut

namespace GroundedAnswers

/-! What a pipeline finds is in its store, whatever its models and backends reply: they take part in
which results there are and in which order, never in what a result says. -/

def IfOk (holds : α → Prop) (outcome : Except ε α) (_ : Moment) : Prop :=
  ∀ value, outcome = .ok value → holds value

namespace IfOk

variable {holds : α → Prop} {moment : Moment}

theorem ok {value : α} (held : holds value) : IfOk holds (.ok value : Except ε α) moment := by
  intro other same
  cases same
  exact held

theorem error (failure : ε) : IfOk holds (.error failure) moment :=
  fun _ same => by cases same

end IfOk

/-- A property of the store that does not depend on anything else. -/
abbrev Keeping (keeps : MemoryStore → Prop) (state : PipelineState σ) : Prop :=
  keeps state.store

/-- In the stores that are kept, chunks have distinct identifiers, and those of the tenant are
known. -/
structure Vouches (keeps : MemoryStore → Prop) (tenant : Identifier) (known : Chunk → Prop) :
    Prop where
  distinct : ∀ store, keeps store → store.Distinct
  own : ∀ store, keeps store → ∀ chunk ∈ store.chunks, chunk.tenant = tenant → known chunk

namespace Pipeline

theorem serving_ensures (keeps : MemoryStore → Prop) (task : ExceptT ε (Task σ) α) :
    Task.Ensures (Keeping keeps) (IfOk fun _ => True) (serving task).run := by
  have ended : Task.Ensures (Keeping keeps) (fun _ _ => True) (serving task).run :=
    Task.Ensures.zoomFailing_of_stable (fun _ _ kept => by exact kept) task
  exact ended.imp fun _ _ _ _ _ => True.intro

private theorem orElse_ensures {keeps : σ → Prop} {holds : α → Prop}
    {task fallback : RetrievalTask σ α} (ensured : Task.Ensures keeps (IfOk holds) task.run)
    (otherwise : Task.Ensures keeps (IfOk holds) fallback.run) :
    Task.Ensures keeps (IfOk holds) (RetrievalTask.orElse task fallback).run := by
  unfold RetrievalTask.orElse
  refine ensured.bind_lift fun outcome moment ended state kept => ?_
  cases outcome with
  | ok value => exact .finished ⟨ended, kept⟩
  | error failure =>
      dsimp only
      split
      · exact .finished ⟨.error failure, kept⟩
      · exact otherwise moment state kept

private theorem successes_faithful {known : Chunk → Prop} {limit : Nat} {items : List ι}
    {outcomes : List (Except RetrievalFailure (List SearchResult))} {moment : Moment}
    (each : List.Forall₂ (fun _ outcome => IfOk (Faithful known limit) outcome moment) items
      outcomes) :
    ∀ results ∈ successes outcomes, Faithful known limit results := by
  induction each with
  | nil => exact fun _ member => absurd member List.not_mem_nil
  | @cons _ outcome _ _ first _ induction =>
      cases outcome with
      | error failure => exact induction
      | ok results => exact List.forall_mem_cons.mpr ⟨first results rfl, induction⟩

section

variable (settings : RetrievalSettings) (gateway : Gateway σ) (identifiers : Nat → Identifier)
  (context : RequestContext) {keeps : MemoryStore → Prop} {known : Chunk → Prop}
  (vouches : Vouches keeps context.tenant known)

include vouches

private theorem retrieve_faithful (options : RetrieveOptions) (text : String) :
    Task.Ensures (Keeping keeps) (IfOk (Faithful known options.topK))
      ((inMemory settings gateway identifiers).retrieve context options text).run := by
  unfold retrieve
  rw [embedOne_inMemory]
  refine (serving_ensures keeps _).bind (fun embedding _ _ => ?_) fun failure _ _ => .error failure
  refine Task.Ensures.guarded (fun now state kept => ?_) fun _ cause _ => .error _
  let search : SearchOptions := ⟨context.tenant, options.topK, options.minScore⟩
  have found := Faithful.ranked (vouches.distinct _ kept) search (vouches.own _ kept)
  cases options.hybrid with
  | true => exact .finished ⟨fun _ => .ok (found _), kept⟩
  | false => exact .finished ⟨fun _ => .ok (found _), kept⟩

private theorem retrieveAll_faithful (options : RetrieveOptions) (texts : List String) :
    Task.Ensures (Keeping keeps) (IfOk (Faithful known options.topK))
      ((inMemory settings gateway identifiers).retrieveAll context options texts).run := by
  unfold retrieveAll
  have searches := Task.Ensures.all texts (fun _ _ _ _ _ ended => ended)
    (retrieve_faithful settings gateway identifiers context vouches options)
  refine searches.bind_lift fun outcomes moment ended state kept => ?_
  cases severeFailure? outcomes with
  | some failure => exact .finished ⟨.error failure, kept⟩
  | none => exact .finished ⟨.ok (Faithful.mergeUnique (successes_faithful ended)), kept⟩

private theorem retrieveByPassage_faithful (options : RetrieveOptions) (query : String) :
    Task.Ensures (Keeping keeps) (IfOk (Faithful known options.topK))
      ((inMemory settings gateway identifiers).retrieveByPassage context options query).run := by
  have nothing : Task.Ensures (Keeping keeps)
      (IfOk (Faithful known options.topK))
      (pure [] : RetrievalTask (PipelineState σ) (List SearchResult)).run :=
    Task.Ensures.ok fun _ => .ok .nil
  unfold retrieveByPassage
  refine orElse_ensures ?_ nothing
  rw [passageWriter_inMemory]
  refine (serving_ensures keeps _).bind (fun passage _ _ => ?_) fun failure _ _ => .error failure
  split
  · exact nothing
  · exact retrieve_faithful settings gateway identifiers context vouches options passage

private theorem retrieveByQuery_faithful (options : RetrieveOptions) (request : SearchRequest) :
    Task.Ensures (Keeping keeps) (IfOk (Faithful known options.topK))
      ((inMemory settings gateway identifiers).retrieveByQuery context options request).run := by
  have plain := retrieve_faithful settings gateway identifiers context vouches options request.query
  unfold retrieveByQuery
  cases request.rephrase with
  | false => exact plain
  | true =>
      unfold variants
      simp only [if_true]
      rw [rephraser_inMemory]
      have found : Task.Ensures (Keeping keeps) (IfOk fun _ => True)
          (RetrievalTask.orElse
            (serving (Rephraser.byModel gateway settings.assistantModel context request.query))
            (pure [])).run :=
        orElse_ensures (serving_ensures keeps _) (.ok fun _ => .ok True.intro)
      refine found.bind (fun variants _ _ => ?_) fun failure _ _ => .error failure
      split
      · exact retrieveAll_faithful settings gateway identifiers context vouches options variants
      · exact plain

private theorem find_faithful (options : RetrieveOptions) (request : SearchRequest) :
    Task.Ensures (Keeping keeps) (IfOk (Faithful known options.topK))
      ((inMemory settings gateway identifiers).find context options request).run := by
  have byQuery := retrieveByQuery_faithful settings gateway identifiers context vouches options
    request
  unfold find
  cases request.hypothetical with
  | true =>
      have byPassage := retrieveByPassage_faithful settings gateway identifiers context vouches
        options request.query
      refine byPassage.bind (fun found moment faithful => ?_) fun failure _ _ => .error failure
      dsimp only
      split
      · exact byQuery
      · exact Task.Ensures.ok fun _ => .ok (faithful found rfl)
  | false => exact byQuery

omit vouches in
private theorem reranker_faithful {limit : Nat} (query : String) {results : List SearchResult}
    (faithful : Faithful known limit results) :
    Task.Ensures (Keeping keeps) (IfOk (Faithful known limit))
      ((inMemory settings gateway identifiers).reranker context query results).run := by
  have unchanged : Task.Ensures (Keeping keeps) (IfOk (Faithful known limit))
      (pure results : RetrievalTask (PipelineState σ) (List SearchResult)).run :=
    .ok fun _ => .ok faithful
  unfold inMemory Reranker.listwise
  dsimp only
  rw [Gateway.chat_zoom PipelineState.services_isPart]
  split
  · exact unchanged
  · refine (serving_ensures keeps _).bind_lift fun outcome moment _ state kept => ?_
    cases outcome with
    | error failure =>
        cases failure with
        | interrupted cause => exact .finished ⟨.error _, kept⟩
        | _ => exact unchanged moment state kept
    | ok response =>
        dsimp only
        cases StructuredOutput.readAs (Json.list? Reranker.IndexedScore.ofJson?) response.content with
        | ok scores => exact .finished ⟨.ok (faithful.applyScores scores), kept⟩
        | error _ => exact unchanged moment state kept

theorem findRanked_faithful (request : SearchRequest) (standardTopK : UInt64) :
    Task.Ensures (Keeping keeps)
      (IfOk (Faithful known (effectiveTopK request.topK standardTopK)))
      ((inMemory settings gateway identifiers).findRanked context request standardTopK).run := by
  unfold findRanked
  refine (find_faithful settings gateway identifiers context vouches
    (retrieveOptions request standardTopK) request).bind (fun results moment faithful => ?_)
    fun failure _ _ => .error failure
  have unchanged : Task.Ensures (Keeping keeps)
      (IfOk (Faithful known (effectiveTopK request.topK standardTopK)))
      (pure results : RetrievalTask (PipelineState σ) (List SearchResult)).run :=
    .ok fun _ => .ok (faithful results rfl)
  split
  · exact orElse_ensures (reranker_faithful settings gateway identifiers context request.query
      (faithful results rfl)) unchanged
  · exact unchanged

end

/-! ## Operations and the store -/

section

variable (settings : RetrievalSettings) (gateway : Gateway σ) (identifiers : Nat → Identifier)
  (context : RequestContext)

private theorem generate_ensures (keeps : MemoryStore → Prop) (previewCharacters : Nat)
    (query : String) (results : List SearchResult) (model : String) (backend : Option String) :
    Task.Ensures (Keeping keeps) (IfOk fun _ => True)
      (Generation.generate (inMemory settings gateway identifiers).gateway previewCharacters context
        query results model backend).run := by
  have asked : ((inMemory settings gateway identifiers).gateway.chat context
        (Generation.request query results model backend)).forRetrieval =
      serving (gateway.chat context
        (Generation.request query results model backend)).forRetrieval :=
    forRetrieval_chat_zoom PipelineState.services_isPart gateway context _
  unfold Generation.generate
  rw [asked]
  exact (serving_ensures keeps _).bind (fun _ _ _ => .ok fun _ => .ok True.intro)
    fun failure _ _ => .error failure

theorem query_ensures {keeps : MemoryStore → Prop} {known : Chunk → Prop}
    (vouches : Vouches keeps context.tenant known) (request : QueryRequest) :
    Task.Ensures (Keeping keeps) (IfOk fun _ => True)
      ((inMemory settings gateway identifiers).query context request).run := by
  unfold query
  refine (findRanked_faithful settings gateway identifiers context vouches request.toSearchRequest
    _).bind (fun results _ _ => ?_) fun failure _ _ => .error failure
  exact (generate_ensures settings gateway identifiers context keeps _ _ results _ _).bind
    (fun _ _ _ => .ok fun _ => .ok True.intro) fun failure _ _ => .error failure

private theorem storeChunks_keeps_distinct (request : IngestRequest)
    (pairs : List (TextChunk × Vector32)) :
    Task.Ensures (Keeping MemoryStore.Distinct) (IfOk fun _ => True)
      ((inMemory settings gateway identifiers).storeChunks context request pairs).run := by
  intro now state distinct
  change Progress.Ensures _ _ now
    ((inMemory settings gateway identifiers).storeChunks context request pairs now state)
  rw [storeChunks_eq (PipelineDraft.build_inMemory settings gateway identifiers)]
  dsimp only
  cases context.interruption? now with
  | some cause => exact .finished ⟨.error _, distinct⟩
  | none =>
      cases stored : state.store.upsert
          (chunksFrom identifiers context.tenant request state.drawn pairs) with
      | error failure => exact .finished ⟨.error failure, distinct⟩
      | ok store => exact .finished ⟨.ok True.intro, distinct.upsert stored⟩

private theorem ingest_keeps_distinct (request : IngestRequest) :
    Task.Ensures (Keeping MemoryStore.Distinct) (IfOk fun _ => True)
      ((inMemory settings gateway identifiers).ingest context request).run := by
  rw [ingest_eq]
  dsimp only
  split
  · exact .failed fun _ => .error _
  · rw [embed_inMemory]
    exact (serving_ensures _ _).bind
      (fun vectors _ _ => storeChunks_keeps_distinct settings gateway identifiers context request _)
      fun failure _ _ => .error failure

private theorem delete_keeps_distinct (filter : DeleteFilter) :
    Task.Ensures (Keeping MemoryStore.Distinct) (IfOk fun _ => True)
      (context.guarded RetrievalFailure.interrupted
        ((inMemory settings gateway identifiers).store.delete filter)).run := by
  refine Task.Ensures.guarded (fun now state distinct => ?_) fun _ cause _ => .error _
  exact .finished ⟨fun _ => .ok True.intro, distinct.delete filter⟩

/-- No operation lets two chunks have the same identifier, whatever others do meanwhile. -/
theorem perform_keeps_distinct (operation : PipelineOperation) :
    Task.Ensures (Keeping MemoryStore.Distinct) (IfOk fun _ => True)
      ((inMemory settings gateway identifiers).perform context operation).run := by
  have vouches : Vouches MemoryStore.Distinct context.tenant fun _ => True :=
    ⟨fun _ distinct => distinct, fun _ _ _ _ _ => True.intro⟩
  have results : ∀ {α : Type} {task : RetrievalTask (PipelineState σ) α} {holds : α → Prop}
      (result : α → PipelineResult),
      Task.Ensures (Keeping MemoryStore.Distinct) (IfOk holds) task.run →
      Task.Ensures (Keeping MemoryStore.Distinct) (IfOk fun _ => True)
        (do return result (← task) : RetrievalTask (PipelineState σ) PipelineResult).run :=
    fun result ensured => ensured.bind (fun _ _ _ => .ok fun _ => .ok True.intro)
      fun failure _ _ => .error failure
  cases operation with
  | ingest request =>
      exact results .stored (ingest_keeps_distinct settings gateway identifiers context request)
  | search request =>
      exact results .found
        (findRanked_faithful settings gateway identifiers context vouches request _)
  | query request =>
      exact results .answered (query_ensures settings gateway identifiers context vouches request)
  | deleteDocument document =>
      exact results .deleted (delete_keeps_distinct settings gateway identifiers context _)
  | deleteTenant =>
      exact results .deleted (delete_keeps_distinct settings gateway identifiers context _)

end

end Pipeline

end GroundedAnswers
