import GroundedAnswers.Answering.Operation
import GroundedAnswers.Proofs.Answering.Ingest
import GroundedAnswers.Proofs.Answering.Searching
import GroundedAnswers.Proofs.Chunking.Chunks
import GroundedAnswers.Proofs.Retrieval.Contents
import GroundedAnswers.Proofs.Retrieval.Yielding
import GroundedAnswers.Proofs.Task.YieldsFanOut

namespace GroundedAnswers

/-! How the operations of a pipeline give way to an interruption when its parts do. None of them takes
it for the failure of a step that it could do without, and none goes on after it. -/

open GroundedAnswers.Task (Refuses)

namespace RetrievalTask

variable {keeps : σ → Prop} {context : RequestContext} {task fallback : RetrievalTask σ α}

private theorem orElse_yields (yields : Task.Yields keeps context RetrievalFailure.interrupted task)
    (otherwise : Task.Yields keeps context RetrievalFailure.interrupted fallback) :
    Task.Yields keeps context RetrievalFailure.interrupted (task.orElse fallback) := by
  unfold orElse
  refine yields.bind_lift (fun outcome regular => ?_) fun _ => rfl
  cases outcome with
  | ok value => exact .pure value
  | error failure =>
      cases failure with
      | interrupted cause => exact absurd rfl (regular cause)
      | _ => exact otherwise

private theorem orElse_refuses (refuses : Refuses context RetrievalFailure.interrupted task) :
    Refuses context RetrievalFailure.interrupted (task.orElse fallback) :=
  refuses.bind_lift fun _ => rfl

end RetrievalTask

namespace Pipeline

/-! ## Several outcomes -/

private theorem mem_of_severeFailure? {outcomes : List (Except RetrievalFailure α)}
    {failure : RetrievalFailure} (severe : severeFailure? outcomes = some failure) :
    .error failure ∈ outcomes := by
  rw [severeFailure?_eq] at severe
  apply mem_failures_iff.mp
  split at severe
  · rename_i found
    cases severe
    exact List.mem_of_find?_eq_some found
  · split at severe
    · exact List.mem_of_head? severe
    · cases severe

private theorem severeFailure?_of_broken {outcomes : List (Except RetrievalFailure α)}
    {cause : Interruption} (broken : .error (.interrupted cause) ∈ outcomes)
    (others : ∀ outcome ∈ outcomes, Regular RetrievalFailure.interrupted outcome ∨
      outcome = .error (.interrupted cause)) :
    severeFailure? outcomes = some (.interrupted cause) := by
  rw [severeFailure?_eq]
  cases first : (failures outcomes).find? RetrievalFailure.isInterruption with
  | none =>
      have overlooked := List.find?_eq_none.mp first _ (mem_failures_iff.mpr broken)
      exact absurd rfl overlooked
  | some failure =>
      have isInterruption := List.find?_some first
      cases failure with
      | interrupted other =>
          have member := mem_failures_iff.mp (List.mem_of_find?_eq_some first)
          rcases others _ member with regular | same
          · exact absurd rfl (regular other)
          · cases same
            rfl
      | _ => cases isInterruption

/-! ## Parts -/

structure PartsYield (keeps : σ → Prop) (context : RequestContext) (pipeline : Pipeline σ) :
    Prop where
  backends : ∀ backend ∈ pipeline.gateway.backends, backend.Yields keeps context
  store : pipeline.store.Yields keeps context
  embed : ∀ texts, Task.Yields keeps context RetrievalFailure.interrupted
    (pipeline.embedder.embed context texts)
  embedOne : ∀ text, Task.Yields keeps context RetrievalFailure.interrupted
    (pipeline.embedder.embedOne context text)
  rephraser : ∀ query, Task.Yields keeps context RetrievalFailure.interrupted
    (pipeline.rephraser context query)
  passageWriter : ∀ query, Task.Yields keeps context RetrievalFailure.interrupted
    (pipeline.passageWriter context query)
  reranker : ∀ query results, Task.Yields keeps context RetrievalFailure.interrupted
    (pipeline.reranker context query results)
  freshIdentifier : ∀ now state, keeps state → ∃ id after,
    pipeline.freshIdentifier now state = .finished id after ∧ keeps after

structure PartsRefuse (context : RequestContext) (pipeline : Pipeline σ) : Prop where
  embed : ∀ texts, texts ≠ [] → Refuses context RetrievalFailure.interrupted
    (pipeline.embedder.embed context texts)
  embedOne : ∀ text, Refuses context RetrievalFailure.interrupted
    (pipeline.embedder.embedOne context text)
  rephraser : ∀ query, Refuses context RetrievalFailure.interrupted
    (pipeline.rephraser context query)
  passageWriter : ∀ query, Refuses context RetrievalFailure.interrupted
    (pipeline.passageWriter context query)

/-! ## While the context is calm -/

section Yields

variable {pipeline : Pipeline σ} {keeps : σ → Prop} {context : RequestContext}
  (parts : pipeline.PartsYield keeps context)

include parts

private theorem makeChunks_yields (tenant : Identifier) (request : IngestRequest)
    (pairs : List (TextChunk × Vector32)) :
    Task.Yields keeps context RetrievalFailure.interrupted
      (pipeline.makeChunks tenant request pairs) := by
  induction pairs with
  | nil => exact .pure []
  | cons pair rest induction =>
      have draws : Task.Yields keeps context RetrievalFailure.interrupted
          (ExceptT.lift pipeline.freshIdentifier : RetrievalTask σ Identifier) := by
        intro now state calm kept
        rcases parts.freshIdentifier now state kept with ⟨id, after, drawn, kept⟩
        change Progress.Yields _ _ _ _ now ((pipeline.freshIdentifier now state).andThen _ now)
        rw [drawn]
        exact .finished calm kept fun _ => nofun
      exact draws.bind fun _ => induction.bind fun _ => .pure _

private theorem ingest_yields (request : IngestRequest) :
    Task.Yields keeps context RetrievalFailure.interrupted (pipeline.ingest context request) := by
  rw [ingest_eq]
  dsimp only
  split
  · exact .throw fun _ => nofun
  · refine (parts.embed _).bind fun embeddings => ?_
    exact (makeChunks_yields parts _ _ _).bind fun chunks =>
      (parts.store.upsert chunks).bind fun _ => .pure chunks

private theorem retrieve_yields (options : RetrieveOptions) (text : String) :
    Task.Yields keeps context RetrievalFailure.interrupted
      (pipeline.retrieve context options text) := by
  unfold retrieve
  refine (parts.embedOne text).bind fun embedding => ?_
  cases options.hybrid with
  | false => exact parts.store.similaritySearch embedding _
  | true => exact parts.store.hybridSearch text embedding _

private theorem retrieveAll_yields (options : RetrieveOptions) (texts : List String) :
    Task.Yields keeps context RetrievalFailure.interrupted
      (pipeline.retrieveAll context options texts) := by
  intro now state calm kept
  have searched : Branches.AllYield keeps context (Regular RetrievalFailure.interrupted)
      (fun cause outcome => outcome = .error (.interrupted cause)) now
      (Task.all (texts.map fun text => (pipeline.retrieve context options text).run) now state) := by
    refine Task.all_yields calm (fun search member state kept => ?_) kept
    rcases List.mem_map.mp member with ⟨text, _, rfl⟩
    exact retrieve_yields parts options text now state calm kept
  unfold retrieveAll
  -- Regular outcomes may come to a failure, but not to an interruption.
  refine searched.bind_lift ?_ ?_
  · intro outcomes moment state calm kept regular
    cases severe : severeFailure? outcomes with
    | none => exact .finished calm kept (.ok _ _)
    | some failure => exact .finished calm kept (regular _ (mem_of_severeFailure? severe))
  · rintro cause outcomes ⟨⟨_, broken, rfl⟩, others⟩
    refine ⟨_, rfl, fun moment state => ?_⟩
    rw [severeFailure?_of_broken broken others]
    rfl

private theorem retrieveByPassage_yields (options : RetrieveOptions) (query : String) :
    Task.Yields keeps context RetrievalFailure.interrupted
      (pipeline.retrieveByPassage context options query) := by
  refine RetrievalTask.orElse_yields ((parts.passageWriter query).bind fun passage => ?_) (.pure [])
  split
  · exact .pure []
  · exact retrieve_yields parts options passage

private theorem retrieveByQuery_yields (options : RetrieveOptions) (request : SearchRequest) :
    Task.Yields keeps context RetrievalFailure.interrupted
      (pipeline.retrieveByQuery context options request) := by
  have plain := retrieve_yields parts options request.query
  unfold retrieveByQuery
  split
  · refine (RetrievalTask.orElse_yields (parts.rephraser request.query) (.pure [])).bind
      fun variants => ?_
    split
    · exact retrieveAll_yields parts options variants
    · exact plain
  · exact plain

private theorem find_yields (options : RetrieveOptions) (request : SearchRequest) :
    Task.Yields keeps context RetrievalFailure.interrupted
      (pipeline.find context options request) := by
  have byQuery := retrieveByQuery_yields parts options request
  unfold find
  split
  · refine (retrieveByPassage_yields parts options request.query).bind fun found => ?_
    dsimp only
    split
    · exact byQuery
    · exact .pure found
  · exact byQuery

private theorem findRanked_yields (request : SearchRequest) (standardTopK : UInt64) :
    Task.Yields keeps context RetrievalFailure.interrupted
      (pipeline.findRanked context request standardTopK) := by
  unfold findRanked
  refine (find_yields parts _ request).bind fun results => ?_
  split
  · exact RetrievalTask.orElse_yields (parts.reranker request.query results) (.pure results)
  · exact .pure results

private theorem query_yields (request : QueryRequest) :
    Task.Yields keeps context RetrievalFailure.interrupted (pipeline.query context request) := by
  unfold query
  refine (findRanked_yields parts _ _).bind fun results => ?_
  exact (Generation.generate_yields parts.backends _ _ _ _ _).bind fun _ => .pure _

theorem perform_yields (operation : PipelineOperation) :
    Task.Yields keeps context RetrievalFailure.interrupted
      (pipeline.perform context operation) := by
  cases operation with
  | ingest request => exact (ingest_yields parts request).bind fun _ => .pure _
  | search request => exact (findRanked_yields parts request _).bind fun _ => .pure _
  | query request => exact (query_yields parts request).bind fun _ => .pure _
  | deleteDocument document => exact (parts.store.delete _).bind fun _ => .pure _
  | deleteTenant => exact (parts.store.delete _).bind fun _ => .pure _

end Yields

/-! ## When the context is interrupted already -/

section Refuses

variable {pipeline : Pipeline σ} {context : RequestContext} (parts : pipeline.PartsRefuse context)

include parts

private theorem ingest_refuses {request : IngestRequest}
    (written : ¬Text.isBlankText request.content) :
    Refuses context RetrievalFailure.interrupted (pipeline.ingest context request) := by
  have pieces : chunkText (chunkOptions pipeline.settings request) request.content ≠ [] := by
    rw [Ne, chunkText_eq_nil_iff, pieces_blank_iff]
    exact written
  rw [ingest_eq]
  dsimp only
  rw [if_neg (mt List.isEmpty_iff.mp pieces)]
  exact (parts.embed _ (mt List.map_eq_nil_iff.mp pieces)).bind _

private theorem retrieve_refuses (options : RetrieveOptions) (text : String) :
    Refuses context RetrievalFailure.interrupted (pipeline.retrieve context options text) :=
  (parts.embedOne text).bind _

private theorem retrieveByQuery_refuses (options : RetrieveOptions) (request : SearchRequest) :
    Refuses context RetrievalFailure.interrupted
      (pipeline.retrieveByQuery context options request) := by
  unfold retrieveByQuery
  split
  · exact (RetrievalTask.orElse_refuses (parts.rephraser request.query)).bind _
  · exact retrieve_refuses parts options request.query

private theorem find_refuses (options : RetrieveOptions) (request : SearchRequest) :
    Refuses context RetrievalFailure.interrupted (pipeline.find context options request) := by
  unfold find
  split
  · exact (RetrievalTask.orElse_refuses ((parts.passageWriter request.query).bind _)).bind _
  · exact retrieveByQuery_refuses parts options request

private theorem findRanked_refuses (request : SearchRequest) (standardTopK : UInt64) :
    Refuses context RetrievalFailure.interrupted
      (pipeline.findRanked context request standardTopK) :=
  (find_refuses parts _ request).bind _

theorem perform_refuses {operation : PipelineOperation}
    (written : ∀ request, operation = .ingest request → ¬Text.isBlankText request.content) :
    Refuses context RetrievalFailure.interrupted (pipeline.perform context operation) := by
  cases operation with
  | ingest request => exact (ingest_refuses parts (written request rfl)).bind _
  | search request => exact (findRanked_refuses parts request _).bind _
  | query request => exact ((findRanked_refuses parts _ _).bind _).bind _
  | deleteDocument document => exact (Refuses.guarded _).bind _
  | deleteTenant => exact (Refuses.guarded _).bind _

end Refuses

end Pipeline

end GroundedAnswers
