import GroundedAnswers.Proofs.Answering.InMemory
import GroundedAnswers.Proofs.Retrieval.Renaming
import GroundedAnswers.Proofs.Retrieval.Zoom
import GroundedAnswers.Proofs.Task.AlikeFanOut

namespace GroundedAnswers

/-! Searches and questions of two runs whose stores hold the same chunks of the tenant, up to their
names: they find and answer the same. Backends have no state here. -/

open GroundedAnswers.Task (zoomFailing)

namespace Pipeline

/-! ## What goes to the gateway -/

section

variable (settings : RetrievalSettings) (gateway : Gateway σ) (identifiers : Nat → Identifier)
  (context : RequestContext)

def serving (task : ExceptT ε (Task σ) α) : ExceptT ε (Task (PipelineState σ)) α :=
  zoomFailing PipelineState.services PipelineState.withServices task

theorem embedOne_inMemory (text : String) :
    (inMemory settings gateway identifiers).embedder.embedOne context text =
      serving ((GatewayEmbedder.ofSettings gateway settings).embedOne context text) :=
  GatewayEmbedder.embedOne_zoom PipelineState.services_isPart (.ofSettings gateway settings) _ _

theorem embed_inMemory (texts : List String) :
    (inMemory settings gateway identifiers).embedder.embed context texts =
      serving ((GatewayEmbedder.ofSettings gateway settings).embed context texts) :=
  GatewayEmbedder.embed_zoom PipelineState.services_isPart (.ofSettings gateway settings) _ _

theorem rephraser_inMemory (query : String) :
    (inMemory settings gateway identifiers).rephraser context query =
      serving (Rephraser.byModel gateway settings.assistantModel context query) :=
  Rephraser.byModel_zoom PipelineState.services_isPart _ _ _ _

theorem passageWriter_inMemory (query : String) :
    (inMemory settings gateway identifiers).passageWriter context query =
      serving (PassageWriter.byModel gateway settings.assistantModel context query) :=
  PassageWriter.byModel_zoom PipelineState.services_isPart _ _ _ _

end

/-! ## Outcomes of several searches -/

def failures (outcomes : List (Except RetrievalFailure α)) : List RetrievalFailure :=
  outcomes.filterMap fun outcome =>
    match outcome with
    | .error failure => some failure
    | .ok _ => none

theorem severeFailure?_eq (outcomes : List (Except RetrievalFailure α)) :
    severeFailure? outcomes =
      match (failures outcomes).find? RetrievalFailure.isInterruption with
      | some failure => some failure
      | none =>
          if (failures outcomes).length = outcomes.length then (failures outcomes).head?
          else none := rfl

private theorem failures_map (carry : α → β) (outcomes : List (Except RetrievalFailure α)) :
    failures (outcomes.map (Except.map carry)) = failures outcomes := by
  unfold failures
  rw [List.filterMap_map]
  congr 1
  funext outcome
  cases outcome <;> rfl

private theorem severeFailure?_map (carry : α → β) (outcomes : List (Except RetrievalFailure α)) :
    severeFailure? (outcomes.map (Except.map carry)) = severeFailure? outcomes := by
  rw [severeFailure?_eq, severeFailure?_eq, failures_map, List.length_map]

private theorem successes_map (carry : α → β) (outcomes : List (Except ε α)) :
    successes (outcomes.map (Except.map carry)) = (successes outcomes).map carry := by
  unfold successes
  rw [List.filterMap_map, List.map_filterMap]
  congr 1
  funext outcome
  cases outcome <;> rfl

/-! ### What the failures come to -/

section Outcomes

variable {outcomes before after : List (Except RetrievalFailure α)} {failure : RetrievalFailure}

theorem mem_failures_iff : failure ∈ failures outcomes ↔ .error failure ∈ outcomes := by
  unfold failures
  rw [List.mem_filterMap]
  constructor
  · rintro ⟨outcome, member, same⟩
    cases outcome with
    | ok value => cases same
    | error other =>
        cases same
        exact member
  · intro member
    exact ⟨_, member, rfl⟩

private theorem failures_cons_error :
    failures (.error failure :: outcomes) = failure :: failures outcomes :=
  rfl

private theorem failures_append : failures (before ++ after) = failures before ++ failures after :=
  List.filterMap_append

def Uninterrupted (outcomes : List (Except RetrievalFailure α)) : Prop :=
  ∀ cause, .error (.interrupted cause) ∉ outcomes

theorem Uninterrupted.find?_eq_none (uninterrupted : Uninterrupted outcomes) :
    (failures outcomes).find? RetrievalFailure.isInterruption = none := by
  apply List.find?_eq_none.mpr
  intro failure member
  cases failure with
  | interrupted cause => exact absurd (mem_failures_iff.mp member) (uninterrupted cause)
  | _ => exact Bool.false_ne_true

theorem severeFailure?_of_interrupted {cause : Interruption} (uninterrupted : Uninterrupted before) :
    severeFailure? (before ++ .error (.interrupted cause) :: after) =
      some (.interrupted cause) := by
  rw [severeFailure?_eq, failures_append, failures_cons_error, List.find?_append,
    uninterrupted.find?_eq_none]
  rfl

theorem severeFailure?_of_all_failed (uninterrupted : Uninterrupted outcomes)
    (failed : ∀ value, .ok value ∉ outcomes) :
    severeFailure? outcomes = (failures outcomes).head? := by
  have all : (failures outcomes).length = outcomes.length := by
    unfold failures
    apply List.filterMap_length_eq_length.mpr
    intro outcome member
    cases outcome with
    | ok value => exact absurd member (failed value)
    | error failure => rfl
  rw [severeFailure?_eq, uninterrupted.find?_eq_none]
  simp [all]

theorem severeFailure?_of_ok {value : α} (uninterrupted : Uninterrupted outcomes)
    (found : .ok value ∈ outcomes) : severeFailure? outcomes = none := by
  have fewer : (failures outcomes).length ≠ outcomes.length := by
    intro all
    have isError := List.filterMap_length_eq_length.mp all _ found
    cases isError
  rw [severeFailure?_eq, uninterrupted.find?_eq_none]
  simp [fewer]

end Outcomes

section

variable {ι : Type} {ready : ι → PipelineState Unit → PipelineState Unit → Prop}

theorem serving_alike (task : ExceptT ε (Task Unit) α) :
    Task.Alike ready (Except.map id) (serving task).run (serving task).run := by
  refine Task.Alike.zoomFailing ?_ ?_ task
  · exact fun _ _ _ _ => rfl
  · exact fun _ _ _ _ holds => holds

private theorem orElse_alike {carry : α → β} {left left' : RetrievalTask (PipelineState Unit) α}
    {right right' : RetrievalTask (PipelineState Unit) β}
    (alike : Task.Alike ready (Except.map carry) left.run right.run)
    (alike' : Task.Alike ready (Except.map carry) left'.run right'.run) :
    Task.Alike ready (Except.map carry) (RetrievalTask.orElse left left').run
      (RetrievalTask.orElse right right').run := by
  refine Task.Alike.andThen (Task.Alike.lift alike) fun outcome => ?_
  cases outcome with
  | ok value => exact Task.Alike.ok carry value
  | error failure =>
      change Task.Alike ready _ (if failure.isInterruption then _ else _)
        (if failure.isInterruption then _ else _)
      split
      · exact Task.Alike.failed carry failure
      · exact alike'

variable {rename : Identifier → Identifier} {context : RequestContext}
  (same : ∀ index left right, ready index left right →
    MemoryStore.SameOf rename context.tenant left.store right.store)
  (settings : RetrievalSettings) (gateway : Gateway Unit) (identifiers identifiers' : Nat → Identifier)

include same

private theorem retrieve_alike (options : RetrieveOptions) (text : String) :
    Task.Alike ready (Except.map (List.map (.renamed rename)))
      ((inMemory settings gateway identifiers).retrieve context options text).run
      ((inMemory settings gateway identifiers').retrieve context options text).run := by
  unfold retrieve
  rw [embedOne_inMemory, embedOne_inMemory]
  refine Task.Alike.andThen (serving_alike _) fun embedding => ?_
  refine Task.Alike.guarded context _ ?_
  let search : SearchOptions := ⟨context.tenant, options.topK, options.minScore⟩
  intro index now left right holds
  cases options.hybrid with
  | true =>
      have found := (same index left right holds).hybridSearch_eq (rfl : search.tenant = _) text
        embedding
      exact .finished ⟨congrArg Except.ok found, holds⟩
  | false =>
      have found := (same index left right holds).similaritySearch_eq (rfl : search.tenant = _)
        embedding
      exact .finished ⟨congrArg Except.ok found, holds⟩

variable (injective : Function.Injective rename)

include injective

private theorem retrieveAll_alike (options : RetrieveOptions) (texts : List String) :
    Task.Alike ready (Except.map (List.map (.renamed rename)))
      ((inMemory settings gateway identifiers).retrieveAll context options texts).run
      ((inMemory settings gateway identifiers').retrieveAll context options texts).run := by
  have searches : List.Forall₂
      (Task.Alike ready (Except.map (List.map (SearchResult.renamed rename))))
      (texts.map fun text =>
        ((inMemory settings gateway identifiers).retrieve context options text).run)
      (texts.map fun text =>
        ((inMemory settings gateway identifiers').retrieve context options text).run) := by
    rw [List.forall₂_map_left_iff, List.forall₂_map_right_iff]
    exact List.forall₂_same.mpr fun text _ =>
      retrieve_alike same settings gateway identifiers identifiers' options text
  unfold retrieveAll
  refine Task.Alike.andThen (Task.Alike.lift (Task.Alike.all searches)) fun outcomes => ?_
  rw [severeFailure?_map, successes_map]
  cases severeFailure? outcomes with
  | some failure => exact Task.Alike.failed _ failure
  | none =>
      dsimp only
      rw [mergeUnique_renamed injective]
      exact Task.Alike.ok _ _

omit injective in
private theorem retrieveByPassage_alike (options : RetrieveOptions) (query : String) :
    Task.Alike ready (Except.map (List.map (.renamed rename)))
      ((inMemory settings gateway identifiers).retrieveByPassage context options query).run
      ((inMemory settings gateway identifiers').retrieveByPassage context options query).run := by
  unfold retrieveByPassage
  refine orElse_alike ?_ (Task.Alike.ok _ [])
  rw [passageWriter_inMemory, passageWriter_inMemory]
  refine Task.Alike.andThen (serving_alike _) fun passage => ?_
  rw [id]
  split
  · exact Task.Alike.ok _ []
  · exact retrieve_alike same settings gateway identifiers identifiers' options passage

private theorem retrieveByQuery_alike (options : RetrieveOptions) (request : SearchRequest) :
    Task.Alike ready (Except.map (List.map (.renamed rename)))
      ((inMemory settings gateway identifiers).retrieveByQuery context options request).run
      ((inMemory settings gateway identifiers').retrieveByQuery context options request).run := by
  have plain := retrieve_alike same settings gateway identifiers identifiers' options request.query
  unfold retrieveByQuery
  cases request.rephrase with
  | false => exact plain
  | true =>
      unfold variants
      simp only [if_true]
      rw [rephraser_inMemory, rephraser_inMemory]
      refine Task.Alike.andThen (orElse_alike (serving_alike _) (Task.Alike.ok _ []))
        fun variants => ?_
      rw [id]
      split
      · exact retrieveAll_alike same settings gateway identifiers identifiers' injective options
          variants
      · exact plain

private theorem find_alike (options : RetrieveOptions) (request : SearchRequest) :
    Task.Alike ready (Except.map (List.map (.renamed rename)))
      ((inMemory settings gateway identifiers).find context options request).run
      ((inMemory settings gateway identifiers').find context options request).run := by
  have byQuery := retrieveByQuery_alike same settings gateway identifiers identifiers' injective
    options request
  have goesOn : ∀ found : List SearchResult,
      Task.Alike ready (Except.map (List.map (.renamed rename)))
        (if found.isEmpty then
          (inMemory settings gateway identifiers).retrieveByQuery context options request
        else return found).run
        (if (found.map (SearchResult.renamed rename)).isEmpty then
          (inMemory settings gateway identifiers').retrieveByQuery context options request
        else return found.map (.renamed rename)).run := by
    intro found
    cases found with
    | nil => exact byQuery
    | cons first others => exact Task.Alike.ok _ (first :: others)
  unfold find
  cases request.hypothetical with
  | true =>
      exact Task.Alike.andThen (retrieveByPassage_alike same settings gateway identifiers
        identifiers' options request.query) goesOn
  | false => exact Task.Alike.andThen (Task.Alike.ok _ []) goesOn

omit same injective in
private theorem reranker_alike (query : String) (results : List SearchResult) :
    Task.Alike ready (Except.map (List.map (.renamed rename)))
      ((inMemory settings gateway identifiers).reranker context query results).run
      ((inMemory settings gateway identifiers').reranker context query
        (results.map (.renamed rename))).run := by
  have unchanged : ∀ results : List SearchResult,
      Task.Alike ready (Except.map (List.map (SearchResult.renamed rename)))
        (pure results : RetrievalTask (PipelineState Unit) (List SearchResult)).run
        (pure (results.map (SearchResult.renamed rename)) :
          RetrievalTask (PipelineState Unit) (List SearchResult)).run :=
    fun results => Task.Alike.ok _ results
  unfold inMemory Reranker.listwise
  dsimp only
  rw [List.isEmpty_map, Reranker.listQuestion_renamed, Gateway.chat_zoom
    PipelineState.services_isPart]
  split
  · exact unchanged results
  · refine Task.Alike.andThen (Task.Alike.lift (serving_alike _)) fun outcome => ?_
    cases outcome with
    | error failure =>
        cases failure with
        | interrupted cause => exact Task.Alike.failed _ _
        | _ => exact unchanged results
    | ok response =>
        dsimp only [Except.map, id]
        split
        · rw [Reranker.applyScores_renamed]
          exact unchanged _
        · exact unchanged results

private theorem findRanked_alike (request : SearchRequest) (standardTopK : UInt64) :
    Task.Alike ready (Except.map (List.map (.renamed rename)))
      ((inMemory settings gateway identifiers).findRanked context request standardTopK).run
      ((inMemory settings gateway identifiers').findRanked context request standardTopK).run := by
  unfold findRanked
  refine Task.Alike.andThen (find_alike same settings gateway identifiers identifiers' injective _
    request) fun results => ?_
  rw [List.isEmpty_map]
  split
  · exact orElse_alike (reranker_alike settings gateway identifiers identifiers' request.query
      results) (Task.Alike.ok _ results)
  · exact Task.Alike.ok _ results

theorem search_alike (request : SearchRequest) :
    Task.Alike ready (Except.map (List.map (.renamed rename)))
      ((inMemory settings gateway identifiers).search context request).run
      ((inMemory settings gateway identifiers').search context request).run :=
  findRanked_alike same settings gateway identifiers identifiers' injective request _

omit same injective in
private theorem generate_alike (previewCharacters : Nat) (query : String)
    (results : List SearchResult) (model : String) (backend : Option String) :
    Task.Alike ready (Except.map (GroundedAnswer.renamed rename))
      (Generation.generate (inMemory settings gateway identifiers).gateway previewCharacters context
        query results model backend).run
      (Generation.generate (inMemory settings gateway identifiers').gateway previewCharacters context
        query (results.map (.renamed rename)) model backend).run := by
  have asked : ∀ identifiers : Nat → Identifier,
      ((inMemory settings gateway identifiers).gateway.chat context
        (Generation.request query results model backend)).forRetrieval =
      serving (gateway.chat context
        (Generation.request query results model backend)).forRetrieval :=
    fun _ => forRetrieval_chat_zoom PipelineState.services_isPart gateway context _
  unfold Generation.generate
  rw [Generation.request_renamed, Generation.citations_renamed, asked, asked]
  exact Task.Alike.andThen (serving_alike _) fun response =>
    Task.Alike.ok (GroundedAnswer.renamed rename) _

theorem query_alike (request : QueryRequest) :
    Task.Alike ready (Except.map (QueryResponse.renamed rename))
      ((inMemory settings gateway identifiers).query context request).run
      ((inMemory settings gateway identifiers').query context request).run := by
  unfold query
  refine Task.Alike.andThen (findRanked_alike same settings gateway identifiers identifiers'
    injective request.toSearchRequest _) fun results => ?_
  exact Task.Alike.andThen (generate_alike settings gateway identifiers identifiers' _ _ _ _ _)
    fun answer => Task.Alike.ok (QueryResponse.renamed rename) _

end

end Pipeline

end GroundedAnswers
