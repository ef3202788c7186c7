import GroundedAnswers.Proofs.Answering.Faithful
import GroundedAnswers.Proofs.Gateway.Outcomes

namespace GroundedAnswers

/-! What a search comes to when backends reply by the request alone. Then every chat and every
retrieval has one outcome, and the outcome of the search is put together from these. -/

open GroundedAnswers.Task (Definite Settles SettlesAs)

namespace Pipeline

/-! ## What a pipeline asks its model -/

section

variable (settings : RetrievalSettings)

def passageRequest (query : String) : ChatRequest :=
  (ChatRequest.of settings.assistantModel
    [.system PassageWriter.prompt, .user query]).withTemperature 0.0

def rephraseRequest (query : String) : ChatRequest :=
  (ChatRequest.of settings.assistantModel [.system Rephraser.prompt, .user query]).withTemperature 0.7

def rerankRequest (query : String) (results : List SearchResult) : ChatRequest :=
  let question := Reranker.listQuestion settings.rerankPreviewCharacters.toNat query results
  (ChatRequest.of settings.assistantModel
    [.system Reranker.listPrompt, .user question]).withTemperature 0.0

end

/-! ## Outcomes -/

structure Replies where
  chat : ChatRequest → Except ModelFailure ChatResponse
  retrieve : RetrieveOptions → String → Except RetrievalFailure (List SearchResult)

namespace Replies

variable (replies : Replies) (settings : RetrievalSettings)

def passage (query : String) : Except RetrievalFailure String :=
  ((replies.chat (passageRequest settings query)).mapError RetrievalFailure.ofModel).bind
    fun response => .ok (Text.trim response.content)

def byPassage (options : RetrieveOptions) (query : String) : List SearchResult :=
  let found := (replies.passage settings query).bind fun passage =>
    if passage = "" then .ok [] else replies.retrieve options passage
  found.toOption.getD []

def variants (query : String) : List String :=
  match replies.chat (rephraseRequest settings query) with
  | .error _ => [query]
  | .ok response => queryVariants query response.content

def retrieveAll (options : RetrieveOptions) (texts : List String) :
    Except RetrievalFailure (List SearchResult) :=
  let outcomes := texts.map (replies.retrieve options)
  match severeFailure? outcomes with
  | some failure => .error failure
  | none => .ok (mergeUnique (successes outcomes) options.topK)

def byQuery (options : RetrieveOptions) (request : SearchRequest) :
    Except RetrievalFailure (List SearchResult) :=
  let variants := if request.rephrase then replies.variants settings request.query else []
  if 1 < variants.length then replies.retrieveAll options variants
  else replies.retrieve options request.query

def find (options : RetrieveOptions) (request : SearchRequest) :
    Except RetrievalFailure (List SearchResult) :=
  let found := if request.hypothetical then replies.byPassage settings options request.query else []
  if found.isEmpty then replies.byQuery settings options request else .ok found

def rerank (query : String) (results : List SearchResult) : List SearchResult :=
  match replies.chat (rerankRequest settings query results) with
  | .error _ => results
  | .ok response =>
      match StructuredOutput.readAs (Json.list? Reranker.IndexedScore.ofJson?) response.content with
      | .error _ => results
      | .ok scores => Reranker.applyScores results scores

def ranked (request : SearchRequest) (results : List SearchResult) : List SearchResult :=
  if request.rerank ∧ ¬results.isEmpty then replies.rerank settings request.query results
  else results

def search (request : SearchRequest) : Except RetrievalFailure (List SearchResult) :=
  (replies.find settings (retrieveOptions request settings.searchTopK) request).map
    (replies.ranked settings request)

end Replies

/-- On a store, chats and retrievals of the pipeline come to what the replies say, chats apart from
the time that they take. -/
structure Replies.Describe (replies : Replies) (pipeline : Pipeline (PipelineState σ))
    (context : RequestContext) (store : MemoryStore) : Prop where
  chat : ∀ request, SettlesAs ChatResponse.untimed (Keeping (· = store)) context
    ModelFailure.interrupted (replies.chat request) (pipeline.gateway.chat context request)
  chatRegular : ∀ request, Regular ModelFailure.interrupted (replies.chat request)
  retrieve : ∀ options text, Settles (Keeping (· = store)) context RetrievalFailure.interrupted
    (replies.retrieve options text) (pipeline.retrieve context options text)
  retrieveRegular : ∀ options text,
    Regular RetrievalFailure.interrupted (replies.retrieve options text)

/-! ## Replies by the request -/

section

variable (settings : RetrievalSettings) {gateway : Gateway σ} (identifiers : Nat → Identifier)
  {context : RequestContext} (store : MemoryStore)

private theorem serving_definite {interrupted : Interruption → ε} {task : ExceptT ε (Task σ) α}
    (definite : Definite (fun _ => True) context interrupted task) :
    Definite (Keeping (· = store)) context interrupted (serving task) := by
  refine definite.zoomFailing (fun _ _ => True.intro) ?_
  exact fun _ _ kept => kept

theorem chat_settles {replies : BackendReplies}
    (replying : ∀ name backend, Gateway.find? gateway.backends name = some backend →
      backend.RepliesWith context (replies name)) (request : ChatRequest) :
    SettlesAs ChatResponse.untimed (Keeping (· = store)) context ModelFailure.interrupted
      (gateway.plan.chatOutcome replies request)
      ((inMemory settings gateway identifiers).gateway.chat context request) := by
  have carried : (inMemory settings gateway identifiers).gateway.chat context request =
      serving (gateway.chat context request) :=
    Gateway.chat_zoom PipelineState.services_isPart _ _ _
  rw [carried]
  exact (Gateway.chat_settles replying request).zoomFailing (fun _ _ => True.intro)
    fun _ _ kept => kept

variable (known : ∀ backend ∈ gateway.backends, backend.RepliesByRequest context)

include known

private theorem retrieve_definite (options : RetrieveOptions) (text : String) :
    Definite (Keeping (· = store)) context RetrievalFailure.interrupted
      ((inMemory settings gateway identifiers).retrieve context options text) := by
  unfold retrieve
  rw [embedOne_inMemory]
  have embeds : Definite (fun _ => True) context RetrievalFailure.interrupted
      ((GatewayEmbedder.ofSettings gateway settings).embedOne context text) :=
    GatewayEmbedder.embedOne_definite known text
  refine (serving_definite store embeds).bind fun embedding => Definite.guarded ?_
  let search : SearchOptions := ⟨context.tenant, options.topK, options.minScore⟩
  refine ⟨.ok (if options.hybrid then store.hybridSearch text embedding search
    else store.similaritySearch embedding search), fun _ => nofun, fun now state kept => ?_⟩
  have same : state.store = store := kept
  subst same
  cases options.hybrid with
  | true => exact .finished ⟨.inl rfl, rfl⟩
  | false => exact .finished ⟨.inl rfl, rfl⟩

theorem exists_replies :
    ∃ replies : Replies, replies.Describe (inMemory settings gateway identifiers) context store := by
  rcases Gateway.exists_backendReplies known with ⟨replies, replying⟩
  choose retrieve retrieveRegular retrieveSettles using
    retrieve_definite settings identifiers store known
  exact ⟨⟨gateway.plan.chatOutcome replies, retrieve⟩,
    chat_settles settings identifiers store replying,
    gateway.plan.chatOutcome_regular replies, retrieveSettles, retrieveRegular⟩

end

/-! ## Outcomes of the steps -/

private theorem orElse_settles {keeps : σ → Prop} {context : RequestContext}
    {task : RetrievalTask σ α} {outcome : Except RetrievalFailure α}
    (settles : Settles keeps context RetrievalFailure.interrupted outcome task)
    (regular : Regular RetrievalFailure.interrupted outcome) (otherwise : α) :
    Settles keeps context RetrievalFailure.interrupted (.ok (outcome.toOption.getD otherwise))
      (RetrievalTask.orElse task (pure otherwise)) := by
  refine settles.bind_lift ?_ fun _ => rfl
  cases outcome with
  | ok value => exact .pure value
  | error failure =>
      cases failure with
      | interrupted cause => exact absurd rfl (regular cause)
      | _ => exact .pure otherwise

private theorem regular_ofModel {outcome : Except ModelFailure α}
    (regular : Regular ModelFailure.interrupted outcome) :
    Regular RetrievalFailure.interrupted (outcome.mapError RetrievalFailure.ofModel) := by
  intro cause same
  cases outcome with
  | ok value => cases same
  | error failure =>
      cases failure with
      | interrupted cause => exact regular cause rfl
      | _ => cases same

section

variable {replies : Replies} {settings : RetrievalSettings} {gateway : Gateway σ}
  {identifiers : Nat → Identifier} {context : RequestContext} {store : MemoryStore}
  (describe : replies.Describe (inMemory settings gateway identifiers) context store)

include describe

private theorem passageWriter_settles (query : String) :
    Settles (Keeping (· = store)) context RetrievalFailure.interrupted
      (replies.passage settings query)
      ((inMemory settings gateway identifiers).passageWriter context query) := by
  have asked := (describe.chat (passageRequest settings query)).adapt RetrievalFailure.interrupted
    RetrievalFailure.ofModel fun _ => rfl
  exact asked.bind fun response => .pure _

private theorem byPassage_settles (options : RetrieveOptions) (query : String) :
    Settles (Keeping (· = store)) context RetrievalFailure.interrupted
      (.ok (replies.byPassage settings options query))
      ((inMemory settings gateway identifiers).retrieveByPassage context options query) := by
  have written : Regular RetrievalFailure.interrupted (replies.passage settings query) :=
    (regular_ofModel (describe.chatRegular _)).bind fun _ => .ok _ _
  refine orElse_settles ((passageWriter_settles describe query).bind fun passage => ?_)
    (written.bind fun passage => ?_) []
  · split
    · exact .pure []
    · exact describe.retrieve options passage
  · split
    · exact .ok _ []
    · exact describe.retrieveRegular options passage

private theorem variants_settles (query : String) :
    Settles (Keeping (· = store)) context RetrievalFailure.interrupted
      (.ok (replies.variants settings query))
      ((inMemory settings gateway identifiers).variants context query) := by
  have asked := describe.chat (rephraseRequest settings query)
  have regular := describe.chatRegular (rephraseRequest settings query)
  have rephrased : Settles (Keeping (· = store)) context RetrievalFailure.interrupted
      (.ok (replies.variants settings query))
      ((inMemory settings gateway identifiers).rephraser context query) := by
    refine asked.bind_lift (fun result same => ?_) (fun _ => rfl)
      fun cause moment found => .inr ⟨cause, rfl, found⟩
    rw [Replies.variants, ← same]
    rw [← same] at regular
    cases result with
    | ok response => exact Settles.pure _
    | error failure =>
        cases failure with
        | interrupted cause => exact absurd rfl (regular cause)
        | _ => exact Settles.pure [query]
  exact orElse_settles rephrased (.ok _ _) []

omit describe in
/-- Of several retrievals, none is interrupted, or the interruption is what counts. -/
theorem outcomes_of_settled {retrieve : String → Except RetrievalFailure α} {texts : List String}
    {results : List (Except RetrievalFailure α)} {moment : Moment}
    (regular : ∀ text, Regular RetrievalFailure.interrupted (retrieve text))
    (each : List.Forall₂ (fun text result =>
      Settled context RetrievalFailure.interrupted (retrieve text) result moment) texts results) :
    results = texts.map retrieve ∨
      ∃ cause, (failures results).find? RetrievalFailure.isInterruption =
        some (.interrupted cause) ∧ (context.interruption? moment).isSome := by
  induction each with
  | nil => exact .inl rfl
  | @cons text result texts results first _ induction =>
      rcases first with rfl | ⟨cause, rfl, found⟩
      · rcases induction with rfl | ⟨cause, isFirst, found⟩
        · exact .inl rfl
        · refine .inr ⟨cause, ?_, found⟩
          have passed := regular text
          cases outcome : retrieve text with
          | ok value => exact isFirst
          | error failure =>
              rw [outcome] at passed
              cases failure with
              | interrupted cause => exact absurd rfl (passed cause)
              | _ => exact isFirst
      · exact .inr ⟨cause, rfl, found⟩

private theorem retrieveAll_settles (options : RetrieveOptions) (texts : List String) :
    Settles (Keeping (· = store)) context RetrievalFailure.interrupted
      (replies.retrieveAll options texts)
      ((inMemory settings gateway identifiers).retrieveAll context options texts) := by
  unfold retrieveAll Replies.retrieveAll
  have searches := Task.Ensures.all texts (fun _ _ _ _ order settled => settled.later order)
    (describe.retrieve options)
  refine searches.bind_lift fun results moment settled state kept => ?_
  rcases outcomes_of_settled (describe.retrieveRegular options) settled with
    rfl | ⟨cause, first, found⟩
  · dsimp only
    cases severeFailure? (texts.map (replies.retrieve options)) with
    | some failure => exact .finished ⟨.inl rfl, kept⟩
    | none => exact .finished ⟨.inl rfl, kept⟩
  · rw [severeFailure?_eq, first]
    exact .finished ⟨.inr ⟨cause, rfl, found⟩, kept⟩

private theorem byQuery_settles (options : RetrieveOptions) (request : SearchRequest) :
    Settles (Keeping (· = store)) context RetrievalFailure.interrupted
      (replies.byQuery settings options request)
      ((inMemory settings gateway identifiers).retrieveByQuery context options request) := by
  have plain := describe.retrieve options request.query
  unfold retrieveByQuery Replies.byQuery
  cases request.rephrase with
  | false => exact plain
  | true =>
      refine (variants_settles describe request.query).bind_of_ok ?_
      simp only [if_true]
      split
      · exact retrieveAll_settles describe options _
      · exact plain

private theorem find_settles (options : RetrieveOptions) (request : SearchRequest) :
    Settles (Keeping (· = store)) context RetrievalFailure.interrupted
      (replies.find settings options request)
      ((inMemory settings gateway identifiers).find context options request) := by
  have byQuery := byQuery_settles describe options request
  unfold find Replies.find
  cases request.hypothetical with
  | false => exact byQuery
  | true =>
      refine (byPassage_settles describe options request.query).bind_of_ok ?_
      simp only [if_true]
      split
      · exact byQuery
      · exact .pure _

private theorem reranker_settles (query : String) {results : List SearchResult}
    (some : ¬results.isEmpty) :
    Settles (Keeping (· = store)) context RetrievalFailure.interrupted
      (.ok (replies.rerank settings query results))
      ((inMemory settings gateway identifiers).reranker context query results) := by
  have asked := describe.chat (rerankRequest settings query results)
  have regular := describe.chatRegular (rerankRequest settings query results)
  unfold inMemory Reranker.listwise
  dsimp only
  rw [if_neg some]
  refine asked.bind_lift (fun result same => ?_) (fun _ => rfl)
    fun cause moment found => .inr ⟨cause, rfl, found⟩
  rw [Replies.rerank, ← same]
  rw [← same] at regular
  cases result with
  | error failure =>
      cases failure with
      | interrupted cause => exact absurd rfl (regular cause)
      | _ => exact Settles.pure results
  | ok response =>
      dsimp only [Except.map, ChatResponse.untimed]
      cases StructuredOutput.readAs (Json.list? Reranker.IndexedScore.ofJson?) response.content with
      | ok scores => exact Settles.pure _
      | error _ => exact Settles.pure results

theorem search_settles (request : SearchRequest) :
    Settles (Keeping (· = store)) context RetrievalFailure.interrupted
      (replies.search settings request)
      ((inMemory settings gateway identifiers).search context request) := by
  have found := find_settles describe (retrieveOptions request settings.searchTopK) request
  unfold search findRanked Replies.search
  cases outcome : replies.find settings (retrieveOptions request settings.searchTopK) request with
  | error failure =>
      rw [outcome] at found
      exact found.bind_of_error
  | ok results =>
      rw [outcome] at found
      refine found.bind_of_ok ?_
      dsimp only [Except.map, Replies.ranked]
      split
      · rename_i asked
        exact orElse_settles (reranker_settles describe request.query asked.2) (.ok _ _) results
      · exact .pure results

end

end Pipeline

end GroundedAnswers
