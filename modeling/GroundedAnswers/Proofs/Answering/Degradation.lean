import GroundedAnswers.Proofs.Answering.Replies
import GroundedAnswers.Proofs.Retrieval.Variants

namespace GroundedAnswers

/-! Steps of a search that it can do without. One that fails leaves no trace: the search comes to
what it comes to when it is not asked for that step. -/

open GroundedAnswers.Task (Definite Settles)

namespace Pipeline

private theorem severeFailure?_eq_none {retrieve : String → Except RetrievalFailure α}
    {texts : List String} (regular : ∀ text, Regular RetrievalFailure.interrupted (retrieve text))
    {text : String} (member : text ∈ texts) {value : α} (found : retrieve text = .ok value) :
    severeFailure? (texts.map retrieve) = none := by
  have isOutcome : .ok value ∈ texts.map retrieve := List.mem_map.mpr ⟨text, member, found⟩
  apply severeFailure?_of_ok _ isOutcome
  intro cause isInterrupted
  rcases List.mem_map.mp isInterrupted with ⟨other, _, interrupted⟩
  exact regular other cause interrupted

/-! ## Steps that fail -/

namespace Replies

variable (replies : Replies) (settings : RetrievalSettings)

/-- There is no passage, or nothing is found with it. -/
def PassageFails (options : RetrieveOptions) (query : String) : Prop :=
  match replies.chat (passageRequest settings query) with
  | .error _ => True
  | .ok response =>
      let passage := Text.trim response.content
      passage = "" ∨
        match replies.retrieve options passage with
        | .error _ => True
        | .ok results => results = []

/-- There are no variants but the query itself. -/
def RephraseFails (query : String) : Prop :=
  match replies.chat (rephraseRequest settings query) with
  | .error _ => True
  | .ok response => ∀ variant ∈ queryVariants query response.content, variant = query

/-- There are no scores that can be read. -/
def RerankFails (query : String) (results : List SearchResult) : Prop :=
  match replies.chat (rerankRequest settings query results) with
  | .error _ => True
  | .ok response =>
      let reading :=
        StructuredOutput.readAs (Json.list? Reranker.IndexedScore.ofJson?) response.content
      ∀ scores, reading ≠ .ok scores

/-- The other request differs in nothing but steps that it does not ask for, and that fail. What
there is to rerank is what the search comes to without. -/
structure Spares (search : SearchRequest → Except RetrievalFailure (List SearchResult))
    (request other : SearchRequest) : Prop where
  same : other = { request with
    rerank := other.rerank, rephrase := other.rephrase, hypothetical := other.hypothetical }
  hypothetical : other.hypothetical = request.hypothetical ∨
    other.hypothetical = false ∧
      replies.PassageFails settings (retrieveOptions request settings.searchTopK) request.query
  rephrase : other.rephrase = request.rephrase ∨
    other.rephrase = false ∧ replies.RephraseFails settings request.query
  rerank : other.rerank = request.rerank ∨
    other.rerank = false ∧ ∀ results, search { request with rerank := false } = .ok results →
      results ≠ [] → replies.RerankFails settings request.query results

variable {replies settings}

private theorem byPassage_eq_nil {options : RetrieveOptions} {query : String}
    (fails : replies.PassageFails settings options query) :
    replies.byPassage settings options query = [] := by
  unfold PassageFails at fails
  unfold byPassage passage
  cases reply : replies.chat (passageRequest settings query) with
  | error failure => rfl
  | ok response =>
      rw [reply] at fails
      dsimp only [Except.mapError, Except.bind] at fails ⊢
      split
      · rfl
      · rename_i written
        have nothing := fails.resolve_left written
        cases found : replies.retrieve options (Text.trim response.content) with
        | error failure => rfl
        | ok results =>
            rw [found] at nothing
            exact nothing

private theorem length_variants_le {query : String} (fails : replies.RephraseFails settings query) :
    (replies.variants settings query).length ≤ 1 := by
  unfold RephraseFails at fails
  unfold variants
  cases reply : replies.chat (rephraseRequest settings query) with
  | error failure => exact Nat.le_refl 1
  | ok response =>
      rw [reply] at fails
      exact length_queryVariants_le fails

private theorem rerank_eq_self {query : String} {results : List SearchResult}
    (fails : replies.RerankFails settings query results) :
    replies.rerank settings query results = results := by
  unfold RerankFails at fails
  unfold rerank
  cases reply : replies.chat (rerankRequest settings query results) with
  | error failure => rfl
  | ok response =>
      rw [reply] at fails
      dsimp only at fails ⊢
      cases read : StructuredOutput.readAs (Json.list? Reranker.IndexedScore.ofJson?)
        response.content with
      | error _ => rfl
      | ok scores => exact absurd read (fails scores)

/-! ## Doing without -/

private theorem map_congr {outcome : Except ε α} {change change' : α → β}
    (same : ∀ value, outcome = .ok value → change value = change' value) :
    outcome.map change = outcome.map change' := by
  cases outcome with
  | error failure => rfl
  | ok value => exact congrArg Except.ok (same value rfl)

private theorem byQuery_spared (options : RetrieveOptions) {request : SearchRequest}
    {rephrase : Bool} (spared : rephrase = request.rephrase ∨
      rephrase = false ∧ replies.RephraseFails settings request.query) :
    replies.byQuery settings options request =
      replies.byQuery settings options { request with rephrase } := by
  rcases spared with rfl | ⟨rfl, fails⟩
  · rfl
  · unfold byQuery
    cases request.rephrase with
    | false => rfl
    | true => exact if_neg (Nat.not_lt.mpr (length_variants_le fails))

private theorem find_spared {options : RetrieveOptions} {request : SearchRequest}
    {rephrase hypothetical : Bool}
    (sparedPassage : hypothetical = request.hypothetical ∨
      hypothetical = false ∧ replies.PassageFails settings options request.query)
    (sparedVariants : rephrase = request.rephrase ∨
      rephrase = false ∧ replies.RephraseFails settings request.query) :
    replies.find settings options request =
      replies.find settings options { request with rephrase, hypothetical } := by
  have byQuery : replies.byQuery settings options request =
      replies.byQuery settings options { request with rephrase, hypothetical } :=
    byQuery_spared options sparedVariants
  unfold find
  rw [byQuery]
  rcases sparedPassage with rfl | ⟨rfl, fails⟩
  · rfl
  · cases request.hypothetical with
    | false => rfl
    | true =>
        simp only [if_true]
        rw [byPassage_eq_nil fails]
        rfl

private theorem ranked_spared {request : SearchRequest} {rerank : Bool}
    {results : List SearchResult} (spared : rerank = request.rerank ∨
      rerank = false ∧ (results ≠ [] → replies.RerankFails settings request.query results)) :
    replies.ranked settings request results =
      replies.ranked settings { request with rerank } results := by
  rcases spared with rfl | ⟨rfl, fails⟩
  · rfl
  · unfold ranked
    simp only [Bool.false_eq_true, false_and, if_false]
    split
    · rename_i asked
      exact rerank_eq_self (fails fun same => asked.2 (List.isEmpty_iff.mpr same))
    · rfl

private theorem search_spared {request other : SearchRequest}
    (spares : replies.Spares settings (replies.search settings) request other) :
    replies.search settings request = replies.search settings other := by
  let options := retrieveOptions request settings.searchTopK
  let without : SearchRequest := { request with
    rerank := other.rerank, rephrase := other.rephrase, hypothetical := other.hypothetical }
  have same : other = without := spares.same
  have alike : replies.find settings options request = replies.find settings options without :=
    find_spared spares.hypothetical spares.rephrase
  have order : ∀ results, replies.find settings options request = .ok results →
      replies.ranked settings request results = replies.ranked settings without results := by
    intro results found
    have unranked : replies.search settings { request with rerank := false } = .ok results := by
      change (replies.find settings options request).map _ = _
      rw [found]
      rfl
    refine ranked_spared (spares.rerank.imp_right fun ⟨off, fails⟩ => ⟨off, ?_⟩)
    exact fails results unranked
  rw [same]
  calc replies.search settings request
    _ = (replies.find settings options request).map (replies.ranked settings without) :=
        map_congr order
    _ = replies.search settings without := congrArg _ alike

/-! ## No step is needed -/

variable (regular : ∀ options text,
  Regular RetrievalFailure.interrupted (replies.retrieve options text))

include regular

private theorem byQuery_succeeds {options : RetrieveOptions} {request : SearchRequest}
    {results : List SearchResult} (found : replies.retrieve options request.query = .ok results) :
    ∃ others, replies.byQuery settings options request = .ok others := by
  unfold byQuery
  cases request.rephrase with
  | false => exact ⟨results, found⟩
  | true =>
      simp only [if_true]
      split
      · unfold retrieveAll
        have member : request.query ∈ replies.variants settings request.query := by
          unfold variants
          split
          · exact List.mem_cons_self
          · exact query_mem_queryVariants _ _
        dsimp only
        rw [severeFailure?_eq_none (regular options) member found]
        exact ⟨_, rfl⟩
      · exact ⟨results, found⟩

private theorem find_succeeds {options : RetrieveOptions} {request : SearchRequest}
    {results : List SearchResult} (found : replies.retrieve options request.query = .ok results) :
    ∃ others, replies.find settings options request = .ok others := by
  have byQuery : ∃ others, replies.byQuery settings options request = .ok others :=
    byQuery_succeeds regular found
  unfold find
  cases request.hypothetical with
  | false => exact byQuery
  | true =>
      simp only [if_true]
      split
      · exact byQuery
      · exact ⟨_, rfl⟩

private theorem search_succeeds {request : SearchRequest} {results : List SearchResult}
    (found : replies.search settings
      { request with rerank := false, rephrase := false, hypothetical := false } = .ok results) :
    ∃ others, replies.search settings request = .ok others := by
  let options := retrieveOptions request settings.searchTopK
  have plain : ∃ results, replies.retrieve options request.query = .ok results := by
    change (replies.retrieve options request.query).map _ = _ at found
    cases outcome : replies.retrieve options request.query with
    | error failure =>
        rw [outcome] at found
        cases found
    | ok results => exact ⟨results, rfl⟩
  rcases plain with ⟨results, plain⟩
  rcases find_succeeds regular plain with ⟨others, succeeds⟩
  unfold search
  rw [succeeds]
  exact ⟨_, rfl⟩

end Replies

/-! ## Searching with steps that fail -/

/-- When backends reply by the request alone and nothing interrupts, a search comes to what it comes
to without the steps that fail. It succeeds if it does so without any of them. -/
theorem search_degrades_gracefully {settings : RetrievalSettings} {gateway : Gateway σ}
    {identifiers : Nat → Identifier} {pipeline : Pipeline (PipelineState σ)}
    (built : (PipelineDraft.inMemory settings gateway).build (PipelineState.draw identifiers) =
      .ok pipeline)
    {context : RequestContext}
    (known : ∀ backend ∈ gateway.backends, backend.RepliesByRequest context)
    (store : MemoryStore) :
    ∃ (replies : Replies) (search : SearchRequest → Except RetrievalFailure (List SearchResult)),
      replies.Describe pipeline context store ∧
      (∀ request, Settles (Keeping (· = store)) context RetrievalFailure.interrupted
        (search request) (pipeline.search context request)) ∧
      (∀ request other, replies.Spares settings search request other →
        search request = search other) ∧
      ∀ request results,
        search { request with rerank := false, rephrase := false, hypothetical := false } =
          .ok results →
        ∃ others, search request = .ok others := by
  have same := Except.ok.inj
    (built.symm.trans (PipelineDraft.build_inMemory settings gateway identifiers))
  subst same
  rcases exists_replies settings identifiers store known with ⟨replies, describe⟩
  refine ⟨replies, replies.search settings, describe, search_settles describe, ?_, ?_⟩
  · exact fun request other spares => Replies.search_spared spares
  · exact fun request results found => Replies.search_succeeds describe.retrieveRegular found

private theorem constantBackend_repliesByRequest (vector : Vector32) (context : RequestContext) :
    (constantBackend vector).RepliesByRequest context where
  chat _ := .throw fun _ => nofun
  embed _ := (Definite.delay _).bind fun _ => .pure _

private theorem run_chat_constantGateway (tenant : Identifier) {asked : ChatRequest}
    (anyBackend : asked.backend = none) (now : Moment) (state : PipelineState Unit) :
    (Task.run ((inMemory {} constantGateway .ofNat).gateway.chat (.ofTenant tenant) asked).run now
      state).1 = .error (.exhausted "constant" 1 (.unsupported "constant" "chat")) := by
  rcases asked
  cases anyBackend
  unfold Gateway.chat Gateway.chatWithRetries Gateway.attempts Gateway.ask
  rfl

/-- A model that fails whatever it is asked for. -/
theorem search_degrades_gracefully_silent_model :
    let pipeline := inMemory {} constantGateway .ofNat
    let context := RequestContext.ofTenant (.ofNat 1)
    let state : PipelineState Unit :=
      ⟨(), ⟨[⟨.ofNat 1, .ofNat 2, .ofNat 1, 0, "Ab", [1.0], 1, ∅⟩]⟩, 7⟩
    let plain : SearchRequest := { query := "Ab" }
    let request := { plain with rerank := true, rephrase := true, hypothetical := true }
    (PipelineDraft.inMemory {} constantGateway).build (PipelineState.draw .ofNat) = .ok pipeline ∧
    (∀ backend ∈ constantGateway.backends, backend.RepliesByRequest context) ∧
    ∃ results, (Task.run (pipeline.search context plain).run 0 state).1 = .ok results ∧
      (Task.run (pipeline.search context request).run 50 state).1 = .ok results := by
  intro pipeline context state plain request
  have built : (PipelineDraft.inMemory {} constantGateway).build (PipelineState.draw .ofNat) =
      .ok pipeline := PipelineDraft.build_inMemory _ _ _
  have known : ∀ backend ∈ constantGateway.backends, backend.RepliesByRequest context := by
    intro backend member
    cases List.mem_singleton.mp member
    exact constantBackend_repliesByRequest _ _
  refine ⟨built, known, ?_⟩
  rcases search_degrades_gracefully built known state.store with
    ⟨replies, search, describe, comesTo, spared, _⟩
  have calm : ∀ moment, context.interruption? moment = none := fun _ => rfl
  have fails : ∀ asked : ChatRequest, asked.backend = none →
      replies.chat asked = .error (.exhausted "constant" 1 (.unsupported "constant" "chat")) := by
    intro asked anyBackend
    have kept : Keeping (· = state.store) state := rfl
    have settled := (Task.Ensures.run (describe.chat asked) 0 kept).1.eq_of_calm (calm _)
    rw [← settled, run_chat_constantGateway _ anyBackend 0 state]
    rfl
  have spares : replies.Spares {} search request plain := by
    refine ⟨rfl, .inr ⟨rfl, ?_⟩, .inr ⟨rfl, ?_⟩, .inr ⟨rfl, fun results _ _ => ?_⟩⟩
    · unfold Replies.PassageFails
      rw [fails _ rfl]
      exact True.intro
    · unfold Replies.RephraseFails
      rw [fails _ rfl]
      exact True.intro
    · unfold Replies.RerankFails
      rw [fails _ rfl]
      exact True.intro
  have same := spared request plain spares
  have succeeds :
      (Task.run (pipeline.search context plain).run 0 state).1.toOption.isSome = true := by
    decide +kernel
  rw [(comesTo plain).run_eq calm 0 rfl] at succeeds ⊢
  rw [(comesTo request).run_eq calm 50 rfl, same]
  cases outcome : search plain with
  | error reason =>
      rw [outcome] at succeeds
      cases succeeds
  | ok results => exact ⟨results, rfl, rfl⟩

end Pipeline

end GroundedAnswers
