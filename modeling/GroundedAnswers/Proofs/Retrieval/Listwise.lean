import GroundedAnswers.Proofs.Number.Reading
import GroundedAnswers.Proofs.Retrieval.Pointwise

namespace GroundedAnswers

/-! Results that are scored in one question. Whatever entries the reply has, a result gets the
score of the last entry for its place, and nothing else about the results changes but their order.
-/

open GroundedAnswers.Number (IsNumber)

namespace Reranker

/-! ## Entries -/

/-- What the last entry for a place says, if there is one. -/
def lastScore? (entries : List IndexedScore) (place : Nat) : Option Float32 :=
  (entries.filter fun entry => entry.index.toNat = place).getLast?.map IndexedScore.score

/-- The results in their order, each with the last score for its place, or with its own. -/
def rescoredBy (entries : List IndexedScore) (results : List SearchResult) : List SearchResult :=
  results.mapIdx fun place result =>
    { result with score := (lastScore? entries place).getD result.score }

private theorem lastScore?_append (first later : List IndexedScore) (place : Nat) :
    lastScore? (first ++ later) place = (lastScore? later place).or (lastScore? first place) := by
  unfold lastScore?
  rw [List.filter_append, List.getLast?_append]
  cases (later.filter fun entry => entry.index.toNat = place).getLast? <;> rfl

private theorem exists_of_lastScore? {entries : List IndexedScore} {place : Nat} {score : Float32}
    (told : lastScore? entries place = some score) : ∃ entry ∈ entries, entry.score = score := by
  rcases Option.map_eq_some_iff.mp told with ⟨entry, last, rfl⟩
  exact ⟨entry, List.mem_of_mem_filter (List.mem_of_getLast? last), rfl⟩

private theorem rescoredBy_append (first later : List IndexedScore) (results : List SearchResult) :
    rescoredBy (first ++ later) results = rescoredBy later (rescoredBy first results) := by
  unfold rescoredBy
  rw [List.mapIdx_mapIdx]
  congr 1
  funext place result
  rw [lastScore?_append, Option.getD_or]
  rfl

private theorem rescoredBy_nil (results : List SearchResult) : rescoredBy [] results = results := by
  apply List.ext_getElem
  · exact List.length_mapIdx
  · intro place _ _
    exact List.getElem_mapIdx

private theorem applyScore_eq_rescoredBy (results : List SearchResult) (entry : IndexedScore) :
    applyScore results entry = rescoredBy [entry] results := by
  apply List.ext_getElem?
  intro place
  rw [applyScore, rescoredBy, List.getElem?_modify, List.getElem?_mapIdx]
  by_cases here : entry.index.toNat = place
  · have last : lastScore? [entry] place = some entry.score := by simp [lastScore?, here]
    simp only [if_pos here, last]
    rfl
  · have none : lastScore? [entry] place = Option.none := by simp [lastScore?, here]
    simp only [if_neg here, none]
    rfl

private theorem foldl_applyScore_eq_rescoredBy (entries : List IndexedScore)
    (results : List SearchResult) :
    entries.foldl applyScore results = rescoredBy entries results := by
  induction entries generalizing results with
  | nil => exact (rescoredBy_nil results).symm
  | cons entry rest induction =>
      have front : entry :: rest = [entry] ++ rest := rfl
      rw [List.foldl_cons, induction, applyScore_eq_rescoredBy, front, rescoredBy_append]

/-- Entries for places beyond the results say nothing about any of them. -/
theorem rescoredBy_filter (entries : List IndexedScore) (results : List SearchResult) :
    rescoredBy (entries.filter fun entry => entry.index.toNat < results.length) results =
      rescoredBy entries results := by
  apply List.ext_getElem
  · rw [rescoredBy, rescoredBy, List.length_mapIdx, List.length_mapIdx]
  · intro place inside _
    rw [rescoredBy, List.length_mapIdx] at inside
    have same : lastScore? (entries.filter fun entry => entry.index.toNat < results.length) place =
        lastScore? entries place := by
      rw [lastScore?, List.filter_filter, lastScore?]
      congr 2
      apply List.filter_congr
      intro entry _
      rw [← Bool.decide_and, decide_eq_decide]
      omega
    simp only [rescoredBy, List.getElem_mapIdx, same]

private theorem rescoredBy_areNumbers {entries : List IndexedScore} {results : List SearchResult}
    (entriesAre : ∀ entry ∈ entries, IsNumber entry.score)
    (resultsAre : ∀ result ∈ results, IsNumber result.score) :
    ∀ result ∈ rescoredBy entries results, IsNumber result.score := by
  intro result member
  rcases List.mem_mapIdx.mp member with ⟨place, inside, rfl⟩
  dsimp only
  cases told : lastScore? entries place with
  | none => exact resultsAre _ (List.getElem_mem inside)
  | some score =>
      rcases exists_of_lastScore? told with ⟨entry, isEntry, rfl⟩
      exact entriesAre entry isEntry

/-! ## Replies -/

abbrev entriesOf (content : String) : Except StructuredFailure (List IndexedScore) :=
  StructuredOutput.readAs (Json.list? IndexedScore.ofJson?) content

private theorem isNumber_of_ofJson? {json : Json} {entry : IndexedScore}
    (read : IndexedScore.ofJson? json = some entry) : IsNumber entry.score := by
  rcases Option.bind_eq_some_iff.mp read with ⟨slots, -, fields⟩
  split at fields
  · rcases Option.bind_eq_some_iff.mp fields with ⟨index, -, scored⟩
    rcases Option.bind_eq_some_iff.mp scored with ⟨number, found, told⟩
    cases told
    rename_i slot
    cases slot with
    | present value => exact Number.isNumber_of_float32? found
    | _ => cases found
  · cases fields

private theorem areNumbers_of_mapM {items : List Json} {entries : List IndexedScore}
    (read : items.mapM IndexedScore.ofJson? = some entries) :
    ∀ entry ∈ entries, IsNumber entry.score := by
  induction items generalizing entries with
  | nil =>
      cases read
      exact nofun
  | cons item rest induction =>
      rw [List.mapM_cons] at read
      rcases Option.bind_eq_some_iff.mp read with ⟨first, readFirst, others⟩
      rcases Option.bind_eq_some_iff.mp others with ⟨later, readLater, both⟩
      cases both
      exact List.forall_mem_cons.mpr ⟨isNumber_of_ofJson? readFirst, induction readLater⟩

/-- A reply has no way to say what is not a number. -/
theorem entriesOf_areNumbers {content : String} {entries : List IndexedScore}
    (read : entriesOf content = .ok entries) : ∀ entry ∈ entries, IsNumber entry.score := by
  unfold entriesOf StructuredOutput.readAs at read
  cases found : StructuredOutput.read content with
  | error failure =>
      rw [found] at read
      cases read
  | ok json =>
      rw [found] at read
      dsimp only [bind, Except.bind] at read
      split at read
      · rename_i decoded
        cases read
        cases json with
        | array items => exact areNumbers_of_mapM decoded
        | _ => cases decoded
      · cases read

/-! ## Reranking -/

def listRequest (model : String) (previewCharacters : Nat) (query : String)
    (results : List SearchResult) : ChatRequest :=
  let question := listQuestion previewCharacters query results
  (ChatRequest.of model [.system listPrompt, .user question]).withTemperature 0.0

def listOutcome (results : List SearchResult) :
    Except ModelFailure ChatResponse → Except RetrievalFailure (List SearchResult)
  | .error (.interrupted cause) => .error (.interrupted cause)
  | .error _ => .ok results
  | .ok response =>
      match entriesOf response.content with
      | .ok entries => .ok (applyScores results entries)
      | .error _ => .ok results

private theorem run_listwise {gateway : Gateway σ} {model : String} {previewCharacters : Nat}
    {context : RequestContext} {query : String} {results : List SearchResult} {now moment : Moment}
    {state after : σ} {reply : Except ModelFailure ChatResponse} (some : results ≠ [])
    (asked : (gateway.chat context
        (listRequest model previewCharacters query results)).run.run now state =
      (reply, moment, after)) :
    (listwise gateway model previewCharacters context query results).run.run now state =
      (listOutcome results reply, moment, after) := by
  unfold listwise
  rw [if_neg (mt List.isEmpty_iff.mp some)]
  refine (Task.run_bind_lift asked _).trans ?_
  cases reply with
  | error failure => cases failure <;> rfl
  | ok response =>
      unfold listOutcome entriesOf
      dsimp only
      cases StructuredOutput.readAs (Json.list? IndexedScore.ofJson?) response.content <;> rfl

end Reranker

/-- Results without any that is not a number. A chat that fails or whose reply is no list of
entries leaves the results as they are. Otherwise each gets the score of the last entry for its
place, if there is one, they are sorted by falling scores, and those with equal scores keep their
order. -/
theorem listwise_rescores_in_place (gateway : Gateway σ) (model : String) (previewCharacters : Nat)
    (context : RequestContext) (query : String) {results : List SearchResult}
    (areNumbers : ∀ result ∈ results, IsNumber result.score) (now : Moment) (state : σ) :
    let request := Reranker.listRequest model previewCharacters query results
    let chat := (gateway.chat context request).run.run now state
    let reranked :=
      (Reranker.listwise gateway model previewCharacters context query results).run.run now state
    (results = [] → reranked = (.ok [], now, state)) ∧
    (results ≠ [] →
      reranked.2 = chat.2 ∧
      (∀ cause, chat.1 = .error (.interrupted cause) → reranked.1 = .error (.interrupted cause)) ∧
      (∀ failure, chat.1 = .error failure → failure.isInterruption = false →
        reranked.1 = .ok results) ∧
      ∀ response, chat.1 = .ok response →
        (∀ fault, Reranker.entriesOf response.content = .error fault → reranked.1 = .ok results) ∧
        ∀ entries, Reranker.entriesOf response.content = .ok entries →
          let inRange := entries.filter fun entry => entry.index.toNat < results.length
          ∃ sorted, reranked.1 = .ok sorted ∧
            SearchResult.StablySorted (Reranker.rescoredBy entries results) sorted ∧
            sorted = Reranker.applyScores results inRange) := by
  intro request chat reranked
  constructor
  · rintro rfl
    rfl
  · intro some
    rcases asked : chat with ⟨reply, moment, after⟩
    have ran : reranked = (Reranker.listOutcome results reply, moment, after) :=
      Reranker.run_listwise some asked
    rw [ran]
    refine ⟨rfl, ?_, ?_, ?_⟩
    · rintro cause rfl
      rfl
    · rintro failure rfl regular
      cases failure with
      | interrupted cause => cases regular
      | _ => rfl
    · rintro response rfl
      refine ⟨fun fault unreadable => ?_, fun entries read => ?_⟩
      · simp only [Reranker.listOutcome, unreadable]
      · have entriesAre := Reranker.entriesOf_areNumbers read
        have rescored := Reranker.foldl_applyScore_eq_rescoredBy entries results
        refine ⟨Reranker.applyScores results entries, ?_, ?_, ?_⟩
        · simp only [Reranker.listOutcome, read]
        · rw [Reranker.applyScores, rescored]
          exact SearchResult.ranked_stablySorted
            (Reranker.rescoredBy_areNumbers entriesAre areNumbers)
        · rw [Reranker.applyScores, rescored, Reranker.applyScores,
            Reranker.foldl_applyScore_eq_rescoredBy, Reranker.rescoredBy_filter]

def tellingGateway (content : String) : Gateway Unit :=
  { echoGateway with
    backends :=
      [{ echoBackend with chat := fun _ request => pure { echoed request with content } }] }

/-- Two entries for one place, one for no place, and a new score that another result has. -/
theorem listwise_rescores_in_place_of_four :
    let context := RequestContext.ofTenant (.ofNat 1)
    let result (id : Nat) (score : Float32) : SearchResult :=
      ⟨.ofNat id, .ofNat 9, "", score, 0, ∅⟩
    let results := [result 1 0.9, result 2 0.5, result 3 0.7, result 4 0.2]
    let content := "[\x7b\"index\":0,\"score\":1e-1\x7d,\x7b\"index\":9,\"score\":1\x7d," ++
      "\x7b\"index\":3,\"score\":0.7\x7d,\x7b\"index\":0,\"score\":0.4\x7d]"
    let entries : List Reranker.IndexedScore := [⟨0, 0.1⟩, ⟨9, 1.0⟩, ⟨3, 0.7⟩, ⟨0, 0.4⟩]
    (∀ result ∈ results, IsNumber result.score) ∧
    ∃ sorted,
      ((Reranker.listwise (tellingGateway content) "m" 100 context "q" results).run.run 0 ()).1 =
        .ok sorted ∧
      SearchResult.StablySorted (Reranker.rescoredBy entries results) sorted ∧
      sorted.map (fun result => (result.chunk, result.score)) =
        [(.ofNat 3, 0.7), (.ofNat 4, 0.7), (.ofNat 2, 0.5), (.ofNat 1, 0.4)] := by
  intro context result results content entries
  have areNumbers : ∀ result ∈ results, IsNumber result.score := by decide +kernel
  have replied : ∃ response,
      (((tellingGateway content).chat context
        (Reranker.listRequest "m" 100 "q" results)).run.run 0 ()).1 = .ok response ∧
      response.content = content := by
    unfold Gateway.chat Gateway.chatWithRetries Gateway.attempts
    exact ⟨_, rfl, rfl⟩
  have read : Reranker.entriesOf content = .ok entries := by
    let fields (entry : Reranker.IndexedScore) := (entry.index, entry.score)
    have injective : Function.Injective fields := by
      rintro ⟨_, _⟩ ⟨_, _⟩ equal
      cases equal
      rfl
    have same : (Reranker.entriesOf content).toOption.map (·.map fields) =
        some (entries.map fields) := by
      decide +kernel
    cases found : Reranker.entriesOf content with
    | error fault =>
        rw [found] at same
        cases same
    | ok others =>
        rw [found] at same
        exact congrArg Except.ok (List.map_injective_iff.mpr injective (Option.some.inj same))
  rcases listwise_rescores_in_place (tellingGateway content) "m" 100 context "q" areNumbers 0 ()
    with ⟨-, rescores⟩
  rcases rescores (List.cons_ne_nil _ _) with ⟨-, -, -, answered⟩
  rcases replied with ⟨response, told, whole⟩
  rcases (answered response told).2 entries (whole ▸ read) with ⟨sorted, found, stably, sortedIs⟩
  refine ⟨areNumbers, sorted, found, stably, ?_⟩
  rw [sortedIs]
  decide +kernel

end GroundedAnswers
