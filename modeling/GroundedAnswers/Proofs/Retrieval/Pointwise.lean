import GroundedAnswers.Proofs.Gateway.Outcomes
import GroundedAnswers.Proofs.Retrieval.Ranking
import GroundedAnswers.Retrieval.Reranking

namespace GroundedAnswers

/-! Results that are scored one by one: each gets the number of its own reply, whichever reply comes
first, and equal scores keep their order. -/

open GroundedAnswers.Number (IsNumber)
open GroundedAnswers.Task (Settles)

/-! ## Stable sorting -/

namespace SearchResult

/-- The same results, by falling scores, those with equal scores in the order in which they were. -/
structure StablySorted (results sorted : List SearchResult) : Prop where
  perm : sorted.Perm results
  falling : sorted.Pairwise fun earlier later => later.score ≤ earlier.score
  stable : ∀ score : Float32,
    sorted.filter (·.score == score) = results.filter (·.score == score)

private theorem filter_insertAscending (score : Float32) (result : SearchResult)
    (results : List SearchResult) :
    (insertAscending result results).filter (·.score == score) =
      (result :: results).filter (·.score == score) := by
  induction results with
  | nil => rfl
  | cons first others induction =>
      rw [insertAscending]
      split
      · rename_i less
        rw [List.filter_cons, induction]
        by_cases same : result.score == score
        · have passed : (first.score == score) = false := by
            obtain ⟨firstIs, resultIs⟩ := Number.isNumber_of_lt less
            obtain ⟨-, scoreIs⟩ := Number.isNumber_of_beq same
            rw [Bool.eq_false_iff]
            intro equal
            rw [resultIs.beq_iff_place_eq scoreIs] at same
            rw [firstIs.beq_iff_place_eq scoreIs] at equal
            have below := (firstIs.lt_iff_place_lt resultIs).mp less
            rw [equal, same] at below
            exact lt_irrefl _ below
          simp only [List.filter_cons, same, passed, Bool.false_eq_true, if_false, if_true]
        · simp only [List.filter_cons, same, Bool.false_eq_true, if_false]
      · rfl

private theorem filter_ranked (score : Float32) (results : List SearchResult) :
    (ranked results).filter (·.score == score) = results.filter (·.score == score) := by
  have folded : ∀ sorted : List SearchResult,
      (results.foldl (fun sorted result => insertAscending result sorted) sorted).filter
          (·.score == score) =
        (results.filter (·.score == score)).reverse ++ sorted.filter (·.score == score) := by
    induction results with
    | nil => exact fun _ => rfl
    | cons result others induction =>
        intro sorted
        rw [List.foldl_cons, induction, filter_insertAscending, List.filter_cons, List.filter_cons]
        split
        · rw [List.reverse_cons, List.append_assoc]
          rfl
        · rfl
  rw [ranked, List.filter_reverse, folded, List.filter_nil, List.append_nil, List.reverse_reverse]

theorem ranked_stablySorted {results : List SearchResult}
    (areNumbers : ∀ result ∈ results, IsNumber result.score) :
    StablySorted results (ranked results) :=
  ⟨ranked_perm results, ranked_falling areNumbers, fun score => filter_ranked score results⟩

end SearchResult

namespace Reranker

/-! ## Scores -/

def scoreRequest (model : String) (previewCharacters : Nat) (query content : String) : ChatRequest :=
  let question := singleQuestion previewCharacters query content
  (ChatRequest.of model [.system singlePrompt, .user question]).withTemperature 0.0

/-- The result with the number that its reply gives as the score, if that is one from 0 to 1. -/
def rescored (reply : Except ModelFailure ChatResponse) (result : SearchResult) : SearchResult :=
  match reply with
  | .error _ => result
  | .ok response =>
      match Number.readFloat32? (Text.trim response.content) with
      | Option.none => result
      | some score => if 0.0 ≤ score ∧ score ≤ 1.0 then { result with score } else result

private theorem rescored_isNumber {result : SearchResult} (isNumber : IsNumber result.score)
    (reply : Except ModelFailure ChatResponse) : IsNumber (rescored reply result).score := by
  unfold rescored
  split
  · exact isNumber
  · split
    · exact isNumber
    · split
      · rename_i inside
        exact (Number.isNumber_of_le inside.1).2
      · exact isNumber

def newScore? : Except ModelFailure ChatResponse → Option Float32
  | .error _ => Option.none
  | .ok response => unitScore? response.content

private theorem rescored_eq (reply : Except ModelFailure ChatResponse) (result : SearchResult) :
    rescored reply result = { result with score := (newScore? reply).getD result.score } := by
  cases reply with
  | error failure => rfl
  | ok response =>
      simp only [rescored, newScore?, unitScore?]
      cases Number.readFloat32? (Text.trim response.content) with
      | none => rfl
      | some score =>
          simp only [Option.filter_some, decide_eq_true_eq]
          split
          · rfl
          · rfl

private theorem withScores_map (reply : SearchResult → Except ModelFailure ChatResponse)
    (results : List SearchResult) :
    withScores results (results.map fun result => newScore? (reply result)) =
      results.map fun result => rescored (reply result) result := by
  rw [withScores, List.zipWith_map_right, List.zipWith_self]
  exact List.map_congr_left fun result _ => (rescored_eq (reply result) result).symm

/-! ## Questions side by side -/

section

variable {context : RequestContext} {gateway : Gateway σ} {replies : BackendReplies}
  (replying : ∀ name backend, Gateway.find? gateway.backends name = some backend →
    backend.RepliesWith context (replies name))
  (model : String) (previewCharacters : Nat) (query : String)

include replying in
private theorem scoreOne_settles (content : String) :
    Settles (fun _ => True) context RetrievalFailure.interrupted
      (.ok (newScore? (gateway.plan.chatOutcome replies
        (scoreRequest model previewCharacters query content))))
      (scoreOne gateway model previewCharacters context query content) := by
  have regular := gateway.plan.chatOutcome_regular replies
    (scoreRequest model previewCharacters query content)
  have asked := Gateway.chat_settles replying (scoreRequest model previewCharacters query content)
  refine asked.bind_lift (fun result same => ?_) (fun _ => rfl)
    fun cause moment found => .inr ⟨cause, rfl, found⟩
  rw [← same] at regular ⊢
  cases result with
  | ok response => exact Settles.pure _
  | error failure =>
      cases failure with
      | interrupted cause => exact absurd rfl (regular cause)
      | _ => exact Settles.pure Option.none

/-- Of several steps that cannot fail, none is interrupted, or the first interruption is what
counts. -/
theorem mapM_of_settled {ι : Type} {interrupted : Interruption → ε} {value : ι → α} {items : List ι}
    {results : List (Except ε α)} {moment : Moment}
    (each : List.Forall₂ (fun item result =>
      Settled context interrupted (.ok (value item)) result moment) items results) :
    Settled context interrupted (.ok (items.map value)) (results.mapM id) moment := by
  induction each with
  | nil => exact .inl rfl
  | cons first _ induction =>
      rw [List.mapM_cons]
      rcases first with rfl | ⟨cause, rfl, found⟩
      · rcases induction with same | ⟨cause, same, found⟩
        · rw [same]
          exact .inl rfl
        · rw [same]
          exact .inr ⟨cause, rfl, found⟩
      · exact .inr ⟨cause, rfl, found⟩

def rescoredAll (plan : Gateway.Plan) (replies : BackendReplies) (results : List SearchResult) :
    List SearchResult :=
  results.map fun result =>
    rescored (plan.chatOutcome replies
      (scoreRequest model previewCharacters query result.content)) result

private theorem rescoredAll_areNumbers (plan : Gateway.Plan) (replies : BackendReplies)
    {results : List SearchResult} (areNumbers : ∀ result ∈ results, IsNumber result.score) :
    ∀ result ∈ rescoredAll model previewCharacters query plan replies results,
      IsNumber result.score := by
  intro result member
  obtain ⟨original, isResult, rfl⟩ := List.mem_map.mp member
  exact rescored_isNumber (areNumbers original isResult) _

include replying in
private theorem pointwise_settles (concurrency : Nat) (results : List SearchResult) :
    Settles (fun _ => True) context RetrievalFailure.interrupted
      (.ok (SearchResult.ranked
        (rescoredAll model previewCharacters query gateway.plan replies results)))
      (pointwise gateway model previewCharacters concurrency context query results) := by
  unfold pointwise
  by_cases empty : results.isEmpty
  · rw [List.isEmpty_iff] at empty
    subst empty
    exact .pure []
  · rw [if_neg empty]
    have asked := Task.Ensures.fanOut concurrency .byArrival results
      (fun _ _ _ _ order settled => settled.later order)
      fun result => scoreOne_settles replying model previewCharacters query result.content
    refine Task.Ensures.bind_lift asked fun outcomes moment each state kept => ?_
    rcases mapM_of_settled each with same | ⟨cause, same, found⟩
    · rw [same]
      have scored := withScores_map (fun result => gateway.plan.chatOutcome replies
        (scoreRequest model previewCharacters query result.content)) results
      exact .finished ⟨.inl (congrArg (Except.ok ∘ SearchResult.ranked) scored), kept⟩
    · rw [same]
      exact .finished ⟨.inr ⟨cause, rfl, found⟩, kept⟩

end

end Reranker

/-! ## Outcomes by position -/

/-- Of a chat alone, of chats side by side and of scores one by one, each outcome is that of its own
request, whatever the limit and however long replies take. Only the time that a reply took, which an
answer notes, is not settled by the request. -/
theorem outcomes_by_position {gateway : Gateway σ} {context : RequestContext}
    {replies : BackendReplies}
    (replying : ∀ backend ∈ gateway.backends, backend.RepliesWith context (replies backend.name)) :
    let outcome := gateway.plan.chatOutcome replies
    (∀ request now state,
      let alone := (gateway.chat context request).run.run now state
      context.interruption? alone.2.1 = none →
        alone.1.map ChatResponse.untimed = outcome request) ∧
    (∀ requests concurrency now state,
      let many := (gateway.chatMany context requests concurrency).run now state
      (context.interruption? many.2.1 = none →
        many.1.map (Except.map ChatResponse.untimed) = requests.map outcome) ∧
      ∃ gauge : Gauge, gauge.current = 0 ∧ gauge.peak ≤ max concurrency 1 ∧
        (gateway.chatManyGauged context requests concurrency).run now (state, {}) =
          (many.1, many.2.1, many.2.2, gauge)) ∧
    ∀ model previewCharacters concurrency query results now state,
      let reranked := (Reranker.pointwise gateway model previewCharacters concurrency context query
        results).run.run now state
      let rescored := Reranker.rescoredAll model previewCharacters query gateway.plan replies results
      (context.interruption? reranked.2.1 = none →
        reranked.1 = .ok (SearchResult.ranked rescored)) ∧
      ((∀ result ∈ results, IsNumber result.score) →
        SearchResult.StablySorted rescored (SearchResult.ranked rescored)) := by
  intro outcome
  have replying : ∀ name backend, Gateway.find? gateway.backends name = some backend →
      backend.RepliesWith context (replies name) := by
    intro name backend found
    rw [← Gateway.name_of_find? found]
    exact replying backend (List.mem_of_find?_eq_some found)
  refine ⟨fun request now state => ?_, fun requests concurrency now state => ?_,
    fun model previewCharacters concurrency query results now state => ⟨?_, fun areNumbers => ?_⟩⟩
  · exact (Gateway.chat_settles replying request).run_eq_of_calm True.intro
  · exact ⟨Gateway.chatMany_run_eq replying requests concurrency,
      gateway.chatMany_gauged context requests concurrency now state⟩
  · exact (Reranker.pointwise_settles replying model previewCharacters query concurrency
      results).run_eq_of_calm True.intro
  · exact SearchResult.ranked_stablySorted
      (Reranker.rescoredAll_areNumbers model previewCharacters query _ replies areNumbers)

def echoed (request : ChatRequest) : ChatResponse :=
  let question := (request.messages.getLast?.map Message.content).getD ""
  let document := String.ofList (question.toList.drop "Query: q\n\nDocument: ".length)
  ⟨none, "echo", request.model, document, ⟨0, 0, 0⟩, 0.0, 0⟩

def echoBackend : Backend Unit where
  name := "echo"
  models := []
  chat _ request := do
    let early := (echoed request).content.length
    ExceptT.lift (Task.delay ((1000 - early) * Duration.nanosecondsPerMillisecond))
    return echoed request
  chatStream _ _ := throw (.unsupported "echo" "streaming")
  embed _ _ := throw (.unsupported "echo" "embeddings")

def echoGateway : Gateway Unit where
  backends := [echoBackend]
  defaultBackend := "echo"
  fallbackBackend := none
  fallbackModel := none
  defaultModel := none
  retry := .standard

/-- Four results with their own contents as replies: a lower score, words, a number beyond one, and
a score that one of the others has. -/
theorem outcomes_by_position_of_four :
    let context := RequestContext.ofTenant (.ofNat 1)
    let replies : BackendReplies := fun _ request => .ok (echoed request)
    let result (id : Nat) (content : String) (score : Float32) : SearchResult :=
      ⟨.ofNat id, .ofNat 9, content, score, 0, ∅⟩
    let results := [result 1 "0.2" 0.9, result 2 "very relevant" 0.8, result 3 "1.5" 0.7,
      result 4 " 0.8\n" 0.1]
    let requests := results.map fun result => Reranker.scoreRequest "m" 1000 "q" result.content
    (∀ backend ∈ echoGateway.backends, backend.RepliesWith context (replies backend.name)) ∧
    (∀ result ∈ results, IsNumber result.score) ∧
    (∀ concurrency, ((echoGateway.chatMany context requests concurrency).run 0 ()).1.map
        (Except.map ChatResponse.untimed) =
      requests.map (echoGateway.plan.chatOutcome replies)) ∧
    ∀ concurrency, ∃ sorted,
      ((Reranker.pointwise echoGateway "m" 1000 concurrency context "q" results).run.run 0 ()).1 =
        .ok sorted ∧
      SearchResult.StablySorted
        (Reranker.rescoredAll "m" 1000 "q" echoGateway.plan replies results) sorted ∧
      sorted.map SearchResult.chunk = [.ofNat 2, .ofNat 4, .ofNat 3, .ofNat 1] := by
  intro context replies result results requests
  have replying : ∀ backend ∈ echoGateway.backends,
      backend.RepliesWith context (replies backend.name) := by
    intro backend member
    cases List.mem_singleton.mp member
    exact ⟨fun _ => .ok _ _, fun _ => (Settles.delay _).bind_of_ok (.pure _)⟩
  have areNumbers : ∀ result ∈ results, IsNumber result.score := by decide +kernel
  obtain ⟨-, many, pointwise⟩ := outcomes_by_position replying
  refine ⟨replying, areNumbers, fun concurrency => (many requests concurrency 0 ()).1 rfl,
    fun concurrency => ?_⟩
  obtain ⟨reranked, sorted⟩ := pointwise "m" 1000 concurrency "q" results 0 ()
  exact ⟨_, reranked rfl, sorted areNumbers, by decide +kernel⟩

end GroundedAnswers
