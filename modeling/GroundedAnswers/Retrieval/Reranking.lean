import GroundedAnswers.Gateway.Basic
import GroundedAnswers.Retrieval.Document
import GroundedAnswers.Retrieval.Score
import GroundedAnswers.Retrieval.Task
import GroundedAnswers.StructuredOutput

namespace GroundedAnswers

/-! New scores for results that a search found. A model that fails or answers nonsense leaves the
results as they are. -/

abbrev Reranker (σ : Type) :=
  RequestContext → String → List SearchResult → RetrievalTask σ (List SearchResult)

namespace Reranker

def none : Reranker σ := fun _ _ results => pure results

/-! ## All results in one question -/

def listPrompt : String :=
  "You are a relevance scoring assistant. Given a query and a list of text chunks,\n" ++
  "score each chunk from 0.0 to 1.0 based on how relevant it is to the query.\n" ++
  "Return ONLY a JSON array of objects with \"index\" and \"score\" fields. Example:\n" ++
  "[\x7b\"index\": 0, \"score\": 0.95\x7d, \x7b\"index\": 1, \"score\": 0.3\x7d]"

def listQuestion (previewCharacters : Nat) (query : String) (results : List SearchResult) :
    String :=
  let chunks := results.mapIdx fun index result =>
    s!"[{index}] " ++ Text.preview result.content previewCharacters ++ "\n\n"
  "Query: " ++ query ++ "\n\nChunks:\n" ++ String.join chunks

structure IndexedScore where
  index : UInt64
  score : Float32

def IndexedScore.ofJson? (json : Json) : Option IndexedScore := do
  match ← json.slots? ["index", "score"] with
  | [index, score] => return ⟨← index.required Json.uint64?, ← score.required Json.float32?⟩
  | _ => Option.none

/-- Give one result a new score. An index beyond the results changes nothing. -/
def applyScore (results : List SearchResult) (entry : IndexedScore) : List SearchResult :=
  results.modify entry.index.toNat fun result => { result with score := entry.score }

def applyScores (results : List SearchResult) (scores : List IndexedScore) : List SearchResult :=
  SearchResult.ranked (scores.foldl applyScore results)

def listwise (gateway : Gateway σ) (model : String) (previewCharacters : Nat) : Reranker σ :=
  fun context query results => do
    if results.isEmpty then return results
    let question := listQuestion previewCharacters query results
    let request := ChatRequest.of model [.system listPrompt, .user question]
    match ← ExceptT.lift (gateway.chat context (request.withTemperature 0.0)).run with
    | .error (.interrupted cause) => throw (.interrupted cause)
    | .error _ => return results
    | .ok response =>
        match StructuredOutput.readAs (Json.list? IndexedScore.ofJson?) response.content with
        | .ok scores => return applyScores results scores
        | .error _ => return results

/-! ## One question for each result -/

def singlePrompt : String :=
  "Rate the relevance of the document to the query on a scale of 0.0 to 1.0. Reply with ONLY the " ++
  "number."

def singleQuestion (previewCharacters : Nat) (query content : String) : String :=
  "Query: " ++ query ++ "\n\nDocument: " ++ Text.preview content previewCharacters

def unitScore? (text : String) : Option Float32 :=
  (Number.readFloat32? (Text.trim text)).filter fun score => 0.0 ≤ score ∧ score ≤ 1.0

def scoreOne (gateway : Gateway σ) (model : String) (previewCharacters : Nat)
    (context : RequestContext) (query content : String) : RetrievalTask σ (Option Float32) := do
  let question := singleQuestion previewCharacters query content
  let request := ChatRequest.of model [.system singlePrompt, .user question]
  match ← ExceptT.lift (gateway.chat context (request.withTemperature 0.0)).run with
  | .ok response => return unitScore? response.content
  | .error (.interrupted cause) => throw (.interrupted cause)
  | .error _ => return Option.none

def withScores (results : List SearchResult) (scores : List (Option Float32)) :
    List SearchResult :=
  List.zipWith (fun result score => { result with score := score.getD result.score }) results scores

def pointwise (gateway : Gateway σ) (model : String) (previewCharacters concurrency : Nat) :
    Reranker σ :=
  fun context query results => do
    if results.isEmpty then return results
    let questions := results.map fun result =>
      (scoreOne gateway model previewCharacters context query result.content).run
    let outcomes ← ExceptT.lift (Task.buffered concurrency questions)
    let scores ← ExceptT.mk (pure (outcomes.mapM id))
    return SearchResult.ranked (withScores results scores)

end Reranker

end GroundedAnswers
