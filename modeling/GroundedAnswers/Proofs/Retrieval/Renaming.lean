import GroundedAnswers.Answering.Operation
import Mathlib.Data.List.Forall2
import Mathlib.Logic.Function.Basic

namespace GroundedAnswers

/-! Other identifiers for the same chunks. What is found, scored, sorted and cited does not depend
on how chunks are called, as long as different chunks keep different names. -/

def Chunk.renamed (rename : Identifier → Identifier) (chunk : Chunk) : Chunk :=
  { chunk with id := rename chunk.id }

def SearchResult.renamed (rename : Identifier → Identifier) (result : SearchResult) :
    SearchResult :=
  { result with chunk := rename result.chunk }

def Citation.renamed (rename : Identifier → Identifier) (citation : Citation) : Citation :=
  { citation with chunk := rename citation.chunk }

def QueryResponse.renamed (rename : Identifier → Identifier) (response : QueryResponse) :
    QueryResponse :=
  { response with citations := response.citations.map (.renamed rename) }

def GroundedAnswer.renamed (rename : Identifier → Identifier) (answer : GroundedAnswer) :
    GroundedAnswer :=
  { answer with citations := answer.citations.map (.renamed rename) }

def PipelineResult.renamed (rename : Identifier → Identifier) : PipelineResult → PipelineResult
  | .stored chunks => .stored (chunks.map (.renamed rename))
  | .found results => .found (results.map (.renamed rename))
  | .answered response => .answered (response.renamed rename)
  | .deleted count => .deleted count

/-! ## Sorting -/

private theorem map_eq_iff_forall₂ {change : α → β} {values : List α} {results : List β} :
    values.map change = results ↔ List.Forall₂ (change · = ·) values results := by
  rw [← List.forall₂_map_left_iff (R := Eq), List.forall₂_eq_eq_eq]

namespace SearchResult

section

variable {related : SearchResult → SearchResult → Prop}
  (sameScore : ∀ first second, related first second → first.score = second.score)

include sameScore

private theorem forall₂_insertAscending {result result' : SearchResult}
    {results results' : List SearchResult} (isRelated : related result result')
    (areRelated : List.Forall₂ related results results') :
    List.Forall₂ related (insertAscending result results) (insertAscending result' results') := by
  induction areRelated with
  | nil => exact .cons isRelated .nil
  | cons first others induction =>
      rw [insertAscending, insertAscending, sameScore _ _ first, sameScore _ _ isRelated]
      split
      · exact .cons first induction
      · exact .cons isRelated (.cons first others)

theorem forall₂_ranked {results results' : List SearchResult}
    (areRelated : List.Forall₂ related results results') :
    List.Forall₂ related (ranked results) (ranked results') := by
  refine List.rel_reverse (List.rel_foldl (P := List.Forall₂ related) ?_ .nil areRelated)
  exact fun _ _ sorted _ _ isRelated => forall₂_insertAscending sameScore isRelated sorted

end

private theorem ranked_renamed (rename : Identifier → Identifier) (results : List SearchResult) :
    ranked (results.map (renamed rename)) = (ranked results).map (renamed rename) := by
  refine (map_eq_iff_forall₂.mpr (forall₂_ranked ?_ (map_eq_iff_forall₂.mp rfl))).symm
  rintro first _ rfl
  rfl

end SearchResult

/-- Where the chunks of a tenant are alike, so is what is found of them. -/
theorem MemoryStore.forall₂_ranked {alike : Chunk → Chunk → Prop}
    {related : SearchResult → SearchResult → Prop}
    (sameScore : ∀ first second, related first second → first.score = second.score)
    {left right : MemoryStore} {options : SearchOptions} {score score' : Chunk → Float32}
    (own : List.Forall₂ alike (left.chunks.filter (·.tenant = options.tenant))
      (right.chunks.filter (·.tenant = options.tenant)))
    (shown : ∀ chunk chunk', alike chunk chunk' →
      related (.ofChunk chunk (score chunk)) (.ofChunk chunk' (score' chunk'))) :
    List.Forall₂ related (left.ranked options score) (right.ranked options score') := by
  refine List.forall₂_take _ (SearchResult.forall₂_ranked sameScore ?_)
  refine List.rel_filter (fun result result' isRelated => ?_) (List.rel_map shown own)
  simp only [sameScore result result' isRelated]

variable (rename : Identifier → Identifier)

/-! ## Searching -/

/-- Two stores hold the same chunks of a tenant, up to their names. -/
def MemoryStore.SameOf (rename : Identifier → Identifier) (tenant : Identifier)
    (left right : MemoryStore) : Prop :=
  right.chunks.filter (·.tenant = tenant) =
    (left.chunks.filter (·.tenant = tenant)).map (.renamed rename)

namespace MemoryStore.SameOf

variable {rename} {tenant : Identifier} {left right : MemoryStore}
  (same : SameOf rename tenant left right) {options : SearchOptions}
  (own : options.tenant = tenant)

include same own

private theorem ranked_eq {score : Chunk → Float32}
    (unnamed : ∀ chunk, score (chunk.renamed rename) = score chunk) :
    right.ranked options score = (left.ranked options score).map (.renamed rename) := by
  have alike : List.Forall₂ (Chunk.renamed rename · = ·)
      (left.chunks.filter (·.tenant = options.tenant))
      (right.chunks.filter (·.tenant = options.tenant)) := by
    rw [own]
    exact map_eq_iff_forall₂.mp same.symm
  refine (map_eq_iff_forall₂.mpr (forall₂_ranked ?_ alike ?_)).symm
  · rintro first _ rfl
    rfl
  · rintro chunk _ rfl
    rw [unnamed]
    rfl

theorem similaritySearch_eq (embedding : Vector32) :
    right.similaritySearch embedding options =
      (left.similaritySearch embedding options).map (.renamed rename) :=
  same.ranked_eq own fun _ => rfl

theorem hybridSearch_eq (query : String) (embedding : Vector32) :
    right.hybridSearch query embedding options =
      (left.hybridSearch query embedding options).map (.renamed rename) :=
  same.ranked_eq own fun _ => rfl

end MemoryStore.SameOf

namespace Pipeline

theorem mergeUnique_renamed {rename} (injective : Function.Injective rename)
    (sets : List (List SearchResult)) (topK : Nat) :
    mergeUnique (sets.map (List.map (SearchResult.renamed rename))) topK =
      (mergeUnique sets topK).map (.renamed rename) := by
  have keepNew : ∀ (kept : List SearchResult) (result : SearchResult),
      mergeUnique.keepNew (kept.map (.renamed rename)) (result.renamed rename) =
        (mergeUnique.keepNew kept result).map (.renamed rename) := by
    intro kept result
    have known : (kept.map (SearchResult.renamed rename)).any
        (·.chunk = (result.renamed rename).chunk) = kept.any (·.chunk = result.chunk) := by
      rw [List.any_map]
      congr 1
      funext other
      exact decide_eq_decide.mpr injective.eq_iff
    unfold mergeUnique.keepNew
    rw [known]
    split
    · rfl
    · rw [List.map_append, List.map_singleton]
  have folded : ∀ (results kept : List SearchResult),
      (results.map (.renamed rename)).foldl mergeUnique.keepNew (kept.map (.renamed rename)) =
        (results.foldl mergeUnique.keepNew kept).map (.renamed rename) := by
    intro results
    induction results with
    | nil => exact fun _ => rfl
    | cons result others induction =>
        intro kept
        rw [List.map_cons, List.foldl_cons, List.foldl_cons, keepNew, induction]
  rw [mergeUnique, mergeUnique, List.map_take, ← List.map_flatten]
  exact congrArg (List.take topK) (folded _ [])

end Pipeline

/-! ## Reranking and answering -/

theorem Reranker.applyScores_renamed (results : List SearchResult) (scores : List IndexedScore) :
    applyScores (results.map (.renamed rename)) scores =
      (applyScores results scores).map (.renamed rename) := by
  have applyScore : ∀ (results : List SearchResult) (entry : IndexedScore),
      applyScore (results.map (.renamed rename)) entry =
        (applyScore results entry).map (.renamed rename) := by
    intro results entry
    unfold applyScore
    generalize entry.index.toNat = index
    induction results generalizing index with
    | nil => rw [List.map_nil, List.modify_nil, List.map_nil]
    | cons result others induction =>
        cases index with
        | zero => rfl
        | succ index =>
            rw [List.map_cons, List.modify_succ_cons, List.modify_succ_cons, induction,
              List.map_cons]
  rw [applyScores, applyScores, ← SearchResult.ranked_renamed]
  congr 1
  induction scores generalizing results with
  | nil => rfl
  | cons entry others induction =>
      rw [List.foldl_cons, List.foldl_cons, applyScore, induction]

theorem Reranker.listQuestion_renamed (previewCharacters : Nat) (query : String)
    (results : List SearchResult) :
    listQuestion previewCharacters query (results.map (.renamed rename)) =
      listQuestion previewCharacters query results := by
  unfold listQuestion
  rw [List.mapIdx_eq_zipIdx_map, List.mapIdx_eq_zipIdx_map, List.zipIdx_map, List.map_map]
  rfl

theorem Generation.request_renamed (query : String) (results : List SearchResult) (model : String)
    (backend : Option String) :
    request query (results.map (.renamed rename)) model backend =
      request query results model backend := by
  unfold request question context
  rw [List.mapIdx_eq_zipIdx_map, List.mapIdx_eq_zipIdx_map, List.zipIdx_map, List.map_map]
  rfl

theorem Generation.citations_renamed (results : List SearchResult) (previewCharacters : Nat) :
    citations (results.map (.renamed rename)) previewCharacters =
      (citations results previewCharacters).map (.renamed rename) := by
  rw [citations, citations, List.map_map, List.map_map]
  rfl

end GroundedAnswers
