import GroundedAnswers.Proofs.Number.Comparison
import GroundedAnswers.Proofs.Retrieval.Results

namespace GroundedAnswers

open Number (IsNumber)

/-! The best results of a store. Wherever all scores are numbers, results are in order, and nothing
better than a result is left out. -/

/-! ## Sorting -/

namespace SearchResult

variable {results : List SearchResult}

private theorem insertAscending_rising {result : SearchResult} (isNumber : IsNumber result.score)
    (areNumbers : ∀ other ∈ results, IsNumber other.score)
    (rising : results.Pairwise (·.score ≤ ·.score)) :
    (insertAscending result results).Pairwise (·.score ≤ ·.score) := by
  induction results with
  | nil => exact List.pairwise_singleton _ _
  | cons first others induction =>
      rw [List.forall_mem_cons] at areNumbers
      rw [List.pairwise_cons] at rising
      rw [insertAscending]
      split
      · rename_i less
        have below := areNumbers.1.le_of_lt isNumber less
        refine List.pairwise_cons.mpr ⟨fun other member => ?_, induction areNumbers.2 rising.2⟩
        rcases List.mem_cons.mp ((insertAscending_perm result others).subset member) with
          rfl | member
        · exact below
        · exact rising.1 other member
      · rename_i notLess
        have below := areNumbers.1.le_of_not_lt isNumber notLess
        refine List.pairwise_cons.mpr ⟨?_, List.pairwise_cons.mpr rising⟩
        refine List.forall_mem_cons.mpr ⟨below, fun other member => ?_⟩
        exact isNumber.le_trans areNumbers.1 (areNumbers.2 other member) below
          (rising.1 other member)

theorem ranked_falling (areNumbers : ∀ result ∈ results, IsNumber result.score) :
    (ranked results).Pairwise fun earlier later => later.score ≤ earlier.score := by
  have folded : ∀ sorted : List SearchResult, (∀ result ∈ sorted, IsNumber result.score) →
      sorted.Pairwise (·.score ≤ ·.score) →
      (results.foldl (fun sorted result => insertAscending result sorted) sorted).Pairwise
        (·.score ≤ ·.score) := by
    induction results with
    | nil => exact fun _ _ rising => rising
    | cons result others induction =>
        rw [List.forall_mem_cons] at areNumbers
        intro sorted sortedNumbers rising
        refine induction areNumbers.2 _ (fun other member => ?_)
          (insertAscending_rising areNumbers.1 sortedNumbers rising)
        rcases List.mem_cons.mp ((insertAscending_perm result sorted).subset member) with
          rfl | member
        · exact areNumbers.1
        · exact sortedNumbers other member
  exact List.pairwise_reverse.mpr (folded [] nofun List.Pairwise.nil)

end SearchResult

/-! ## Searching -/

namespace MemoryStore

/-- The stores that storing and deleting lead to. Nothing is said about the order in which a store
keeps its chunks. -/
inductive Arises : MemoryStore → Prop
  | empty : Arises ⟨[]⟩
  | stored {store after : MemoryStore} (arises : Arises store) (chunks : List Chunk)
      (succeeds : store.upsert chunks = .ok after) : Arises after
  | deleted {store : MemoryStore} (arises : Arises store) (filter : DeleteFilter) :
      Arises (store.delete filter).2
  | reordered {store after : MemoryStore} (arises : Arises store)
      (same : after.chunks.Perm store.chunks) : Arises after

theorem Arises.distinct {store : MemoryStore} (arises : Arises store) : store.Distinct := by
  induction arises with
  | empty => exact distinct_empty
  | stored _ chunks succeeds distinct => exact distinct.upsert succeeds
  | deleted _ filter distinct => exact distinct.delete filter
  | reordered _ same distinct => exact (same.map Chunk.id).nodup_iff.mpr distinct

/-- A chunk may be found: it belongs to the tenant, and its score is accepted. -/
def Eligible (options : SearchOptions) (score : Chunk → Float32) (chunk : Chunk) : Bool :=
  chunk.tenant = options.tenant ∧ options.accepts (score chunk)

structure Best (store : MemoryStore) (options : SearchOptions) (score : Chunk → Float32)
    (results : List SearchResult) : Prop where
  count : results.length = min options.topK (store.chunks.countP (Eligible options score))
  distinct : (results.map SearchResult.chunk).Nodup
  eligible : ∀ result ∈ results, ∃ chunk ∈ store.chunks, chunk.tenant = options.tenant ∧
    options.accepts (score chunk) ∧ result = SearchResult.ofChunk chunk (score chunk)
  falling : results.Pairwise fun earlier later => later.score ≤ earlier.score
  best : ∀ chunk ∈ store.chunks, chunk.tenant = options.tenant → options.accepts (score chunk) →
    chunk.id ∉ results.map SearchResult.chunk → ∀ result ∈ results, score chunk ≤ result.score

section

variable {store : MemoryStore} {options : SearchOptions} {score : Chunk → Float32}

def found (store : MemoryStore) (options : SearchOptions) (score : Chunk → Float32) :
    List SearchResult :=
  SearchResult.ranked ((store.chunks.filter (Eligible options score)).map
    fun chunk => SearchResult.ofChunk chunk (score chunk))

theorem ranked_eq_take_found :
    store.ranked options score = (store.found options score).take options.topK := by
  let shown (chunk : Chunk) := SearchResult.ofChunk chunk (score chunk)
  have eligible : (store.chunks.filter (·.tenant = options.tenant)).filter
      ((options.accepts ·.score) ∘ shown) = store.chunks.filter (Eligible options score) := by
    rw [List.filter_filter]
    refine List.filter_congr fun chunk _ => ?_
    simp [Eligible, shown, SearchResult.ofChunk, Bool.and_comm]
  unfold MemoryStore.ranked found
  dsimp only
  rw [List.filter_map, eligible]

private theorem mem_found_iff {result : SearchResult} :
    result ∈ store.found options score ↔
      ∃ chunk ∈ store.chunks, chunk.tenant = options.tenant ∧ options.accepts (score chunk) ∧
        SearchResult.ofChunk chunk (score chunk) = result := by
  rw [found, (SearchResult.ranked_perm _).mem_iff]
  simp [Eligible, and_assoc]

private theorem length_found :
    (store.found options score).length = store.chunks.countP (Eligible options score) := by
  rw [found, (SearchResult.ranked_perm _).length_eq, List.length_map, List.countP_eq_length_filter]

theorem found_falling
    (areNumbers : ∀ chunk ∈ store.chunks, chunk.tenant = options.tenant → IsNumber (score chunk)) :
    (store.found options score).Pairwise fun earlier later => later.score ≤ earlier.score := by
  refine SearchResult.ranked_falling fun result member => ?_
  rcases List.mem_map.mp member with ⟨chunk, isEligible, rfl⟩
  rcases List.mem_filter.mp isEligible with ⟨stored, allowed⟩
  exact areNumbers chunk stored (of_decide_eq_true allowed).1

/-- What is found but left out stands behind all that is taken. -/
theorem score_le_of_left_out
    (areNumbers : ∀ chunk ∈ store.chunks, chunk.tenant = options.tenant → IsNumber (score chunk))
    {result other : SearchResult} (taken : result ∈ store.ranked options score)
    (isFound : other ∈ store.found options score) (leftOut : other ∉ store.ranked options score) :
    other.score ≤ result.score := by
  rw [ranked_eq_take_found] at taken leftOut
  have falling := found_falling areNumbers
  rw [← List.take_append_drop options.topK (store.found options score)] at isFound falling
  have behind := (List.mem_append.mp isFound).resolve_left leftOut
  exact (List.pairwise_append.mp falling).2.2 result taken other behind

private theorem ranked_best (distinct : store.Distinct)
    (areNumbers : ∀ chunk ∈ store.chunks, chunk.tenant = options.tenant → IsNumber (score chunk)) :
    Best store options score (store.ranked options score) where
  count := by rw [ranked_eq_take_found, List.length_take, length_found]
  distinct := by
    have faithful : Faithful (· ∈ store.chunks) options.topK (store.ranked options score) :=
      Faithful.ranked distinct options (fun _ stored _ => stored) score
    exact faithful.distinct
  eligible := by
    intro result member
    rw [ranked_eq_take_found] at member
    rcases mem_found_iff.mp (List.mem_of_mem_take member) with ⟨chunk, stored, own, accepted, shown⟩
    exact ⟨chunk, stored, own, accepted, shown.symm⟩
  falling := by
    rw [ranked_eq_take_found]
    exact (found_falling areNumbers).sublist (List.take_sublist _ _)
  best := by
    intro chunk stored own accepted leftOut result member
    let shown := SearchResult.ofChunk chunk (score chunk)
    have isFound : shown ∈ store.found options score :=
      mem_found_iff.mpr ⟨chunk, stored, own, accepted, rfl⟩
    have notTaken : shown ∉ store.ranked options score :=
      fun taken => leftOut (List.mem_map_of_mem taken)
    have below := score_le_of_left_out areNumbers member isFound notTaken
    exact below

/-- Both searches of a store find the best chunks of the tenant, by the scores that each of them
computes, whatever the order in which the store keeps its chunks. -/
theorem searches_find_best {store : MemoryStore} (arises : store.Arises) (options : SearchOptions)
    (query : String) (embedding : Vector32) :
    let similarity (chunk : Chunk) := Score.cosine chunk.embedding embedding
    let blend (chunk : Chunk) := Score.hybrid (similarity chunk) (Score.keyword query chunk.content)
    ((∀ chunk ∈ store.chunks, chunk.tenant = options.tenant → IsNumber (similarity chunk)) →
      Best store options similarity (store.similaritySearch embedding options)) ∧
    ((∀ chunk ∈ store.chunks, chunk.tenant = options.tenant → IsNumber (blend chunk)) →
      Best store options blend (store.hybridSearch query embedding options)) :=
  ⟨ranked_best arises.distinct, ranked_best arises.distinct⟩

end

/-- Three chunks of one tenant, one of another: terms of the query move a chunk to the front. -/
theorem searches_find_best_of_three :
    let chunk (id tenant : Nat) (content : String) (embedding : Vector32) : Chunk :=
      ⟨.ofNat id, .ofNat 9, .ofNat tenant, 0, content, embedding, 1, ∅⟩
    let chunks := [chunk 1 1 "tokio" [1.0, 0.0], chunk 2 1 "rust" [0.6, 0.8],
      chunk 3 2 "rust" [1.0, 0.0], chunk 4 1 "serde" [0.8, 0.6]]
    let store : MemoryStore := ⟨chunks⟩
    let options : SearchOptions := ⟨.ofNat 1, 2, 0.1⟩
    let similarity (chunk : Chunk) := Score.cosine chunk.embedding [1.0, 0.0]
    let blend (chunk : Chunk) := Score.hybrid (similarity chunk) (Score.keyword "Rust?" chunk.content)
    store.Arises ∧
    (∀ chunk ∈ store.chunks, chunk.tenant = options.tenant → IsNumber (similarity chunk)) ∧
    (∀ chunk ∈ store.chunks, chunk.tenant = options.tenant → IsNumber (blend chunk)) ∧
    (store.similaritySearch [1.0, 0.0] options).map SearchResult.chunk = [.ofNat 1, .ofNat 4] ∧
    (store.hybridSearch "Rust?" [1.0, 0.0] options).map SearchResult.chunk = [.ofNat 2, .ofNat 1] ∧
    Best store options similarity (store.similaritySearch [1.0, 0.0] options) ∧
    Best store options blend (store.hybridSearch "Rust?" [1.0, 0.0] options) := by
  intro chunk chunks store options similarity blend
  have arises : store.Arises := .stored .empty chunks (by rfl)
  have similarityNumbers : ∀ chunk ∈ store.chunks, chunk.tenant = options.tenant →
      IsNumber (similarity chunk) := by
    decide +kernel
  have blendNumbers : ∀ chunk ∈ store.chunks, chunk.tenant = options.tenant →
      IsNumber (blend chunk) := by
    decide +kernel
  have best := searches_find_best arises options "Rust?" [1.0, 0.0]
  exact ⟨arises, similarityNumbers, blendNumbers, by decide +kernel, by decide +kernel,
    best.1 similarityNumbers, best.2 blendNumbers⟩

end MemoryStore

end GroundedAnswers
