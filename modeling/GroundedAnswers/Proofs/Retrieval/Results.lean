import GroundedAnswers.Proofs.Retrieval.Repeats
import GroundedAnswers.Proofs.Retrieval.Tenants

namespace GroundedAnswers

/-! Results that come from a store. Whatever scores they get, they show chunks of one tenant, each
at most once and as the store has it. -/

namespace MemoryStore

/-! ## Distinct identifiers -/

def Distinct (store : MemoryStore) : Prop :=
  (store.chunks.map Chunk.id).Nodup

theorem distinct_empty : Distinct ⟨[]⟩ :=
  List.nodup_nil

theorem nodup_put {chunk : Chunk} {stored : List Chunk} (distinct : (stored.map Chunk.id).Nodup) :
    ((put chunk stored).map Chunk.id).Nodup := by
  induction stored with
  | nil => exact List.nodup_cons.mpr ⟨List.not_mem_nil, List.nodup_nil⟩
  | cons present others induction =>
      rw [List.map_cons, List.nodup_cons] at distinct
      rw [put]
      split
      · rename_i same
        rw [List.map_cons, ← same]
        exact List.nodup_cons.mpr distinct
      · rename_i different
        rw [List.map_cons, List.nodup_cons]
        refine ⟨fun member => ?_, induction distinct.2⟩
        rcases List.mem_map.mp member with ⟨other, inside, same⟩
        rcases mem_put inside with rfl | stored
        · exact different same.symm
        · exact distinct.1 (same ▸ List.mem_map_of_mem stored)

namespace Distinct

variable {store : MemoryStore}

theorem putAll (distinct : Distinct store) (chunks : List Chunk) :
    Distinct ⟨chunks.foldl (fun stored chunk => put chunk stored) store.chunks⟩ := by
  rcases store with ⟨stored⟩
  induction chunks generalizing stored with
  | nil => exact distinct
  | cons chunk others induction => exact induction (put chunk stored) (nodup_put distinct)

theorem upsert (distinct : Distinct store) {chunks : List Chunk} {after : MemoryStore}
    (stored : store.upsert chunks = .ok after) : Distinct after := by
  unfold MemoryStore.upsert at stored
  split at stored
  · cases stored
  · cases stored
    exact distinct.putAll chunks

theorem delete (distinct : Distinct store) (filter : DeleteFilter) :
    Distinct (store.delete filter).2 := by
  refine List.Nodup.sublist ?_ distinct
  exact (List.filter_sublist).map Chunk.id

end Distinct

end MemoryStore

/-! ## Results of a search -/

namespace SearchResult

def unscored (result : SearchResult) : SearchResult :=
  { result with score := 0.0 }

def Shows (result : SearchResult) (chunk : Chunk) : Prop :=
  chunk.id = result.chunk ∧ chunk.document = result.document ∧ chunk.content = result.content ∧
    chunk.index = result.index ∧ chunk.metadata = result.metadata

private theorem shows_ofChunk (chunk : Chunk) (score : Float32) :
    (ofChunk chunk score).Shows chunk :=
  ⟨rfl, rfl, rfl, rfl, rfl⟩

private theorem Shows.of_unscored_eq {result other : SearchResult} {chunk : Chunk}
    (same : result.unscored = other.unscored) (shown : other.Shows chunk) : result.Shows chunk := by
  have unscored : other.unscored.Shows chunk := shown
  rw [← same] at unscored
  exact unscored

end SearchResult

/-- Chunks that are known, each at most once and as it is, and not too many. -/
structure Faithful (known : Chunk → Prop) (limit : Nat) (results : List SearchResult) : Prop where
  few : results.length ≤ limit
  distinct : (results.map SearchResult.chunk).Nodup
  shown : ∀ result ∈ results, ∃ chunk, known chunk ∧ result.Shows chunk

namespace Faithful

variable {known : Chunk → Prop} {limit : Nat} {results others : List SearchResult}

theorem nil : Faithful known limit [] :=
  ⟨Nat.zero_le limit, List.nodup_nil, fun _ member => absurd member List.not_mem_nil⟩

private theorem of_perm
    (same : (others.map SearchResult.unscored).Perm (results.map SearchResult.unscored))
    (faithful : Faithful known limit results) : Faithful known limit others := by
  have names : ∀ results : List SearchResult, results.map SearchResult.chunk =
      (results.map SearchResult.unscored).map SearchResult.chunk := by
    intro results
    rw [List.map_map]
    rfl
  refine ⟨?_, ?_, fun result member => ?_⟩
  · have length := same.length_eq
    rw [List.length_map, List.length_map] at length
    rw [length]
    exact faithful.few
  · rw [names, (same.map SearchResult.chunk).nodup_iff, ← names]
    exact faithful.distinct
  · have inside := same.subset (List.mem_map_of_mem member)
    rcases List.mem_map.mp inside with ⟨original, isResult, unscored⟩
    rcases faithful.shown original isResult with ⟨chunk, isKnown, shown⟩
    exact ⟨chunk, isKnown, shown.of_unscored_eq unscored.symm⟩

theorem ranked {store : MemoryStore} (distinct : store.Distinct) (options : SearchOptions)
    (isKnown : ∀ chunk ∈ store.chunks, chunk.tenant = options.tenant → known chunk)
    (score : Chunk → Float32) : Faithful known options.topK (store.ranked options score) := by
  let own := store.chunks.filter (·.tenant = options.tenant)
  let scored := own.map fun chunk => SearchResult.ofChunk chunk (score chunk)
  let accepted := scored.filter (options.accepts ·.score)
  have found : store.ranked options score = (SearchResult.ranked accepted).take options.topK := rfl
  have kept : ∀ result ∈ store.ranked options score, result ∈ accepted := by
    intro result member
    rw [found] at member
    exact (SearchResult.ranked_perm accepted).subset (List.mem_of_mem_take member)
  refine ⟨?_, ?_, fun result member => ?_⟩
  · rw [found]
    exact List.length_take_le _ _
  · have names : scored.map SearchResult.chunk = own.map Chunk.id := by
      rw [List.map_map]
      rfl
    have ownNames : (scored.map SearchResult.chunk).Nodup := by
      rw [names]
      exact List.Nodup.sublist (List.filter_sublist.map Chunk.id) distinct
    have acceptedNames : (accepted.map SearchResult.chunk).Nodup :=
      ownNames.sublist (List.filter_sublist.map SearchResult.chunk)
    have rankedNames : ((SearchResult.ranked accepted).map SearchResult.chunk).Nodup :=
      ((SearchResult.ranked_perm accepted).map SearchResult.chunk).nodup_iff.mpr acceptedNames
    rw [found]
    exact rankedNames.sublist ((List.take_sublist _ _).map SearchResult.chunk)
  · have isScored := (List.mem_filter.mp (kept result member)).1
    rcases List.mem_map.mp isScored with ⟨chunk, isOwn, rfl⟩
    rcases List.mem_filter.mp isOwn with ⟨isStored, sameTenant⟩
    have fromTenant := isKnown chunk isStored (of_decide_eq_true sameTenant)
    exact ⟨chunk, fromTenant, SearchResult.shows_ofChunk chunk _⟩

/-! ## Several searches -/

theorem mergeUnique {sets : List (List SearchResult)}
    (each : ∀ results ∈ sets, Faithful known limit results) :
    Faithful known limit (Pipeline.mergeUnique sets limit) := by
  rw [Pipeline.mergeUnique_eq]
  refine ⟨List.length_take_le _ _, ?_, fun result member => ?_⟩
  · exact (SearchResult.nodup_firstOfEach sets.flatten).sublist
      ((List.take_sublist _ _).map SearchResult.chunk)
  · have inside := SearchResult.mem_of_mem_firstOfEach (List.mem_of_mem_take member)
    rcases List.mem_flatten.mp inside with ⟨results, isSet, isResult⟩
    exact (each results isSet).shown result isResult

/-! ## New scores -/

private theorem map_unscored_applyScore (results : List SearchResult)
    (entry : Reranker.IndexedScore) :
    (Reranker.applyScore results entry).map SearchResult.unscored =
      results.map SearchResult.unscored := by
  unfold Reranker.applyScore
  generalize entry.index.toNat = place
  induction results generalizing place with
  | nil => rw [List.modify_nil]
  | cons first others induction =>
      cases place with
      | zero => rfl
      | succ place => rw [List.modify_succ_cons, List.map_cons, List.map_cons, induction]

private theorem map_unscored_applyScores_perm (results : List SearchResult)
    (scores : List Reranker.IndexedScore) :
    ((Reranker.applyScores results scores).map SearchResult.unscored).Perm
      (results.map SearchResult.unscored) := by
  have scored : (scores.foldl Reranker.applyScore results).map SearchResult.unscored =
      results.map SearchResult.unscored := by
    induction scores generalizing results with
    | nil => rfl
    | cons entry others induction =>
        rw [List.foldl_cons, induction, map_unscored_applyScore]
  rw [← scored]
  exact (SearchResult.ranked_perm _).map SearchResult.unscored

/-- Scores from a model change neither what is found nor how much. -/
theorem applyScores (faithful : Faithful known limit results)
    (scores : List Reranker.IndexedScore) :
    Faithful known limit (Reranker.applyScores results scores) :=
  faithful.of_perm (map_unscored_applyScores_perm results scores)

end Faithful

end GroundedAnswers
