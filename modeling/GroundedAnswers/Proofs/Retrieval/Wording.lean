import GroundedAnswers.Proofs.Distinct
import GroundedAnswers.Proofs.Number.Quotients
import GroundedAnswers.Proofs.Retrieval.Renaming
import GroundedAnswers.Proofs.Text.Vocabulary

namespace GroundedAnswers

open Number (narrowInt share_mono)
open Text (vocabulary)

/-! What the wording of texts means for a search. Embeddings do not depend on the order of terms, a
share of terms does not even depend on their number, and so the order of results does neither. -/

/-! ## Embeddings -/

namespace BagOfWords

private theorem bump_comm (vector : Vector32) (first second : String) :
    bump (bump vector first) second = bump (bump vector second) first := by
  unfold bump
  by_cases same : dimension first = dimension second
  · rw [same]
  · exact List.modify_modify_ne _ _ _ same

private theorem embedding_of_perm {left right : String}
    (same : (Text.terms left).Perm (Text.terms right)) :
    embedding left = embedding right := by
  have counted : counts left = counts right :=
    same.foldl_eq' (fun first _ second _ vector => bump_comm vector first second) _
  rw [embedding, embedding, counted]

end BagOfWords

/-! ## Shares of terms -/

namespace Score

def hits (query content : String) : Nat :=
  (vocabulary query ∩ vocabulary content).card

private theorem hits_le (query content : String) : hits query content ≤ (vocabulary query).card :=
  Finset.card_le_card Finset.inter_subset_left

private theorem keyword_eq (query content : String) :
    keyword query content =
      if vocabulary query = ∅ then 0.0
      else narrowInt (hits query content) / narrowInt (vocabulary query).card := by
  have distinct := nodup_eraseDups (Text.terms query)
  have same : (Text.terms query).eraseDups.toFinset = vocabulary query := by
    ext term
    rw [vocabulary, List.mem_toFinset, List.mem_toFinset, List.mem_eraseDups]
  have all : (Text.terms query).eraseDups.length = (vocabulary query).card := by
    rw [← same, List.toFinset_card_of_nodup distinct]
  have found : ((Text.terms query).eraseDups.filter fun term =>
      (Text.terms content).contains term).length = hits query content := by
    rw [← List.toFinset_card_of_nodup (distinct.filter _), List.toFinset_filter, same, hits]
    congr 1
    ext term
    simp [vocabulary]
  have none : (Text.terms query).eraseDups.isEmpty ↔ vocabulary query = ∅ := by
    rw [List.isEmpty_iff, ← same, List.toFinset_eq_empty_iff]
  unfold keyword
  dsimp only
  rw [found, all]
  exact if_congr none rfl rfl

section

variable {query query' content content' : String}

private theorem keyword_congr (sameQuery : vocabulary query = vocabulary query')
    (sameContent : vocabulary content = vocabulary content') :
    keyword query content = keyword query' content' := by
  rw [keyword_eq, keyword_eq, hits, hits, sameQuery, sameContent]

private theorem hits_mono (more : vocabulary content ⊆ vocabulary content') :
    hits query content ≤ hits query content' :=
  Finset.card_le_card (Finset.inter_subset_inter_left more)

/-- The bound holds of every text that fits into a memory. -/
theorem keyword_mono (short : query.length < 2 ^ 64)
    (more : vocabulary content ⊆ vocabulary content') :
    keyword query content ≤ keyword query content' := by
  rw [keyword_eq, keyword_eq]
  split
  · decide
  · rename_i some
    have bounded := Nat.lt_of_le_of_lt (Text.card_vocabulary_le query) short
    exact share_mono (Finset.card_pos.mpr (Finset.nonempty_iff_ne_empty.mpr some)) bounded
      (hits_mono more) (hits_le query content')

end

end Score

/-! ## Searches -/

/-- Two texts with the same terms, each as often. -/
abbrev SameWording (left right : String) : Prop :=
  (Text.terms left).Perm (Text.terms right)

private theorem SameWording.vocabulary_eq {left right : String} (same : SameWording left right) :
    vocabulary left = vocabulary right :=
  List.toFinset_eq_of_perm _ _ same

structure Chunk.Reworded (chunk chunk' : Chunk) : Prop where
  id : chunk.id = chunk'.id
  tenant : chunk.tenant = chunk'.tenant
  content : SameWording chunk.content chunk'.content
  embedding : chunk.embedding = BagOfWords.embedding chunk.content
  embedding' : chunk'.embedding = BagOfWords.embedding chunk'.content

private theorem Chunk.Reworded.embedding_eq {chunk chunk' : Chunk}
    (reworded : chunk.Reworded chunk') :
    chunk.embedding = chunk'.embedding := by
  rw [reworded.embedding, reworded.embedding', BagOfWords.embedding_of_perm reworded.content]

structure SearchResult.SameStanding (result result' : SearchResult) : Prop where
  chunk : result.chunk = result'.chunk
  score : result.score = result'.score

namespace MemoryStore

private theorem sameStanding_ranked {store store' : MemoryStore}
    (reworded : List.Forall₂ Chunk.Reworded store.chunks store'.chunks) (options : SearchOptions)
    {score score' : Chunk → Float32}
    (same : ∀ chunk chunk', chunk.Reworded chunk' → score chunk = score' chunk') :
    List.Forall₂ SearchResult.SameStanding (store.ranked options score)
      (store'.ranked options score') := by
  have own : List.Forall₂ Chunk.Reworded (store.chunks.filter (·.tenant = options.tenant))
      (store'.chunks.filter (·.tenant = options.tenant)) := by
    refine List.rel_filter (fun chunk chunk' isReworded => ?_) reworded
    simp only [isReworded.tenant]
  exact forall₂_ranked (fun _ _ standing => standing.score) own
    fun chunk chunk' isReworded => ⟨isReworded.id, same chunk chunk' isReworded⟩

section

variable {store store' : MemoryStore}
  (reworded : List.Forall₂ Chunk.Reworded store.chunks store'.chunks)
  {query query' : String} (sameQuery : SameWording query query') (options : SearchOptions)

include reworded sameQuery

private theorem sameStanding_similaritySearch :
    List.Forall₂ SearchResult.SameStanding
      (store.similaritySearch (BagOfWords.embedding query) options)
      (store'.similaritySearch (BagOfWords.embedding query') options) := by
  refine sameStanding_ranked reworded options fun chunk chunk' isReworded => ?_
  rw [isReworded.embedding_eq, BagOfWords.embedding_of_perm sameQuery]

private theorem sameStanding_hybridSearch :
    List.Forall₂ SearchResult.SameStanding
      (store.hybridSearch query (BagOfWords.embedding query) options)
      (store'.hybridSearch query' (BagOfWords.embedding query') options) := by
  refine sameStanding_ranked reworded options fun chunk chunk' isReworded => ?_
  rw [isReworded.embedding_eq, BagOfWords.embedding_of_perm sameQuery,
    Score.keyword_congr sameQuery.vocabulary_eq isReworded.content.vocabulary_eq]

end

end MemoryStore

/-- Scores see nothing of a text but its terms: embeddings see how often each occurs, and shares of
terms see only which ones do. More content never takes a hit away. Terms are what lies between
separators, in lower case, and so searches find the same chunks in the same order, however texts are
worded. -/
theorem scores_see_only_terms :
    (∀ text, Text.terms text =
      ((text.toList.splitOnP (!Text.isAlphanumeric ·)).filter (!·.isEmpty)).map
        fun run => String.ofList (Text.lowerCase run)) ∧
    (∀ text, Text.terms text.toLower = Text.terms text) ∧
    (∀ left right, SameWording left right →
      BagOfWords.embedding left = BagOfWords.embedding right) ∧
    (∀ query query' content content', vocabulary query = vocabulary query' →
      vocabulary content = vocabulary content' →
      Score.keyword query content = Score.keyword query' content') ∧
    (∀ query content,
      Score.keyword query content =
        (if vocabulary query = ∅ then 0.0
          else narrowInt (Score.hits query content) / narrowInt (vocabulary query).card) ∧
      Score.hits query content ≤ (vocabulary query).card ∧
      ∀ separator rest, Text.isAlphanumeric separator = false →
        let longer := content ++ String.singleton separator ++ rest
        Score.hits query content ≤ Score.hits query longer ∧
        (query.length < 2 ^ 64 → Score.keyword query content ≤ Score.keyword query longer)) ∧
    (∀ (store store' : MemoryStore) (query query' : String) (options : SearchOptions),
      List.Forall₂ Chunk.Reworded store.chunks store'.chunks → SameWording query query' →
      List.Forall₂ SearchResult.SameStanding
        (store.similaritySearch (BagOfWords.embedding query) options)
        (store'.similaritySearch (BagOfWords.embedding query') options) ∧
      List.Forall₂ SearchResult.SameStanding
        (store.hybridSearch query (BagOfWords.embedding query) options)
        (store'.hybridSearch query' (BagOfWords.embedding query') options)) := by
  refine ⟨Text.terms_eq_splitOnP, Text.terms_toLower, fun _ _ => BagOfWords.embedding_of_perm,
    fun _ _ _ _ => Score.keyword_congr, fun query content => ?_, ?_⟩
  · refine ⟨Score.keyword_eq query content, Score.hits_le query content, ?_⟩
    intro separator rest outside longer
    have more : vocabulary content ⊆ vocabulary longer := by
      rw [Text.vocabulary_append_separator outside]
      exact Finset.subset_union_left
    exact ⟨Score.hits_mono more, fun short => Score.keyword_mono short more⟩
  · intro store store' query query' options reworded sameQuery
    exact ⟨MemoryStore.sameStanding_similaritySearch reworded sameQuery options,
      MemoryStore.sameStanding_hybridSearch reworded sameQuery options⟩

/-- Two chunks in two wordings each, and a query that repeats its terms. -/
theorem scores_see_only_terms_of_two :
    let query := "Rust & the borrow checker"
    let query' := "THE checker: borrow... rust"
    let doubled := "borrow checker? The borrow checker! (Rust)"
    let chunk (id : Nat) (content : String) : Chunk :=
      ⟨.ofNat id, .ofNat 9, .ofNat 1, 0, content, BagOfWords.embedding content, 1, ∅⟩
    let store : MemoryStore := ⟨[chunk 1 "Cats, cats and dogs", chunk 2 "rust: the checker"]⟩
    let store' : MemoryStore := ⟨[chunk 1 "dogs AND cats/cats", chunk 2 "The Checker (Rust)"]⟩
    let options : SearchOptions := ⟨.ofNat 1, 2, 0.0⟩
    SameWording query query' ∧ BagOfWords.embedding query = BagOfWords.embedding query' ∧
    vocabulary query = vocabulary doubled ∧
    vocabulary "rust: the checker" = vocabulary "The Checker (Rust)" ∧
    Score.keyword query "rust: the checker" = Score.keyword doubled "The Checker (Rust)" ∧
    Text.isAlphanumeric '/' = false ∧ query.length < 2 ^ 64 ∧
    Score.keyword query "rust" ≤ Score.keyword query ("rust" ++ String.singleton '/' ++ "borrow") ∧
    List.Forall₂ Chunk.Reworded store.chunks store'.chunks ∧
    (store.hybridSearch query (BagOfWords.embedding query) options).map SearchResult.chunk =
      [.ofNat 2, .ofNat 1] ∧
    List.Forall₂ SearchResult.SameStanding
      (store.hybridSearch query (BagOfWords.embedding query) options)
      (store'.hybridSearch query' (BagOfWords.embedding query') options) := by
  intro query query' doubled chunk store store' options
  have sameQuery : SameWording query query' := by decide +kernel
  have sameVocabulary : vocabulary query = vocabulary doubled := by decide +kernel
  have sameContent : vocabulary "rust: the checker" = vocabulary "The Checker (Rust)" := by
    decide +kernel
  have outside : Text.isAlphanumeric '/' = false := by decide +kernel
  have short : query.length < 2 ^ 64 := by decide +kernel
  have rewordedOf (id : Nat) {content content' : String} (same : SameWording content content') :
      (chunk id content).Reworded (chunk id content') :=
    ⟨rfl, rfl, same, rfl, rfl⟩
  have reworded : List.Forall₂ Chunk.Reworded store.chunks store'.chunks :=
    .cons (rewordedOf 1 (by decide +kernel)) (.cons (rewordedOf 2 (by decide +kernel)) .nil)
  rcases scores_see_only_terms with ⟨_, _, embeddings, keywords, shares, searches⟩
  exact ⟨sameQuery, embeddings _ _ sameQuery, sameVocabulary, sameContent,
    keywords _ _ _ _ sameVocabulary sameContent, outside, short,
    ((shares query "rust").2.2 '/' "borrow" outside).2 short, reworded, by decide +kernel,
    (searches store store' query query' options reworded sameQuery).2⟩

end GroundedAnswers
