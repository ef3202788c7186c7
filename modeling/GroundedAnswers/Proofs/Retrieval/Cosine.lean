import GroundedAnswers.Proofs.Distinct
import GroundedAnswers.Proofs.Number.Shares
import GroundedAnswers.Proofs.Retrieval.Ranking
import GroundedAnswers.Proofs.Text.Vocabulary

namespace GroundedAnswers

open Number

/-! Scores that compare. For vectors of finite components a score fails to be a number only where
the vectors are so long that the product of their lengths and their dot product both leave the range
of the numbers. -/

def AllFinite (vector : Vector32) : Prop :=
  ∀ value ∈ vector, IsFinite value

instance (vector : Vector32) : Decidable (AllFinite vector) :=
  inferInstanceAs (Decidable (∀ value ∈ vector, IsFinite value))

/-! ## Sums -/

namespace BagOfWords

section

variable {values : List Float32} {start : Float32}

/-- A sum of finite numbers may become infinite, but two infinities never meet in it. -/
theorem isNumber_foldl (startIs : IsNumber start) (finite : ∀ value ∈ values, IsFinite value) :
    IsNumber (values.foldl (· + ·) start) := by
  induction values generalizing start with
  | nil => exact startIs
  | cons value values induction =>
      rw [List.forall_mem_cons] at finite
      exact induction ((isNumber_add_finite_iff finite.1).mpr startIs) finite.2

variable (startIs : NotNegative start.toModel.unpack)
  (notNegative : ∀ value ∈ values, NotNegative value.toModel.unpack)

include startIs notNegative

private theorem notNegative_foldl : NotNegative (values.foldl (· + ·) start).toModel.unpack := by
  induction values generalizing start with
  | nil => exact startIs
  | cons value values induction =>
      rw [List.forall_mem_cons] at notNegative
      exact induction (notNegative_add startIs notNegative.1) notNegative.2

private theorem isInf_foldl (infinite : start.isInf ∨ ∃ value ∈ values, value.isInf) :
    (values.foldl (· + ·) start).isInf := by
  induction values generalizing start with
  | nil => simpa using infinite
  | cons value values induction =>
      rw [List.forall_mem_cons] at notNegative
      rw [List.exists_mem_cons_iff, ← or_assoc] at infinite
      refine induction (notNegative_add startIs notNegative.1) notNegative.2 ?_
      exact infinite.imp_left (isInf_add startIs notNegative.1)

end

/-! ## Lengths -/

def squaredNorm (vector : Vector32) : Float32 :=
  sum (vector.map fun value => value * value)

private theorem norm_eq_sqrt (vector : Vector32) : norm vector = (squaredNorm vector).sqrt := rfl

/-- The dot product of two vectors, without what has no counterpart. -/
def dot (left right : Vector32) : Float32 :=
  sum (List.zipWith (· * ·) left right)

section

variable {vector left right : Vector32}

private theorem notNegative_squares (finite : AllFinite vector) :
    ∀ square ∈ vector.map fun value => value * value, NotNegative square.toModel.unpack := by
  intro square member
  rcases List.mem_map.mp member with ⟨value, isComponent, rfl⟩
  exact notNegative_mul_self (finite value isComponent).isNumber

private theorem notNegative_squaredNorm (finite : AllFinite vector) :
    NotNegative (squaredNorm vector).toModel.unpack :=
  notNegative_foldl (.zero .negative) (notNegative_squares finite)

private theorem isFinite_square (finite : AllFinite vector)
    (bounded : IsFinite (squaredNorm vector)) {value : Float32} (member : value ∈ vector) :
    IsFinite (value * value) := by
  have isNumber := (finite value member).isNumber_mul (finite value member)
  refine isFinite_iff.mpr ⟨isNumber, fun infinite => (isFinite_iff.mp bounded).2 ?_⟩
  have among : ∃ square ∈ vector.map fun value => value * value, square.isInf :=
    ⟨_, List.mem_map_of_mem member, infinite⟩
  exact isInf_foldl (.zero .negative) (notNegative_squares finite) (.inr among)

private theorem isNumber_dot (leftFinite : AllFinite left) (rightFinite : AllFinite right)
    (leftBounded : IsFinite (squaredNorm left)) (rightBounded : IsFinite (squaredNorm right)) :
    IsNumber (dot left right) := by
  refine isNumber_foldl (by decide) fun product member => ?_
  rw [← List.map_uncurry_zip_eq_zipWith] at member
  rcases List.mem_map.mp member with ⟨⟨value, value'⟩, pair, rfl⟩
  have isLeft := (List.of_mem_zip pair).1
  have isRight := (List.of_mem_zip pair).2
  exact (leftFinite value isLeft).mul (rightFinite value' isRight)
    (isFinite_square leftFinite leftBounded isLeft)
    (isFinite_square rightFinite rightBounded isRight)

end

end BagOfWords

/-! ## Scores -/

namespace Score

/-- A share of the terms is finite. The bound holds of every text that fits into a memory. -/
theorem isFinite_keyword {query : String} (short : query.length < 2 ^ 64) (content : String) :
    IsFinite (keyword query content) := by
  unfold keyword
  dsimp only
  split
  · decide
  · rename_i some
    rw [List.isEmpty_iff] at some
    have distinct := length_eraseDups_le (Text.terms query)
    have bounded := Nat.le_trans distinct (Text.length_terms_le query)
    exact isFinite_share (List.length_pos_iff.mpr some) (Nat.lt_of_le_of_lt bounded short)
      (List.length_filter_le _ _)

/-- Vectors that are too long to be compared: the product of their lengths lies beyond the largest
number, and their dot product does so too or is not even a number. -/
def TooLong (left right : Vector32) : Prop :=
  (BagOfWords.norm left * BagOfWords.norm right).isInf ∧ ¬IsFinite (BagOfWords.dot left right)

instance (left right : Vector32) : Decidable (TooLong left right) :=
  inferInstanceAs (Decidable (_ ∧ _))

private theorem isNumber_cosine_iff {left right : Vector32} (leftFinite : AllFinite left)
    (rightFinite : AllFinite right) : IsNumber (cosine left right) ↔ ¬TooLong left right := by
  have leftIs := BagOfWords.notNegative_squaredNorm leftFinite
  have rightIs := BagOfWords.notNegative_squaredNorm rightFinite
  unfold cosine TooLong
  dsimp only
  rw [BagOfWords.norm_eq_sqrt, BagOfWords.norm_eq_sqrt]
  split
  · rename_i zero
    rw [Bool.or_eq_true] at zero
    have small := not_isInf_mul_of_zero zero
    exact ⟨fun _ tooLong => small tooLong.1, fun _ => by decide⟩
  · rename_i some
    rw [Bool.or_eq_true, not_or] at some
    rcases mul_sqrt_cases leftIs rightIs some.1 some.2 with
      infinite | ⟨proper, leftBounded, rightBounded⟩
    · rw [isNumber_div_of_isInf infinite]
      exact ⟨fun finite tooLong => tooLong.2 finite,
        fun short => not_not.mp fun large => short ⟨infinite, large⟩⟩
    · have isNumber := BagOfWords.isNumber_dot leftFinite rightFinite leftBounded rightBounded
      have small := not_isInf_of_isProper proper
      exact ⟨fun _ tooLong => small tooLong.1, fun _ => isNumber_div_of_isProper isNumber proper⟩

private theorem isNumber_hybrid_iff {vector share : Float32} (finite : IsFinite share) :
    IsNumber (hybrid vector share) ↔ IsNumber vector := by
  have weight : keywordWeight.toModel.unpack = .finite .positive 10066330 (-25) (by decide) := rfl
  have weighted := isFinite_mul_small finite (by decide) weight (Int.le_refl _)
  rw [hybrid, isNumber_add_finite_iff weighted]
  exact isNumber_proper_mul_iff rfl

end Score

/-! ## Searches -/

/-- Scores that can be put into order: any two of them compare, and the order passes on. -/
structure Comparable (scores : List Float32) : Prop where
  total : ∀ first ∈ scores, ∀ second ∈ scores, first ≤ second ∨ second ≤ first
  transitive : ∀ first ∈ scores, ∀ second ∈ scores, ∀ third ∈ scores,
    first ≤ second → second ≤ third → first ≤ third

private theorem Comparable.of_numbers {scores : List Float32}
    (areNumbers : ∀ score ∈ scores, IsNumber score) : Comparable scores where
  total := by
    intro first isFirst second isSecond
    have firstIs := areNumbers first isFirst
    have secondIs := areNumbers second isSecond
    rw [firstIs.le_iff_place_le secondIs, secondIs.le_iff_place_le firstIs]
    exact le_total _ _
  transitive := by
    intro first isFirst second isSecond third isThird
    exact (areNumbers first isFirst).le_trans (areNumbers second isSecond)
      (areNumbers third isThird)

private theorem not_lt_of_le {first second : Float32} (le : second ≤ first) : ¬first < second := by
  rcases isNumber_of_le le with ⟨secondIs, firstIs⟩
  rw [firstIs.lt_iff_place_lt secondIs]
  exact not_lt.mpr ((secondIs.le_iff_place_le firstIs).mp le)

def Falling (results : List SearchResult) : Prop :=
  results.Pairwise fun earlier later => ¬earlier.score < later.score

instance (results : List SearchResult) : Decidable (Falling results) :=
  inferInstanceAs (Decidable (results.Pairwise fun earlier later => ¬earlier.score < later.score))

namespace MemoryStore

section

variable {store : MemoryStore} {options : SearchOptions} {score : Chunk → Float32}

def scoresOf (store : MemoryStore) (options : SearchOptions) (score : Chunk → Float32) :
    List Float32 :=
  (store.chunks.filter (·.tenant = options.tenant)).map score

variable (areNumbers : ∀ chunk ∈ store.chunks, chunk.tenant = options.tenant →
  IsNumber (score chunk))

include areNumbers

private theorem comparable_scoresOf : Comparable (store.scoresOf options score) := by
  refine Comparable.of_numbers fun value member => ?_
  rcases List.mem_map.mp member with ⟨chunk, own, rfl⟩
  rcases List.mem_filter.mp own with ⟨isStored, isOwn⟩
  exact areNumbers chunk isStored (of_decide_eq_true isOwn)

private theorem falling_ranked : Falling (store.ranked options score) := by
  rw [ranked_eq_take_found]
  have falling := (found_falling areNumbers).sublist (List.take_sublist options.topK _)
  exact falling.imp not_lt_of_le

end

/-- Vectors of finite components have a score that is a number exactly when they are not too long to
be compared, whatever the content and whatever query fits into a memory. Where no chunk of the
tenant is too long, all scores can be put into order and both searches give falling results. -/
theorem scores_compare_unless_too_long {query : String} (short : query.length < 2 ^ 64)
    {embedding : Vector32} (finite : AllFinite embedding) :
    let similarity (chunk : Chunk) := Score.cosine chunk.embedding embedding
    let blend (chunk : Chunk) := Score.hybrid (similarity chunk) (Score.keyword query chunk.content)
    (∀ chunk : Chunk, AllFinite chunk.embedding →
      (IsNumber (similarity chunk) ↔ ¬Score.TooLong chunk.embedding embedding) ∧
      (IsNumber (blend chunk) ↔ ¬Score.TooLong chunk.embedding embedding)) ∧
    ∀ (store : MemoryStore) (options : SearchOptions),
      (∀ chunk ∈ store.chunks, chunk.tenant = options.tenant →
        AllFinite chunk.embedding ∧ ¬Score.TooLong chunk.embedding embedding) →
      Comparable (store.scoresOf options similarity) ∧ Comparable (store.scoresOf options blend) ∧
      Falling (store.similaritySearch embedding options) ∧
      Falling (store.hybridSearch query embedding options) := by
  intro similarity blend
  have similarityNumbers (chunk : Chunk) (chunkFinite : AllFinite chunk.embedding) :
      IsNumber (similarity chunk) ↔ ¬Score.TooLong chunk.embedding embedding :=
    Score.isNumber_cosine_iff chunkFinite finite
  have blendNumbers (chunk : Chunk) : IsNumber (blend chunk) ↔ IsNumber (similarity chunk) :=
    Score.isNumber_hybrid_iff (Score.isFinite_keyword short chunk.content)
  refine ⟨fun chunk chunkFinite => ?_, fun store options bounded => ?_⟩
  · rw [blendNumbers chunk]
    exact ⟨similarityNumbers chunk chunkFinite, similarityNumbers chunk chunkFinite⟩
  · have bySimilarity : ∀ chunk ∈ store.chunks, chunk.tenant = options.tenant →
        IsNumber (similarity chunk) := by
      intro chunk isStored own
      rcases bounded chunk isStored own with ⟨chunkFinite, notTooLong⟩
      exact (similarityNumbers chunk chunkFinite).mpr notTooLong
    have byBlend : ∀ chunk ∈ store.chunks, chunk.tenant = options.tenant →
        IsNumber (blend chunk) :=
      fun chunk isStored own => (blendNumbers chunk).mpr (bySimilarity chunk isStored own)
    exact ⟨comparable_scoresOf bySimilarity, comparable_scoresOf byBlend,
      falling_ranked bySimilarity, falling_ranked byBlend⟩

/-- Very long and very short vectors in one search: their scores are numbers all the same. -/
theorem scores_compare_unless_too_long_of_three :
    let chunk (id : Nat) (content : String) (embedding : Vector32) : Chunk :=
      ⟨.ofNat id, .ofNat 9, .ofNat 1, 0, content, embedding, 1, ∅⟩
    let chunks := [chunk 1 "tokio" [3e18, 4e18], chunk 2 "rust" [1e-30, 1e-30],
      chunk 3 "serde" [2e-20, 0.0]]
    let store : MemoryStore := ⟨chunks⟩
    let options : SearchOptions := ⟨.ofNat 1, 3, 0.0⟩
    let embedding : Vector32 := [1e19, 0.0]
    let similarity (chunk : Chunk) := Score.cosine chunk.embedding embedding
    let blend (chunk : Chunk) :=
      Score.hybrid (similarity chunk) (Score.keyword "Rust?" chunk.content)
    "Rust?".length < 2 ^ 64 ∧ AllFinite embedding ∧
    (∀ chunk ∈ store.chunks, chunk.tenant = options.tenant →
      AllFinite chunk.embedding ∧ ¬Score.TooLong chunk.embedding embedding) ∧
    (∀ chunk ∈ store.chunks, IsNumber (similarity chunk) ∧ IsNumber (blend chunk)) ∧
    (store.similaritySearch embedding options).map SearchResult.chunk =
      [.ofNat 3, .ofNat 1, .ofNat 2] ∧
    Comparable (store.scoresOf options similarity) ∧ Comparable (store.scoresOf options blend) ∧
    Falling (store.similaritySearch embedding options) ∧
    Falling (store.hybridSearch "Rust?" embedding options) := by
  intro chunk chunks store options embedding similarity blend
  have short : "Rust?".length < 2 ^ 64 := by decide +kernel
  have finite : AllFinite embedding := by decide +kernel
  have bounded : ∀ chunk ∈ store.chunks, chunk.tenant = options.tenant →
      AllFinite chunk.embedding ∧ ¬Score.TooLong chunk.embedding embedding := by
    decide +kernel
  have all := scores_compare_unless_too_long short finite
  have numbers : ∀ chunk ∈ store.chunks, IsNumber (similarity chunk) ∧ IsNumber (blend chunk) := by
    intro chunk isStored
    have own : chunk.tenant = options.tenant := by
      revert chunk
      decide +kernel
    rcases bounded chunk isStored own with ⟨chunkFinite, notTooLong⟩
    exact ⟨(all.1 chunk chunkFinite).1.mpr notTooLong, (all.1 chunk chunkFinite).2.mpr notTooLong⟩
  exact ⟨short, finite, bounded, numbers, by decide +kernel, all.2 store options bounded⟩

/-- Longer vectors have a score that is no number, and in a search it keeps the best result behind a
worse one. -/
theorem score_of_long_vectors_undefined :
    let chunk (id : Nat) (embedding : Vector32) : Chunk :=
      ⟨.ofNat id, .ofNat 9, .ofNat 1, 0, "rust", embedding, 1, ∅⟩
    let store : MemoryStore := ⟨[chunk 1 [1e10, 1e10], chunk 2 [1e30, 0.0], chunk 3 [1e18, 0.0]]⟩
    AllFinite [1e30] ∧ ¬IsNumber (Score.cosine [1e30] [1e30]) ∧
    ¬IsNumber (Score.hybrid (Score.cosine [1e30] [1e30]) (Score.keyword "rust" "rust")) ∧
    (∀ chunk ∈ store.chunks, AllFinite chunk.embedding) ∧ AllFinite [1e18, 0.0] ∧
    ¬Falling (store.similaritySearch [1e18, 0.0] ⟨.ofNat 1, 3, 0.0⟩) := by
  decide +kernel

end MemoryStore

end GroundedAnswers
