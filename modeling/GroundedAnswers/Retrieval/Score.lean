import GroundedAnswers.Embedding.BagOfWords
import GroundedAnswers.Number.Binary
import GroundedAnswers.Retrieval.Document

namespace GroundedAnswers

open Number

/-! How well a chunk fits a query, and the order of results by score. -/

namespace Score

/-- The cosine of the angle between two vectors, and zero when one of them has no length. Where one
vector is longer, its further components count for its length only. -/
def cosine (left right : Vector32) : Float32 :=
  let dot := BagOfWords.sum (List.zipWith (· * ·) left right)
  let leftNorm := BagOfWords.norm left
  let rightNorm := BagOfWords.norm right
  if leftNorm == 0.0 || rightNorm == 0.0 then 0.0 else dot / (leftNorm * rightNorm)

/-- The share of a query's distinct terms that occur in a content. -/
def keyword (query content : String) : Float32 :=
  let queryTerms := (Text.terms query).eraseDups
  if queryTerms.isEmpty then 0.0
  else
    let contentTerms := Text.terms content
    let hits := (queryTerms.filter fun term => contentTerms.contains term).length
    narrowInt hits / narrowInt queryTerms.length

def vectorWeight : Float32 := 0.7

def keywordWeight : Float32 := 0.3

def hybrid (vector keyword : Float32) : Float32 :=
  vectorWeight * vector + keywordWeight * keyword

/-- Whether a score passes a least score. A least score that is not positive lets all pass. -/
def passes (least score : Float32) : Bool :=
  least ≤ 0.0 || least ≤ score

end Score

namespace SearchResult

/-- Insert a result into a list whose scores rise. Behind results with equal scores it stays
behind. -/
def insertAscending (result : SearchResult) : List SearchResult → List SearchResult
  | [] => [result]
  | first :: others =>
      if first.score < result.score then first :: insertAscending result others
      else result :: first :: others

def ranked (results : List SearchResult) : List SearchResult :=
  (results.foldl (fun sorted result => insertAscending result sorted) []).reverse

theorem insertAscending_perm (result : SearchResult) (results : List SearchResult) :
    (insertAscending result results).Perm (result :: results) := by
  induction results with
  | nil => exact .refl _
  | cons first others induction =>
      simp only [insertAscending]
      split
      · exact (induction.cons first).trans (.swap result first others)
      · exact .refl _

theorem ranked_perm (results : List SearchResult) : (ranked results).Perm results := by
  have folded : ∀ sorted : List SearchResult,
      (results.foldl (fun sorted result => insertAscending result sorted) sorted).Perm
        (results ++ sorted) := by
    induction results with
    | nil => exact fun _ => .refl _
    | cons result results induction =>
        intro sorted
        refine (induction _).trans ?_
        exact ((insertAscending_perm result sorted).append_left results).trans
          List.perm_middle
  simpa [ranked] using (List.reverse_perm _).trans (folded [])

end SearchResult

end GroundedAnswers
