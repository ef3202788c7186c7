import GroundedAnswers.Answering.Pipeline
import Mathlib.Data.List.Dedup
import Mathlib.Data.List.Nodup

namespace GroundedAnswers

/-! Several results of one chunk. Merging keeps the first of them, as it is and where it is. -/

namespace SearchResult

def firstOfEach : List SearchResult → List SearchResult
  | [] => []
  | result :: others => result :: (firstOfEach others).filter (·.chunk ≠ result.chunk)

theorem nodup_firstOfEach (found : List SearchResult) :
    ((firstOfEach found).map SearchResult.chunk).Nodup := by
  induction found with
  | nil => exact List.nodup_nil
  | cons result others induction =>
      rw [firstOfEach, List.map_cons, List.nodup_cons]
      constructor
      · intro member
        rcases List.mem_map.mp member with ⟨other, kept, same⟩
        simp [same] at kept
      · exact induction.sublist (List.filter_sublist.map SearchResult.chunk)

theorem exists_of_mem_firstOfEach {found : List SearchResult} {kept : SearchResult}
    (member : kept ∈ firstOfEach found) :
    ∃ earlier later, found = earlier ++ kept :: later ∧
      ∀ other ∈ earlier, other.chunk ≠ kept.chunk := by
  induction found with
  | nil => exact absurd member List.not_mem_nil
  | cons result others induction =>
      rcases List.mem_cons.mp member with isFirst | isOther
      · exact ⟨[], others, by rw [isFirst]; rfl, fun _ member => absurd member List.not_mem_nil⟩
      · rcases List.mem_filter.mp isOther with ⟨kept, different⟩
        rcases induction kept with ⟨earlier, later, whole, isFirst⟩
        refine ⟨result :: earlier, later, congrArg _ whole, List.forall_mem_cons.mpr ⟨?_, isFirst⟩⟩
        exact fun same => of_decide_eq_true different same.symm

theorem mem_of_mem_firstOfEach {found : List SearchResult} {kept : SearchResult}
    (member : kept ∈ firstOfEach found) : kept ∈ found := by
  rcases exists_of_mem_firstOfEach member with ⟨earlier, later, rfl, _⟩
  exact List.mem_append_right earlier List.mem_cons_self

theorem exists_mem_firstOfEach {found : List SearchResult} {result : SearchResult}
    (member : result ∈ found) : ∃ kept ∈ firstOfEach found, kept.chunk = result.chunk := by
  induction found with
  | nil => exact absurd member List.not_mem_nil
  | cons first others induction =>
      by_cases same : first.chunk = result.chunk
      · exact ⟨first, List.mem_cons_self, same⟩
      · have isOther : result ∈ others := by
          rcases List.mem_cons.mp member with isFirst | isOther
          · exact absurd (isFirst ▸ rfl) same
          · exact isOther
        rcases induction isOther with ⟨kept, isKept, named⟩
        refine ⟨kept, List.mem_cons_of_mem _ (List.mem_filter.mpr ⟨isKept, ?_⟩), named⟩
        simpa [named] using Ne.symm same

theorem length_firstOfEach (found : List SearchResult) :
    (firstOfEach found).length = (found.map SearchResult.chunk).dedup.length := by
  have same : ((firstOfEach found).map SearchResult.chunk).Perm
      (found.map SearchResult.chunk).dedup := by
    apply (List.perm_ext_iff_of_nodup (nodup_firstOfEach found) (List.nodup_dedup _)).mpr
    intro chunk
    rw [List.mem_dedup, List.mem_map, List.mem_map]
    constructor
    · rintro ⟨kept, member, named⟩
      exact ⟨kept, mem_of_mem_firstOfEach member, named⟩
    · rintro ⟨result, member, rfl⟩
      exact exists_mem_firstOfEach member
  simpa using same.length_eq

/-- Results of distinct chunks that come first are all kept, and stay in front. -/
theorem prefix_firstOfEach {first : List SearchResult}
    (distinct : (first.map SearchResult.chunk).Nodup) (others : List SearchResult) :
    first <+: firstOfEach (first ++ others) := by
  induction first with
  | nil => exact List.nil_prefix
  | cons result rest induction =>
      rw [List.map_cons, List.nodup_cons] at distinct
      rw [List.cons_append, firstOfEach, List.prefix_cons_inj]
      rcases induction distinct.2 with ⟨later, whole⟩
      have unlike : rest.filter (·.chunk ≠ result.chunk) = rest := by
        apply List.filter_eq_self.mpr
        intro other member
        apply decide_eq_true
        intro same
        exact distinct.1 (same ▸ List.mem_map_of_mem member)
      rw [← whole, List.filter_append, unlike]
      exact List.prefix_append _ _

end SearchResult

namespace Pipeline

open SearchResult (firstOfEach)

private theorem foldl_keepNew (found kept : List SearchResult) :
    found.foldl mergeUnique.keepNew kept =
      kept ++ (firstOfEach found).filter fun result => !kept.any (·.chunk = result.chunk) := by
  induction found generalizing kept with
  | nil => simp [firstOfEach]
  | cons result others induction =>
      rw [List.foldl_cons, induction, firstOfEach, mergeUnique.keepNew]
      by_cases known : kept.any (·.chunk = result.chunk)
      · have covered : ∀ other : SearchResult,
            (!kept.any (·.chunk = other.chunk)) = true → other.chunk ≠ result.chunk := by
          intro other new same
          rw [same, known] at new
          cases new
        rw [if_pos known, List.filter_cons_of_neg (by simp [known]), List.filter_filter]
        congr 1
        apply List.filter_congr
        intro other _
        cases new : !kept.any (·.chunk = other.chunk) with
        | false => rfl
        | true => simp [covered other new]
      · rw [if_neg known, List.filter_cons_of_pos (by simpa using known), List.filter_filter,
          List.append_assoc, List.singleton_append]
        congr 2
        apply List.filter_congr
        intro other _
        simp [List.any_append, eq_comm]

theorem mergeUnique_eq (sets : List (List SearchResult)) (topK : Nat) :
    mergeUnique sets topK = (firstOfEach sets.flatten).take topK := by
  rw [mergeUnique, foldl_keepNew]
  simp

end Pipeline

end GroundedAnswers
