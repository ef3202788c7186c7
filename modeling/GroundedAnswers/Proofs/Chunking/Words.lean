import GroundedAnswers.Chunking.Pieces
import GroundedAnswers.Proofs.Text.Words

namespace GroundedAnswers

open Text

/-! Where texts are cut. Sentences and separators are cut beside blanks, so packing and cutting keep
all words whole; windows may cut anywhere, but they leave nothing out. -/

/-! ## Cuts beside blanks -/

/-- No cut between neighbouring pieces splits a word. -/
def CutsNoWords : List (List Char) → Prop
  | [] => True
  | piece :: rest => CutsNoWord piece rest.flatten ∧ CutsNoWords rest

theorem CutsNoWords.prependToFirst {pieces : List (List Char)} (cuts : CutsNoWords pieces)
    (character : Char) : CutsNoWords (prependToFirst character pieces) := by
  cases pieces with
  | nil => exact ⟨.of_right _ (by simp), trivial⟩
  | cons first others => exact ⟨cuts.1.prepend [character], cuts.2⟩

private theorem cutsNoWords_splitBehind {ends : Char → List Char → Bool}
    (before : ∀ character rest, ends character rest → rest.head?.any isBlank) (text : List Char) :
    CutsNoWords (splitBehind ends text) := by
  induction text with
  | nil => trivial
  | cons character rest induction =>
      simp only [splitBehind]
      split
      · rename_i ended
        refine ⟨.of_right _ fun first member => ?_, induction⟩
        rw [flatten_splitBehind, Option.mem_def] at member
        simpa [member] using before character rest ended
      · exact induction.prependToFirst character

private theorem cutsNoWords_sentences (text : List Char) :
    CutsNoWords (Chunking.sentences text) := by
  refine cutsNoWords_splitBehind (fun character rest ended => ?_) text
  exact (of_decide_eq_true ended).2

def EndsBlank (text : List Char) : Prop :=
  ∃ last ∈ text.getLast?, isBlank last

private theorem endsBlank_of_mem_separators {separator : List Char}
    (member : separator ∈ Chunking.separators) : EndsBlank separator := by
  simp only [Chunking.separators, List.mem_cons, List.not_mem_nil, or_false] at member
  rcases member with rfl | rfl | rfl | rfl
  · exact ⟨'\n', rfl, rfl⟩
  · exact ⟨'\n', rfl, rfl⟩
  · exact ⟨' ', rfl, rfl⟩
  · exact ⟨' ', rfl, rfl⟩

private theorem cutsNoWords_splitKeeping {separator : List Char} (ends : EndsBlank separator)
    (text : List Char) : CutsNoWords (splitKeeping separator text) := by
  fun_induction splitKeeping separator text with
  | case1 => trivial
  | case2 character rest found induction =>
      rcases ends with ⟨last, member, blank⟩
      exact ⟨.inl ⟨last, member, by simp [blank]⟩, induction⟩
  | case3 character rest _ induction => exact induction.prependToFirst character

/-! ## Packing and cutting -/

namespace Chunking

/-- Packing keeps the words. What is packed already must not end inside a word either. -/
theorem flatMap_wordsOf_pack (size : Nat) {current : List Char} {segments : List (List Char)}
    (parted : current = [] ∨ CutsNoWord current segments.flatten) (cuts : CutsNoWords segments) :
    (pack size current segments).flatMap wordsOf = wordsOf (current ++ segments.flatten) := by
  induction segments generalizing current with
  | nil =>
      by_cases empty : current = []
      · simp [pack, empty, wordsOf, runs]
      · simp [pack, empty]
  | cons segment rest induction =>
      rcases cuts with ⟨here, behind⟩
      simp only [pack]
      split
      · rename_i full
        have cut : CutsNoWord current (segment :: rest).flatten := parted.resolve_left full.1
        rw [List.flatMap_cons, induction (.inr here) behind, wordsOf_append cut,
          List.flatten_cons]
      · rw [induction (.inr (here.prepend current)) behind, List.flatten_cons,
          List.append_assoc]

private theorem flatMap_wordsOf_cut (size : Nat) {separators : List (List Char)}
    (ends : ∀ separator ∈ separators, EndsBlank separator) (text : List Char) :
    (cut size separators text).flatMap wordsOf = wordsOf text := by
  induction separators generalizing text with
  | nil => simp [cut]
  | cons separator narrower induction =>
      have narrow := induction fun other member => ends other (List.mem_cons_of_mem _ member)
      simp only [cut]
      split
      · simp
      · split
        · exact narrow text
        · have segments : CutsNoWords (splitKeeping separator text) :=
            cutsNoWords_splitKeeping (ends separator (List.mem_cons_self ..)) text
          calc
            ((pack size [] (splitKeeping separator text)).flatMap (cut size narrower)).flatMap
                wordsOf
              = (pack size [] (splitKeeping separator text)).flatMap wordsOf := by
                rw [List.flatMap_assoc]
                simp only [narrow]
            _ = wordsOf ([] ++ (splitKeeping separator text).flatten) :=
                flatMap_wordsOf_pack size (.inl rfl) segments
            _ = wordsOf text := by rw [List.nil_append, flatten_splitKeeping]

private theorem flatMap_wordsOf_map_trimmed (pieces : List (List Char)) :
    (pieces.map trimmed).flatMap wordsOf = pieces.flatMap wordsOf := by
  simp [List.flatMap_map]

theorem flatMap_wordsOf_pieces (options : ChunkOptions) (text : List Char)
    (whole : options.strategy ≠ .fixed) :
    (pieces options text).flatMap wordsOf = wordsOf text := by
  cases strategy : options.strategy with
  | fixed => exact absurd strategy whole
  | sentence =>
      simp only [pieces, strategy, flatMap_wordsOf_map_trimmed]
      rw [flatMap_wordsOf_pack _ (.inl rfl) (cutsNoWords_sentences text), List.nil_append,
        sentences, flatten_splitBehind]
  | recursive =>
      simp only [pieces, strategy, flatMap_wordsOf_map_trimmed]
      exact flatMap_wordsOf_cut _ (fun _ member => endsBlank_of_mem_separators member) text

end Chunking

/-! ## Windows -/

theorem isInfix_of_mem_windows {size stride : Nat} {advances : 0 < stride} {items window : List α}
    (member : window ∈ windows size stride advances items) : window <:+: items := by
  fun_induction windows size stride advances items with
  | case1 => simp at member
  | case2 items => simp_all
  | case3 items _ _ induction =>
      rcases List.mem_cons.mp member with rfl | later
      · exact (List.take_prefix _ _).isInfix
      · exact (induction later).trans (List.drop_suffix _ _).isInfix

theorem exists_mem_windows {size stride : Nat} {advances : 0 < stride} (close : stride ≤ size)
    {items : List α} {item : α} (member : item ∈ items) :
    ∃ window ∈ windows size stride advances items, item ∈ window := by
  fun_induction windows size stride advances items with
  | case1 items empty => simp_all
  | case2 items => exact ⟨items, List.mem_singleton_self _, member⟩
  | case3 items _ _ induction =>
      rw [← List.take_append_drop stride items, List.mem_append] at member
      rcases member with early | late
      · exact ⟨_, List.mem_cons_self .., List.take_subset_take_left items close early⟩
      · rcases induction late with ⟨window, inside, found⟩
        exact ⟨window, List.mem_cons_of_mem _ inside, found⟩

theorem Chunking.stride_le (size overlap : Nat) : stride size overlap ≤ size := by
  unfold stride
  split <;> omega

end GroundedAnswers
