import GroundedAnswers.Proofs.Chunking.Chunks

namespace GroundedAnswers

open Text

/-! How long the chunks of the recursive strategy are. A piece that is still too long has been
through all separators, so each of them stands at its very end or nowhere in it, and trimming takes
off what stands at the end. -/

/-! ## Separators at the end -/

/-- The text holds the character as its last one or not at all. -/
def OnlyAtEnd (character : Char) (text : List Char) : Prop :=
  character ∉ text.dropLast

namespace OnlyAtEnd

variable {character : Char}

theorem cons {first : Char} {rest : List Char} (different : first ≠ character)
    (atEnd : OnlyAtEnd character rest) : OnlyAtEnd character (first :: rest) := by
  cases rest with
  | nil => exact List.not_mem_nil
  | cons second others =>
      intro member
      rcases List.mem_cons.mp member with same | later
      · exact different same.symm
      · exact atEnd later

private theorem of_isInfix {part whole : List Char} (atEnd : OnlyAtEnd character whole)
    (inside : part <:+: whole) : OnlyAtEnd character part := by
  rcases inside with ⟨before, after, rfl⟩
  intro member
  refine atEnd ?_
  rw [List.append_assoc]
  cases after with
  | nil =>
      have nonempty : part ≠ [] := by
        rintro rfl
        cases member
      rw [List.append_nil, List.dropLast_append_of_ne_nil nonempty]
      exact List.mem_append_right before member
  | cons first others =>
      rw [List.dropLast_append_of_ne_nil (by simp),
        List.dropLast_append_of_ne_nil (List.cons_ne_nil first others)]
      exact List.mem_append_right before
        (List.mem_append_left _ (List.dropLast_subset part member))

private theorem not_mem_trimmed {text : List Char} (atEnd : OnlyAtEnd character text)
    (blank : isBlank character) : character ∉ trimmed text := by
  intro member
  have inner : OnlyAtEnd character (trimmed text) := atEnd.of_isInfix (isInfix_trimmed text)
  rcases List.eq_nil_or_concat (trimmed text) with empty | ⟨front, last, whole⟩
  · rw [empty] at member
    cases member
  · rw [List.concat_eq_append] at whole
    rw [OnlyAtEnd, whole, List.dropLast_concat] at inner
    rw [whole, List.mem_append, List.mem_singleton] at member
    have isLast : character = last := member.resolve_left inner
    have ends : (trimmed text).reverse.head? = some last := by
      rw [whole, List.reverse_append]
      rfl
    rw [trimmed, trimEnd, List.reverse_reverse, trimStart] at ends
    have notBlank : isBlank last = false := by
      have dropped := List.head?_dropWhile_not isBlank (trimStart text).reverse
      rwa [ends] at dropped
    rw [← isLast, blank] at notBlank
    cases notBlank

end OnlyAtEnd

private theorem onlyAtEnd_of_mem_splitKeeping {character : Char} {text segment : List Char}
    (member : segment ∈ splitKeeping [character] text) : OnlyAtEnd character segment := by
  fun_induction splitKeeping [character] text generalizing segment with
  | case1 => cases member
  | case2 first rest found induction =>
      rcases List.mem_cons.mp member with rfl | later
      · exact List.not_mem_nil
      · exact induction later
  | case3 first rest absent induction =>
      have different : first ≠ character := by
        rintro rfl
        exact absent ⟨List.cons_ne_nil _ _, by simp⟩
      generalize splitKeeping [character] rest = segments at member induction
      cases segments with
      | nil =>
          rw [List.mem_singleton.mp member]
          exact List.not_mem_nil
      | cons head others =>
          rcases List.mem_cons.mp member with rfl | later
          · exact (induction List.mem_cons_self).cons different
          · exact induction (List.mem_cons_of_mem head later)

private theorem length_prependToFirst (character : Char) (pieces : List (List Char)) :
    (prependToFirst character pieces).length = max pieces.length 1 := by
  cases pieces with
  | nil => rfl
  | cons first others => simp [prependToFirst]

/-- A separator does not cut a text that lacks one of its characters. -/
theorem length_splitKeeping_le_one {character : Char} {separator text : List Char}
    (inside : character ∈ separator) (absent : character ∉ text) :
    (splitKeeping separator text).length ≤ 1 := by
  fun_induction splitKeeping separator text with
  | case1 => exact Nat.zero_le 1
  | case2 first rest found induction =>
      have occurs := List.isPrefixOf_iff_prefix.mp found.2
      exact absurd (occurs.subset inside) absent
  | case3 first rest _ induction =>
      have short := induction fun later => absent (List.mem_cons_of_mem first later)
      rw [length_prependToFirst]
      omega

/-! ## Packing and cutting -/

namespace Chunking

variable {size : Nat}

private theorem fits_or_mem_of_mem_pack {current piece : List Char}
    {segments all : List (List Char)} (begun : current.length ≤ size ∨ current ∈ all)
    (among : ∀ segment ∈ segments, segment ∈ all) (member : piece ∈ pack size current segments) :
    piece.length ≤ size ∨ piece ∈ all := by
  induction segments generalizing current with
  | nil =>
      rw [pack] at member
      split at member
      · cases member
      · rw [List.mem_singleton.mp member]
        exact begun
  | cons segment rest induction =>
      have alone : segment ∈ all := among segment List.mem_cons_self
      have others := fun other later => among other (List.mem_cons_of_mem segment later)
      rw [pack] at member
      split at member
      · rcases List.mem_cons.mp member with rfl | later
        · exact begun
        · exact induction (.inr alone) others later
      · rename_i joined
        refine induction ?_ others member
        by_cases empty : current = []
        · rw [empty, List.nil_append]
          exact .inr alone
        · have room : ¬size < current.length + segment.length := fun full => joined ⟨empty, full⟩
          rw [List.length_append]
          exact .inl (by omega)

private theorem isInfix_of_mem_cut {separators : List (List Char)} {text piece : List Char}
    (member : piece ∈ cut size separators text) : piece <:+: text := by
  rw [← flatten_cut size separators text]
  exact List.infix_of_mem_flatten member

/-- What is too long after all separators holds each of them at its end or not at all. -/
theorem fits_or_onlyAtEnd_of_mem_cut {separators : List (List Char)} {text piece : List Char}
    (member : piece ∈ cut size separators text) :
    piece.length ≤ size ∨
      ∀ character, [character] ∈ separators → OnlyAtEnd character piece := by
  induction separators generalizing text with
  | nil => exact .inr fun _ none => absurd none List.not_mem_nil
  | cons separator narrower induction =>
      -- The source of a piece went through this separator, the piece through the narrower ones.
      have through : ∀ {source : List Char}, piece ∈ cut size narrower source →
          (∀ character, [character] = separator → OnlyAtEnd character source) →
          piece.length ≤ size ∨
            ∀ character, [character] ∈ separator :: narrower → OnlyAtEnd character piece := by
        intro source inside atEnd
        refine (induction inside).imp_right fun narrow character named => ?_
        rcases List.mem_cons.mp named with this | later
        · exact (atEnd character this).of_isInfix (isInfix_of_mem_cut inside)
        · exact narrow character later
      rw [cut] at member
      split at member
      · rw [List.mem_singleton.mp member]
        exact .inl ‹_›
      · dsimp only at member
        split at member
        · rename_i single
          refine through member fun character named => ?_
          have whole := flatten_splitKeeping separator text
          rcases segments : splitKeeping separator text with _ | ⟨segment, _ | ⟨second, others⟩⟩
          · rw [segments] at whole
            rw [← whole]
            exact List.not_mem_nil
          · rw [segments, List.flatten_singleton] at whole
            rw [← whole]
            have member : segment ∈ splitKeeping [character] text := by
              rw [named, segments]
              exact List.mem_singleton_self segment
            exact onlyAtEnd_of_mem_splitKeeping member
          · rw [segments] at single
            simp at single
        · rcases List.mem_flatMap.mp member with ⟨packed, isPacked, inside⟩
          rcases fits_or_mem_of_mem_pack (.inl (Nat.zero_le size)) (fun _ among => among) isPacked
            with fits | segment
          · rw [cut_of_fits narrower fits, List.mem_singleton] at inside
            exact .inl (inside ▸ fits)
          · refine through inside fun character named => ?_
            rw [← named] at segment
            exact onlyAtEnd_of_mem_splitKeeping segment

end Chunking

/-! ## Chunks of the recursive strategy -/

/-- The pieces of the recursive strategy make up the text, and a text that fits is one piece. The
chunks are the trimmed pieces that are not blank, and none of them is longer than the limit unless
no separator could have cut it further. -/
theorem chunkText_recursive_bounded (size overlap : UInt64) (text : String) :
    let limit := if size = 0 then 1000 else size.toNat
    let pieces := Chunking.cut limit Chunking.separators text.toList
    let chunks := chunkText ⟨size, overlap, .recursive⟩ text
    pieces.flatten = text.toList ∧
    (text.length ≤ limit → pieces = [text.toList]) ∧
    (chunks.map fun chunk => chunk.content.toList) =
      (pieces.map trimmed).filter (fun piece => !piece.all isBlank) ∧
    ∀ chunk ∈ chunks, chunk.content.length ≤ limit ∨
      (' ' ∉ chunk.content.toList ∧ '\n' ∉ chunk.content.toList ∧
        ∀ separator ∈ Chunking.separators,
          (splitKeeping separator chunk.content.toList).length ≤ 1) := by
  intro limit pieces chunks
  have contents : (chunks.map fun chunk => chunk.content.toList) =
      (pieces.map trimmed).filter (fun piece => !piece.all isBlank) :=
    map_content_chunkText ⟨size, overlap, .recursive⟩ text
  refine ⟨Chunking.flatten_cut _ _ _, fun fits => ?_, contents, fun chunk member => ?_⟩
  · exact Chunking.cut_of_fits _ (by rwa [String.length_toList])
  · have kept : chunk.content.toList ∈ (pieces.map trimmed).filter fun piece => !piece.all isBlank :=
      contents ▸ List.mem_map_of_mem member
    rcases List.mem_map.mp (List.mem_filter.mp kept).1 with ⟨piece, inside, content⟩
    rw [← String.length_toList, ← content]
    rcases Chunking.fits_or_onlyAtEnd_of_mem_cut inside with fits | atEnd
    · exact .inl (Nat.le_trans (isInfix_trimmed piece).length_le fits)
    · have noSpace : ' ' ∉ trimmed piece := (atEnd ' ' (by decide)).not_mem_trimmed rfl
      have noLine : '\n' ∉ trimmed piece := (atEnd '\n' (by decide)).not_mem_trimmed rfl
      refine .inr ⟨noSpace, noLine, fun separator named => ?_⟩
      have holds : ' ' ∈ separator ∨ '\n' ∈ separator := by
        revert separator
        decide
      exact holds.elim (length_splitKeeping_le_one · noSpace)
        (length_splitKeeping_le_one · noLine)

/-- A word longer than the limit stays whole, and the blanks and line ends around it go. With the
standard limit the text is one piece. -/
theorem chunkText_recursive_bounded_long_word :
    let text := "Ab cd.\n\nabcdef\ng"
    let chunks := chunkText ⟨4, 0, .recursive⟩ text
    chunks.map TextChunk.content = ["Ab", "cd.", "abcdef", "g"] ∧
    text.length ≤ 1000 ∧
    Chunking.cut 1000 Chunking.separators text.toList = [text.toList] ∧
    ∃ chunk ∈ chunks, ¬chunk.content.length ≤ 4 ∧
      ' ' ∉ chunk.content.toList ∧ '\n' ∉ chunk.content.toList := by
  intro text chunks
  have contents : chunks.map TextChunk.content = ["Ab", "cd.", "abcdef", "g"] := by
    decide +kernel
  have fits : text.length ≤ 1000 := by decide
  have bounded := (chunkText_recursive_bounded 4 0 text).2.2.2
  have long : ∃ chunk ∈ chunks, chunk.content = "abcdef" := by
    have member : "abcdef" ∈ chunks.map TextChunk.content := by
      rw [contents]
      decide
    exact List.mem_map.mp member
  rcases long with ⟨chunk, member, content⟩
  have tooLong : ¬chunk.content.length ≤ 4 := by
    rw [content]
    decide
  have whole := (bounded chunk member).resolve_left tooLong
  exact ⟨contents, fits, (chunkText_recursive_bounded 0 0 text).2.1 fits, chunk, member, tooLong,
    whole.1, whole.2.1⟩

end GroundedAnswers
