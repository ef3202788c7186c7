import GroundedAnswers.Chunking.Basic
import GroundedAnswers.Proofs.Chunking.Words

namespace GroundedAnswers

open Text

/-! What every list of chunks has in common: numbers without gaps, contents that are parts of the
text and not blank, and with whole sentences or separators all words of the text in order. -/

def wordsOfChunks (chunks : List TextChunk) : List (List Char) :=
  chunks.flatMap fun chunk => wordsOf chunk.content.toList

def keptPieces (options : ChunkOptions) (text : String) : List (List Char) :=
  (Chunking.pieces options text.toList).filter fun piece => !piece.all isBlank

private theorem chunkText_eq (options : ChunkOptions) (text : String) :
    chunkText options text =
      (keptPieces options text).mapIdx fun index piece => .of index (String.ofList piece) :=
  rfl

private theorem length_chunkText (options : ChunkOptions) (text : String) :
    (chunkText options text).length = (keptPieces options text).length := by
  rw [chunkText_eq, List.length_mapIdx]

private theorem map_index_chunkText (options : ChunkOptions) (text : String) :
    (chunkText options text).map TextChunk.index =
      List.range (chunkText options text).length := by
  apply List.ext_getElem
  · simp
  · intro index _ _
    simp [chunkText_eq, TextChunk.of]

theorem map_content_chunkText (options : ChunkOptions) (text : String) :
    (chunkText options text).map (fun chunk => chunk.content.toList) =
      keptPieces options text := by
  apply List.ext_getElem
  · simp [length_chunkText]
  · intro index _ _
    simp [chunkText_eq, TextChunk.of]

private theorem tokenCount_of_mem_chunkText {options : ChunkOptions} {text : String}
    {chunk : TextChunk} (member : chunk ∈ chunkText options text) :
    chunk.tokenCount = estimateTokens chunk.content := by
  rw [chunkText_eq] at member
  rcases List.mem_mapIdx.mp member with ⟨index, _, rfl⟩
  rfl

theorem content_mem_keptPieces {options : ChunkOptions} {text : String} {chunk : TextChunk}
    (member : chunk ∈ chunkText options text) :
    chunk.content.toList ∈ keptPieces options text := by
  rw [← map_content_chunkText]
  exact List.mem_map_of_mem member

theorem chunkText_eq_nil_iff (options : ChunkOptions) (text : String) :
    chunkText options text = [] ↔
      ∀ piece ∈ Chunking.pieces options text.toList, piece.all isBlank := by
  rw [← List.length_eq_zero_iff, length_chunkText, List.length_eq_zero_iff, keptPieces,
    List.filter_eq_nil_iff]
  simp

/-! ## Pieces of all strategies -/

theorem infix_of_mem_pieces {options : ChunkOptions} {text piece : List Char}
    (member : piece ∈ Chunking.pieces options text) : piece <:+: text := by
  have trimmedPart : ∀ {whole : List (List Char)}, whole.flatten = text →
      piece ∈ whole.map trimmed → piece <:+: text := by
    intro whole equal inside
    rcases List.mem_map.mp inside with ⟨source, sourceMember, rfl⟩
    rw [← equal]
    exact (isInfix_trimmed source).trans (List.infix_of_mem_flatten sourceMember)
  cases strategy : options.strategy with
  | fixed =>
      simp only [Chunking.pieces, strategy] at member
      exact isInfix_of_mem_windows member
  | sentence =>
      simp only [Chunking.pieces, strategy] at member
      exact trimmedPart (by simp [Chunking.flatten_pack, Chunking.sentences]) member
  | recursive =>
      simp only [Chunking.pieces, strategy] at member
      exact trimmedPart (Chunking.flatten_cut _ _ _) member

theorem pieces_blank_iff (options : ChunkOptions) (text : List Char) :
    (∀ piece ∈ Chunking.pieces options text, piece.all isBlank) ↔ text.all isBlank := by
  constructor
  · intro blank
    by_cases fixed : options.strategy = .fixed
    · simp only [Chunking.pieces, fixed] at blank
      refine List.all_eq_true.mpr fun character member => ?_
      rcases exists_mem_windows (Chunking.stride_le _ _) member with ⟨window, inside, found⟩
      exact List.all_eq_true.mp (blank window inside) character found
    · rw [← wordsOf_eq_nil_iff, ← Chunking.flatMap_wordsOf_pieces options text fixed,
        List.flatMap_eq_nil_iff]
      exact fun piece member => (wordsOf_eq_nil_iff piece).mpr (blank piece member)
  · intro blank piece member
    refine List.all_eq_true.mpr fun character found => ?_
    exact List.all_eq_true.mp blank character ((infix_of_mem_pieces member).subset found)

/-! ## Chunks of a text -/

private theorem wordsOfChunks_chunkText {options : ChunkOptions} (whole : options.strategy ≠ .fixed)
    (text : String) : wordsOfChunks (chunkText options text) = wordsOf text.toList := by
  have kept : (keptPieces options text).flatMap wordsOf =
      (Chunking.pieces options text.toList).flatMap wordsOf := by
    unfold keptPieces
    induction Chunking.pieces options text.toList with
    | nil => rfl
    | cons piece rest induction =>
        by_cases blank : piece.all isBlank
        · simp [blank, induction, (wordsOf_eq_nil_iff piece).mpr blank]
        · simp [blank, induction]
  calc
    wordsOfChunks (chunkText options text)
      = ((chunkText options text).map fun chunk => chunk.content.toList).flatMap wordsOf := by
        rw [List.flatMap_map]
        rfl
    _ = wordsOf text.toList := by
        rw [map_content_chunkText, kept, Chunking.flatMap_wordsOf_pieces options _ whole]

/-- Sentences and the recursive strategy keep every word, once and in order. With every strategy,
chunks are numbered without gaps, are parts of the text that are not blank, carry the estimate of
their own tokens, and are missing only where there is nothing but blanks. -/
theorem chunkText_loses_nothing (size overlap : UInt64) (text : String) :
    (∀ strategy ∈ [ChunkStrategy.sentence, .recursive],
      wordsOfChunks (chunkText ⟨size, overlap, strategy⟩ text) = wordsOf text.toList) ∧
    ∀ strategy : ChunkStrategy,
      let chunks := chunkText ⟨size, overlap, strategy⟩ text
      chunks.map TextChunk.index = List.range chunks.length ∧
      (∀ chunk ∈ chunks,
        ¬isBlankText chunk.content ∧
        chunk.content.toList <:+: text.toList ∧
        chunk.tokenCount = estimateTokens chunk.content) ∧
      (chunks = [] ↔ isBlankText text) := by
  refine ⟨fun strategy member => ?_, fun strategy => ⟨map_index_chunkText _ _, ?_, ?_⟩⟩
  · apply wordsOfChunks_chunkText
    have whole : strategy = .sentence ∨ strategy = .recursive := by simpa using member
    rcases whole with rfl | rfl <;> exact nofun
  · intro chunk member
    rcases List.mem_filter.mp (content_mem_keptPieces member) with ⟨piece, notBlank⟩
    refine ⟨?_, infix_of_mem_pieces piece, tokenCount_of_mem_chunkText member⟩
    simpa [isBlankText] using notBlank
  · rw [chunkText_eq_nil_iff, pieces_blank_iff]
    rfl

/-- A size that cuts within a sentence, a blank line and a character of several bytes. -/
theorem chunkText_loses_nothing_short :
    ChunkStrategy.recursive ∈ [ChunkStrategy.sentence, .recursive] ∧
    wordsOfChunks (chunkText ⟨4, 0, .recursive⟩ "Ab. é\n\nabcdef g") =
      ["Ab.".toList, "é".toList, "abcdef".toList, "g".toList] ∧
    (chunkText ⟨4, 0, .recursive⟩ "Ab. é\n\nabcdef g").map TextChunk.index = [0, 1, 2, 3] := by
  have member : ChunkStrategy.recursive ∈ [ChunkStrategy.sentence, .recursive] := by decide
  have lossless := chunkText_loses_nothing 4 0 "Ab. é\n\nabcdef g"
  refine ⟨member, (lossless.1 .recursive member).trans (by decide), ?_⟩
  exact (lossless.2 .recursive).1.trans (by decide +kernel)

end GroundedAnswers
