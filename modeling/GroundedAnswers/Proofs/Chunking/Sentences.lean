import GroundedAnswers.Proofs.Chunking.Chunks
import Mathlib.Data.List.Chain

namespace GroundedAnswers

open Text

/-! How sentences are found and packed. A text is cut wherever a sentence ends and nowhere else, and
a chunk takes in sentences until the next one would no longer fit. -/

/-! ## Cuts between pieces -/

/-- The pieces part a text here, into what stands before and what stands behind. -/
def CutsAt (pieces : List (List Char)) (before behind : List Char) : Prop :=
  ∃ front back, front ≠ [] ∧ back ≠ [] ∧ pieces = front ++ back ∧
    front.flatten = before ∧ back.flatten = behind

section

variable {first before behind : List Char} {pieces : List (List Char)}

private theorem not_cutsAt_nil : ¬CutsAt [] before behind := by
  rintro ⟨front, back, nonempty, -, none, -⟩
  exact nonempty (List.append_eq_nil_iff.mp none.symm).1

private theorem cutsAt_cons_iff :
    CutsAt (first :: pieces) before behind ↔
      (pieces ≠ [] ∧ first = before ∧ pieces.flatten = behind) ∨
        ∃ later, before = first ++ later ∧ CutsAt pieces later behind := by
  constructor
  · rintro ⟨front, back, nonempty, more, parts, rfl, rfl⟩
    cases front with
    | nil => exact absurd rfl nonempty
    | cons head rest =>
        rw [List.cons_append, List.cons.injEq] at parts
        rcases parts with ⟨rfl, rfl⟩
        cases rest with
        | nil => exact .inl ⟨more, (List.append_nil _).symm, rfl⟩
        | cons second others =>
            exact .inr ⟨_, rfl, second :: others, back, List.cons_ne_nil _ _, more, rfl, rfl, rfl⟩
  · rintro (⟨more, rfl, rfl⟩ | ⟨_, rfl, front, back, _, more, rfl, rfl, rfl⟩)
    · exact ⟨[first], pieces, List.cons_ne_nil _ _, more, rfl, List.append_nil _, rfl⟩
    · exact ⟨first :: front, back, List.cons_ne_nil _ _, more, rfl, rfl, rfl⟩

private theorem cutsAt_prependToFirst_iff {character : Char} :
    CutsAt (prependToFirst character pieces) before behind ↔
      ∃ later, before = character :: later ∧ CutsAt pieces later behind := by
  cases pieces with
  | nil =>
      rw [prependToFirst, cutsAt_cons_iff]
      simp [not_cutsAt_nil]
  | cons head others =>
      rw [prependToFirst, cutsAt_cons_iff]
      constructor
      · rintro (⟨more, rfl, rfl⟩ | ⟨later, rfl, cuts⟩)
        · exact ⟨head, rfl, cutsAt_cons_iff.mpr (.inl ⟨more, rfl, rfl⟩)⟩
        · exact ⟨head ++ later, rfl, cutsAt_cons_iff.mpr (.inr ⟨later, rfl, cuts⟩)⟩
      · rintro ⟨later, rfl, cuts⟩
        rcases cutsAt_cons_iff.mp cuts with ⟨more, rfl, rfl⟩ | ⟨rest, rfl, cutsOthers⟩
        · exact .inl ⟨more, rfl, rfl⟩
        · exact .inr ⟨rest, rfl, cutsOthers⟩

end

private theorem ne_nil_of_mem_splitBehind {ends : Char → List Char → Bool} {text piece : List Char}
    (member : piece ∈ splitBehind ends text) : piece ≠ [] := by
  induction text generalizing piece with
  | nil => cases member
  | cons character rest induction =>
      rw [splitBehind] at member
      split at member
      · rcases List.mem_cons.mp member with rfl | later
        · exact List.cons_ne_nil _ _
        · exact induction later
      · generalize splitBehind ends rest = pieces at member induction
        cases pieces with
        | nil =>
            rw [List.mem_singleton.mp member]
            exact List.cons_ne_nil _ _
        | cons head others =>
            rcases List.mem_cons.mp member with rfl | later
            · exact List.cons_ne_nil _ _
            · exact induction (List.mem_cons_of_mem head later)

private theorem splitBehind_ne_nil {ends : Char → List Char → Bool} {text : List Char}
    (nonempty : text ≠ []) : splitBehind ends text ≠ [] := by
  intro nothing
  have whole := flatten_splitBehind ends text
  rw [nothing] at whole
  exact nonempty whole.symm

/-- Cutting the first character off or joining it to the first piece moves no other cut. -/
theorem cutsAt_splitBehind_cons_iff {ends : Char → List Char → Bool} {character : Char}
    {rest before behind : List Char} :
    CutsAt (splitBehind ends (character :: rest)) before behind ↔
      (before = [character] ∧ behind = rest ∧ rest ≠ [] ∧ ends character rest) ∨
        ∃ later, before = character :: later ∧ CutsAt (splitBehind ends rest) later behind := by
  rw [splitBehind]
  split
  · rename_i ended
    have left : splitBehind ends rest ≠ [] ↔ rest ≠ [] := by
      refine ⟨?_, splitBehind_ne_nil⟩
      rintro more rfl
      exact more rfl
    rw [cutsAt_cons_iff, flatten_splitBehind, left]
    simp only [ended, and_true, List.singleton_append]
    constructor
    · rintro (⟨more, rfl, rfl⟩ | others)
      · exact .inl ⟨rfl, rfl, more⟩
      · exact .inr others
    · rintro (⟨rfl, rfl, more⟩ | others)
      · exact .inl ⟨more, rfl, rfl⟩
      · exact .inr others
  · rename_i open_
    rw [cutsAt_prependToFirst_iff]
    simp [open_]

/-- A text is cut behind each character that ends a piece, as long as anything follows, and nowhere
else. -/
theorem cutsAt_splitBehind_iff (ends : Char → List Char → Bool) (text before behind : List Char) :
    CutsAt (splitBehind ends text) before behind ↔
      before ++ behind = text ∧ behind ≠ [] ∧
        ∃ character ∈ before.getLast?, ends character behind := by
  induction text generalizing before with
  | nil =>
      refine ⟨fun cuts => absurd cuts not_cutsAt_nil, ?_⟩
      rintro ⟨nothing, more, -⟩
      exact absurd (List.append_eq_nil_iff.mp nothing).2 more
  | cons character rest induction =>
      rw [cutsAt_splitBehind_cons_iff]
      simp only [induction]
      constructor
      · rintro (⟨rfl, rfl, more, ended⟩ | ⟨later, rfl, rfl, more, last, isLast, ended⟩)
        · exact ⟨rfl, more, character, rfl, ended⟩
        · refine ⟨rfl, more, last, ?_, ended⟩
          rw [Option.mem_def] at isLast ⊢
          rw [List.getLast?_cons, isLast, Option.getD_some]
      · rintro ⟨whole, more, last, isLast, ended⟩
        cases before with
        | nil => cases isLast
        | cons head later =>
            rw [List.cons_append, List.cons.injEq] at whole
            rcases whole with ⟨rfl, rfl⟩
            cases later with
            | nil =>
                cases isLast
                exact .inl ⟨rfl, rfl, more, ended⟩
            | cons second others =>
                rw [List.getLast?_cons_cons] at isLast
                exact .inr ⟨second :: others, rfl, rfl, more, last, isLast, ended⟩

/-! ## Sentences -/

namespace Chunking

private theorem cutsAt_sentences_iff (text before behind : List Char) :
    CutsAt (sentences text) before behind ↔
      before ++ behind = text ∧ (∃ mark ∈ before.getLast?, mark ∈ ['.', '!', '?']) ∧
        ∃ blank ∈ behind.head?, isBlank blank := by
  rw [sentences, cutsAt_splitBehind_iff]
  refine and_congr_right fun _ => ?_
  constructor
  · rintro ⟨-, mark, isLast, ended⟩
    rcases of_decide_eq_true ended with ⟨isMark, follows⟩
    rw [Option.any_eq_true] at follows
    exact ⟨⟨mark, isLast, by simpa using isMark⟩, follows⟩
  · rintro ⟨⟨mark, isLast, isMark⟩, blank, follows, isBlank⟩
    refine ⟨?_, mark, isLast, decide_eq_true ⟨by simpa using isMark, ?_⟩⟩
    · rintro rfl
      cases follows
    · exact (Option.any_eq_true _ _).mpr ⟨blank, follows, isBlank⟩

/-! ## Packing -/

/-- Groups of neighbouring segments that are as large as a limit allows: one that is larger is a
single segment, and the first segment of the next one would not have gone into it. -/
structure Packing (limit : Nat) (groups : List (List (List Char))) : Prop where
  filled : ∀ group ∈ groups, group ≠ []
  fits : ∀ group ∈ groups, group.flatten.length ≤ limit ∨ group.length = 1
  full : groups.IsChain fun first second =>
    ∃ next ∈ second.head?, limit < first.flatten.length + next.length

def groupsOf (size : Nat) (group : List (List Char)) :
    List (List Char) → List (List (List Char))
  | [] => if group = [] then [] else [group]
  | segment :: rest =>
      if group ≠ [] ∧ size < group.flatten.length + segment.length then
        group :: groupsOf size [segment] rest
      else groupsOf size (group ++ [segment]) rest

private theorem flatten_groupsOf (size : Nat) (group segments : List (List Char)) :
    (groupsOf size group segments).flatten = group ++ segments := by
  induction segments generalizing group with
  | nil =>
      rw [groupsOf]
      split
      · rename_i empty
        rw [empty]
        rfl
      · rw [List.flatten_singleton, List.append_nil]
  | cons segment rest induction =>
      rw [groupsOf]
      split
      · rw [List.flatten_cons, induction, List.singleton_append]
      · rw [induction, List.append_assoc, List.singleton_append]

/-- Every packed piece is a group of segments put together. No segment may be empty: packing takes
a piece of no characters for one that is yet to begin. -/
theorem pack_flatten (size : Nat) (group segments : List (List Char))
    (solid : ∀ segment ∈ group ++ segments, segment ≠ []) :
    pack size group.flatten segments = (groupsOf size group segments).map List.flatten := by
  have begun : group.flatten = [] ↔ group = [] := by
    cases group with
    | nil => simp
    | cons first others =>
        have visible : first ≠ [] := solid first List.mem_cons_self
        simp [visible]
  induction segments generalizing group with
  | nil =>
      rw [pack, groupsOf]
      by_cases empty : group = []
      · rw [if_pos (begun.mpr empty), if_pos empty, List.map_nil]
      · rw [if_neg (mt begun.mp empty), if_neg empty, List.map_singleton]
  | cons segment rest induction =>
      have visible : segment ≠ [] := solid segment (by simp)
      have next : [segment].flatten = segment := List.flatten_singleton
      have joined : (group ++ [segment]).flatten = group.flatten ++ segment := by
        rw [List.flatten_append, next]
      simp only [pack, groupsOf, ne_eq, begun]
      split
      · rw [List.map_cons, ← induction, next]
        · intro member found
          exact solid member (List.mem_append_right group found)
        · rw [next]
          simp [visible]
      · rw [← induction, joined]
        · rw [List.append_assoc]
          exact solid
        · rw [joined]
          simp [visible]

private theorem groupsOf_eq_cons (size : Nat) {group : List (List Char)} (begun : group ≠ [])
    (segments : List (List Char)) :
    ∃ more others, groupsOf size group segments = (group ++ more) :: others := by
  induction segments generalizing group with
  | nil =>
      rw [groupsOf, if_neg begun]
      exact ⟨[], [], by rw [List.append_nil]⟩
  | cons segment rest induction =>
      rw [groupsOf]
      split
      · exact ⟨[], _, by rw [List.append_nil]⟩
      · rcases induction (List.append_ne_nil_of_right_ne_nil group (List.cons_ne_nil segment []))
          with ⟨more, others, packed⟩
        exact ⟨segment :: more, others, by rw [packed, List.append_assoc, List.singleton_append]⟩

private theorem groupsOf_packing {size : Nat} (group segments : List (List Char))
    (fits : group.flatten.length ≤ size ∨ group.length ≤ 1) :
    Packing size (groupsOf size group segments) := by
  induction segments generalizing group with
  | nil =>
      rw [groupsOf]
      split
      · exact ⟨by simp, by simp, .nil⟩
      · rename_i begun
        have positive := List.length_pos_iff.mpr begun
        refine ⟨by simpa using begun, ?_, .singleton group⟩
        rw [List.forall_mem_singleton]
        omega
  | cons segment rest induction =>
      rw [groupsOf]
      split
      · rename_i closed
        rcases closed with ⟨begun, large⟩
        have positive := List.length_pos_iff.mpr begun
        -- The segment that had no room opens the next group, whatever comes behind it.
        have others := induction [segment] (.inr (Nat.le_refl 1))
        rcases groupsOf_eq_cons size (List.cons_ne_nil segment []) rest with ⟨more, later, packed⟩
        rw [packed] at others ⊢
        refine ⟨List.forall_mem_cons.mpr ⟨begun, others.filled⟩,
          List.forall_mem_cons.mpr ⟨by omega, others.fits⟩, ?_⟩
        exact .cons_cons ⟨segment, rfl, large⟩ others.full
      · rename_i room
        apply induction
        rw [List.flatten_append, List.flatten_singleton, List.length_append, List.length_append,
          List.length_singleton]
        by_cases begun : group = []
        · subst begun
          exact .inr (Nat.le_refl 1)
        · exact .inl (Nat.le_of_not_lt fun large => room ⟨begun, large⟩)

end Chunking

/-! ## Chunks of the sentence strategy -/

/-- A text is parted into sentences wherever a mark stands before a blank. The chunks are groups of
neighbouring sentences, each as large as the size allows, without the blanks around them. Only a
chunk of a single sentence is larger than the size. -/
theorem chunkText_packs_sentences (size overlap : UInt64) (text : String) :
    let limit := if size = 0 then 1000 else size.toNat
    let sentences := Chunking.sentences text.toList
    let chunks := chunkText ⟨size, overlap, .sentence⟩ text
    (∀ sentence ∈ sentences, sentence ≠ []) ∧
    sentences.flatten = text.toList ∧
    (∀ before behind, CutsAt sentences before behind ↔
      before ++ behind = text.toList ∧ (∃ mark ∈ before.getLast?, mark ∈ ['.', '!', '?']) ∧
        ∃ blank ∈ behind.head?, isBlank blank) ∧
    (∃ groups, groups.flatten = sentences ∧ Chunking.Packing limit groups ∧
      (chunks.map fun chunk => chunk.content.toList) =
        (groups.map fun group => trimmed group.flatten).filter
          fun characters => !characters.all isBlank) ∧
    ∀ chunk ∈ chunks, chunk.content.length ≤ limit ∨
      ∃ sentence ∈ sentences, chunk.content.toList = trimmed sentence := by
  intro limit sentences chunks
  have solid : ∀ sentence ∈ sentences, sentence ≠ [] := fun _ => ne_nil_of_mem_splitBehind
  let groups := Chunking.groupsOf limit [] sentences
  have whole : groups.flatten = sentences := Chunking.flatten_groupsOf limit [] sentences
  have packing : Chunking.Packing limit groups :=
    Chunking.groupsOf_packing [] sentences (.inr (Nat.zero_le 1))
  have contents : (chunks.map fun chunk => chunk.content.toList) =
      (groups.map fun group => trimmed group.flatten).filter
        fun characters => !characters.all isBlank := by
    have packed := Chunking.pack_flatten limit [] sentences solid
    have pieces : Chunking.pieces ⟨size, overlap, .sentence⟩ text.toList =
        (Chunking.pack limit [] sentences).map trimmed := rfl
    rw [map_content_chunkText, keptPieces, pieces, ← List.flatten_nil, packed, List.map_map]
    rfl
  refine ⟨solid, flatten_splitBehind _ _, Chunking.cutsAt_sentences_iff _,
    ⟨groups, whole, packing, contents⟩, ?_⟩
  intro chunk member
  have inside := List.mem_map_of_mem (f := fun chunk : TextChunk => chunk.content.toList) member
  rw [contents] at inside
  rcases List.mem_map.mp (List.mem_of_mem_filter inside) with ⟨group, found, content⟩
  have part := (isInfix_trimmed group.flatten).length_le
  rw [content, String.length_toList] at part
  rcases packing.fits group found with fits | single
  · exact .inl (Nat.le_trans part fits)
  · rcases List.length_eq_one_iff.mp single with ⟨sentence, rfl⟩
    refine .inr ⟨sentence, ?_, ?_⟩
    · rw [← whole]
      exact List.mem_flatten_of_mem found List.mem_cons_self
    · rw [← content, List.flatten_singleton]

/-- Two marks in a row, a mark within a number, and a sentence that is larger than the size. -/
theorem chunkText_packs_sentences_marks :
    let text := "Né?! 3.14. Oui.  Une phrase longue! A. B"
    let sentences := ["Né?!", " 3.14.", " Oui.", "  Une phrase longue!", " A.", " B"]
    let chunks := ["Né?! 3.14.", "Oui.", "Une phrase longue!", "A. B"]
    Chunking.sentences text.toList = sentences.map String.toList ∧
    ¬CutsAt (sentences.map String.toList)
      "Né?! 3.".toList "14. Oui.  Une phrase longue! A. B".toList ∧
    (chunkText ⟨11, 0, .sentence⟩ text).map TextChunk.content = chunks ∧
    ∃ groups, groups.flatten = sentences.map String.toList ∧ Chunking.Packing 11 groups ∧
      (groups.map fun group => trimmed group.flatten).filter
        (fun characters => !characters.all isBlank) = chunks.map String.toList := by
  intro text sentences chunks
  have found : Chunking.sentences text.toList = sentences.map String.toList := by decide +kernel
  have limit : (if (11 : UInt64) = 0 then 1000 else (11 : UInt64).toNat) = 11 := by decide
  have packs := chunkText_packs_sentences 11 0 text
  simp only [limit, found] at packs
  rcases packs with ⟨-, -, cuts, ⟨groups, whole, packing, contents⟩, -⟩
  refine ⟨found, ?_, by decide +kernel, groups, whole, packing,
    contents.symm.trans (by decide +kernel)⟩
  rw [cuts]
  rintro ⟨-, -, blank, follows, isBlank⟩
  cases follows
  exact absurd isBlank (by decide)

end GroundedAnswers
