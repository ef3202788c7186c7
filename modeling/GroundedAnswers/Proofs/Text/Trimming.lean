import GroundedAnswers.Proofs.Text.Words
import Mathlib.Data.List.DropRight
import Mathlib.Data.List.TakeWhile

namespace GroundedAnswers.Text

/-! Trimming a text around a core that neither starts nor ends with a blank: the core stays as it
is, and blanks around it are dropped. -/

/-- A text whose first and last characters are not blank. -/
structure IsCore (text : List Char) : Prop where
  starts : ∃ first ∈ text.head?, isBlank first = false
  ends : ∃ last ∈ text.getLast?, isBlank last = false

theorem IsCore.reverse {text : List Char} (core : IsCore text) : IsCore text.reverse where
  starts := by simpa using core.ends
  ends := by simpa using core.starts

theorem IsCore.append {first last : List Char} (isFirst : IsCore first) (middle : List Char)
    (isLast : IsCore last) : IsCore (first ++ middle ++ last) := by
  obtain ⟨start, starts, notBlankFirst⟩ := isFirst.starts
  obtain ⟨ending, ends, notBlankLast⟩ := isLast.ends
  refine ⟨⟨start, ?_, notBlankFirst⟩, ⟨ending, ?_, notBlankLast⟩⟩
  · rw [Option.mem_def] at starts ⊢
    simp [List.head?_append, starts]
  · rw [Option.mem_def] at ends ⊢
    simp [List.getLast?_append, ends]

private theorem trimStart_append {core : List Char} (isCore : IsCore core)
    (before after : List Char) :
    trimStart (before ++ (core ++ after)) = trimStart before ++ (core ++ after) := by
  obtain ⟨first, isFirst, notBlank⟩ := isCore.starts
  cases core with
  | nil => cases isFirst
  | cons character rest =>
      cases isFirst
      have kept : trimStart (first :: rest ++ after) = first :: rest ++ after :=
        List.dropWhile_cons_of_neg (by simp [notBlank])
      unfold trimStart at kept ⊢
      rw [List.dropWhile_append]
      split
      · rename_i nothing
        rw [List.isEmpty_iff.mp nothing, kept]
        rfl
      · rfl

theorem trimEnd_append {core : List Char} (isCore : IsCore core) (before after : List Char) :
    trimEnd (before ++ core ++ after) = before ++ core ++ trimEnd after := by
  unfold trimEnd
  rw [List.reverse_append, List.reverse_append, trimStart_append isCore.reverse, List.reverse_append,
    List.reverse_append, List.reverse_reverse, List.reverse_reverse, List.append_assoc]

theorem trimmed_append {core : List Char} (isCore : IsCore core) (before after : List Char) :
    trimmed (before ++ core ++ after) = trimStart before ++ core ++ trimEnd after := by
  rw [trimmed, List.append_assoc, trimStart_append isCore, ← List.append_assoc,
    trimEnd_append isCore]

private theorem trimStart_eq_nil_iff {text : List Char} :
    trimStart text = [] ↔ ∀ character ∈ text, isBlank character :=
  List.dropWhile_eq_nil_iff

private theorem trimEnd_eq_nil_iff {text : List Char} :
    trimEnd text = [] ↔ ∀ character ∈ text, isBlank character := by
  simp [trimEnd, trimStart_eq_nil_iff]

theorem trimmed_between {core : List Char} (isCore : IsCore core) {before after : List Char}
    (blankBefore : ∀ character ∈ before, isBlank character)
    (blankAfter : ∀ character ∈ after, isBlank character) : trimmed (before ++ core ++ after) = core := by
  rw [trimmed_append isCore, trimStart_eq_nil_iff.mpr blankBefore, trimEnd_eq_nil_iff.mpr blankAfter]
  simp

/-! ## Blanks at the end -/

section

variable {blank : Char} (isBlank_blank : isBlank blank) (text : List Char)

include isBlank_blank

private theorem trimEnd_concat : trimEnd (text ++ [blank]) = trimEnd text := by
  rw [trimEnd, List.reverse_append, trimEnd]
  exact congrArg List.reverse (List.dropWhile_cons_of_pos isBlank_blank)

theorem trimmed_concat : trimmed (text ++ [blank]) = trimmed text := by
  unfold trimmed
  rw [trimStart, List.dropWhile_append]
  split
  · rename_i allBlank
    rw [trimStart, List.isEmpty_iff.mp allBlank, List.dropWhile_cons_of_pos isBlank_blank]
    rfl
  · exact trimEnd_concat isBlank_blank _

end

private theorem trimStart_trimStart (text : List Char) :
    trimStart (trimStart text) = trimStart text :=
  List.dropWhile_idempotent isBlank text

private theorem trimEnd_trimEnd (text : List Char) : trimEnd (trimEnd text) = trimEnd text := by
  rw [trimEnd, trimEnd, List.reverse_reverse, trimStart_trimStart]

private theorem trimStart_trimmed (text : List Char) : trimStart (trimmed text) = trimmed text := by
  rcases trimEnd_append_blanks (trimStart text) with ⟨blanks, whole, _⟩
  have starts := trimStart_trimStart text
  rw [whole] at starts
  change trimStart (trimEnd (trimStart text)) = trimEnd (trimStart text)
  generalize trimEnd (trimStart text) = core at starts
  cases core with
  | nil => rfl
  | cons first rest =>
      by_cases blank : isBlank first
      · rw [List.cons_append, trimStart, List.dropWhile_cons_of_pos blank] at starts
        have shorter := (List.dropWhile_suffix isBlank (l := rest ++ blanks)).length_le
        rw [starts, List.length_cons] at shorter
        omega
      · exact List.dropWhile_cons_of_neg blank

@[simp] theorem trimmed_trimmed (text : List Char) : trimmed (trimmed text) = trimmed text := by
  rw [trimmed, trimStart_trimmed, trimmed, trimEnd_trimEnd]

end GroundedAnswers.Text
