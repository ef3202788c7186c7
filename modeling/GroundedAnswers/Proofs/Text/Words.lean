import GroundedAnswers.Text.Blank

namespace GroundedAnswers.Text

/-! Words under cuts. A cut beside a blank leaves all words whole, and blanks at the ends of a text
belong to none of its words. -/

/-- A cut between two texts splits no run: the character before it or the one behind it is not
kept. -/
def CutsNoRun (keep : Char → Bool) (left right : List Char) : Prop :=
  (∃ last ∈ left.getLast?, keep last = false) ∨ ∀ first ∈ right.head?, keep first = false

namespace CutsNoRun

variable {keep : Char → Bool}

theorem of_right {right : List Char} (left : List Char)
    (dropped : ∀ first ∈ right.head?, keep first = false) : CutsNoRun keep left right :=
  .inr dropped

theorem prepend {left right : List Char} (before : List Char) (cut : CutsNoRun keep left right) :
    CutsNoRun keep (before ++ left) right := by
  rcases cut with ⟨last, member, dropped⟩ | dropped
  · refine .inl ⟨last, ?_, dropped⟩
    rw [Option.mem_def] at member ⊢
    rw [List.getLast?_append, member]
    rfl
  · exact .inr dropped

end CutsNoRun

private theorem runs_ne_nil {keep : Char → Bool} {text : List Char} (starts : text.head?.any keep) :
    runs keep text ≠ [] := by
  cases text with
  | nil => simp at starts
  | cons character rest =>
      have kept : keep character = true := by simpa using starts
      simp only [runs, kept, if_true]
      split
      · exact prependToFirst_ne_nil _ _
      · exact List.cons_ne_nil _ _

private theorem prependToFirst_append {pieces : List (List Char)} (nonempty : pieces ≠ [])
    (character : Char) (others : List (List Char)) :
    prependToFirst character (pieces ++ others) = prependToFirst character pieces ++ others := by
  cases pieces with
  | nil => exact absurd rfl nonempty
  | cons first rest => rfl

theorem runs_append {keep : Char → Bool} {left right : List Char}
    (cut : CutsNoRun keep left right) :
    runs keep (left ++ right) = runs keep left ++ runs keep right := by
  induction left with
  | nil => rfl
  | cons character rest induction =>
      cases rest with
      | nil =>
          rcases cut with ⟨last, member, dropped⟩ | dropped
          · have equal : character = last := by simpa using member
            subst equal
            simp [runs, dropped]
          · have apart : right.head?.any keep = false := by
              cases right with
              | nil => rfl
              | cons first others => simpa using dropped first (by simp)
            by_cases kept : keep character <;> simp [runs, kept, apart]
      | cons next others =>
          have behind : CutsNoRun keep (next :: others) right := by
            rcases cut with ⟨last, member, dropped⟩ | dropped
            · exact .inl ⟨last, by simpa using member, dropped⟩
            · exact .inr dropped
          have tails := induction behind
          rw [List.cons_append, runs, runs, tails]
          by_cases kept : keep character
          · simp only [kept, if_true, List.cons_append, List.head?_cons, Option.any_some]
            by_cases follows : keep next = true
            · simp only [follows, if_true]
              exact prependToFirst_append (runs_ne_nil (by simpa using follows)) _ _
            · simp [follows]
          · simp [kept]

private theorem length_prependToFirst_le (character : Char) (pieces : List (List Char)) :
    (prependToFirst character pieces).length ≤ pieces.length + 1 := by
  cases pieces <;> simp [prependToFirst]

theorem length_runs_le (keep : Char → Bool) (text : List Char) :
    (runs keep text).length ≤ text.length := by
  induction text with
  | nil => exact Nat.le_refl 0
  | cons character rest induction =>
      have grown := length_prependToFirst_le character (runs keep rest)
      rw [runs, List.length_cons]
      split
      · split
        · omega
        · exact Nat.succ_le_succ induction
      · omega

theorem runs_eq_nil_iff (keep : Char → Bool) (text : List Char) :
    runs keep text = [] ↔ ∀ character ∈ text, keep character = false := by
  induction text with
  | nil => simp [runs]
  | cons character rest induction =>
      by_cases kept : keep character
      · simp only [runs, kept, if_true, List.mem_cons, forall_eq_or_imp, Bool.true_eq_false,
          false_and, iff_false]
        split
        · exact prependToFirst_ne_nil _ _
        · exact List.cons_ne_nil _ _
      · simp [runs, kept, induction]

/-! ## Words -/

abbrev CutsNoWord (left right : List Char) : Prop :=
  CutsNoRun (fun character => !isBlank character) left right

theorem wordsOf_append {left right : List Char} (cut : CutsNoWord left right) :
    wordsOf (left ++ right) = wordsOf left ++ wordsOf right :=
  runs_append cut

theorem wordsOf_eq_nil_iff (text : List Char) : wordsOf text = [] ↔ text.all isBlank := by
  simp [wordsOf, runs_eq_nil_iff]

private theorem wordsOf_trimStart (text : List Char) : wordsOf (trimStart text) = wordsOf text := by
  induction text with
  | nil => rfl
  | cons character rest induction =>
      by_cases blank : isBlank character
      · have dropped : trimStart (character :: rest) = trimStart rest := by
          simp [trimStart, blank]
        rw [dropped, induction]
        simp [wordsOf, runs, blank]
      · simp [trimStart, blank]

theorem trimEnd_append_blanks (text : List Char) :
    ∃ blanks : List Char, text = trimEnd text ++ blanks ∧ blanks.all isBlank := by
  refine ⟨(text.reverse.takeWhile isBlank).reverse, ?_, ?_⟩
  · rw [trimEnd, trimStart, ← List.reverse_append, List.takeWhile_append_dropWhile,
      List.reverse_reverse]
  · rw [List.all_reverse, List.all_takeWhile]

private theorem wordsOf_trimEnd (text : List Char) : wordsOf (trimEnd text) = wordsOf text := by
  rcases trimEnd_append_blanks text with ⟨blanks, whole, blank⟩
  have cut : CutsNoWord (trimEnd text) blanks := by
    refine .of_right _ fun first member => ?_
    have inside : first ∈ blanks := List.mem_of_mem_head? member
    simpa using List.all_eq_true.mp blank first inside
  have none : wordsOf blanks = [] := (wordsOf_eq_nil_iff blanks).mpr blank
  calc
    wordsOf (trimEnd text) = wordsOf (trimEnd text) ++ wordsOf blanks := by
      rw [none, List.append_nil]
    _ = wordsOf (trimEnd text ++ blanks) := (wordsOf_append cut).symm
    _ = wordsOf text := congrArg wordsOf whole.symm

@[simp] theorem wordsOf_trimmed (text : List Char) : wordsOf (trimmed text) = wordsOf text := by
  rw [trimmed, wordsOf_trimEnd, wordsOf_trimStart]

theorem isInfix_trimmed (text : List Char) : trimmed text <:+: text := by
  rcases trimEnd_append_blanks (trimStart text) with ⟨blanks, whole, _⟩
  have front : trimEnd (trimStart text) <+: trimStart text := ⟨blanks, whole.symm⟩
  exact front.isInfix.trans (List.dropWhile_suffix isBlank).isInfix

end GroundedAnswers.Text
