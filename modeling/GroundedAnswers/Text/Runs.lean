namespace GroundedAnswers.Text

/-! Cutting a text into consecutive pieces. Every cut here keeps the characters in order, and the
cuts that keep separators lose none of them. -/

def prependToFirst (character : Char) : List (List Char) → List (List Char)
  | [] => [[character]]
  | first :: others => (character :: first) :: others

@[simp] theorem flatten_prependToFirst (character : Char) (pieces : List (List Char)) :
    (prependToFirst character pieces).flatten = character :: pieces.flatten := by
  cases pieces <;> rfl

theorem prependToFirst_ne_nil (character : Char) (pieces : List (List Char)) :
    prependToFirst character pieces ≠ [] := by
  cases pieces <;> simp [prependToFirst]

def runs (keep : Char → Bool) : List Char → List (List Char)
  | [] => []
  | character :: rest =>
      if keep character then
        if rest.head?.any keep then prependToFirst character (runs keep rest)
        else [character] :: runs keep rest
      else runs keep rest

example : runs Char.isDigit "a12b3".toList = ["12".toList, "3".toList] := rfl

theorem flatten_runs (keep : Char → Bool) (text : List Char) :
    (runs keep text).flatten = text.filter keep := by
  induction text with
  | nil => rfl
  | cons character rest induction =>
      by_cases kept : keep character <;> simp [runs, kept, induction]
      split <;> simp [induction]

/-- Cut a text behind every position where `ends` holds of the character and what follows it. -/
def splitBehind (ends : Char → List Char → Bool) : List Char → List (List Char)
  | [] => []
  | character :: rest =>
      if ends character rest then [character] :: splitBehind ends rest
      else prependToFirst character (splitBehind ends rest)

@[simp] theorem flatten_splitBehind (ends : Char → List Char → Bool) (text : List Char) :
    (splitBehind ends text).flatten = text := by
  induction text with
  | nil => rfl
  | cons character rest induction =>
      simp only [splitBehind]
      split <;> simp [induction]

/-- Cut a text behind every occurrence of a separator, looking from the left and never inside an
earlier occurrence. An empty separator cuts nothing. -/
def splitKeeping (separator : List Char) : List Char → List (List Char)
  | [] => []
  | character :: rest =>
      if separator ≠ [] ∧ separator.isPrefixOf (character :: rest) then
        separator :: splitKeeping separator (rest.drop (separator.length - 1))
      else prependToFirst character (splitKeeping separator rest)
termination_by text => text.length
decreasing_by
  · simp only [List.length_drop, List.length_cons]
    omega
  · simp

@[simp] theorem flatten_splitKeeping (separator text : List Char) :
    (splitKeeping separator text).flatten = text := by
  fun_induction splitKeeping separator text with
  | case1 => rfl
  | case2 character rest found induction =>
      obtain ⟨nonempty, occurs⟩ := found
      obtain ⟨remaining, equal⟩ := List.isPrefixOf_iff_prefix.mp occurs
      cases separator with
      | nil => exact absurd rfl nonempty
      | cons head tail =>
          simp only [List.cons_append, List.cons.injEq] at equal
          obtain ⟨rfl, rfl⟩ := equal
          simpa using induction
  | case3 character rest _ induction => simp [induction]

end GroundedAnswers.Text
