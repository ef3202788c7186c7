import GroundedAnswers.Proofs.Text.Words
import GroundedAnswers.Text.Terms
import Mathlib.Data.Finset.Card
import Mathlib.Data.Finset.Dedup

namespace GroundedAnswers.Text

/-! The vocabulary of a text. Which terms a text has depends neither on what separates them nor on
the case of their letters. -/

def vocabulary (text : String) : Finset String :=
  (terms text).toFinset

theorem length_terms_le (text : String) : (terms text).length ≤ text.length := by
  rw [terms, List.length_map, ← String.length_toList]
  exact length_runs_le _ _

theorem card_vocabulary_le (text : String) : (vocabulary text).card ≤ text.length :=
  Nat.le_trans (List.toFinset_card_le _) (length_terms_le text)

/-! ## Separators -/

private theorem exists_splitOnP (keep : Char → Bool) (text : List Char) :
    ∃ first others, text.splitOnP (!keep ·) = first :: others ∧
      first.isEmpty = !text.head?.any keep := by
  cases text with
  | nil => exact ⟨[], [], List.splitOnP_nil, rfl⟩
  | cons character rest =>
      rw [List.splitOnP_cons_eq_if_modifyHead]
      by_cases kept : keep character
      · rcases List.exists_cons_of_ne_nil (List.splitOnP_ne_nil (!keep ·) rest) with
          ⟨first, others, pieces⟩
        exact ⟨character :: first, others, by simp [kept, pieces], by simp [kept]⟩
      · exact ⟨[], rest.splitOnP (!keep ·), by simp [kept], by simp [kept]⟩

/-- Runs are what lies between separators, as far as anything does. -/
theorem runs_eq_splitOnP (keep : Char → Bool) (text : List Char) :
    runs keep text = (text.splitOnP (!keep ·)).filter (!·.isEmpty) := by
  induction text with
  | nil => rfl
  | cons character rest induction =>
      rcases exists_splitOnP keep rest with ⟨first, others, pieces, starts⟩
      rw [pieces, List.filter_cons, starts] at induction
      rw [runs, List.splitOnP_cons_eq_if_modifyHead, pieces, induction]
      by_cases kept : keep character
      · by_cases next : rest.head?.any keep
        · simp [kept, next, prependToFirst]
        · simp [kept, next] at starts ⊢
          exact starts
      · simp [kept, List.filter_cons, starts]

theorem terms_eq_splitOnP (text : String) :
    terms text = ((text.toList.splitOnP (!isAlphanumeric ·)).filter (!·.isEmpty)).map
      fun run => String.ofList (lowerCase run) := by
  rw [terms, runs_eq_splitOnP]

theorem vocabulary_append_separator {separator : Char} (outside : isAlphanumeric separator = false)
    (left right : String) :
    vocabulary (left ++ String.singleton separator ++ right) = vocabulary left ∪ vocabulary right := by
  have alone : runs isAlphanumeric [separator] = [] := by
    simp [runs_eq_nil_iff, outside]
  have before : CutsNoRun isAlphanumeric left.toList [separator] := .of_right _ (by simpa using outside)
  have behind : CutsNoRun isAlphanumeric (left.toList ++ [separator]) right.toList :=
    .prepend _ (.inl ⟨separator, rfl, outside⟩)
  have added : terms (left ++ String.singleton separator ++ right) = terms left ++ terms right := by
    rw [terms, String.toList_append, String.toList_append, String.toList_singleton,
      runs_append behind, runs_append before, alone, List.append_nil, List.map_append, terms, terms]
  rw [vocabulary, added, List.toFinset_append, vocabulary, vocabulary]

/-! ## Case -/

/-- Only Latin letters are changed, so what does not show their case does not change at all. -/
theorem congr_toLower {view : Char → α}
    (letters : ∀ code < 91, view (Char.ofNat code).toLower = view (.ofNat code))
    (character : Char) : view character.toLower = view character := by
  by_cases within : character.toNat < 91
  · have letter := letters character.toNat within
    rwa [Char.ofNat_toNat] at letter
  · have notUpper : ¬(character.val ≥ 'A'.val ∧ character.val ≤ 'Z'.val) := by
      rintro ⟨_, greatest⟩
      exact within (Nat.lt_succ_of_le greatest)
    have same : character.toLower = character := dif_neg notUpper
    rw [same]

private theorem isAlphanumeric_toLower (character : Char) :
    isAlphanumeric character.toLower = isAlphanumeric character :=
  congr_toLower (by decide +kernel) character

private theorem isCased_toLower (character : Char) :
    isCased character.toLower = isCased character :=
  congr_toLower (by decide +kernel) character

private theorem isCaseIgnorable_toLower (character : Char) :
    isCaseIgnorable character.toLower = isCaseIgnorable character :=
  congr_toLower (by decide +kernel) character

private theorem lowerCaseOf_toLower (character : Char) :
    lowerCaseOf character.toLower = lowerCaseOf character :=
  congr_toLower (by decide +kernel) character

private theorem toLower_eq_sigma_iff (character : Char) :
    character.toLower = 'Σ' ↔ character = 'Σ' := by
  have same : decide (character.toLower = 'Σ') = decide (character = 'Σ') :=
    @congr_toLower _ (fun character => decide (character = 'Σ')) (by decide +kernel) character
  exact decide_eq_decide.mp same

private theorem casedComesNext_toLower (text : List Char) :
    casedComesNext (text.map Char.toLower) = casedComesNext text := by
  have ignorable : isCaseIgnorable ∘ Char.toLower = isCaseIgnorable :=
    funext isCaseIgnorable_toLower
  have cased : (fun character => isCased character.toLower) = isCased := funext isCased_toLower
  rw [casedComesNext, casedComesNext, List.dropWhile_map, List.head?_map, Option.any_map,
    ignorable, cased]

private theorem lowerCaseAfter_toLower (before text : List Char) :
    lowerCaseAfter (before.map Char.toLower) (text.map Char.toLower) =
      lowerCaseAfter before text := by
  induction text generalizing before with
  | nil => rfl
  | cons character rest induction =>
      rw [List.map_cons, lowerCaseAfter, lowerCaseAfter, casedComesNext_toLower,
        casedComesNext_toLower, lowerCaseOf_toLower, ← List.map_cons, induction]
      simp only [toLower_eq_sigma_iff]

private theorem runs_map {keep : Char → Bool} {change : Char → Char}
    (kept : ∀ character, keep (change character) = keep character) (text : List Char) :
    runs keep (text.map change) = (runs keep text).map (List.map change) := by
  induction text with
  | nil => rfl
  | cons character rest induction =>
      have next : (rest.map change).head?.any keep = rest.head?.any keep := by
        rw [List.head?_map, Option.any_map]
        exact congrArg (rest.head?.any ·) (funext kept)
      rw [List.map_cons, runs, runs, kept, next, induction]
      split
      · split
        · cases runs keep rest <;> rfl
        · rfl
      · rfl

theorem terms_toLower (text : String) : terms text.toLower = terms text := by
  have changed : text.toLower.toList = text.toList.map Char.toLower := String.toList_map
  rw [terms, terms, changed, runs_map isAlphanumeric_toLower, List.map_map]
  refine List.map_congr_left fun run _ => ?_
  exact congrArg String.ofList (lowerCaseAfter_toLower [] run)

end GroundedAnswers.Text
