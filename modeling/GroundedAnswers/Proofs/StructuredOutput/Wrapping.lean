import GroundedAnswers.Proofs.Json.Containers
import GroundedAnswers.Proofs.Text.Trimming
import GroundedAnswers.StructuredOutput
import Mathlib

namespace GroundedAnswers.StructuredOutput

/-! Wrapping a JSON array or object into a code fence or into prose does not change what is read
from it, whatever it holds: the cut lands on its first and its last character. -/

open GroundedAnswers.Json (IsContainer closingBracket)
open GroundedAnswers.Text (IsCore isBlank trimmed trimStart trimEnd)

inductive Wraps (json : List Char) : List Char → Prop
  /-- A code fence with blanks anywhere around it and inside it. The line of the opening fence may
  hold anything, and the closing fence may be missing. -/
  | fence {before tag left right closing after : List Char} (oneLine : '\n' ∉ tag)
      (closed : closing = [] ∨ closing = StructuredOutput.fence)
      (blank : ∀ character ∈ before ++ left ++ right ++ after, isBlank character) :
      Wraps json (before ++ StructuredOutput.fence ++ tag ++ '\n' :: left ++ json ++ right ++ closing ++
        after)
  /-- Prose that has no bracket in front which could be taken for the opening one, and none behind
  which could be taken for the closing one. -/
  | prose {before after : List Char} (noArray : '[' ∉ before) (noObject : '\x7b' ∉ before)
      (notClosed : ∀ opening ∈ json.head?, closingBracket opening ∉ after)
      (noFence : ¬StructuredOutput.fence <+: trimmed (before ++ json ++ after))
      (notAlone : Json.readCanonical? (String.ofList (trimmed (before ++ json ++ after))) = none) :
      Wraps json (before ++ json ++ after)

/-! ## Code fences -/

private theorem isCore_fence : IsCore fence :=
  ⟨⟨'\x60', rfl, by decide⟩, ⟨'\x60', rfl, by decide⟩⟩

private theorem unfenced_of_fence {text tag inside : List Char} (oneLine : '\n' ∉ tag)
    (whole : trimmed text = fence ++ (tag ++ '\n' :: inside)) :
    unfenced text = trimmed (withoutClosingFence inside) := by
  have starts : fence.isPrefixOf (fence ++ (tag ++ '\n' :: inside)) :=
    List.isPrefixOf_iff_prefix.mpr (List.prefix_append _ _)
  have passed : ∀ character ∈ tag, decide (character ≠ '\n') := by
    intro character member
    exact decide_eq_true fun same => oneLine (same ▸ member)
  unfold unfenced
  simp only [whole, starts, if_true]
  rw [List.drop_left, List.dropWhile_append_of_pos passed, List.dropWhile_cons_of_neg (by decide)]

private theorem withoutClosingFence_of_closed (text : List Char) :
    withoutClosingFence (text ++ fence) = text := by
  have ending : trimEnd (text ++ fence) = text ++ fence := by
    have kept := Text.trimEnd_append isCore_fence text []
    rwa [List.append_nil, show trimEnd [] = [] from rfl, List.append_nil] at kept
  have starts : fence.isPrefixOf (fence ++ text.reverse) :=
    List.isPrefixOf_iff_prefix.mpr (List.prefix_append _ _)
  unfold withoutClosingFence
  simp only [ending, List.reverse_append, show fence.reverse = fence from rfl, starts, if_true]
  rw [List.drop_left, List.reverse_reverse]

private theorem withoutClosingFence_of_open {text : List Char} {last : Char}
    (isLast : (trimEnd text).getLast? = some last) (noFence : last ≠ '\x60') :
    withoutClosingFence text = text := by
  have other : fence.isPrefixOf (trimEnd text).reverse = false := by
    rw [← List.head?_reverse] at isLast
    cases ending : (trimEnd text).reverse with
    | nil => rfl
    | cons first rest =>
        rw [ending] at isLast
        cases isLast
        simp [fence, List.isPrefixOf, noFence.symm]
  unfold withoutClosingFence
  simp [other]

/-! ## Containers -/

private theorem isCore_of_container {json : List Char} (container : IsContainer json) :
    IsCore json := by
  obtain ⟨opening, inside, isOpening, rfl⟩ := container.brackets
  refine ⟨⟨opening, rfl, ?_⟩, ⟨closingBracket opening, ?_, ?_⟩⟩
  · rcases isOpening with rfl | rfl <;> decide
  · rw [← List.cons_append, List.getLast?_concat]
    rfl
  · rcases isOpening with rfl | rfl <;> decide

private theorem getLast?_append_container {json : List Char} (container : IsContainer json)
    (front : List Char) : ∃ last, (front ++ json).getLast? = some last ∧ last ≠ '\x60' := by
  obtain ⟨opening, inside, isOpening, rfl⟩ := container.brackets
  refine ⟨closingBracket opening, ?_, ?_⟩
  · rw [← List.cons_append, ← List.append_assoc, List.getLast?_concat]
  · rcases isOpening with rfl | rfl <;> decide

private theorem unfenced_container {json : List Char} (container : IsContainer json) :
    unfenced json = json := by
  have kept : trimmed json = json := by
    have bare : trimmed ([] ++ json ++ []) = json :=
      Text.trimmed_between (isCore_of_container container) (by simp) (by simp)
    rwa [List.append_nil, List.nil_append] at bare
  have noFence : fence.isPrefixOf json = false := by
    obtain ⟨opening, inside, isOpening, rfl⟩ := container.brackets
    rcases isOpening with rfl | rfl <;> rfl
  unfold unfenced
  simp [kept, noFence]

private theorem unfenced_fenced {json before tag left right closing after : List Char}
    (container : IsContainer json) (oneLine : '\n' ∉ tag) (closed : closing = [] ∨ closing = fence)
    (blank : ∀ character ∈ before ++ left ++ right ++ after, isBlank character) :
    unfenced (before ++ fence ++ tag ++ '\n' :: left ++ json ++ right ++ closing ++ after) = json := by
  have isCore := isCore_of_container container
  simp only [List.forall_mem_append] at blank
  obtain ⟨⟨⟨blankBefore, blankLeft⟩, blankRight⟩, blankAfter⟩ := blank
  rcases closed with rfl | rfl
  · have whole : trimmed (before ++ (fence ++ (tag ++ '\n' :: left) ++ json) ++ (right ++ after)) =
        fence ++ (tag ++ '\n' :: left) ++ json :=
      Text.trimmed_between (isCore_fence.append _ isCore) blankBefore
        (List.forall_mem_append.mpr ⟨blankRight, blankAfter⟩)
    have inside : withoutClosingFence (left ++ json) = left ++ json := by
      obtain ⟨last, isLast, noFence⟩ := getLast?_append_container container left
      have ending := Text.trimEnd_append isCore left []
      rw [List.append_nil, show trimEnd [] = [] from rfl, List.append_nil] at ending
      exact withoutClosingFence_of_open (by rwa [ending]) noFence
    have bare : trimmed (left ++ json ++ []) = json :=
      Text.trimmed_between isCore blankLeft (by simp)
    rw [List.append_nil, ← inside] at bare
    refine Eq.trans ?_ bare
    exact unfenced_of_fence oneLine (by simpa using whole)
  · have whole : trimmed
        (before ++ (fence ++ (tag ++ '\n' :: (left ++ json ++ right)) ++ fence) ++ after) =
        fence ++ (tag ++ '\n' :: (left ++ json ++ right)) ++ fence :=
      Text.trimmed_between (isCore_fence.append _ isCore_fence) blankBefore blankAfter
    have bare := Text.trimmed_between isCore blankLeft blankRight
    rw [← withoutClosingFence_of_closed (left ++ json ++ right)] at bare
    refine Eq.trans ?_ bare
    exact unfenced_of_fence oneLine (by simpa using whole)

/-! ## Prose -/

/-- The first opening bracket and the last closing one of its kind are those of the container. -/
theorem embedded?_container {json before after : List Char} (container : IsContainer json)
    (noArray : '[' ∉ before) (noObject : '\x7b' ∉ before)
    (notClosed : ∀ opening ∈ json.head?, closingBracket opening ∉ after) :
    embedded? (before ++ json ++ after) = some json := by
  obtain ⟨opening, inside, isOpening, rfl⟩ := container.brackets
  have passed : ∀ character ∈ before, decide (character ≠ '[' ∧ character ≠ '\x7b') := by
    intro character member
    refine decide_eq_true ⟨fun same => noArray (same ▸ member), fun same => noObject (same ▸ member)⟩
  have behind : ∀ character ∈ after.reverse, decide (character ≠ closingBracket opening) := by
    intro character member
    refine decide_eq_true fun same => notClosed opening rfl ?_
    exact same ▸ List.mem_reverse.mp member
  have stops : decide (opening ≠ '[' ∧ opening ≠ '\x7b') = false := by
    rcases isOpening with rfl | rfl <;> decide
  have front : (before ++ opening :: (inside ++ [closingBracket opening]) ++ after).dropWhile
      (fun character => decide (character ≠ '[' ∧ character ≠ '\x7b')) =
      opening :: (inside ++ [closingBracket opening] ++ after) := by
    rw [List.append_assoc, List.dropWhile_append_of_pos passed, List.cons_append,
      List.dropWhile_cons_of_neg (by simp [stops])]
  have back : (inside ++ [closingBracket opening] ++ after).reverse.dropWhile
      (fun character => decide (character ≠ closingBracket opening)) =
      closingBracket opening :: inside.reverse := by
    rw [List.reverse_append, List.dropWhile_append_of_pos behind, List.reverse_append,
      List.reverse_singleton, List.singleton_append, List.dropWhile_cons_of_neg (by simp)]
  unfold embedded?
  rw [front]
  dsimp only
  rw [show (if opening = '[' then ']' else '\x7d') = closingBracket opening from rfl, back]
  simp

/-! ## Results -/

def resultOf (json : List Char) : Except StructuredFailure Json :=
  match Json.readCanonical? (String.ofList json) with
  | some value => .ok value
  | none => .error .invalidJson

private theorem read_of_embedded {text json : List Char} (nonempty : unfenced text ≠ [])
    (found : embedded? (unfenced text) = some json)
    (alone : unfenced text = json ∨ Json.readCanonical? (String.ofList (unfenced text)) = none) :
    read (String.ofList text) = resultOf json := by
  unfold read resultOf
  simp only [String.toList_ofList, nonempty, if_false, found]
  rcases alone with same | unreadable
  · rw [same]
    cases reads : Json.readCanonical? (String.ofList json) with
    | some value => rfl
    | none => simp [reads]
  · rw [unreadable]
    rfl

private theorem read_container {json : List Char} (container : IsContainer json) :
    read (String.ofList json) = resultOf json := by
  have bare := unfenced_container container
  have nonempty : json ≠ [] := by
    obtain ⟨opening, inside, _, rfl⟩ := container.brackets
    exact List.cons_ne_nil _ _
  refine read_of_embedded ?_ ?_ (.inl bare)
  · rwa [bare]
  · have whole : embedded? ([] ++ json ++ []) = some json :=
      embedded?_container container (by simp) (by simp) (by simp)
    rw [List.append_nil, List.nil_append] at whole
    rwa [bare]

private theorem read_wrapped {json text : List Char} (container : IsContainer json)
    (wraps : Wraps json text) : read (String.ofList text) = read (String.ofList json) := by
  cases wraps with
  | fence oneLine closed blank =>
      have inside := unfenced_fenced container oneLine closed blank
      have alone := unfenced_container container
      unfold read
      rw [String.toList_ofList, String.toList_ofList, inside, alone]
  | @prose before after noArray noObject notClosed noFence notAlone =>
      have body : unfenced (before ++ json ++ after) = trimmed (before ++ json ++ after) := by
        unfold unfenced
        rw [if_neg (fun starts => noFence (List.isPrefixOf_iff_prefix.mp starts))]
      have cut : trimmed (before ++ json ++ after) = trimStart before ++ json ++ trimEnd after :=
        Text.trimmed_append (isCore_of_container container) before after
      have front : ∀ character, character ∈ trimStart before → character ∈ before :=
        fun _ member => (List.dropWhile_suffix isBlank).mem member
      have back : ∀ character, character ∈ trimEnd after → character ∈ after := by
        intro character member
        rw [trimEnd, List.mem_reverse] at member
        exact List.mem_reverse.mp ((List.dropWhile_suffix isBlank).mem member)
      have found : embedded? (unfenced (before ++ json ++ after)) = some json := by
        rw [body, cut]
        exact embedded?_container container (fun member => noArray (front _ member))
          (fun member => noObject (front _ member))
          fun opening isOpening member => notClosed opening isOpening (back _ member)
      have nonempty : unfenced (before ++ json ++ after) ≠ [] := by
        intro nothing
        rw [nothing] at found
        cases found
      rw [read_of_embedded nonempty found (.inr (body ▸ notAlone)), read_container container]

/-- Whatever is asked for, a JSON array or object in a code fence or in prose gives the same result
as on its own: what its value is decoded to, or the same fault. -/
theorem readAs_wrapped {json text : List Char} (container : IsContainer json)
    (wraps : Wraps json text) (decode : Json → Option α) :
    readAs decode (String.ofList text) = readAs decode (String.ofList json) ∧
      ∀ value, Json.readCanonical? (String.ofList json) = some value →
        readAs decode (String.ofList text) =
          (decode value).elim (.error .unexpectedShape) .ok := by
  have same : readAs decode (String.ofList text) = readAs decode (String.ofList json) := by
    unfold readAs
    rw [read_wrapped container wraps]
  refine ⟨same, fun value reads => ?_⟩
  rw [same]
  unfold readAs
  rw [read_container container, resultOf, reads]
  cases decoded : decode value with
  | none => simp [decoded, bind, Except.bind]
  | some result => simp [decoded, bind, Except.bind]

/-- A bracket and a backtick within a string do not end the array. -/
theorem readAs_wrapped_quoted_marks :
    let json := ['[', '"', ']', '\x60', '"', ']']
    let fenced := [' '] ++ fence ++ ['j'] ++ ['\n'] ++ json ++ ['\n'] ++ fence ++ ['\n']
    let prose := ['A', ':', ' '] ++ json ++ ['.']
    IsContainer json ∧ Wraps json fenced ∧ Wraps json prose ∧
      readAs (Json.list? Json.string?) (String.ofList fenced) = .ok ["]\x60"] ∧
      readAs (Json.list? Json.string?) (String.ofList prose) = .ok ["]\x60"] := by
  intro json fenced prose
  have container : IsContainer json := by
    refine ⟨by cbv, .inl rfl, fun last isLast => ?_⟩
    cases isLast
    decide
  have inFence : Wraps json fenced :=
    @Wraps.fence json [' '] ['j'] [] ['\n'] fence ['\n'] (by decide) (.inr rfl)
      (List.all_eq_true.mp (by decide))
  have inProse : Wraps json prose :=
    .prose (by decide) (by decide) (fun opening isOpening => by cases isOpening; decide) (by decide)
      (by cbv)
  have reads : Json.readCanonical? (String.ofList json) = some (.array [.string "]\x60"]) := by cbv
  refine ⟨container, inFence, inProse, ?_, ?_⟩
  · exact (readAs_wrapped container inFence _).2 _ reads
  · exact (readAs_wrapped container inProse _).2 _ reads

end GroundedAnswers.StructuredOutput
