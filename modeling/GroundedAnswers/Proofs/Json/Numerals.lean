import GroundedAnswers.Json.Lexer
import GroundedAnswers.Proofs.Number.Digits

namespace GroundedAnswers.Json

open Number

/-! Numerals in the form that JSON allows are read back from their text. -/

/-- No zeros in front, digits behind a point, and digits in an exponent. -/
structure IsStrict (numeral : Numeral) : Prop where
  whole : numeral.whole = [0] ∨ ∃ first, numeral.whole.head? = some first ∧ first ≠ 0
  wholeDigits : ∀ digit ∈ numeral.whole, digit < 10
  fraction : ∀ digits, numeral.fraction = some digits →
    digits ≠ [] ∧ ∀ digit ∈ digits, digit < 10
  exponent : ∀ exponent, numeral.exponent = some exponent →
    exponent.digits ≠ [] ∧ ∀ digit ∈ exponent.digits, digit < 10

/-- A text that does not go on with a numeral. -/
structure EndsNumeral (text : List Char) : Prop where
  noDigit : NoDigit text
  noPoint : text.head? ≠ some '.'
  noExponent : text.head? ≠ some 'e' ∧ text.head? ≠ some 'E'

def fractionText : Option (List Nat) → List Char
  | some digits => '.' :: digitCharacters digits
  | none => []

def exponentText : Option Exponent → List Char
  | some exponent =>
      'e' :: (if exponent.negative then '-' else '+') :: digitCharacters exponent.digits
  | none => []

private theorem toList_numeralText (numeral : Numeral) :
    (numeralText numeral).toList = (if numeral.negative then ['-'] else []) ++
      (digitCharacters numeral.whole ++
        (fractionText numeral.fraction ++ exponentText numeral.exponent)) := by
  unfold numeralText
  rw [String.toList_ofList, List.append_assoc, List.append_assoc]
  rfl

/-! ## The parts of a numeral -/

private theorem someDigits?_append {digits : List Nat} {rest : List Char} (some : digits ≠ [])
    (small : ∀ digit ∈ digits, digit < 10) (noDigit : NoDigit rest) :
    someDigits? (digitCharacters digits ++ rest) = .some (digits, rest) := by
  unfold someDigits?
  rw [leadingDigits_append small noDigit]
  cases digits with
  | nil => exact absurd rfl some
  | cons digit digits => rfl

private theorem wholeDigits?_append {numeral : Numeral} {rest : List Char}
    (strict : IsStrict numeral) (noDigit : NoDigit rest) :
    wholeDigits? (digitCharacters numeral.whole ++ rest) = some (numeral.whole, rest) := by
  rcases strict.whole with zero | ⟨first, isFirst, nonzero⟩
  · rw [zero]
    rfl
  · cases whole : numeral.whole with
    | nil =>
        rw [whole] at isFirst
        cases isFirst
    | cons digit digits =>
        rw [whole] at isFirst
        cases isFirst
        have small := strict.wholeDigits
        rw [whole] at small
        have read := someDigits?_append (List.cons_ne_nil first digits) small noDigit
        unfold wholeDigits?
        split
        · rename_i zero
          have isZero : Char.ofNat ('0'.toNat + first) = '0' := (List.cons.inj zero).1
          have same := digitOf?_digitCharacter (small first List.mem_cons_self)
          rw [isZero] at same
          exact absurd (Option.some.inj same).symm nonzero
        · exact read

private theorem fractionDigits?_append {fraction : Option (List Nat)} {rest : List Char}
    (strict : ∀ digits, fraction = some digits → digits ≠ [] ∧ ∀ digit ∈ digits, digit < 10)
    (noDigit : NoDigit rest) (noPoint : rest.head? ≠ some '.') :
    fractionDigits? (fractionText fraction ++ rest) = some (fraction, rest) := by
  cases fraction with
  | none =>
      cases rest with
      | nil => rfl
      | cons character rest =>
          unfold fractionText fractionDigits?
          split
          · rename_i same
            simp at same
            exact absurd (congrArg some same.1) noPoint
          · rfl
  | some digits =>
      obtain ⟨nonempty, small⟩ := strict digits rfl
      simp only [fractionText, List.cons_append, fractionDigits?,
        someDigits?_append nonempty small noDigit]
      rfl

private theorem exponentPart?_append {exponent : Option Exponent} {rest : List Char}
    (strict : ∀ found, exponent = some found →
      found.digits ≠ [] ∧ ∀ digit ∈ found.digits, digit < 10)
    (ends : EndsNumeral rest) :
    exponentPart? (exponentText exponent ++ rest) = some (exponent, rest) := by
  cases exponent with
  | none =>
      cases rest with
      | nil => rfl
      | cons character rest =>
          have noMark : ¬(character = 'e' ∨ character = 'E') := by
            rintro (rfl | rfl)
            · exact ends.noExponent.1 rfl
            · exact ends.noExponent.2 rfl
          simp only [exponentText, List.nil_append, exponentPart?, noMark, if_false]
  | some exponent =>
      obtain ⟨nonempty, small⟩ := strict exponent rfl
      have read := someDigits?_append nonempty small ends.noDigit
      rcases exponent with ⟨negative, digits⟩
      cases negative <;>
        simp [exponentText, exponentPart?, signOf, read]

/-! ## Numerals -/

private theorem noDigit_fractionText {rest : List Char} (fraction : Option (List Nat))
    (noDigit : NoDigit rest) : NoDigit (fractionText fraction ++ rest) := by
  cases fraction with
  | none => exact noDigit
  | some digits => exact fun character same => by cases same; rfl

private theorem noDigit_exponentText {rest : List Char} (exponent : Option Exponent)
    (noDigit : NoDigit rest) : NoDigit (exponentText exponent ++ rest) := by
  cases exponent with
  | none => exact noDigit
  | some exponent => exact fun character same => by cases same; rfl

private theorem noPoint_exponentText {rest : List Char} (exponent : Option Exponent)
    (noPoint : rest.head? ≠ some '.') : (exponentText exponent ++ rest).head? ≠ some '.' := by
  cases exponent with
  | none => exact noPoint
  | some exponent => exact fun same => by cases same

private theorem unsignedNumeral?_append {numeral : Numeral} {rest : List Char}
    (strict : IsStrict numeral) (ends : EndsNumeral rest) :
    unsignedNumeral? numeral.negative (digitCharacters numeral.whole ++
      (fractionText numeral.fraction ++ exponentText numeral.exponent) ++ rest) =
      some (numeral, rest) := by
  have noDigit := noDigit_exponentText numeral.exponent ends.noDigit
  have noPoint := noPoint_exponentText numeral.exponent ends.noPoint
  unfold unsignedNumeral?
  rw [List.append_assoc, List.append_assoc,
    wholeDigits?_append strict (noDigit_fractionText _ noDigit)]
  simp only [Option.bind_eq_bind, Option.bind_some,
    fractionDigits?_append strict.fraction noDigit noPoint, exponentPart?_append strict.exponent ends]
  rfl

private theorem whole_ne_nil {numeral : Numeral} (strict : IsStrict numeral) :
    numeral.whole ≠ [] := by
  rcases strict.whole with zero | ⟨first, isFirst, _⟩
  · simp [zero]
  · exact fun none => by rw [none] at isFirst; cases isFirst

private theorem exists_head_numeralText {numeral : Numeral} (strict : IsStrict numeral) :
    ∃ first others, (numeralText numeral).toList = first :: others ∧
      (first = '-' ∧ numeral.negative ∨ first.isDigit ∧ !numeral.negative) := by
  rw [toList_numeralText]
  cases negative : numeral.negative with
  | true => exact ⟨'-', _, rfl, .inl ⟨rfl, rfl⟩⟩
  | false =>
      cases whole : numeral.whole with
      | nil => exact absurd whole (whole_ne_nil strict)
      | cons digit digits =>
          have small := strict.wholeDigits digit (by rw [whole]; exact List.mem_cons_self)
          refine ⟨_, _, rfl, .inr ⟨isDigit_of_digitOf? (digitOf?_digitCharacter small), rfl⟩⟩

private theorem numeral?_append {numeral : Numeral} {rest : List Char} (strict : IsStrict numeral)
    (ends : EndsNumeral rest) :
    numeral? ((numeralText numeral).toList ++ rest) = some (numeral, rest) := by
  have read := unsignedNumeral?_append strict ends
  obtain ⟨first, others, whole, isFirst⟩ := exists_head_numeralText strict
  rcases isFirst with ⟨_, negative⟩ | ⟨isDigit, positive⟩
  · rw [toList_numeralText, if_pos negative]
    rw [negative] at read
    exact read
  · have unsigned : numeral.negative = false := by simpa using positive
    have text := toList_numeralText numeral
    simp only [unsigned, Bool.false_eq_true, if_false, List.nil_append] at text
    rw [unsigned, ← text, whole] at read
    rw [whole]
    unfold numeral?
    split
    · rename_i signed
      cases signed
      cases isDigit
    · exact read

theorem tokens?_numeral {numeral : Numeral} {rest : List Char} (strict : IsStrict numeral)
    (ends : EndsNumeral rest) :
    tokens? ((numeralText numeral).toList ++ rest) =
      (tokens? rest).map (.number numeral :: ·) := by
  have read := numeral?_append strict ends
  obtain ⟨first, others, whole, isFirst⟩ := exists_head_numeralText strict
  rw [whole, List.cons_append] at read ⊢
  rw [tokens?]
  · rw [read]
  -- No other token starts with a minus sign or a digit.
  all_goals
    intros
    subst first
    simp [Char.isDigit] at isFirst

end GroundedAnswers.Json
