import GroundedAnswers.Json.Writer
import GroundedAnswers.Number.Numeral

namespace GroundedAnswers.Number

/-! Digits are read back as they were written, and so are whole numbers. -/

open Json (digitCharacters)

theorem digitOf?_digitCharacter {digit : Nat} (small : digit < 10) :
    digitOf? (Char.ofNat ('0'.toNat + digit)) = some digit := by
  have all : ∀ digit < 10, digitOf? (Char.ofNat ('0'.toNat + digit)) = some digit := by decide
  exact all digit small

theorem isDigit_of_digitOf? {character : Char} {digit : Nat} (read : digitOf? character = some digit) :
    character.isDigit := by
  unfold digitOf? at read
  split at read
  · assumption
  · cases read

theorem digitOf?_lt {character : Char} {digit : Nat} (read : digitOf? character = some digit) :
    digit < 10 := by
  have isDigit := isDigit_of_digitOf? read
  unfold digitOf? at read
  rw [if_pos isDigit] at read
  cases read
  simp only [Char.isDigit, Bool.and_eq_true, decide_eq_true_eq] at isDigit
  have upper : character.toNat ≤ '9'.toNat := isDigit.2
  simp only [Char.reduceToNat] at upper ⊢
  omega

def NoDigit (text : List Char) : Prop :=
  ∀ character, text.head? = some character → digitOf? character = none

theorem leadingDigits_of_noDigit {text : List Char} (noDigit : NoDigit text) :
    leadingDigits text = ([], text) := by
  cases text with
  | nil => rfl
  | cons character rest => simp [leadingDigits, noDigit character rfl]

theorem leadingDigits_append {digits : List Nat} {rest : List Char}
    (small : ∀ digit ∈ digits, digit < 10) (noDigit : NoDigit rest) :
    leadingDigits (digitCharacters digits ++ rest) = (digits, rest) := by
  induction digits with
  | nil => exact leadingDigits_of_noDigit noDigit
  | cons digit digits induction =>
      rw [List.forall_mem_cons] at small
      have others := induction small.2
      unfold digitCharacters at others ⊢
      simp only [List.map_cons, List.cons_append, leadingDigits, digitOf?_digitCharacter small.1,
        others]

theorem leadingDigits_lt (text : List Char) : ∀ digit ∈ (leadingDigits text).1, digit < 10 := by
  induction text with
  | nil => simp [leadingDigits]
  | cons character rest induction =>
      simp only [leadingDigits]
      split
      · rename_i digit read
        exact List.forall_mem_cons.mpr ⟨digitOf?_lt read, induction⟩
      · simp

/-! ## Digits of a number -/

def digitsOf (number : Nat) : List Nat :=
  (Nat.toDigits 10 number).map fun character => character.toNat - '0'.toNat

theorem digitsValue_digitsOf (number : Nat) : digitsValue (digitsOf number) = number := by
  unfold digitsValue digitsOf
  rw [List.foldl_map]
  have read := Nat.ofDigitChars_ten_toDigits (n := number)
  rwa [Nat.ofDigitChars_eq_foldl] at read

theorem digitsOf_of_lt {number : Nat} (small : number < 10) : digitsOf number = [number] := by
  have all : ∀ number < 10, digitsOf number = [number] := by decide
  exact all number small

private theorem digitsOf_of_ge {number : Nat} (large : 10 ≤ number) :
    digitsOf number = digitsOf (number / 10) ++ digitsOf (number % 10) := by
  have small : number % 10 < 10 := Nat.mod_lt _ (by decide)
  unfold digitsOf
  rw [Nat.toDigits_of_base_le (by decide) large, Nat.toDigits_of_lt_base small, List.map_append]

theorem digitsOf_lt (number : Nat) : ∀ digit ∈ digitsOf number, digit < 10 := by
  induction number using Nat.strongRecOn with
  | ind number induction =>
      by_cases small : number < 10
      · rw [digitsOf_of_lt small]
        simpa using small
      · rw [digitsOf_of_ge (Nat.le_of_not_lt small), List.forall_mem_append]
        exact ⟨induction _ (by omega), induction _ (by omega)⟩

theorem head?_digitsOf {number : Nat} (positive : 0 < number) :
    ∃ first, (digitsOf number).head? = some first ∧ first ≠ 0 := by
  induction number using Nat.strongRecOn with
  | ind number induction =>
      by_cases small : number < 10
      · exact ⟨number, by rw [digitsOf_of_lt small]; rfl, by omega⟩
      · obtain ⟨first, isFirst, nonzero⟩ := induction (number / 10) (by omega) (by omega)
        refine ⟨first, ?_, nonzero⟩
        rw [digitsOf_of_ge (Nat.le_of_not_lt small), List.head?_append, isFirst]
        rfl

end GroundedAnswers.Number
