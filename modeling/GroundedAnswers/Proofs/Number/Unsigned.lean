import GroundedAnswers.Proofs.Number.Digits

namespace GroundedAnswers.Number

/-! Which texts are read as a whole number that is not negative. The bound is checked digit by
digit, but as digits only ever add to a number, that decides like a look at the number as a whole.
-/

structure AreDigitsOf (greatest : Nat) (start : Nat) (digits : List Char) (value : Int) : Prop where
  areDigits : ∀ character ∈ digits, character.isDigit
  read : value = Nat.ofDigitChars 10 digits start
  fits : value ≤ greatest

private theorem le_ofDigitChars (digits : List Char) (start : Nat) :
    start ≤ Nat.ofDigitChars 10 digits start := by
  induction digits generalizing start with
  | nil => simp
  | cons character rest induction =>
      rw [Nat.ofDigitChars_cons]
      have further := induction (10 * start + (character.toNat - '0'.toNat))
      omega

variable {greatest : Nat} {value : Int}

private theorem areDigitsOf_cons {start : Nat} {character : Char} {rest : List Char} :
    AreDigitsOf greatest start (character :: rest) value ↔ character.isDigit ∧
      AreDigitsOf greatest (10 * start + (character.toNat - '0'.toNat)) rest value := by
  constructor
  · rintro ⟨areDigits, read, fits⟩
    rw [List.forall_mem_cons] at areDigits
    exact ⟨areDigits.1, areDigits.2, read.trans (by rw [Nat.ofDigitChars_cons]), fits⟩
  · rintro ⟨isDigit, areDigits, read, fits⟩
    exact ⟨List.forall_mem_cons.mpr ⟨isDigit, areDigits⟩,
      read.trans (by rw [Nat.ofDigitChars_cons]), fits⟩

private theorem collect_eq_ok_iff {start : Nat} (fits : start ≤ greatest) {digits : List Char} :
    readWhole.collect 0 greatest (fun value digit => 10 * value + digit) .tooLarge start digits =
        .ok value ↔
      AreDigitsOf greatest start digits value := by
  induction digits generalizing start with
  | nil =>
      rw [readWhole.collect, Except.ok.injEq]
      constructor
      · rintro rfl
        exact ⟨nofun, rfl, Int.ofNat_le.mpr fits⟩
      · intro digits
        exact digits.read.symm
  | cons character rest induction =>
      rw [readWhole.collect, areDigitsOf_cons]
      by_cases isDigit : character.isDigit
      · have read : digitOf? character = some (character.toNat - '0'.toNat) := if_pos isDigit
        simp only [read, isDigit, true_and]
        generalize character.toNat - '0'.toNat = digit
        have following : 10 * (start : Int) + digit = (10 * start + digit : Nat) := by simp
        rw [following]
        by_cases within : 10 * start + digit ≤ greatest
        · rw [if_pos (by omega), induction within]
        · rw [if_neg (by omega)]
          refine iff_of_false nofun fun digits => ?_
          have further := le_ofDigitChars rest (10 * start + digit)
          have bounded := digits.read ▸ digits.fits
          omega
      · have read : digitOf? character = none := if_neg isDigit
        simp [read, isDigit]

/-- Decimal digits, maybe behind a plus sign, for a number up to a bound. -/
def IsUnsigned (greatest : Nat) (text : List Char) (value : Int) : Prop :=
  ∃ digits, (text = digits ∨ text = '+' :: digits) ∧ digits ≠ [] ∧
    AreDigitsOf greatest 0 digits value

private theorem isUnsigned_plus {digits : List Char} :
    IsUnsigned greatest ('+' :: digits) value ↔ digits ≠ [] ∧ AreDigitsOf greatest 0 digits value := by
  constructor
  · rintro ⟨written, rfl | same, some, read⟩
    · exact absurd (read.areDigits '+' List.mem_cons_self) (by decide)
    · cases same
      exact ⟨some, read⟩
  · intro read
    exact ⟨digits, .inr rfl, read⟩

private theorem isUnsigned_of_noPlus {text : List Char} (noPlus : ∀ digits, text ≠ '+' :: digits) :
    IsUnsigned greatest text value ↔ text ≠ [] ∧ AreDigitsOf greatest 0 text value := by
  constructor
  · rintro ⟨written, rfl | same, read⟩
    · exact read
    · exact absurd same (noPlus written)
  · intro read
    exact ⟨text, .inl rfl, read⟩

theorem readWhole_eq_ok_iff {text : String} :
    readWhole 0 greatest text = .ok value ↔ IsUnsigned greatest text.toList value := by
  unfold readWhole
  generalize text.toList = characters
  split
  · simp [isUnsigned_of_noPlus]
  · simp [isUnsigned_plus]
  · simp [isUnsigned_of_noPlus, areDigitsOf_cons]
  · simp [isUnsigned_of_noPlus, areDigitsOf_cons]
  · rename_i digits nonempty
    rw [isUnsigned_plus, and_iff_right nonempty]
    exact collect_eq_ok_iff (Nat.zero_le greatest)
  · rename_i nonempty _ _ _ noPlus
    rw [isUnsigned_of_noPlus noPlus, and_iff_right nonempty]
    exact collect_eq_ok_iff (Nat.zero_le greatest)

end GroundedAnswers.Number
