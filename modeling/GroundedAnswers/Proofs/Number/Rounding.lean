import GroundedAnswers.Proofs.Number.Packing

namespace GroundedAnswers.Number

open Float.Model (Format UnpackedFloat totalExponent)
open Float.Model.UnpackedFloat

/-! Rounding to single precision. A significand that is long enough is cut to the bits of the format
and rounded; a carry beyond them makes the next power of two. -/

def targetOf (mantissa : Nat) (exponent : Int) : Int :=
  max (mantissa.log2 + exponent - 23) (-149)

private theorem targetExponent_eq (mantissa : Nat) (exponent : Int) :
    Format.binary32.targetExponent (totalExponent mantissa exponent) =
      targetOf mantissa exponent := by
  have least : Format.binary32.minExponent = -149 := rfl
  have width : (Format.binary32.mantissaBits : Int) = 24 := rfl
  rw [Format.targetExponent, totalExponent, least, width, targetOf]
  congr 1
  omega

private theorem shiftToTargetExponent_eq (mantissa : Nat) (exponent : Int) (accuracy : Accuracy) :
    shiftToTargetExponent Format.binary32 mantissa exponent accuracy =
      (ExtendedMantissa.ofMantissaAndAccuracy mantissa accuracy >>>
        (targetOf mantissa exponent - exponent).toNat,
          max exponent (targetOf mantissa exponent)) := by
  have reached : exponent + (targetOf mantissa exponent - exponent).toNat =
      max exponent (targetOf mantissa exponent) := by
    omega
  rw [shiftToTargetExponent, targetExponent_eq, shiftToExponent, reached]

def roundedOf (mantissa : Nat) (exponent : Int) (accuracy : Accuracy) : Nat :=
  (ExtendedMantissa.ofMantissaAndAccuracy mantissa accuracy >>>
    (targetOf mantissa exponent - exponent).toNat).roundedMantissa

inductive RoundsTo (sign : Sign) (target : Int) : Nat → UnpackedFloat → Prop
  | zero : RoundsTo sign target 0 (.zero sign)
  | kept {rounded : Nat} (positive : 0 < rounded) (bits : rounded < 2 ^ 24) :
      RoundsTo sign target rounded (.finite sign rounded target positive)
  | carried : RoundsTo sign target (2 ^ 24) (.finite sign (2 ^ 23) (target + 1) (by decide))

private theorem shift_kept {rounded : Nat} {target : Int} (bits : rounded < 2 ^ 24)
    (least : -149 ≤ target) :
    shiftToTargetExponent Format.binary32 rounded target .exact =
      (⟨rounded, false, false⟩, target) := by
  have short : rounded.log2 ≤ 23 := by
    by_cases none : rounded = 0
    · subst none
      decide
    · exact Nat.le_of_lt_succ ((Nat.log2_lt none).mpr bits)
  have count : (targetOf rounded target - target).toNat = 0 := by
    unfold targetOf
    omega
  rw [shiftToTargetExponent, targetExponent_eq, shiftToExponent, count]
  exact congrArg (Prod.mk _) (Int.add_zero target)

private theorem shift_carried {target : Int} (least : -149 ≤ target) :
    shiftToTargetExponent Format.binary32 (2 ^ 24) target .exact =
      (⟨2 ^ 23, false, false⟩, target + 1) := by
  have next : targetOf (2 ^ 24) target = target + 1 := by
    rw [targetOf, Nat.log2_two_pow]
    omega
  have count : (targetOf (2 ^ 24) target - target).toNat = 1 := by omega
  rw [shiftToTargetExponent, targetExponent_eq, shiftToExponent, count]
  rfl

section

variable {mantissa : Nat} {exponent : Int} {accuracy : Accuracy}

private theorem quotient_lt (mantissa : Nat) (exponent : Int) :
    mantissa / 2 ^ (targetOf mantissa exponent - exponent).toNat < 2 ^ 24 := by
  by_cases none : mantissa = 0
  · rw [none, Nat.zero_div]
    decide
  · rw [Nat.div_lt_iff_lt_mul (Nat.two_pow_pos _), ← Nat.pow_add, ← Nat.log2_lt none]
    unfold targetOf
    omega

theorem roundedOf_cases (mantissa : Nat) (exponent : Int) (accuracy : Accuracy) :
    roundedOf mantissa exponent accuracy =
        mantissa / 2 ^ (targetOf mantissa exponent - exponent).toNat ∨
      roundedOf mantissa exponent accuracy =
        mantissa / 2 ^ (targetOf mantissa exponent - exponent).toNat + 1 := by
  have cases := roundedMantissa_cases (ExtendedMantissa.ofMantissaAndAccuracy mantissa accuracy >>>
    (targetOf mantissa exponent - exponent).toNat)
  rwa [mantissa_shiftRight, mantissa_ofMantissaAndAccuracy] at cases

theorem roundWithAccuracy_reaches (sign : Sign) (mantissa : Nat) (exponent : Int)
    (accuracy : Accuracy) :
    RoundsTo sign (max exponent (targetOf mantissa exponent))
      (roundedOf mantissa exponent accuracy)
      (roundWithAccuracy Format.binary32 sign mantissa exponent accuracy) := by
  have bounded := quotient_lt mantissa exponent
  have cases := roundedOf_cases mantissa exponent accuracy
  have least : -149 ≤ max exponent (targetOf mantissa exponent) := by
    unfold targetOf
    omega
  unfold roundWithAccuracy
  rw [shiftToTargetExponent_eq]
  dsimp only
  rw [← roundedOf]
  generalize roundedOf mantissa exponent accuracy = rounded at cases ⊢
  have within : rounded < 2 ^ 24 ∨ rounded = 2 ^ 24 := by omega
  rcases within with bits | carried
  · simp only [shift_kept bits least]
    split
    · rename_i none
      subst none
      exact .zero
    · rename_i some
      exact .kept (Nat.pos_of_ne_zero some) bits
  · subst carried
    simp only [shift_carried least]
    exact .carried

theorem roundWithAccuracy_roundsTo (sign : Sign) (long : exponent ≤ targetOf mantissa exponent)
    (accuracy : Accuracy) :
    RoundsTo sign (targetOf mantissa exponent) (roundedOf mantissa exponent accuracy)
      (roundWithAccuracy Format.binary32 sign mantissa exponent accuracy) := by
  have reaches := roundWithAccuracy_reaches sign mantissa exponent accuracy
  rwa [max_eq_right long] at reaches

/-! ## Sizes after rounding -/

/-- A significand is cut to all bits of the format, unless its exponent is the least one. -/
theorem full_quotient (positive : 0 < mantissa) (long : exponent ≤ targetOf mantissa exponent) :
    2 ^ 23 ≤ mantissa / 2 ^ (targetOf mantissa exponent - exponent).toNat ∨
      targetOf mantissa exponent = -149 := by
  by_cases least : targetOf mantissa exponent = -149
  · exact .inr least
  · have size : 23 + (targetOf mantissa exponent - exponent).toNat = mantissa.log2 := by
      unfold targetOf at least long ⊢
      omega
    rw [Nat.le_div_iff_mul_le (Nat.two_pow_pos _), ← Nat.pow_add, size]
    exact .inl (Nat.log2_self_le (Nat.ne_of_gt positive))

theorem quotient_pos (positive : 0 < mantissa) (large : -149 ≤ mantissa.log2 + exponent) :
    0 < mantissa / 2 ^ (targetOf mantissa exponent - exponent).toNat := by
  have count : (targetOf mantissa exponent - exponent).toNat ≤ mantissa.log2 := by
    unfold targetOf
    omega
  apply Nat.div_pos _ (Nat.two_pow_pos _)
  exact Nat.le_trans (Nat.pow_le_pow_right (by decide) count)
    (Nat.log2_self_le (Nat.ne_of_gt positive))

variable {sign : Sign} {target : Int} {rounded : Nat} {value : UnpackedFloat}

/-- Below the largest exponent, no carry leads to infinity. -/
theorem RoundsTo.isFinite_stored (rounds : RoundsTo sign target rounded value)
    (small : target ≤ 103) : (stored value).isFinite := by
  cases rounds with
  | zero => exact isFinite_stored_zero sign
  | kept positive => exact Number.isFinite_stored positive (by omega)
  | carried => exact Number.isFinite_stored _ (by omega)

/-- A size becomes infinite exactly when its exponent is too large, maybe after a carry. -/
theorem RoundsTo.isInf_stored_iff (rounds : RoundsTo sign target rounded value) :
    (stored value).isInf ↔ (105 ≤ target ∧ rounded ≠ 0) ∨ (104 = target ∧ rounded = 2 ^ 24) := by
  cases rounds with
  | zero =>
      rw [stored_zero]
      simp [UnpackedFloat.isInf]
  | kept positive bits =>
      rw [Number.isInf_stored_iff]
      omega
  | carried =>
      rw [Number.isInf_stored_iff]
      omega

theorem RoundsTo.stored_eq (rounds : RoundsTo sign target rounded value) (least : -149 ≤ target)
    (small : target ≤ 103) (full : 2 ^ 23 ≤ rounded ∨ target = -149) : stored value = value := by
  cases rounds with
  | zero => exact stored_zero sign
  | kept positive bits => exact stored_of_fits positive ⟨bits, least, by omega, full⟩
  | carried => exact stored_of_fits _ ⟨by decide, by omega, by omega, .inl (by decide)⟩

theorem RoundsTo.stored_ne_zero (rounds : RoundsTo sign target rounded value)
    (least : -149 ≤ target) (full : 2 ^ 23 ≤ rounded ∨ target = -149) (some : rounded ≠ 0)
    (other : Sign) : stored value ≠ .zero other := by
  cases rounds with
  | zero => exact absurd rfl some
  | kept positive bits =>
      by_cases large : 105 ≤ target
      · rw [stored_of_large positive large]
        exact nofun
      · rw [stored_of_fits positive ⟨bits, least, by omega, full⟩]
        exact nofun
  | carried =>
      by_cases large : 105 ≤ target + 1
      · rw [stored_of_large _ large]
        exact nofun
      · rw [stored_of_fits _ ⟨by decide, by omega, by omega, .inl (by decide)⟩]
        exact nofun

/-! ## Carries -/

/-- An odd significand goes up exactly when the bit behind it is set. -/
theorem roundedMantissa_of_odd {extended : ExtendedMantissa} (odd : extended.mantissa % 2 = 1) :
    extended.roundedMantissa =
      if extended.roundBit then extended.mantissa + 1 else extended.mantissa := by
  rcases extended with ⟨mantissa, roundBit, stickyBit⟩
  cases roundBit <;> cases stickyBit
  · rfl
  · rfl
  · change mantissa + mantissa % 2 = mantissa + 1
    rw [show mantissa % 2 = 1 from odd]
  · rfl

private theorem roundBit_shiftRight (extended : ExtendedMantissa) (count : Nat) :
    (extended >>> (count + 1)).roundBit = (extended.mantissa / 2 ^ count % 2 != 0) := by
  rw [← mantissa_shiftRight]
  rfl

theorem roundedOf_eq_carry_iff {count : Nat}
    (length : (targetOf mantissa exponent - exponent).toNat = count + 1) :
    roundedOf mantissa exponent .exact = 2 ^ 24 ↔ 2 ^ 25 - 1 ≤ mantissa / 2 ^ count := by
  have bounded := quotient_lt mantissa exponent
  have cases := roundedOf_cases mantissa exponent .exact
  rw [length] at bounded cases
  have halves : mantissa / 2 ^ (count + 1) = mantissa / 2 ^ count / 2 := by
    rw [Nat.pow_succ, Nat.div_div_eq_div_mul]
  rw [halves] at bounded cases
  by_cases last : mantissa / 2 ^ count / 2 = 2 ^ 24 - 1
  · have cut : (ExtendedMantissa.ofMantissaAndAccuracy mantissa .exact >>> (count + 1)).mantissa =
        2 ^ 24 - 1 := by
      rw [mantissa_shiftRight, mantissa_ofMantissaAndAccuracy, halves, last]
    have odd : (ExtendedMantissa.ofMantissaAndAccuracy mantissa .exact >>> (count + 1)).mantissa %
        2 = 1 := by
      omega
    have rounds := roundedMantissa_of_odd odd
    rw [cut, roundBit_shiftRight, mantissa_ofMantissaAndAccuracy] at rounds
    rw [roundedOf, length, rounds]
    split
    · rename_i set
      have odd : mantissa / 2 ^ count % 2 ≠ 0 := by simpa using set
      omega
    · rename_i unset
      have even : mantissa / 2 ^ count % 2 = 0 := by simpa using unset
      omega
  · omega

end

end GroundedAnswers.Number
