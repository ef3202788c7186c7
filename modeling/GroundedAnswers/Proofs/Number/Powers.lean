import GroundedAnswers.Number.Numeral
import Mathlib

namespace GroundedAnswers.Number

open Float.Model (Format UnpackedFloat totalExponent)
open Float.Model.UnpackedFloat

/-! Powers of ten in double precision. None that a numeral is scaled by is zero or too large for the
format. -/

/-! ## Rounding -/

theorem mantissa_shiftRight (mantissa : ExtendedMantissa) (count : Nat) :
    (mantissa >>> count).mantissa = mantissa.mantissa / 2 ^ count := by
  induction count with
  | zero => exact (Nat.div_one _).symm
  | succ count induction =>
      have step : (mantissa >>> (count + 1)).mantissa = (mantissa >>> count).mantissa / 2 := rfl
      rw [step, induction, Nat.div_div_eq_div_mul, Nat.pow_succ]

theorem mantissa_ofMantissaAndAccuracy (mantissa : Nat) (accuracy : Accuracy) :
    (ExtendedMantissa.ofMantissaAndAccuracy mantissa accuracy).mantissa = mantissa := by
  rcases accuracy with _ | order
  · rfl
  · cases order <;> rfl

theorem roundedMantissa_cases (mantissa : ExtendedMantissa) :
    mantissa.roundedMantissa = mantissa.mantissa ∨
      mantissa.roundedMantissa = mantissa.mantissa + 1 := by
  unfold ExtendedMantissa.roundedMantissa
  rcases mantissa.accuracy with _ | order
  · exact .inl rfl
  · cases order with
    | lt => exact .inl rfl
    | gt => exact .inr rfl
    | eq =>
        have even : Accuracy.roundToNearestEven mantissa.mantissa (.inexact .eq) =
            mantissa.mantissa + mantissa.mantissa % 2 := rfl
        omega

/-- A number that uses all bits of a significand, with an exponent that the format has. -/
def IsNormal (value : UnpackedFloat) : Prop :=
  ∃ sign mantissa exponent positive, value = .finite sign mantissa exponent positive ∧
    mantissa.log2 = 52 ∧ -1074 ≤ exponent ∧ exponent ≤ 971

section

variable {mantissa : Nat} {exponent : Int}

private theorem shiftToTargetExponent_of_long (long : 52 ≤ mantissa.log2)
    (normal : -1074 ≤ exponent) (accuracy : Accuracy) :
    let shifted := shiftToTargetExponent Format.binary64 mantissa exponent accuracy
    shifted.1.mantissa = mantissa / 2 ^ (mantissa.log2 - 52) ∧
      shifted.2 = exponent + (mantissa.log2 - 52 : Nat) := by
  have count : (Format.binary64.targetExponent (totalExponent mantissa exponent) -
      exponent).toNat = mantissa.log2 - 52 := by
    have least : Format.binary64.minExponent = -1074 := rfl
    have width : (Format.binary64.mantissaBits : Int) = 53 := rfl
    rw [Format.targetExponent, totalExponent, least, width]
    omega
  intro shifted
  have shiftedIs : shifted =
      (ExtendedMantissa.ofMantissaAndAccuracy mantissa accuracy >>> (mantissa.log2 - 52),
        exponent + (mantissa.log2 - 52 : Nat)) := by
    change shiftToExponent _ _ _ _ = _
    rw [shiftToExponent, count]
  rw [shiftedIs]
  refine ⟨?_, rfl⟩
  rw [mantissa_shiftRight, mantissa_ofMantissaAndAccuracy]

private theorem log2_div_eq (long : 52 ≤ mantissa.log2) :
    (mantissa / 2 ^ (mantissa.log2 - 52)).log2 = 52 := by
  rw [Nat.log2_eq_log_two, Nat.log2_eq_log_two, Nat.log_div_base_pow]
  rw [Nat.log2_eq_log_two] at long
  omega

/-- A significand that is rounded up may take one bit more than the format has. -/
theorem log2_of_rounded {rounded quotient : Nat} (fits : quotient.log2 = 52)
    (cases : rounded = quotient ∨ rounded = quotient + 1) :
    52 ≤ rounded.log2 ∧ rounded.log2 ≤ 53 := by
  have positive : quotient ≠ 0 := by
    rintro rfl
    cases fits
  rw [Nat.log2_eq_iff positive] at fits
  have nonzero : rounded ≠ 0 := by omega
  exact ⟨(Nat.le_log2 nonzero).mpr (by omega),
    Nat.le_of_lt_succ ((Nat.log2_lt nonzero).mpr (by omega))⟩

private theorem roundWithAccuracy_isNormal (sign : Sign) (accuracy : Accuracy)
    (long : 52 ≤ mantissa.log2) (normal : -1074 ≤ exponent)
    (bounded : mantissa.log2 + exponent ≤ 1022) :
    IsNormal (roundWithAccuracy Format.binary64 sign mantissa exponent accuracy) := by
  have first := shiftToTargetExponent_of_long long normal accuracy
  unfold roundWithAccuracy
  dsimp only at first ⊢
  generalize shiftToTargetExponent Format.binary64 mantissa exponent accuracy = shifted at first ⊢
  rcases shifted with ⟨quotient, lowered⟩
  rcases first with ⟨quotientIs, loweredIs⟩
  dsimp only at quotientIs loweredIs ⊢
  have fits : quotient.mantissa.log2 = 52 := by
    rw [quotientIs]
    exact log2_div_eq long
  -- Where rounding up carries into one more bit, the second shift takes it off again.
  have rounded := log2_of_rounded fits (roundedMantissa_cases quotient)
  have lowest : -1074 ≤ lowered := by omega
  have second := shiftToTargetExponent_of_long rounded.1 lowest .exact
  have full := log2_div_eq rounded.1
  dsimp only at second
  rw [← second.1] at full
  split
  · rename_i none
    rw [none] at full
    cases full
  · exact ⟨sign, _, _, _, rfl, full, by omega, by omega⟩

end

/-! ## Packing -/

def isProper : UnpackedFloat → Bool
  | .finite .. => true
  | _ => false

private theorem isProper_unpack {bits : BitVec Format.binary64.numBits}
    (notAll : unpackExponent bits ≠ -1#_) (notNone : unpackExponent bits ≠ 0#_) :
    isProper (unpack Format.binary64 bits) := by
  unfold unpack
  dsimp only
  rw [if_neg notAll, if_neg notNone]
  rfl

private theorem isProper_unpack_pack {value : UnpackedFloat} (normal : IsNormal value) :
    isProper (unpack Format.binary64 (pack Format.binary64 value)) := by
  rcases normal with ⟨sign, mantissa, exponent, positive, rfl, full, lowest, highest⟩
  let biased := (exponent + 1023 + 52).toNat
  have within : 0 < biased ∧ biased < 2047 := by omega
  have packed : pack Format.binary64 (.finite sign mantissa exponent positive) =
      packComponents Format.binary64 sign (BitVec.ofNat 11 biased) (BitVec.ofNat 52 mantissa) := by
    change (if 2048 ≤ biased + 1 then packedInfinity Format.binary64 sign
      else if mantissa.log2 + 1 = 53 then
        packComponents Format.binary64 sign (BitVec.ofNat 11 biased) (BitVec.ofNat 52 mantissa)
      else packComponents Format.binary64 sign 0 (BitVec.ofNat 52 mantissa)) = _
    rw [if_neg (by omega), if_pos (congrArg (· + 1) full)]
  have kept : (BitVec.ofNat 11 biased).toNat = biased := Nat.mod_eq_of_lt (by omega)
  rw [packed]
  apply isProper_unpack
  · rw [unpackExponent_packComponents, ne_eq, ← BitVec.toNat_inj, kept]
    exact Nat.ne_of_lt within.2
  · rw [unpackExponent_packComponents, ne_eq, ← BitVec.toNat_inj, kept]
    exact Nat.ne_of_gt within.1

/-! ## Powers of ten -/

/-- Most powers are so far from the largest number that rounding cannot lead beyond it. -/
theorem isNormal_power {exponent : Nat} (small : exponent ≤ 307) :
    IsNormal (ofScientific Format.binary64 1 exponent) := by
  have power : 10 ^ exponent < 2 ^ 1022 :=
    Nat.lt_of_le_of_lt (Nat.pow_le_pow_right (by decide) small) (by decide +kernel)
  have product : ofScientific Format.binary64 1 exponent =
      roundWithAccuracy Format.binary64 .positive (2 ^ 53 * 10 ^ exponent) (-53) .exact := by
    have below : ¬(exponent : Int) > 2 ^ Format.binary64.exponentBits := by
      change ¬(exponent : Int) > 2048
      omega
    have above : ¬(exponent : Int) < -(2 ^ Format.binary64.exponentBits + (Nat.log2 1 : Nat)) := by
      change ¬(exponent : Int) < -2048
      omega
    rw [ofScientific, dif_neg (by decide), if_neg below, if_neg above,
      if_pos (Int.natCast_nonneg _)]
    rfl
  have positive : 0 < 10 ^ exponent := Nat.pow_pos (by decide)
  have nonzero : 2 ^ 53 * 10 ^ exponent ≠ 0 := by omega
  rw [product]
  apply roundWithAccuracy_isNormal
  · rw [Nat.le_log2 nonzero]
    omega
  · decide
  · have fits : (2 ^ 53 * 10 ^ exponent).log2 < 1076 := by
      rw [Nat.log2_lt nonzero]
      omega
    omega

theorem isProper_power {exponent : Nat} (small : exponent ≤ 308) :
    isProper (Float.ofScientific 1 false exponent).toModel.unpack := by
  have exact : ∀ exponent ≤ 22,
      isProper (Float.ofScientific 1 false exponent).toModel.unpack := by
    decide +kernel
  have greatest : isProper (Float.ofScientific 1 false 308).toModel.unpack := by
    decide +kernel
  by_cases few : exponent ≤ 22
  · exact exact exponent few
  · by_cases last : exponent = 308
    · exact last ▸ greatest
    · have computed : Float.ofScientific 1 false exponent =
          .ofModel (.pack (ofScientific Format.binary64 1 exponent)) := by
        rw [Float.ofScientific, dif_neg fun table => few table.2]
        rfl
      rw [computed]
      exact isProper_unpack_pack (isNormal_power (by omega))

end GroundedAnswers.Number
