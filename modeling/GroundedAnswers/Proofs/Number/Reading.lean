import GroundedAnswers.Json.Record
import GroundedAnswers.Proofs.Number.Comparison
import GroundedAnswers.Proofs.Number.Powers

namespace GroundedAnswers.Number

open Float.Model (Format UnpackedFloat)

/-! Numbers that are read. Rounding, scaling and narrowing lead from numbers to numbers, so
whatever a JSON value is read as compares with everything else. -/

/-! ## Bits -/

section

variable (spec : Format) (bits : BitVec spec.numBits)

theorem toNat_unpackExponent :
    (UnpackedFloat.unpackExponent bits).toNat =
      bits.toNat / 2 ^ spec.mantissaBitsWithoutImplicit % 2 ^ spec.exponentBits := by
  have positive := spec.he
  have width : spec.mantissaBitsWithoutImplicit + spec.exponentBits - 1 -
      spec.mantissaBitsWithoutImplicit + 1 = spec.exponentBits := by
    omega
  rw [UnpackedFloat.unpackExponent, BitVec.toNat_cast, BitVec.extractLsb_toNat, width,
    Nat.shiftRight_eq_div_pow]

theorem toNat_unpackMantissa :
    (UnpackedFloat.unpackMantissa bits).toNat =
      bits.toNat % 2 ^ spec.mantissaBitsWithoutImplicit := by
  have positive := spec.hm
  have width : spec.mantissaBitsWithoutImplicit - 1 - 0 + 1 = spec.mantissaBitsWithoutImplicit := by
    omega
  rw [UnpackedFloat.unpackMantissa, BitVec.toNat_cast, BitVec.extractLsb_toNat, width,
    Nat.shiftRight_zero]

private theorem isNaN_unpack_iff :
    (UnpackedFloat.unpack spec bits).isNaN = true ↔
      UnpackedFloat.unpackExponent bits = -1#_ ∧ UnpackedFloat.unpackMantissa bits ≠ 0#_ := by
  unfold UnpackedFloat.unpack
  dsimp only
  split
  · split <;> simp_all [UnpackedFloat.isNaN]
  · split
    · split <;> simp_all [UnpackedFloat.isNaN]
    · simp_all [UnpackedFloat.isNaN]

theorem isNaN_unpack_pack {value : UnpackedFloat} (isNumber : value.isNaN = false) :
    (UnpackedFloat.unpack spec (UnpackedFloat.pack spec value)).isNaN = false := by
  have all : (-BitVec.ofNat spec.exponentBits 1).toNat = 2 ^ spec.exponentBits - 1 := by
    rw [BitVec.neg_one_eq_allOnes, BitVec.toNat_allOnes]
  rw [Bool.eq_false_iff, ne_eq, isNaN_unpack_iff]
  rintro ⟨exponents, mantissas⟩
  cases value with
  | notANumber => cases isNumber
  | infinity sign => exact mantissas UnpackedFloat.unpackMantissa_packComponents
  | zero sign => exact mantissas UnpackedFloat.unpackMantissa_packComponents
  | finite sign mantissa exponent positive =>
      rw [← BitVec.toNat_inj, all] at exponents
      unfold UnpackedFloat.pack at exponents mantissas
      dsimp only at exponents mantissas
      -- A number that is too large is packed as infinity, and a small one with a zero exponent.
      split at exponents
      · rename_i tooLarge
        rw [if_pos tooLarge] at mantissas
        exact mantissas UnpackedFloat.unpackMantissa_packComponents
      · split at exponents
        · rename_i fits _
          rw [UnpackedFloat.unpackExponent_packComponents, BitVec.toNat_ofNat,
            Nat.mod_eq_of_lt (by omega)] at exponents
          omega
        · have several := Nat.one_lt_two_pow (Nat.ne_of_gt spec.he)
          rw [UnpackedFloat.unpackExponent_packComponents, BitVec.toNat_ofNat,
            Nat.zero_mod] at exponents
          omega

end

namespace BinaryFormat

private theorem magnitude_eq_undefined_iff (format : BinaryFormat) (bits : Nat) :
    format.magnitude bits = .undefined ↔
      bits / binaryPower format.fractionBits % binaryPower format.exponentBits =
          binaryPower format.exponentBits - 1 ∧
        bits % binaryPower format.fractionBits ≠ 0 := by
  unfold magnitude
  dsimp only
  split
  · rename_i all
    split
    · rename_i none
      simp [none]
    · rename_i some
      simp [all, some]
  · rename_i notAll
    split <;> simp [notAll]

private theorem infinityBits_lt (format : BinaryFormat) :
    format.infinityBits < binaryPower (format.fractionBits + format.exponentBits) := by
  have whole : binaryPower (format.fractionBits + format.exponentBits) =
      binaryPower format.exponentBits * binaryPower format.fractionBits := by
    rw [Nat.add_comm]
    exact Nat.pow_add 2 format.exponentBits format.fractionBits
  rw [whole, infinityBits]
  apply Nat.mul_lt_mul_of_pos_right
  · exact Nat.sub_lt (binaryPower_pos _) Nat.one_pos
  · exact binaryPower_pos _

private theorem signBits_add_lt (format : BinaryFormat) (negative : Bool) {size : Nat}
    (bounded : size ≤ format.infinityBits) :
    format.signBits negative + size <
      binaryPower (format.fractionBits + format.exponentBits + 1) := by
  have below := format.infinityBits_lt
  have twice : binaryPower (format.fractionBits + format.exponentBits + 1) =
      binaryPower (format.fractionBits + format.exponentBits) * 2 := Nat.pow_succ 2 _
  unfold signBits
  split <;> omega

private theorem magnitude_ne_undefined (format : BinaryFormat) (negative : Bool) {size : Nat}
    (bounded : size ≤ format.infinityBits) :
    format.magnitude (format.signBits negative + size) ≠ .undefined := by
  have whole : binaryPower (format.fractionBits + format.exponentBits) =
      binaryPower format.fractionBits * binaryPower format.exponentBits :=
    Nat.pow_add 2 format.fractionBits format.exponentBits
  have sign : ∃ times, format.signBits negative =
      binaryPower format.fractionBits * (binaryPower format.exponentBits * times) := by
    cases negative with
    | false => exact ⟨0, rfl⟩
    | true => exact ⟨1, by rw [Nat.mul_one, ← whole]; rfl⟩
  rcases sign with ⟨times, sign⟩
  have fractions := binaryPower_pos format.fractionBits
  have within : size / binaryPower format.fractionBits ≤ binaryPower format.exponentBits - 1 :=
    Nat.div_le_of_le_mul (Nat.mul_comm _ _ ▸ bounded)
  rw [ne_eq, magnitude_eq_undefined_iff, sign, Nat.mul_add_div fractions, Nat.mul_add_mod,
    Nat.mul_add_mod, Nat.mod_eq_of_lt (by have := binaryPower_pos format.exponentBits; omega)]
  rintro ⟨all, some⟩
  have division := Nat.div_add_mod size (binaryPower format.fractionBits)
  rw [all, Nat.mul_comm] at division
  unfold infinityBits at bounded
  omega

private theorem roundedBits_le (format : BinaryFormat) (numerator denominator : Nat) :
    format.roundedBits numerator denominator ≤ format.infinityBits := by
  unfold roundedBits
  split
  · exact Nat.zero_le _
  · exact Nat.min_le_right _ _

end BinaryFormat

section

variable (spec : Format) (bits : BitVec spec.numBits)

abbrev formatOf : BinaryFormat := ⟨spec.mantissaBitsWithoutImplicit, spec.exponentBits⟩

/-- The two ways to read bits agree on which of them make no number. -/
theorem isNaN_unpack_iff_magnitude :
    (UnpackedFloat.unpack spec bits).isNaN = true ↔
      (formatOf spec).magnitude bits.toNat = .undefined := by
  have all : UnpackedFloat.unpackExponent bits = -1#_ ↔
      bits.toNat / 2 ^ spec.mantissaBitsWithoutImplicit % 2 ^ spec.exponentBits =
        2 ^ spec.exponentBits - 1 := by
    rw [← BitVec.toNat_inj, toNat_unpackExponent, BitVec.neg_one_eq_allOnes, BitVec.toNat_allOnes]
  have none : UnpackedFloat.unpackMantissa bits = 0#_ ↔
      bits.toNat % 2 ^ spec.mantissaBitsWithoutImplicit = 0 := by
    rw [← BitVec.toNat_inj, toNat_unpackMantissa]
    rfl
  rw [isNaN_unpack_iff, BinaryFormat.magnitude_eq_undefined_iff, all, ne_eq, none]
  rfl

private theorem isNaN_unpack_of_bounded {negative : Bool} {size : Nat}
    (bounded : size ≤ (formatOf spec).infinityBits)
    (bitsAre : bits.toNat = (formatOf spec).signBits negative + size) :
    (UnpackedFloat.unpack spec bits).isNaN = false := by
  rw [← Bool.not_eq_true, isNaN_unpack_iff_magnitude, bitsAre]
  exact (formatOf spec).magnitude_ne_undefined negative bounded

end

/-! ## Double precision -/

theorem isNaN_roundWithAccuracy (spec : Format) (sign : UnpackedFloat.Sign) (mantissa : Nat)
    (exponent : Int) (accuracy : UnpackedFloat.Accuracy) :
    (UnpackedFloat.roundWithAccuracy spec sign mantissa exponent accuracy).isNaN = false := by
  unfold UnpackedFloat.roundWithAccuracy
  dsimp only
  split <;> rfl

private theorem isNaN_mul_proper (spec : Format) {left right : UnpackedFloat}
    (isNumber : left.isNaN = false) (proper : isProper right) :
    (UnpackedFloat.mul spec left right).isNaN = false := by
  cases right <;> cases proper
  cases left with
  | notANumber => cases isNumber
  | finite => exact isNaN_roundWithAccuracy _ _ _ _ _
  | _ => rfl

theorem isNaN_div_proper (spec : Format) {left right : UnpackedFloat}
    (isNumber : left.isNaN = false) (proper : isProper right) :
    (UnpackedFloat.div spec left right).isNaN = false := by
  cases right <;> cases proper
  cases left with
  | notANumber => cases isNumber
  | finite => exact isNaN_roundWithAccuracy _ _ _ _ _
  | _ => rfl

section

variable {first second : Float} (isNumber : first.isNaN = false)

include isNumber

private theorem isNaN_neg : (-first).isNaN = false := by
  apply isNaN_unpack_pack
  change first.toModel.unpack.isNaN = false at isNumber
  cases value : first.toModel.unpack with
  | notANumber =>
      rw [value] at isNumber
      cases isNumber
  | _ => rfl

variable (proper : isProper second.toModel.unpack)

include proper

theorem isNaN_mul : (first * second).isNaN = false :=
  isNaN_unpack_pack Format.binary64 (isNaN_mul_proper Format.binary64 isNumber proper)

private theorem isNaN_div : (first / second).isNaN = false :=
  isNaN_unpack_pack Format.binary64 (isNaN_div_proper Format.binary64 isNumber proper)

end

private theorem isNaN_floatOfInt (value : Int) : (floatOfInt value).isNaN = false := by
  have bounded := binary64.roundedBits_le value.natAbs 1
  apply isNaN_unpack_pack
  apply isNaN_unpack_of_bounded Format.binary64 _ bounded
  exact UInt64.toNat_ofNat_of_lt' (binary64.signBits_add_lt _ bounded)

/-- Scaling divides and multiplies by powers of ten only. -/
theorem isNaN_scale {value result : Float} {exponent : Int} (isNumber : value.isNaN = false)
    (scaled : Numeral.scale value exponent = some result) : result.isNaN = false := by
  fun_induction Numeral.scale value exponent with
  | case1 value exponent small up product infinite => cases scaled
  | case2 value exponent small up product finite =>
      rw [← Option.some.inj scaled]
      exact isNaN_mul isNumber (isProper_power small)
  | case3 value exponent small down =>
      cases scaled
      exact isNaN_div isNumber (isProper_power small)
  | case4 value exponent large zero =>
      cases scaled
      exact isNumber
  | case5 => cases scaled
  | case6 value exponent large nonzero down induction =>
      exact induction (isNaN_div isNumber (isProper_power (Nat.le_refl 308))) scaled

private theorem isNaN_toFloat? {numeral : Numeral} {value : Float}
    (read : numeral.toFloat? = some value) : value.isNaN = false := by
  rcases Option.map_eq_some_iff.mp read with ⟨size, sized, rfl⟩
  have sizeIs : size.isNaN = false := by
    split at sized
    · exact isNaN_scale (isNaN_floatOfInt _) sized
    · split at sized
      · exact isNaN_scale (isNaN_floatOfInt _) sized
      · split at sized
        · cases sized
        · cases sized
          decide +kernel
  split
  · exact isNaN_neg sizeIs
  · exact sizeIs

/-! ## Single precision -/

private theorem isNumber_ofBits (negative : Bool) {size : Nat}
    (bounded : size ≤ binary32.infinityBits) :
    IsNumber (Float32.ofBits (binary32.signBits negative + size).toUInt32) := by
  apply isNaN_unpack_pack
  apply isNaN_unpack_of_bounded Format.binary32 _ bounded
  exact UInt32.toNat_ofNat_of_lt' (binary32.signBits_add_lt _ bounded)

private theorem isNumber_narrowInt (value : Int) : IsNumber (narrowInt value) :=
  isNumber_ofBits _ (binary32.roundedBits_le _ _)

private theorem isNumber_narrow {value : Float} (isNumber : value.isNaN = false) :
    IsNumber (narrow value) := by
  have defined : binary64.magnitude value.toBits.toNat ≠ .undefined := by
    intro undefined
    have noNumber := (isNaN_unpack_iff_magnitude Format.binary64 _).mpr undefined
    exact Bool.noConfusion (isNumber.symm.trans noNumber)
  apply isNumber_ofBits
  split
  · exact binary32.roundedBits_le _ _
  · exact Nat.le_refl _
  · rename_i undefined
    exact absurd undefined defined

theorem isNumber_of_float32? {json : Json} {value : Float32}
    (read : json.float32? = some value) : IsNumber value := by
  cases json with
  | number numeral =>
      rw [Json.float32?] at read
      split at read
      · cases read
        exact isNumber_narrowInt _
      · rcases Option.map_eq_some_iff.mp read with ⟨double, found, rfl⟩
        exact isNumber_narrow (isNaN_toFloat? found)
  | _ => cases read

end GroundedAnswers.Number
