import GroundedAnswers.Proofs.Number.Operations

namespace GroundedAnswers.Number

open Float.Model (Format UnpackedFloat)
open Float.Model.UnpackedFloat

/-! Shares: quotients of two counts. Counts below `2 ^ 64` are far from both ends of the format, so
their quotients are finite, and stay so under a small weight. -/

/-! ## Finite results -/

section

variable {mantissa mantissa' : Nat} {exponent exponent' : Int}

private theorem isFinite_stored_round (sign : Sign) (accuracy : Accuracy) (small : exponent ≤ 103)
    (size : mantissa.log2 + exponent ≤ 126) :
    (stored (roundWithAccuracy Format.binary32 sign mantissa exponent accuracy)).isFinite := by
  apply (roundWithAccuracy_reaches sign mantissa exponent accuracy).isFinite_stored
  unfold targetOf
  omega

private theorem divCore_size (positive : 0 < mantissa) {quotient : Nat} {shifted : Int}
    {accuracy : Accuracy} (core : divCore Format.binary32 mantissa exponent mantissa' exponent' =
      (quotient, shifted, accuracy)) :
    shifted ≤ exponent - exponent' ∧
      quotient.log2 + shifted ≤ mantissa.log2 + (exponent - exponent') := by
  unfold divCore at core
  dsimp only at core
  injection core with quotientIs rest
  injection rest with shiftedIs
  rw [shiftedIs] at quotientIs
  have reached : shifted ≤ exponent - exponent' := by omega
  have bounded : quotient.log2 ≤ mantissa.log2 + (exponent - exponent' - shifted).toNat := by
    rw [← quotientIs, ← log2_shiftLeft (Nat.ne_of_gt positive)]
    exact log2_mono (Nat.div_le_self _ _)
  omega

end

/-! ## Counts -/

/-- A whole number between one and the largest count. -/
inductive CountLike : UnpackedFloat → Prop
  | finite (sign : Sign) {mantissa : Nat} {exponent : Int} (positive : 0 < mantissa)
      (fits : FitsSingle mantissa exponent) (least : -23 ≤ exponent) (greatest : exponent ≤ 41) :
      CountLike (.finite sign mantissa exponent positive)

private theorem CountLike.isFinite_div {left right : UnpackedFloat} (leftIs : CountLike left)
    (rightIs : CountLike right) : (stored (div Format.binary32 left right)).isFinite := by
  rcases leftIs with ⟨sign, positive, fits, least, greatest⟩
  rcases rightIs with ⟨sign', positive', fits', least', greatest'⟩
  rename_i mantissa exponent mantissa' exponent'
  cases core : divCore Format.binary32 mantissa exponent mantissa' exponent' with
  | mk quotient rest =>
    rcases rest with ⟨shifted, accuracy⟩
    have size := divCore_size positive core
    have length := fits.log2_le
    rw [div, core]
    exact isFinite_stored_round _ accuracy (by omega) (by omega)

theorem roundQuotient_cases (numerator denominator : Nat) :
    roundQuotient numerator denominator = numerator / denominator ∨
      roundQuotient numerator denominator = numerator / denominator + 1 := by
  unfold roundQuotient
  dsimp only
  split
  · exact .inl rfl
  · split
    · exact .inr rfl
    · omega

theorem roundedBits_eq {count : Nat} (some : 0 < count) :
    binary32.roundedBits count 1 =
      min (roundQuotient (count * 2 ^ (23 - count.log2)) (2 ^ (count.log2 - 23)) +
        (count.log2 + 126) * 2 ^ 23) binary32.infinityBits := by
  have length : (count.log2 : Int) - (Nat.log2 1 : Nat) = count.log2 := Int.sub_zero _
  have reaches : 1 * binaryPower count.log2 ≤ count * binaryPower 0 := by
    rw [Nat.one_mul]
    exact Nat.le_trans (Nat.log2_self_le (Nat.ne_of_gt some))
      (Nat.le_of_eq (Nat.mul_one count).symm)
  have binade : (-(count.log2 : Int)).toNat = 0 := by omega
  have exponent : max ((count.log2 : Int) - binary32.fractionBits) binary32.leastExponent =
      count.log2 - 23 := by
    change max ((count.log2 : Int) - 23) (-149) = _
    omega
  have raised : ((count.log2 : Int) - 23).toNat = count.log2 - 23 := by omega
  have lowered : (-((count.log2 : Int) - 23)).toNat = 23 - count.log2 := by omega
  have position : ((count.log2 : Int) - 23 - binary32.leastExponent).toNat = count.log2 + 126 := by
    change ((count.log2 : Int) - 23 - -149).toNat = _
    omega
  unfold BinaryFormat.roundedBits
  dsimp only
  rw [if_neg (Nat.ne_of_gt some), length, Int.toNat_natCast, binade, if_pos reaches, exponent,
    raised, lowered, position, Nat.one_mul]
  rfl

theorem roundQuotient_count {count : Nat} (some : 0 < count) :
    2 ^ 23 ≤ roundQuotient (count * 2 ^ (23 - count.log2)) (2 ^ (count.log2 - 23)) ∧
      roundQuotient (count * 2 ^ (23 - count.log2)) (2 ^ (count.log2 - 23)) ≤ 2 ^ 24 := by
  have least := Nat.log2_self_le (Nat.ne_of_gt some)
  have greatest : count < 2 ^ (count.log2 + 1) := Nat.lt_log2_self
  have full : 2 ^ 23 ≤ count * 2 ^ (23 - count.log2) / 2 ^ (count.log2 - 23) := by
    rw [Nat.le_div_iff_mul_le (Nat.two_pow_pos _), ← Nat.pow_add]
    have same : 23 + (count.log2 - 23) = count.log2 + (23 - count.log2) := by omega
    rw [same, Nat.pow_add]
    exact Nat.mul_le_mul_right _ least
  have bits : count * 2 ^ (23 - count.log2) / 2 ^ (count.log2 - 23) < 2 ^ 24 := by
    rw [Nat.div_lt_iff_lt_mul (Nat.two_pow_pos _), ← Nat.pow_add]
    have same : 24 + (count.log2 - 23) = count.log2 + 1 + (23 - count.log2) := by omega
    rw [same, Nat.pow_add]
    exact Nat.mul_lt_mul_of_pos_right greatest (Nat.two_pow_pos _)
  have cases := roundQuotient_cases (count * 2 ^ (23 - count.log2)) (2 ^ (count.log2 - 23))
  omega

theorem roundedBits_count {count : Nat} (some : 0 < count) (bounded : count < 2 ^ 64) :
    127 * 2 ^ 23 ≤ binary32.roundedBits count 1 ∧ binary32.roundedBits count 1 ≤ 191 * 2 ^ 23 := by
  have length : count.log2 < 64 := (Nat.log2_lt (Nat.ne_of_gt some)).mpr bounded
  have infinity : binary32.infinityBits = 255 * 2 ^ 23 := by decide +kernel
  have significand := roundQuotient_count some
  rw [roundedBits_eq some, infinity]
  omega

private theorem hasParts_unpack {bits : BitVec Format.binary32.numBits}
    (least : 127 * 2 ^ 23 ≤ bits.toNat) (greatest : bits.toNat ≤ 191 * 2 ^ 23) :
    HasParts (unpack Format.binary32 bits) .positive (2 ^ 23 + bits.toNat % 2 ^ 23)
      ((bits.toNat / 2 ^ 23 : Nat) - 150) := by
  have field : (unpackExponent bits).toNat = bits.toNat / 2 ^ 23 % 2 ^ 8 :=
    toNat_unpackExponent Format.binary32 bits
  have fraction : (unpackMantissa bits).toNat = bits.toNat % 2 ^ 23 :=
    toNat_unpackMantissa Format.binary32 bits
  have notAll : unpackExponent bits ≠ -1#8 := by
    rw [ne_eq, ← BitVec.toNat_inj, field]
    change ¬_ = 255
    omega
  have notNone : unpackExponent bits ≠ 0#8 := by
    rw [ne_eq, ← BitVec.toNat_inj, field]
    change ¬_ = 0
    omega
  have noSign : unpackSign bits = 0#1 := by
    rw [← BitVec.toNat_inj, unpackSign, BitVec.toNat_cast, BitVec.extractLsb_toNat,
      Nat.shiftRight_eq_div_pow]
    change bits.toNat / 2 ^ 31 % 2 ^ 1 = 0
    omega
  unfold unpack
  dsimp only
  rw [if_neg notAll, if_neg notNone, noSign]
  refine HasParts.congr ⟨_, rfl⟩ ?_ ?_
  · rw [toNat_implicit, fraction]
  · rw [field]
    change ((_ : Nat) : Int) - 150 = _
    omega

theorem hasParts_narrowInt {count : Nat} (some : 0 < count) (bounded : count < 2 ^ 64) :
    HasParts (narrowInt count).toModel.unpack .positive
      (2 ^ 23 + binary32.roundedBits count 1 % 2 ^ 23)
      ((binary32.roundedBits count 1 / 2 ^ 23 : Nat) - 150) := by
  have sized := roundedBits_count some bounded
  have notNegative : ¬(count : Int) < 0 := by omega
  have bits : (binary32.roundedBits count 1).toUInt32.toNat = binary32.roundedBits count 1 :=
    UInt32.toNat_ofNat_of_lt' (Nat.lt_of_le_of_lt sized.2 (by decide))
  have read : (narrowInt count).toModel.unpack =
      stored (unpack Format.binary32 (binary32.roundedBits count 1).toUInt32.toBitVec) := by
    rw [narrowInt, Int.natAbs_natCast, decide_eq_false notNegative, BinaryFormat.signBits,
      if_neg Bool.false_ne_true, Nat.zero_add]
    rfl
  have parts := @hasParts_unpack (binary32.roundedBits count 1).toUInt32.toBitVec
    (Nat.le_trans sized.1 (Nat.le_of_eq bits.symm)) (Nat.le_trans (Nat.le_of_eq bits) sized.2)
  rcases parts with ⟨positive, value⟩
  rw [read, value, stored_of_fits positive (fits_of_unpack positive value)]
  exact HasParts.congr ⟨positive, rfl⟩ (congrArg (2 ^ 23 + · % 2 ^ 23) bits)
    (congrArg (fun (bits : Nat) => ((bits / 2 ^ 23 : Nat) : Int) - 150) bits)

/-- A count is read as a whole number of about its size. -/
theorem countLike_narrowInt {count : Nat} (some : 0 < count) (bounded : count < 2 ^ 64) :
    CountLike (narrowInt count).toModel.unpack := by
  have sized := roundedBits_count some bounded
  rcases hasParts_narrowInt some bounded with ⟨positive, value⟩
  rw [value]
  exact .finite .positive positive ⟨by omega, by omega, by omega, .inl (by omega)⟩ (by omega)
    (by omega)

theorem isFinite_share {part whole : Nat} (some : 0 < whole) (bounded : whole < 2 ^ 64)
    (within : part ≤ whole) : IsFinite (narrowInt part / narrowInt whole) := by
  have divisor := countLike_narrowInt some bounded
  change (stored (div Format.binary32 (narrowInt part).toModel.unpack
    (narrowInt whole).toModel.unpack)).isFinite
  generalize (narrowInt whole).toModel.unpack = denominator at divisor ⊢
  by_cases none : part = 0
  · have zero : (narrowInt (0 : Nat)).toModel.unpack = .zero .positive := rfl
    rw [none, zero]
    cases divisor
    exact isFinite_stored_zero _
  · exact (countLike_narrowInt (Nat.pos_of_ne_zero none) (by omega)).isFinite_div divisor

theorem isFinite_mul_small {weight value : Float32} (finite : IsFinite value) {sign : Sign}
    {mantissa : Nat} {exponent : Int} (positive : 0 < mantissa)
    (parts : weight.toModel.unpack = .finite sign mantissa exponent positive)
    (small : exponent ≤ -25) : IsFinite (weight * value) := by
  have fits := fits_of_unpack positive parts
  change (stored (mul Format.binary32 weight.toModel.unpack value.toModel.unpack)).isFinite
  have representable := finite.representable
  generalize value.toModel.unpack = factor at representable ⊢
  rw [parts]
  cases representable with
  | zero other => exact isFinite_stored_zero _
  | finite other positive' fits' =>
      have length := log2_product_le fits fits'
      have greatest := fits'.greatest
      rw [mul_finite, product]
      exact isFinite_stored_round _ _ (by omega) (by omega)

end GroundedAnswers.Number
