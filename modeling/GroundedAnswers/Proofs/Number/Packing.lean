import GroundedAnswers.Proofs.Number.Reading

namespace GroundedAnswers.Number

open Float.Model (Format UnpackedFloat)
open Float.Model.UnpackedFloat

/-! Single-precision numbers as they are stored. A number keeps its sign, and its size when the
format has it; a size beyond the largest one becomes infinity. -/

/-! ## Bits -/

def HasParts (value : UnpackedFloat) (sign : Sign) (mantissa : Nat) (exponent : Int) : Prop :=
  ∃ positive, value = .finite sign mantissa exponent positive

theorem HasParts.eq {value : UnpackedFloat} {sign : Sign} {mantissa : Nat} {exponent : Int}
    (parts : HasParts value sign mantissa exponent) (positive : 0 < mantissa) :
    value = .finite sign mantissa exponent positive := by
  rcases parts with ⟨_, rfl⟩
  rfl

theorem HasParts.congr {value : UnpackedFloat} {sign : Sign} {mantissa other : Nat}
    {exponent shifted : Int} (parts : HasParts value sign mantissa exponent)
    (sameMantissa : mantissa = other) (sameExponent : exponent = shifted) :
    HasParts value sign other shifted := by
  subst sameMantissa sameExponent
  exact parts

section

variable {spec : Format} (sign : Sign) (exponent : BitVec spec.exponentBits)
  (mantissa : BitVec spec.mantissaBitsWithoutImplicit)

private theorem unpackSign_packComponents :
    unpackSign (packComponents spec sign exponent mantissa) = sign.toBitVec := by
  apply BitVec.eq_of_getLsbD_eq
  intro place within
  have only : place = 0 := by omega
  subst only
  simp [unpackSign, packComponents, BitVec.getLsbD_append, BitVec.getElem_append]

theorem ofBitVec_unpackSign :
    Sign.ofBitVec (unpackSign (packComponents spec sign exponent mantissa)) = sign := by
  rw [unpackSign_packComponents]
  cases sign <;> rfl

private theorem zero_ne_neg_one : 0#(spec.exponentBits) ≠ -1#(spec.exponentBits) := by
  have several := Nat.one_lt_two_pow (Nat.ne_of_gt spec.he)
  rw [ne_eq, ← BitVec.toNat_inj, BitVec.neg_one_eq_allOnes, BitVec.toNat_allOnes, BitVec.toNat_zero]
  omega

private theorem unpack_packedInfinity :
    unpack spec (packedInfinity spec sign) = .infinity sign := by
  have none : unpackMantissa (packComponents spec sign (-1#_) 0) = 0#_ :=
    unpackMantissa_packComponents
  unfold unpack packedInfinity
  dsimp only
  rw [unpackExponent_packComponents, ofBitVec_unpackSign, if_pos rfl, if_pos none]

private theorem unpack_packedZero : unpack spec (packedZero spec sign) = .zero sign := by
  have none : unpackMantissa (packComponents spec sign 0 0) = 0#_ := unpackMantissa_packComponents
  have least : (0 : BitVec spec.exponentBits) = 0#_ := rfl
  have notAll : (0 : BitVec spec.exponentBits) ≠ -1#_ := zero_ne_neg_one
  unfold unpack packedZero
  dsimp only
  rw [unpackExponent_packComponents, ofBitVec_unpackSign, if_neg notAll, if_pos least, dif_pos none]

variable {exponent mantissa}

theorem toNat_implicit (fraction : BitVec count) :
    (1#1 ++ fraction).toNat = 2 ^ count + fraction.toNat := by
  rw [BitVec.toNat_append, ← Nat.shiftLeft_add_eq_or_of_lt fraction.isLt, Nat.shiftLeft_eq]
  exact congrArg (· + fraction.toNat) (Nat.one_mul (2 ^ count))

private theorem unpack_normal (notNone : exponent ≠ 0#_) (notAll : exponent ≠ -1#_) :
    HasParts (unpack spec (packComponents spec sign exponent mantissa)) sign
      (2 ^ spec.mantissaBitsWithoutImplicit + mantissa.toNat)
      (exponent.toNat - (spec.exponentBias + spec.mantissaBitsWithoutImplicit)) := by
  unfold unpack
  dsimp only
  rw [unpackExponent_packComponents, ofBitVec_unpackSign, if_neg notAll, if_neg notNone]
  refine HasParts.congr ⟨_, rfl⟩ ?_ rfl
  rw [unpackMantissa_packComponents, toNat_implicit]

private theorem unpack_subnormal (some : mantissa ≠ 0#_) :
    HasParts (unpack spec (packComponents spec sign 0#_ mantissa)) sign mantissa.toNat
      (1 - (spec.exponentBias + spec.mantissaBitsWithoutImplicit : Int)) := by
  have parts : unpackMantissa (packComponents spec sign 0#_ mantissa) ≠ 0#_ := by
    rw [unpackMantissa_packComponents]
    exact some
  unfold unpack
  dsimp only
  rw [unpackExponent_packComponents, ofBitVec_unpackSign, if_neg zero_ne_neg_one, if_pos rfl,
    dif_neg parts]
  refine HasParts.congr ⟨_, rfl⟩ ?_ ?_
  · rw [unpackMantissa_packComponents]
  · rw [BitVec.toNat_zero]
    omega

omit sign in
private theorem isFinite_unpack {bits : BitVec spec.numBits} (notAll : unpackExponent bits ≠ -1#_) :
    (unpack spec bits).isFinite := by
  unfold unpack
  dsimp only
  rw [if_neg notAll]
  split
  · split <;> rfl
  · rfl

end

/-! ## Single precision -/

def stored (value : UnpackedFloat) : UnpackedFloat :=
  unpack Format.binary32 (pack Format.binary32 value)

/-- A size that the format has: with all bits of the significand, or with the least exponent. -/
structure FitsSingle (mantissa : Nat) (exponent : Int) : Prop where
  bits : mantissa < 2 ^ 24
  least : -149 ≤ exponent
  greatest : exponent ≤ 104
  full : 2 ^ 23 ≤ mantissa ∨ exponent = -149

theorem stored_infinity (sign : Sign) : stored (.infinity sign) = .infinity sign :=
  unpack_packedInfinity sign

theorem stored_zero (sign : Sign) : stored (.zero sign) = .zero sign :=
  unpack_packedZero sign

theorem isInf_stored_infinity (sign : Sign) : (stored (.infinity sign)).isInf := by
  rw [stored_infinity]
  rfl

theorem isFinite_stored_zero (sign : Sign) : (stored (.zero sign)).isFinite := by
  rw [stored_zero]
  rfl

theorem not_isInf_stored_zero (sign : Sign) : ¬(stored (.zero sign)).isInf := by
  rw [stored_zero]
  exact Bool.false_ne_true

section

variable {sign : Sign} {mantissa : Nat} {exponent : Int} (positive : 0 < mantissa)

theorem pack_finite :
    pack Format.binary32 (.finite sign mantissa exponent positive) =
      if 256 ≤ (exponent + 150).toNat + 1 then packedInfinity Format.binary32 sign
      else if mantissa.log2 + 1 = 24 then
        packComponents Format.binary32 sign (BitVec.ofNat 8 (exponent + 150).toNat)
          (BitVec.ofNat 23 mantissa)
      else packComponents Format.binary32 sign 0#8 (BitVec.ofNat 23 mantissa) := by
  have biased : exponent + Format.binary32.exponentBias +
      Format.binary32.mantissaBitsWithoutImplicit = exponent + 150 := Int.add_assoc exponent 127 23
  unfold pack
  dsimp only
  rw [biased]
  rfl

theorem stored_of_large (large : 105 ≤ exponent) :
    stored (.finite sign mantissa exponent positive) = .infinity sign := by
  rw [stored, pack_finite, if_pos (by omega), unpack_packedInfinity]

theorem isFinite_stored (small : exponent ≤ 104) :
    (stored (.finite sign mantissa exponent positive)).isFinite := by
  have within : (exponent + 150).toNat < 255 := by omega
  rw [stored, pack_finite, if_neg (by omega)]
  apply isFinite_unpack
  split
  · rw [unpackExponent_packComponents, ne_eq, ← BitVec.toNat_inj]
    change (exponent + 150).toNat % 256 ≠ 255
    omega
  · rw [unpackExponent_packComponents]
    decide

theorem isInf_stored_iff :
    (stored (.finite sign mantissa exponent positive)).isInf ↔ 105 ≤ exponent := by
  constructor
  · intro infinite
    by_contra small
    have finite := @isFinite_stored sign mantissa exponent positive (by omega)
    cases value : stored (.finite sign mantissa exponent positive) with
    | infinity =>
        rw [value] at finite
        cases finite
    | _ =>
        rw [value] at infinite
        cases infinite
  · intro large
    rw [stored_of_large positive large]
    rfl

theorem stored_of_fits (fits : FitsSingle mantissa exponent) :
    stored (.finite sign mantissa exponent positive) = .finite sign mantissa exponent positive := by
  have bits := fits.bits
  have least := fits.least
  have greatest := fits.greatest
  have nonzero : mantissa ≠ 0 := Nat.ne_of_gt positive
  apply HasParts.eq
  rw [stored, pack_finite, if_neg (by omega)]
  by_cases normal : 2 ^ 23 ≤ mantissa
  · have length : mantissa.log2 + 1 = 24 :=
      congrArg (· + 1) ((Nat.log2_eq_iff nonzero).mpr ⟨normal, bits⟩)
    have written : (BitVec.ofNat 8 (exponent + 150).toNat).toNat = (exponent + 150).toNat :=
      Nat.mod_eq_of_lt (by omega)
    have fraction : (BitVec.ofNat 23 mantissa).toNat = mantissa - 2 ^ 23 := by
      change mantissa % 2 ^ 23 = _
      omega
    have notNone : BitVec.ofNat 8 (exponent + 150).toNat ≠ 0#8 := by
      rw [ne_eq, ← BitVec.toNat_inj, written]
      change (exponent + 150).toNat ≠ 0
      omega
    have notAll : BitVec.ofNat 8 (exponent + 150).toNat ≠ -1#8 := by
      rw [ne_eq, ← BitVec.toNat_inj, written]
      change (exponent + 150).toNat ≠ 255
      omega
    rw [if_pos length]
    have parts : HasParts _ sign _ _ :=
      @unpack_normal Format.binary32 sign _ (BitVec.ofNat 23 mantissa) notNone notAll
    refine parts.congr ?_ ?_
    · rw [fraction]
      change 2 ^ 23 + (mantissa - 2 ^ 23) = mantissa
      omega
    · rw [written]
      change ((exponent + 150).toNat : Int) - 150 = exponent
      omega
  · have short : mantissa < 2 ^ 23 := Nat.lt_of_not_le normal
    have length : mantissa.log2 + 1 ≠ 24 := by
      have bounded := (Nat.log2_lt nonzero).mpr short
      omega
    have fraction : (BitVec.ofNat 23 mantissa).toNat = mantissa := Nat.mod_eq_of_lt short
    have some : BitVec.ofNat 23 mantissa ≠ 0#23 := by
      rw [ne_eq, ← BitVec.toNat_inj, fraction]
      exact nonzero
    rw [if_neg length]
    exact (@unpack_subnormal Format.binary32 sign _ some).congr fraction
      (fits.full.resolve_left normal).symm

theorem fits_of_unpack {bits : BitVec Format.binary32.numBits}
    (parts : unpack Format.binary32 bits = .finite sign mantissa exponent positive) :
    FitsSingle mantissa exponent := by
  have size : (unpackMantissa bits).toNat < 2 ^ 23 := (unpackMantissa bits).isLt
  have biased : (unpackExponent bits).toNat < 256 := (unpackExponent bits).isLt
  have bias : (Format.binary32.exponentBias + Format.binary32.mantissaBitsWithoutImplicit : Int) =
      150 := rfl
  unfold unpack at parts
  dsimp only at parts
  rw [bias] at parts
  split at parts
  · split at parts <;> cases parts
  · rename_i notAll
    have below : (unpackExponent bits).toNat ≠ 255 := fun all => notAll (BitVec.eq_of_toNat_eq all)
    split at parts
    · rename_i least
      have none : (unpackExponent bits).toNat = 0 := congrArg BitVec.toNat least
      split at parts
      · cases parts
      · injection parts with _ mantissaIs exponentIs
        exact ⟨by omega, by omega, by omega, .inr (by omega)⟩
    · rename_i notNone
      injection parts with _ mantissaIs exponentIs
      have implicit : (1#1 ++ unpackMantissa bits).toNat = 2 ^ 23 + (unpackMantissa bits).toNat :=
        toNat_implicit (unpackMantissa bits)
      have some : (unpackExponent bits).toNat ≠ 0 :=
        fun none => notNone (BitVec.eq_of_toNat_eq none)
      rw [implicit] at mantissaIs
      exact ⟨by omega, by omega, by omega, .inl (by omega)⟩

end

end GroundedAnswers.Number
