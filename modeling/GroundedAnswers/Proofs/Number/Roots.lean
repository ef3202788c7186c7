import GroundedAnswers.Proofs.Number.Products
import Mathlib.Data.Nat.Sqrt

namespace GroundedAnswers.Number

open Float.Model (Format UnpackedFloat totalExponent)
open Float.Model.UnpackedFloat

/-! Roots of single-precision numbers. A root has half the exponent, so it lies far from both ends
of the format, and a product of two roots is never rounded to zero. -/

private theorem log2_sqrt (radicand : Nat) : radicand.sqrt.log2 = radicand.log2 / 2 := by
  by_cases none : radicand = 0
  · rw [none]
    decide +kernel
  · have positive : 0 < radicand.sqrt := Nat.sqrt_pos.mpr (Nat.pos_of_ne_zero none)
    refine (Nat.log2_eq_iff (Nat.ne_of_gt positive)).mpr ⟨?_, ?_⟩
    · rw [Nat.le_sqrt, ← Nat.pow_add]
      exact Nat.le_trans (Nat.pow_le_pow_right (by decide) (by omega)) (Nat.log2_self_le none)
    · rw [Nat.sqrt_lt, ← Nat.pow_add]
      exact Nat.lt_of_lt_of_le Nat.lt_log2_self (Nat.pow_le_pow_right (by decide) (by omega))

theorem log2_shiftLeft {size : Nat} (nonzero : size ≠ 0) (count : Nat) :
    (size <<< count).log2 = size.log2 + count := by
  induction count with
  | zero => rfl
  | succ count induction =>
      have some : size <<< count ≠ 0 := by
        rw [Nat.shiftLeft_eq]
        exact Nat.mul_ne_zero nonzero (Nat.ne_of_gt (Nat.two_pow_pos count))
      rw [Nat.shiftLeft_succ, Nat.log2_two_mul some, induction, Nat.add_assoc]

section

variable {mantissa : Nat} {exponent : Int}

def rootExponent (mantissa : Nat) (exponent : Int) : Int :=
  (mantissa.log2 + exponent) / 2

private theorem sqrtCore_length (positive : 0 < mantissa) {root : Nat} {shifted : Int}
    {accuracy : Accuracy}
    (core : sqrtCore Format.binary32 mantissa exponent = (root, shifted, accuracy)) :
    0 < root ∧ root.log2 + shifted = rootExponent mantissa exponent ∧
      shifted ≤ max (rootExponent mantissa exponent - 23) (-149) := by
  have least : Format.binary32.minExponent = -149 := rfl
  have width : (Format.binary32.mantissaBits : Int) = 24 := rfl
  have halves (value : Int) : Int.ediv value 2 = value / 2 := rfl
  unfold sqrtCore at core
  dsimp only at core
  rw [halves, halves, Format.targetExponent, totalExponent, least, width] at core
  injection core with rootIs rest
  injection rest with shiftedIs
  subst rootIs shiftedIs
  generalize shift : min (exponent / 2)
    (max ((mantissa.log2 + 1 + exponent + 1) / 2 - 24) (-149)) = shifted
  have room : 0 ≤ exponent - 2 * shifted := by omega
  have nonzero : mantissa ≠ 0 := Nat.ne_of_gt positive
  have longer : (mantissa <<< (exponent - 2 * shifted).toNat).log2 =
      mantissa.log2 + (exponent - 2 * shifted).toNat := log2_shiftLeft nonzero _
  refine ⟨?_, ?_, ?_⟩
  · apply Nat.sqrt_pos.mpr
    rw [Nat.shiftLeft_eq]
    exact Nat.mul_pos positive (Nat.two_pow_pos _)
  · rw [log2_sqrt, longer, rootExponent]
    omega
  · unfold rootExponent
    omega

theorem stored_sqrt (positive : 0 < mantissa) (fits : FitsSingle mantissa exponent) :
    ∃ root shifted, HasParts (stored (sqrt Format.binary32
        (.finite .positive mantissa exponent positive))) .positive root shifted ∧
      2 ^ 23 ≤ root ∧ FitsSingle root shifted ∧
      rootExponent mantissa exponent - 23 ≤ shifted := by
  have least := fits.least
  have greatest := fits.greatest
  have length := fits.log2_le
  cases core : sqrtCore Format.binary32 mantissa exponent with
  | mk root rest =>
    rcases rest with ⟨shifted, accuracy⟩
    rcases sqrtCore_length positive core with ⟨some, position, reached⟩
    have target : targetOf root shifted = rootExponent mantissa exponent - 23 := by
      unfold targetOf rootExponent at *
      omega
    have range : -98 ≤ targetOf root shifted ∧ targetOf root shifted ≤ 40 := by
      unfold rootExponent at target
      omega
    have long : shifted ≤ targetOf root shifted := by
      unfold rootExponent at *
      omega
    have full := full_quotient some long
    have rounded := roundedOf_cases root shifted accuracy
    have rounds := roundWithAccuracy_roundsTo .positive long accuracy
    have same := rounds.stored_eq (by omega) (by omega) (by omega)
    have unfolded : sqrt Format.binary32 (.finite .positive mantissa exponent positive) =
        roundWithAccuracy Format.binary32 .positive root shifted accuracy := by
      rw [sqrt, core]
    rw [unfolded, same]
    generalize roundedOf root shifted accuracy = size at rounded rounds
    generalize roundWithAccuracy Format.binary32 .positive root shifted accuracy = value at rounds
    cases rounds with
    | zero => omega
    | kept positive bits =>
        exact ⟨_, _, ⟨positive, rfl⟩, by omega, ⟨bits, by omega, by omega, by omega⟩, by omega⟩
    | carried =>
        refine ⟨_, _, ⟨_, rfl⟩, Nat.le_refl _, ⟨by decide, by omega, by omega, ?_⟩, by omega⟩
        exact .inl (Nat.le_refl _)

/-- A product of full significands whose size is at least that of the least number is not zero. -/
theorem stored_product_ne_zero {mantissa' : Nat} {exponent' : Int} (full : 2 ^ 23 ≤ mantissa)
    (full' : 2 ^ 23 ≤ mantissa') (large : -195 ≤ exponent + exponent') (sign other : Sign) :
    stored (product sign mantissa exponent mantissa' exponent') ≠ .zero other := by
  have length := le_log2_product full full'
  have some : 0 < mantissa * mantissa' :=
    Nat.mul_pos (Nat.lt_of_lt_of_le (by decide) full) (Nat.lt_of_lt_of_le (by decide) full')
  have long := long_of_log2 (Nat.le_trans (by decide) length) (exponent + exponent')
  have rounds := roundWithAccuracy_roundsTo sign long .exact
  have rounded := roundedOf_cases (mantissa * mantissa') (exponent + exponent') .exact
  have nonzero := @quotient_pos _ (exponent + exponent') some (by omega)
  have least : -149 ≤ targetOf (mantissa * mantissa') (exponent + exponent') := Int.le_max_right _ _
  have allBits := full_quotient some long
  exact rounds.stored_ne_zero least (by omega) (by omega) other

def storedRoot (value : UnpackedFloat) : UnpackedFloat :=
  stored (sqrt Format.binary32 value)

def rootProduct (left right : UnpackedFloat) : UnpackedFloat :=
  stored (mul Format.binary32 (storedRoot left) (storedRoot right))

section

variable {mantissa' : Nat} {exponent' : Int} (positive : 0 < mantissa) (positive' : 0 < mantissa')
  (fits : FitsSingle mantissa exponent) (fits' : FitsSingle mantissa' exponent')

include fits fits'

/-- A product of two roots is not rounded to zero. -/
theorem rootProduct_ne_zero (sign : Sign) :
    rootProduct (.finite .positive mantissa exponent positive)
      (.finite .positive mantissa' exponent' positive') ≠ .zero sign := by
  unfold rootProduct
  rcases stored_sqrt positive fits with ⟨root, shifted, parts, full, rootFits, near⟩
  rcases stored_sqrt positive' fits' with ⟨root', shifted', parts', full', rootFits', near'⟩
  by_cases large : -195 ≤ shifted + shifted'
  · rw [storedRoot, storedRoot, parts.eq (Nat.lt_of_lt_of_le (by decide) full),
      parts'.eq (Nat.lt_of_lt_of_le (by decide) full'), mul_finite]
    exact stored_product_ne_zero full full' large _ sign
  · -- Both are the root of the least number, and their product is rounded up to it.
    have least := fits.least
    have least' := fits'.least
    unfold rootExponent at near near'
    have one {size : Nat} (some : 0 < size) (length : size.log2 = 0) : size = 1 := by
      have bounds := (Nat.log2_eq_iff (Nat.ne_of_gt some)).mp length
      omega
    obtain rfl := one positive (by omega)
    obtain rfl := one positive' (by omega)
    obtain rfl : exponent = -149 := by omega
    obtain rfl : exponent' = -149 := by omega
    have greater : (rootProduct (.finite .positive 1 (-149) (by decide))
        (.finite .positive 1 (-149) (by decide))).compare (.zero .positive) = some .gt := by
      decide +kernel
    intro zero
    rw [rootProduct, zero] at greater
    cases greater

theorem rootProduct_cases :
    (rootProduct (.finite .positive mantissa exponent positive)
        (.finite .positive mantissa' exponent' positive')).isInf ∨
      isProper (rootProduct (.finite .positive mantissa exponent positive)
        (.finite .positive mantissa' exponent' positive')) := by
  have nonzero := rootProduct_ne_zero positive positive' fits fits'
  rcases stored_sqrt positive fits with ⟨root, shifted, ⟨_, rootIs⟩, _⟩
  rcases stored_sqrt positive' fits' with ⟨root', shifted', ⟨_, rootIs'⟩, _⟩
  have isNumber : (rootProduct (.finite .positive mantissa exponent positive)
      (.finite .positive mantissa' exponent' positive')).isNaN = false := by
    apply isNaN_unpack_pack
    rw [storedRoot, storedRoot, rootIs, rootIs']
    exact isNaN_roundWithAccuracy _ _ _ _ _
  cases value : rootProduct (.finite .positive mantissa exponent positive)
      (.finite .positive mantissa' exponent' positive') with
  | infinity => exact .inl rfl
  | finite => exact .inr rfl
  | zero sign => exact absurd value (nonzero sign)
  | notANumber =>
      rw [value] at isNumber
      cases isNumber

end

end

end GroundedAnswers.Number
