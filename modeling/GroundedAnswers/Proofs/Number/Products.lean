import GroundedAnswers.Proofs.Number.Rounding

namespace GroundedAnswers.Number

open Float.Model (Format UnpackedFloat)
open Float.Model.UnpackedFloat

/-! Products and roots of single-precision numbers. A product is too large only if one of the two
squares is, and a product of roots is never rounded to zero. -/

theorem log2_mono {left right : Nat} (lessOrEqual : left ≤ right) : left.log2 ≤ right.log2 := by
  rw [Nat.log2_eq_log_two, Nat.log2_eq_log_two]
  exact Nat.log_mono_right lessOrEqual

/-! ## Products -/

def product (sign : Sign) (mantissa : Nat) (exponent : Int) (mantissa' : Nat) (exponent' : Int) :
    UnpackedFloat :=
  roundWithAccuracy Format.binary32 sign (mantissa * mantissa') (exponent + exponent') .exact

theorem mul_finite {sign sign' : Sign} {mantissa mantissa' : Nat} {exponent exponent' : Int}
    (positive : 0 < mantissa) (positive' : 0 < mantissa') :
    mul Format.binary32 (.finite sign mantissa exponent positive)
        (.finite sign' mantissa' exponent' positive') =
      product (sign * sign') mantissa exponent mantissa' exponent' := rfl

section

variable {mantissa mantissa' : Nat} {exponent exponent' : Int}

theorem FitsSingle.log2_le (fits : FitsSingle mantissa exponent) : mantissa.log2 ≤ 23 := by
  have greatest := log2_mono (Nat.le_pred_of_lt fits.bits)
  exact Nat.le_trans greatest (by decide)

theorem long_of_log2 (long : 23 ≤ mantissa.log2) (exponent : Int) :
    exponent ≤ targetOf mantissa exponent := by
  unfold targetOf
  omega

private theorem long_product (positive : 0 < mantissa) (positive' : 0 < mantissa')
    (fits : FitsSingle mantissa exponent) (fits' : FitsSingle mantissa' exponent') :
    exponent + exponent' ≤ targetOf (mantissa * mantissa') (exponent + exponent') := by
  have nonzero : mantissa * mantissa' ≠ 0 := Nat.ne_of_gt (Nat.mul_pos positive positive')
  rcases fits.full with full | least
  · apply long_of_log2
    exact (Nat.le_log2 nonzero).mpr (Nat.le_trans full (Nat.le_mul_of_pos_right _ positive'))
  · rcases fits'.full with full | least'
    · apply long_of_log2
      exact (Nat.le_log2 nonzero).mpr (Nat.le_trans full (Nat.le_mul_of_pos_left _ positive))
    · unfold targetOf
      omega

/-- A size that is rounded to infinity: its exponent is too large, or it is the largest and there is
a carry. -/
def Overflows (mantissa : Nat) (exponent : Int) : Prop :=
  105 ≤ targetOf mantissa exponent ∨
    (104 = targetOf mantissa exponent ∧ 2 ^ 25 - 1 ≤ mantissa / 2 ^ (mantissa.log2 - 24))

private theorem isInf_stored_round_iff (sign : Sign) (long : 24 ≤ mantissa.log2) :
    (stored (roundWithAccuracy Format.binary32 sign mantissa exponent .exact)).isInf ↔
      Overflows mantissa exponent := by
  have reaches := long_of_log2 (Nat.le_of_succ_le long) exponent
  have rounds := roundWithAccuracy_roundsTo sign reaches .exact
  rw [rounds.isInf_stored_iff, Overflows]
  have nonzero : mantissa ≠ 0 := by
    rintro rfl
    cases long
  have some : 104 ≤ targetOf mantissa exponent → roundedOf mantissa exponent .exact ≠ 0 := by
    intro large
    have size : -149 ≤ mantissa.log2 + exponent := by
      unfold targetOf at large
      omega
    have positive := quotient_pos (Nat.pos_of_ne_zero nonzero) size
    have cases := roundedOf_cases mantissa exponent .exact
    omega
  have carry : 104 = targetOf mantissa exponent →
      (roundedOf mantissa exponent .exact = 2 ^ 24 ↔
        2 ^ 25 - 1 ≤ mantissa / 2 ^ (mantissa.log2 - 24)) := by
    intro largest
    apply roundedOf_eq_carry_iff
    unfold targetOf at largest ⊢
    omega
  constructor
  · rintro (⟨large, _⟩ | ⟨largest, carried⟩)
    · exact .inl large
    · exact .inr ⟨largest, (carry largest).mp carried⟩
  · rintro (large | ⟨largest, carried⟩)
    · exact .inl ⟨large, some (by omega)⟩
    · exact .inr ⟨largest, (carry largest).mpr carried⟩

theorem log2_product_le (fits : FitsSingle mantissa exponent)
    (fits' : FitsSingle mantissa' exponent') : (mantissa * mantissa').log2 ≤ 47 := by
  have bounded : mantissa * mantissa' < 2 ^ 24 * 2 ^ 24 :=
    Nat.mul_lt_mul_of_lt_of_lt fits.bits fits'.bits
  by_cases none : mantissa * mantissa' = 0
  · rw [none]
    decide
  · exact Nat.le_of_lt_succ ((Nat.log2_lt none).mpr bounded)

theorem le_log2_product (full : 2 ^ 23 ≤ mantissa) (full' : 2 ^ 23 ≤ mantissa') :
    46 ≤ (mantissa * mantissa').log2 := by
  have least : 2 ^ 23 * 2 ^ 23 ≤ mantissa * mantissa' := Nat.mul_le_mul full full'
  have nonzero : mantissa * mantissa' ≠ 0 := by omega
  exact (Nat.le_log2 nonzero).mpr least

private theorem overflows_square (fits : FitsSingle mantissa exponent)
    (fits' : FitsSingle mantissa' exponent') (full : 2 ^ 23 ≤ mantissa) (full' : 2 ^ 23 ≤ mantissa')
    (order : exponent' < exponent ∨ (exponent' = exponent ∧ mantissa' ≤ mantissa))
    (overflows : Overflows (mantissa * mantissa') (exponent + exponent')) :
    Overflows (mantissa * mantissa) (exponent + exponent) := by
  have least := le_log2_product full full'
  have greatest := log2_product_le fits fits'
  have squareLeast := le_log2_product full full
  have squareGreatest := log2_product_le fits fits
  have positive : 0 < mantissa := Nat.lt_of_lt_of_le (by decide) full
  have nonzero : mantissa * mantissa ≠ 0 := Nat.ne_of_gt (Nat.mul_pos positive positive)
  by_cases large : 105 ≤ targetOf (mantissa * mantissa) (exponent + exponent)
  · exact .inl large
  · rcases order with less | ⟨rfl, lessOrEqual⟩
    · -- The exponents are next to each other, and so small a factor leaves no room for a carry.
      have lengths : (mantissa * mantissa').log2 = 47 ∧ (mantissa * mantissa).log2 = 46 := by
        unfold Overflows targetOf at overflows
        unfold targetOf at large
        omega
      have root : mantissa ≤ 11863283 := by
        by_contra larger
        have size : 11863284 * 11863284 ≤ mantissa * mantissa :=
          Nat.mul_le_mul (by omega) (by omega)
        have short := (Nat.log2_lt nonzero).mp (Nat.lt_succ_of_le (Nat.le_of_eq lengths.2))
        omega
      have bits := fits'.bits
      have small : mantissa * mantissa' ≤ 11863283 * (2 ^ 24 - 1) :=
        Nat.mul_le_mul root (by omega)
      unfold Overflows targetOf at overflows
      rw [lengths.1] at overflows
      unfold targetOf at large
      omega
    · have grows : mantissa * mantissa' ≤ mantissa * mantissa := Nat.mul_le_mul_left _ lessOrEqual
      have lengths := log2_mono grows
      rcases overflows with tooLarge | ⟨largest, carried⟩
      · unfold targetOf at tooLarge large
        omega
      · have same : (mantissa * mantissa').log2 = (mantissa * mantissa).log2 := by
          unfold targetOf at largest large
          omega
        refine .inr ⟨?_, ?_⟩
        · rw [largest, targetOf, targetOf, same]
        · rw [← same]
          exact Nat.le_trans carried (Nat.div_le_div_right grows)

/-- A product is infinite only where one of the squares is. -/
theorem isInf_square_of_product (positive : 0 < mantissa) (positive' : 0 < mantissa')
    (fits : FitsSingle mantissa exponent) (fits' : FitsSingle mantissa' exponent')
    (sign first second : Sign)
    (infinite : (stored (product sign mantissa exponent mantissa' exponent')).isInf) :
    (stored (product first mantissa exponent mantissa exponent)).isInf ∨
      (stored (product second mantissa' exponent' mantissa' exponent')).isInf := by
  have bound := log2_product_le fits fits'
  have greatest := fits.greatest
  have greatest' := fits'.greatest
  have normal : 2 ^ 23 ≤ mantissa ∧ 2 ^ 23 ≤ mantissa' := by
    -- With a factor of the least exponent, there is no room for so large a product.
    by_contra short
    have long := long_product positive positive' fits fits'
    have rounds := roundWithAccuracy_roundsTo sign long .exact
    have full := fits.full
    have full' := fits'.full
    have small : targetOf (mantissa * mantissa') (exponent + exponent') ≤ 103 := by
      unfold targetOf
      omega
    have large := rounds.isInf_stored_iff.mp infinite
    omega
  rcases normal with ⟨full, full'⟩
  have long {left right : Nat} (leftFull : 2 ^ 23 ≤ left) (rightFull : 2 ^ 23 ≤ right) :
      24 ≤ (left * right).log2 := Nat.le_trans (by decide) (le_log2_product leftFull rightFull)
  have overflows := (isInf_stored_round_iff sign (long full full')).mp infinite
  have order : (exponent' < exponent ∨ (exponent' = exponent ∧ mantissa' ≤ mantissa)) ∨
      (exponent < exponent' ∨ (exponent = exponent' ∧ mantissa ≤ mantissa')) := by
    omega
  rcases order with larger | larger
  · have square := overflows_square fits fits' full full' larger overflows
    exact .inl ((isInf_stored_round_iff first (long full full)).mpr square)
  · rw [Nat.mul_comm, Int.add_comm] at overflows
    have square := overflows_square fits' fits full' full larger overflows
    exact .inr ((isInf_stored_round_iff second (long full' full')).mpr square)

end

end GroundedAnswers.Number
