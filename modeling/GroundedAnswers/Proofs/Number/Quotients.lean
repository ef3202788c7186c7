import GroundedAnswers.Proofs.Number.Shares

namespace GroundedAnswers.Number

open Float.Model (Format UnpackedFloat totalExponent)
open Float.Model.UnpackedFloat

/-! The order of rounded quotients. Division rounds the exact quotient once, and rounding never
turns an order around, neither within a binade nor from one binade to another. -/

/-! ## Whole numbers -/

section

variable {numerator denominator numerator' denominator' : Nat}

private theorem roundQuotient_mono (positive : 0 < denominator) (positive' : 0 < denominator')
    (lessOrEqual : numerator * denominator' ≤ numerator' * denominator) :
    roundQuotient numerator denominator ≤ roundQuotient numerator' denominator' := by
  have near := (roundQuotient_near numerator denominator positive).1
  have near' := (roundQuotient_near numerator' denominator' positive').2
  have even := @even_roundQuotient_of_tie numerator denominator positive
  have even' := @even_roundQuotient_of_tie numerator' denominator' positive'
  generalize roundQuotient numerator denominator = rounded at near even ⊢
  generalize roundQuotient numerator' denominator' = rounded' at near' even' ⊢
  by_contra greater
  -- Only where both quotients lie halfway can the order turn around, and then both results are even.
  have scale : 0 < denominator * denominator' := Nat.mul_pos positive positive'
  have lower := Nat.mul_le_mul_right denominator' near
  have upper := Nat.mul_le_mul_right denominator near'
  have next : rounded = rounded' + 1 := by nlinarith
  have tie : 2 * (rounded * denominator) = 2 * numerator + denominator := by
    apply Nat.le_antisymm near
    apply Nat.le_of_mul_le_mul_right _ positive'
    rw [next]
    nlinarith
  have tie' : 2 * numerator' = 2 * (rounded' * denominator') + denominator' := by
    apply Nat.le_antisymm near'
    apply Nat.le_of_mul_le_mul_right _ positive
    rw [next] at lower
    nlinarith
  have both := even (.inl tie)
  have both' := even' (.inr tie')
  omega

end

/-! ## Division -/

/-- A quotient that is cut to a whole number, with what the rest means for rounding. -/
def extendedQuotient (numerator denominator : Nat) : ExtendedMantissa :=
  .ofMantissaAndAccuracy (numerator / denominator)
    (accuracyOfFraction (numerator % denominator) denominator)

section

variable (numerator : Nat) {denominator : Nat} (positive : 0 < denominator)

private theorem extendedQuotient_eq :
    extendedQuotient numerator denominator =
      ⟨numerator / denominator,
        numerator % denominator ≠ 0 ∧ denominator ≤ 2 * (numerator % denominator),
        numerator % denominator ≠ 0 ∧ 2 * (numerator % denominator) ≠ denominator⟩ := by
  unfold extendedQuotient accuracyOfFraction
  by_cases exact : numerator % denominator = 0
  · simp [exact, ExtendedMantissa.ofMantissaAndAccuracy]
  · rw [if_neg exact]
    rcases lt_trichotomy (2 * (numerator % denominator)) denominator with less | same | greater
    · rw [compare_lt_iff_lt.mpr less]
      simp [ExtendedMantissa.ofMantissaAndAccuracy, exact, less, less.ne]
    · rw [compare_eq_iff_eq.mpr same]
      simp [ExtendedMantissa.ofMantissaAndAccuracy, exact, same]
    · rw [compare_gt_iff_gt.mpr greater]
      simp [ExtendedMantissa.ofMantissaAndAccuracy, exact, greater.le, greater.ne']

include positive

private theorem roundedMantissa_extendedQuotient :
    (extendedQuotient numerator denominator).roundedMantissa =
      roundQuotient numerator denominator := by
  unfold extendedQuotient accuracyOfFraction roundQuotient
  dsimp only
  by_cases exact : numerator % denominator = 0
  · rw [exact, if_pos rfl, if_pos positive]
    rfl
  · rw [if_neg exact]
    rcases lt_trichotomy (2 * (numerator % denominator)) denominator with less | same | greater
    · rw [compare_lt_iff_lt.mpr less, if_pos less]
      rfl
    · rw [compare_eq_iff_eq.mpr same, if_neg same.not_lt, if_neg same.not_gt]
      rfl
    · rw [compare_gt_iff_gt.mpr greater, if_neg greater.not_gt, if_pos greater]
      rfl

private theorem shiftRightOne_extendedQuotient :
    (extendedQuotient numerator denominator).shiftRightOne =
      extendedQuotient numerator (denominator * 2) := by
  have remainder := Nat.mod_lt numerator positive
  rw [extendedQuotient_eq, extendedQuotient_eq, ExtendedMantissa.shiftRightOne, Nat.mod_mul,
    Nat.div_div_eq_div_mul]
  generalize numerator % denominator = rest at remainder ⊢
  have parity := Nat.mod_two_eq_zero_or_one (numerator / denominator)
  congr 1
  · rcases parity with even | odd
    · simp [even]
      omega
    · simp [odd]
      omega
  · rw [Bool.eq_iff_iff]
    rcases parity with even | odd
    · simp [even]
      omega
    · simp [odd]
      omega

private theorem shiftRight_extendedQuotient (count : Nat) :
    extendedQuotient numerator denominator >>> count =
      extendedQuotient numerator (denominator * 2 ^ count) := by
  induction count with
  | zero => rw [Nat.pow_zero, Nat.mul_one]; rfl
  | succ count induction =>
      have step : extendedQuotient numerator denominator >>> (count + 1) =
          (extendedQuotient numerator denominator >>> count).shiftRightOne := rfl
      rw [step, induction, shiftRightOne_extendedQuotient _ (by positivity), Nat.mul_assoc,
        Nat.pow_succ]

/-- The quotient is not rounded twice: what was shifted out still counts. -/
theorem roundedOf_quotient (exponent : Int) :
    roundedOf (numerator / denominator) exponent
        (accuracyOfFraction (numerator % denominator) denominator) =
      roundQuotient numerator
        (denominator * 2 ^ (targetOf (numerator / denominator) exponent - exponent).toNat) := by
  rw [roundedOf, ← extendedQuotient, shiftRight_extendedQuotient numerator positive,
    roundedMantissa_extendedQuotient _ (by positivity)]

end

/-! ## Significands with all bits -/

structure Full (mantissa : Nat) : Prop where
  least : 2 ^ 23 ≤ mantissa
  bits : mantissa < 2 ^ 24

section

variable {mantissa divisor : Nat} {exponent divisorExponent : Int}

namespace Full

variable (full : Full mantissa)

include full

theorem positive : 0 < mantissa := Nat.lt_of_lt_of_le (Nat.two_pow_pos 23) full.least

private theorem log2_eq : mantissa.log2 = 23 :=
  (Nat.log2_eq_iff (Nat.ne_of_gt full.positive)).mpr ⟨full.least, full.bits⟩

end Full

/-- What a quotient of full significands, shifted by the width of the format, has of bits beyond
those of the format. -/
def surplus (mantissa divisor : Nat) : Nat :=
  if divisor ≤ mantissa then 1 else 0

private theorem surplus_cases (mantissa divisor : Nat) :
    surplus mantissa divisor = 1 ∧ divisor ≤ mantissa ∨
      surplus mantissa divisor = 0 ∧ mantissa < divisor := by
  unfold surplus
  split
  · exact .inl ⟨rfl, ‹_›⟩
  · exact .inr ⟨rfl, Nat.lt_of_not_le ‹_›⟩

variable (full : Full mantissa) (fullDivisor : Full divisor)

include full fullDivisor

private theorem log2_quotient_full :
    (mantissa * 2 ^ 24 / divisor).log2 = 23 + surplus mantissa divisor := by
  rcases full with ⟨least, bits⟩
  rcases fullDivisor with ⟨leastDivisor, bitsDivisor⟩
  have positive : 0 < divisor := by omega
  have some : mantissa * 2 ^ 24 / divisor ≠ 0 :=
    Nat.ne_of_gt (Nat.div_pos (by omega) positive)
  rw [Nat.log2_eq_iff some, Nat.le_div_iff_mul_le positive, Nat.div_lt_iff_lt_mul positive]
  rcases surplus_cases mantissa divisor with ⟨one, lessOrEqual⟩ | ⟨none, less⟩
  · rw [one]
    omega
  · rw [none]
    omega

private theorem full_roundQuotient :
    2 ^ 23 ≤ roundQuotient (mantissa * 2 ^ 24) (divisor * 2 ^ surplus mantissa divisor) := by
  have positive := fullDivisor.positive
  have bits := full.bits
  have bitsDivisor := fullDivisor.bits
  have least : 2 ^ 23 ≤ mantissa * 2 ^ 24 / (divisor * 2 ^ surplus mantissa divisor) := by
    rw [Nat.le_div_iff_mul_le (by positivity)]
    have leastMantissa := full.least
    rcases surplus_cases mantissa divisor with ⟨one, lessOrEqual⟩ | ⟨none, less⟩
    · rw [one]
      omega
    · rw [none]
      omega
  have cases := roundQuotient_cases (mantissa * 2 ^ 24) (divisor * 2 ^ surplus mantissa divisor)
  omega

variable (near : -125 ≤ exponent - divisorExponent)

include near

private theorem divCore_full :
    divCore Format.binary32 mantissa exponent divisor divisorExponent =
      (mantissa * 2 ^ 24 / divisor, exponent - divisorExponent - 24,
        accuracyOfFraction (mantissa * 2 ^ 24 % divisor) divisor) := by
  have least : Format.binary32.minExponent = -149 := rfl
  have width : (Format.binary32.mantissaBits : Int) = 24 := rfl
  have target : min (exponent - divisorExponent)
      (max ((23 : Nat) + 1 + exponent - ((23 : Nat) + 1 + divisorExponent) - 24) (-149)) =
        exponent - divisorExponent - 24 := by
    omega
  have shift : (exponent - divisorExponent - (exponent - divisorExponent - 24)).toNat = 24 := by
    omega
  unfold divCore
  dsimp only
  rw [Format.targetExponent, totalExponent, totalExponent, full.log2_eq, fullDivisor.log2_eq,
    least, width, target, shift, Nat.shiftLeft_eq]

private theorem div_roundsTo (sign sign' : Sign) (positive : 0 < mantissa) (some : 0 < divisor) :
    RoundsTo (sign / sign') (exponent - divisorExponent - 24 + surplus mantissa divisor)
      (roundQuotient (mantissa * 2 ^ 24) (divisor * 2 ^ surplus mantissa divisor))
      (div Format.binary32 (.finite sign mantissa exponent positive)
        (.finite sign' divisor divisorExponent some)) := by
  have target : targetOf (mantissa * 2 ^ 24 / divisor) (exponent - divisorExponent - 24) =
      exponent - divisorExponent - 24 + surplus mantissa divisor := by
    rw [targetOf, log2_quotient_full full fullDivisor]
    omega
  have long : exponent - divisorExponent - 24 ≤
      targetOf (mantissa * 2 ^ 24 / divisor) (exponent - divisorExponent - 24) := by
    omega
  have rounds := roundWithAccuracy_roundsTo (sign / sign') long
    (accuracyOfFraction (mantissa * 2 ^ 24 % divisor) divisor)
  rw [roundedOf_quotient _ some, target, add_sub_cancel_left, Int.toNat_natCast] at rounds
  rw [div, divCore_full full fullDivisor near]
  exact rounds

end

/-! ## The order of numbers -/

private theorem place_finite_le {mantissa mantissa' : Nat} {exponent exponent' : Int}
    (positive : 0 < mantissa) (positive' : 0 < mantissa')
    (order : exponent < exponent' ∨ exponent = exponent' ∧ mantissa ≤ mantissa') :
    place (.finite .positive mantissa exponent positive) ≤
      place (.finite .positive mantissa' exponent' positive') := by
  refine Prod.Lex.toLex_le_toLex.mpr (.inr ⟨rfl, Prod.Lex.toLex_le_toLex.mpr ?_⟩)
  exact order.imp id fun same => ⟨same.1, Int.ofNat_le.mpr same.2⟩

/-- Numbers with all bits stand in the order of what they are rounded from. -/
theorem place_le_of_roundsTo {target target' : Int} {rounded rounded' : Nat}
    {value value' : UnpackedFloat} (rounds : RoundsTo .positive target rounded value)
    (rounds' : RoundsTo .positive target' rounded' value') (full : 2 ^ 23 ≤ rounded)
    (full' : 2 ^ 23 ≤ rounded') (order : target < target' ∨ target = target' ∧ rounded ≤ rounded') :
    place value ≤ place value' := by
  cases rounds with
  | zero => cases full
  | kept positive bits =>
      cases rounds' with
      | zero => cases full'
      | kept positive' bits' => exact place_finite_le positive positive' order
      | carried => exact place_finite_le positive _ (by omega)
  | carried =>
      cases rounds' with
      | zero => cases full'
      | kept positive' bits' => exact place_finite_le _ positive' (by omega)
      | carried => exact place_finite_le _ _ (by omega)

section

variable {mantissa mantissa' divisor : Nat} {exponent exponent' divisorExponent : Int}
  (full : Full mantissa) (full' : Full mantissa') (fullDivisor : Full divisor)
  (order : exponent < exponent' ∨ exponent = exponent' ∧ mantissa ≤ mantissa')

include full full' order

/-- The exponent of a quotient of full significands decides before its rounded significand. -/
theorem quotient_order :
    exponent + surplus mantissa divisor < exponent' + surplus mantissa' divisor ∨
      exponent + surplus mantissa divisor = exponent' + surplus mantissa' divisor ∧
        mantissa * 2 ^ surplus mantissa' divisor ≤ mantissa' * 2 ^ surplus mantissa divisor := by
  have bits := full.bits
  have least' := full'.least
  rcases surplus_cases mantissa divisor with ⟨one, lessOrEqual⟩ | ⟨none, less⟩
  · rcases surplus_cases mantissa' divisor with ⟨one', lessOrEqual'⟩ | ⟨none', less'⟩
    · rw [one, one']
      omega
    · rw [one, none']
      omega
  · rcases surplus_cases mantissa' divisor with ⟨one', lessOrEqual'⟩ | ⟨none', less'⟩
    · rw [none, one']
      omega
    · rw [none, none']
      omega

include fullDivisor

private theorem place_div_le (positive : 0 < mantissa) (positive' : 0 < mantissa')
    (some : 0 < divisor) (near : -125 ≤ exponent - divisorExponent)
    (near' : exponent' - divisorExponent ≤ 125) :
    place (stored (div Format.binary32 (.finite .positive mantissa exponent positive)
        (.finite .positive divisor divisorExponent some))) ≤
      place (stored (div Format.binary32 (.finite .positive mantissa' exponent' positive')
        (.finite .positive divisor divisorExponent some))) := by
  have nearBelow : -125 ≤ exponent' - divisorExponent := by omega
  have surplusCases := surplus_cases mantissa divisor
  have surplusCases' := surplus_cases mantissa' divisor
  have rounds := div_roundsTo full fullDivisor near .positive .positive positive some
  have rounds' := div_roundsTo full' fullDivisor nearBelow .positive .positive positive' some
  have quotientFull := full_roundQuotient full fullDivisor
  have quotientFull' := full_roundQuotient full' fullDivisor
  rw [rounds.stored_eq (by omega) (by omega) (.inl quotientFull),
    rounds'.stored_eq (by omega) (by omega) (.inl quotientFull')]
  apply place_le_of_roundsTo rounds rounds' quotientFull quotientFull'
  rcases @quotient_order _ _ divisor _ _ full full' order with less | ⟨same, lessOrEqual⟩
  · exact .inl (by omega)
  · refine .inr ⟨by omega, roundQuotient_mono (by positivity) (by positivity) ?_⟩
    calc mantissa * 2 ^ 24 * (divisor * 2 ^ surplus mantissa' divisor)
        = mantissa * 2 ^ surplus mantissa' divisor * (2 ^ 24 * divisor) := by ring
      _ ≤ mantissa' * 2 ^ surplus mantissa divisor * (2 ^ 24 * divisor) :=
          Nat.mul_le_mul_right _ lessOrEqual
      _ = mantissa' * 2 ^ 24 * (divisor * 2 ^ surplus mantissa divisor) := by ring

end

/-! ## The order of shares -/

section

variable {count count' part part' whole : Nat}

private theorem roundedBits_mono (some : 0 < count) (more : count ≤ count') :
    binary32.roundedBits count 1 ≤ binary32.roundedBits count' 1 := by
  have some' : 0 < count' := Nat.lt_of_lt_of_le some more
  have significand := roundQuotient_count some
  have significand' := roundQuotient_count some'
  have length := log2_mono more
  rw [roundedBits_eq some, roundedBits_eq some']
  apply min_le_min_right
  by_cases same : count.log2 = count'.log2
  · rw [same]
    apply Nat.add_le_add_right
    apply roundQuotient_mono (Nat.two_pow_pos _) (Nat.two_pow_pos _)
    exact Nat.mul_le_mul_right _ (Nat.mul_le_mul_right _ more)
  · omega

private theorem place_zero_le {value : UnpackedFloat} (notNegative : NotNegative value)
    (sign : Sign) :
    place (.zero sign) ≤ place value := by
  cases notNegative with
  | zero other => exact le_rfl
  | finite positive => exact Prod.Lex.toLex_le_toLex.mpr (.inl Int.one_pos)
  | infinity => exact Prod.Lex.toLex_le_toLex.mpr (.inl (by decide))

theorem share_mono (some : 0 < whole) (bounded : whole < 2 ^ 64) (more : part ≤ part')
    (within : part' ≤ whole) :
    narrowInt part / narrowInt whole ≤ narrowInt part' / narrowInt whole := by
  have isNumber : IsNumber (narrowInt part / narrowInt whole) :=
    (isFinite_share some bounded (Nat.le_trans more within)).isNumber
  have isNumber' : IsNumber (narrowInt part' / narrowInt whole) :=
    (isFinite_share some bounded within).isNumber
  rw [isNumber.le_iff_place_le isNumber']
  change place (stored (div Format.binary32 (narrowInt part).toModel.unpack
      (narrowInt whole).toModel.unpack)) ≤
    place (stored (div Format.binary32 (narrowInt part').toModel.unpack
      (narrowInt whole).toModel.unpack))
  have sized := roundedBits_count some bounded
  rcases hasParts_narrowInt some bounded with ⟨positive, wholeIs⟩
  have zero : (narrowInt (0 : Nat)).toModel.unpack = .zero .positive := rfl
  rw [wholeIs]
  rcases Nat.eq_zero_or_pos part with rfl | somePart
  · rw [zero]
    change place (stored (.zero .positive)) ≤ _
    rw [stored_zero]
    refine place_zero_le (NotNegative.stored ?_) _
    rcases Nat.eq_zero_or_pos part' with rfl | somePart'
    · rw [zero]
      exact .zero _
    · rcases hasParts_narrowInt somePart' (by omega) with ⟨positivePart', partIs'⟩
      rw [partIs']
      exact .roundWithAccuracy _ _ _ _
  · have somePart' : 0 < part' := Nat.lt_of_lt_of_le somePart more
    have sizedPart := roundedBits_count somePart (by omega)
    have sizedPart' := roundedBits_count somePart' (by omega)
    have order := roundedBits_mono somePart more
    rcases hasParts_narrowInt somePart (by omega) with ⟨positivePart, partIs⟩
    rcases hasParts_narrowInt somePart' (by omega) with ⟨positivePart', partIs'⟩
    rw [partIs, partIs']
    apply place_div_le ⟨by omega, by omega⟩ ⟨by omega, by omega⟩ ⟨by omega, by omega⟩
      <;> omega

end

end GroundedAnswers.Number
