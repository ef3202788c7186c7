import GroundedAnswers.Proofs.Number.Roots

namespace GroundedAnswers.Number

open Float.Model (Format UnpackedFloat)
open Float.Model.UnpackedFloat

/-! Operations on single-precision numbers: which of them lead to numbers, to finite ones and to
ones that are not negative. -/

/-! ## Numbers that are not negative -/

/-- A number that is not negative. Both zeros are among them. -/
inductive NotNegative : UnpackedFloat → Prop
  | zero (sign : Sign) : NotNegative (.zero sign)
  | finite {mantissa : Nat} {exponent : Int} (positive : 0 < mantissa) :
      NotNegative (.finite .positive mantissa exponent positive)
  | infinity : NotNegative (.infinity .positive)

section

variable {left right : UnpackedFloat}

private theorem notNegative_unpack_packComponents (spec : Format)
    (exponent : BitVec spec.exponentBits) (mantissa : BitVec spec.mantissaBitsWithoutImplicit)
    (isNumber : (unpack spec (packComponents spec .positive exponent mantissa)).isNaN = false) :
    NotNegative (unpack spec (packComponents spec .positive exponent mantissa)) := by
  unfold unpack at isNumber ⊢
  dsimp only at isNumber ⊢
  rw [ofBitVec_unpackSign] at isNumber ⊢
  split
  · split
    · exact .infinity
    · rename_i all some
      rw [if_pos all, if_neg some] at isNumber
      cases isNumber
  · split
    · split
      · exact .zero _
      · exact .finite _
    · exact .finite _

private theorem exists_packComponents (sign : Sign) {mantissa : Nat} {exponent : Int}
    (positive : 0 < mantissa) :
    ∃ field fraction, pack Format.binary32 (.finite sign mantissa exponent positive) =
      packComponents Format.binary32 sign field fraction := by
  rw [pack_finite]
  split
  · exact ⟨_, _, rfl⟩
  · split <;> exact ⟨_, _, rfl⟩

namespace NotNegative

theorem stored (notNegative : NotNegative left) : NotNegative (stored left) := by
  cases notNegative with
  | zero sign =>
      rw [stored_zero]
      exact .zero sign
  | infinity =>
      rw [stored_infinity]
      exact .infinity
  | @finite mantissa exponent positive =>
      rcases exists_packComponents .positive positive with ⟨field, fraction, packed⟩
      have isNumber := @isNaN_unpack_pack Format.binary32
        (.finite .positive mantissa exponent positive) rfl
      unfold Number.stored
      rw [packed] at isNumber ⊢
      exact notNegative_unpack_packComponents _ _ _ isNumber

theorem roundWithAccuracy (spec : Format) (mantissa : Nat) (exponent : Int) (accuracy : Accuracy) :
    NotNegative (roundWithAccuracy spec .positive mantissa exponent accuracy) := by
  unfold UnpackedFloat.roundWithAccuracy
  dsimp only
  split
  · exact .zero _
  · exact .finite _

private theorem normalize (spec : Format) {mantissa : Int} (positive : 0 ≤ mantissa)
    (exponent : Int) :
    NotNegative (UnpackedFloat.normalize spec mantissa exponent .positive) := by
  unfold UnpackedFloat.normalize
  split
  · rename_i less
    rw [compare_lt_iff_lt] at less
    omega
  · exact .zero _
  · exact .roundWithAccuracy _ _ _ _

theorem add (spec : Format) (leftIs : NotNegative left) (rightIs : NotNegative right) :
    NotNegative (add spec left right) := by
  cases leftIs with
  | zero sign =>
      cases rightIs with
      | zero other => cases sign <;> cases other <;> exact .zero _
      | finite positive => exact .finite positive
      | infinity => exact .infinity
  | finite positive =>
      cases rightIs with
      | zero other => exact .finite positive
      | finite positive' =>
          exact .normalize spec (Int.add_nonneg (Int.natCast_nonneg _) (Int.natCast_nonneg _)) _
      | infinity => exact .infinity
  | infinity => cases rightIs <;> exact .infinity

theorem isInf_add (spec : Format) (leftIs : NotNegative left) (rightIs : NotNegative right)
    (infinite : left.isInf ∨ right.isInf) : (UnpackedFloat.add spec left right).isInf := by
  cases leftIs with
  | infinity => cases rightIs <;> rfl
  | zero sign =>
      cases rightIs with
      | infinity => rfl
      | _ => simp [UnpackedFloat.isInf] at infinite
  | finite positive =>
      cases rightIs with
      | infinity => rfl
      | _ => simp [UnpackedFloat.isInf] at infinite

private theorem mul_self (spec : Format) (isNumber : left.isNaN = false) :
    NotNegative (mul spec left left) := by
  cases left with
  | notANumber => cases isNumber
  | zero sign => exact .zero _
  | infinity sign => cases sign <;> exact .infinity
  | finite sign => cases sign <;> exact .roundWithAccuracy _ _ _ _

end NotNegative

/-! ## Finite numbers -/

theorem isFinite_iff : left.isFinite ↔ left.isNaN = false ∧ ¬left.isInf := by
  cases left <;> simp [UnpackedFloat.isFinite, UnpackedFloat.isNaN, UnpackedFloat.isInf]

theorem not_isInf_of_isProper (proper : isProper left) : ¬left.isInf := by
  cases left <;> cases proper
  exact Bool.false_ne_true

private theorem isNaN_normalize (spec : Format) (mantissa exponent : Int) (zeroSign : Sign) :
    (UnpackedFloat.normalize spec mantissa exponent zeroSign).isNaN = false := by
  unfold UnpackedFloat.normalize
  split
  · exact isNaN_roundWithAccuracy _ _ _ _ _
  · rfl
  · exact isNaN_roundWithAccuracy _ _ _ _ _

private theorem isNaN_add_finite (spec : Format) (finite : right.isFinite) :
    (add spec left right).isNaN = left.isNaN := by
  cases right with
  | notANumber => cases finite
  | infinity other => cases finite
  | zero other =>
      cases left with
      | zero sign => cases sign <;> cases other <;> rfl
      | _ => rfl
  | finite =>
      cases left with
      | finite => exact isNaN_normalize _ _ _ _
      | _ => rfl

private theorem isNaN_proper_mul (spec : Format) (proper : isProper left) :
    (mul spec left right).isNaN = right.isNaN := by
  cases left <;> cases proper
  cases right with
  | finite => exact isNaN_roundWithAccuracy _ _ _ _ _
  | _ => rfl

private theorem isNaN_stored (value : UnpackedFloat) : (stored value).isNaN = value.isNaN := by
  cases isNumber : value.isNaN with
  | false => exact isNaN_unpack_pack Format.binary32 isNumber
  | true =>
      cases value <;> cases isNumber
      decide

end

/-! ## Single precision -/

inductive Representable : UnpackedFloat → Prop
  | zero (sign : Sign) : Representable (.zero sign)
  | finite (sign : Sign) {mantissa : Nat} {exponent : Int} (positive : 0 < mantissa)
      (fits : FitsSingle mantissa exponent) :
      Representable (.finite sign mantissa exponent positive)

section

variable {left right : UnpackedFloat}

theorem Representable.isNaN_mul (leftIs : Representable left) (rightIs : Representable right) :
    (mul Format.binary32 left right).isNaN = false := by
  cases leftIs with
  | zero sign => cases rightIs <;> rfl
  | finite sign positive fits =>
      cases rightIs with
      | zero other => rfl
      | finite other positive' fits' => exact isNaN_roundWithAccuracy _ _ _ _ _

/-- A product is infinite only where one of the squares is. -/
theorem Representable.isInf_square_of_mul (leftIs : Representable left)
    (rightIs : Representable right) (infinite : (stored (mul Format.binary32 left right)).isInf) :
    (stored (mul Format.binary32 left left)).isInf ∨
      (stored (mul Format.binary32 right right)).isInf := by
  cases leftIs with
  | zero sign => cases rightIs <;> exact absurd infinite (not_isInf_stored_zero _)
  | finite sign positive fits =>
      cases rightIs with
      | zero other => exact absurd infinite (not_isInf_stored_zero _)
      | finite other positive' fits' =>
          rw [mul_finite] at infinite ⊢
          rw [mul_finite]
          exact isInf_square_of_product positive positive' fits fits' _ _ _ infinite

end

abbrev IsFinite (value : Float32) : Prop :=
  value.isFinite = true

section

variable {first second : Float32}

theorem IsFinite.representable (finite : IsFinite first) : Representable first.toModel.unpack := by
  change first.toModel.unpack.isFinite = true at finite
  cases value : first.toModel.unpack with
  | zero sign => exact .zero sign
  | finite sign mantissa exponent positive =>
      exact .finite sign positive (fits_of_unpack positive value)
  | notANumber =>
      rw [value] at finite
      cases finite
  | infinity sign =>
      rw [value] at finite
      cases finite

theorem IsFinite.isNumber (finite : IsFinite first) : IsNumber first :=
  (isFinite_iff.mp finite).1

theorem IsFinite.isNumber_mul (firstIs : IsFinite first) (secondIs : IsFinite second) :
    IsNumber (first * second) :=
  isNaN_unpack_pack Format.binary32 (firstIs.representable.isNaN_mul secondIs.representable)

theorem IsFinite.mul (firstIs : IsFinite first) (secondIs : IsFinite second)
    (square : IsFinite (first * first)) (square' : IsFinite (second * second)) :
    IsFinite (first * second) := by
  refine isFinite_iff.mpr ⟨firstIs.isNumber_mul secondIs, fun infinite => ?_⟩
  rcases firstIs.representable.isInf_square_of_mul secondIs.representable infinite with
    tooLarge | tooLarge
  · exact (isFinite_iff.mp square).2 tooLarge
  · exact (isFinite_iff.mp square').2 tooLarge

theorem notNegative_add (firstIs : NotNegative first.toModel.unpack)
    (secondIs : NotNegative second.toModel.unpack) :
    NotNegative (first + second).toModel.unpack :=
  (firstIs.add Format.binary32 secondIs).stored

theorem isInf_add (firstIs : NotNegative first.toModel.unpack)
    (secondIs : NotNegative second.toModel.unpack) (infinite : first.isInf ∨ second.isInf) :
    (first + second).isInf := by
  have sum := firstIs.isInf_add Format.binary32 secondIs infinite
  change (stored (add Format.binary32 first.toModel.unpack second.toModel.unpack)).isInf = true
  generalize add Format.binary32 first.toModel.unpack second.toModel.unpack = value at sum
  cases value <;> cases sum
  exact isInf_stored_infinity _

theorem notNegative_mul_self (isNumber : IsNumber first) :
    NotNegative (first * first).toModel.unpack :=
  (NotNegative.mul_self Format.binary32 isNumber).stored

/-- By infinity, exactly the finite numbers can be divided. -/
theorem isNumber_div_of_isInf (infinite : second.isInf) :
    IsNumber (first / second) ↔ IsFinite first := by
  change second.toModel.unpack.isInf = true at infinite
  change (stored (div Format.binary32 first.toModel.unpack second.toModel.unpack)).isNaN = false ↔
    first.toModel.unpack.isFinite = true
  rw [isNaN_stored]
  generalize second.toModel.unpack = divisor at infinite
  cases divisor <;> cases infinite
  cases first.toModel.unpack <;> simp [div, UnpackedFloat.isNaN, UnpackedFloat.isFinite]

theorem isNumber_div_of_isProper (isNumber : IsNumber first)
    (proper : isProper second.toModel.unpack) : IsNumber (first / second) :=
  isNaN_unpack_pack Format.binary32 (isNaN_div_proper Format.binary32 isNumber proper)

theorem isNumber_add_finite_iff (finite : IsFinite second) :
    IsNumber (first + second) ↔ IsNumber first := by
  change (stored (add Format.binary32 first.toModel.unpack second.toModel.unpack)).isNaN = false ↔ _
  rw [isNaN_stored, isNaN_add_finite Format.binary32 finite]
  rfl

theorem isNumber_proper_mul_iff (proper : isProper first.toModel.unpack) :
    IsNumber (first * second) ↔ IsNumber second := by
  change (stored (mul Format.binary32 first.toModel.unpack second.toModel.unpack)).isNaN = false ↔ _
  rw [isNaN_stored, isNaN_proper_mul Format.binary32 proper]
  rfl

/-! ## Roots -/

private theorem unpack_zero : (0.0 : Float32).toModel.unpack = .zero .positive := rfl

private theorem beq_zero_iff : first == 0.0 ↔ ∃ sign, first.toModel.unpack = .zero sign := by
  change (first.toModel.unpack.compare (0.0 : Float32).toModel.unpack == some .eq) = true ↔ _
  rw [unpack_zero]
  cases first.toModel.unpack with
  | notANumber => simp [UnpackedFloat.compare]
  | zero sign => simp [UnpackedFloat.compare]
  | infinity sign => cases sign <;> simp [UnpackedFloat.compare]
  | finite sign => cases sign <;> simp [UnpackedFloat.compare]

theorem not_isInf_mul_of_zero (zero : first == 0.0 ∨ second == 0.0) : ¬(first * second).isInf := by
  change ¬(stored (mul Format.binary32 first.toModel.unpack second.toModel.unpack)).isInf = true
  rw [beq_zero_iff, beq_zero_iff] at zero
  have undefined : ¬(stored .notANumber).isInf := by decide
  rcases zero with ⟨sign, zero⟩ | ⟨sign, zero⟩
  · rw [zero]
    cases second.toModel.unpack with
    | infinity | notANumber => exact undefined
    | zero | finite => exact not_isInf_stored_zero _
  · rw [zero]
    cases first.toModel.unpack with
    | infinity | notANumber => exact undefined
    | zero | finite => exact not_isInf_stored_zero _

inductive Radicand : UnpackedFloat → Prop
  | zero (sign : Sign) : Radicand (.zero sign)
  | finite {mantissa : Nat} {exponent : Int} (positive : 0 < mantissa)
      (fits : FitsSingle mantissa exponent) :
      Radicand (.finite .positive mantissa exponent positive)
  | infinity : Radicand (.infinity .positive)

theorem NotNegative.radicand (notNegative : NotNegative first.toModel.unpack) :
    Radicand first.toModel.unpack := by
  generalize value : first.toModel.unpack = unpacked at notNegative ⊢
  cases notNegative with
  | zero sign => exact .zero sign
  | finite positive => exact .finite positive (fits_of_unpack positive value)
  | infinity => exact .infinity

theorem Radicand.rootProduct_cases {left right : UnpackedFloat} (leftIs : Radicand left)
    (rightIs : Radicand right) (some : ∀ sign, storedRoot left ≠ .zero sign)
    (some' : ∀ sign, storedRoot right ≠ .zero sign) :
    (rootProduct left right).isInf ∨
      isProper (rootProduct left right) ∧ left.isFinite ∧ right.isFinite := by
  have rootOfInfinity : storedRoot (.infinity .positive) = .infinity .positive :=
    stored_infinity .positive
  cases leftIs with
  | zero sign => exact absurd (stored_zero sign) (some sign)
  | infinity =>
      rw [rootProduct, rootOfInfinity]
      cases rightIs with
      | zero sign => exact absurd (stored_zero sign) (some' sign)
      | infinity =>
          rw [rootOfInfinity]
          exact .inl (isInf_stored_infinity _)
      | finite positive fits =>
          rcases stored_sqrt positive fits with ⟨_, _, ⟨_, root⟩, _⟩
          rw [storedRoot, root]
          exact .inl (isInf_stored_infinity _)
  | finite positive fits =>
      cases rightIs with
      | zero sign => exact absurd (stored_zero sign) (some' sign)
      | infinity =>
          rcases stored_sqrt positive fits with ⟨_, _, ⟨_, root⟩, _⟩
          rw [rootProduct, rootOfInfinity, storedRoot, root]
          exact .inl (isInf_stored_infinity _)
      | finite positive' fits' =>
          refine (Number.rootProduct_cases positive positive' fits fits').imp id ?_
          exact fun proper => ⟨proper, rfl, rfl⟩

/-- A product of roots other than zero is infinite, or it is a number other than zero and what the
roots are of is finite. -/
theorem mul_sqrt_cases (firstIs : NotNegative first.toModel.unpack)
    (secondIs : NotNegative second.toModel.unpack) (some : ¬first.sqrt == 0.0)
    (some' : ¬second.sqrt == 0.0) :
    (first.sqrt * second.sqrt).isInf ∨
      isProper (first.sqrt * second.sqrt).toModel.unpack ∧ IsFinite first ∧ IsFinite second := by
  rw [beq_zero_iff] at some some'
  exact firstIs.radicand.rootProduct_cases secondIs.radicand (not_exists.mp some)
    (not_exists.mp some')

end

end GroundedAnswers.Number
