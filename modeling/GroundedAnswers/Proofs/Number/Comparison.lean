import Mathlib.Data.Prod.Lex
import Mathlib.Order.Compare

namespace GroundedAnswers.Number

open Float.Model (UnpackedFloat)

/-! Comparing single-precision numbers. Apart from what is not a number, all of them stand in one
line, in which only the two zeros share a place. -/

/-- The place of a number in the line: infinities at its ends, zero between the numbers of either
sign. Within a sign the exponent decides before the significand. -/
def place : UnpackedFloat → Int ×ₗ Int ×ₗ Int
  | .infinity .negative => toLex (-2, toLex (0, 0))
  | .finite .negative significand exponent _ => toLex (-1, toLex (-exponent, -significand))
  | .zero _ => toLex (0, toLex (0, 0))
  | .finite .positive significand exponent _ => toLex (1, toLex (exponent, significand))
  | .infinity .positive => toLex (2, toLex (0, 0))
  | .notANumber => toLex (0, toLex (0, 0))

private theorem compare_neg (left right : Int) :
    compare (-left) (-right) = (compare left right).swap := by
  rcases lt_trichotomy left right with less | same | greater
  · rw [compare_lt_iff_lt.mpr less, compare_gt_iff_gt.mpr (Int.neg_lt_neg less)]
    rfl
  · rw [same, compare_eq_iff_eq.mpr rfl, compare_eq_iff_eq.mpr rfl]
    rfl
  · rw [compare_gt_iff_gt.mpr greater, compare_lt_iff_lt.mpr (Int.neg_lt_neg greater)]
    rfl

private theorem compare_natCast (left right : Nat) :
    compare (left : Int) right = compare left right := by
  rcases lt_trichotomy left right with less | same | greater
  · rw [compare_lt_iff_lt.mpr less, compare_lt_iff_lt.mpr (Int.ofNat_lt.mpr less)]
  · rw [same, compare_eq_iff_eq.mpr rfl, compare_eq_iff_eq.mpr rfl]
  · rw [compare_gt_iff_gt.mpr greater, compare_gt_iff_gt.mpr (Int.ofNat_lt.mpr greater)]

private theorem compare_eq_compare_place {left right : UnpackedFloat} (leftIs : left.isNaN = false)
    (rightIs : right.isNaN = false) :
    left.compare right = some (compare (place left) (place right)) := by
  cases left with
  | notANumber => cases leftIs
  | infinity sign =>
      cases right with
      | notANumber => cases rightIs
      | infinity other => cases sign <;> cases other <;> rfl
      | zero other => cases sign <;> rfl
      | finite other => cases sign <;> cases other <;> rfl
  | zero sign =>
      cases right with
      | notANumber => cases rightIs
      | infinity other => cases other <;> rfl
      | zero other => rfl
      | finite other => cases other <;> rfl
  | finite sign significand exponent positive =>
      cases right with
      | notANumber => cases rightIs
      | infinity other => cases sign <;> cases other <;> rfl
      | zero other => cases sign <;> rfl
      | finite other significand' exponent' positive' =>
          -- Only numbers of one sign are told apart by their sizes.
          cases sign <;> cases other
          · change some ((compare exponent exponent').then (compare significand significand')).swap =
              some ((compare (-exponent) (-exponent')).then
                (compare (-(significand : Int)) (-(significand' : Int))))
            rw [compare_neg, compare_neg, compare_natCast, Ordering.swap_then]
          · rfl
          · rfl
          · change some ((compare exponent exponent').then (compare significand significand')) =
              some ((compare exponent exponent').then
                (compare (significand : Int) (significand' : Int)))
            rw [compare_natCast]

/-! ## Single precision -/

abbrev IsNumber (value : Float32) : Prop :=
  value.isNaN = false

namespace IsNumber

variable {first second third : Float32} (firstIs : IsNumber first) (secondIs : IsNumber second)

include firstIs secondIs

private theorem compare_unpack :
    first.toModel.unpack.compare second.toModel.unpack =
      some (compare (place first.toModel.unpack) (place second.toModel.unpack)) :=
  compare_eq_compare_place firstIs secondIs

theorem lt_iff_place_lt :
    first < second ↔ place first.toModel.unpack < place second.toModel.unpack := by
  have compared := compare_unpack firstIs secondIs
  rw [← compare_lt_iff_lt]
  change decide (first.toModel.unpack.lt second.toModel.unpack = true) = true ↔ _
  rw [decide_eq_true_iff, UnpackedFloat.lt, compared]
  simp

theorem le_iff_place_le :
    first ≤ second ↔ place first.toModel.unpack ≤ place second.toModel.unpack := by
  have compared := compare_unpack firstIs secondIs
  rw [← compare_le_iff_le]
  change decide (first.toModel.unpack.le second.toModel.unpack = true) = true ↔ _
  rw [decide_eq_true_iff, UnpackedFloat.le, compared]
  cases compare (place first.toModel.unpack) (place second.toModel.unpack) <;> simp

theorem le_of_lt (less : first < second) : first ≤ second :=
  (firstIs.le_iff_place_le secondIs).mpr ((firstIs.lt_iff_place_lt secondIs).mp less).le

theorem le_of_not_lt (notLess : ¬first < second) : second ≤ first :=
  (secondIs.le_iff_place_le firstIs).mpr
    (not_lt.mp fun less => notLess ((firstIs.lt_iff_place_lt secondIs).mpr less))

theorem le_trans (thirdIs : IsNumber third) (lower : first ≤ second) (upper : second ≤ third) :
    first ≤ third :=
  (firstIs.le_iff_place_le thirdIs).mpr
    (((firstIs.le_iff_place_le secondIs).mp lower).trans
      ((secondIs.le_iff_place_le thirdIs).mp upper))

theorem beq_iff_place_eq :
    first == second ↔ place first.toModel.unpack = place second.toModel.unpack := by
  have compared := compare_unpack firstIs secondIs
  change (first.toModel.unpack.compare second.toModel.unpack == some .eq) = true ↔ _
  rw [compared, beq_iff_eq, Option.some_inj, compare_eq_iff_eq]

end IsNumber

/-! ## What compares is a number -/

private theorem isNaN_eq_false_of_compare {left right : UnpackedFloat} {order : Ordering}
    (compared : left.compare right = some order) : left.isNaN = false ∧ right.isNaN = false := by
  cases left with
  | notANumber => cases compared
  | infinity sign =>
      cases right with
      | notANumber => cases compared
      | _ => exact ⟨rfl, rfl⟩
  | zero sign =>
      cases right with
      | notANumber => cases compared
      | _ => exact ⟨rfl, rfl⟩
  | finite sign =>
      cases right with
      | notANumber => cases compared
      | _ => exact ⟨rfl, rfl⟩

section

variable {first second : Float32}

theorem isNumber_of_lt (less : first < second) : IsNumber first ∧ IsNumber second :=
  isNaN_eq_false_of_compare (beq_iff_eq.mp (of_decide_eq_true less))

theorem isNumber_of_le (le : first ≤ second) : IsNumber first ∧ IsNumber second := by
  have isLE : first.toModel.unpack.le second.toModel.unpack = true := of_decide_eq_true le
  cases compared : first.toModel.unpack.compare second.toModel.unpack with
  | none =>
      rw [UnpackedFloat.le, compared] at isLE
      cases isLE
  | some order => exact isNaN_eq_false_of_compare compared

theorem isNumber_of_beq (same : first == second) : IsNumber first ∧ IsNumber second :=
  isNaN_eq_false_of_compare (beq_iff_eq.mp same)

end

end GroundedAnswers.Number
