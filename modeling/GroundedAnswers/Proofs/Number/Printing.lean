import GroundedAnswers.Number.Fixed
import Mathlib.Algebra.Group.Nat.Defs

namespace GroundedAnswers.Number

/-! Numbers as they are printed with a fixed count of decimal places: a sign, whole digits, and
behind the point the digits of the nearest multiple of the last place. -/

/-! ## Nearest whole numbers -/

/-- The whole number nearest to a quotient, and of two nearest ones the even one. -/
structure IsNearest (numerator denominator rounded : Nat) : Prop where
  low : 2 * (rounded * denominator) ≤ 2 * numerator + denominator
  high : 2 * numerator ≤ 2 * (rounded * denominator) + denominator
  even : 2 * (rounded * denominator) = 2 * numerator + denominator ∨
    2 * numerator = 2 * (rounded * denominator) + denominator → rounded % 2 = 0

private theorem roundQuotient_isNearest (numerator : Nat) {denominator : Nat}
    (positive : 0 < denominator) :
    IsNearest numerator denominator (roundQuotient numerator denominator) where
  low := (roundQuotient_near numerator denominator positive).1
  high := (roundQuotient_near numerator denominator positive).2
  even := even_roundQuotient_of_tie positive

theorem IsNearest.scale {numerator denominator rounded factor : Nat} (positive : 0 < factor)
    (nearest : IsNearest numerator denominator rounded) :
    IsNearest (numerator * factor) (denominator * factor) rounded := by
  have low : 2 * (rounded * (denominator * factor)) = 2 * (rounded * denominator) * factor := by
    rw [← Nat.mul_assoc rounded, Nat.mul_assoc 2]
  have high : 2 * (numerator * factor) = 2 * numerator * factor := (Nat.mul_assoc ..).symm
  refine ⟨?_, ?_, fun tie => nearest.even ?_⟩
  · rw [low, high, ← Nat.add_mul]
    exact Nat.mul_le_mul_right factor nearest.low
  · rw [low, high, ← Nat.add_mul]
    exact Nat.mul_le_mul_right factor nearest.high
  · rw [low, high, ← Nat.add_mul, ← Nat.add_mul] at tie
    exact tie.imp (Nat.eq_of_mul_eq_mul_right positive) (Nat.eq_of_mul_eq_mul_right positive)

/-! ## Digits -/

def lastDigits : Nat → Nat → List Char
  | 0, _ => []
  | places + 1, number => lastDigits places (number / 10) ++ [Nat.digitChar (number % 10)]

example : lastDigits 3 35 = ['0', '3', '5'] := by decide

private theorem length_lastDigits (places number : Nat) :
    (lastDigits places number).length = places := by
  induction places generalizing number with
  | zero => rfl
  | succ places induction => rw [lastDigits, List.length_append, induction]; rfl

private theorem padded_toDigits (places number : Nat) :
    List.replicate (places + 1 - (Nat.toDigits 10 number).length) '0' ++ Nat.toDigits 10 number =
      Nat.toDigits 10 (number / 10 ^ places) ++ lastDigits places number := by
  induction places generalizing number with
  | zero =>
      have some : 0 < (Nat.toDigits 10 number).length := Nat.length_toDigits_pos
      have none : 0 + 1 - (Nat.toDigits 10 number).length = 0 := by omega
      rw [none, Nat.pow_zero, Nat.div_one, lastDigits, List.append_nil]
      rfl
  | succ places induction =>
      have rest := induction (number / 10)
      rw [Nat.div_div_eq_div_mul, ← Nat.pow_succ'] at rest
      rw [lastDigits, ← List.append_assoc, ← rest]
      by_cases small : number < 10
      · have digit : number % 10 = number := Nat.mod_eq_of_lt small
        have zero : Nat.toDigits 10 (number / 10) = ['0'] := by rw [Nat.div_eq_of_lt small]; rfl
        rw [zero, digit, Nat.toDigits_of_lt_base small, List.length_singleton, List.length_singleton,
          Nat.add_sub_cancel, Nat.add_sub_cancel, ← List.replicate_succ']
      · rw [Nat.toDigits_of_base_le (by decide) (Nat.le_of_not_lt small), List.length_append,
          List.length_singleton, Nat.add_sub_add_right, List.append_assoc]

private theorem pointed_eq (scaled places : Nat) :
    pointed scaled places = toString (scaled / 10 ^ places) ++ "." ++
      String.ofList (lastDigits places scaled) := by
  have whole :
      (Nat.toDigits 10 (scaled / 10 ^ places) ++ lastDigits places scaled).length - places =
        (Nat.toDigits 10 (scaled / 10 ^ places)).length := by
    rw [List.length_append, length_lastDigits, Nat.add_sub_cancel]
  unfold pointed
  simp only [padded_toDigits, whole, List.take_left, List.drop_left]
  rfl

/-! ## Texts of numbers -/

/-- The text of a number with a count of decimal places. A finite number is made of units, of which
one has `2 ^ 149`. -/
def PrintsAs (places : Nat) (value : Float32) (text : String) : Prop :=
  let bits := value.toBits.toNat
  let exponent := bits / 2 ^ 23 % 2 ^ 8
  let fraction := bits % 2 ^ 23
  let sign := if bits < 2 ^ 31 then "" else "-"
  if exponent = 255 then text = if fraction = 0 then sign ++ "inf" else "NaN"
  else
    let units := if exponent = 0 then fraction else (2 ^ 23 + fraction) * 2 ^ (exponent - 1)
    ∃ rounded, IsNearest (units * 10 ^ places) (2 ^ 149) rounded ∧
      text = sign ++ (toString (rounded / 10 ^ places) ++ "." ++
        String.ofList (lastDigits places rounded))

private theorem binaryPower_eq (exponent : Nat) : binaryPower exponent = 2 ^ exponent := rfl

private theorem isNearest_of_shift (significand shift scale : Nat) :
    let exponent : Int := -149 + shift
    IsNearest (significand * 2 ^ shift * scale) (2 ^ 149)
      (roundQuotient (significand * scale * binaryPower exponent.toNat)
        (binaryPower (-exponent).toNat)) := by
  intro exponent
  have nearest := roundQuotient_isNearest (significand * scale * binaryPower exponent.toNat)
    (binaryPower_pos (-exponent).toNat)
  generalize roundQuotient _ _ = rounded at nearest ⊢
  simp only [binaryPower_eq] at nearest
  by_cases small : shift ≤ 149
  · have up : exponent.toNat = 0 := by omega
    have down : (-exponent).toNat = 149 - shift := by omega
    have scaled := nearest.scale (Nat.two_pow_pos shift)
    rw [up, down, ← Nat.pow_add, Nat.sub_add_cancel small, Nat.pow_zero, Nat.mul_one,
      Nat.mul_right_comm] at scaled
    exact scaled
  · have up : exponent.toNat = shift - 149 := by omega
    have down : (-exponent).toNat = 0 := by omega
    have scaled := nearest.scale (Nat.two_pow_pos 149)
    rw [up, down, Nat.mul_assoc, ← Nat.pow_add, Nat.sub_add_cancel (Nat.le_of_not_le small),
      Nat.pow_zero, Nat.one_mul, Nat.mul_right_comm] at scaled
    exact scaled

private theorem exists_rounded (significand shift places : Nat) :
    let exponent : Int := -149 + shift
    ∃ rounded, IsNearest (significand * 2 ^ shift * 10 ^ places) (2 ^ 149) rounded ∧
      pointed (roundQuotient (significand * decimalPower places * binaryPower exponent.toNat)
          (binaryPower (-exponent).toNat)) places =
        toString (rounded / 10 ^ places) ++ "." ++ String.ofList (lastDigits places rounded) :=
  ⟨_, isNearest_of_shift significand shift (10 ^ places), pointed_eq _ _⟩

private theorem sign_eq (bits : Nat) :
    (if binary32.isNegative bits then "-" else "") = if bits < 2 ^ 31 then "" else "-" := by
  by_cases positive : bits < 2 ^ 31
  · have notNegative : binary32.isNegative bits = false :=
      decide_eq_false (Nat.not_le.mpr positive)
    rw [notNegative, if_pos positive]
    rfl
  · have negative : binary32.isNegative bits = true :=
      decide_eq_true (Nat.le_of_not_lt positive)
    rw [negative, if_neg positive]
    rfl

theorem fixed32_printsAs (places : Nat) (value : Float32) :
    PrintsAs places value (fixed32 places value) := by
  unfold PrintsAs fixed32 fixedText
  generalize value.toBits.toNat = bits
  dsimp only
  rw [sign_eq]
  generalize (if bits < 2 ^ 31 then "" else "-") = sign
  by_cases special : bits / 2 ^ 23 % 2 ^ 8 = 255
  · rw [if_pos special]
    by_cases whole : bits % 2 ^ 23 = 0
    · have size : binary32.magnitude bits = .infinite := (if_pos special).trans (if_pos whole)
      rw [size, if_pos whole]
    · have size : binary32.magnitude bits = .undefined := (if_pos special).trans (if_neg whole)
      rw [size, if_neg whole]
  · rw [if_neg special]
    by_cases least : bits / 2 ^ 23 % 2 ^ 8 = 0
    · have size : binary32.magnitude bits = .finite (bits % 2 ^ 23) (-149 + (0 : Nat)) :=
        (if_neg special).trans (if_pos least)
      rcases exists_rounded (bits % 2 ^ 23) 0 places with ⟨rounded, nearest, text⟩
      rw [Nat.pow_zero, Nat.mul_one] at nearest
      rw [size, if_pos least]
      exact ⟨rounded, nearest, congrArg (sign ++ ·) text⟩
    · have shift : (-149 : Int) + ((bits / 2 ^ 23 % 2 ^ 8 : Nat) - 1) =
          -149 + (bits / 2 ^ 23 % 2 ^ 8 - 1 : Nat) := by
        omega
      have size : binary32.magnitude bits =
          .finite (2 ^ 23 + bits % 2 ^ 23) (-149 + (bits / 2 ^ 23 % 2 ^ 8 - 1 : Nat)) :=
        (if_neg special).trans ((if_neg least).trans (congrArg (Magnitude.finite _) shift))
      rcases exists_rounded (2 ^ 23 + bits % 2 ^ 23) (bits / 2 ^ 23 % 2 ^ 8 - 1) places with
        ⟨rounded, nearest, text⟩
      rw [size, if_neg least]
      exact ⟨rounded, nearest, congrArg (sign ++ ·) text⟩

end GroundedAnswers.Number
