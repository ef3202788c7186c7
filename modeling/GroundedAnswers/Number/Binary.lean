namespace GroundedAnswers.Number

/-! Binary floating-point numbers, read from and written to their bits. The bits of a magnitude
count the representable magnitudes from zero up, so rounding is one division: the significand and
the position of its binade add up to the bits, a carry into the next binade included. -/

/-! ## Powers of the two bases -/

def binaryPower (exponent : Nat) : Nat :=
  Nat.pow 2 exponent

def decimalPower (exponent : Nat) : Nat :=
  Nat.pow 10 exponent

theorem binaryPower_pos (exponent : Nat) : 0 < binaryPower exponent :=
  Nat.pow_pos (by decide)

theorem decimalPower_pos (exponent : Nat) : 0 < decimalPower exponent :=
  Nat.pow_pos (by decide)

example : binaryPower 10 = 1024 := rfl

/-! ## Rounding a quotient to a whole number -/

/-- The nearest whole number, and of two nearest ones the even one. -/
def roundQuotient (numerator denominator : Nat) : Nat :=
  let quotient := numerator / denominator
  let twice := 2 * (numerator % denominator)
  if twice < denominator then quotient
  else if denominator < twice then quotient + 1
  else quotient + quotient % 2

example : roundQuotient 5 2 = 2 := rfl

example : roundQuotient 7 2 = 4 := rfl

theorem roundQuotient_near (numerator denominator : Nat) (positive : 0 < denominator) :
    2 * (roundQuotient numerator denominator * denominator) ≤ 2 * numerator + denominator ∧
      2 * numerator ≤ 2 * (roundQuotient numerator denominator * denominator) + denominator := by
  have division := Nat.div_add_mod numerator denominator
  have remainder := Nat.mod_lt numerator positive
  have product : denominator * (numerator / denominator) =
      numerator / denominator * denominator := Nat.mul_comm _ _
  have parity : numerator / denominator % 2 = 0 ∨ numerator / denominator % 2 = 1 := by omega
  simp only [roundQuotient]
  split
  · omega
  · split
    · simp only [Nat.add_mul, Nat.one_mul]; omega
    · rcases parity with even | odd
      · simp only [even, Nat.add_zero]; omega
      · simp only [odd, Nat.add_mul, Nat.one_mul]; omega

theorem even_roundQuotient_of_tie {numerator denominator : Nat} (positive : 0 < denominator)
    (tie : 2 * (roundQuotient numerator denominator * denominator) = 2 * numerator + denominator ∨
      2 * numerator = 2 * (roundQuotient numerator denominator * denominator) + denominator) :
    roundQuotient numerator denominator % 2 = 0 := by
  have division := Nat.div_add_mod' numerator denominator
  have remainder := Nat.mod_lt numerator positive
  unfold roundQuotient at tie ⊢
  dsimp only at tie ⊢
  generalize numerator / denominator = quotient at division tie ⊢
  generalize numerator % denominator = rest at division remainder tie ⊢
  split
  · rename_i less
    rw [if_pos less] at tie
    omega
  · rename_i notLess
    rw [if_neg notLess] at tie
    split
    · rename_i greater
      rw [if_pos greater, Nat.add_mul] at tie
      omega
    · omega

/-! ## Formats -/

structure BinaryFormat where
  fractionBits : Nat
  exponentBits : Nat

def binary32 : BinaryFormat := ⟨23, 8⟩

def binary64 : BinaryFormat := ⟨52, 11⟩

/-- The size of a number: `significand * 2 ^ exponent` when finite. -/
inductive Magnitude where
  | finite (significand : Nat) (exponent : Int)
  | infinite
  | undefined
  deriving DecidableEq, Repr

namespace BinaryFormat

variable (format : BinaryFormat)

def leastExponent : Int :=
  2 - binaryPower (format.exponentBits - 1) - format.fractionBits

def infinityBits : Nat :=
  (binaryPower format.exponentBits - 1) * binaryPower format.fractionBits

def undefinedBits : Nat :=
  format.infinityBits + binaryPower (format.fractionBits - 1)

def signBits (negative : Bool) : Nat :=
  if negative then binaryPower (format.fractionBits + format.exponentBits) else 0

def isNegative (bits : Nat) : Bool :=
  binaryPower (format.fractionBits + format.exponentBits) ≤ bits

def magnitude (bits : Nat) : Magnitude :=
  let field := bits / binaryPower format.fractionBits % binaryPower format.exponentBits
  let fraction := bits % binaryPower format.fractionBits
  if field = binaryPower format.exponentBits - 1 then
    if fraction = 0 then .infinite else .undefined
  else if field = 0 then .finite fraction format.leastExponent
  else .finite (binaryPower format.fractionBits + fraction) (format.leastExponent + (field - 1))

/-- The bits of the magnitude nearest to a quotient; ties go to the even significand. -/
def roundedBits (numerator denominator : Nat) : Nat :=
  if numerator = 0 then 0
  else
    let estimate : Int := numerator.log2 - denominator.log2
    let reaches :=
      denominator * binaryPower estimate.toNat ≤ numerator * binaryPower (-estimate).toNat
    let binade := if reaches then estimate else estimate - 1
    let exponent := max (binade - format.fractionBits) format.leastExponent
    let significand :=
      roundQuotient (numerator * binaryPower (-exponent).toNat)
        (denominator * binaryPower exponent.toNat)
    let position := (exponent - format.leastExponent).toNat
    min (significand + position * binaryPower format.fractionBits) format.infinityBits

/-- The bits nearest to `digits * 10 ^ exponent`. Exponents far outside the format are settled
without computing the power. -/
def decimalBits (digits : Nat) (exponent : Int) : Nat :=
  if digits = 0 then 0
  else
    let size := (Nat.toDigits 10 digits).length + exponent
    if size > 400 then format.infinityBits
    else if size < -400 then 0
    else
      format.roundedBits (digits * decimalPower exponent.toNat)
        (decimalPower (-exponent).toNat)

end BinaryFormat

example : binary32.roundedBits 1 10 = 0x3DCCCCCD := by decide +kernel

example : binary64.magnitude 0x3FF0000000000000 = .finite (binaryPower 52) (-52) := by decide +kernel

/-- The nearest single-precision number. Beyond the largest one lies infinity. -/
def narrow (value : Float) : Float32 :=
  let bits := value.toBits.toNat
  let sign := binary32.signBits (binary64.isNegative bits)
  let size :=
    match binary64.magnitude bits with
    | .finite significand exponent =>
        binary32.roundedBits (significand * binaryPower exponent.toNat)
          (binaryPower (-exponent).toNat)
    | .infinite => binary32.infinityBits
    | .undefined => binary32.undefinedBits
  Float32.ofBits (sign + size).toUInt32

def narrowInt (value : Int) : Float32 :=
  Float32.ofBits
    (binary32.signBits (value < 0) + binary32.roundedBits value.natAbs 1).toUInt32

def floatOfInt (value : Int) : Float :=
  Float.ofBits (binary64.signBits (value < 0) + binary64.roundedBits value.natAbs 1).toUInt64

end GroundedAnswers.Number
