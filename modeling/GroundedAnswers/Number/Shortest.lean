import GroundedAnswers.Number.Binary

namespace GroundedAnswers.Number

/-! The shortest decimal that reads back as a given binary number. The reals that round to the
number form an interval. Decimals with one digit are tried first, then two, and so on: the first
count of digits with a decimal in the interval wins, and of two such decimals the nearer. -/

/-- The reals that round to one number, in units of `2 ^ exponent`. The ends belong to it when the
significand is even. -/
structure RoundingInterval where
  low : Nat
  value : Nat
  high : Nat
  exponent : Int
  closed : Bool

/-- Neighbours lie one unit of the significand away, except that the lower neighbour of a power of
two is half as far. -/
def RoundingInterval.of (format : BinaryFormat) (significand : Nat) (exponent : Int) :
    RoundingInterval where
  low :=
    if significand = binaryPower format.fractionBits ∧ exponent ≠ format.leastExponent then
      4 * significand - 1
    else 4 * significand - 2
  value := 4 * significand
  high := 4 * significand + 2
  exponent := exponent - 2
  closed := significand % 2 = 0

def RoundingInterval.contains (interval : RoundingInterval) (numerator denominator : Nat) : Bool :=
  let scaled := numerator * binaryPower (-interval.exponent).toNat
  let unit := denominator * binaryPower interval.exponent.toNat
  if interval.closed then interval.low * unit ≤ scaled ∧ scaled ≤ interval.high * unit
  else interval.low * unit < scaled ∧ scaled < interval.high * unit

structure Decimal where
  digits : Nat
  exponent : Int
  deriving DecidableEq, Repr

/-- How many digits a quotient has in front of the point, counted negatively when it starts behind
the point with zeros. -/
def digitsBeforePoint (numerator denominator : Nat) : Int :=
  if denominator ≤ numerator then (Nat.toDigits 10 (numerator / denominator)).length
  else
    let inverse := (denominator + numerator - 1) / numerator
    1 - (Nat.toDigits 10 (inverse - 1)).length

def RoundingInterval.onGrid? (interval : RoundingInterval) (exponent : Int) : Option Decimal :=
  let numerator :=
    interval.value * binaryPower interval.exponent.toNat * decimalPower (-exponent).toNat
  let denominator := binaryPower (-interval.exponent).toNat * decimalPower exponent.toNat
  let below := numerator / denominator
  let inside := fun (digits : Nat) =>
    interval.contains (digits * decimalPower exponent.toNat) (decimalPower (-exponent).toNat)
  let nearest := roundQuotient numerator denominator
  if inside nearest ∧ nearest ≠ 0 then some ⟨nearest, exponent⟩
  else if inside below ∧ below ≠ 0 then some ⟨below, exponent⟩
  else if inside (below + 1) then some ⟨below + 1, exponent⟩
  else none

def Decimal.withoutTrailingZeros (decimal : Decimal) : Decimal :=
  let zeros := ((Nat.toDigits 10 decimal.digits).reverse.takeWhile (· = '0')).length
  ⟨decimal.digits / decimalPower zeros, decimal.exponent + zeros⟩

/-- The shortest decimal for a positive finite magnitude. Seventeen digits are enough for double
precision, so the exact value is never needed. -/
def shortestDecimal (format : BinaryFormat) (significand : Nat) (exponent : Int) : Decimal :=
  let interval := RoundingInterval.of format significand exponent
  let size :=
    digitsBeforePoint (significand * binaryPower exponent.toNat) (binaryPower (-exponent).toNat)
  let found := (List.range 17).findSome? fun (count : Nat) => interval.onGrid? (size - (count + 1))
  (found.getD ⟨significand, exponent⟩).withoutTrailingZeros

example : shortestDecimal binary32 0xCCCCCD (-27) = ⟨1, -1⟩ := by decide +kernel

/-- Where plain decimals end: a number is written positionally when its point falls behind more
than `fewest` and at most `most` digits. -/
structure FloatLayout where
  fewest : Int
  most : Int

/-- Digits, a point, and at least one digit behind it; far from one, a single digit in front of the
point and a power of ten. -/
def FloatLayout.write (layout : FloatLayout) (decimal : Decimal) : String :=
  let digits := Nat.toDigits 10 decimal.digits
  let point := digits.length + decimal.exponent
  if layout.fewest < point ∧ point ≤ layout.most then
    if 0 ≤ decimal.exponent then
      String.ofList (digits ++ List.replicate decimal.exponent.toNat '0') ++ ".0"
    else if 0 < point then
      String.ofList (digits.take point.toNat) ++ "." ++ String.ofList (digits.drop point.toNat)
    else
      "0." ++ String.ofList (List.replicate (-point).toNat '0' ++ digits)
  else
    let behind := if digits.length = 1 then "" else "." ++ String.ofList (digits.drop 1)
    let power := point - 1
    let sign := if power < 0 then "-" else "+"
    String.ofList (digits.take 1) ++ behind ++ "e" ++ sign ++ Nat.repr power.natAbs

def layout32 : FloatLayout := ⟨-6, 13⟩

def layout64 : FloatLayout := ⟨-5, 16⟩

def shortestText? (format : BinaryFormat) (layout : FloatLayout) (bits : Nat) : Option String :=
  let sign := if format.isNegative bits then "-" else ""
  match format.magnitude bits with
  | .finite 0 _ => some (sign ++ "0.0")
  | .finite significand exponent =>
      some (sign ++ layout.write (shortestDecimal format significand exponent))
  | _ => none

example : shortestText? binary64 layout64 0x4059000000000000 = some "100.0" := by decide +kernel

example : shortestText? binary32 layout32 0x3F333333 = some "0.7" := by decide +kernel

end GroundedAnswers.Number
