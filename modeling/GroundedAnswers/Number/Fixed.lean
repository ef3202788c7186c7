import GroundedAnswers.Number.Binary

namespace GroundedAnswers.Number

/-! Numbers with a fixed count of decimal places. The exact binary value is rounded, and a tie goes
to the even last digit. -/

def pointed (scaled places : Nat) : String :=
  let digits := Nat.toDigits 10 scaled
  let padded := List.replicate (places + 1 - digits.length) '0' ++ digits
  String.ofList (padded.take (padded.length - places)) ++ "." ++
    String.ofList (padded.drop (padded.length - places))

/-- The text of the number with these bits. Zero keeps its sign, and an undefined number has
none. -/
def fixedText (format : BinaryFormat) (places bits : Nat) : String :=
  let sign := if format.isNegative bits then "-" else ""
  match format.magnitude bits with
  | .undefined => "NaN"
  | .infinite => sign ++ "inf"
  | .finite significand exponent =>
      sign ++ pointed
        (roundQuotient (significand * decimalPower places * binaryPower exponent.toNat)
          (binaryPower (-exponent).toNat))
        places

def fixed32 (places : Nat) (value : Float32) : String :=
  fixedText binary32 places value.toBits.toNat

def fixed64 (places : Nat) (value : Float) : String :=
  fixedText binary64 places value.toBits.toNat

example : fixedText binary32 3 0x3F800000 = "1.000" := by decide +kernel

example : fixedText binary32 3 0x3D100000 = "0.035" := by decide +kernel

end GroundedAnswers.Number
