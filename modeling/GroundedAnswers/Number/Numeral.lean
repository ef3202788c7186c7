import GroundedAnswers.Number.Binary

namespace GroundedAnswers.Number

/-! Decimal numerals: digits as written, before a reader decides which kind of number they are. -/

def digitOf? (character : Char) : Option Nat :=
  if character.isDigit then some (character.toNat - '0'.toNat) else none

def leadingDigits : List Char → List Nat × List Char
  | [] => ([], [])
  | character :: rest =>
      match digitOf? character with
      | some digit => (digit :: (leadingDigits rest).1, (leadingDigits rest).2)
      | none => ([], character :: rest)

theorem leadingDigits_length (text : List Char) :
    (leadingDigits text).2.length ≤ text.length := by
  induction text with
  | nil => exact Nat.le_refl _
  | cons character rest induction =>
      simp only [leadingDigits]
      split
      · exact Nat.le_succ_of_le induction
      · exact Nat.le_refl _

def digitsValue (digits : List Nat) : Nat :=
  digits.foldl (fun value digit => 10 * value + digit) 0

structure Exponent where
  negative : Bool
  digits : List Nat
  deriving DecidableEq, Repr

def Exponent.value (exponent : Exponent) : Int :=
  if exponent.negative then -(digitsValue exponent.digits : Int) else digitsValue exponent.digits

structure Numeral where
  negative : Bool
  whole : List Nat
  fraction : Option (List Nat)
  exponent : Option Exponent
  deriving DecidableEq, Repr

namespace Numeral

def ofInt (value : Int) : Numeral where
  negative := value < 0
  whole := (Nat.toDigits 10 value.natAbs).map fun character => character.toNat - '0'.toNat
  fraction := none
  exponent := none

def isWhole (numeral : Numeral) : Bool :=
  numeral.fraction.isNone && numeral.exponent.isNone

/-- The whole number a numeral without fraction and exponent stands for, when it fits 64 bits:
unsigned ones up to `2 ^ 64 - 1`, negative ones down to `-2 ^ 63`. A negative zero is no whole
number. -/
def toInt? (numeral : Numeral) : Option Int :=
  let value := digitsValue numeral.whole
  if !numeral.isWhole then none
  else if numeral.negative then
    if 0 < value ∧ value ≤ 0x8000000000000000 then some (-value) else none
  else if value < UInt64.size then some value
  else none

/-- Take digits into a 64-bit significand until the next one no longer fits. Gives the significand
and how many digits were taken. -/
def gather (significand : Nat) : List Nat → Nat × Nat
  | [] => (significand, 0)
  | digit :: digits =>
      let next := 10 * significand + digit
      if next < UInt64.size then
        let (total, taken) := gather next digits
        (total, taken + 1)
      else (significand, 0)

/-- Multiply by a power of ten. Powers beyond the range of the format are applied in steps. There
is no result when a large power overflows. -/
def scale (value : Float) (exponent : Int) : Option Float :=
  if exponent.natAbs ≤ 308 then
    if 0 ≤ exponent then
      let product := value * Float.ofScientific 1 false exponent.natAbs
      if product.isInf then none else some product
    else some (value / Float.ofScientific 1 false exponent.natAbs)
  else if value == 0 then some value
  else if 0 ≤ exponent then none
  else scale (value / Float.ofScientific 1 false 308) (exponent + 308)
termination_by exponent.natAbs
decreasing_by omega

/-- The double-precision number a numeral is read as: the digits that fit 64 bits, scaled by the
power of ten that is left. There is none when the number is too large for the format. -/
def toFloat? (numeral : Numeral) : Option Float :=
  let (wholePart, wholeTaken) := gather 0 numeral.whole
  let dropped := numeral.whole.length - wholeTaken
  let (significand, fractionTaken) := gather wholePart (numeral.fraction.getD [])
  let position : Int := dropped - fractionTaken
  let size :=
    match numeral.exponent with
    | none => scale (floatOfInt significand) position
    | some exponent =>
        if digitsValue exponent.digits < 0x80000000 then
          scale (floatOfInt significand) (max (-0x80000000) (min 0x7FFFFFFF (position + exponent.value)))
        else if significand ≠ 0 ∧ !exponent.negative then none
        else some 0
  size.map fun value => if numeral.negative then -value else value

def exactDigits (numeral : Numeral) : Nat × Int :=
  let fraction := numeral.fraction.getD []
  (digitsValue (numeral.whole ++ fraction),
    (numeral.exponent.map Exponent.value).getD 0 - fraction.length)

def nearestFloat (numeral : Numeral) : Float :=
  let (digits, exponent) := numeral.exactDigits
  Float.ofBits
    (binary64.signBits numeral.negative + binary64.decimalBits digits exponent).toUInt64

def toFloat32 (numeral : Numeral) : Float32 :=
  let (digits, exponent) := numeral.exactDigits
  Float32.ofBits
    (binary32.signBits numeral.negative + binary32.decimalBits digits exponent).toUInt32

end Numeral

def signOf : List Char → Bool × List Char
  | '-' :: rest => (true, rest)
  | '+' :: rest => (false, rest)
  | text => (false, text)

def exponentOf? : List Char → Option (Option Exponent)
  | [] => some none
  | mark :: rest =>
      if mark = 'e' ∨ mark = 'E' then
        match signOf rest with
        | (negative, signed) =>
            match leadingDigits signed with
            | (digit :: digits, []) => some (some ⟨negative, digit :: digits⟩)
            | _ => none
      else none

/-- Read a numeral that may leave out the digits on one side of its point. -/
def looseNumeral? (text : List Char) : Option Numeral :=
  let (negative, unsigned) := signOf text
  let (whole, rest) := leadingDigits unsigned
  let (fraction, tail) :=
    match rest with
    | '.' :: behind => (some (leadingDigits behind).1, (leadingDigits behind).2)
    | _ => (none, rest)
  if whole.isEmpty && (fraction.getD []).isEmpty then none
  else (exponentOf? tail).map fun exponent => ⟨negative, whole, fraction, exponent⟩

/-- Read a single-precision number from all of a text. Infinity and the undefined number are
written as words in any case. -/
def readFloat32? (text : String) : Option Float32 :=
  let (negative, unsigned) := signOf text.toList
  let word := unsigned.map Char.toLower
  let sign := binary32.signBits negative
  if word = "inf".toList ∨ word = "infinity".toList then
    some (Float32.ofBits (sign + binary32.infinityBits).toUInt32)
  else if word = "nan".toList then
    some (Float32.ofBits (sign + binary32.undefinedBits).toUInt32)
  else (looseNumeral? text.toList).map Numeral.toFloat32

inductive WholeFault where
  | empty
  | invalidDigit
  | tooLarge
  | tooSmall
  deriving DecidableEq, Repr

def WholeFault.message : WholeFault → String
  | .empty => "cannot parse integer from empty string"
  | .invalidDigit => "invalid digit found in string"
  | .tooLarge => "number too large to fit in target type"
  | .tooSmall => "number too small to fit in target type"

/-- Read a whole number between two bounds from all of a text. A plus sign is allowed, a minus sign
where negative numbers are. The first digit at which the number leaves the bounds decides, before
anything behind it is looked at. -/
def readWhole (least greatest : Int) (text : String) : Except WholeFault Int :=
  match text.toList with
  | [] => .error .empty
  | ['+'] | ['-'] => .error .invalidDigit
  | '-' :: digits =>
      if least < 0 then collect (fun value digit => 10 * value - digit) .tooSmall 0 digits
      else .error .invalidDigit
  | '+' :: digits => collect (fun value digit => 10 * value + digit) .tooLarge 0 digits
  | digits => collect (fun value digit => 10 * value + digit) .tooLarge 0 digits
where
  collect (next : Int → Int → Int) (outside : WholeFault) (value : Int) :
      List Char → Except WholeFault Int
    | [] => .ok value
    | character :: rest =>
        match digitOf? character with
        | none => .error .invalidDigit
        | some digit =>
            let following := next value digit
            if least ≤ following ∧ following ≤ greatest then collect next outside following rest
            else .error outside

example : readWhole 0 255 "+12" = .ok 12 := by rfl

example : readWhole 0 255 "-1" = .error .invalidDigit := by rfl

end GroundedAnswers.Number
