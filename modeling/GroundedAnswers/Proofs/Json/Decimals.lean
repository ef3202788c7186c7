import GroundedAnswers.Json.Record
import GroundedAnswers.Proofs.Json.Texts
import Mathlib.Data.List.TakeWhile

namespace GroundedAnswers.Json

open Number

/-! Numbers are written as numerals that JSON allows, and whole numbers are read back from them. -/

/-! ## Whole numbers -/

private theorem isStrict_ofInt (value : Int) : IsStrict (.ofInt value) where
  whole := by
    rcases Nat.eq_zero_or_pos value.natAbs with zero | positive
    · left
      change digitsOf value.natAbs = [0]
      rw [zero, digitsOf_of_lt (by decide)]
    · exact .inr (head?_digitsOf positive)
  wholeDigits := digitsOf_lt value.natAbs
  fraction := nofun
  exponent := nofun

@[simp]
theorem isPlain_ofInt (value : Int) : IsPlain (ofInt value) :=
  .number (isStrict_ofInt value)

private theorem toInt?_ofInt {value : Int} (least : -0x8000000000000000 ≤ value)
    (greatest : value < UInt64.size) : (Numeral.ofInt value).toInt? = some value := by
  have size : digitsValue (Numeral.ofInt value).whole = value.natAbs :=
    digitsValue_digitsOf value.natAbs
  have isWhole : (Numeral.ofInt value).isWhole := rfl
  simp only [Numeral.toInt?, size, isWhole, Bool.not_true, Bool.false_eq_true, if_false]
  by_cases negative : value < 0
  · have sign : (Numeral.ofInt value).negative = true := decide_eq_true negative
    have fits : 0 < value.natAbs ∧ value.natAbs ≤ 0x8000000000000000 := by omega
    rw [if_pos sign, if_pos fits]
    exact congrArg some (by omega)
  · have sign : (Numeral.ofInt value).negative = false := decide_eq_false negative
    have fits : value.natAbs < UInt64.size := by omega
    rw [sign, if_neg Bool.false_ne_true, if_pos fits]
    exact congrArg some (by omega)

private theorem natBelow?_ofNat {bound value : Nat} (small : bound ≤ UInt64.size)
    (below : value < bound) :
    natBelow? bound (ofNat value) = some value := by
  have read : (Numeral.ofInt (value : Int)).toInt? = some (value : Int) :=
    toInt?_ofInt (by omega) (by omega)
  simp only [natBelow?, ofNat, read]
  rw [if_pos (by omega)]
  rfl

@[simp]
theorem uint32?_ofNat (value : UInt32) : uint32? (ofNat value.toNat) = some value := by
  rw [uint32?, natBelow?_ofNat (by decide) value.toNat_lt]
  simp

@[simp]
theorem uint64?_ofNat (value : UInt64) : uint64? (ofNat value.toNat) = some value := by
  rw [uint64?, natBelow?_ofNat (Nat.le_refl _) value.toNat_lt]
  simp

theorem uint64?_ofNat_of_lt {value : Nat} (below : value < UInt64.size) :
    uint64? (ofNat value) = some value.toUInt64 := by
  rw [uint64?, natBelow?_ofNat (Nat.le_refl _) below, Option.map_some]

@[simp]
theorem int32?_ofInt (value : Int32) : int32? (ofInt value.toInt) = some value := by
  have least := value.le_toInt
  have greatest := value.toInt_lt
  have read : (Numeral.ofInt value.toInt).toInt? = some value.toInt :=
    toInt?_ofInt (by omega) (by have : (UInt64.size : Int) = 2 ^ 64 := rfl; omega)
  simp only [int32?, ofInt, read]
  rw [if_pos (by omega)]
  simp

/-! ## Texts of decimals -/

/-- Digits without needless zeros in front, and something behind them in which digits follow a
point. -/
structure IsDecimal (whole rest : List Char) : Prop where
  digits : ∀ character ∈ whole, character.isDigit
  noZeros : whole = ['0'] ∨ ∃ first, whole.head? = some first ∧ first ≠ '0'
  ends : ∀ character, rest.head? = some character → character.isDigit = false
  point : ∀ behind, rest = '.' :: behind → ∃ first, behind.head? = some first ∧ first.isDigit

private theorem digitOf?_of_isDigit {character : Char} (isDigit : character.isDigit) :
    digitOf? character = some (character.toNat - '0'.toNat) :=
  if_pos isDigit

private theorem digitOf?_of_not_isDigit {character : Char} (noDigit : character.isDigit = false) :
    digitOf? character = none :=
  if_neg (by simp [noDigit])

private theorem eq_zero_of_isDigit {character : Char} (isDigit : character.isDigit)
    (zero : character.toNat - '0'.toNat = 0) : character = '0' := by
  simp only [Char.isDigit, Bool.and_eq_true, decide_eq_true_eq] at isDigit
  have lower : '0'.toNat ≤ character.toNat := isDigit.1
  exact Char.toNat_inj.mp (by omega)

private theorem leadingDigits_of_isDecimal {whole rest : List Char}
    (decimal : IsDecimal whole rest) :
    leadingDigits (whole ++ rest) =
      (whole.map fun character => character.toNat - '0'.toNat, rest) := by
  have noDigit : NoDigit rest := fun character isFirst =>
    digitOf?_of_not_isDigit (decimal.ends character isFirst)
  have digits := decimal.digits
  clear decimal
  induction whole with
  | nil => exact leadingDigits_of_noDigit noDigit
  | cons character whole induction =>
      rw [List.forall_mem_cons] at digits
      simp only [List.cons_append, leadingDigits, digitOf?_of_isDigit digits.1, induction digits.2,
        List.map_cons]

private theorem exponentOf?_strict {text : List Char} {exponent : Exponent}
    (read : exponentOf? text = some (some exponent)) :
    exponent.digits ≠ [] ∧ ∀ digit ∈ exponent.digits, digit < 10 := by
  unfold exponentOf? at read
  split at read
  · cases read
  · rename_i mark rest
    split at read
    · have small := leadingDigits_lt (signOf rest).2
      dsimp only at read
      split at read
      · rename_i digit digits scanned
        cases read
        rw [scanned] at small
        exact ⟨List.cons_ne_nil _ _, small⟩
      · cases read
    · cases read

private theorem looseNumeral?_parts {text whole rest : List Char} {sign : Bool} {numeral : Numeral}
    (decimal : IsDecimal whole rest) (signed : signOf text = (sign, whole ++ rest))
    (read : looseNumeral? text = some numeral) :
    numeral.whole = whole.map (fun character => character.toNat - '0'.toNat) ∧
      (numeral.fraction = none ∨
        ∃ behind, rest = '.' :: behind ∧ numeral.fraction = some (leadingDigits behind).1) ∧
      ∃ tail, exponentOf? tail = some numeral.exponent := by
  unfold looseNumeral? at read
  simp only [signed, leadingDigits_of_isDecimal decimal] at read
  split at read
  · rename_i behind
    split at read
    · cases read
    · obtain ⟨exponent, scanned, rfl⟩ := Option.map_eq_some_iff.mp read
      exact ⟨rfl, .inr ⟨behind, rfl, rfl⟩, _, scanned⟩
  · split at read
    · cases read
    · obtain ⟨exponent, scanned, rfl⟩ := Option.map_eq_some_iff.mp read
      exact ⟨rfl, .inl rfl, _, scanned⟩

private theorem isStrict_of_looseNumeral? {text whole rest : List Char} {sign : Bool}
    {numeral : Numeral} (decimal : IsDecimal whole rest)
    (signed : signOf text = (sign, whole ++ rest)) (read : looseNumeral? text = some numeral) :
    IsStrict numeral := by
  obtain ⟨isWhole, fraction, tail, scanned⟩ := looseNumeral?_parts decimal signed read
  refine ⟨?_, ?_, fun digits isFraction => ?_, fun exponent isExponent => ?_⟩
  · rw [isWhole]
    rcases decimal.noZeros with rfl | ⟨first, isFirst, nonzero⟩
    · exact .inl rfl
    · refine .inr ⟨first.toNat - '0'.toNat, by rw [List.head?_map, isFirst]; rfl, fun zero => ?_⟩
      exact nonzero (eq_zero_of_isDigit (decimal.digits _ (List.mem_of_head? isFirst)) zero)
  · intro digit member
    rw [isWhole] at member
    obtain ⟨character, inside, rfl⟩ := List.mem_map.mp member
    exact digitOf?_lt (digitOf?_of_isDigit (decimal.digits _ inside))
  · rcases fraction with none | ⟨behind, isRest, some⟩
    · rw [none] at isFraction
      cases isFraction
    · rw [some] at isFraction
      cases isFraction
      refine ⟨?_, leadingDigits_lt behind⟩
      obtain ⟨first, isFirst, isDigit⟩ := decimal.point behind isRest
      cases behind with
      | nil => cases isFirst
      | cons character behind =>
          cases isFirst
          simp [leadingDigits, digitOf?_of_isDigit isDigit]
  · exact exponentOf?_strict (isExponent ▸ scanned)

/-! ## Written decimals -/

private theorem head?_toDigits {number : Nat} (positive : 0 < number) :
    ∃ first, (Nat.toDigits 10 number).head? = some first ∧ first ≠ '0' := by
  obtain ⟨digit, isFirst, nonzero⟩ := head?_digitsOf positive
  unfold digitsOf at isFirst
  rw [List.head?_map, Option.map_eq_some_iff] at isFirst
  obtain ⟨first, isFirst, rfl⟩ := isFirst
  exact ⟨first, isFirst, fun zero => nonzero (by rw [zero]; rfl)⟩

private theorem isDigit_toDigits (number : Nat) :
    ∀ character ∈ Nat.toDigits 10 number, character.isDigit :=
  fun _ member => Nat.isDigit_of_mem_toDigits (by decide) (by decide) member

private theorem IsDecimal.withPoint {whole behind : List Char} {first : Char}
    (digits : ∀ character ∈ whole, character.isDigit)
    (noZeros : whole = ['0'] ∨ ∃ first, whole.head? = some first ∧ first ≠ '0')
    (isFirst : behind.head? = some first) (isDigit : first.isDigit) :
    IsDecimal whole ('.' :: behind) where
  digits := digits
  noZeros := noZeros
  ends := fun character same => by cases same; rfl
  point := fun _ same => by cases same; exact ⟨first, isFirst, isDigit⟩

private theorem IsDecimal.withExponent {first : Char} (isDigit : first.isDigit)
    (nonzero : first ≠ '0') (behind : List Char) : IsDecimal [first] ('e' :: behind) where
  digits := by simpa using isDigit
  noZeros := .inr ⟨first, rfl, nonzero⟩
  ends := fun character same => by cases same; rfl
  point := fun _ same => by cases same

section

variable {first : Char} {others : List Char}
  (digits : ∀ character ∈ first :: others, character.isDigit) (nonzero : first ≠ '0')

include digits

private theorem IsDecimal.ofZeros (count : Nat) :
    IsDecimal ['0'] ('.' :: (List.replicate count '0' ++ first :: others)) := by
  have zero : ∀ character ∈ ['0'], character.isDigit := List.forall_mem_singleton.mpr rfl
  cases count with
  | zero => exact .withPoint zero (.inl rfl) rfl (digits first List.mem_cons_self)
  | succ count => exact .withPoint zero (.inl rfl) (rfl : _ = some '0') rfl

include nonzero

theorem IsDecimal.padded (count : Nat) :
    IsDecimal (first :: others ++ List.replicate count '0') ['.', '0'] := by
  refine .withPoint ?_ (.inr ⟨first, rfl, nonzero⟩) rfl rfl
  rw [List.forall_mem_append]
  exact ⟨digits, fun character member => by rw [List.eq_of_mem_replicate member]; rfl⟩

theorem IsDecimal.split (count : Nat) (positive : 0 < count) (within : count < (first :: others).length) :
    IsDecimal ((first :: others).take count) ('.' :: (first :: others).drop count) := by
  have isFirst : ((first :: others).take count).head? = some first := by
    rw [List.head?_take, if_neg (by omega)]
    rfl
  have next : ((first :: others).drop count).head? = some (first :: others)[count] := by
    rw [List.head?_drop, List.getElem?_eq_getElem within]
  refine .withPoint (fun character member => digits _ (List.mem_of_mem_take member))
    (.inr ⟨first, isFirst, nonzero⟩) next ?_
  exact digits _ (List.getElem_mem within)

end

private theorem exists_isDecimal_write (layout : FloatLayout) {decimal : Decimal}
    (positive : 0 < decimal.digits) :
    ∃ whole rest, (layout.write decimal).toList = whole ++ rest ∧ IsDecimal whole rest := by
  obtain ⟨first, isFirst, nonzero⟩ := head?_toDigits positive
  have digits := isDigit_toDigits decimal.digits
  unfold FloatLayout.write
  cases written : Nat.toDigits 10 decimal.digits with
  | nil =>
      rw [written] at isFirst
      cases isFirst
  | cons character others =>
      rw [written] at isFirst digits
      cases isFirst
      have isDigit := digits first List.mem_cons_self
      dsimp only
      generalize atPoint : ((first :: others).length : Int) + decimal.exponent = point
      split
      · split
        · exact ⟨_, _, by simp, .padded digits nonzero decimal.exponent.toNat⟩
        · split
          · exact ⟨_, _, by simp, .split digits nonzero point.toNat (by omega) (by omega)⟩
          · exact ⟨_, _, by simp, .ofZeros digits (-point).toNat⟩
      · generalize (if point - 1 < 0 then "-" else "+") = sign
        cases others with
        | nil => exact ⟨[first], 'e' :: (sign.toList ++ _), by simp; rfl, .withExponent isDigit nonzero _⟩
        | cons second others =>
            have next := digits second (by simp)
            refine ⟨[first], '.' :: second :: others ++ 'e' :: (sign.toList ++ _), by simp; rfl, ?_⟩
            exact .withPoint (by simpa using isDigit) (.inr ⟨first, rfl, nonzero⟩) rfl next

/-! ## Numbers -/

private theorem onGrid?_pos {interval : RoundingInterval} {exponent : Int} {decimal : Decimal}
    (found : interval.onGrid? exponent = some decimal) : 0 < decimal.digits := by
  unfold RoundingInterval.onGrid? at found
  dsimp only at found
  split at found
  · rename_i nearest
    cases found
    exact Nat.pos_of_ne_zero nearest.2
  · split at found
    · rename_i below
      cases found
      exact Nat.pos_of_ne_zero below.2
    · split at found
      · cases found
        exact Nat.succ_pos _
      · cases found

private theorem withoutTrailingZeros_pos {decimal : Decimal} (positive : 0 < decimal.digits) :
    0 < decimal.withoutTrailingZeros.digits := by
  refine Nat.div_pos ?_ (decimalPower_pos _)
  obtain ⟨first, isFirst, nonzero⟩ := head?_toDigits positive
  generalize isZeros : (Nat.toDigits 10 decimal.digits).reverse.takeWhile (· = '0') = zeros
  have fewer : zeros.length < (Nat.toDigits 10 decimal.digits).length := by
    have inFront : zeros <+: (Nat.toDigits 10 decimal.digits).reverse :=
      isZeros ▸ List.takeWhile_prefix _
    have shorter := inFront.length_le
    rw [List.length_reverse] at shorter
    refine Nat.lt_of_le_of_ne shorter fun all => nonzero ?_
    have member : first ∈ zeros := by
      rw [inFront.eq_of_length (all.trans List.length_reverse.symm), List.mem_reverse]
      exact List.mem_of_head? isFirst
    rw [← isZeros] at member
    exact of_decide_eq_true (List.mem_takeWhile_imp (p := (· = '0')) member)
  cases count : zeros.length with
  | zero => exact positive
  | succ more =>
      refine Nat.le_of_not_lt fun small => ?_
      have short := (Nat.length_toDigits_le_iff (by decide) (Nat.succ_pos more)).mpr small
      omega

private theorem shortestDecimal_pos (format : BinaryFormat) {significand : Nat}
    (positive : 0 < significand) (exponent : Int) :
    0 < (shortestDecimal format significand exponent).digits := by
  refine withoutTrailingZeros_pos ?_
  generalize isFound : List.findSome? _ _ = found
  cases found with
  | none => exact positive
  | some decimal =>
      obtain ⟨count, -, onGrid⟩ := List.exists_of_findSome?_eq_some isFound
      exact onGrid?_pos onGrid

private theorem isPlain_ofDecimalText {text : String} {whole rest : List Char} {sign : Bool}
    (decimal : IsDecimal whole rest) (signed : signOf text.toList = (sign, whole ++ rest)) :
    IsPlain (ofDecimalText text) := by
  unfold ofDecimalText
  split
  · rename_i numeral read
    exact .number (isStrict_of_looseNumeral? decimal signed read)
  · exact .null

private theorem signOf_append {whole rest : List Char} (decimal : IsDecimal whole rest)
    (negative : Bool) :
    signOf ((if negative then "-" else "").toList ++ (whole ++ rest)) = (negative, whole ++ rest) := by
  cases negative with
  | true => rfl
  | false =>
      obtain ⟨first, others, rfl⟩ : ∃ first others, whole = first :: others := by
        rcases decimal.noZeros with rfl | ⟨first, isFirst, -⟩
        · exact ⟨_, _, rfl⟩
        · exact ⟨first, List.head?_eq_some_iff.mp isFirst⟩
      have isDigit := decimal.digits first List.mem_cons_self
      change signOf (first :: (others ++ rest)) = _
      unfold signOf
      split
      · rename_i minus
        cases minus
        exact absurd isDigit (by decide)
      · rename_i plus
        cases plus
        exact absurd isDigit (by decide)
      · rfl

private theorem isPlain_shortestText {format : BinaryFormat} {layout : FloatLayout} {bits : Nat}
    {text : String} (written : shortestText? format layout bits = some text) :
    IsPlain (ofDecimalText text) := by
  unfold shortestText? at written
  dsimp only at written
  split at written
  · cases written
    have zero : IsDecimal ['0'] ['.', '0'] :=
      .withPoint (List.forall_mem_singleton.mpr rfl) (.inl rfl) rfl rfl
    exact isPlain_ofDecimalText zero (by rw [String.toList_append]; exact signOf_append zero _)
  · rename_i significand exponent nonzero _
    cases written
    have positive : 0 < significand := Nat.pos_of_ne_zero nonzero
    obtain ⟨whole, rest, same, decimal⟩ :=
      exists_isDecimal_write layout (shortestDecimal_pos format positive exponent)
    have signed := signOf_append decimal (format.isNegative bits)
    rw [← same, ← String.toList_append] at signed
    exact isPlain_ofDecimalText decimal (signed.trans (by rw [same]))
  · cases written

@[simp]
theorem isPlain_ofFloat32 (value : Float32) : IsPlain (ofFloat32 value) := by
  unfold ofFloat32
  split
  · rename_i text written
    exact isPlain_shortestText written
  · exact .null

@[simp]
theorem isPlain_ofFloat (value : Float) : IsPlain (ofFloat value) := by
  unfold ofFloat
  split
  · rename_i text written
    exact isPlain_shortestText written
  · exact .null

end GroundedAnswers.Json
