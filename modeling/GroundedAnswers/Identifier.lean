import GroundedAnswers.Json.Lexer

namespace GroundedAnswers

/-! Identifiers of tenants, documents and chunks: numbers of 128 bits, written as hexadecimal digits
in groups of 8, 4, 4, 4 and 12. -/

structure Identifier where
  bits : BitVec 128
  deriving DecidableEq, Repr, Inhabited

namespace Identifier

def ofNat (value : Nat) : Identifier :=
  ⟨BitVec.ofNat 128 value⟩

def toNat (identifier : Identifier) : Nat :=
  identifier.bits.toNat

theorem toNat_ofNat (value : Nat) (fits : value < Number.binaryPower 128) :
    (ofNat value).toNat = value := by
  simp only [toNat, ofNat, BitVec.toNat_ofNat]
  exact Nat.mod_eq_of_lt fits

def hexDigits (value : Nat) : Nat → List Char
  | 0 => []
  | count + 1 => hexDigits (value / 16) count ++ [Nat.digitChar (value % 16)]

def hyphenated (digits : List Char) : List Char :=
  digits.take 8 ++ '-' :: (digits.drop 8).take 4 ++ '-' :: (digits.drop 12).take 4 ++
    '-' :: (digits.drop 16).take 4 ++ '-' :: digits.drop 20

def text (identifier : Identifier) : String :=
  String.ofList (hyphenated (hexDigits identifier.toNat 32))

instance : ToString Identifier := ⟨text⟩

def ofDigits? (digits : List Char) : Option Identifier := do
  let values ← digits.mapM Json.hexDigit?
  return ofNat (values.foldl (fun value digit => 16 * value + digit) 0)

def ofHyphenated? (text : List Char) : Option Identifier :=
  let digits := text.filter (· ≠ '-')
  if digits.length = 32 ∧ text = hyphenated digits then ofDigits? digits else none

/-- Read an identifier: plain digits, the hyphenated form, and that form in braces or behind
`urn:uuid:`. -/
def read? (text : String) : Option Identifier :=
  let characters := text.toList
  if characters.length = 32 then ofDigits? characters
  else if characters.length = 38 ∧ characters.head? = some '\x7b' ∧
      characters.getLast? = some '\x7d' then
    ofHyphenated? (characters.drop 1).dropLast
  else if characters.take 9 = "urn:uuid:".toList then ofHyphenated? (characters.drop 9)
  else ofHyphenated? characters

example : (ofNat 7).text = "00000000-0000-0000-0000-000000000007" := by decide +kernel

example : read? "00000000-0000-0000-0000-00000000002A" = some (ofNat 42) := by decide +kernel

end Identifier

end GroundedAnswers
