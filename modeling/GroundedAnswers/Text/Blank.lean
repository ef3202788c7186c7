import GroundedAnswers.Text.Runs

namespace GroundedAnswers.Text

/-! Blank characters: the code points with the White_Space property. -/

def isBlank (character : Char) : Bool :=
  let code := character.toNat
  (9 ≤ code ∧ code ≤ 13) ∨ code = 0x20 ∨ code = 0x85 ∨ code = 0xA0 ∨ code = 0x1680 ∨
    (0x2000 ≤ code ∧ code ≤ 0x200A) ∨ code = 0x2028 ∨ code = 0x2029 ∨ code = 0x202F ∨
    code = 0x205F ∨ code = 0x3000

def trimStart (text : List Char) : List Char :=
  text.dropWhile isBlank

def trimEnd (text : List Char) : List Char :=
  (trimStart text.reverse).reverse

def trimmed (text : List Char) : List Char :=
  trimEnd (trimStart text)

def trim (text : String) : String :=
  String.ofList (trimmed text.toList)

def isBlankText (text : String) : Bool :=
  text.toList.all isBlank

def wordsOf (text : List Char) : List (List Char) :=
  runs (fun character => !isBlank character) text

def wordCount (text : String) : Nat :=
  (wordsOf text.toList).length

example : wordsOf " a\tbc ".toList = ["a".toList, "bc".toList] := by decide

end GroundedAnswers.Text
