import GroundedAnswers.Text.Alphanumeric
import GroundedAnswers.Text.LowerCase

namespace GroundedAnswers.Text

/-! The terms of a text: the lower-case forms of its maximal runs of letters and digits. Case,
punctuation and spacing do not show in them. -/

def terms (text : String) : List String :=
  (runs isAlphanumeric text.toList).map fun run => String.ofList (lowerCase run)

example : terms "Cats, cats & DOGS" = ["cats", "cats", "dogs"] := by decide +kernel

end GroundedAnswers.Text
