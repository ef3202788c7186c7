namespace GroundedAnswers.Text

/-! Texts of a certain width: cut short, or in columns. A text that is wider than its column pushes
what follows aside. -/

/-- The first characters of a text, with three dots behind them when something was cut off. -/
def preview (text : String) (characters : Nat) : String :=
  if text.toList.length ≤ characters then text
  else String.ofList (text.toList.take characters) ++ "..."

example : preview "hello" 5 = "hello" := rfl

example : preview "hello" 4 = "hell..." := by decide

def blanks (width : Nat) (text : String) : String :=
  String.ofList (List.replicate (width - text.toList.length) ' ')

def padRight (width : Nat) (text : String) : String :=
  text ++ blanks width text

def padLeft (width : Nat) (text : String) : String :=
  blanks width text ++ text

example : padLeft 3 "7" = "  7" := by decide

def onOneLine (text : String) : String :=
  String.ofList (text.toList.map fun character => if character = '\n' then ' ' else character)

end GroundedAnswers.Text
