namespace GroundedAnswers.Text

def occursIn (part : List Char) : List Char → Bool
  | [] => part.isEmpty
  | character :: rest => part.isPrefixOf (character :: rest) || occursIn part rest

theorem occursIn_iff (part text : List Char) : occursIn part text ↔ part <:+: text := by
  induction text with
  | nil => cases part <;> simp [occursIn]
  | cons character rest induction =>
      simp [occursIn, induction, List.infix_cons_iff]

def contains (text part : String) : Bool :=
  occursIn part.toList text.toList

example : contains "nomic-embed-text" "embed" = true := by decide +kernel

end GroundedAnswers.Text
