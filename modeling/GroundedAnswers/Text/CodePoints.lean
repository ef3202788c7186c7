namespace GroundedAnswers.Text

/-! Classes of code points. A class is written as its edges: the ascending code points at which
membership changes, the first of which enters the class. -/

/-- Whether a code point lies in the class with these edges. -/
def withinEdges : List Nat → Nat → Bool
  | [], _ => false
  | edge :: edges, code => if code < edge then false else !withinEdges edges code

example : withinEdges [48, 58, 65, 91] 57 = true := rfl

example : withinEdges [48, 58, 65, 91] 58 = false := rfl

end GroundedAnswers.Text
