import GroundedAnswers.Task.Basic
import GroundedAnswers.Text.Utf8

namespace GroundedAnswers

/-! The body of a response, as it arrives. -/

inductive BodyPart where
  | bytes (content : List UInt8)
  | pause (nanoseconds : Nat)
  | failure (message : String)

def readBody : List BodyPart → Task σ (Except String (List UInt8))
  | [] => pure (.ok [])
  | .bytes content :: rest => do
      match ← readBody rest with
      | .ok others => return .ok (content ++ others)
      | .error message => return .error message
  | .pause nanoseconds :: rest => do
      Task.delay nanoseconds
      readBody rest
  | .failure message :: _ => pure (.error message)

end GroundedAnswers
