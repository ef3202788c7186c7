import GroundedAnswers.Stream.Basic
import GroundedAnswers.Stream.Body
import GroundedAnswers.Text.Blank

namespace GroundedAnswers.Lines

/-! Bodies with one frame a line. A line that is not complete waits for the next part, and what is
left at the end counts as a line. Blank lines mean nothing. -/

/-- The lines that end within the bytes, and what follows the last of them. `pending` is the start
of the first line in reverse order. -/
def split (pending : List UInt8) : List UInt8 → List (List UInt8) × List UInt8
  | [] => ([], pending)
  | byte :: rest =>
      if byte = 0x0A then
        let (lines, open_) := split [] rest
        ((pending.reverse ++ [byte]) :: lines, open_)
      else split (byte :: pending) rest

def text? (line : List UInt8) : Option String :=
  match Text.trimmed (Text.Utf8.decodeReplacing line) with
  | [] => none
  | characters => some (String.ofList characters)

/-- Take in more bytes. Gives the lines that they complete, and the start of the next one. -/
def push (pending content : List UInt8) : List String × List UInt8 :=
  let (lines, pending) := split pending content
  (lines.filterMap text?, pending)

def finish (pending : List UInt8) : Option String :=
  text? pending.reverse

/-- The items of a body, each part of it one item, and the frames of the line left at the end. -/
def items (frame : String → Frame) (pending : List UInt8) :
    List BodyPart → List StreamItem × List Frame
  | [] => ([], ((finish pending).map frame).toList)
  | .bytes content :: rest =>
      let (lines, pending) := push pending content
      let (others, trailing) := items frame pending rest
      (.frames (lines.map frame) :: others, trailing)
  | .pause nanoseconds :: rest =>
      let (others, trailing) := items frame pending rest
      (.pause nanoseconds :: others, trailing)
  | .failure message :: _ => ([.broken message], [])

def stream (context : RequestContext) (frame : String → Frame) (body : List BodyPart) :
    ChatStream :=
  let (items, trailing) := items frame [] body
  ⟨some context, items, trailing⟩

end GroundedAnswers.Lines
