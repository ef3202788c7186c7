import GroundedAnswers.Stream.Basic
import GroundedAnswers.Stream.Body

namespace GroundedAnswers.ServerSent

/-! Server-sent events. Lines end with a line feed, a carriage return, or both. An event ends with
an empty line, and its data lines are joined by line feeds; all that is unfinished at the end of
the body is dropped. -/

/-- The decoder between two characters. A line that ended with a carriage return is held back
until the next character shows whether a line feed belongs to it. -/
structure Decoder where
  /-- The current line in reverse order. -/
  line : List Char
  held : Bool
  data : List (List Char)

def Decoder.start : Decoder := ⟨[], false, []⟩

/-- A field of an event: a name and, behind a colon and at most one blank, a value. -/
def field (line : List Char) : List Char × List Char :=
  let name := line.takeWhile (· ≠ ':')
  match line.dropWhile (· ≠ ':') with
  | ':' :: ' ' :: value => (name, value)
  | ':' :: value => (name, value)
  | _ => (name, [])

/-- Take in a complete line. Gives the data of the event that it ends. -/
def Decoder.endLine (decoder : Decoder) : Decoder × Option String :=
  match decoder.line.reverse with
  | [] =>
      match decoder.data with
      | [] => (.start, none)
      | data => (.start, some ("\n".intercalate (data.reverse.map String.ofList)))
  | line =>
      let (name, value) := field line
      if name = "data".toList then (⟨[], false, value :: decoder.data⟩, none)
      else (⟨[], false, decoder.data⟩, none)

def Decoder.feedWithin (decoder : Decoder) (character : Char) : Decoder × Option String :=
  if character = '\n' then decoder.endLine
  else if character = '\r' then ({ decoder with held := true }, none)
  else ({ decoder with line := character :: decoder.line }, none)

def Decoder.feed (decoder : Decoder) (character : Char) : Decoder × Option String :=
  if decoder.held then
    if character = '\n' then decoder.endLine
    else
      match decoder.endLine with
      | (next, none) => next.feedWithin character
      | (next, some data) => ((next.feedWithin character).1, some data)
  else decoder.feedWithin character

def Decoder.feedAll (decoder : Decoder) : List Char → Decoder × List String
  | [] => (decoder, [])
  | character :: rest =>
      let (next, data) := decoder.feed character
      let (last, others) := next.feedAll rest
      (last, data.toList ++ others)

/-- A mark in front of the text that says nothing but its byte order. -/
def withoutByteOrderMark : List Char → List Char
  | '\uFEFF' :: rest => rest
  | text => text

def faultMessage (bytes : List UInt8) : String :=
  let reason :=
    match Text.Utf8.step bytes with
    | .fault (.invalid length) => s!"invalid utf-8 sequence of {length} bytes from index 0"
    | _ => "incomplete utf-8 byte sequence from index 0"
  "UTF8 error: " ++ reason

/-- The items of a body, each event one item. `pending` holds bytes that do not make up a character
so far. Events without data bring nothing. -/
def items (frame : String → Frame) (started : Bool) (pending : List UInt8) (decoder : Decoder) :
    List BodyPart → List StreamItem
  | [] => if pending.isEmpty then [] else [.broken (faultMessage pending)]
  | .bytes content :: rest =>
      let (characters, pending) := Text.Utf8.decodeFront (pending ++ content)
      let text := if started then characters else withoutByteOrderMark characters
      let (decoder, data) := decoder.feedAll text
      let events := (data.filter (· ≠ "")).map fun data => StreamItem.frames [frame data]
      events ++ items frame (started || !characters.isEmpty) pending decoder rest
  | .pause nanoseconds :: rest =>
      .pause nanoseconds :: items frame started pending decoder rest
  | .failure message :: _ => [.broken ("Transport error: " ++ message)]

def stream (context : RequestContext) (frame : String → Frame) (body : List BodyPart) :
    ChatStream :=
  ⟨some context, items frame false [] .start body, []⟩

end GroundedAnswers.ServerSent
