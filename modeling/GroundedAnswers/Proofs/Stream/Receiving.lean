import GroundedAnswers.Proofs.Stream.Lines
import GroundedAnswers.Proofs.Stream.Reading
import GroundedAnswers.Stream.ServerSent

namespace GroundedAnswers

/-! Streamed bodies. What a stream tells depends on the bytes that were received, and on how
receiving them ended, whichever way they were cut. -/

/-! ## Bodies -/

inductive BodyEnd where
  | complete
  | failed (message : String)
  | interrupted (cause : Interruption)

structure Received where
  bytes : List UInt8
  ending : BodyEnd

def Received.after (content : List UInt8) (received : Received) : Received :=
  ⟨content ++ received.bytes, received.ending⟩

def received (context : RequestContext) : Moment → List BodyPart → Received
  | now, [] =>
      match context.interruption? now with
      | some cause => ⟨[], .interrupted cause⟩
      | none => ⟨[], .complete⟩
  | now, part :: rest =>
      match context.interruption? now with
      | some cause => ⟨[], .interrupted cause⟩
      | none =>
          match part with
          | .bytes content => (received context now rest).after content
          | .failure message => ⟨[], .failed message⟩
          | .pause nanoseconds =>
              let wake := now.besideAfter nanoseconds
              match context.breaks? wake with
              | some (_, cause) => ⟨[], .interrupted cause⟩
              | none => received context wake rest

section

variable {context : RequestContext} {now : Moment} {cause : Interruption}

theorem received_of_interrupted (found : context.interruption? now = some cause)
    (body : List BodyPart) : received context now body = ⟨[], .interrupted cause⟩ := by
  cases body <;> simp [received, found]

private theorem ChatStream.arriving_of_interrupted (found : context.interruption? now = some cause)
    (trailing : List Frame) (items : List StreamItem) :
    arriving context trailing now items = [.failure cause.message] := by
  cases items <;> simp [arriving, found]

end

/-! ## Lines -/

namespace Lines

/-- The frames of a body with one frame a line. A line that was not completed counts only when the
body has come to its end. -/
def framesFrom (frame : String → Frame) (pending : List UInt8) (received : Received) : List Frame :=
  let lines := pieces pending received.bytes
  match received.ending with
  | .complete => (lines.filterMap text?).map frame ++ [.done]
  | .failed message => (lines.dropLast.filterMap text?).map frame ++ [.failure message]
  | .interrupted cause => (lines.dropLast.filterMap text?).map frame ++ [.failure cause.message]

private theorem pieces_ne_nil (pending bytes : List UInt8) : pieces pending bytes ≠ [] := by
  unfold pieces
  cases split : bytes.splitOn 0x0A with
  | nil => exact absurd split (List.splitOn_ne_nil _ _)
  | cons first others => exact List.cons_ne_nil _ _

private theorem framesFrom_after (frame : String → Frame) (pending content : List UInt8)
    (received : Received) :
    framesFrom frame pending (received.after content) =
      (push pending content).1.map frame ++ framesFrom frame (push pending content).2 received := by
  rcases push_pieces pending content with ⟨complete, lines, goesOn⟩
  rw [lines]
  unfold framesFrom Received.after
  dsimp only
  rw [goesOn, List.dropLast_append_of_ne_nil (pieces_ne_nil _ _)]
  cases received.ending <;> simp only [List.filterMap_append, List.map_append, List.append_assoc]

private theorem framesFrom_interrupted (frame : String → Frame) (pending : List UInt8)
    (cause : Interruption) :
    framesFrom frame pending ⟨[], .interrupted cause⟩ = [.failure cause.message] := by
  rw [framesFrom, pieces_nil]
  rfl

theorem arriving_items (context : RequestContext) (frame : String → Frame) (pending : List UInt8)
    (now : Moment) (body : List BodyPart) :
    ChatStream.arriving context (items frame pending body).2 now (items frame pending body).1 =
      framesFrom frame pending (received context now body) := by
  induction body generalizing now pending with
  | nil =>
      cases look : context.interruption? now with
      | some cause =>
          rw [ChatStream.arriving_of_interrupted look, received_of_interrupted look,
            framesFrom_interrupted]
      | none =>
          simp only [items, finish, ChatStream.arriving, received, look, framesFrom, pieces_nil]
          cases left : text? pending.reverse <;> simp [left]
  | cons part rest induction =>
      cases look : context.interruption? now with
      | some cause =>
          rw [ChatStream.arriving_of_interrupted look, received_of_interrupted look,
            framesFrom_interrupted]
      | none =>
          cases part with
          | bytes content =>
              simp only [items, ChatStream.arriving, received, look]
              rw [framesFrom_after, induction]
          | pause nanoseconds =>
              simp only [items, ChatStream.arriving, received, look]
              cases context.breaks? (now.besideAfter nanoseconds) with
              | none => exact induction pending _
              | some stop => exact (framesFrom_interrupted frame pending stop.2).symm
          | failure message =>
              simp only [items, ChatStream.arriving, received, look]
              rw [framesFrom, pieces_nil]
              rfl

end Lines

/-! ## Server-sent events -/

namespace ServerSent

private theorem feedAll_append (decoder : Decoder) (first later : List Char) :
    decoder.feedAll (first ++ later) =
      (((decoder.feedAll first).1.feedAll later).1,
        (decoder.feedAll first).2 ++ ((decoder.feedAll first).1.feedAll later).2) := by
  induction first generalizing decoder with
  | nil => rfl
  | cons character rest induction =>
      simp only [List.cons_append, Decoder.feedAll, induction, List.append_assoc]

/-- The characters of a text that count, `started` telling whether some came before. -/
def counting (started : Bool) (characters : List Char) : List Char :=
  if started then characters else withoutByteOrderMark characters

private theorem counting_append (started : Bool) (first later : List Char) :
    counting started (first ++ later) =
      counting started first ++ counting (started || !first.isEmpty) later := by
  cases started with
  | true => rfl
  | false =>
      cases first with
      | nil => rfl
      | cons character rest =>
          by_cases mark : character = '\uFEFF'
          · subst mark
            rfl
          · simp [counting, withoutByteOrderMark, mark]

/-- The frame behind those of the events. Bytes that no character can be read from are a failure
when the body has come to its end. -/
def lastFrame (left : List UInt8) : BodyEnd → Frame
  | .complete => if left.isEmpty then .done else .failure (faultMessage left)
  | .failed message => .failure ("Transport error: " ++ message)
  | .interrupted cause => .failure cause.message

def framesFrom (frame : String → Frame) (started : Bool) (pending : List UInt8)
    (decoder : Decoder) (received : Received) : List Frame :=
  let (characters, left) := Text.Utf8.decodeFront (pending ++ received.bytes)
  let data := (decoder.feedAll (counting started characters)).2.filter (· ≠ "")
  data.map frame ++ [lastFrame left received.ending]

private theorem framesFrom_after (frame : String → Frame) (started : Bool)
    (pending content : List UInt8) (decoder : Decoder) (received : Received) :
    framesFrom frame started pending decoder (received.after content) =
      let (characters, left) := Text.Utf8.decodeFront (pending ++ content)
      let (next, data) := decoder.feedAll (counting started characters)
      (data.filter (· ≠ "")).map frame ++
        framesFrom frame (started || !characters.isEmpty) left next received := by
  unfold framesFrom Received.after
  dsimp only
  rw [← List.append_assoc pending, Text.Utf8.decodeFront_append]
  dsimp only
  rw [counting_append, feedAll_append]
  simp only [List.filter_append, List.map_append, List.append_assoc]

private theorem framesFrom_nothing {pending : List UInt8}
    (stuck : Text.Utf8.decodeFront pending = ([], pending)) (frame : String → Frame)
    (started : Bool) (decoder : Decoder) (ending : BodyEnd) :
    framesFrom frame started pending decoder ⟨[], ending⟩ = [lastFrame pending ending] := by
  have nothing : counting started [] = [] := by
    cases started <;> rfl
  rw [framesFrom, List.append_nil, stuck]
  dsimp only
  rw [nothing]
  rfl

private theorem arriving_append {context : RequestContext} {now : Moment}
    (calm : context.interruption? now = none) (trailing : List Frame) (frame : String → Frame)
    (data : List String) (items : List StreamItem) :
    ChatStream.arriving context trailing now
        ((data.map fun data => StreamItem.frames [frame data]) ++ items) =
      data.map frame ++ ChatStream.arriving context trailing now items := by
  induction data with
  | nil => rfl
  | cons first rest induction =>
      simp only [List.map_cons, List.cons_append, ChatStream.arriving, calm, induction]
      rfl

theorem arriving_items (context : RequestContext) (frame : String → Frame) (started : Bool)
    (pending : List UInt8) (decoder : Decoder) (now : Moment) (body : List BodyPart)
    (stuck : Text.Utf8.decodeFront pending = ([], pending)) :
    ChatStream.arriving context [] now (items frame started pending decoder body) =
      framesFrom frame started pending decoder (received context now body) := by
  induction body generalizing now started pending decoder with
  | nil =>
      cases look : context.interruption? now with
      | some cause =>
          rw [ChatStream.arriving_of_interrupted look, received_of_interrupted look,
            framesFrom_nothing stuck, lastFrame]
      | none =>
          simp only [items, received, look]
          rw [framesFrom_nothing stuck, lastFrame]
          split <;> simp only [ChatStream.arriving, look, List.nil_append]
  | cons part rest induction =>
      cases look : context.interruption? now with
      | some cause =>
          rw [ChatStream.arriving_of_interrupted look, received_of_interrupted look,
            framesFrom_nothing stuck, lastFrame]
      | none =>
          cases part with
          | bytes content =>
              simp only [items, received, look]
              rw [framesFrom_after, arriving_append look,
                induction _ _ _ _ (Text.Utf8.decodeFront_left _)]
              rfl
          | pause nanoseconds =>
              simp only [items, ChatStream.arriving, received, look]
              cases context.breaks? (now.besideAfter nanoseconds) with
              | none => exact induction started pending decoder _ stuck
              | some stop =>
                  exact (framesFrom_nothing stuck frame started decoder (.interrupted stop.2)).symm
          | failure message =>
              simp only [items, ChatStream.arriving, received, look]
              rw [framesFrom_nothing stuck, lastFrame]

end ServerSent

/-! ## Events -/

/-- A stream tells the texts of the frames that arrive, up to the first one that ends the stream,
and then how it ended; after that nothing comes. This holds whatever decodes a body, and so of both
kinds of bodies, whose frames are known from all that was received. -/
theorem streams_end_once (context : RequestContext) (cancelAfter : Option Nat) (now : Moment)
    (state : σ) :
    let start := now.besideAfter 0
    let tells (stream : ChatStream) (frames : List Frame) : Prop :=
      ∃ texts ending,
        (Task.run (stream.read none cancelAfter) now state).1 =
          ⟨texts.map StreamEvent.delta ++ [ending], true⟩ ∧
        ending.isTerminal ∧ ChatStream.Ends cancelAfter .zero 0 frames texts ending
    (∀ items trailing,
      tells ⟨some context, items, trailing⟩ (ChatStream.arriving context trailing start items)) ∧
    ∀ (frame : String → Frame) (body : List BodyPart),
      tells (ServerSent.stream context frame body)
        (ServerSent.framesFrom frame false [] .start (received context start body)) ∧
      tells (Lines.stream context frame body)
        (Lines.framesFrom frame [] (received context start body)) := by
  intro start tells
  have anything : ∀ items trailing,
      tells ⟨some context, items, trailing⟩ (ChatStream.arriving context trailing start items) := by
    intro items trailing
    rcases ChatStream.read_ends context items trailing cancelAfter now state with
      ⟨texts, ending, told, ends⟩
    exact ⟨texts, ending, told, ends.isTerminal, ends⟩
  refine ⟨anything, fun frame body => ⟨?_, ?_⟩⟩
  · have stuck : Text.Utf8.decodeFront [] = ([], []) := Text.Utf8.decodeFront_of_fault rfl
    rw [← ServerSent.arriving_items context frame false [] .start start body stuck]
    exact anything (ServerSent.items frame false [] .start body) []
  · rw [← Lines.arriving_items context frame [] start body]
    exact anything (Lines.items frame [] body).1 (Lines.items frame [] body).2

end GroundedAnswers
