import GroundedAnswers.Proofs.Stream.Receiving
import GroundedAnswers.Proofs.Task.Running
import GroundedAnswers.Service.Ollama

namespace GroundedAnswers

/-! Streams of lines and the network. However it cuts a body, the lines are the same, and so is
what a stream tells that is not interrupted. -/

def wholeOf : List BodyPart → Received
  | [] => ⟨[], .complete⟩
  | .bytes content :: rest => (wholeOf rest).after content
  | .pause _ :: rest => wholeOf rest
  | .failure message :: _ => ⟨[], .failed message⟩

private theorem received_eq_wholeOf {context : RequestContext} {now : Moment} {body : List BodyPart}
    (uninterrupted : ∀ cause, (received context now body).ending ≠ .interrupted cause) :
    received context now body = wholeOf body := by
  induction body generalizing now with
  | nil =>
      cases look : context.interruption? now with
      | some cause =>
          rw [received_of_interrupted look] at uninterrupted
          exact absurd rfl (uninterrupted cause)
      | none => simp only [received, look, wholeOf]
  | cons part rest induction =>
      cases look : context.interruption? now with
      | some cause =>
          rw [received_of_interrupted look] at uninterrupted
          exact absurd rfl (uninterrupted cause)
      | none =>
          cases part with
          | bytes content =>
              simp only [received, look] at uninterrupted ⊢
              rw [induction uninterrupted, wholeOf]
          | pause nanoseconds =>
              simp only [received, look] at uninterrupted ⊢
              cases broken : context.breaks? (now.besideAfter nanoseconds) with
              | none =>
                  rw [broken] at uninterrupted
                  exact induction uninterrupted
              | some stop =>
                  rw [broken] at uninterrupted
                  exact absurd rfl (uninterrupted stop.2)
          | failure message => simp only [received, look, wholeOf]

/-- What a reader gets of a body of lines, by what was received of it. -/
def Lines.readingOf (frame : String → Frame) (received : Received) : ChatStream.Reading :=
  let frames := framesFrom frame [] received
  ⟨(Frame.textsOf frames).map StreamEvent.delta ++ (Frame.endingOf? .zero frames).toList, true⟩

private theorem Lines.run_read (context : RequestContext) (frame : String → Frame)
    (body : List BodyPart) (now : Moment) (state : σ) :
    (Task.run ((Lines.stream context frame body).read none none) now state).1 =
      readingOf frame (received context (now.besideAfter 0) body) := by
  rcases ChatStream.read_ends context (items frame [] body).1 (items frame [] body).2 none now state
    with ⟨texts, ending, told, ends⟩
  rw [arriving_items] at ends
  cases ends with
  | told ends =>
      rw [readingOf, ends]
      exact told
  | left cancels => cases cancels

namespace Ollama

/-- A buffer that takes in a text in parts gives the lines of the whole text. So a chat that is not
interrupted tells the same for all bodies that bring the same bytes and end in the same way. -/
theorem chat_stream_ignores_cuts :
    (∀ parts : List (List UInt8),
      Lines.fed [] parts = (parts.flatten.splitOn 0x0A).filterMap Lines.text?) ∧
    ∀ (endpoint : Endpoint σ) (context : RequestContext) (request : ChatRequest)
      (body : List BodyPart) (now moment start : Moment) (state after before : σ),
      Task.run (endpoint.post "/api/chat" (chatBody request true)).run now state =
        (.ok body, moment, after) →
      (∀ cause, (received context (start.besideAfter 0) body).ending ≠ .interrupted cause) →
      ∃ stream,
        Task.run ((backend endpoint).chatStream context request).run now state =
          (.ok stream, moment, after) ∧
        (Task.run (stream.read none none) start before).1 =
          Lines.readingOf frame (wholeOf body) := by
  constructor
  · intro parts
    rw [Lines.fed_eq, Lines.pieces_start]
  · intro endpoint context request body now moment start state after before posted uninterrupted
    refine ⟨Lines.stream context frame body, Task.run_bind_of_ok posted _, ?_⟩
    rw [Lines.run_read, received_eq_wholeOf uninterrupted]

/-- A body that is cut within a character. -/
theorem chat_stream_ignores_cuts_within_character :
    let text := Text.Utf8.encode
      "\x7b\"message\": \x7b\"content\": \"é\"\x7d\x7d\n\x7b\"done\": true\x7d"
    let body : List BodyPart := [.bytes (text.take 26), .pause 5, .bytes [], .bytes (text.drop 26)]
    let endpoint : Endpoint Unit := ⟨name, "", [], 1000, fun _ => pure (.ok ⟨200, body⟩)⟩
    let context := RequestContext.ofTenant (.ofNat 1)
    let request := ChatRequest.of "llama3" []
    Task.run (endpoint.post "/api/chat" (chatBody request true)).run 0 () = (.ok body, 0, ()) ∧
    (∀ cause, (received context (Moment.besideAfter 0 0) body).ending ≠ .interrupted cause) ∧
    ∃ stream,
      Task.run ((backend endpoint).chatStream context request).run 0 () = (.ok stream, 0, ()) ∧
      (Task.run (stream.read none none) 0 ()).1 = ⟨[.delta "é", .done .zero], true⟩ := by
  intro text body endpoint context request
  have posted :
      Task.run (endpoint.post "/api/chat" (chatBody request true)).run 0 () = (.ok body, 0, ()) :=
    rfl
  have uninterrupted : ∀ cause,
      (received context (Moment.besideAfter 0 0) body).ending ≠ .interrupted cause := by
    intro cause same
    cases same
  rcases chat_stream_ignores_cuts.2 endpoint context request body 0 0 0 () () () posted
    uninterrupted with ⟨stream, streamed, told⟩
  have events : (Lines.readingOf frame (wholeOf body)).events = [.delta "é", .done .zero] := by
    decide +kernel
  refine ⟨posted, uninterrupted, stream, streamed, ?_⟩
  rw [told]
  exact congrArg (ChatStream.Reading.mk · true) events

end Ollama

end GroundedAnswers
