import GroundedAnswers.Context.Basic
import GroundedAnswers.Stream.Event

namespace GroundedAnswers

/-! Streamed answers. A stream is written beside its reader: in each turn the writer goes on until
it has to wait for the backend or until the buffer between the two is full, and then the reader
takes all that is there. -/

inductive StreamItem where
  | pause (nanoseconds : Nat)
  | frames (frames : List Frame)
  | broken (message : String)

/-- What the writer of a stream starts with: a context, if it watches one, and the counts that it
tells at the end as long as no frame brings others. -/
structure StreamStart where
  watched : Option RequestContext
  usage : Usage := .zero

instance : Coe (Option RequestContext) StreamStart :=
  ⟨fun watched => { watched }⟩

/-- A streamed answer. The writer looks at the context, if it watches one, before each item and
before the end. -/
structure ChatStream where
  start : StreamStart
  items : List StreamItem
  trailing : List Frame

namespace ChatStream

/-- How many events may wait for the reader. -/
def bufferSize : Nat := 64

structure TimedEvent where
  moment : Moment
  event : StreamEvent

/-- The writer of a stream. `read` counts the events that the reader had taken when the writer last
stopped; once it reaches `cancelAfter` the reader cancels the context. -/
structure Writer where
  cancelAfter : Option Nat
  now : Moment
  sent : Nat
  read : Nat
  usage : Usage

namespace Writer

def timed (writer : Writer) (event : StreamEvent) : TimedEvent :=
  ⟨writer.now, event⟩

/-- Count one more event. A full buffer is emptied first. -/
def afterSending (writer : Writer) : Writer :=
  { writer with
    sent := writer.sent + 1
    read := if writer.sent - writer.read = bufferSize then writer.sent else writer.read }

def atPause (writer : Writer) : Writer :=
  { writer with read := writer.sent }

def seen (writer : Writer) (context : RequestContext) : RequestContext :=
  if writer.cancelAfter.any (· ≤ writer.read) then context.cancelledFrom writer.now else context

/-- Send the events of some frames. There is no writer left after a terminal event. -/
def frames (writer : Writer) : List Frame → List TimedEvent × Option Writer
  | [] => ([], some writer)
  | frame :: rest =>
      let usage := frame.usageAfter writer.usage
      let updated := { writer with usage }
      match frame.event? usage with
      | none => updated.frames rest
      | some event =>
          if event.isTerminal then ([writer.timed event], none)
          else
            let (events, last) := updated.afterSending.frames rest
            (writer.timed event :: events, last)

def interruption? (writer : Writer) (watched : Option RequestContext) : Option Interruption :=
  watched.bind fun context => (writer.seen context).interruption? writer.now

def events (watched : Option RequestContext) (trailing : List Frame) (writer : Writer) :
    List StreamItem → List TimedEvent
  | [] =>
      match writer.interruption? watched with
      | some interruption => [writer.timed (.failed interruption.message)]
      | none => (writer.frames (trailing ++ [.done])).1
  | item :: items =>
      match writer.interruption? watched with
      | some interruption => [writer.timed (.failed interruption.message)]
      | none =>
          match item with
          | .broken message => [writer.timed (.failed message)]
          | .frames frames =>
              match writer.frames frames with
              | (sent, none) => sent
              | (sent, some writer) => sent ++ events watched trailing writer items
          | .pause nanoseconds =>
              let wake := writer.now.besideAfter nanoseconds
              if wake ≤ writer.now then events watched trailing writer items
              else
                let paused := writer.atPause
                match watched.bind fun context => (paused.seen context).breaks? wake with
                | some (moment, interruption) =>
                    [⟨moment, .failed interruption.message⟩]
                | none => events watched trailing { paused with now := wake } items

end Writer

def eventsFrom (stream : ChatStream) (start : Moment) (cancelAfter : Option Nat) :
    List TimedEvent :=
  let writer : Writer :=
    { cancelAfter, now := start.besideAfter 0, sent := 0, read := 0, usage := stream.start.usage }
  writer.events stream.start.watched stream.trailing stream.items

structure Reading where
  events : List StreamEvent
  closed : Bool

def read (stream : ChatStream) (limit cancelAfter : Option Nat) : Task σ Reading := do
  let events := stream.eventsFrom (← Task.now) cancelAfter
  let seen := (limit.map events.take).getD events
  match seen.getLast? with
  | some last => Task.waitUntil last.moment
  | none => pure ()
  return ⟨seen.map TimedEvent.event, limit.all (events.length < ·)⟩

/-! ## Reading under a context of the reader's own -/

/-- Wait for events one after the other. Gives those that came, and the interruption that kept the
others away. -/
def followEvents (context : RequestContext) :
    List TimedEvent → Task σ (List StreamEvent × Option Interruption)
  | [] => pure ([], none)
  | timed :: later => do
      match ← (context.run (Task.waitUntil timed.moment)).run with
      | .error cause => return ([], some cause)
      | .ok _ =>
          let (others, cause) ← followEvents context later
          return (timed.event :: others, cause)

def follow (context : RequestContext) (stream : ChatStream) :
    Task σ (List StreamEvent × Option Interruption) := do
  followEvents context (stream.eventsFrom (← Task.now) none)

end ChatStream

end GroundedAnswers
