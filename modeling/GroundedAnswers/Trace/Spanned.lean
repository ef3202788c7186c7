import GroundedAnswers.Task.Basic
import GroundedAnswers.Trace.Recorder

namespace GroundedAnswers

/-! Work that is recorded as a span. -/

structure SpanLabel where
  name : String
  attributes : List (String × Json)

def Task.spanned (recorder : σ → SpanRecorder) (replace : SpanRecorder → σ → σ)
    (target : String) (label : SpanLabel) (task : Task σ α) : Task σ α := do
  let start ← Task.now
  let state ← get
  let (opened, span) :=
    (recorder state).openSpan none label.name target (Moment.nanoseconds start) label.attributes
  set (replace opened state)
  let value ← task
  let finish ← Task.now
  modify fun state =>
    replace ((recorder state).release span (Moment.nanoseconds finish)) state
  return value

end GroundedAnswers
