import GroundedAnswers.CommandLine.Files
import GroundedAnswers.Failure.Retrieval

namespace GroundedAnswers

/-! Why a command fails. -/

inductive CommandFailure where
  | environment (cause : ModelFailure)
  | noBackend (cause : ModelFailure)
  | model (cause : ModelFailure)
  | retrieval (cause : RetrievalFailure)
  | reading (path : String) (cause : FileFault)
  | ingesting (path : String) (cause : RetrievalFailure)
  | noText
  | stream (message : String)
  /-- A stream is over before its last event. -/
  | unfinishedStream
  deriving DecidableEq, Repr

namespace CommandFailure

/-- What happened, each message followed by its cause. -/
def chain : CommandFailure → List String
  | environment cause => "reading gateway configuration" :: cause.chain
  | noBackend cause =>
      "no usable backend; set OPENAI_API_KEY, ANTHROPIC_API_KEY or OLLAMA_URL" :: cause.chain
  | model cause => cause.chain
  | retrieval cause => cause.chain
  | reading path cause => [s!"reading {path}", cause.message]
  | ingesting path cause => s!"ingesting {path}" :: cause.chain
  | noText => ["none of the given files contain text"]
  | stream message => [s!"stream failed: {message}"]
  | unfinishedStream => ["stream ended without a final event"]

def message (failure : CommandFailure) : String :=
  ": ".intercalate failure.chain

end CommandFailure

end GroundedAnswers
