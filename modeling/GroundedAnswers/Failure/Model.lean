import GroundedAnswers.Context.Basic

namespace GroundedAnswers

/-! What can go wrong between a request and a model's answer. -/

inductive ModelFailure where
  | notConfigured (backend : String)
  | configuration (message : String)
  | invalidRequest (message : String)
  /-- The request did not get through. -/
  | unreachable (backend message : String)
  /-- The answer was an error status. -/
  | refused (backend : String) (status : UInt16) (message : String)
  /-- The answer could not be understood. -/
  | unreadable (backend message : String)
  | unsupported (backend operation : String)
  | interrupted (cause : Interruption)
  /-- No attempt succeeded; the last one failed as given. -/
  | exhausted (backend : String) (attempts : UInt32) (last : ModelFailure)
  deriving DecidableEq, Repr, Inhabited

namespace ModelFailure

def message : ModelFailure → String
  | notConfigured backend => s!"backend '{backend}' is not configured"
  | configuration message => "Configuration error: " ++ message
  | invalidRequest message => "Invalid request: " ++ message
  | unreachable backend message => s!"{backend} request failed: {message}"
  | refused backend status message => s!"{backend} returned {status.toNat}: {message}"
  | unreadable backend message => s!"{backend} response could not be parsed: {message}"
  | unsupported backend operation => s!"{backend} does not support {operation}"
  | interrupted cause => cause.message
  | exhausted backend attempts last =>
      s!"all retries exhausted for {backend} after {attempts.toNat} attempts: {last.message}"

def isInterruption : ModelFailure → Bool
  | interrupted _ => true
  | _ => false

/-- Whether another attempt may succeed: the request was lost, the answer was garbled, or the
status speaks of a timeout, a rate limit or trouble on the server's side. -/
def isRetryable : ModelFailure → Bool
  | unreachable _ _ => true
  | unreadable _ _ => true
  | refused _ status _ => status = 408 ∨ status = 429 ∨ 500 ≤ status
  | _ => false

/-- The failure's message followed by those of the failures that it wraps. -/
def chain : ModelFailure → List String
  | exhausted backend attempts last => (exhausted backend attempts last).message :: last.chain
  | failure => [failure.message]

end ModelFailure

end GroundedAnswers
