import GroundedAnswers.Failure.Model

namespace GroundedAnswers

/-! What can go wrong between a question and a grounded answer. -/

inductive RetrievalFailure where
  | noChunks
  | embeddingBatch (batch : Nat) (cause : ModelFailure)
  /-- A batch came back with another number of vectors than it had texts. -/
  | vectorCount (batch expected actual : Nat)
  | noEmbedding
  | vectorStore (store message : String)
  | configuration (message : String)
  | interrupted (cause : Interruption)
  | model (cause : ModelFailure)
  deriving DecidableEq, Repr, Inhabited

namespace RetrievalFailure

def message : RetrievalFailure → String
  | noChunks => "no chunks generated from content"
  | embeddingBatch batch cause => s!"embedding batch {batch} failed: {cause.message}"
  | vectorCount batch expected actual =>
      s!"embedding batch {batch} returned {actual} vectors for {expected} inputs"
  | noEmbedding => "no embedding returned"
  | vectorStore store message => s!"Vector store error ({store}): {message}"
  | configuration message => "Configuration error: " ++ message
  | interrupted cause => cause.message
  | model cause => cause.message

def isInterruption : RetrievalFailure → Bool
  | interrupted _ => true
  | _ => false

def ofModel : ModelFailure → RetrievalFailure
  | .interrupted cause => interrupted cause
  | cause => model cause

/-- The failure's message followed by those of the failures that it wraps. A failure of the model
stands for itself. -/
def chain : RetrievalFailure → List String
  | embeddingBatch batch cause => (embeddingBatch batch cause).message :: cause.chain
  | model cause => cause.chain
  | failure => [failure.message]

end RetrievalFailure

end GroundedAnswers
