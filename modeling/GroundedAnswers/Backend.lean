import GroundedAnswers.Chat.Request
import GroundedAnswers.Chat.Response
import GroundedAnswers.Embedding.Basic
import GroundedAnswers.Failure.Model
import GroundedAnswers.Stream.Basic

namespace GroundedAnswers

/-! Backends answer chat and embedding requests, working on a state `σ`. -/

abbrev ModelTask (σ α : Type) := ExceptT ModelFailure (Task σ) α

structure Backend (σ : Type) where
  name : String
  models : List String
  chat : RequestContext → ChatRequest → ModelTask σ ChatResponse
  chatStream : RequestContext → ChatRequest → ModelTask σ ChatStream
  embed : RequestContext → EmbeddingRequest → ModelTask σ EmbeddingResponse

def RequestContext.guard (context : RequestContext) (task : ModelTask σ α) : ModelTask σ α :=
  context.guarded .interrupted task

def Backend.zoom (backend : Backend σ) (part : τ → σ) (replace : σ → τ → τ) : Backend τ where
  name := backend.name
  models := backend.models
  chat context request := Task.zoom part replace (backend.chat context request)
  chatStream context request := Task.zoom part replace (backend.chatStream context request)
  embed context request := Task.zoom part replace (backend.embed context request)

end GroundedAnswers
