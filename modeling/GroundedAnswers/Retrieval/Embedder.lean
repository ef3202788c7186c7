import GroundedAnswers.Gateway.Basic
import GroundedAnswers.Retrieval.Settings
import GroundedAnswers.Retrieval.Task
import GroundedAnswers.Windows

namespace GroundedAnswers

/-! Turning texts into vectors for a store. -/

/-- Embeds texts, one vector for each, and single texts. -/
structure Embedder (σ : Type) where
  embed : RequestContext → List String → RetrievalTask σ (List Vector32)
  embedOne : RequestContext → String → RetrievalTask σ Vector32

namespace Embedder

def firstOf (vectors : List Vector32) : RetrievalTask σ Vector32 :=
  match vectors with
  | vector :: _ => pure vector
  | [] => throw .noEmbedding

/-- An embedder that knows its vectors. Texts that it does not know yield none. -/
def ofTable (table : List (String × Vector32)) : Embedder σ where
  embed _ texts := pure (texts.filterMap fun text => table.lookup text)
  embedOne _ text := firstOf (table.lookup text).toList

end Embedder

structure GatewayEmbedder (σ : Type) where
  gateway : Gateway σ
  model : String
  backend : Option String
  batchSize : Nat

namespace GatewayEmbedder

def of (gateway : Gateway σ) (model : String) : GatewayEmbedder σ :=
  ⟨gateway, model, none, 100⟩

def ofSettings (gateway : Gateway σ) (settings : RetrievalSettings) : GatewayEmbedder σ :=
  ⟨gateway, settings.embeddingModel, settings.embeddingBackend,
    settings.embeddingBatchSize.toNat⟩

def embedBatch (embedder : GatewayEmbedder σ) (context : RequestContext) (batch : Nat)
    (inputs : List String) : RetrievalTask σ (List Vector32) := do
  let request : EmbeddingRequest := ⟨embedder.backend, embedder.model, inputs⟩
  match ← ExceptT.lift (embedder.gateway.embed context request).run with
  | .error (.interrupted cause) => throw (.interrupted cause)
  | .error failure => throw (.embeddingBatch batch failure)
  | .ok response =>
      if response.embeddings.length = inputs.length then return response.embeddings
      else throw (.vectorCount batch inputs.length response.embeddings.length)

/-- The vectors of some batches, the first of which has number `batch`. Nothing is asked for after
a batch that failed. -/
def embedBatches (embedder : GatewayEmbedder σ) (context : RequestContext) (batch : Nat) :
    List (List String) → RetrievalTask σ (List Vector32)
  | [] => pure []
  | inputs :: rest => do
      let vectors ← embedder.embedBatch context batch inputs
      let others ← embedder.embedBatches context (batch + 1) rest
      return vectors ++ others

def embed (embedder : GatewayEmbedder σ) (context : RequestContext) (texts : List String) :
    RetrievalTask σ (List Vector32) :=
  embedder.embedBatches context 0 (batches (max embedder.batchSize 1) (by omega) texts)

def embedOne (embedder : GatewayEmbedder σ) (context : RequestContext) (text : String) :
    RetrievalTask σ Vector32 := do
  match ← ExceptT.lift (embedder.embed context [text]).run with
  | .error (.vectorCount _ _ 0) => throw .noEmbedding
  | .error failure => throw failure
  | .ok vectors => Embedder.firstOf vectors

def embedder (embedder : GatewayEmbedder σ) : Embedder σ :=
  ⟨embedder.embed, embedder.embedOne⟩

end GatewayEmbedder

end GroundedAnswers
