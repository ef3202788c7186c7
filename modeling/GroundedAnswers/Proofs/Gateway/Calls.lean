import GroundedAnswers.Proofs.Task.Rules
import GroundedAnswers.Retrieval.Embedder

namespace GroundedAnswers

/-! Chats and embeddings as work made of the calls of backends: a property that follows the rules
holds of them if it holds of each call. -/

open GroundedAnswers.Task (Rules)

theorem ModelFailure.isInterruption_of_regular {failure : ModelFailure}
    (regular : Regular (α := α) ModelFailure.interrupted (.error failure)) :
    failure.isInterruption = false := by
  cases failure with
  | interrupted cause => exact absurd rfl (regular cause)
  | _ => rfl

structure Backend.Calls (context : RequestContext)
    (holds : ∀ ε α : Type, (Interruption → ε) → ExceptT ε (Task σ) α → Prop) (backend : Backend σ) :
    Prop where
  chat : ∀ request, holds _ _ ModelFailure.interrupted (context.guard (backend.chat context request))
  embed : ∀ request,
    holds _ _ ModelFailure.interrupted (context.guard (backend.embed context request))

section

variable {context : RequestContext}
  {holds : ∀ ε α : Type, (Interruption → ε) → ExceptT ε (Task σ) α → Prop}
  (rules : Rules context holds)

include rules

namespace Gateway

section Attempts

variable (clock : holds _ _ ModelFailure.interrupted (ExceptT.lift Task.now))

include clock

private theorem ask_holds {backend : Backend σ} (calls : backend.Calls context holds)
    (request : ChatRequest) :
    holds _ _ ModelFailure.interrupted (ask context backend request) :=
  rules.bind clock fun _ => rules.bind (calls.chat request) fun _ =>
    rules.bind clock fun _ => rules.pure _

variable {backend : Backend σ} (calls : backend.Calls context holds) (policy : RetryPolicy)
  (request : ChatRequest)

include calls

/-- One attempt, when those that may follow it are known. -/
theorem attempt_holds (attempt retries : Nat)
    (others : ∀ left, retries = left + 1 → holds _ _ ModelFailure.interrupted
      (attempts policy context backend request (attempt + 1) left)) :
    holds _ _ ModelFailure.interrupted
      (attempts policy context backend request attempt retries) := by
  unfold attempts
  refine rules.bind_lift (ask_holds rules clock calls request) (fun outcome regular => ?_)
    fun _ => rfl
  cases outcome with
  | ok response => exact rules.pure _
  | error failure =>
      simp only [ModelFailure.isInterruption_of_regular regular, Bool.false_eq_true, if_false]
      cases retries with
      | zero => exact rules.throw fun _ => nofun
      | succ left =>
          dsimp only
          split
          · exact rules.bind (rules.sleep _) fun _ => others left rfl
          · exact rules.throw fun _ => nofun

theorem attempts_holds (attempt retries : Nat) :
    holds _ _ ModelFailure.interrupted
      (attempts policy context backend request attempt retries) := by
  induction retries generalizing attempt with
  | zero => exact attempt_holds rules clock calls policy request attempt 0 nofun
  | succ left induction =>
      refine attempt_holds rules clock calls policy request attempt (left + 1) fun other same => ?_
      cases same
      exact induction (attempt + 1)

end Attempts

variable {gateway : Gateway σ} (calls : ∀ backend ∈ gateway.backends, backend.Calls context holds)

include calls

omit rules in
private theorem calls_of_find? {name : String} {backend : Backend σ}
    (found : find? gateway.backends name = some backend) : backend.Calls context holds :=
  calls backend (List.mem_of_find?_eq_some found)

private theorem bind_backend_holds {name : String} {next : Backend σ → ModelTask σ α}
    (goesOn : ∀ backend : Backend σ, backend.Calls context holds →
      holds _ _ ModelFailure.interrupted (next backend)) :
    holds _ _ ModelFailure.interrupted (ExceptT.mk (pure (gateway.backend name)) >>= next) := by
  unfold Gateway.backend
  cases found : find? gateway.backends name with
  | none => exact rules.throw fun _ => nofun
  | some backend => exact goesOn backend (calls_of_find? calls found)

theorem chat_holds (clock : holds _ _ ModelFailure.interrupted (ExceptT.lift Task.now))
    (request : ChatRequest) :
    holds _ _ ModelFailure.interrupted (gateway.chat context request) := by
  unfold chat
  refine bind_backend_holds rules calls fun primary known => ?_
  refine rules.bind_lift (attempts_holds rules clock known gateway.retry _ 1 _)
    (fun outcome regular => ?_) fun _ => rfl
  cases outcome with
  | ok response => exact rules.pure response
  | error failure =>
      have isFailure := ModelFailure.isInterruption_of_regular regular
      simp only [isFailure, Bool.false_eq_true, if_false]
      split
      · exact rules.throw fun cause same => regular cause (congrArg Except.error same)
      · rename_i fallback alternative
        rcases Option.bind_eq_some_iff.mp alternative with ⟨name, _, registered⟩
        split at registered
        · cases registered
        · exact attempts_holds rules clock (calls_of_find? calls registered) gateway.retry _ 1 _

private theorem embed_holds (request : EmbeddingRequest) :
    holds _ _ ModelFailure.interrupted (gateway.embed context request) := by
  unfold embed
  refine bind_backend_holds rules calls fun backend known => ?_
  exact rules.bind (known.embed request) fun _ => rules.pure _

end Gateway

namespace GatewayEmbedder

variable {embedder : GatewayEmbedder σ}
  (calls : ∀ backend ∈ embedder.gateway.backends, backend.Calls context holds)

include calls

private theorem embedBatch_holds (batch : Nat) (inputs : List String) :
    holds _ _ RetrievalFailure.interrupted (embedder.embedBatch context batch inputs) := by
  unfold embedBatch
  refine rules.bind_lift (Gateway.embed_holds rules calls _) (fun outcome regular => ?_) fun _ => rfl
  cases outcome with
  | ok response =>
      dsimp only
      split
      · exact rules.pure _
      · exact rules.throw fun _ => nofun
  | error failure =>
      cases failure with
      | interrupted cause => exact absurd rfl (regular cause)
      | _ => exact rules.throw fun _ => nofun

theorem embedBatches_holds (batch : Nat) (batches : List (List String)) :
    holds _ _ RetrievalFailure.interrupted (embedder.embedBatches context batch batches) := by
  induction batches generalizing batch with
  | nil => exact rules.pure []
  | cons inputs rest induction =>
      exact rules.bind (embedBatch_holds rules calls batch inputs) fun vectors =>
        rules.bind (induction (batch + 1)) fun others => rules.pure _

theorem embedOne_holds (text : String) :
    holds _ _ RetrievalFailure.interrupted (embedder.embedOne context text) := by
  unfold embedOne
  refine rules.bind_lift (embedBatches_holds rules calls 0 _) (fun outcome regular => ?_)
    fun _ => rfl
  cases outcome with
  | ok vectors =>
      cases vectors with
      | nil => exact rules.throw fun _ => nofun
      | cons vector others => exact rules.pure vector
  | error failure =>
      have passed : ∀ cause, failure ≠ .interrupted cause :=
        fun cause same => regular cause (congrArg Except.error same)
      split
      · exact rules.throw fun _ => nofun
      · rename_i same
        cases same
        exact rules.throw passed
      · rename_i same
        cases same

end GatewayEmbedder

end

/-! ## Replies by request

Where the replies of backends depend on nothing but the request, so do the outcomes of an embedder.
-/

open GroundedAnswers.Task (Definite)

/-- Asked for the same, the backend always replies the same, however long it takes and whatever
becomes of its state meanwhile. Only the context may interrupt it. -/
structure Backend.RepliesByRequest (backend : Backend σ) (context : RequestContext) : Prop where
  chat : ∀ request, Task.Definite (fun _ => True) context ModelFailure.interrupted
    (backend.chat context request)
  embed : ∀ request, Task.Definite (fun _ => True) context ModelFailure.interrupted
    (backend.embed context request)

theorem Backend.RepliesByRequest.calls {backend : Backend σ} {context : RequestContext}
    (replies : backend.RepliesByRequest context) :
    backend.Calls context fun _ _ => Definite (fun _ => True) context where
  chat request := (replies.chat request).guarded
  embed request := (replies.embed request).guarded

variable {context : RequestContext}

theorem GatewayEmbedder.embedOne_definite {embedder : GatewayEmbedder σ}
    (replies : ∀ backend ∈ embedder.gateway.backends, backend.RepliesByRequest context)
    (text : String) :
    Definite (fun _ => True) context RetrievalFailure.interrupted
      (embedder.embedOne context text) :=
  embedOne_holds (Definite.rules _ context) (fun backend member => (replies backend member).calls)
    text

end GroundedAnswers
