import GroundedAnswers.Proofs.Gateway.Calls
import GroundedAnswers.Proofs.Gateway.Interruption

namespace GroundedAnswers

/-! A gateway gives way to an interruption: neither the attempts of a chat nor its fallback go on
after one, and no failure of theirs stands in its place. -/

open GroundedAnswers.Task (Refuses)

/-- In states that everyone keeps, the backend does not report interruptions of its own. It may
report one that the context finds. -/
structure Backend.Honest (keeps : σ → Prop) (context : RequestContext) (backend : Backend σ) :
    Prop where
  chat : ∀ request, Task.Ensures keeps
    (fun outcome moment =>
      context.interruption? moment = none → Regular ModelFailure.interrupted outcome)
    (backend.chat context request).run
  embed : ∀ request, Task.Ensures keeps
    (fun outcome moment =>
      context.interruption? moment = none → Regular ModelFailure.interrupted outcome)
    (backend.embed context request).run

abbrev Backend.Yields (keeps : σ → Prop) (context : RequestContext) (backend : Backend σ) : Prop :=
  backend.Calls context fun _ _ => Task.Yields keeps context

namespace Gateway

theorem chat_yields {gateway : Gateway σ} {keeps : σ → Prop} {context : RequestContext}
    (yields : ∀ backend ∈ gateway.backends, backend.Yields keeps context) (request : ChatRequest) :
    Task.Yields keeps context ModelFailure.interrupted (gateway.chat context request) :=
  chat_holds (Task.Yields.rules keeps context) yields (Task.Yields.clock keeps context _) request

/-! ## When the context is interrupted already -/

variable {gateway : Gateway σ} (context : RequestContext)

private theorem ask_refuses (backend : Backend σ) (request : ChatRequest) :
    Refuses context ModelFailure.interrupted (ask context backend request) :=
  fun now state cause look => (Refuses.guarded (backend.chat context request)).bind
    (fun response => do
      let latency := Moment.millisecondsUntil now (← ExceptT.lift Task.now)
      return completed backend.name request latency response) now state cause look

private theorem attempts_refuses (policy : RetryPolicy) (backend : Backend σ)
    (request : ChatRequest) (attempt retries : Nat) :
    Refuses context ModelFailure.interrupted
      (attempts policy context backend request attempt retries) := by
  unfold attempts
  exact (ask_refuses context backend request).bind_lift fun _ => rfl

private theorem bind_backend_refuses {name : String} {backend : Backend σ}
    {next : Backend σ → ModelTask σ α} (registered : gateway.backend name = .ok backend)
    (refuses : Refuses context ModelFailure.interrupted (next backend)) :
    Refuses context ModelFailure.interrupted
      (ExceptT.mk (pure (gateway.backend name)) >>= next) := by
  rw [registered]
  exact refuses

theorem chat_refuses {request : ChatRequest} {backend : Backend σ}
    (registered : gateway.backend (request.backend.getD gateway.defaultBackend) = .ok backend) :
    Refuses context ModelFailure.interrupted (gateway.chat context request) := by
  rw [← backend_withDefaultModel request gateway.defaultModel] at registered
  unfold chat
  refine bind_backend_refuses context registered ?_
  exact (attempts_refuses context gateway.retry backend _ 1 _).bind_lift fun _ => rfl

theorem embed_refuses {request : EmbeddingRequest} {backend : Backend σ}
    (registered : gateway.backend (request.backend.getD gateway.defaultBackend) = .ok backend) :
    Refuses context ModelFailure.interrupted (gateway.embed context request) := by
  unfold embed
  refine bind_backend_refuses context registered ?_
  exact (Refuses.guarded _).bind _

end Gateway

/-! ## Recorded backends -/

/-- The backends' state is kept, and since some time no call began after an interruption. -/
structure KeepsTime (keeps : σ → Prop) (context : RequestContext) (before : List BackendEvent)
    (recorded : Recorded σ) : Prop where
  state : keeps recorded.state
  timely : recorded.Since before fun events =>
    ∀ start name question, .asked start name question ∈ events → context.interruption? start = none

section Recorded

variable {keeps : σ → Prop} {context : RequestContext} {before : List BackendEvent} {now : Moment}
  {recorded : Recorded σ}

namespace KeepsTime

theorem withState (kept : KeepsTime keeps context before recorded) {state : σ} (holds : keeps state) :
    KeepsTime keeps context before (recorded.withState state) :=
  ⟨holds, kept.timely⟩

theorem asked (kept : KeepsTime keeps context before recorded)
    (calm : context.interruption? now = none) (backend : String) (question : Question) :
    KeepsTime keeps context before (recorded.note (.asked now backend question)) := by
  refine ⟨kept.state, kept.timely.note fun events held start name other member => ?_⟩
  rcases List.mem_append.mp member with earlier | last
  · exact held start name other earlier
  · cases List.mem_singleton.mp last
    exact calm

theorem replied (kept : KeepsTime keeps context before recorded) (backend : String)
    (reply : Reply) :
    KeepsTime keeps context before (recorded.note (.replied now backend reply)) := by
  refine ⟨kept.state, kept.timely.note fun events held start name question member => ?_⟩
  rcases List.mem_append.mp member with earlier | last
  · exact held start name question earlier
  · cases List.mem_singleton.mp last

end KeepsTime

private theorem recording_yields (backend : String) (question : Question)
    (reply : Except ModelFailure α → Reply) {task : ModelTask σ α}
    (honest : Task.Ensures keeps
      (fun outcome moment =>
        context.interruption? moment = none → Regular ModelFailure.interrupted outcome)
      task.run) :
    Task.Yields (KeepsTime keeps context before) context ModelFailure.interrupted
      (context.guard (recording backend question reply task)) := by
  refine Task.Yields.guarded fun now recorded calm kept => ?_
  have worked := (honest now recorded.state kept.state).zoom_of_kept
    (fun _ kept => kept.state) (fun _ _ holds kept => kept.withState holds)
    (kept.asked calm backend question)
  refine worked.andThen fun outcome moment after ended => ?_
  exact .finished ⟨ended.1, ended.2.replied backend (reply outcome)⟩

theorem Backend.Honest.recorded_yields {backend : Backend σ} (honest : backend.Honest keeps context) :
    backend.recorded.Yields (KeepsTime keeps context before) context where
  chat request := recording_yields _ _ _ (honest.chat request)
  embed request := recording_yields _ _ _ (honest.embed request)

theorem Gateway.recorded_yields {gateway : Gateway σ}
    (honest : ∀ backend ∈ gateway.backends, backend.Honest keeps context) :
    ∀ backend ∈ gateway.recorded.backends,
      backend.Yields (KeepsTime keeps context before) context := by
  intro backend member
  rcases List.mem_map.mp member with ⟨original, isOriginal, rfl⟩
  exact (honest original isOriginal).recorded_yields

end Recorded

end GroundedAnswers
