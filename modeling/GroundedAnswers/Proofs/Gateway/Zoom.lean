import GroundedAnswers.Proofs.Gateway.Recording
import GroundedAnswers.Proofs.Task.Zoom

namespace GroundedAnswers

/-! A gateway whose backends work on a part of a state works on that part itself. -/

namespace Gateway

open GroundedAnswers.Task (zoomFailing zoomFailing_pure zoomFailing_throw zoomFailing_lift
  zoomFailing_guarded bind_zoomFailing bind_lift_zoomFailing)

variable {part : τ → σ} {replace : σ → τ → τ}

private theorem defaultModel_zoom (gateway : Gateway σ) :
    (gateway.zoom part replace).defaultModel = gateway.defaultModel := rfl

private theorem defaultBackend_zoom (gateway : Gateway σ) :
    (gateway.zoom part replace).defaultBackend = gateway.defaultBackend := rfl

private theorem find?_zoom (gateway : Gateway σ) (name : String) :
    find? (gateway.zoom part replace).backends name =
      (find? gateway.backends name).map (·.zoom part replace) :=
  find?_map (·.zoom part replace) (fun _ => rfl) _ _

private theorem backend_zoom (gateway : Gateway σ) (name : String) :
    (gateway.zoom part replace).backend name =
      (gateway.backend name).map (·.zoom part replace) := by
  unfold Gateway.backend
  rw [find?_zoom]
  cases find? gateway.backends name <;> rfl

private theorem fallbackFor?_zoom (gateway : Gateway σ) (name : String) :
    (gateway.zoom part replace).fallbackFor? name =
      (gateway.fallbackFor? name).map (·.zoom part replace) := by
  unfold fallbackFor?
  change (gateway.fallbackBackend >>= fun other =>
    if other = name then none else find? (gateway.zoom part replace).backends other) = _
  cases gateway.fallbackBackend with
  | none => rfl
  | some other =>
      by_cases same : other = name
      · simp [same]
      · simp [same, find?_zoom]

section

variable (isPart : Task.IsPart part replace)

include isPart

private theorem guard_zoom (context : RequestContext) (task : ModelTask σ α) :
    context.guard (zoomFailing part replace task : ModelTask τ α) =
      zoomFailing part replace (context.guard task) :=
  (zoomFailing_guarded isPart context ModelFailure.interrupted task).symm

private theorem guard_delay_zoom (context : RequestContext) (nanoseconds : Nat) :
    context.guard (ExceptT.lift (Task.delay nanoseconds) : ModelTask τ Unit) =
      zoomFailing part replace (context.guard (ExceptT.lift (Task.delay nanoseconds))) := by
  rw [← guard_zoom isPart, zoomFailing_lift isPart, Task.zoom_delay isPart]

private theorem ask_zoom (context : RequestContext) (backend : Backend σ) (request : ChatRequest) :
    ask context (backend.zoom part replace) request =
      zoomFailing part replace (ask context backend request) := by
  have clock : (ExceptT.lift Task.now : ModelTask τ Moment) =
      zoomFailing part replace (ExceptT.lift Task.now) := by
    rw [zoomFailing_lift isPart, Task.zoom_now isPart]
  have asked : context.guard ((backend.zoom part replace).chat context request) =
      zoomFailing part replace (context.guard (backend.chat context request)) :=
    guard_zoom isPart context (backend.chat context request)
  unfold ask
  rw [clock, asked]
  refine bind_zoomFailing isPart _ fun start => ?_
  refine bind_zoomFailing isPart _ fun response => ?_
  exact bind_zoomFailing isPart _ fun finish => (zoomFailing_pure isPart _).symm

private theorem attempt_zoom (policy : RetryPolicy) (context : RequestContext)
    (backend : Backend σ) (request : ChatRequest) (attempt retries : Nat)
    (others : ∀ left, retries = left + 1 →
      attempts policy context (backend.zoom part replace) request (attempt + 1) left =
        zoomFailing part replace (attempts policy context backend request (attempt + 1) left)) :
    attempts policy context (backend.zoom part replace) request attempt retries =
      zoomFailing part replace (attempts policy context backend request attempt retries) := by
  unfold attempts
  rw [ask_zoom isPart context backend request]
  refine bind_lift_zoomFailing isPart _ fun outcome => ?_
  cases outcome with
  | ok response => exact (zoomFailing_pure isPart _).symm
  | error failure =>
      by_cases interrupted : failure.isInterruption
      · simp only [interrupted, if_true]
        exact (zoomFailing_throw isPart _).symm
      · simp only [interrupted, Bool.false_eq_true, if_false]
        cases retries with
        | zero => exact (zoomFailing_throw isPart _).symm
        | succ left =>
            by_cases retryable : failure.isRetryable
            · simp only [retryable, if_true]
              rw [guard_delay_zoom isPart]
              exact bind_zoomFailing isPart _ fun _ => others left rfl
            · simp only [retryable, Bool.false_eq_true, if_false]
              exact (zoomFailing_throw isPart _).symm

private theorem attempts_zoom (policy : RetryPolicy) (context : RequestContext)
    (backend : Backend σ) (request : ChatRequest) (attempt retries : Nat) :
    attempts policy context (backend.zoom part replace) request attempt retries =
      zoomFailing part replace (attempts policy context backend request attempt retries) := by
  induction retries generalizing attempt with
  | zero => exact attempt_zoom isPart policy context backend request attempt 0 nofun
  | succ left induction =>
      refine attempt_zoom isPart policy context backend request attempt (left + 1) ?_
      intro other same
      cases same
      exact induction (attempt + 1)

private theorem chatWithRetries_zoom (gateway : Gateway σ) (context : RequestContext)
    (backend : Backend σ) (request : ChatRequest) :
    (gateway.zoom part replace).chatWithRetries context (backend.zoom part replace) request =
      zoomFailing part replace (gateway.chatWithRetries context backend request) :=
  attempts_zoom isPart _ _ _ _ _ _

private theorem bind_backend_zoom (gateway : Gateway σ) (name : String)
    {next : Backend σ → ModelTask σ α} {whole : Backend τ → ModelTask τ α}
    (carried : ∀ backend, whole (backend.zoom part replace) =
      zoomFailing part replace (next backend)) :
    (ExceptT.mk (pure ((gateway.zoom part replace).backend name)) >>= whole : ModelTask τ α) =
      zoomFailing part replace (ExceptT.mk (pure (gateway.backend name)) >>= next) := by
  rw [backend_zoom]
  cases gateway.backend name with
  | error failure => exact (zoomFailing_throw isPart failure).symm
  | ok backend => exact carried backend

theorem chat_zoom (gateway : Gateway σ) (context : RequestContext) (request : ChatRequest) :
    (gateway.zoom part replace).chat context request =
      zoomFailing part replace (gateway.chat context request) := by
  unfold chat
  refine bind_backend_zoom isPart gateway _ fun primary => ?_
  rw [chatWithRetries_zoom isPart]
  refine bind_lift_zoomFailing isPart _ fun outcome => ?_
  cases outcome with
  | ok response => exact (zoomFailing_pure isPart _).symm
  | error failure =>
      by_cases interrupted : failure.isInterruption
      · simp only [interrupted, if_true]
        exact (zoomFailing_throw isPart _).symm
      · simp only [interrupted, Bool.false_eq_true, if_false, fallbackFor?_zoom,
          defaultModel_zoom, defaultBackend_zoom]
        cases gateway.fallbackFor? ((request.withDefaultModel gateway.defaultModel).backend.getD
            gateway.defaultBackend) with
        | none => exact (zoomFailing_throw isPart _).symm
        | some fallback => exact chatWithRetries_zoom isPart _ _ _ _

theorem embed_zoom (gateway : Gateway σ) (context : RequestContext) (request : EmbeddingRequest) :
    (gateway.zoom part replace).embed context request =
      zoomFailing part replace (gateway.embed context request) := by
  unfold embed
  refine bind_backend_zoom isPart gateway _ fun backend => ?_
  have asked : context.guard ((backend.zoom part replace).embed context request) =
      zoomFailing part replace (context.guard (backend.embed context request)) :=
    guard_zoom isPart context (backend.embed context request)
  rw [asked]
  exact bind_zoomFailing isPart _ fun response => (zoomFailing_pure isPart _).symm

end

end Gateway

end GroundedAnswers
