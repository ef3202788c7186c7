import GroundedAnswers.Gateway.Basic

namespace GroundedAnswers

/-! Putting a gateway together. -/

/-- A gateway whose names have not been checked yet. -/
structure GatewayDraft (σ : Type) where
  backends : List (Backend σ) := []
  defaultBackend : Option String := none
  fallbackBackend : Option String := none
  fallbackModel : Option String := none
  defaultModel : Option String := none
  retry : RetryPolicy := .standard

namespace GatewayDraft

/-- Register a backend, in place of an earlier one with its name. -/
def register (draft : GatewayDraft σ) (backend : Backend σ) : GatewayDraft σ :=
  { draft with
    backends := draft.backends.filter (·.name ≠ backend.name) ++ [backend] }

/-- The name of the default backend: the given one, or that of the only backend. -/
def defaultName (draft : GatewayDraft σ) : Except ModelFailure String :=
  match draft.defaultBackend, draft.backends with
  | some name, _ => .ok name
  | none, [backend] => .ok backend.name
  | none, _ =>
      .error (.configuration "a default backend is required when several backends are registered")

def build (draft : GatewayDraft σ) : Except ModelFailure (Gateway σ) := do
  let name ← draft.defaultName
  if (Gateway.find? draft.backends name).isNone then
    throw (.configuration s!"default backend '{name}' is not configured")
  match draft.fallbackBackend with
  | some fallback =>
      if (Gateway.find? draft.backends fallback).isNone then
        throw (.configuration s!"fallback backend '{fallback}' is not configured")
  | none => pure ()
  return {
    backends := draft.backends
    defaultBackend := name
    fallbackBackend := draft.fallbackBackend
    fallbackModel := draft.fallbackModel
    defaultModel := draft.defaultModel
    retry := draft.retry }

end GatewayDraft

end GroundedAnswers
