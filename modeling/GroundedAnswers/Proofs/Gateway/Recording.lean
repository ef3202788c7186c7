import GroundedAnswers.Gateway.Basic
import GroundedAnswers.Proofs.Task.Running

namespace GroundedAnswers

/-! A record of everything that a gateway asks its backends and of what they answer. Recording
changes neither answers nor times. -/

inductive Question where
  | chat (request : ChatRequest)
  | stream (request : ChatRequest)
  | embedding (request : EmbeddingRequest)

inductive Reply where
  | chat (request : ChatRequest) (outcome : Except ModelFailure ChatResponse)
  | stream (request : ChatRequest) (outcome : Except ModelFailure ChatStream)
  | embedding (request : EmbeddingRequest) (outcome : Except ModelFailure EmbeddingResponse)

/-- A question counts from the moment it is asked, also when nobody waits for the reply. -/
inductive BackendEvent where
  | asked (moment : Moment) (backend : String) (question : Question)
  | replied (moment : Moment) (backend : String) (reply : Reply)

namespace BackendEvent

def questions (events : List BackendEvent) : List (String × Question) :=
  events.filterMap fun event =>
    match event with
    | asked _ backend question => some (backend, question)
    | replied .. => none

def embeddings (events : List BackendEvent) : List (EmbeddingRequest × EmbeddingResponse) :=
  events.filterMap fun event =>
    match event with
    | replied _ _ (.embedding request (.ok response)) => some (request, response)
    | _ => none

@[simp] theorem questions_append (left right : List BackendEvent) :
    questions (left ++ right) = questions left ++ questions right :=
  List.filterMap_append

@[simp] theorem embeddings_append (left right : List BackendEvent) :
    embeddings (left ++ right) = embeddings left ++ embeddings right :=
  List.filterMap_append

end BackendEvent

/-- A state of backends, and what has been asked and replied so far. -/
structure Recorded (σ : Type) where
  state : σ
  events : List BackendEvent := []

namespace Recorded

def withState (state : σ) (recorded : Recorded σ) : Recorded σ :=
  { recorded with state }

def note (event : BackendEvent) (recorded : Recorded σ) : Recorded σ :=
  { recorded with events := recorded.events ++ [event] }

theorem isPart : Task.IsPart (fun recorded : Recorded σ => recorded.state) withState :=
  ⟨fun _ _ => rfl, fun _ _ _ => rfl, fun _ => rfl⟩

end Recorded

def recording (backend : String) (question : Question) (reply : Except ModelFailure α → Reply)
    (task : ModelTask σ α) : ModelTask (Recorded σ) α :=
  ExceptT.mk do
    modify (Recorded.note (.asked (← Task.now) backend question))
    let outcome ← Task.zoom Recorded.state Recorded.withState task.run
    modify (Recorded.note (.replied (← Task.now) backend (reply outcome)))
    return outcome

theorem run_recording (backend : String) (question : Question)
    (reply : Except ModelFailure α → Reply) (task : ModelTask σ α) (now : Moment)
    (before : Recorded σ) :
    Task.run (recording backend question reply task).run now before =
      let (outcome, moment, state) := Task.run task.run now before.state
      (outcome, moment,
        ⟨state, before.events ++
          [.asked now backend question, .replied moment backend (reply outcome)]⟩) := by
  simp [recording, Task.bind_run, Task.run_zoom Recorded.isPart, Recorded.note, Recorded.withState]

def Backend.recorded (backend : Backend σ) : Backend (Recorded σ) where
  name := backend.name
  models := backend.models
  chat context request :=
    recording backend.name (.chat request) (.chat request) (backend.chat context request)
  chatStream context request :=
    recording backend.name (.stream request) (.stream request) (backend.chatStream context request)
  embed context request :=
    recording backend.name (.embedding request) (.embedding request)
      (backend.embed context request)

namespace Gateway

def mapBackends (gateway : Gateway σ) (change : Backend σ → Backend τ) : Gateway τ where
  backends := gateway.backends.map change
  defaultBackend := gateway.defaultBackend
  fallbackBackend := gateway.fallbackBackend
  fallbackModel := gateway.fallbackModel
  defaultModel := gateway.defaultModel
  retry := gateway.retry

def recorded (gateway : Gateway σ) : Gateway (Recorded σ) :=
  gateway.mapBackends Backend.recorded

/-- A gateway whose backends work on a part of a larger state. -/
def zoom (gateway : Gateway σ) (part : τ → σ) (replace : σ → τ → τ) : Gateway τ :=
  gateway.mapBackends (·.zoom part replace)

theorem find?_map (change : Backend σ → Backend τ)
    (sameName : ∀ backend, (change backend).name = backend.name) (backends : List (Backend σ))
    (name : String) : find? (backends.map change) name = (find? backends name).map change := by
  simp only [find?, List.find?_map]
  congr 2
  funext backend
  simp [sameName]

theorem find?_recorded (gateway : Gateway σ) (name : String) :
    find? gateway.recorded.backends name = (find? gateway.backends name).map Backend.recorded :=
  find?_map Backend.recorded (fun _ => rfl) _ _

theorem name_of_find? {backends : List (Backend σ)} {name : String} {backend : Backend σ}
    (found : find? backends name = some backend) : backend.name = name := by
  simpa using List.find?_some found

end Gateway

end GroundedAnswers
