import GroundedAnswers.Proofs.Gateway.Calls
import GroundedAnswers.Proofs.Gateway.Interruption
import GroundedAnswers.Proofs.Task.Waits

namespace GroundedAnswers

/-! The call that a gateway begins with. A streamed answer and an embedding are a single call,
whatever comes of it, and a chat begins with the call that its stream consists of. Nothing is asked
where the backend is not registered, or the context interrupted from the start. -/

namespace Recorded

/-- How a call ends that was recorded as asked: the context stops it, or its outcome is the reply,
which is recorded too. -/
inductive Answered (context : RequestContext) (name : String)
    (reply : Except ModelFailure α → Reply) (keeps : Recorded σ → Prop) (moment : Moment) :
    Except ModelFailure α → Recorded σ → Prop
  | stopped {cause : Interruption} {after : Recorded σ}
      (look : context.interruption? moment = some cause) (kept : keeps after) :
      Answered context name reply keeps moment (.error (.interrupted cause)) after
  | replied {outcome : Except ModelFailure α} {earlier : Recorded σ}
      (timely : context.interruption? moment = none) (kept : keeps earlier) :
      Answered context name reply keeps moment outcome
        (earlier.note (.replied moment name (reply outcome)))

/-- A property of records that lasts whatever backends do and are asked. -/
structure Lasts (keeps : Recorded σ → Prop) : Prop where
  withState : ∀ state recorded, keeps recorded → keeps (recorded.withState state)
  note : ∀ event recorded, keeps recorded → keeps (recorded.note event)

private theorem lasts_prefix (events : List BackendEvent) :
    Lasts fun recorded : Recorded σ => events <+: recorded.events where
  withState _ _ kept := kept
  note _ _ kept := kept.trans (List.prefix_append _ _)

variable {context : RequestContext} {name : String} {reply : Except ModelFailure α → Reply}
  {keeps : Recorded σ → Prop} {moment : Moment} {outcome : Except ModelFailure α}
  {after : Recorded σ}

theorem Answered.kept (answered : Answered context name reply keeps moment outcome after)
    (lasts : Lasts keeps) : keeps after := by
  cases answered with
  | stopped look kept => exact kept
  | replied timely kept => exact lasts.note _ _ kept

theorem Answered.events {events : List BackendEvent}
    (answered : Answered context name reply (fun recorded : Recorded σ => recorded.events = events)
      moment outcome after) :
    ∃ others, after.events = events ++ others ∧
      ((others = [] ∧ ∃ cause, outcome = .error (.interrupted cause) ∧
          context.interruption? moment = some cause) ∨
        others = [.replied moment name (reply outcome)]) := by
  cases answered with
  | stopped look kept => exact ⟨[], by simp [kept], .inl ⟨rfl, _, rfl, look⟩⟩
  | replied timely kept => exact ⟨_, by rw [note, kept], .inr rfl⟩

end Recorded

open Recorded (Answered Lasts)

theorem Task.Ensures.kept {keeps : σ → Prop} {task : Task σ α}
    (ensured : Task.Ensures keeps (fun _ _ => True) task) (now : Moment) {state : σ}
    (kept : keeps state) : Progress.Ensures keeps (fun _ _ after => keeps after) now (task now state) :=
  (ensured now state kept).imp fun _ _ _ ended => ended.2

/-! ## Single calls -/

section Calls

variable {context : RequestContext} {name : String} {question : Question}
  {reply : Except ModelFailure α → Reply} {now : Moment} {recorded : Recorded σ}
  {keeps : Recorded σ → Prop}

private theorem guard_recording_answers
    (unnoticed : ∀ state recorded, keeps recorded → keeps (recorded.withState state))
    (noted : keeps (recorded.note (.asked now name question)))
    (calm : context.interruption? now = none) (task : ModelTask σ α) :
    Progress.Ensures keeps
      (fun outcome moment after => Answered context name reply keeps moment outcome after)
      now (context.guard (recording name question reply task) now recorded) := by
  have worked := Gateway.recording_keeps unnoticed noted reply task
  unfold RequestContext.guard RequestContext.guarded
  rw [calm]
  refine (worked.under calm).andThen fun result moment after ended => ?_
  cases result with
  | ok outcome =>
      rcases ended with ⟨⟨earlier, kept, rfl⟩, timely⟩
      exact .finished (.replied timely kept)
  | error cause => exact .finished (.stopped ended.2.2 ended.1)

/-- A call under a context adds its question to the record, and the reply unless it is stopped. -/
theorem run_guard_recording (calm : context.interruption? now = none) (task : ModelTask σ α) :
    let (outcome, moment, after) :=
      Task.run (context.guard (recording name question reply task)).run now recorded
    Answered context name reply
      (fun later => later.events = recorded.events ++ [.asked now name question]) moment outcome
      after := by
  let keeps (later : Recorded σ) : Prop :=
    later.events = recorded.events ++ [.asked now name question]
  have unnoticed : ∀ (state : σ) (later : Recorded σ), keeps later →
      keeps (later.withState state) := fun _ _ kept => kept
  have noted : keeps (recorded.note (.asked now name question)) := rfl
  exact (guard_recording_answers unnoticed noted calm task).run

theorem events_of_run_guard_recording {task : ModelTask σ α} {failure : ModelFailure}
    {moment : Moment} {after : Recorded σ}
    (failed : Task.run (context.guard (recording name question reply task)).run now recorded =
      (.error failure, moment, after)) (regular : failure.isInterruption = false) :
    after.events = recorded.events ++
      [.asked now name question, .replied moment name (reply (.error failure))] := by
  cases look : context.interruption? now with
  | some cause =>
      have stopped : Task.run (context.guard (recording name question reply task)).run now
          recorded = (.error (.interrupted cause), now, recorded) :=
        RequestContext.run_guarded_of_interrupted look
      rw [stopped] at failed
      cases failed
      cases regular
  | none =>
      have answered : let (outcome, moment, after) := Task.run (context.guard (recording name
          question reply task)).run now recorded
          Answered context name reply
            (fun later => later.events = recorded.events ++ [.asked now name question]) moment
            outcome after :=
        run_guard_recording look task
      rw [failed] at answered
      cases answered with
      | stopped => cases regular
      | replied timely kept =>
          rw [Recorded.note, kept, List.append_assoc]
          rfl

theorem Recorded.Lasts.calls (lasts : Lasts keeps) (context : RequestContext)
    (backend : Backend σ) :
    backend.recorded.Calls context
      fun _ _ _ task => Task.Ensures keeps (fun _ _ => True) task.run := by
  have asks : ∀ {α : Type} (question : Question) (reply : Except ModelFailure α → Reply)
      (task : ModelTask σ α), Task.Ensures keeps (fun _ _ => True)
        (context.guard (recording backend.name question reply task)).run := by
    intro α question reply task now recorded kept
    cases look : context.interruption? now with
    | some cause =>
        unfold RequestContext.guard RequestContext.guarded
        simp only [ExceptT.run, look]
        exact .finished ⟨True.intro, kept⟩
    | none =>
        have noted := lasts.note (.asked now backend.name question) recorded kept
        exact (guard_recording_answers lasts.withState noted look task).imp
          fun _ _ _ answered => ⟨True.intro, answered.kept lasts⟩
  exact ⟨fun _ => asks _ _ _, fun _ => asks _ _ _⟩

end Calls

namespace Gateway

variable {gateway : Gateway σ} {context : RequestContext} {request : ChatRequest}
  {selected : Backend σ} {now : Moment}

theorem failure_of_backend {name : String} {failure : ModelFailure}
    (unregistered : gateway.backend name = .error failure) : failure = .notConfigured name := by
  unfold Gateway.backend at unregistered
  split at unregistered
  · cases unregistered
  · exact (Except.error.inj unregistered).symm

/-! ## Chats -/

private theorem clock_keeps (keeps : Recorded σ → Prop) :
    Task.Ensures keeps (fun _ _ => True)
      (ExceptT.lift Task.now : ModelTask (Recorded σ) Moment).run :=
  Task.Ensures.clock.imp fun _ _ _ => True.intro

section

variable {recorded : Recorded σ} {keeps : Recorded σ → Prop} (lasts : Lasts keeps)
  (calm : context.interruption? now = none)

include lasts calm

private theorem ask_begins
    (noted : keeps (recorded.note (.asked now selected.name (.chat request)))) :
    Progress.Ensures keeps (fun _ _ after => keeps after) now
      (ask context selected.recorded request now recorded) := by
  have clock : (ExceptT.lift Task.now : ModelTask (Recorded σ) Moment) now recorded =
      .finished (.ok now) recorded := rfl
  unfold ask
  rw [Task.bind_of_finished clock]
  refine (guard_recording_answers lasts.withState noted calm _).bind ?_ ?_
  · exact fun response moment after answered => .finished (answered.kept lasts)
  · exact fun failure moment after answered => answered.kept lasts

/-- Attempts begin with a question, and keep what lasts from then on. -/
theorem attempts_begin
    (noted : keeps (recorded.note (.asked now selected.name (.chat request))))
    (policy : RetryPolicy) (attempt retries : Nat) :
    Progress.Ensures keeps (fun _ _ after => keeps after) now
      (attempts policy context selected.recorded request attempt retries now recorded) := by
  have others : ∀ attempt retries, Task.Ensures keeps (fun _ _ => True)
      (attempts policy context selected.recorded request attempt retries).run := fun _ _ =>
    attempts_holds (Task.Ensures.rules keeps context) (clock_keeps keeps)
      (lasts.calls context selected) policy _ _ _
  unfold attempts
  refine (ask_begins lasts calm noted).bind_lift fun outcome moment after kept => ?_
  cases outcome with
  | ok response => exact .finished kept
  | error failure =>
      dsimp only
      split
      · exact .finished kept
      · cases retries with
        | zero => exact .finished kept
        | succ left =>
            dsimp only
            split
            · have waits : Task.Ensures keeps (fun _ _ => True) (context.guard
                  (ExceptT.lift (Task.delay (policy.backoff attempt.toUInt32).nanoseconds))).run :=
                (Task.Ensures.rules keeps context).sleep _
              exact (waits.bind (fun _ _ _ => others (attempt + 1) left)
                fun _ _ _ => True.intro).kept moment kept
            · exact .finished kept

private theorem chat_begins
    (registered : gateway.backend (request.backend.getD gateway.defaultBackend) = .ok selected)
    (noted : keeps (recorded.note
      (.asked now selected.name (.chat (request.withDefaultModel gateway.defaultModel))))) :
    Progress.Ensures keeps (fun _ _ after => keeps after) now
      (gateway.recorded.chat context request now recorded) := by
  unfold chat
  rw [Task.bind_of_finished (look_up_finished (backend_recorded registered))]
  refine (attempts_begin lasts calm noted _ 1 _).bind_lift fun outcome moment after kept => ?_
  cases outcome with
  | ok response => exact .finished kept
  | error failure =>
      dsimp only
      split
      · exact .finished kept
      · cases alternative : gateway.recorded.fallbackFor?
            ((request.withDefaultModel gateway.recorded.defaultModel).backend.getD
              gateway.recorded.defaultBackend) with
        | none => exact .finished kept
        | some fallback =>
            rcases of_fallbackFor?_recorded alternative with ⟨_, backend, _, _, _, rfl⟩
            refine Task.Ensures.kept ?_ moment kept
            exact attempts_holds (Task.Ensures.rules keeps context) (clock_keeps keeps)
              (lasts.calls context backend) gateway.retry _ 1 _

end

theorem run_chat_begins (before : Recorded σ)
    (registered : gateway.backend (request.backend.getD gateway.defaultBackend) = .ok selected)
    (calm : context.interruption? now = none) :
    before.events ++
        [.asked now (request.backend.getD gateway.defaultBackend)
          (.chat (request.withDefaultModel gateway.defaultModel))] <+:
      (Task.run (gateway.recorded.chat context request).run now before).2.2.events := by
  rw [← name_of_find? ((backend_eq_ok_iff _ _ _).mp registered)]
  exact (chat_begins (Recorded.lasts_prefix _) calm registered List.prefix_rfl).run

theorem run_chat_of_interrupted {state : σ} {cause : Interruption}
    (registered : gateway.backend (request.backend.getD gateway.defaultBackend) = .ok selected)
    (look : context.interruption? now = some cause) :
    Task.run (gateway.chat context request).run now state =
      (.error (.interrupted cause), now, state) := by
  refine run_chat_of_interruption registered ?_ rfl
  have asked : Task.run (ask context selected (request.withDefaultModel gateway.defaultModel)).run
      now state = (.error (.interrupted cause), now, state) :=
    run_ask_of_error (RequestContext.run_guarded_of_interrupted look)
  unfold chatWithRetries attempts
  rw [Task.run_bind_lift asked]
  rfl

/-! ## Streamed answers -/

theorem run_chatStream_of_unregistered {state : σ} {failure : ModelFailure}
    (unregistered : gateway.backend (request.backend.getD gateway.defaultBackend) =
      .error failure) :
    Task.run (gateway.chatStream context request).run now state = (.error failure, now, state) := by
  simp only [chatStream, backend_withDefaultModel, unregistered]
  rfl

theorem run_chatStream_of_registered {state : σ}
    (registered : gateway.backend (request.backend.getD gateway.defaultBackend) = .ok selected) :
    Task.run (gateway.chatStream context request).run now state =
      Task.run (context.guard (selected.chatStream context
        (request.withDefaultModel gateway.defaultModel))).run now state := by
  simp only [chatStream, backend_withDefaultModel, registered]
  rfl

theorem run_chatStream_answers (before : Recorded σ)
    (registered : gateway.backend (request.backend.getD gateway.defaultBackend) = .ok selected)
    (calm : context.interruption? now = none) :
    let name := request.backend.getD gateway.defaultBackend
    let sent := request.withDefaultModel gateway.defaultModel
    let (answer, moment, after) :=
      Task.run (gateway.recorded.chatStream context request).run now before
    Answered context name (Reply.stream sent)
      (fun later => later.events = before.events ++ [.asked now name (.stream sent)]) moment
      answer after := by
  have named := name_of_find? ((backend_eq_ok_iff _ _ _).mp registered)
  rw [run_chatStream_of_registered (backend_recorded registered), ← named]
  exact run_guard_recording calm _

/-! ## Embeddings -/

section

variable {gateway : Gateway σ} {request : EmbeddingRequest}

def priced (response : EmbeddingResponse) : EmbeddingResponse :=
  { response with cost := estimateCost response.model response.tokens 0 }

theorem run_embed_of_registered {backend : Backend σ}
    (registered : gateway.backend (request.backend.getD gateway.defaultBackend) = .ok backend)
    (context : RequestContext) (now : Moment) (state : σ) :
    Task.run (gateway.embed context request).run now state =
      let (outcome, reached) :=
        Task.run (context.guard (backend.embed context request)).run now state
      (outcome.map priced, reached) := by
  have found : Task.run (ExceptT.mk (pure (gateway.backend
      (request.backend.getD gateway.defaultBackend))) : ModelTask σ (Backend σ)).run now state =
        (.ok backend, now, state) := by
    rw [registered]
    rfl
  unfold embed
  rw [Task.run_bind_of_ok found]
  rcases answered : Task.run (context.guard (backend.embed context request)).run now state with
    ⟨outcome, moment, after⟩
  cases outcome with
  | error failure => rw [Task.run_bind_of_error answered]; rfl
  | ok response => rw [Task.run_bind_of_ok answered]; rfl

theorem run_embed_of_unregistered {failure : ModelFailure}
    (unregistered : gateway.backend (request.backend.getD gateway.defaultBackend) = .error failure)
    (context : RequestContext) (now : Moment) (state : σ) :
    Task.run (gateway.embed context request).run now state = (.error failure, now, state) := by
  have missing : Task.run (ExceptT.mk (pure (gateway.backend
      (request.backend.getD gateway.defaultBackend))) : ModelTask σ (Backend σ)).run now state =
        (.error failure, now, state) := by
    rw [unregistered]
    rfl
  unfold embed
  rw [Task.run_bind_of_error missing]

end

end Gateway

end GroundedAnswers
