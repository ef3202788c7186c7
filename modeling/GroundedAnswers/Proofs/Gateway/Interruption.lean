import GroundedAnswers.Proofs.Gateway.Course

namespace GroundedAnswers

/-! How a chat gives way to an interruption. The log of its calls shows it: each call begins in
time, a call that is itself answered with an interruption is the last one, and unless the context
stops the chat, it ends with the last reply. -/

/-! ## Calls -/

abbrev KeepsOrder (context : RequestContext) (before : List BackendEvent) (recorded : Recorded σ) :
    Prop :=
  recorded.Since before (Orderly context)

namespace Gateway

variable {context : RequestContext} {before : List BackendEvent} {now : Moment}
  {recorded : Recorded σ}

theorem recording_keeps {keeps : Recorded σ → Prop} {name : String} {question : Question}
    (unnoticed : ∀ state recorded, keeps recorded → keeps (recorded.withState state))
    (noted : keeps (recorded.note (.asked now name question)))
    (reply : Except ModelFailure α → Reply) (task : ModelTask σ α) :
    Progress.Ensures keeps
      (fun outcome moment after =>
        ∃ earlier, keeps earlier ∧ after = earlier.note (.replied moment name (reply outcome)))
      now (recording name question reply task now recorded) :=
  (Progress.Ensures.zoom_of_stable unnoticed now (task now recorded.state) noted).andThen
    fun _ _ earlier kept => .finished ⟨earlier, kept, rfl⟩

private theorem recording_ensures (calm : context.interruption? now = none)
    (orderly : KeepsOrder context before recorded) (name : String) (asked : ChatRequest)
    (task : ModelTask σ ChatResponse) :
    Progress.Ensures (KeepsOrder context before)
      (fun outcome moment after => context.interruption? moment = none →
        after.Since before (CallEnds context name asked moment · outcome))
      now (recording name (.chat asked) (.chat asked) task now recorded) := by
  have noted : KeepsOrder context before (recorded.note (.asked now name (.chat asked))) :=
    orderly.note fun _ held => held.concat_asked calm name _
  refine (recording_keeps (fun _ _ held => held) noted _ task).imp ?_
  rintro outcome moment _ ⟨earlier, ended, rfl⟩ calmAtEnd
  exact ended.note fun events held => .replied ⟨calmAtEnd, events, held, rfl⟩

theorem punctual_of_reached {moment : Moment} (early : context.NotPast now)
    (reached : moment = now ∨ context.stopsAt? = some moment) : context.NotPast moment :=
  reached.elim (· ▸ early) RequestContext.notPast_of_stopsAt?

private theorem call_ensures (early : context.NotPast now)
    (orderly : KeepsOrder context before recorded) (backend : Backend σ) (asked : ChatRequest) :
    Progress.Ensures (KeepsOrder context before)
      (fun outcome moment after =>
        after.Since before (CallEnds context backend.name asked moment · outcome))
      now (context.guard (backend.recorded.chat context asked) now recorded) := by
  refine Progress.Ensures.guarded orderly
    (fun calm => recording_ensures calm orderly backend.name asked _) ?_
  rintro moment after cause ⟨events, whole, held⟩ look reached
  exact ⟨events, whole, .stopped ⟨held, punctual_of_reached early reached, look⟩⟩

private theorem ask_ensures (early : context.NotPast now)
    (orderly : KeepsOrder context before recorded) (backend : Backend σ) (asked : ChatRequest) :
    Progress.Ensures (KeepsOrder context before)
      (fun outcome moment after =>
        match outcome with
        | .ok response => after.Since before (ChatEnds context moment · (.ok response))
        | .error failure =>
            after.Since before (CallEnds context backend.name asked moment · (.error failure)))
      now (ask context backend.recorded asked now recorded) := by
  have clock : (ExceptT.lift Task.now : ModelTask (Recorded σ) Moment) now recorded =
      .finished (.ok now) recorded := rfl
  unfold ask
  rw [Task.bind_of_finished clock]
  refine (call_ensures early orderly backend asked).bind ?_ ?_
  · exact fun response moment after ⟨events, whole, ended⟩ =>
      .finished ⟨events, whole, ended.responded _⟩
  · exact fun failure moment after ended => ended

private theorem backoff_ensures (early : context.NotPast now)
    (orderly : KeepsOrder context before recorded) (nanoseconds : Nat) :
    Progress.Ensures (KeepsOrder context before)
      (fun (outcome : Except ModelFailure Unit) moment after =>
        match outcome with
        | .ok _ => context.interruption? moment = none ∧ KeepsOrder context before after
        | .error failure => after.Since before (ChatEnds context moment · (.error failure)))
      now (context.guard (ExceptT.lift (Task.delay nanoseconds)) now recorded) := by
  refine Progress.Ensures.guarded orderly (fun _ => ?_) ?_
  · exact (Progress.Ensures.delay orderly nanoseconds now).andThen
      fun _ _ _ held => .finished fun calm => ⟨calm, held⟩
  · rintro moment after cause ⟨events, whole, held⟩ look reached
    exact ⟨events, whole, .stopped ⟨held, punctual_of_reached early reached, look⟩⟩

/-! ## Chats -/

/-- What attempts ensure, from any time and log on that allow them. -/
def ChatEnsures (context : RequestContext) (before : List BackendEvent)
    (chat : ModelTask (Recorded σ) ChatResponse) : Prop :=
  ∀ now recorded, context.NotPast now → KeepsOrder context before recorded →
    Progress.Ensures (KeepsOrder context before)
      (fun answer moment after => after.Since before (ChatEnds context moment · answer))
      now (chat now recorded)

theorem ChatEnsures.run {chat : ModelTask (Recorded σ) ChatResponse}
    (ensured : ChatEnsures context before chat) (early : context.NotPast now)
    (orderly : KeepsOrder context before recorded) {answer : Except ModelFailure ChatResponse}
    {moment : Moment} {after : Recorded σ}
    (ran : Task.run chat.run now recorded = (answer, moment, after)) :
    after.Since before (ChatEnds context moment · answer) := by
  have ended := (ensured now recorded early orderly).run
  rw [show (chat now recorded).run now = (answer, moment, after) from ran] at ended
  exact ended

section

variable (policy : RetryPolicy) (backend : Backend σ) (asked : ChatRequest)

private theorem attempt_ensures (attempt retries : Nat)
    (others : ∀ left, retries = left + 1 → ChatEnsures context before
      (attempts policy context backend.recorded asked (attempt + 1) left)) :
    ChatEnsures context before
      (attempts policy context backend.recorded asked attempt retries) := by
  intro now recorded early orderly
  unfold attempts
  refine (ask_ensures early orderly backend asked).bind_lift fun outcome moment after ended => ?_
  cases outcome with
  | ok response => exact .finished ended
  | error failure =>
      rcases ended with ⟨events, whole, ended⟩
      cases kind : failure.isInterruption with
      | true =>
          simp only [kind, if_true]
          exact .finished ⟨events, whole, ended.relayed kind⟩
      | false =>
          have reply := ended.goesOn kind
          have exhausted : after.Since before (ChatEnds context moment ·
              (.error (.exhausted backend.name attempt.toUInt32 failure))) :=
            ⟨events, whole, .answered 0 reply (.failure kind _)⟩
          simp only [kind, Bool.false_eq_true, if_false]
          cases retries with
          | zero => exact .finished exhausted
          | succ left =>
              dsimp only
              split
              · have waits := RequestContext.notPast_of_calm reply.calm
                refine (backoff_ensures waits ⟨events, whole, reply.orderly kind⟩ _).bind ?_ ?_
                · intro _ later recorded ended
                  exact others left rfl later recorded
                    (RequestContext.notPast_of_calm ended.1) ended.2
                · exact fun _ _ _ ended => ended
              · exact .finished exhausted

private theorem attempts_ensures (attempt retries : Nat) :
    ChatEnsures context before
      (attempts policy context backend.recorded asked attempt retries) := by
  induction retries generalizing attempt with
  | zero => exact attempt_ensures policy backend asked attempt 0 nofun
  | succ left induction =>
      refine attempt_ensures policy backend asked attempt (left + 1) fun other same => ?_
      cases same
      exact induction (attempt + 1)

end

private theorem chatWithRetries_ensures (gateway : Gateway σ) (backend : Backend σ)
    (asked : ChatRequest) :
    ChatEnsures context before
      (gateway.recorded.chatWithRetries context backend.recorded asked) :=
  attempts_ensures gateway.retry backend asked 1 gateway.retry.maxRetries.toNat

theorem chat_ensures {gateway : Gateway σ} {request : ChatRequest} {selected : Backend σ}
    (registered : gateway.backend (request.backend.getD gateway.defaultBackend) = .ok selected) :
    ChatEnsures context before (gateway.recorded.chat context request) := by
  intro now recorded early orderly
  unfold chat
  rw [Task.bind_of_finished (look_up_finished (backend_recorded registered))]
  have tried := chatWithRetries_ensures gateway selected
    (request.withDefaultModel gateway.defaultModel) now recorded early orderly
  refine tried.bind_lift fun answer moment after ended => ?_
  cases answer with
  | ok response => exact .finished ended
  | error failure =>
      dsimp only
      cases kind : failure.isInterruption with
      | true => exact .finished ended
      | false =>
          simp only [Bool.false_eq_true, if_false, backend_withDefaultModel]
          cases alternative : gateway.recorded.fallbackFor?
              (request.backend.getD gateway.recorded.defaultBackend) with
          | none => exact .finished ended
          | some fallback =>
              rcases of_fallbackFor?_recorded alternative with ⟨_, backend, _, _, _, rfl⟩
              rcases ended with ⟨events, whole, ended⟩
              have goesOn := ended.goesOn kind
              exact chatWithRetries_ensures gateway backend _ moment after
                (RequestContext.notPast_of_calm goesOn.1) ⟨events, whole, goesOn.2⟩

/-! ## The whole chat -/

/-- A chat that begins no later than its context is cancelled or late ends no later than that, and
begins every call earlier. If the context stops it, it answers with whichever of the two comes
first. Otherwise it makes its answer of the last reply. A reply that is itself an interruption is
the last one and the answer. -/
theorem chat_yields_to_interruption (gateway : Gateway σ) (context : RequestContext)
    (apart : ∀ cancel deadline, context.cancelAt = some cancel →
      context.deadline = some deadline → cancel.nanoseconds ≠ deadline.nanoseconds)
    (request : ChatRequest) {selected : Backend σ}
    (registered : gateway.backend (request.backend.getD gateway.defaultBackend) = .ok selected)
    {now : Moment}
    (early : ∀ stop, context.StopsAt stop → now.nanoseconds ≤ stop.nanoseconds)
    (before : Recorded σ) :
    let (answer, moment, after) := Task.run (gateway.recorded.chat context request).run now before
    ∃ events, after.events = before.events ++ events ∧
      (∀ stop, context.StopsAt stop → moment.nanoseconds ≤ stop.nanoseconds ∧
        ∀ start name question, .asked start name question ∈ events → start < stop) ∧
      (∀ earlier replied name asked cause later,
        events =
          earlier ++ .replied replied name (.chat asked (.error (.interrupted cause))) :: later →
        later = [] ∧ answer = .error (.interrupted cause)) ∧
      ((∃ cancel, context.cancelAt = some cancel ∧ moment.nanoseconds = cancel.nanoseconds ∧
          (∀ deadline, context.deadline = some deadline →
            cancel.nanoseconds < deadline.nanoseconds) ∧
          answer = .error (.interrupted .cancelled)) ∨
        (∃ deadline, context.deadline = some deadline ∧
          moment.nanoseconds = deadline.nanoseconds ∧
          (∀ cancel, context.cancelAt = some cancel →
            deadline.nanoseconds < cancel.nanoseconds) ∧
          answer = .error (.interrupted .deadlineExceeded)) ∨
        (∀ stop, context.StopsAt stop → moment < stop) ∧
          ∃ earlier name asked begun outcome,
            events = earlier ++ [.asked begun name (.chat asked),
              .replied moment name (.chat asked outcome)] ∧
            match outcome with
            | .ok response =>
                answer = .ok (completed name asked (begun.millisecondsUntil moment) response)
            | .error (.interrupted cause) => answer = .error (.interrupted cause)
            | .error failure => ∃ attempts, answer = .error (.exhausted name attempts failure)) := by
  have unchanged : KeepsOrder context before.events before :=
    ⟨[], (List.append_nil before.events).symm, .nil⟩
  rcases ran : Task.run (gateway.recorded.chat context request).run now before with
    ⟨answer, moment, after⟩
  rcases (chat_ensures registered).run early unchanged ran with ⟨events, whole, ended⟩
  refine ⟨events, whole, fun stop stops => ⟨ended.notPast stop stops, ?_⟩, ?_, ?_⟩
  · exact fun start name question member => stops.lt_of_calm (ended.timely member)
  · exact fun earlier replied name asked cause later split => ended.interruption_last split
  · cases ended with
    | stopped stopped =>
        rcases stopped.punctual.first stopped.look apart with ⟨cancel, isCancel, same, first, rfl⟩ |
          ⟨deadline, isDeadline, same, first, rfl⟩
        · exact .inl ⟨cancel, isCancel, same, first, rfl⟩
        · exact .inr (.inl ⟨deadline, isDeadline, same, first, rfl⟩)
    | answered _ reply _ =>
        rcases exists_course_of_run_chat registered ran fun _ _ => reply.calm with
          ⟨others, logged, course⟩
        obtain rfl := List.append_cancel_left (logged.symm.trans whole)
        rcases course.exists_last with ⟨earlier, name, asked, begun, outcome, last, conveyed⟩
        refine .inr (.inr ⟨fun stop stops => stops.lt_of_calm reply.calm, earlier, name, asked,
          begun, outcome, last, ?_⟩)
        cases conveyed with
        | response => rfl
        | interruption => rfl
        | @failure failure regular attempts =>
            cases failure with
            | interrupted => cases regular
            | _ => exact ⟨attempts, rfl⟩

/-- A chat that is cancelled while it waits for its second attempt. -/
theorem chat_yields_to_interruption_backoff :
    let gateway := refusingGateway
    let stop : Moment := .ofMilliseconds 100 + 1
    let context : RequestContext := ⟨.ofNat 1, some stop, some (.ofMilliseconds 2000)⟩
    let request := ChatRequest.of "large" []
    (∀ cancel deadline, context.cancelAt = some cancel → context.deadline = some deadline →
      cancel.nanoseconds ≠ deadline.nanoseconds) ∧
    gateway.backend (request.backend.getD gateway.defaultBackend) = .ok (refusing "first" 503) ∧
    (∀ stop, context.StopsAt stop → Moment.nanoseconds 0 ≤ stop.nanoseconds) ∧
    let (answer, moment, after) := Task.run (gateway.recorded.chat context request).run 0 ⟨(), []⟩
    answer = .error (.interrupted .cancelled) ∧ moment.milliseconds = 100 ∧
      (BackendEvent.questions after.events).map Prod.fst = ["first"] ∧
      ∀ start name question, .asked start name question ∈ after.events → start < stop := by
  intro gateway stop context request
  have apart : ∀ cancel deadline, context.cancelAt = some cancel →
      context.deadline = some deadline → cancel.nanoseconds ≠ deadline.nanoseconds := by
    intro cancel deadline isCancel isDeadline
    cases isCancel
    cases isDeadline
    decide
  have registered : gateway.backend (request.backend.getD gateway.defaultBackend) =
      .ok (refusing "first" 503) := rfl
  have early : ∀ stop, context.StopsAt stop → Moment.nanoseconds 0 ≤ stop.nanoseconds :=
    fun stop _ => Nat.zero_le _
  refine ⟨apart, registered, early, ?_⟩
  have yields := chat_yields_to_interruption gateway context apart request registered early ⟨(), []⟩
  have ended : (Task.run (gateway.recorded.chat context request).run 0 ⟨(), []⟩).2.1 = stop := by
    decide +kernel
  have asked : (BackendEvent.questions
      (Task.run (gateway.recorded.chat context request).run 0 ⟨(), []⟩).2.2.events).map Prod.fst =
        ["first"] := by
    decide +kernel
  rcases ran : Task.run (gateway.recorded.chat context request).run 0 ⟨(), []⟩ with
    ⟨answer, moment, after⟩
  rw [ran] at yields ended asked
  change moment = stop at ended
  rw [ended] at yields
  rcases yields with ⟨events, whole, bounds, _, outcomes⟩
  have cancels : context.StopsAt stop := .inl rfl
  refine ⟨?_, by rw [ended]; decide, asked, fun start name question member => ?_⟩
  · rcases outcomes with ⟨_, _, _, _, cancelled⟩ | ⟨deadline, isDeadline, same, _⟩ | ⟨calm, _⟩
    · exact cancelled
    · cases isDeadline
      exact absurd same (by decide)
    · exact absurd (calm stop cancels) (Nat.lt_irrefl stop)
  · rw [whole] at member
    exact (bounds stop cancels).2 start name question member

end Gateway

end GroundedAnswers
