import GroundedAnswers.Proofs.Gateway.Chats
import GroundedAnswers.Proofs.Task.Ensures

namespace GroundedAnswers

/-! How calls and chats may end under a context that stops: by the context, or with a last reply.
The log of the calls shows which it was. -/

/-! ## The moments at which a context stops -/

namespace RequestContext

variable {context : RequestContext} {now moment : Moment} {cause : Interruption}

def StopsAt (context : RequestContext) (stop : Moment) : Prop :=
  context.cancelAt = some stop ∨ context.deadline = some stop

private theorem StopsAt.exists_first {stop : Moment} (stops : context.StopsAt stop) :
    ∃ first, context.stopsAt? = some first ∧ first ≤ stop := by
  rcases context with ⟨tenant, cancel, deadline⟩
  rcases stops with same | same
  · cases same
    cases deadline with
    | none => exact ⟨stop, rfl, Nat.le_refl stop⟩
    | some deadline => exact ⟨min stop deadline, rfl, Nat.min_le_left _ _⟩
  · cases same
    cases cancel with
    | none => exact ⟨stop, rfl, Nat.le_refl stop⟩
    | some cancel => exact ⟨min cancel stop, rfl, Nat.min_le_right _ _⟩

theorem StopsAt.lt_of_calm {stop : Moment} (stops : context.StopsAt stop)
    (calm : context.interruption? now = none) : now < stop := by
  rcases stops.exists_first with ⟨first, isFirst, earlier⟩
  exact Nat.lt_of_lt_of_le (interruption?_eq_none_iff.mp calm first isFirst) earlier

private theorem of_interruption?_eq_some (look : context.interruption? moment = some cause) :
    (cause = .cancelled ∧ ∃ cancel, context.cancelAt = some cancel ∧ cancel ≤ moment) ∨
      (cause = .deadlineExceeded ∧
        ∃ deadline, context.deadline = some deadline ∧ deadline ≤ moment ∧
          ∀ cancel, context.cancelAt = some cancel → moment < cancel) := by
  unfold interruption? isCancelled at look
  simp only [Option.any_eq_true, decide_eq_true_eq] at look
  split at look
  · cases look
    exact .inl ⟨rfl, ‹_›⟩
  · rename_i running
    split at look
    · rename_i late
      rcases late with ⟨deadline, isDeadline, past⟩
      cases look
      refine .inr ⟨rfl, deadline, isDeadline, past, fun cancel isCancel => ?_⟩
      exact Nat.lt_of_not_le fun passed => running ⟨cancel, isCancel, passed⟩
    · cases look

def NotPast (context : RequestContext) (now : Moment) : Prop :=
  ∀ stop, context.StopsAt stop → now.nanoseconds ≤ stop.nanoseconds

theorem notPast_of_calm (calm : context.interruption? now = none) : context.NotPast now :=
  fun _ stops => Nat.div_le_div_right (Nat.le_of_lt (stops.lt_of_calm calm))

theorem notPast_of_stopsAt? (first : context.stopsAt? = some moment) : context.NotPast moment := by
  intro stop stops
  rcases stops.exists_first with ⟨other, isFirst, earlier⟩
  rw [first] at isFirst
  cases isFirst
  exact Nat.div_le_div_right earlier

theorem NotPast.first (punctual : context.NotPast moment)
    (look : context.interruption? moment = some cause)
    (apart : ∀ cancel deadline, context.cancelAt = some cancel →
      context.deadline = some deadline → cancel.nanoseconds ≠ deadline.nanoseconds) :
    (∃ cancel, context.cancelAt = some cancel ∧ moment.nanoseconds = cancel.nanoseconds ∧
        (∀ deadline, context.deadline = some deadline →
          cancel.nanoseconds < deadline.nanoseconds) ∧ cause = .cancelled) ∨
      (∃ deadline, context.deadline = some deadline ∧
        moment.nanoseconds = deadline.nanoseconds ∧
        (∀ cancel, context.cancelAt = some cancel →
          deadline.nanoseconds < cancel.nanoseconds) ∧ cause = .deadlineExceeded) := by
  rcases of_interruption?_eq_some look with
    ⟨rfl, cancel, isCancel, past⟩ | ⟨rfl, deadline, isDeadline, past, _⟩
  · have same : moment.nanoseconds = cancel.nanoseconds :=
      Nat.le_antisymm (punctual cancel (.inl isCancel)) (Nat.div_le_div_right past)
    refine .inl ⟨cancel, isCancel, same, fun deadline isDeadline => ?_, rfl⟩
    have bound := punctual deadline (.inr isDeadline)
    have different := apart cancel deadline isCancel isDeadline
    omega
  · have same : moment.nanoseconds = deadline.nanoseconds :=
      Nat.le_antisymm (punctual deadline (.inr isDeadline)) (Nat.div_le_div_right past)
    refine .inr ⟨deadline, isDeadline, same, fun cancel isCancel => ?_, rfl⟩
    have bound := punctual cancel (.inl isCancel)
    have different := apart cancel deadline isCancel isDeadline
    omega

end RequestContext

/-! ## Logs -/

/-- Calls that begin in time, and none that is answered with an interruption. -/
structure Orderly (context : RequestContext) (events : List BackendEvent) : Prop where
  timely : ∀ start name question, .asked start name question ∈ events →
    context.interruption? start = none
  regular : ∀ moment name asked cause,
    .replied moment name (.chat asked (.error (.interrupted cause))) ∉ events

namespace Orderly

variable {context : RequestContext} {events : List BackendEvent}

theorem nil : Orderly context [] :=
  ⟨fun _ _ _ => (absurd · List.not_mem_nil), fun _ _ _ _ => List.not_mem_nil⟩

theorem concat_asked (orderly : Orderly context events) {start : Moment}
    (calm : context.interruption? start = none) (name : String) (question : Question) :
    Orderly context (events ++ [.asked start name question]) := by
  refine ⟨fun start name question member => ?_, fun moment name asked cause member => ?_⟩
  · rcases List.mem_append.mp member with earlier | last
    · exact orderly.timely start name question earlier
    · cases List.mem_singleton.mp last
      exact calm
  · rcases List.mem_append.mp member with earlier | last
    · exact orderly.regular moment name asked cause earlier
    · cases List.mem_singleton.mp last

private theorem concat_replied (orderly : Orderly context events) {asked : ChatRequest}
    {outcome : Except ModelFailure ChatResponse}
    (regular : ∀ cause, outcome ≠ .error (.interrupted cause)) (moment : Moment) (name : String) :
    Orderly context (events ++ [.replied moment name (.chat asked outcome)]) := by
  refine ⟨fun start name question member => ?_, fun moment name asked cause member => ?_⟩
  · rcases List.mem_append.mp member with earlier | last
    · exact orderly.timely start name question earlier
    · cases List.mem_singleton.mp last
  · rcases List.mem_append.mp member with earlier | last
    · exact orderly.regular moment name asked cause earlier
    · cases List.mem_singleton.mp last
      exact regular cause rfl

end Orderly

def Recorded.Since (before : List BackendEvent) (holds : List BackendEvent → Prop)
    (recorded : Recorded σ) : Prop :=
  ∃ events, recorded.events = before ++ events ∧ holds events

theorem Recorded.Since.note {before : List BackendEvent} {holds : List BackendEvent → Prop}
    {recorded : Recorded σ} (since : recorded.Since before holds)
    {after : List BackendEvent → Prop} {event : BackendEvent}
    (step : ∀ events, holds events → after (events ++ [event])) :
    (recorded.note event).Since before after := by
  rcases since with ⟨events, whole, held⟩
  refine ⟨events ++ [event], ?_, step events held⟩
  rw [Recorded.note, whole, List.append_assoc]

/-! ## How calls and chats end -/

/-- The context put an end to work that had kept its log in order. -/
structure StoppedBy (context : RequestContext) (cause : Interruption) (moment : Moment)
    (events : List BackendEvent) : Prop where
  orderly : Orderly context events
  punctual : context.NotPast moment
  look : context.interruption? moment = some cause

structure LastReply (context : RequestContext) (name : String) (asked : ChatRequest)
    (outcome : Except ModelFailure ChatResponse) (moment : Moment) (events : List BackendEvent) :
    Prop where
  calm : context.interruption? moment = none
  last : ∃ earlier, Orderly context earlier ∧
    events = earlier ++ [.replied moment name (.chat asked outcome)]

inductive CallEnds (context : RequestContext) (name : String) (asked : ChatRequest)
    (moment : Moment) (events : List BackendEvent) : Except ModelFailure ChatResponse → Prop
  | stopped {cause : Interruption} (stopped : StoppedBy context cause moment events) :
      CallEnds context name asked moment events (.error (.interrupted cause))
  | replied {outcome : Except ModelFailure ChatResponse}
      (reply : LastReply context name asked outcome moment events) :
      CallEnds context name asked moment events outcome

/-- What a chat answers when a reply that took so many milliseconds is its last one. -/
inductive Conveys (name : String) (asked : ChatRequest) (latency : UInt64) :
    Except ModelFailure ChatResponse → Except ModelFailure ChatResponse → Prop
  | response (response : ChatResponse) :
      Conveys name asked latency (.ok response)
        (.ok (Gateway.completed name asked latency response))
  | interruption (cause : Interruption) :
      Conveys name asked latency (.error (.interrupted cause)) (.error (.interrupted cause))
  | failure {failure : ModelFailure} (regular : failure.isInterruption = false)
      (attempts : UInt32) : Conveys name asked latency (.error failure)
        (.error (.exhausted name attempts failure))

inductive ChatEnds (context : RequestContext) (moment : Moment) (events : List BackendEvent) :
    Except ModelFailure ChatResponse → Prop
  | stopped {cause : Interruption} (stopped : StoppedBy context cause moment events) :
      ChatEnds context moment events (.error (.interrupted cause))
  | answered {name : String} {asked : ChatRequest}
      {outcome answer : Except ModelFailure ChatResponse} (latency : UInt64)
      (reply : LastReply context name asked outcome moment events)
      (conveyed : Conveys name asked latency outcome answer) : ChatEnds context moment events answer

section

variable {context : RequestContext} {moment : Moment} {events : List BackendEvent}
  {failure : ModelFailure}

theorem LastReply.orderly {name : String} {asked : ChatRequest}
    (reply : LastReply context name asked (.error failure) moment events)
    (regular : failure.isInterruption = false) : Orderly context events := by
  rcases reply.last with ⟨earlier, held, rfl⟩
  refine held.concat_replied (fun cause same => ?_) moment name
  cases same
  cases regular

theorem LastReply.timely {name : String} {asked : ChatRequest}
    {outcome : Except ModelFailure ChatResponse}
    (reply : LastReply context name asked outcome moment events) {start : Moment} {called : String}
    {question : Question} (member : .asked start called question ∈ events) :
    context.interruption? start = none := by
  rcases reply.last with ⟨earlier, held, rfl⟩
  rcases List.mem_append.mp member with inside | last
  · exact held.timely start called question inside
  · cases List.mem_singleton.mp last

/-- No call follows one that is answered with an interruption. -/
theorem LastReply.interruption_last {name other : String} {asked request : ChatRequest}
    {outcome : Except ModelFailure ChatResponse} {earlier later : List BackendEvent}
    {replied : Moment} {cause : Interruption}
    (reply : LastReply context name asked outcome moment events)
    (split : events =
      earlier ++ .replied replied other (.chat request (.error (.interrupted cause))) :: later) :
    later = [] ∧ outcome = .error (.interrupted cause) := by
  rcases reply.last with ⟨before, held, rfl⟩
  rcases List.eq_nil_or_concat later with rfl | ⟨front, last, rfl⟩
  · cases (List.append_inj' split rfl).2
    exact ⟨rfl, rfl⟩
  · rw [List.concat_eq_append, ← List.cons_append, ← List.append_assoc] at split
    have inside : before = earlier ++
        .replied replied other (.chat request (.error (.interrupted cause))) :: front :=
      (List.append_inj' split rfl).1
    refine absurd ?_ (held.regular replied other request cause)
    rw [inside]
    exact List.mem_append_right earlier List.mem_cons_self

theorem CallEnds.goesOn {name : String} {asked : ChatRequest}
    (ended : CallEnds context name asked moment events (.error failure))
    (regular : failure.isInterruption = false) :
    LastReply context name asked (.error failure) moment events := by
  cases ended with
  | stopped => cases regular
  | replied reply => exact reply

theorem CallEnds.responded {name : String} {asked : ChatRequest} {response : ChatResponse}
    (ended : CallEnds context name asked moment events (.ok response)) (latency : UInt64) :
    ChatEnds context moment events (.ok (Gateway.completed name asked latency response)) := by
  cases ended with
  | replied reply => exact .answered latency reply (.response response)

theorem CallEnds.relayed {name : String} {asked : ChatRequest}
    (ended : CallEnds context name asked moment events (.error failure))
    (interrupted : failure.isInterruption) : ChatEnds context moment events (.error failure) := by
  cases ended with
  | stopped stopped => exact .stopped stopped
  | replied reply =>
      cases failure with
      | interrupted cause => exact .answered 0 reply (.interruption cause)
      | _ => cases interrupted

section

variable {answer : Except ModelFailure ChatResponse}

theorem ChatEnds.notPast (ended : ChatEnds context moment events answer) :
    context.NotPast moment := by
  cases ended with
  | stopped stopped => exact stopped.punctual
  | answered _ reply _ => exact RequestContext.notPast_of_calm reply.calm

theorem ChatEnds.timely (ended : ChatEnds context moment events answer) {start : Moment}
    {called : String} {question : Question} (member : .asked start called question ∈ events) :
    context.interruption? start = none := by
  cases ended with
  | stopped stopped => exact stopped.orderly.timely start called question member
  | answered _ reply _ => exact reply.timely member

theorem ChatEnds.interruption_last {other : String} {request : ChatRequest}
    {earlier later : List BackendEvent} {replied : Moment} {cause : Interruption}
    (ended : ChatEnds context moment events answer)
    (split : events =
      earlier ++ .replied replied other (.chat request (.error (.interrupted cause))) :: later) :
    later = [] ∧ answer = .error (.interrupted cause) := by
  cases ended with
  | stopped stopped =>
      refine absurd ?_ (stopped.orderly.regular replied other request cause)
      rw [split]
      exact List.mem_append_right earlier List.mem_cons_self
  | answered _ reply conveyed =>
      rcases reply.interruption_last split with ⟨last, rfl⟩
      cases conveyed with
      | interruption => exact ⟨last, rfl⟩
      | failure regular => cases regular

end

theorem ChatEnds.goesOn (ended : ChatEnds context moment events (.error failure))
    (regular : failure.isInterruption = false) :
    context.interruption? moment = none ∧ Orderly context events := by
  cases ended with
  | stopped => cases regular
  | answered _ reply conveyed =>
      cases conveyed with
      | interruption => cases regular
      | failure original => exact ⟨reply.calm, reply.orderly original⟩

end

end GroundedAnswers
