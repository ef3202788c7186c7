import GroundedAnswers.Proofs.Answering.InMemory
import GroundedAnswers.Proofs.CommandLine.Running
import GroundedAnswers.Proofs.Gateway.FirstCall
import GroundedAnswers.Proofs.Scripted.Replies

namespace GroundedAnswers

/-! A chat as a whole and as a stream: both begin with the same call, and where a scripted backend
answers, both bring the same text and the same counts, and the command line prints the same. -/

/-! ## Gateways -/

namespace Gateway

section Scripted

variable {gateway : Gateway σ} {context : RequestContext} {request : ChatRequest} {now : Moment}
  {state : σ} {script : ScriptedBackend} {part : σ → ScriptRecord}
  {replace : ScriptRecord → σ → σ} {content : String}
  (isPart : Task.IsPart part replace)
  (registered : gateway.backend (request.backend.getD gateway.defaultBackend) =
    .ok (script.backend.zoom part replace))
  (expected : script.nextOutcome (part state) (request.withDefaultModel gateway.defaultModel) =
    .ok content)

include isPart registered expected

private theorem run_chat_scripted (context : RequestContext) (now : Moment) :
    match context.breaksDelay? now script.delayNanoseconds with
    | some (stop, cause) =>
        Task.run (gateway.chat context request).run now state =
          (.error (.interrupted cause), stop, state)
    | none => ∃ response after, (response.content = content ∧ response.usage = script.usage) ∧
        Task.run (gateway.chat context request).run now state =
          (.ok response, now.after script.delayNanoseconds, after) := by
  have called := ((script.chat_succeeds context _ content).zoom isPart).run_guard now expected
  cases broken : context.breaksDelay? now script.delayNanoseconds with
  | some stop =>
      rw [broken] at called
      refine run_chat_of_interruption registered ?_ rfl
      unfold chatWithRetries attempts
      rw [Task.run_bind_lift (run_ask_of_error called)]
      rfl
  | none =>
      rw [broken] at called
      rcases called with ⟨response, after, ⟨rfl, sameCounts⟩, called⟩
      let answer := completed script.name (request.withDefaultModel gateway.defaultModel)
        (now.millisecondsUntil (now.after script.delayNanoseconds)) response
      have tried : Task.run (gateway.chatWithRetries context (script.backend.zoom part replace)
          (request.withDefaultModel gateway.defaultModel)).run now state =
            (.ok answer, now.after script.delayNanoseconds, after) := by
        unfold chatWithRetries attempts
        rw [Task.run_bind_lift (run_ask called)]
        rfl
      exact ⟨answer, after, ⟨rfl, sameCounts⟩, run_chat_of_ok registered tried⟩

private theorem run_chatStream_scripted (context : RequestContext) (now : Moment) :
    match context.breaksDelay? now script.delayNanoseconds with
    | some (stop, cause) =>
        Task.run (gateway.chatStream context request).run now state =
          (.error (.interrupted cause), stop, state)
    | none => ∃ stream after,
        stream = ⟨{ watched := none, usage := script.usage },
          [.frames ((ScriptedBackend.piecesOf content).map .delta)], []⟩ ∧
        Task.run (gateway.chatStream context request).run now state =
          (.ok stream, now.after script.delayNanoseconds, after) := by
  rw [run_chatStream_of_registered registered]
  exact ((script.chatStream_succeeds context _ content).zoom isPart).run_guard now expected

end Scripted

end Gateway

/-! ## Reading and printing a stream -/

theorem RequestContext.run_waitUntil {context : RequestContext} {now moment : Moment}
    (calm : context.interruption? moment = none) (order : now ≤ moment) (state : σ) :
    Task.run (context.run (Task.waitUntil moment)).run now state = (.ok (), moment, state) := by
  have early : context.interruption? now = none := by
    cases look : context.interruption? now with
    | none => rfl
    | some cause =>
        have later := isSome_interruption?_of_le order (Option.isSome_of_eq_some look)
        simp [calm] at later
  change Progress.run now (context.run (Task.waitUntil moment) now state) = _
  unfold RequestContext.run Task.waitUntil
  rw [early]
  by_cases come : moment ≤ now
  · rw [Nat.le_antisymm come order]
    simp [Progress.under, Progress.run]
  · simp [come, Progress.under, breaks?_eq_none_iff.mpr calm, Progress.run]

private theorem ChatStream.run_followEvents {context : RequestContext} {moment : Moment}
    (calm : context.interruption? moment = none) (events : List StreamEvent) {now : Moment}
    (order : now ≤ moment) (state : σ) :
    ∃ reached, Task.run (followEvents context (events.map (⟨moment, ·⟩))) now state =
      ((events, none), reached, state) := by
  induction events generalizing now with
  | nil => exact ⟨now, rfl⟩
  | cons event events induction =>
      rcases induction (Nat.le_refl moment) with ⟨reached, followed⟩
      refine ⟨reached, ?_⟩
      rw [List.map_cons, followEvents, Task.bind_run, context.run_waitUntil calm order]
      dsimp only
      rw [Task.bind_run, followed]
      rfl

/-- A stream that was prepared is read to its end if nothing interrupts the reader's first turn. -/
theorem ChatStream.run_follow_prepared {context : RequestContext} {now : Moment} (usage : Usage)
    (texts : List String) (calm : context.interruption? (now.besideAfter 0) = none) (state : σ) :
    ∃ reached,
      Task.run (ChatStream.follow context
          ⟨{ watched := none, usage := usage }, [.frames (texts.map .delta)], []⟩) now state =
        ((texts.map .delta ++ [.done usage], none), reached, state) := by
  rcases run_followEvents calm (texts.map .delta ++ [.done usage])
    (Moment.le_besideAfter now 0) state with ⟨reached, followed⟩
  refine ⟨reached, ?_⟩
  unfold ChatStream.follow
  rw [Task.bind_run, Task.run_now, ChatStream.eventsFrom_prepared, followed]

namespace Surroundings

private theorem runAfter_printEvents (texts : List String) (usage : Usage) (output : String)
    (now : Moment) (state : σ) :
    (printEvents none (texts.map .delta ++ [.done usage])).runAfter output now state =
      ((.ok (), output ++ Report.line (String.join texts)), now, state) := by
  induction texts generalizing output with
  | nil => rfl
  | cons text texts induction =>
      rw [List.map_cons, List.cons_append, printEvents,
        CommandTask.runAfter_bind_of_ok (CommandTask.runAfter_print text), induction,
        String.join_cons, Report.line, Report.line, String.append_assoc, String.append_assoc]

section

variable {surroundings : Surroundings σ} {context : RequestContext} {command : ChatCommand}
  {now : Moment} {state : σ} {script : ScriptedBackend} {part : σ → ScriptRecord}
  {replace : ScriptRecord → σ → σ} {content : String}
  (isPart : Task.IsPart part replace)
  (registered : surroundings.gateway.backend
      ((chatRequest command).backend.getD surroundings.gateway.defaultBackend) =
    .ok (script.backend.zoom part replace))
  (expected : script.nextOutcome (part state)
      ((chatRequest command).withDefaultModel surroundings.gateway.defaultModel) = .ok content)

include isPart registered expected

private theorem run_chat_whole (whole : command.stream = false) :
    (Task.run (surroundings.run context (.chat command)) now state).1 =
      match context.breaksDelay? now script.delayNanoseconds with
      | some (_, cause) => ⟨"", some (.model (.interrupted cause))⟩
      | none => ⟨Report.line content, none⟩ := by
  have ran := Gateway.run_chat_scripted isPart registered expected context now
  have chatted : surroundings.chat context command =
      CommandTask.attempt .model (surroundings.gateway.chat context (chatRequest command)) >>=
        fun response => CommandTask.print (Report.line response.content) := by
    rw [chat, whole]
    rfl
  change (Task.run (surroundings.chat context command).outcome now state).1 = _
  rw [chatted]
  cases broken : context.breaksDelay? now script.delayNanoseconds with
  | some stop =>
      rw [broken] at ran
      rw [CommandTask.run_outcome_attempt_of_error .model ran]
  | none =>
      rw [broken] at ran
      rcases ran with ⟨response, after, ⟨rfl, _⟩, ran⟩
      have succeeded := CommandTask.runAfter_attempt_of_ok .model "" ran
      have printed := (CommandTask.runAfter_bind_of_ok succeeded fun response =>
        CommandTask.print (Report.line response.content)).trans (CommandTask.runAfter_print _)
      rw [CommandTask.run_outcome_of_ok printed, String.empty_append]

private theorem run_chat_streamed (streamed : command.stream = true)
    (undisturbed : context.breaksDelay? now script.delayNanoseconds = none →
      context.interruption? ((now.after script.delayNanoseconds).besideAfter 0) = none) :
    (Task.run (surroundings.run context (.chat command)) now state).1 =
      match context.breaksDelay? now script.delayNanoseconds with
      | some (_, cause) => ⟨"", some (.model (.interrupted cause))⟩
      | none => ⟨Report.line content, none⟩ := by
  have ran := Gateway.run_chatStream_scripted isPart registered expected context now
  have chatted : surroundings.chat context command =
      CommandTask.attempt .model (surroundings.gateway.chatStream context (chatRequest command)) >>=
        fun stream => CommandTask.silently (stream.follow context) >>= fun read =>
          printEvents read.2 read.1 := by
    rw [chat, streamed]
    rfl
  change (Task.run (surroundings.chat context command).outcome now state).1 = _
  rw [chatted]
  cases broken : context.breaksDelay? now script.delayNanoseconds with
  | some stop =>
      rw [broken] at ran
      rw [CommandTask.run_outcome_attempt_of_error .model ran]
  | none =>
      rw [broken] at ran
      rcases ran with ⟨stream, after, rfl, ran⟩
      have succeeded := CommandTask.runAfter_attempt_of_ok .model "" ran
      rcases ChatStream.run_follow_prepared script.usage (ScriptedBackend.piecesOf content)
        (undisturbed broken) after with ⟨reached, followed⟩
      have heard := CommandTask.runAfter_silently_of_run "" followed
      have printed := (CommandTask.runAfter_bind_of_ok succeeded fun stream =>
        CommandTask.silently (stream.follow context) >>= fun read => printEvents read.2 read.1).trans
          ((CommandTask.runAfter_bind_of_ok heard fun read => printEvents read.2 read.1).trans
            (runAfter_printEvents _ _ _ _ _))
      rw [CommandTask.run_outcome_of_ok printed, String.empty_append,
        ScriptedBackend.join_piecesOf]

end

end Surroundings

private theorem Moment.besideAfter_lt_even (now : Nat) (nanoseconds count : Nat)
    (early : Moment.after now nanoseconds < 2 * count) :
    (Moment.after now nanoseconds).besideAfter 0 < 2 * count := by
  have bound : ∀ reached : Nat, reached < 2 * count →
      max reached (2 * (reached / 2 + 0) + 1) < 2 * count := by omega
  exact bound _ early

private theorem CommandLine.undisturbed_context (common : CommonOptions) (tenant : Identifier)
    (now : Moment) (nanoseconds : Nat)
    (calm : (context common tenant now).interruption? (now.after nanoseconds) = none) :
    (context common tenant now).interruption? ((now.after nanoseconds).besideAfter 0) = none := by
  rw [RequestContext.interruption?_eq_none_iff] at calm ⊢
  intro stop stops
  have early := calm stop stops
  unfold context at stops
  cases timeout : common.timeout with
  | none =>
      rw [timeout] at stops
      cases stops
  | some seconds =>
      rw [timeout] at stops
      cases stops
      exact Moment.besideAfter_lt_even now nanoseconds _ early

/-! ## Agreement -/

/-- A streamed answer asks once, and never more whatever comes of it, what a chat asks first. Where
a scripted backend answers a chat with a text, the pieces of the stream make up that text and the
one event behind them tells the same counts; the command line prints the same for both. -/
theorem streams_and_chats_agree (gateway : Gateway σ) (request : ChatRequest) :
    let name := request.backend.getD gateway.defaultBackend
    let sent := request.withDefaultModel gateway.defaultModel
    (∀ (context : RequestContext) (now : Moment) (before : Recorded σ),
      let (answer, moment, after) :=
        Task.run (gateway.recorded.chatStream context request).run now before
      let chatting := Task.run (gateway.recorded.chat context request).run now before
      match gateway.backend name, context.interruption? now with
      | .error failure, _ =>
          failure = .notConfigured name ∧ (answer, moment, after) = (.error failure, now, before) ∧
            chatting = (.error failure, now, before)
      | .ok _, some cause =>
          (answer, moment, after) = (.error (.interrupted cause), now, before) ∧
            chatting = (.error (.interrupted cause), now, before)
      | .ok _, none =>
          (∃ replies, after.events = before.events ++ [.asked now name (.stream sent)] ++ replies ∧
            ((replies = [] ∧ ∃ cause, answer = .error (.interrupted cause) ∧
                context.interruption? moment = some cause) ∨
              replies = [.replied moment name (.stream sent answer)])) ∧
          before.events ++ [.asked now name (.chat sent)] <+: chatting.2.2.events) ∧
    ∀ (script : ScriptedBackend) (part : σ → ScriptRecord) (replace : ScriptRecord → σ → σ),
      Task.IsPart part replace → gateway.backend name = .ok (script.backend.zoom part replace) →
      ∀ (state : σ) (content : String), script.nextOutcome (part state) sent = .ok content →
      ∀ now : Moment,
        let arrival := now.after script.delayNanoseconds
        (∀ context, context.interruption? arrival = none →
          ∃ response stream texts afterChat afterStream,
            Task.run (gateway.chat context request).run now state =
              (.ok response, arrival, afterChat) ∧
            Task.run (gateway.chatStream context request).run now state =
              (.ok stream, arrival, afterStream) ∧
            response.content = content ∧ response.usage = script.usage ∧
            String.join texts = content ∧
            ∀ (cancelAfter : Option Nat) (start : Moment) (reader : σ),
              (Task.run (stream.read none cancelAfter) start reader).1 =
                ⟨texts.map .delta ++ [.done script.usage], true⟩) ∧
        ∀ (surroundings : Surroundings σ) (command : ChatCommand),
          surroundings.gateway = gateway → Surroundings.chatRequest command = request →
          let outcome (context : RequestContext) (stream : Bool) : Outcome :=
            (Task.run (surroundings.run context (.chat { command with stream })) now state).1
          (∀ context : RequestContext,
            (context.interruption? arrival = none →
              context.interruption? (arrival.besideAfter 0) = none) →
            outcome context true = outcome context false) ∧
          ∀ (common : CommonOptions) (tenant : Identifier),
            let context := CommandLine.context common tenant now
            outcome context true = outcome context false ∧
              (context.interruption? arrival = none →
                outcome context true = ⟨Report.line content, none⟩) := by
  intro name sent
  refine ⟨fun context now before => ?_, fun script part replace isPart registered state content
    expected now => ?_⟩
  · cases found : gateway.backend name with
    | error failure =>
        have unregistered := (Gateway.backend_recorded_of_error found).1
        exact ⟨Gateway.failure_of_backend found,
          Gateway.run_chatStream_of_unregistered unregistered,
          Gateway.run_chat_of_unregistered unregistered⟩
    | ok selected =>
        have registered := Gateway.backend_recorded found
        cases look : context.interruption? now with
        | some cause =>
            refine ⟨?_, Gateway.run_chat_of_interrupted registered look⟩
            exact (Gateway.run_chatStream_of_registered registered).trans
              (RequestContext.run_guarded_of_interrupted look)
        | none =>
            exact ⟨(Gateway.run_chatStream_answers before found look).events,
              Gateway.run_chat_begins before found look⟩
  · intro arrival
    refine ⟨fun context calm => ?_, ?_⟩
    · have undisturbed := RequestContext.breaksDelay?_eq_none_iff.mpr calm
      have chatted := Gateway.run_chat_scripted isPart registered expected context now
      have streamed := Gateway.run_chatStream_scripted isPart registered expected context now
      rw [undisturbed] at chatted streamed
      rcases chatted with ⟨response, afterChat, ⟨sameContent, sameCounts⟩, chatted⟩
      rcases streamed with ⟨stream, afterStream, rfl, streamed⟩
      refine ⟨response, _, ScriptedBackend.piecesOf content, afterChat, afterStream, chatted,
        streamed, sameContent, sameCounts, ScriptedBackend.join_piecesOf content, ?_⟩
      intro cancelAfter start reader
      rw [ChatStream.run_read_whole, ChatStream.eventsFrom_prepared]
      simp
    · rintro surroundings command rfl rfl outcome
      have streamed : ∀ context : RequestContext,
          (context.interruption? arrival = none →
            context.interruption? (arrival.besideAfter 0) = none) →
          outcome context true =
            match context.breaksDelay? now script.delayNanoseconds with
            | some (_, cause) => ⟨"", some (.model (.interrupted cause))⟩
            | none => ⟨Report.line content, none⟩ := fun context undisturbed =>
        Surroundings.run_chat_streamed isPart registered expected rfl fun unbroken =>
          undisturbed (RequestContext.breaksDelay?_eq_none_iff.mp unbroken)
      have whole : ∀ context : RequestContext,
          outcome context false =
            match context.breaksDelay? now script.delayNanoseconds with
            | some (_, cause) => ⟨"", some (.model (.interrupted cause))⟩
            | none => ⟨Report.line content, none⟩ := fun _ =>
        Surroundings.run_chat_whole isPart registered expected rfl
      have agree : ∀ context : RequestContext,
          (context.interruption? arrival = none →
            context.interruption? (arrival.besideAfter 0) = none) →
          outcome context true = outcome context false := fun context undisturbed =>
        (streamed context undisturbed).trans (whole context).symm
      refine ⟨agree, fun common tenant => ?_⟩
      have undisturbed :=
        CommandLine.undisturbed_context common tenant now script.delayNanoseconds
      refine ⟨agree _ undisturbed, fun calm => ?_⟩
      rw [streamed _ undisturbed, RequestContext.breaksDelay?_eq_none_iff.mpr calm]

def bracketed : ScriptedBackend where
  name := "first"
  replies := [.ok " two  words\n ", .error (.configuration "spent")]
  usage := ⟨1, 2, 9⟩
  delayNanoseconds := 5

def bracketedSurroundings : Surroundings (PipelineState ScriptRecord) where
  gateway :=
    { backends := [bracketed.backend.zoom PipelineState.services PipelineState.withServices]
      defaultBackend := "first"
      fallbackBackend := none
      fallbackModel := none
      defaultModel := some "large"
      retry := .standard }
  store := MemoryStore.vectorStore PipelineState.store PipelineState.withStore
  freshIdentifier := PipelineState.draw .ofNat
  files := fun _ => .error .missing

/-- A text with blanks at both ends and a line feed, and a total that is no sum. -/
theorem streams_and_chats_agree_blanks :
    let gateway := bracketedSurroundings.gateway
    let command : ChatCommand := { prompt := "Hi", model := some "small" }
    let request := Surroundings.chatRequest command
    let sent := request.withDefaultModel gateway.defaultModel
    let state : PipelineState ScriptRecord := ⟨bracketed.record, {}, 0⟩
    let context := CommandLine.context { timeout := some 1 } (.ofNat 1) 0
    gateway.backend (request.backend.getD gateway.defaultBackend) =
      .ok (bracketed.backend.zoom PipelineState.services PipelineState.withServices) ∧
    bracketed.nextOutcome state.services sent = .ok " two  words\n " ∧
    context.interruption? (Moment.after 0 5) = none ∧
    (∃ response stream texts afterChat afterStream,
      Task.run (gateway.chat context request).run 0 state = (.ok response, 10, afterChat) ∧
      Task.run (gateway.chatStream context request).run 0 state =
        (.ok stream, 10, afterStream) ∧
      response.content = " two  words\n " ∧ response.usage = ⟨1, 2, 9⟩ ∧
      String.join texts = " two  words\n " ∧
      (Task.run (stream.read none none) 0 state).1 =
        ⟨texts.map .delta ++ [.done ⟨1, 2, 9⟩], true⟩) ∧
    (Task.run (bracketedSurroundings.run context (.chat { command with stream := true })) 0
      state).1 = ⟨" two  words\n \n", none⟩ := by
  intro gateway command request sent state context
  have registered : gateway.backend (request.backend.getD gateway.defaultBackend) =
      .ok (bracketed.backend.zoom PipelineState.services PipelineState.withServices) := rfl
  have expected : bracketed.nextOutcome state.services sent = .ok " two  words\n " := rfl
  have calm : context.interruption? (Moment.after 0 5) = none := by decide
  rcases (streams_and_chats_agree gateway request).2 bracketed _ _ PipelineState.services_isPart
    registered state _ expected 0 with ⟨replies, commands⟩
  rcases replies context calm with ⟨response, stream, texts, afterChat, afterStream, chatted,
    streamed, sameContent, sameCounts, joined, told⟩
  refine ⟨registered, expected, calm, ⟨response, stream, texts, afterChat, afterStream, chatted,
    streamed, sameContent, sameCounts, joined, told none 0 state⟩, ?_⟩
  exact ((commands bracketedSurroundings command rfl rfl).2 { timeout := some 1 } (.ofNat 1)).2 calm

end GroundedAnswers
