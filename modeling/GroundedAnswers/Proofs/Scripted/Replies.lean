import GroundedAnswers.Proofs.Stream.Reading
import GroundedAnswers.Proofs.Task.Waits
import GroundedAnswers.Proofs.Task.Zoom
import GroundedAnswers.Scripted.Backend

namespace GroundedAnswers

/-! The reply of a scripted backend as a whole and as a stream. Both come after one and the same
wait, and the pieces of the stream make up the whole. -/

/-! ## Work behind a wait -/

namespace RequestContext

def breaksDelay? (context : RequestContext) (now : Moment) (nanoseconds : Nat) :
    Option (Moment × Interruption) :=
  match context.interruption? now with
  | some cause => some (now, cause)
  | none =>
      if now.after nanoseconds ≤ now then none else context.breaks? (now.after nanoseconds)

variable {context : RequestContext} {now : Moment} {nanoseconds : Nat}

theorem breaksDelay?_eq_none_iff :
    context.breaksDelay? now nanoseconds = none ↔
      context.interruption? (now.after nanoseconds) = none := by
  have order := Moment.le_after now nanoseconds
  cases look : context.interruption? now with
  | some cause =>
      have later := isSome_interruption?_of_le order (Option.isSome_of_eq_some look)
      simp [breaksDelay?, look, Option.ne_none_iff_isSome.mpr later]
  | none =>
      by_cases come : now.after nanoseconds ≤ now
      · rw [Nat.le_antisymm come order]
        simp [breaksDelay?, look, come]
      · simp [breaksDelay?, look, come, breaks?_eq_none_iff]

private theorem run_guarded_delayed (interrupted : Interruption → ε)
    (rest : Unit → ExceptT ε (Task σ) α) (state : σ) :
    Task.run (context.guarded interrupted
        (ExceptT.lift (Task.delay nanoseconds) >>= rest)).run now state =
      match context.breaksDelay? now nanoseconds with
      | some (stop, cause) => (.error (interrupted cause), stop, state)
      | none =>
          Task.run (context.guarded interrupted (rest ())).run (now.after nanoseconds) state := by
  change Progress.run now (context.guarded interrupted _ now state) = _
  cases look : context.interruption? now with
  | some cause => simp [breaksDelay?, RequestContext.guarded, look, Progress.run]
  | none =>
      have waits : (ExceptT.lift (Task.delay nanoseconds) >>= rest) now state =
          if now.after nanoseconds ≤ now then rest () now state
          else .waiting (now.after nanoseconds) state (rest () (now.after nanoseconds)) := by
        change ((Task.waitUntil (now.after nanoseconds) now state).andThen _ now).andThen _ now = _
        unfold Task.waitUntil
        split <;> rfl
      simp only [breaksDelay?, RequestContext.guarded, look, waits]
      by_cases come : now.after nanoseconds ≤ now
      · have same := Nat.le_antisymm come (Moment.le_after now nanoseconds)
        simp only [same, Nat.le_refl, if_true]
        change _ = Progress.run now (context.guarded interrupted (rest ()) now state)
        rw [RequestContext.guarded, look]
      · simp only [come, if_false, Progress.under]
        cases broken : context.breaks? (now.after nanoseconds) with
        | some stop => rfl
        | none =>
            have calm := breaks?_eq_none_iff.mp broken
            change _ = Progress.run _ (context.guarded interrupted (rest ()) _ state)
            rw [RequestContext.guarded, calm]
            rfl

end RequestContext

/-- Work that waits first, and then succeeds at once with a value that fits unless it is
interrupted. -/
def SucceedsAfter (context : RequestContext) (nanoseconds : Nat) (ready : σ → Prop)
    (fits : α → Prop) (task : ModelTask σ α) : Prop :=
  ∃ rest : Unit → ModelTask σ α,
    task = ExceptT.lift (Task.delay nanoseconds) >>= rest ∧
    ∀ now state, context.interruption? now = none → ready state →
      ∃ value after, rest () now state = .finished (.ok value) after ∧ fits value

namespace SucceedsAfter

variable {context : RequestContext} {nanoseconds : Nat} {ready : σ → Prop} {fits : α → Prop}
  {task : ModelTask σ α}

theorem zoom {part : τ → σ} {replace : σ → τ → τ} (isPart : Task.IsPart part replace)
    (succeeds : SucceedsAfter context nanoseconds ready fits task) :
    SucceedsAfter context nanoseconds (fun whole => ready (part whole)) fits
      (Task.zoomFailing part replace task) := by
  rcases succeeds with ⟨rest, rfl, finishes⟩
  refine ⟨fun _ => Task.zoomFailing part replace (rest ()), ?_, fun now whole calm holds => ?_⟩
  · rw [Task.zoomFailing_bind isPart, Task.zoomFailing_lift isPart, Task.zoom_delay isPart]
  · rcases finishes now (part whole) calm holds with ⟨value, after, finished, fitting⟩
    refine ⟨value, replace after whole, ?_, fitting⟩
    change (rest () now (part whole)).zoom part replace whole = _
    rw [finished]
    rfl

theorem run_guard (succeeds : SucceedsAfter context nanoseconds ready fits task) (now : Moment)
    {state : σ} (holds : ready state) :
    match context.breaksDelay? now nanoseconds with
    | some (stop, cause) =>
        Task.run (context.guard task).run now state = (.error (.interrupted cause), stop, state)
    | none => ∃ value after, fits value ∧
        Task.run (context.guard task).run now state =
          (.ok value, now.after nanoseconds, after) := by
  rcases succeeds with ⟨rest, rfl, finishes⟩
  have ran : Task.run (context.guard (ExceptT.lift (Task.delay nanoseconds) >>= rest)).run now state =
      match context.breaksDelay? now nanoseconds with
      | some (stop, cause) => (.error (.interrupted cause), stop, state)
      | none => Task.run (context.guard (rest ())).run (now.after nanoseconds) state :=
    RequestContext.run_guarded_delayed ModelFailure.interrupted rest state
  cases broken : context.breaksDelay? now nanoseconds with
  | some stop => exact ran.trans (by rw [broken])
  | none =>
      have calm := RequestContext.breaksDelay?_eq_none_iff.mp broken
      rcases finishes (now.after nanoseconds) state calm holds with
        ⟨value, after, finished, fitting⟩
      refine ⟨value, after, fitting, ran.trans ?_⟩
      rw [broken]
      change Progress.run _ (context.guarded _ (rest ()) _ state) = _
      rw [Task.guarded_of_finished finished, calm]
      rfl

end SucceedsAfter

/-! ## Replies -/

namespace ScriptedBackend

def nextOutcome (script : ScriptedBackend) (record : ScriptRecord) (request : ChatRequest) :
    Except ModelFailure String :=
  if script.failing then .error script.fault
  else
    match record.replies with
    | reply :: _ => reply
    | [] => script.ruledReply request

variable {script : ScriptedBackend} {record : ScriptRecord} {request : ChatRequest}
  {content : String} {context : RequestContext} {now : Moment}

private theorem nextReply_finishes (expected : script.nextOutcome record request = .ok content)
    (now : Moment) :
    ∃ after, script.nextReply request now record = .finished (.ok content) after := by
  unfold nextOutcome at expected
  unfold nextReply
  cases failing : script.failing with
  | true => simp [failing] at expected
  | false =>
      rcases record with ⟨chats, streams, embeddings, requests, embeddingRequests, actions, replies⟩
      simp only [failing, Bool.false_eq_true, if_false] at expected
      cases replies with
      | nil => exact ⟨_, congrArg (Progress.finished · _) expected⟩
      | cons reply others => exact ⟨_, congrArg (Progress.finished · _) expected⟩

private theorem bind_modify (change : σ → σ) (next : PUnit → ModelTask σ α) (now : Moment)
    (state : σ) :
    ((modify change : ModelTask σ PUnit) >>= next) now state = next ⟨⟩ now (change state) := rfl

private theorem bind_look (calm : context.interruption? now = none) (state : σ)
    (next : Unit → ModelTask σ α) :
    (context.guard (pure ()) >>= next) now state = next () now state := by
  have looked : (pure () : ModelTask σ Unit) now state = .finished (.ok ()) state := rfl
  refine (Task.bind_guarded_of_finished looked context ModelFailure.interrupted next).trans ?_
  rw [calm]

theorem chat_succeeds (script : ScriptedBackend) (context : RequestContext) (request : ChatRequest)
    (content : String) :
    SucceedsAfter context script.delayNanoseconds
      (fun record => script.nextOutcome record request = .ok content)
      (fun response => response.content = content ∧ response.usage = script.usage)
      (script.chat context request) := by
  refine ⟨_, rfl, fun now record calm expected => ?_⟩
  let asked : ScriptRecord :=
    { record with chats := record.chats + 1, requests := record.requests ++ [request] }
  have expected' : script.nextOutcome asked request = .ok content := expected
  rcases nextReply_finishes expected' now with ⟨after, replied⟩
  dsimp only
  rw [bind_modify, bind_look calm, Task.bind_of_finished replied]
  exact ⟨_, after, rfl, rfl, rfl⟩

theorem chatStream_succeeds (script : ScriptedBackend) (context : RequestContext)
    (request : ChatRequest) (content : String) :
    SucceedsAfter context script.delayNanoseconds
      (fun record => script.nextOutcome record request = .ok content)
      (fun stream =>
        stream = ⟨{ watched := none, usage := script.usage },
          [.frames ((piecesOf content).map .delta)], []⟩)
      (script.chatStream context request) := by
  refine ⟨_, rfl, fun now record calm expected => ?_⟩
  let asked : ScriptRecord :=
    { record with streams := record.streams + 1, requests := record.requests ++ [request] }
  have expected' : script.nextOutcome asked request = .ok content := expected
  rcases nextReply_finishes expected' now with ⟨after, replied⟩
  dsimp only
  rw [bind_modify, bind_look calm, Task.bind_of_finished replied]
  exact ⟨_, after, rfl, rfl⟩

theorem join_piecesOf (content : String) : String.join (piecesOf content) = content := by
  apply String.toList_injective
  simp [piecesOf, List.flatMap_map, List.flatMap_id']

end ScriptedBackend

namespace ChatStream

private theorem Writer.frames_deltas (writer : Writer) (texts : List String) :
    ∃ last, writer.frames (texts.map .delta) =
        (texts.map fun text => ⟨writer.now, .delta text⟩, some last) ∧
      last.now = writer.now ∧ last.usage = writer.usage := by
  induction texts generalizing writer with
  | nil => exact ⟨writer, rfl, rfl, rfl⟩
  | cons text texts induction =>
      rcases induction writer.afterSending with ⟨last, sent, sameTime, sameCounts⟩
      refine ⟨last, ?_, sameTime, sameCounts⟩
      change (writer.timed (.delta text) :: (writer.afterSending.frames (texts.map .delta)).1,
        (writer.afterSending.frames (texts.map .delta)).2) = _
      rw [sent]
      rfl

/-- Texts and counts that are known from the start are told in the first turn of the reader. -/
theorem eventsFrom_prepared (usage : Usage) (texts : List String) (start : Moment)
    (cancelAfter : Option Nat) :
    (ChatStream.mk { watched := none, usage } [.frames (texts.map .delta)] []).eventsFrom start
        cancelAfter =
      (texts.map StreamEvent.delta ++ [StreamEvent.done usage]).map (⟨start.besideAfter 0, ·⟩) := by
  let writer : Writer := { cancelAfter, now := start.besideAfter 0, sent := 0, read := 0, usage }
  rcases writer.frames_deltas texts with ⟨last, sent, sameTime, sameCounts⟩
  change writer.events none [] [.frames (texts.map .delta)] = _
  have ended : last.frames [.done] = ([⟨start.besideAfter 0, .done usage⟩], none) := by
    change ([(⟨last.now, .done last.usage⟩ : TimedEvent)], none) = _
    rw [sameTime, sameCounts]
  simp [Writer.events, Writer.interruption?, sent, ended, writer]

end ChatStream

end GroundedAnswers
