import GroundedAnswers.Proofs.Gateway.FirstCall
import GroundedAnswers.Proofs.Retrieval.Embedding
import GroundedAnswers.Proofs.Service.Embeddings

namespace GroundedAnswers

/-! Batches of texts that a backend embeds one after another, until one of them goes wrong: what
each call comes to, on its own and under the context, and how far they get together. -/

/-! ## Calls one after another -/

/-- A backend that is asked for embeddings again and again, each time where the last call ended. -/
structure BatchSeries (σ : Type) where
  backend : Backend σ
  context : RequestContext
  request : Nat → EmbeddingRequest
  start : Moment
  state : σ

namespace BatchSeries

def task (series : BatchSeries σ) (index : Nat) : ModelTask σ EmbeddingResponse :=
  series.backend.embed series.context (series.request index)

def begins (series : BatchSeries σ) : Nat → Moment × σ
  | 0 => (series.start, series.state)
  | index + 1 =>
      (Task.run (series.task index).run (series.begins index).1 (series.begins index).2).2

def reply (series : BatchSeries σ) (index : Nat) :
    Except ModelFailure EmbeddingResponse × Moment × σ :=
  Task.run (series.task index).run (series.begins index).1 (series.begins index).2

def outcome (series : BatchSeries σ) (index : Nat) : Except ModelFailure EmbeddingResponse :=
  (series.reply index).1

def waits (series : BatchSeries σ) (index : Nat) : List Moment :=
  Task.waits (series.task index).run (series.begins index).1 (series.begins index).2

/-- Neither when a call begins nor by any moment that it waits for is there an interruption. -/
def Timely (series : BatchSeries σ) (index : Nat) : Prop :=
  series.context.interruption? (series.begins index).1 = none ∧
    ∀ wake ∈ series.waits index, series.context.interruption? wake = none

/-- A call is answered in time with as many vectors as there are texts. -/
def Complete (series : BatchSeries σ) (index : Nat) : Prop :=
  series.Timely index ∧ ∃ response, series.outcome index = .ok response ∧
    response.embeddings.length = (series.request index).inputs.length

def vectors (series : BatchSeries σ) (index : Nat) : List Vector32 :=
  match series.outcome index with
  | .ok response => response.embeddings
  | .error _ => []

def asked (series : BatchSeries σ) (index : Nat) : BackendEvent :=
  .asked (series.begins index).1 series.backend.name (.embedding (series.request index))

def callEvents (series : BatchSeries σ) (index : Nat) : List BackendEvent :=
  [series.asked index, .replied (series.reply index).2.1 series.backend.name
    (.embedding (series.request index) (series.outcome index))]

def events (series : BatchSeries σ) (first count : Nat) : List BackendEvent :=
  (List.range' first count).flatMap series.callEvents

end BatchSeries

/-! ## One call -/

section Recording

variable {name : String} {question : Question} {reply : Except ModelFailure α → Reply}
  {task : ModelTask σ α} {context : RequestContext} {now : Moment} {recorded : Recorded σ}

private theorem waits_recording :
    Task.waits (recording name question reply task).run now recorded =
      Task.waits task.run now recorded.state := by
  change Progress.waits (((task now recorded.state).zoom Recorded.state Recorded.withState
    (recorded.note (.asked now name question))).andThen _ now) = _
  rw [Progress.waits_andThen, Progress.waits_zoom Recorded.isPart]
  exact List.append_nil _

/-- A call that is dropped leaves its question in the log. -/
theorem run_guard_recording_of_late (calm : context.interruption? now = none) {wake : Moment}
    (awaited : wake ∈ Task.waits task.run now recorded.state)
    (late : (context.interruption? wake).isSome) :
    ∃ stop cause after, context.stopsAt? = some stop ∧ context.interruption? stop = some cause ∧
      after.events = recorded.events ++ [.asked now name question] ∧
      Task.run (context.guard (recording name question reply task)).run now recorded =
        (.error (.interrupted cause), stop, after) := by
  let keeps (after : Recorded σ) : Prop :=
    after.events = recorded.events ++ [.asked now name question]
  have unnoticed : ∀ (state : σ) (after : Recorded σ), keeps after →
      keeps (after.withState state) := fun _ _ kept => kept
  have noted : keeps (recorded.note (.asked now name question)) := rfl
  have worked := Gateway.recording_keeps unnoticed noted reply task
  exact RequestContext.run_guarded_of_late calm worked (waits_recording ▸ awaited) late

end Recording

namespace BatchSeries

variable (series : BatchSeries σ) (index : Nat) (before : List BackendEvent)

def recordedTask : ModelTask (Recorded σ) EmbeddingResponse :=
  series.backend.recorded.embed series.context (series.request index)

private theorem waits_recordedTask :
    Task.waits (series.recordedTask index).run (series.begins index).1
      ⟨(series.begins index).2, before⟩ = series.waits index :=
  waits_recording

private theorem run_recordedTask :
    Task.run (series.recordedTask index).run (series.begins index).1
        ⟨(series.begins index).2, before⟩ =
      (series.outcome index, (series.begins (index + 1)).1,
        ⟨(series.begins (index + 1)).2, before ++ series.callEvents index⟩) :=
  run_recording _ _ _ _ _ _

private theorem run_guard_recordedTask_of_late {series : BatchSeries σ} {index : Nat}
    (calm : series.context.interruption? (series.begins index).1 = none) {wake : Moment}
    (awaited : wake ∈ series.waits index) (late : (series.context.interruption? wake).isSome)
    (before : List BackendEvent) :
    ∃ stop cause after, series.context.stopsAt? = some stop ∧
      series.context.interruption? stop = some cause ∧
      after.events = before ++ [series.asked index] ∧
      Task.run (series.context.guard (series.recordedTask index)).run (series.begins index).1
          ⟨(series.begins index).2, before⟩ =
        (.error (.interrupted cause), stop, after) := by
  have awaitedInside : wake ∈ Task.waits (series.task index).run (series.begins index).1
      (Recorded.mk (series.begins index).2 before).state := awaited
  exact run_guard_recording_of_late calm awaitedInside late

/-- The rows that an OpenAI service lists in its response to a call. -/
def Lists (endpoint : Endpoint σ) (rows : List OpenAi.Row) : Prop :=
  ∃ tokens, (Task.run (OpenAi.listed endpoint (series.request index)).run (series.begins index).1
    (series.begins index).2).1 = .ok (rows, tokens)

theorem outcome_of_lists {series : BatchSeries σ} {index : Nat} {endpoint : Endpoint σ}
    (serves : series.backend = OpenAi.backend endpoint) {rows : List OpenAi.Row}
    (lists : series.Lists index endpoint rows) :
    ∃ response, series.outcome index = .ok response ∧
      response.embeddings = OpenAi.ordered rows := by
  rcases lists with ⟨tokens, listed⟩
  refine ⟨OpenAi.responseTo (series.request index) (rows, tokens), ?_, rfl⟩
  rw [outcome, reply, task, serves, OpenAi.run_embed]
  dsimp only
  rw [listed]
  rfl

theorem complete_of_lists {series : BatchSeries σ} {index : Nat} {endpoint : Endpoint σ}
    (serves : series.backend = OpenAi.backend endpoint) (timely : series.Timely index)
    {rows : List OpenAi.Row} (lists : series.Lists index endpoint rows)
    (numbered : OpenAi.Numbered rows (series.request index).inputs.length) :
    series.Complete index := by
  rcases outcome_of_lists serves lists with ⟨response, answered, inOrder⟩
  refine ⟨timely, response, answered, ?_⟩
  rw [inOrder, numbered.length_ordered]

end BatchSeries

namespace GatewayEmbedder

def settled (batch : Nat) (inputs : List String) :
    Except ModelFailure EmbeddingResponse → Except RetrievalFailure (List Vector32)
  | .error (.interrupted cause) => .error (.interrupted cause)
  | .error failure => .error (.embeddingBatch batch failure)
  | .ok response =>
      if response.embeddings.length = inputs.length then .ok response.embeddings
      else .error (.vectorCount batch inputs.length response.embeddings.length)

theorem run_embedBatch (embedder : GatewayEmbedder σ) (context : RequestContext) (batch : Nat)
    {inputs : List String} {now moment : Moment} {state after : σ}
    {outcome : Except ModelFailure EmbeddingResponse}
    (answered : Task.run (embedder.gateway.embed context
      ⟨embedder.backend, embedder.model, inputs⟩).run now state = (outcome, moment, after)) :
    Task.run (embedder.embedBatch context batch inputs).run now state =
      (settled batch inputs outcome, moment, after) := by
  unfold embedBatch
  rw [Task.run_bind_lift answered]
  cases outcome with
  | error failure => cases failure <;> rfl
  | ok response =>
      unfold settled
      dsimp only
      split <;> rfl

private theorem settled_priced (batch : Nat) (inputs : List String)
    (outcome : Except ModelFailure EmbeddingResponse) :
    settled batch inputs (outcome.map Gateway.priced) = settled batch inputs outcome := by
  cases outcome with
  | error failure => cases failure <;> rfl
  | ok response => rfl

/-- The same embedder over a gateway that records its calls. -/
def recorded (embedder : GatewayEmbedder σ) : GatewayEmbedder (Recorded σ) where
  gateway := embedder.gateway.recorded
  model := embedder.model
  backend := embedder.backend
  batchSize := embedder.batchSize

section Asking

variable {embedder : GatewayEmbedder σ} {series : BatchSeries σ} {inputs : Nat → List String}
  (asks : ∀ index, series.request index = ⟨embedder.backend, embedder.model, inputs index⟩)

include asks

private theorem settled_of_complete {index : Nat} (complete : series.Complete index) :
    settled index (inputs index) (series.outcome index) = .ok (series.vectors index) := by
  rcases complete.2 with ⟨response, outcome, count⟩
  rw [asks index] at count
  rw [BatchSeries.vectors, outcome]
  exact if_pos count

variable (registered : embedder.gateway.backend
  (embedder.backend.getD embedder.gateway.defaultBackend) = .ok series.backend)

include registered

private theorem run_embedBatch_recorded (index : Nat) (now : Moment) (recorded : Recorded σ) :
    Task.run (embedder.recorded.embedBatch series.context index (inputs index)).run now recorded =
      let (outcome, reached) :=
        Task.run (series.context.guard (series.recordedTask index)).run now recorded
      (settled index (inputs index) outcome, reached) := by
  let request : EmbeddingRequest := ⟨embedder.backend, embedder.model, inputs index⟩
  have selected : embedder.gateway.recorded.backend
      (request.backend.getD embedder.gateway.recorded.defaultBackend) =
        .ok series.backend.recorded := Gateway.backend_recorded registered
  have priced := Gateway.run_embed_of_registered selected series.context now recorded
  rcases answered : Task.run (series.context.guard (series.recordedTask index)).run now recorded with
    ⟨outcome, reached⟩
  rw [BatchSeries.recordedTask, asks index] at answered
  rw [answered] at priced
  rw [run_embedBatch embedder.recorded series.context index priced]
  dsimp only
  rw [settled_priced]

theorem run_embedBatch_of_timely {index : Nat} (timely : series.Timely index)
    (before : List BackendEvent) :
    Task.run (embedder.recorded.embedBatch series.context index (inputs index)).run
        (series.begins index).1 ⟨(series.begins index).2, before⟩ =
      (settled index (inputs index) (series.outcome index), (series.begins (index + 1)).1,
        ⟨(series.begins (index + 1)).2, before ++ series.callEvents index⟩) := by
  have inTime := timely.2
  rw [← series.waits_recordedTask index before] at inTime
  rw [run_embedBatch_recorded asks registered, RequestContext.guard,
    RequestContext.run_guarded_of_timely timely.1 inTime, series.run_recordedTask]

theorem run_embedBatch_of_interrupted {index : Nat} {cause : Interruption}
    (look : series.context.interruption? (series.begins index).1 = some cause)
    (before : List BackendEvent) :
    Task.run (embedder.recorded.embedBatch series.context index (inputs index)).run
        (series.begins index).1 ⟨(series.begins index).2, before⟩ =
      (.error (.interrupted cause), (series.begins index).1,
        ⟨(series.begins index).2, before⟩) := by
  rw [run_embedBatch_recorded asks registered, RequestContext.guard,
    RequestContext.run_guarded_of_interrupted look]
  rfl

theorem run_embedBatch_of_late {index : Nat}
    (calm : series.context.interruption? (series.begins index).1 = none) {wake : Moment}
    (awaited : wake ∈ series.waits index)
    (late : (series.context.interruption? wake).isSome) (before : List BackendEvent) :
    ∃ stop cause after, series.context.stopsAt? = some stop ∧
      series.context.interruption? stop = some cause ∧
      after.events = before ++ [series.asked index] ∧
      Task.run (embedder.recorded.embedBatch series.context index (inputs index)).run
          (series.begins index).1 ⟨(series.begins index).2, before⟩ =
        (.error (.interrupted cause), stop, after) := by
  rcases BatchSeries.run_guard_recordedTask_of_late calm awaited late before with
    ⟨stop, cause, after, stops, look, noted, dropped⟩
  refine ⟨stop, cause, after, stops, look, noted, ?_⟩
  rw [run_embedBatch_recorded asks registered, dropped]
  rfl

theorem run_embedBatches_of_complete {blocks : List (List String)}
    (inOrder : ∀ index, blocks[index]?.getD [] = inputs index) {first remaining : Nat}
    (inside : first + remaining ≤ blocks.length)
    (complete : ∀ index, first ≤ index → index < first + remaining → series.Complete index)
    (before : List BackendEvent) :
    Task.run (embedder.recorded.embedBatches series.context first (blocks.drop first)).run
        (series.begins first).1 ⟨(series.begins first).2, before⟩ =
      let next := first + remaining
      let (answer, reached) := Task.run (embedder.recorded.embedBatches series.context next
        (blocks.drop next)).run (series.begins next).1
          ⟨(series.begins next).2, before ++ series.events first remaining⟩
      (answer.map ((List.range' first remaining).flatMap series.vectors ++ ·), reached) := by
  induction remaining generalizing first before with
  | zero =>
      simp only [Nat.add_zero, List.range'_zero, List.flatMap_nil, List.nil_append,
        BatchSeries.events, List.append_nil]
      rcases Task.run (embedder.recorded.embedBatches series.context first
        (blocks.drop first)).run (series.begins first).1 ⟨(series.begins first).2, before⟩ with
        ⟨answer, reached⟩
      cases answer <;> rfl
  | succ remaining induction =>
      have more : first < blocks.length := by omega
      have head : blocks[first] = inputs first := by
        rw [← inOrder first, List.getElem?_eq_getElem more]
        rfl
      have one := complete first (Nat.le_refl first) (by omega)
      have asked := run_embedBatch_of_timely asks registered one.1 before
      rw [settled_of_complete asks one] at asked
      have insideRest : first + 1 + remaining ≤ blocks.length := by omega
      have others := induction insideRest
        (fun index after early => complete index (by omega) (by omega))
        (before ++ series.callEvents first)
      have next : first + (remaining + 1) = first + 1 + remaining := by omega
      rw [List.drop_eq_getElem_cons more, head, embedBatches, Task.run_bind_of_ok asked, next]
      simp only [BatchSeries.events, List.range'_succ, List.flatMap_cons, ← List.append_assoc]
        at others ⊢
      rcases rest : Task.run (embedder.recorded.embedBatches series.context (first + 1 + remaining)
        (blocks.drop (first + 1 + remaining))).run (series.begins (first + 1 + remaining)).1
          ⟨(series.begins (first + 1 + remaining)).2, before ++ series.callEvents first ++
            (List.range' (first + 1) remaining).flatMap series.callEvents⟩ with ⟨answer, reached⟩
      rw [rest] at others
      cases answer with
      | error failure => exact Task.run_bind_of_error others _
      | ok vectors =>
          rw [Task.run_bind_of_ok others]
          simp only [Except.map, List.append_assoc]
          rfl

/-- A batch that fails after complete ones is the last, and its failure is the answer. -/
theorem run_embedBatches_of_failed {blocks : List (List String)}
    (inOrder : ∀ index, blocks[index]?.getD [] = inputs index) {bad : Nat}
    (inside : bad < blocks.length) (complete : ∀ index < bad, series.Complete index)
    {before : List BackendEvent} {failure : RetrievalFailure} {moment : Moment} {after : Recorded σ}
    (failed : Task.run (embedder.recorded.embedBatch series.context bad (inputs bad)).run
      (series.begins bad).1 ⟨(series.begins bad).2, before ++ series.events 0 bad⟩ =
        (.error failure, moment, after)) :
    Task.run (embedder.recorded.embedBatches series.context 0 blocks).run series.start
      ⟨series.state, before⟩ = (.error failure, moment, after) := by
  have reached : 0 + bad ≤ blocks.length := by omega
  have earlier := run_embedBatches_of_complete asks registered inOrder reached
    (fun index _ early => complete index (by omega)) before
  have head : blocks[bad] = inputs bad := by
    rw [← inOrder bad, List.getElem?_eq_getElem inside]
    rfl
  have rest : Task.run (embedder.recorded.embedBatches series.context bad (blocks.drop bad)).run
      (series.begins bad).1 ⟨(series.begins bad).2, before ++ series.events 0 bad⟩ =
        (.error failure, moment, after) := by
    rw [List.drop_eq_getElem_cons inside, head, embedBatches]
    exact Task.run_bind_of_error failed _
  simp only [Nat.zero_add, rest] at earlier
  exact earlier

end Asking

end GatewayEmbedder

end GroundedAnswers
