import GroundedAnswers.Gateway.Draft
import GroundedAnswers.Proofs.Gateway.Attempts
import GroundedAnswers.Proofs.Gateway.Drafts

namespace GroundedAnswers

/-! The budget of a chat: which backends it asks, how often and what, and whose outcome it hands
out. -/

namespace Gateway

private theorem exists_fallback_of_build {draft : GatewayDraft σ} {gateway : Gateway σ}
    (built : draft.build = .ok gateway) {name : String}
    (configured : gateway.fallbackBackend = some name) :
    ∃ fallback, find? gateway.backends name = some fallback := by
  rcases GatewayDraft.build_eq_ok_iff.mp built with ⟨-, -, fallbacks, whole⟩
  rw [whole] at configured ⊢
  exact Option.isSome_iff_exists.mp (fallbacks name configured)

/-! ## The two series of a chat -/

def firstSeries (gateway : Gateway σ) (context : RequestContext) (request : ChatRequest)
    (selected : Backend σ) (now : Moment) (state : σ) : Series σ :=
  let model := if request.model = "" then gateway.defaultModel.getD "" else request.model
  ⟨gateway.retry, context, selected, { request with model }, now, state⟩

def secondSeries (gateway : Gateway σ) (first : Series σ) (fallback : Backend σ) : Series σ :=
  { first with
    backend := fallback
    request := { first.request with
      backend := some fallback.name
      model := gateway.fallbackModel.getD first.request.model }
    start := (first.attempt first.last).2.1
    state := (first.attempt first.last).2.2 }

private theorem run_chatWithRetries {gateway : Gateway σ} (series : Series σ)
    (calm : series.context.Calm) (policy : series.policy = gateway.retry)
    (uninterrupted : series.Uninterrupted) (before : List BackendEvent) :
    Task.run (gateway.recorded.chatWithRetries series.context series.backend.recorded
        series.request).run series.start ⟨series.state, before⟩ =
      (series.verdict, (series.attempt series.last).2.1,
        ⟨(series.attempt series.last).2.2, before ++ series.events 0 series.count⟩) := by
  have whole := Series.run_attempts calm uninterrupted (Nat.zero_le _) before
  rw [policy] at whole
  exact whole

/-- A built gateway goes from a selected backend to the fallback, unless that is the same one. -/
theorem exists_alternative {draft : GatewayDraft σ} {gateway : Gateway σ}
    (built : draft.build = .ok gateway) {name other : String}
    (configured : gateway.fallbackBackend.filter (· ≠ name) = some other) :
    ∃ fallback, find? gateway.backends other = some fallback ∧ fallback.name = other ∧
      gateway.recorded.fallbackFor? name = some fallback.recorded := by
  have isFallback := (Option.filter_eq_some_iff.mp configured).1
  rcases exists_fallback_of_build built isFallback with ⟨fallback, found⟩
  refine ⟨fallback, found, name_of_find? found, ?_⟩
  rw [fallbackFor?_recorded, configured, Option.bind_some, found]
  rfl

/-! ## The whole chat -/

/-- A chat asks the selected backend up to its first outcome that is a success or cannot be mended,
and at most once more than there are retries, with one and the same request. A success is the
answer. After a failure the fallback is asked in the same way, if there is one and it is not the
selected backend. A failure of whichever is asked last carries the number of attempts and the last
cause. -/
theorem chat_keeps_budget {draft : GatewayDraft σ} {gateway : Gateway σ}
    (built : draft.build = .ok gateway)
    (bounded : gateway.retry.maxRetries.toNat < UInt32.size - 1)
    {context : RequestContext} (calm : context.Calm) (request : ChatRequest) {selected : Backend σ}
    (registered : gateway.backend (request.backend.getD gateway.defaultBackend) = .ok selected)
    (now : Moment) (before : Recorded σ)
    (uninterrupted :
      (gateway.firstSeries context request selected now before.state).Uninterrupted)
    (uninterruptedFallback : ∀ fallback ∈ gateway.backends,
      (gateway.secondSeries (gateway.firstSeries context request selected now before.state)
        fallback).Uninterrupted) :
    let name := request.backend.getD gateway.defaultBackend
    let model := if request.model = "" then gateway.defaultModel.getD "" else request.model
    let sent := { request with model }
    let first := gateway.firstSeries context request selected now before.state
    let (answer, _, after) := Task.run (gateway.recorded.chat context request).run now before
    let asked := List.replicate first.count (name, Question.chat sent)
    match first.outcome first.last with
    | .ok original =>
        (∃ response, answer = .ok response ∧
          HandsOut name sent (first.latency first.last) original response) ∧
        BackendEvent.questions after.events = BackendEvent.questions before.events ++ asked
    | .error failure =>
        match gateway.fallbackBackend.filter (· ≠ name) with
        | none =>
            (∃ attempts : UInt32, attempts.toNat = first.count ∧
              answer = .error (.exhausted name attempts failure)) ∧
            BackendEvent.questions after.events = BackendEvent.questions before.events ++ asked
        | some other => ∃ fallback, gateway.backend other = .ok fallback ∧
            let second := gateway.secondSeries first fallback
            let resent := { request with
              backend := some other
              model := gateway.fallbackModel.getD model }
            BackendEvent.questions after.events =
              BackendEvent.questions before.events ++ asked ++
                List.replicate second.count (other, Question.chat resent) ∧
            match second.outcome second.last with
            | .ok original => ∃ response, answer = .ok response ∧
                HandsOut other resent (second.latency second.last) original response
            | .error failure => ∃ attempts : UInt32, attempts.toNat = second.count ∧
                answer = .error (.exhausted other attempts failure) := by
  intro name model sent first
  have named : selected.name = name := name_of_find? ((backend_eq_ok_iff _ _ _).mp registered)
  have registered' := backend_recorded registered
  have whole : Task.run (gateway.recorded.chatWithRetries context selected.recorded
      (request.withDefaultModel gateway.recorded.defaultModel)).run now before =
        (first.verdict, (first.attempt first.last).2.1,
          ⟨(first.attempt first.last).2.2, before.events ++ first.events 0 first.count⟩) := by
    rw [ChatRequest.withDefaultModel_eq]
    exact run_chatWithRetries first calm rfl uninterrupted before.events
  have asked : BackendEvent.questions (before.events ++ first.events 0 first.count) =
      BackendEvent.questions before.events ++
        List.replicate first.count (name, Question.chat sent) := by
    rw [BackendEvent.questions_append, first.questions_events, ← named]
    rfl
  cases outcome : first.outcome first.last with
  | ok original =>
      have verdict : first.verdict =
          .ok (completed name sent (first.latency first.last) original) := by
        rw [Series.verdict_of_ok outcome, ← named]
        rfl
      rw [verdict] at whole
      rw [run_chat_of_ok registered' whole]
      exact ⟨⟨_, rfl, completed_handsOut _ _ _ _⟩, asked⟩
  | error failure =>
      have verdict : first.verdict = .error (.exhausted name first.count.toUInt32 failure) := by
        rw [Series.verdict_of_error outcome, ← named]
        rfl
      rw [verdict] at whole
      cases configured : gateway.fallbackBackend.filter (· ≠ name) with
      | none =>
          have alone : gateway.recorded.fallbackFor? name = none := by
            rw [fallbackFor?_recorded, configured]
            rfl
          rw [run_chat_of_error registered' whole alone]
          exact ⟨⟨_, Series.toNat_count bounded, rfl⟩, asked⟩
      | some other =>
          rcases exists_alternative built configured with ⟨fallback, found, rfl, alternative⟩
          have regular := uninterruptedFallback fallback (List.mem_of_find?_eq_some found)
          let second := gateway.secondSeries first fallback
          have answered : Task.run (gateway.recorded.chat context request).run now before =
              (second.verdict, (second.attempt second.last).2.1,
                ⟨(second.attempt second.last).2.2,
                  before.events ++ first.events 0 first.count ++ second.events 0 second.count⟩) := by
            rw [run_chat_of_fallback registered' whole rfl alternative,
              ChatRequest.withDefaultModel_eq]
            exact run_chatWithRetries second calm rfl regular _
          rw [answered]
          refine ⟨fallback, (backend_eq_ok_iff _ _ _).mpr found, ?_, ?_⟩
          · rw [BackendEvent.questions_append, asked, Series.questions_events]
            rfl
          · have answers := second.answers bounded
            cases last : second.outcome second.last with
            | ok original =>
                rw [last] at answers
                exact ⟨_, answers, completed_handsOut _ _ _ _⟩
            | error failure =>
                rw [last] at answers
                exact answers

/-! ### A backend that recovers -/

def plainAnswer : ChatResponse where
  id := some "answer"
  backend := ""
  model := ""
  content := "yes"
  usage := ⟨1000, 500, 1500⟩
  cost := 99.0
  latencyMilliseconds := 12345

/-- Takes seven and a half milliseconds for each call, refuses the first calls, and then answers. -/
def recovering (name : String) (status : UInt16) (refusals : Nat) : Backend Nat where
  name := name
  models := []
  chat _ _ := do
    ExceptT.lift (Task.delay 7500000)
    let calls ← get
    set (calls + 1)
    if calls < refusals then throw (.refused name status "") else return plainAnswer
  chatStream _ _ := throw (.unsupported name "streams")
  embed _ _ := throw (.unsupported name "embeddings")

def recoveringDraft (refusals : Nat) : GatewayDraft Nat where
  backends := [recovering "first" 503 refusals, recovering "second" 400 refusals]
  defaultBackend := some "first"
  fallbackBackend := some "second"
  fallbackModel := some "gpt-4o"
  defaultModel := some "gpt-4"
  retry := ⟨2, .ofMilliseconds 500⟩

def recoveringGateway (refusals : Nat) : Gateway Nat where
  backends := [recovering "first" 503 refusals, recovering "second" 400 refusals]
  defaultBackend := "first"
  fallbackBackend := some "second"
  fallbackModel := some "gpt-4o"
  defaultModel := some "gpt-4"
  retry := ⟨2, .ofMilliseconds 500⟩

section Recovering

variable {series : Series Nat} {name : String} {status : UInt16} {refusals : Nat}
  (recovers : series.backend = recovering name status refusals)

include recovers

private theorem ask_of_recovering (origin : Moment × Nat) :
    series.ask origin =
      (if origin.2 < refusals then .error (.refused name status "") else .ok plainAnswer,
        origin.1.after 7500000, origin.2 + 1) := by
  unfold Series.ask
  rw [recovers]
  change Task.run (ExceptT.lift (Task.delay 7500000) >>= _).run _ _ = _
  rw [Task.run_bind_lift (Task.run_delay 7500000 origin.1 origin.2)]
  by_cases early : origin.2 < refusals
  · simp only [early, if_true]
    change Task.run (ite (origin.2 < refusals) _ _ : ModelTask Nat ChatResponse).run _ _ = _
    rw [if_pos early]
    rfl
  · simp only [early, if_false]
    change Task.run (ite (origin.2 < refusals) _ _ : ModelTask Nat ChatResponse).run _ _ = _
    rw [if_neg early]
    rfl

private theorem begins_of_recovering (index : Nat) :
    (series.begins index).2 = series.state + index := by
  induction index with
  | zero => rfl
  | succ index induction =>
      rw [Series.begins, ask_of_recovering recovers, induction]
      rfl

private theorem attempt_of_recovering (index : Nat) :
    (series.attempt index).2.2 = series.state + index + 1 := by
  rw [Series.attempt, ask_of_recovering recovers, begins_of_recovering recovers]

private theorem outcome_of_recovering (index : Nat) :
    series.outcome index =
      if series.state + index < refusals then .error (.refused name status "")
      else .ok plainAnswer := by
  rw [Series.outcome, Series.attempt, ask_of_recovering recovers, begins_of_recovering recovers]

private theorem latency_of_recovering (index : Nat) : series.latency index = 7 := by
  rw [Series.latency, Series.attempt, ask_of_recovering recovers, Moment.millisecondsUntil_after]
  rfl

private theorem uninterrupted_of_recovering : series.Uninterrupted := by
  intro index _ cause
  rw [outcome_of_recovering recovers]
  split <;> exact nofun

end Recovering

/-- At the default model, the first backend answers the third call. When it refuses that one too,
the fallback is asked for a model of its own, and a bad request is not repeated. -/
theorem chat_keeps_budget_recovered :
    let context := RequestContext.ofTenant (.ofNat 1)
    let request := ChatRequest.of "" []
    let first (refusals : Nat) :=
      (recoveringGateway refusals).firstSeries context request (recovering "first" 503 refusals) 0 0
    context.Calm ∧
    (∀ refusals,
      GatewayDraft.build (recoveringDraft refusals) = .ok (recoveringGateway refusals) ∧
      (recoveringGateway refusals).retry.maxRetries.toNat < UInt32.size - 1 ∧
      (recoveringGateway refusals).backend "first" = .ok (recovering "first" 503 refusals) ∧
      (first refusals).Uninterrupted ∧
      ∀ fallback ∈ (recoveringGateway refusals).backends,
        ((recoveringGateway refusals).secondSeries (first refusals) fallback).Uninterrupted) ∧
    (let (answer, _, after) :=
        Task.run ((recoveringGateway 2).recorded.chat context request).run 0 ⟨0, []⟩;
      BackendEvent.questions after.events =
        List.replicate 3 ("first", Question.chat { request with model := "gpt-4" }) ∧
      ∃ response, answer = .ok response ∧ response.content = "yes" ∧
        response.usage = ⟨1000, 500, 1500⟩ ∧ response.backend = "first" ∧
        response.model = "gpt-4" ∧ response.cost = estimateCost "gpt-4" 1000 500 ∧
        response.latencyMilliseconds = 7) ∧
    (let (answer, _, after) :=
        Task.run ((recoveringGateway 4).recorded.chat context request).run 0 ⟨0, []⟩;
      BackendEvent.questions after.events =
        List.replicate 3 ("first", Question.chat { request with model := "gpt-4" }) ++
          [("second", Question.chat
            { request with backend := some "second", model := "gpt-4o" })] ∧
      ∃ attempts : UInt32, attempts.toNat = 1 ∧
        answer = .error (.exhausted "second" attempts (.refused "second" 400 ""))) := by
  intro context request first
  have calm : context.Calm := fun _ => rfl
  have built : ∀ refusals, GatewayDraft.build (recoveringDraft refusals) =
      .ok (recoveringGateway refusals) := fun _ => rfl
  have bounded : ∀ refusals, (recoveringGateway refusals).retry.maxRetries.toNat <
      UInt32.size - 1 := fun _ => (by decide : 2 < UInt32.size - 1)
  have registered : ∀ refusals, (recoveringGateway refusals).backend "first" =
      .ok (recovering "first" 503 refusals) := fun _ => rfl
  have uninterrupted : ∀ refusals, (first refusals).Uninterrupted :=
    fun _ => uninterrupted_of_recovering rfl
  have uninterruptedFallback : ∀ refusals, ∀ fallback ∈ (recoveringGateway refusals).backends,
      ((recoveringGateway refusals).secondSeries (first refusals) fallback).Uninterrupted := by
    intro refusals fallback member
    simp only [recoveringGateway, List.mem_cons, List.not_mem_nil, or_false] at member
    rcases member with rfl | rfl <;> exact uninterrupted_of_recovering rfl
  have last : ∀ refusals, 2 ≤ refusals → (first refusals).last = 2 := by
    intro refusals enough
    refine (Nat.find_eq_iff _).mpr ⟨.inr (Nat.le_refl 2), fun index early => ?_⟩
    have refused : (first refusals).state + index < refusals := by
      change 0 + index < refusals
      omega
    rw [outcome_of_recovering rfl, if_pos refused, not_or]
    exact ⟨by decide, Nat.not_le.mpr early⟩
  have spent := fun refusals => chat_keeps_budget (built refusals) (bounded refusals) calm
    request (registered refusals) 0 ⟨0, []⟩ (uninterrupted refusals) (uninterruptedFallback refusals)
  refine ⟨calm, fun refusals => ⟨built refusals, bounded refusals, registered refusals,
    uninterrupted refusals, uninterruptedFallback refusals⟩, ?_, ?_⟩
  · have outcome : (first 2).outcome (first 2).last = .ok plainAnswer := by
      rw [last 2 (Nat.le_refl 2), outcome_of_recovering rfl]
      rfl
    have answered := spent 2
    dsimp only at answered
    rw [outcome] at answered
    rcases answered with ⟨⟨response, answered, handsOut⟩, asked⟩
    have count : (first 2).count = 3 := congrArg (· + 1) (last 2 (Nat.le_refl 2))
    refine ⟨?_, response, answered, handsOut.content, handsOut.usage, handsOut.backend,
      handsOut.model, handsOut.cost, ?_⟩
    · rw [← count]
      exact asked
    · rw [handsOut.latency]
      exact latency_of_recovering rfl _
  · have outcome : (first 4).outcome (first 4).last = .error (.refused "first" 503 "") := by
      rw [last 4 (by decide), outcome_of_recovering rfl]
      rfl
    have answered := spent 4
    dsimp only at answered
    rw [outcome] at answered
    rcases answered with ⟨fallback, found, asked, answered⟩
    cases found
    let second := (recoveringGateway 4).secondSeries (first 4) (recovering "second" 400 4)
    have refused : second.outcome 0 = .error (.refused "second" 400 "") := by
      have calls : second.state = 3 := by
        change ((first 4).attempt (first 4).last).2.2 = 3
        rw [last 4 (by decide), attempt_of_recovering rfl]
        rfl
      rw [outcome_of_recovering rfl, calls]
      rfl
    have secondLast : second.last = 0 := by
      refine (Nat.find_eq_iff _).mpr ⟨.inl ?_, fun _ early => absurd early (Nat.not_lt_zero _)⟩
      rw [refused]
      rfl
    have firstCount : (first 4).count = 3 := congrArg (· + 1) (last 4 (by decide))
    have secondCount : second.count = 1 := congrArg (· + 1) secondLast
    have secondOutcome : second.outcome second.last = .error (.refused "second" 400 "") := by
      rw [secondLast, refused]
    rw [secondOutcome, secondCount] at answered
    refine ⟨?_, answered⟩
    rw [firstCount, secondCount] at asked
    exact asked

end Gateway

end GroundedAnswers
