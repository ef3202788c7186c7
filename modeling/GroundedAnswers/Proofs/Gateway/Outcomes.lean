import GroundedAnswers.Proofs.Gateway.Calls
import GroundedAnswers.Proofs.Gateway.Recording
import GroundedAnswers.Proofs.Task.Gauge

namespace GroundedAnswers

/-! What chats come to when the replies of all backends are known. Apart from the time that an
answer took, that depends on nothing but the request, neither on how long replies take nor on what
else goes on meanwhile. -/

open GroundedAnswers.Task (Settles SettlesAs)

/-- The response apart from the time that it took. -/
def ChatResponse.untimed (response : ChatResponse) : ChatResponse :=
  { response with latencyMilliseconds := 0 }

/-! ## Several outcomes -/

private theorem map_eq_of_settled {ι : Type} {context : RequestContext}
    {interrupted : Interruption → ε} {view : α → β} {outcome : ι → Except ε β} {items : List ι}
    {results : List (Except ε α)} {moment : Moment} (each : List.Forall₂
      (fun item result => Settled context interrupted (outcome item) (result.map view) moment)
      items results) (calm : context.interruption? moment = none) :
    results.map (Except.map view) = items.map outcome := by
  induction each with
  | nil => rfl
  | cons first _ induction =>
      rw [List.map_cons, List.map_cons, first.eq_of_calm calm, induction]

/-! ## Replies -/

abbrev BackendReplies := String → ChatRequest → Except ModelFailure ChatResponse

/-- The backend gives these replies, however long each of them takes and whatever becomes of its
state meanwhile. Only the context may interrupt it. -/
structure Backend.RepliesWith (backend : Backend σ) (context : RequestContext)
    (reply : ChatRequest → Except ModelFailure ChatResponse) : Prop where
  regular : ∀ request, Regular ModelFailure.interrupted (reply request)
  settles : ∀ request, Settles (fun _ => True) context ModelFailure.interrupted (reply request)
    (backend.chat context request)

/-! ## Chats -/

namespace Gateway

/-- What attempts come to that all get one reply: attempt number `attempt` and, where another one
may succeed, up to `retries` further ones. -/
def repeated (backend : String) (request : ChatRequest) (attempt retries : Nat) :
    Except ModelFailure ChatResponse → Except ModelFailure ChatResponse
  | .ok response => .ok (completed backend request 0 response)
  | .error failure =>
      let last := if failure.isRetryable then attempt + retries else attempt
      .error (.exhausted backend last.toUInt32 failure)

/-- A gateway apart from what its backends do: their names, and its own settings. -/
structure Plan where
  names : List String
  defaultBackend : String
  fallbackBackend : Option String
  fallbackModel : Option String
  defaultModel : Option String
  maxRetries : Nat

def plan (gateway : Gateway σ) : Plan where
  names := gateway.backends.map (·.name)
  defaultBackend := gateway.defaultBackend
  fallbackBackend := gateway.fallbackBackend
  fallbackModel := gateway.fallbackModel
  defaultModel := gateway.defaultModel
  maxRetries := gateway.retry.maxRetries.toNat

private theorem defaultBackend_plan (gateway : Gateway σ) :
    gateway.plan.defaultBackend = gateway.defaultBackend := rfl

private theorem defaultModel_plan (gateway : Gateway σ) :
    gateway.plan.defaultModel = gateway.defaultModel := rfl

private theorem fallbackBackend_plan (gateway : Gateway σ) :
    gateway.plan.fallbackBackend = gateway.fallbackBackend := rfl

namespace Plan

variable (plan : Plan) (replies : BackendReplies)

def backendOutcome (backend : String) (request : ChatRequest) : Except ModelFailure ChatResponse :=
  repeated backend request 1 plan.maxRetries (replies backend request)

def fallbackFor? (primary : String) : Option String :=
  plan.fallbackBackend.filter fun name => name ≠ primary ∧ name ∈ plan.names

def fallbackOutcome (primary : String) (request : ChatRequest) (failure : ModelFailure) :
    Except ModelFailure ChatResponse :=
  match plan.fallbackFor? primary with
  | none => .error failure
  | some fallback =>
      plan.backendOutcome replies fallback
        { request with backend := some fallback, model := plan.fallbackModel.getD request.model }

def chatOutcome (request : ChatRequest) : Except ModelFailure ChatResponse :=
  let request := request.withDefaultModel plan.defaultModel
  let name := request.backend.getD plan.defaultBackend
  if name ∈ plan.names then
    match plan.backendOutcome replies name request with
    | .ok response => .ok response
    | .error failure => plan.fallbackOutcome replies name request failure
  else .error (.notConfigured name)

private theorem backendOutcome_regular (backend : String) (request : ChatRequest) :
    Regular ModelFailure.interrupted (plan.backendOutcome replies backend request) := by
  unfold backendOutcome
  cases replies backend request with
  | ok response => exact .ok _ _
  | error failure => exact fun _ => nofun

theorem chatOutcome_regular (request : ChatRequest) :
    Regular ModelFailure.interrupted (plan.chatOutcome replies request) := by
  unfold chatOutcome
  dsimp only
  split
  · split
    · exact .ok _ _
    · rename_i failure failed
      have regular := plan.backendOutcome_regular replies
        ((request.withDefaultModel plan.defaultModel).backend.getD plan.defaultBackend)
        (request.withDefaultModel plan.defaultModel)
      rw [failed] at regular
      unfold fallbackOutcome
      split
      · exact regular
      · exact plan.backendOutcome_regular replies _ _
  · exact fun _ => nofun

end Plan

/-! ## Backends by name -/

section

variable {gateway : Gateway σ}

private theorem notMem_names_of_find?_eq_none {name : String}
    (unknown : find? gateway.backends name = none) : name ∉ gateway.plan.names := by
  intro member
  obtain ⟨backend, registered, same⟩ := List.mem_map.mp member
  have different := List.find?_eq_none.mp unknown backend registered
  exact different (decide_eq_true same)

private theorem mem_names_of_find? {name : String} {backend : Backend σ}
    (found : find? gateway.backends name = some backend) : name ∈ gateway.plan.names :=
  name_of_find? found ▸ List.mem_map_of_mem (List.mem_of_find?_eq_some found)

private theorem fallbackFor?_plan (gateway : Gateway σ) (primary : String) :
    gateway.plan.fallbackFor? primary = (gateway.fallbackFor? primary).map (·.name) := by
  rw [fallbackFor?, Plan.fallbackFor?, fallbackBackend_plan]
  cases gateway.fallbackBackend with
  | none => rfl
  | some name =>
      by_cases same : name = primary
      · simp [same]
      · cases found : find? gateway.backends name with
        | none =>
            have missing := notMem_names_of_find?_eq_none found
            simp [same, missing, found]
        | some fallback =>
            simp [same, mem_names_of_find? found, found, name_of_find? found]

end

/-! ## Chats with backends that reply -/

section

variable {context : RequestContext}

section

variable {backend : Backend σ} {reply : ChatRequest → Except ModelFailure ChatResponse}
  (replies : backend.RepliesWith context reply)

include replies

private theorem ask_settles (request : ChatRequest) :
    SettlesAs ChatResponse.untimed (fun _ => True) context ModelFailure.interrupted
      ((reply request).map (completed backend.name request 0)) (ask context backend request) := by
  have called := (replies.settles request).guarded
  unfold ask
  refine Task.Ensures.clock.bind (fun started _ _ => ?_) fun _ _ => nofun
  refine Task.Ensures.bind called (fun response moment settled => ?_) fun failure moment settled => ?_
  · refine Task.Ensures.clock.bind (fun finished _ _ => ?_) fun _ _ => nofun
    rcases settled with same | ⟨cause, stopped, _⟩
    · rw [← same]
      exact SettlesAs.pure (completed backend.name request (started.millisecondsUntil finished)
        response)
    · cases stopped
  · rcases settled with same | ⟨cause, stopped, found⟩
    · rw [← same]
      exact .inl rfl
    · cases stopped
      exact .inr ⟨cause, rfl, found⟩

private theorem attempt_settles (policy : RetryPolicy) (request : ChatRequest)
    (attempt retries : Nat) (others : ∀ left, retries = left + 1 →
      SettlesAs ChatResponse.untimed (fun _ => True) context ModelFailure.interrupted
        (repeated backend.name request (attempt + 1) left (reply request))
        (attempts policy context backend request (attempt + 1) left)) :
    SettlesAs ChatResponse.untimed (fun _ => True) context ModelFailure.interrupted
      (repeated backend.name request attempt retries (reply request))
      (attempts policy context backend request attempt retries) := by
  have asked := ask_settles replies request
  have regular := replies.regular request
  unfold attempts
  refine asked.bind_lift (fun result same => ?_) (fun _ => rfl)
    fun cause moment found => .inr ⟨cause, rfl, found⟩
  cases answer : reply request with
  | ok response =>
      rw [answer] at same
      cases result with
      | error failure => cases same
      | ok timed =>
          have untimed : timed.untimed = completed backend.name request 0 response :=
            Except.ok.inj same
          rw [repeated, ← untimed]
          exact SettlesAs.pure timed
  | error failure =>
      rw [answer] at same regular others
      cases result with
      | ok timed => cases same
      | error raised =>
          cases same
          simp only [ModelFailure.isInterruption_of_regular regular, repeated, Bool.false_eq_true,
            if_false] at others ⊢
          cases retries with
          | zero =>
              simp only [Nat.add_zero, ite_self]
              exact SettlesAs.throw _
          | succ left =>
              dsimp only
              split
              · rename_i again
                have next := others left rfl
                rw [if_pos again, Nat.add_right_comm] at next
                exact SettlesAs.bind_of_ok (Settles.delay _).guarded next
              · exact SettlesAs.throw _

private theorem attempts_settles (policy : RetryPolicy) (request : ChatRequest)
    (attempt retries : Nat) :
    SettlesAs ChatResponse.untimed (fun _ => True) context ModelFailure.interrupted
      (repeated backend.name request attempt retries (reply request))
      (attempts policy context backend request attempt retries) := by
  induction retries generalizing attempt with
  | zero => exact attempt_settles replies policy request attempt 0 nofun
  | succ left induction =>
      refine attempt_settles replies policy request attempt (left + 1) fun other same => ?_
      cases same
      exact induction (attempt + 1)

end

variable {gateway : Gateway σ} {replies : BackendReplies}
  (replying : ∀ name backend, find? gateway.backends name = some backend →
    backend.RepliesWith context (replies name))

include replying

private theorem chatWithRetries_settles {name : String} {backend : Backend σ}
    (found : find? gateway.backends name = some backend) (request : ChatRequest) :
    SettlesAs ChatResponse.untimed (fun _ => True) context ModelFailure.interrupted
      (gateway.plan.backendOutcome replies name request)
      (gateway.chatWithRetries context backend request) := by
  have settles := attempts_settles (replying name backend found) gateway.retry request 1
    gateway.retry.maxRetries.toNat
  rw [name_of_find? found] at settles
  exact settles

private theorem fallback_settles (primary : String) (request : ChatRequest)
    (failure : ModelFailure) :
    SettlesAs ChatResponse.untimed (fun _ => True) context ModelFailure.interrupted
      (gateway.plan.fallbackOutcome replies primary request failure)
      (match gateway.fallbackFor? primary with
        | none => throw failure
        | some fallback =>
            gateway.chatWithRetries context fallback
              (gateway.fallbackRequest fallback.name request)) := by
  rw [Plan.fallbackOutcome, fallbackFor?_plan]
  cases alternative : gateway.fallbackFor? primary with
  | none => exact SettlesAs.throw failure
  | some fallback =>
      obtain ⟨name, -, registered⟩ := Option.bind_eq_some_iff.mp alternative
      split at registered
      · cases registered
      · have settles := chatWithRetries_settles replying registered
          (gateway.fallbackRequest fallback.name request)
        rw [← name_of_find? registered] at settles
        exact settles

theorem chat_settles (request : ChatRequest) :
    SettlesAs ChatResponse.untimed (fun _ => True) context ModelFailure.interrupted
      (gateway.plan.chatOutcome replies request) (gateway.chat context request) := by
  unfold chat Plan.chatOutcome
  dsimp only [defaultModel_plan, defaultBackend_plan]
  generalize request.withDefaultModel gateway.defaultModel = asked
  generalize asked.backend.getD gateway.defaultBackend = name
  unfold Gateway.backend
  cases found : find? gateway.backends name with
  | none =>
      rw [if_neg (notMem_names_of_find?_eq_none found)]
      exact SettlesAs.throw _
  | some primary =>
      rw [if_pos (mem_names_of_find? found)]
      refine SettlesAs.bind_of_ok (.pure primary) ?_
      refine (chatWithRetries_settles replying found asked).bind_lift (fun result same => ?_)
        (fun _ => rfl) fun cause moment stopped => .inr ⟨cause, rfl, stopped⟩
      have regular := gateway.plan.backendOutcome_regular replies name asked
      rw [← same] at regular ⊢
      cases result with
      | ok response => exact SettlesAs.pure response
      | error failure =>
          have isFailure := ModelFailure.isInterruption_of_regular regular
          simp only [isFailure, Bool.false_eq_true, if_false]
          exact fallback_settles replying name asked failure

/-- Results stand in the order of the requests, whichever chat is over first. -/
theorem chatMany_run_eq (requests : List ChatRequest) (concurrency : Nat) {now : Moment} {state : σ}
    (calm : context.interruption?
      ((gateway.chatMany context requests concurrency).run now state).2.1 = none) :
    ((gateway.chatMany context requests concurrency).run now state).1.map
        (Except.map ChatResponse.untimed) =
      requests.map (gateway.plan.chatOutcome replies) := by
  have many := Task.Ensures.fanOut concurrency .byArrival requests
    (fun _ _ _ _ order settled => settled.later order) (chat_settles replying)
  exact map_eq_of_settled (many.run now True.intro).1 calm

end

theorem exists_backendReplies {context : RequestContext} {gateway : Gateway σ}
    (known : ∀ backend ∈ gateway.backends, backend.RepliesByRequest context) :
    ∃ replies : BackendReplies, ∀ name backend, find? gateway.backends name = some backend →
      backend.RepliesWith context (replies name) := by
  have each : ∀ name, ∃ reply, ∀ backend, find? gateway.backends name = some backend →
      backend.RepliesWith context reply := by
    intro name
    cases found : find? gateway.backends name with
    | none => exact ⟨fun _ => .error (.notConfigured name), nofun⟩
    | some backend =>
        choose reply regular settles using (known backend (List.mem_of_find?_eq_some found)).chat
        refine ⟨reply, fun other same => ?_⟩
        cases same
        exact ⟨regular, settles⟩
  choose replies replying using each
  exact ⟨replies, replying⟩

/-! ## Chats in progress -/

def chatManyGauged (gateway : Gateway σ) (context : RequestContext) (requests : List ChatRequest)
    (concurrency : Nat) : Task (σ × Gauge) (List (Except ModelFailure ChatResponse)) :=
  Task.buffered concurrency
    (requests.map fun request => Task.gauged (gateway.chat context request).run)

theorem chatMany_gauged (gateway : Gateway σ) (context : RequestContext)
    (requests : List ChatRequest) (concurrency : Nat) (now : Moment) (state : σ) :
    ∃ gauge : Gauge, gauge.current = 0 ∧ gauge.peak ≤ max concurrency 1 ∧
      (gateway.chatManyGauged context requests concurrency).run now (state, {}) =
        (((gateway.chatMany context requests concurrency).run now state).1,
          ((gateway.chatMany context requests concurrency).run now state).2.1,
          ((gateway.chatMany context requests concurrency).run now state).2.2, gauge) := by
  have counted := Task.fanOut_gauged concurrency .byArrival
    (requests.map fun request => (gateway.chat context request).run) now state
  rw [List.map_map] at counted
  exact counted

end Gateway

end GroundedAnswers
