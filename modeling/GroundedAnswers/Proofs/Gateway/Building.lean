import GroundedAnswers.Proofs.Gateway.Drafts
import GroundedAnswers.Proofs.Gateway.FirstCall

namespace GroundedAnswers

/-! Gateways that are put together step by step. A gateway is built exactly if the names that it
goes by are registered, and then each name stands for the backend registered last under it. So only
a request that itself names an unknown backend is refused as not configured. -/

/-! ## Steps -/

inductive GatewayStep (σ : Type) where
  | backend (backend : Backend σ)
  | defaultBackend (name : String)
  | fallbackBackend (name : String)
  | fallbackModel (model : String)
  | defaultModel (model : String)
  | maxRetries (count : UInt32)
  | baseDelay (delay : Duration)
  | retryPolicy (policy : RetryPolicy)

namespace GatewayStep

def backend? : GatewayStep σ → Option (Backend σ)
  | .backend added => some added
  | _ => none

def defaultBackend? : GatewayStep σ → Option String
  | .defaultBackend name => some name
  | _ => none

def fallbackBackend? : GatewayStep σ → Option String
  | .fallbackBackend name => some name
  | _ => none

def registered (steps : List (GatewayStep σ)) : List (Backend σ) :=
  steps.filterMap backend?

def lastDefault? (steps : List (GatewayStep σ)) : Option String :=
  steps.reverse.findSome? defaultBackend?

def lastFallback? (steps : List (GatewayStep σ)) : Option String :=
  steps.reverse.findSome? fallbackBackend?

variable (steps : List (GatewayStep σ)) (step : GatewayStep σ)

private theorem registered_concat :
    registered (steps ++ [step]) = registered steps ++ step.backend?.toList := by
  cases step <;> simp [registered, List.filterMap_append, List.filterMap_cons, backend?]

private theorem lastDefault?_concat :
    lastDefault? (steps ++ [step]) = step.defaultBackend?.or (lastDefault? steps) := by
  cases step <;> simp [lastDefault?, List.findSome?_cons, defaultBackend?]

private theorem lastFallback?_concat :
    lastFallback? (steps ++ [step]) = step.fallbackBackend?.or (lastFallback? steps) := by
  cases step <;> simp [lastFallback?, List.findSome?_cons, fallbackBackend?]

end GatewayStep

namespace GatewayDraft

open GatewayStep (registered lastDefault? lastFallback?)

def take (draft : GatewayDraft σ) : GatewayStep σ → GatewayDraft σ
  | .backend backend => draft.register backend
  | .defaultBackend name => { draft with defaultBackend := some name }
  | .fallbackBackend name => { draft with fallbackBackend := some name }
  | .fallbackModel model => { draft with fallbackModel := some model }
  | .defaultModel model => { draft with defaultModel := some model }
  | .maxRetries count => { draft with retry.maxRetries := count }
  | .baseDelay delay => { draft with retry.baseDelay := delay }
  | .retryPolicy policy => { draft with retry := policy }

def ofSteps (steps : List (GatewayStep σ)) : GatewayDraft σ :=
  steps.foldl take {}

/-- A draft holds the last backend of each name, once, and the last names of its roles. -/
structure Reflects (draft : GatewayDraft σ) (steps : List (GatewayStep σ)) : Prop where
  found : ∀ name, Gateway.find? draft.backends name =
    (registered steps).reverse.find? (·.name = name)
  distinct : (draft.backends.map (·.name)).Nodup
  default : draft.defaultBackend = lastDefault? steps
  fallback : draft.fallbackBackend = lastFallback? steps

private theorem find?_register (draft : GatewayDraft σ) (backend : Backend σ) (name : String) :
    Gateway.find? (draft.register backend).backends name =
      if backend.name = name then some backend else Gateway.find? draft.backends name := by
  simp only [register, Gateway.find?, List.find?_append, List.find?_filter]
  by_cases same : backend.name = name
  · have away : draft.backends.find? (fun other =>
        decide (decide (other.name ≠ backend.name) = true ∧ decide (other.name = name) = true)) =
          none := by
      simp [same]
    rw [away]
    simp [same]
  · have near : draft.backends.find? (fun other =>
        decide (decide (other.name ≠ backend.name) = true ∧ decide (other.name = name) = true)) =
          draft.backends.find? (·.name = name) := by
      congr 1
      funext other
      by_cases wanted : other.name = name <;> simp [wanted, Ne.symm same]
    rw [near]
    simp [same]

private theorem distinct_register {draft : GatewayDraft σ}
    (distinct : (draft.backends.map (·.name)).Nodup) (backend : Backend σ) :
    ((draft.register backend).backends.map (·.name)).Nodup := by
  unfold register
  rw [List.map_append, List.nodup_append]
  refine ⟨distinct.sublist (List.filter_sublist.map _), by simp, ?_⟩
  simp only [List.mem_map, List.mem_filter, decide_eq_true_eq, List.mem_singleton]
  rintro _ ⟨other, ⟨_, different⟩, rfl⟩ _ ⟨_, rfl, rfl⟩
  exact different

theorem Reflects.take {draft : GatewayDraft σ} {steps : List (GatewayStep σ)}
    (reflects : Reflects draft steps) (step : GatewayStep σ) :
    Reflects (draft.take step) (steps ++ [step]) := by
  rcases reflects with ⟨found, distinct, default, fallback⟩
  have unregistered : step.backend? = none → ∀ name, Gateway.find? draft.backends name =
      (registered (steps ++ [step])).reverse.find? (·.name = name) := by
    intro none name
    rw [GatewayStep.registered_concat, none, Option.toList_none, List.append_nil, found]
  have defaults := GatewayStep.lastDefault?_concat steps step
  have fallbacks := GatewayStep.lastFallback?_concat steps step
  cases step with
  | backend backend =>
      refine ⟨fun name => ?_, distinct_register distinct backend, default.trans defaults.symm,
        fallback.trans fallbacks.symm⟩
      rw [GatewayDraft.take, find?_register, found, GatewayStep.registered_concat]
      by_cases same : backend.name = name <;> simp [GatewayStep.backend?, same]
  | defaultBackend name =>
      exact ⟨unregistered rfl, distinct, defaults.symm, fallback.trans fallbacks.symm⟩
  | fallbackBackend name =>
      exact ⟨unregistered rfl, distinct, default.trans defaults.symm, fallbacks.symm⟩
  | _ =>
      exact ⟨unregistered rfl, distinct, default.trans defaults.symm,
        fallback.trans fallbacks.symm⟩

theorem reflects_ofSteps (steps : List (GatewayStep σ)) : Reflects (ofSteps steps) steps := by
  have follows : ∀ (steps earlier : List (GatewayStep σ)) (draft : GatewayDraft σ),
      Reflects draft earlier → Reflects (steps.foldl GatewayDraft.take draft) (earlier ++ steps) := by
    intro steps
    induction steps with
    | nil => exact fun earlier _ reflects => earlier.append_nil.symm ▸ reflects
    | cons step steps induction =>
        intro earlier draft reflects
        have taken := induction _ _ (reflects.take step)
        rwa [List.append_assoc, List.singleton_append] at taken
  exact follows steps [] {} ⟨fun _ => rfl, List.nodup_nil, rfl, rfl⟩

section

variable {draft : GatewayDraft σ} {steps : List (GatewayStep σ)} (reflects : Reflects draft steps)

include reflects

theorem Reflects.isSome_find?_iff {name : String} :
    (Gateway.find? draft.backends name).isSome ↔ name ∈ (registered steps).map (·.name) := by
  rw [reflects.found]
  simp

theorem Reflects.mem_names_iff {name : String} :
    name ∈ draft.backends.map (·.name) ↔ name ∈ (registered steps).map (·.name) := by
  rw [← GatewayDraft.isSome_find?_iff, reflects.isSome_find?_iff]

private theorem Reflects.single_iff {name : String} :
    (∃ backend, draft.backends = [backend] ∧ backend.name = name) ↔
      name ∈ (registered steps).map (·.name) ∧
        ∀ other ∈ (registered steps).map (·.name), other = name := by
  simp only [← reflects.mem_names_iff]
  constructor
  · rintro ⟨backend, single, rfl⟩
    simp [single]
  · rintro ⟨member, same⟩
    have distinct := reflects.distinct
    cases backends : draft.backends with
    | nil => simp [backends] at member
    | cons first others =>
        rw [backends, List.map_cons] at same distinct
        have isFirst := same first.name List.mem_cons_self
        cases others with
        | nil => exact ⟨first, rfl, isFirst⟩
        | cons second others =>
            have isSecond := same second.name (by simp)
            rw [isFirst, List.map_cons, isSecond] at distinct
            simp at distinct

private theorem Reflects.defaultName_iff {name : String} :
    draft.defaultName = .ok name ↔
      lastDefault? steps = some name ∨
        (lastDefault? steps = none ∧ name ∈ (registered steps).map (·.name) ∧
          ∀ other ∈ (registered steps).map (·.name), other = name) := by
  rw [defaultName_eq_ok_iff, reflects.default, reflects.single_iff]

theorem Reflects.exists_build_iff :
    (∃ gateway, draft.build = .ok gateway) ↔
      (match lastDefault? steps with
        | some name => name ∈ (registered steps).map (·.name)
        | none => ∃ name ∈ (registered steps).map (·.name),
            ∀ other ∈ (registered steps).map (·.name), other = name) ∧
      ∀ name, lastFallback? steps = some name → name ∈ (registered steps).map (·.name) := by
  constructor
  · rintro ⟨gateway, built⟩
    rcases build_eq_ok_iff.mp built with ⟨named, found, fallbacks, -⟩
    refine ⟨?_, fun name last =>
      reflects.isSome_find?_iff.mp (fallbacks name (reflects.fallback.trans last))⟩
    rcases reflects.defaultName_iff.mp named with given | ⟨none, member, same⟩
    · rw [given]
      exact reflects.isSome_find?_iff.mp found
    · rw [none]
      exact ⟨_, member, same⟩
  · rintro ⟨default, fallbacks⟩
    have named : ∃ name ∈ (registered steps).map (·.name), draft.defaultName = .ok name := by
      cases last : lastDefault? steps with
      | some name =>
          rw [last] at default
          exact ⟨name, default, reflects.defaultName_iff.mpr (.inl last)⟩
      | none =>
          rw [last] at default
          rcases default with ⟨name, member, same⟩
          exact ⟨name, member, reflects.defaultName_iff.mpr (.inr ⟨last, member, same⟩)⟩
    rcases named with ⟨name, member, named⟩
    refine ⟨⟨draft.backends, name, draft.fallbackBackend, draft.fallbackModel, draft.defaultModel,
      draft.retry⟩, build_eq_ok_iff.mpr ⟨named, ?_, fun other given => ?_, rfl⟩⟩
    · exact reflects.isSome_find?_iff.mpr member
    · exact reflects.isSome_find?_iff.mpr (fallbacks other (reflects.fallback.symm.trans given))

end

end GatewayDraft

/-! ## Requests -/

namespace Gateway

variable {gateway : Gateway σ} {context : RequestContext} {now : Moment} {before : Recorded σ}

/-- A chat that finds its backend does not answer that a backend is not configured: a failure of a
backend is handed out as the cause of an exhausted attempt. -/
theorem run_chat_configured {request : ChatRequest} {selected : Backend σ}
    (registered : gateway.backend (request.backend.getD gateway.defaultBackend) = .ok selected)
    (name : String) :
    (Task.run (gateway.recorded.chat context request).run now before).1 ≠
      .error (.notConfigured name) := by
  cases look : context.interruption? now with
  | some cause =>
      rw [run_chat_of_interrupted (backend_recorded registered) look]
      nofun
  | none =>
      have unchanged : KeepsOrder context before.events before :=
        ⟨[], (List.append_nil before.events).symm, .nil⟩
      have early := RequestContext.notPast_of_calm look
      rcases ran : Task.run (gateway.recorded.chat context request).run now before with
        ⟨answer, moment, after⟩
      rcases (chat_ensures registered).run early unchanged ran with ⟨events, _, ended⟩
      rintro rfl
      cases ended with
      | answered _ _ conveyed => cases conveyed

/-- Only a request that names an unknown backend itself goes to one. -/
theorem backend_of_closed {names : List String}
    (known : ∀ name, (find? gateway.backends name).isSome ↔ name ∈ names)
    (closed : gateway.defaultBackend ∈ names) (named : Option String) :
    match named.filter (· ∉ names) with
    | some name =>
        gateway.backend (named.getD gateway.defaultBackend) = .error (.notConfigured name)
    | none => ∃ selected, gateway.backend (named.getD gateway.defaultBackend) = .ok selected := by
  have finds : ∀ name ∈ names, ∃ selected, gateway.backend name = .ok selected := by
    intro name member
    rcases Option.isSome_iff_exists.mp ((known name).mpr member) with ⟨selected, found⟩
    exact ⟨selected, (backend_eq_ok_iff _ _ _).mpr found⟩
  cases named with
  | none => exact finds _ closed
  | some name =>
      by_cases member : name ∈ names
      · simpa [Option.filter, member] using finds name member
      · have missing := mt (known name).mp member
        simp only [Option.not_isSome_iff_eq_none] at missing
        simp [Option.filter, member, Gateway.backend, missing]

private theorem run_chatStream_configured {request : ChatRequest} {selected : Backend σ}
    (registered : gateway.backend (request.backend.getD gateway.defaultBackend) = .ok selected)
    {name : String} {moment : Moment} {after : Recorded σ}
    (refused : Task.run (gateway.recorded.chatStream context request).run now before =
      (.error (.notConfigured name), moment, after)) :
    ∃ asked sent, after.events = before.events ++ [.asked now asked (.stream sent),
      .replied moment asked (.stream sent (.error (.notConfigured name)))] := by
  rw [run_chatStream_of_registered (backend_recorded registered)] at refused
  exact ⟨_, _, events_of_run_guard_recording refused rfl⟩

private theorem run_embed_configured {request : EmbeddingRequest} {selected : Backend σ}
    (registered : gateway.backend (request.backend.getD gateway.defaultBackend) = .ok selected)
    {name : String} {moment : Moment} {after : Recorded σ}
    (refused : Task.run (gateway.recorded.embed context request).run now before =
      (.error (.notConfigured name), moment, after)) :
    ∃ asked, after.events = before.events ++ [.asked now asked (.embedding request),
      .replied moment asked (.embedding request (.error (.notConfigured name)))] := by
  rw [run_embed_of_registered (backend_recorded registered)] at refused
  rcases ran : Task.run (context.guard (selected.recorded.embed context request)).run now before
    with ⟨outcome, reached, between⟩
  rw [ran] at refused
  cases outcome with
  | ok response => cases refused
  | error failure =>
      cases refused
      exact ⟨_, events_of_run_guard_recording ran rfl⟩

/-- A gateway can be built exactly if its default, given or the only one there is, and its fallback
are registered. It then finds under each name the backend that was registered last. A request that
names another backend is refused as not configured, and nothing is asked. No other chat is answered
so, and a streamed answer or an embedding only if that is the reply of the one backend that is
asked. -/
theorem built_gateway_knows_its_names (steps : List (GatewayStep σ)) :
    let draft := GatewayDraft.ofSteps steps
    let registered := GatewayStep.registered steps
    let names := registered.map (·.name)
    ((∃ gateway, draft.build = .ok gateway) ↔
      (match GatewayStep.lastDefault? steps with
        | some name => name ∈ names
        | none => ∃ name ∈ names, ∀ other ∈ names, other = name) ∧
      ∀ name, GatewayStep.lastFallback? steps = some name → name ∈ names) ∧
    ∀ gateway, draft.build = .ok gateway →
      gateway.defaultBackend ∈ names ∧
      (∀ name, GatewayStep.lastDefault? steps = some name → gateway.defaultBackend = name) ∧
      gateway.fallbackBackend = GatewayStep.lastFallback? steps ∧
      (∀ name, gateway.backend name =
        match registered.reverse.find? (·.name = name) with
        | some backend => .ok backend
        | none => .error (.notConfigured name)) ∧
      ∀ (context : RequestContext) (now : Moment) (before : Recorded σ),
        (∀ request : ChatRequest,
          let ran := Task.run (gateway.recorded.chat context request).run now before
          match request.backend.filter (· ∉ names) with
          | some name => ran = (.error (.notConfigured name), now, before)
          | none => ∀ name, ran.1 ≠ .error (.notConfigured name)) ∧
        (∀ request : ChatRequest,
          let ran := Task.run (gateway.recorded.chatStream context request).run now before
          match request.backend.filter (· ∉ names) with
          | some name => ran = (.error (.notConfigured name), now, before)
          | none => ∀ name, ran.1 = .error (.notConfigured name) → ∃ asked sent,
              ran.2.2.events = before.events ++ [.asked now asked (.stream sent),
                .replied ran.2.1 asked (.stream sent (.error (.notConfigured name)))]) ∧
        ∀ request : EmbeddingRequest,
          let ran := Task.run (gateway.recorded.embed context request).run now before
          match request.backend.filter (· ∉ names) with
          | some name => ran = (.error (.notConfigured name), now, before)
          | none => ∀ name, ran.1 = .error (.notConfigured name) → ∃ asked,
              ran.2.2.events = before.events ++ [.asked now asked (.embedding request),
                .replied ran.2.1 asked (.embedding request (.error (.notConfigured name)))] := by
  intro draft registered names
  have reflects := GatewayDraft.reflects_ofSteps steps
  refine ⟨reflects.exists_build_iff, fun gateway built => ?_⟩
  rcases GatewayDraft.build_eq_ok_iff.mp built with ⟨named, found, -, whole⟩
  have sameBackends : gateway.backends = draft.backends := congrArg Gateway.backends whole
  have known : ∀ name, (find? gateway.backends name).isSome ↔ name ∈ names := by
    intro name
    rw [sameBackends, reflects.isSome_find?_iff]
  have closed : gateway.defaultBackend ∈ names := reflects.isSome_find?_iff.mp found
  refine ⟨closed, fun name last => ?_, ?_, fun name => ?_, fun context now before =>
    ⟨fun request => ?_, fun request => ?_, fun request => ?_⟩⟩
  · rcases reflects.defaultName_iff.mp named with given | ⟨none, -⟩
    · exact Option.some.inj (given.symm.trans last)
    · rw [none] at last
      cases last
  · exact (congrArg Gateway.fallbackBackend whole).trans reflects.fallback
  · have bound := reflects.found name
    rw [← sameBackends] at bound
    unfold Gateway.backend
    cases last : registered.reverse.find? (·.name = name) with
    | none => simp [bound.trans last]
    | some backend => simp [bound.trans last]
  · have selected := backend_of_closed known closed request.backend
    cases unknown : request.backend.filter (· ∉ names) with
    | some name =>
        rw [unknown] at selected
        exact run_chat_of_unregistered (backend_recorded_of_error selected).1
    | none =>
        rw [unknown] at selected
        rcases selected with ⟨selected, found⟩
        exact run_chat_configured found
  · have selected := backend_of_closed known closed request.backend
    cases unknown : request.backend.filter (· ∉ names) with
    | some name =>
        rw [unknown] at selected
        exact run_chatStream_of_unregistered (backend_recorded_of_error selected).1
    | none =>
        rw [unknown] at selected
        rcases selected with ⟨selected, found⟩
        exact fun name refused => run_chatStream_configured found (Prod.ext refused rfl)
  · have selected := backend_of_closed known closed request.backend
    cases unknown : request.backend.filter (· ∉ names) with
    | some name =>
        rw [unknown] at selected
        exact run_embed_of_unregistered (backend_recorded_of_error selected).1 context now before
    | none =>
        rw [unknown] at selected
        rcases selected with ⟨selected, found⟩
        exact fun name refused => run_embed_configured found (Prod.ext refused rfl)

/-- A name that is registered twice, and a default that is given before its backend and again. -/
theorem built_gateway_knows_its_names_overwritten :
    let steps : List (GatewayStep Unit) :=
      [.defaultBackend "gone", .backend (refusing "first" 500), .defaultBackend "first",
        .backend (refusing "second" 400), .backend (refusing "first" 503), .maxRetries 2,
        .fallbackBackend "second"]
    let gateway := { refusingGateway with backends := [refusing "second" 400, refusing "first" 503] }
    let request := { ChatRequest.of "large" [] with backend := some "gone" }
    (GatewayDraft.ofSteps steps).build = .ok gateway ∧
      gateway.backend "first" = .ok (refusing "first" 503) ∧
      Task.run (gateway.recorded.chat (.ofTenant (.ofNat 1)) request).run 0 ⟨(), []⟩ =
        (.error (.notConfigured "gone"), 0, ⟨(), []⟩) := by
  intro steps gateway request
  have built : (GatewayDraft.ofSteps steps).build = .ok gateway := rfl
  rcases (built_gateway_knows_its_names steps).2 gateway built with
    ⟨-, -, -, bound, answers⟩
  exact ⟨built, bound "first", (answers (.ofTenant (.ofNat 1)) 0 ⟨(), []⟩).1 request⟩

end Gateway

end GroundedAnswers
