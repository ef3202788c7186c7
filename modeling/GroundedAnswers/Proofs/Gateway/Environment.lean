import GroundedAnswers.Gateway.Settings
import GroundedAnswers.Proofs.Gateway.Building
import GroundedAnswers.Json.Members
import GroundedAnswers.Proofs.Number.Unsigned
import GroundedAnswers.Scripted.Transport

namespace GroundedAnswers

/-! Gateways that are set up by an environment. Blank values count as none, everywhere: neither do
they bring in a service, nor do they get in the way of a default. -/

namespace GatewayStep

variable (steps : List (GatewayStep σ)) (backends : List (Backend σ))

private theorem registered_append_backends :
    registered (steps ++ backends.map .backend) = registered steps ++ backends := by
  rw [registered, List.filterMap_append, List.filterMap_map]
  exact congrArg _ List.filterMap_some

private theorem lastDefault?_append_backends :
    lastDefault? (steps ++ backends.map .backend) = lastDefault? steps := by
  have none : (backends.map GatewayStep.backend).reverse.findSome? defaultBackend? = none := by
    simp [defaultBackend?]
  rw [lastDefault?, List.reverse_append, List.findSome?_append, none, Option.none_or, lastDefault?]

private theorem lastFallback?_append_backends :
    lastFallback? (steps ++ backends.map .backend) = lastFallback? steps := by
  have none : (backends.map GatewayStep.backend).reverse.findSome? fallbackBackend? = none := by
    simp [fallbackBackend?]
  rw [lastFallback?, List.reverse_append, List.findSome?_append, none, Option.none_or, lastFallback?]

end GatewayStep

namespace GatewaySettings

/-! ## From settings to a gateway -/

def Names (settings : GatewaySettings) (name : String) : Prop :=
  name = OpenAi.name ∧ settings.openAiKey.isSome ∨
    name = Anthropic.name ∧ settings.anthropicKey.isSome ∨
    name = Ollama.name ∧ settings.ollamaAddress.isSome

section

variable (settings : GatewaySettings) (transport : Transport σ)

def connected : List (Backend σ) :=
  settings.services.map fun service => service.2 transport

def steps : List (GatewayStep σ) :=
  [.defaultBackend settings.defaultBackend, .defaultModel settings.defaultModel,
    .retryPolicy settings.retryPolicy] ++
  settings.fallbackBackend.toList.map .fallbackBackend ++
  settings.fallbackModel.toList.map .fallbackModel ++
  (settings.connected transport).map .backend

private theorem mapM_connect (services : List (String × (Transport σ → Backend σ))) :
    services.mapM (connect (.ok transport)) = .ok (services.map fun service => service.2 transport) :=
  List.mapM_pure

private theorem buildGateway_eq :
    settings.buildGateway (.ok transport) =
      (GatewayDraft.ofSteps (settings.steps transport)).build := by
  rw [buildGateway, mapM_connect]
  change (List.foldl GatewayDraft.register _ (settings.connected transport)).build = _
  rw [steps, GatewayDraft.ofSteps, List.foldl_append, List.foldl_map]
  cases settings.fallbackBackend <;> cases settings.fallbackModel <;> rfl

private theorem registered_steps :
    GatewayStep.registered (settings.steps transport) = settings.connected transport := by
  rw [steps, GatewayStep.registered_append_backends]
  cases settings.fallbackBackend <;> cases settings.fallbackModel <;> rfl

private theorem lastDefault?_steps :
    GatewayStep.lastDefault? (settings.steps transport) = some settings.defaultBackend := by
  rw [steps, GatewayStep.lastDefault?_append_backends]
  cases settings.fallbackBackend <;> cases settings.fallbackModel <;> rfl

private theorem lastFallback?_steps :
    GatewayStep.lastFallback? (settings.steps transport) = settings.fallbackBackend := by
  rw [steps, GatewayStep.lastFallback?_append_backends]
  cases settings.fallbackBackend <;> cases settings.fallbackModel <;> rfl

private theorem mem_names_connected {name : String} :
    name ∈ (settings.connected transport).map (·.name) ↔ settings.Names name := by
  cases openAi : settings.openAiKey <;> cases anthropic : settings.anthropicKey <;>
    cases ollama : settings.ollamaAddress <;>
    simp [connected, services, Names, openAi, anthropic, ollama, OpenAi.backend, Anthropic.backend,
      Ollama.backend]

private theorem exists_buildGateway_iff :
    (∃ gateway, settings.buildGateway (.ok transport) = .ok gateway) ↔
      settings.Names settings.defaultBackend ∧
        ∀ name, settings.fallbackBackend = some name → settings.Names name := by
  rw [buildGateway_eq, (GatewayDraft.reflects_ofSteps _).exists_build_iff, lastDefault?_steps,
    lastFallback?_steps, registered_steps]
  simp only [mem_names_connected]

private theorem backends_of_buildGateway {gateway : Gateway σ}
    (built : settings.buildGateway (.ok transport) = .ok gateway) :
    (gateway.backends.map (·.name)).Nodup ∧
      ∀ name, name ∈ gateway.backends.map (·.name) ↔ settings.Names name := by
  have reflects := GatewayDraft.reflects_ofSteps (settings.steps transport)
  rw [buildGateway_eq] at built
  rcases GatewayDraft.build_eq_ok_iff.mp built with ⟨-, -, -, whole⟩
  have same : gateway.backends = (GatewayDraft.ofSteps (settings.steps transport)).backends :=
    congrArg Gateway.backends whole
  rw [same]
  refine ⟨reflects.distinct, fun name => ?_⟩
  rw [reflects.mem_names_iff, registered_steps, mem_names_connected]

end

/-! ## From an environment to settings -/

def IsSet (environment : List (String × String)) (name value : String) : Prop :=
  environment.lookup name = some value ∧ Text.isBlankText value = false

def variableNames : List String :=
  ["OPENAI_API_KEY", "OPENAI_BASE_URL", "ANTHROPIC_API_KEY", "OLLAMA_URL", "LLM_DEFAULT_PROVIDER",
    "LLM_DEFAULT_MODEL", "LLM_FALLBACK_PROVIDER", "LLM_FALLBACK_MODEL", "LLM_MAX_RETRIES"]

private theorem valueOf?_eq_some_iff {environment : List (String × String)} {name value : String} :
    valueOf? environment name = some value ↔ IsSet environment name value := by
  simp [valueOf?, IsSet, Option.filter_eq_some_iff]

private theorem isSome_valueOf?_iff {environment : List (String × String)} {name : String} :
    (valueOf? environment name).isSome ↔ ∃ value, IsSet environment name value := by
  simp only [Option.isSome_iff_exists, valueOf?_eq_some_iff]

private theorem getD_valueOf?_iff {environment : List (String × String)}
    {given standard name : String} :
    (valueOf? environment given).getD standard = name ↔
      IsSet environment given name ∨ name = standard ∧ ∀ other, ¬IsSet environment given other := by
  simp only [← valueOf?_eq_some_iff]
  cases valueOf? environment given <;> simp [eq_comm]

private theorem exists_readRetries_iff {text : String} :
    (∃ count, readRetries text = .ok count) ↔
      ∃ size, Number.IsUnsigned (UInt32.size - 1) (Text.trimmed text.toList) size := by
  have written : (Text.trim text).toList = Text.trimmed text.toList := String.toList_ofList
  simp only [← written, ← Number.readWhole_eq_ok_iff]
  change _ ↔ ∃ size, Number.readWhole 0 (UInt32.size - 1) (Text.trim text) = .ok size
  unfold readRetries
  cases Number.readWhole 0 (UInt32.size - 1) (Text.trim text) <;> simp

private theorem ofEnvironment_congr {left right : List (String × String)}
    (same : ∀ name ∈ variableNames, valueOf? left name = valueOf? right name) :
    ofEnvironment left = ofEnvironment right := by
  simp only [variableNames, List.forall_mem_cons] at same
  rcases same with ⟨openAiKey, openAiBase, anthropicKey, ollamaAddress, defaultBackend,
    defaultModel, fallbackBackend, fallbackModel, retries, -⟩
  simp only [ofEnvironment, *]

def asked (environment : List (String × String)) (count : UInt32) : GatewaySettings where
  openAiKey := valueOf? environment "OPENAI_API_KEY"
  openAiBase := valueOf? environment "OPENAI_BASE_URL"
  anthropicKey := valueOf? environment "ANTHROPIC_API_KEY"
  ollamaAddress := valueOf? environment "OLLAMA_URL"
  defaultBackend := (valueOf? environment "LLM_DEFAULT_PROVIDER").getD "openai"
  defaultModel := (valueOf? environment "LLM_DEFAULT_MODEL").getD "gpt-4o-mini"
  fallbackBackend := valueOf? environment "LLM_FALLBACK_PROVIDER"
  fallbackModel := valueOf? environment "LLM_FALLBACK_MODEL"
  maxRetries := count

variable {environment : List (String × String)}

private theorem ofEnvironment_eq_ok_iff {settings : GatewaySettings} :
    ofEnvironment environment = .ok settings ↔
      ∃ count, ((valueOf? environment "LLM_MAX_RETRIES").elim (.ok 3) readRetries) = .ok count ∧
        settings = asked environment count := by
  simp only [ofEnvironment]
  cases valueOf? environment "LLM_MAX_RETRIES" with
  | none => simp [asked, pure, bind, Except.pure, Except.bind, eq_comm]
  | some text =>
      cases read : readRetries text <;>
        simp [asked, read, pure, bind, Except.pure, Except.bind, eq_comm]

private theorem exists_ofEnvironment_iff :
    (∃ settings, ofEnvironment environment = .ok settings) ↔
      ∀ text, IsSet environment "LLM_MAX_RETRIES" text →
        ∃ size, Number.IsUnsigned (UInt32.size - 1) (Text.trimmed text.toList) size := by
  simp only [ofEnvironment_eq_ok_iff, ← valueOf?_eq_some_iff, ← exists_readRetries_iff]
  rw [exists_comm]
  cases valueOf? environment "LLM_MAX_RETRIES" <;> simp

/-- The services that an environment has a key or an address for. -/
def Offers (environment : List (String × String)) (name : String) : Prop :=
  name = "openai" ∧ (∃ key, IsSet environment "OPENAI_API_KEY" key) ∨
    name = "anthropic" ∧ (∃ key, IsSet environment "ANTHROPIC_API_KEY" key) ∨
    name = "ollama" ∧ ∃ address, IsSet environment "OLLAMA_URL" address

private theorem names_asked {count : UInt32} {name : String} :
    (asked environment count).Names name ↔ Offers environment name := by
  simp only [Offers, ← isSome_valueOf?_iff]
  rfl

/-! ## Variables that do not count -/

/-- An environment without repeated names is a map. -/
theorem isSet_iff_mem (distinct : (environment.map (·.1)).Nodup) {name value : String} :
    IsSet environment name value ↔
      (name, value) ∈ environment ∧ Text.isBlankText value = false :=
  and_congr_left fun _ => Json.lookup_eq_some_iff_mem distinct

private theorem ofEnvironment_filter (distinct : (environment.map (·.1)).Nodup)
    {keep : String × String → Bool}
    (kept : ∀ entry ∈ environment,
      entry.1 ∈ variableNames → Text.isBlankText entry.2 = false → keep entry) :
    ofEnvironment (environment.filter keep) = ofEnvironment environment := by
  refine ofEnvironment_congr fun name read => Option.ext fun value => ?_
  have stillDistinct : ((environment.filter keep).map (·.1)).Nodup :=
    distinct.sublist (List.filter_sublist.map _)
  rw [valueOf?_eq_some_iff, valueOf?_eq_some_iff, isSet_iff_mem distinct, isSet_iff_mem stillDistinct,
    List.mem_filter]
  constructor
  · rintro ⟨⟨member, -⟩, notBlank⟩
    exact ⟨member, notBlank⟩
  · rintro ⟨member, notBlank⟩
    exact ⟨⟨member, kept _ member read notBlank⟩, notBlank⟩

/-- A gateway is set up by an environment exactly if the number of retries, where it is set, is
one, and the services that it names for the default and the fallback are those it has a key or an
address for. These are then the ones that are registered. Blank values and other variables make no
difference. -/
theorem environment_sets_up_gateway (environment : List (String × String)) (transport : Transport σ) :
    ((∃ settings gateway, ofEnvironment environment = .ok settings ∧
        settings.buildGateway (.ok transport) = .ok gateway) ↔
      (∀ text, IsSet environment "LLM_MAX_RETRIES" text →
        ∃ size, Number.IsUnsigned (UInt32.size - 1) (Text.trimmed text.toList) size) ∧
      (∃ name, (IsSet environment "LLM_DEFAULT_PROVIDER" name ∨
          name = "openai" ∧ ∀ other, ¬IsSet environment "LLM_DEFAULT_PROVIDER" other) ∧
        Offers environment name) ∧
      ∀ name, IsSet environment "LLM_FALLBACK_PROVIDER" name → Offers environment name) ∧
    (∀ settings gateway, ofEnvironment environment = .ok settings →
      settings.buildGateway (.ok transport) = .ok gateway →
      (gateway.backends.map (·.name)).Nodup ∧
        ∀ name, name ∈ gateway.backends.map (·.name) ↔ Offers environment name) ∧
    ∀ keep : String × String → Bool, (environment.map (·.1)).Nodup →
      (∀ entry ∈ environment,
        entry.1 ∈ variableNames → Text.isBlankText entry.2 = false → keep entry) →
      ofEnvironment (environment.filter keep) = ofEnvironment environment := by
  refine ⟨?_, fun settings gateway made built => ?_, fun keep distinct kept =>
    ofEnvironment_filter distinct kept⟩
  · constructor
    · rintro ⟨settings, gateway, made, built⟩
      have retries := exists_ofEnvironment_iff.mp ⟨settings, made⟩
      rcases ofEnvironment_eq_ok_iff.mp made with ⟨count, -, rfl⟩
      rcases (exists_buildGateway_iff _ transport).mp ⟨gateway, built⟩ with ⟨default, fallbacks⟩
      refine ⟨retries, ⟨_, getD_valueOf?_iff.mp rfl, names_asked.mp default⟩, fun name set => ?_⟩
      exact names_asked.mp (fallbacks name (valueOf?_eq_some_iff.mpr set))
    · rintro ⟨retries, ⟨name, chosen, offered⟩, fallbacks⟩
      rcases exists_ofEnvironment_iff.mpr retries with ⟨settings, made⟩
      rcases ofEnvironment_eq_ok_iff.mp made with ⟨count, -, rfl⟩
      have default : (asked environment count).defaultBackend = name := getD_valueOf?_iff.mpr chosen
      have builds := (exists_buildGateway_iff (asked environment count) transport).mpr
        ⟨default ▸ names_asked.mpr offered, fun other given =>
          names_asked.mpr (fallbacks other (valueOf?_eq_some_iff.mp given))⟩
      rcases builds with ⟨gateway, built⟩
      exact ⟨_, gateway, made, built⟩
  · rcases ofEnvironment_eq_ok_iff.mp made with ⟨count, -, rfl⟩
    simpa only [names_asked] using backends_of_buildGateway _ _ built

/-- A count with a sign and blanks around it, a key that is blank, and variables of others. -/
theorem environment_sets_up_gateway_blanks :
    let environment := [("HOME", "/"), ("LLM_MAX_RETRIES", "\t+07 "), ("OPENAI_API_KEY", " "),
      ("OLLAMA_URL", "http://localhost"), ("LLM_DEFAULT_PROVIDER", "ollama"),
      ("LLM_FALLBACK_PROVIDER", "")]
    let kept := [("LLM_MAX_RETRIES", "\t+07 "), ("OLLAMA_URL", "http://localhost"),
      ("LLM_DEFAULT_PROVIDER", "ollama")]
    (∃ settings gateway, ofEnvironment environment = .ok settings ∧
      settings.buildGateway (.ok ScriptedTransport.send) = .ok gateway ∧
      ∀ name, name ∈ gateway.backends.map (·.name) ↔ Offers environment name) ∧
    ofEnvironment kept = ofEnvironment environment := by
  intro environment kept
  rcases environment_sets_up_gateway environment ScriptedTransport.send with
    ⟨sets, registers, unchanged⟩
  have retries : ∀ text, IsSet environment "LLM_MAX_RETRIES" text →
      ∃ size, Number.IsUnsigned (UInt32.size - 1) (Text.trimmed text.toList) size := by
    rintro text ⟨held, -⟩
    have same : text = "\t+07 " := (Option.some.inj held).symm
    exact same ▸ ⟨7, ['0', '7'], .inr (by decide), by decide, by simp, rfl, by decide⟩
  have offered : Offers environment "ollama" := .inr (.inr ⟨rfl, "http://localhost", rfl, rfl⟩)
  have noFallback : ∀ name, IsSet environment "LLM_FALLBACK_PROVIDER" name →
      Offers environment name := by
    rintro name ⟨held, notBlank⟩
    cases held
    cases notBlank
  rcases sets.mpr ⟨retries, ⟨"ollama", .inl ⟨rfl, rfl⟩, offered⟩, noFallback⟩ with
    ⟨settings, gateway, made, built⟩
  refine ⟨⟨settings, gateway, made, built, (registers settings gateway made built).2⟩, ?_⟩
  exact unchanged (fun entry => entry.1 ∈ variableNames && !Text.isBlankText entry.2) (by decide)
    (by decide)

end GatewaySettings

end GroundedAnswers
