import GroundedAnswers.Failure.Description
import GroundedAnswers.Gateway.Settings
import GroundedAnswers.Json.Canonical
import GroundedAnswers.Scripted.World

namespace GroundedAnswers

/-! Scripts described in JSON. -/

/-- A text stands for its bytes; other bytes are given by their hexadecimal digits. -/
def describedBytes : Json → List UInt8
  | .string text => Text.Utf8.encode text
  | json => hexPairs ((json.textAt "hex").toList.filterMap Json.hexDigit?)
where
  hexPairs : List Nat → List UInt8
    | first :: second :: rest => (16 * first + second).toUInt8 :: hexPairs rest
    | _ => []

def describedVector (json : Json) : Vector32 :=
  json.items.map Json.nearestFloat32

/-- An identifier as a text, or by its number. -/
def describedIdentifier : Json → Identifier
  | .string text => (Identifier.read? text).getD default
  | json => .ofNat (json.natural?.getD 0)

def Json.delayAt? (json : Json) (name : String) : Option Nat :=
  (json.naturalAt? name).map (· * Duration.nanosecondsPerMillisecond)

def RequestContext.ofDescription (json : Json) (now : Moment) : RequestContext :=
  let plain := RequestContext.ofTenant (describedIdentifier (json.field "tenant"))
  let limited :=
    match json.delayAt? "timeout_ms" with
    | some nanoseconds => plain.withTimeout now nanoseconds
    | none => plain
  let watched :=
    match json.delayAt? "cancel_at_ms" with
    | some nanoseconds => limited.cancelledFrom (now.besideAfter nanoseconds)
    | none => limited
  if json.truthAt "cancelled" then watched.cancelledFrom now else watched

def describedTime : Json → Nat
  | .string text => text.toNat?.getD 0
  | .number numeral => Number.digitsValue numeral.whole
  | _ => 0

def SpanRecord.ofDescription (json : Json) : SpanRecord where
  id := json.textAt "span_id"
  parent := json.textAt? "parent_id"
  name := json.textAt "name"
  target := json.textAt "target"
  start := describedTime (json.field "start")
  finish := describedTime (json.field "end")
  attributes := SpanRecorder.withAttributes [] (json.field "attributes").members

namespace ScriptedBackend

def describedFailure (name : String) (json : Json) : ModelFailure :=
  .ofDescription name (json.field "error")

def describedReply (name : String) : Json → Except ModelFailure String
  | .string text => .ok text
  | json => .error (describedFailure name json)

def describedRule (name : String) (json : Json) : ReplyRule where
  contains := json.textAt "contains"
  action :=
    match json.textAt? "reply" with
    | some content => .reply content
    | none => if json.truthAt "echo" then .echo else .fail (describedFailure name json)

def describedEmbedding (name : String) (json : Json) : EmbeddingAction :=
  if json.has "error" then .fail (describedFailure name json)
  else if json.has "vectors" then .vectors ((json.itemsAt "vectors").map describedVector)
  else
    match json.naturalAt? "first" with
    | some count => .first count
    | none => .all

def describedUsage? (json : Json) : Option Usage :=
  match json.items.filterMap Json.natural? with
  | [input, output] => some (.of input.toUInt32 output.toUInt32)
  | _ => none

/-- What a description does not mention is as in any scripted backend. -/
def ofDescription (json : Json) : ScriptedBackend :=
  let name := json.textAt "name"
  let plain : ScriptedBackend := { name }
  { plain with
    models := if json.has "models" then json.textsAt "models" else plain.models
    failing := json.truthAt "failing"
    replies := (json.itemsAt "replies").map (describedReply name)
    rules := (json.itemsAt "rules").map (describedRule name)
    defaultReply := (json.textAt? "default_reply").getD plain.defaultReply
    usage := (describedUsage? (json.field "usage")).getD plain.usage
    embeddings := (json.itemsAt "embed").map (describedEmbedding name)
    delayNanoseconds := (json.delayAt? "delay_ms").getD 0
    responseBackend := json.textAt? "response_backend"
    responseModel := json.textAt? "response_model" }

end ScriptedBackend

namespace ScriptedExchange

def describedPart (json : Json) : BodyPart :=
  match json.delayAt? "delay_ms", json.textAt? "fail" with
  | some nanoseconds, _ => .pause nanoseconds
  | none, some message => .failure message
  | none, none => .bytes (describedBytes json)

/-- A body in parts, a body of JSON, or plain bytes. -/
def describedBody : Json → List BodyPart
  | .array parts => parts.map describedPart
  | .null => []
  | json =>
      match json.member? "json" with
      | some value => [.bytes (Text.Utf8.encode ((value.canonical?.getD .null).compact))]
      | none => [.bytes (describedBytes json)]

def ofDescription (json : Json) : ScriptedExchange :=
  match json.textAt? "fail" with
  | some message => .lost message
  | none =>
      .response ((json.delayAt? "delay_ms").getD 0)
        ⟨((json.naturalAt? "status").getD 200).toUInt16, describedBody (json.field "body")⟩

end ScriptedExchange

def ScriptedStore.ofDescription (json : Json) : ScriptedStore where
  failing :=
    [StoreAction.upsert, .search, .delete].filter fun action =>
      (json.textsAt "failing").contains action.name
  failingSearches := (json.itemsAt "failing_searches").filterMap Json.natural?

structure ScriptedSetting where
  scripts : List ScriptedBackend
  world : ScriptedWorld
  gateway : Except ModelFailure (Gateway ScriptedWorld)

namespace ScriptedSetting

def describedDraft (json : Json) : GatewayDraft σ where
  defaultBackend := json.textAt? "default_backend"
  fallbackBackend := json.textAt? "fallback_backend"
  fallbackModel := json.textAt? "fallback_model"
  defaultModel := json.textAt? "default_model"
  retry :=
    let standard := RetryPolicy.standard
    ⟨((json.naturalAt? "max_retries").map Nat.toUInt32).getD standard.maxRetries,
      ((json.naturalAt? "base_delay_ms").map fun milliseconds =>
        .ofMilliseconds milliseconds.toUInt64).getD standard.baseDelay⟩

def describedConnection (json : Json) : Except String (Transport ScriptedWorld) :=
  match json.textAt? "client_error" with
  | some message => .error message
  | none => .ok ScriptedWorld.send

/-- A description names scripted backends, or has settings for a gateway over the services. -/
def ofDescription (json : Json) : ScriptedSetting :=
  let scripts := (json.itemsAt "backends").map ScriptedBackend.ofDescription
  let exchanges := (json.itemsAt "transport").map ScriptedExchange.ofDescription
  let world :=
    { ScriptedWorld.start scripts exchanges with
      store := ScriptedStore.ofDescription (json.field "store") }
  let gateway :=
    match GatewaySettings.ofJson? (json.field "config") with
    | some settings => settings.buildGateway (describedConnection json)
    | none =>
        ((ScriptedWorld.backends scripts).foldl GatewayDraft.register (describedDraft json)).build
  ⟨scripts, world, gateway⟩

end ScriptedSetting

end GroundedAnswers
