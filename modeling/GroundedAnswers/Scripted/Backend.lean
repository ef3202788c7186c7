import GroundedAnswers.Backend
import GroundedAnswers.Embedding.BagOfWords
import GroundedAnswers.Text.Blank
import GroundedAnswers.Text.Search

namespace GroundedAnswers

/-! A backend that needs no model. It answers from a script and keeps a record of what it was
asked. -/

inductive RuleAction where
  | reply (content : String)
  /-- Repeat the last message. -/
  | echo
  | fail (failure : ModelFailure)

/-- A rule for the requests whose messages contain a text. -/
structure ReplyRule where
  contains : String
  action : RuleAction

inductive EmbeddingAction where
  | fail (failure : ModelFailure)
  | vectors (vectors : List Vector32)
  | first (count : Nat)
  | all

structure ScriptedBackend where
  name : String
  models : List String := ["mock-chat", "mock-embed"]
  failing : Bool := false
  /-- The outcomes of the first requests. -/
  replies : List (Except ModelFailure String) := []
  rules : List ReplyRule := []
  defaultReply : String := "mock response"
  usage : Usage := .of 10 5
  embeddings : List EmbeddingAction := []
  /-- How long every request takes before it is looked at. -/
  delayNanoseconds : Nat := 0
  /-- Names that chat responses carry instead of the true ones. -/
  responseBackend : Option String := none
  responseModel : Option String := none

/-- What a scripted backend has been asked so far, and the replies that are left. -/
structure ScriptRecord where
  chats : Nat := 0
  streams : Nat := 0
  embeddings : Nat := 0
  requests : List ChatRequest := []
  embeddingRequests : List EmbeddingRequest := []
  /-- How many embedding requests were answered from the script. -/
  embeddingActions : Nat := 0
  replies : List (Except ModelFailure String) := []
  deriving Inhabited

namespace ScriptedBackend

def record (script : ScriptedBackend) : ScriptRecord :=
  { replies := script.replies }

def fault (script : ScriptedBackend) : ModelFailure :=
  .unreachable script.name "mock failure"

def ruledReply (script : ScriptedBackend) (request : ChatRequest) : Except ModelFailure String :=
  let text := "\n".intercalate (request.messages.map Message.content)
  match script.rules.find? fun rule => Text.contains text rule.contains with
  | none => .ok script.defaultReply
  | some rule =>
      match rule.action with
      | .reply content => .ok content
      | .echo => .ok ((request.messages.getLast?.map Message.content).getD "")
      | .fail failure => .error failure

/-- The next reply: from the queue while it lasts, then by the rules. -/
def nextReply (script : ScriptedBackend) (request : ChatRequest) : ModelTask ScriptRecord String :=
  if script.failing then throw script.fault
  else do
    let record ← get
    match record.replies with
    | reply :: replies =>
        set { record with replies }
        ExceptT.mk (pure reply)
    | [] => ExceptT.mk (pure (script.ruledReply request))

def chat (script : ScriptedBackend) (context : RequestContext) (request : ChatRequest) :
    ModelTask ScriptRecord ChatResponse := do
  ExceptT.lift (Task.delay script.delayNanoseconds)
  modify fun record =>
    { record with chats := record.chats + 1, requests := record.requests ++ [request] }
  context.guard (pure ())
  let content ← script.nextReply request
  let record ← get
  return {
    id := some s!"mock-{record.chats}"
    backend := script.responseBackend.getD script.name
    model := script.responseModel.getD request.model
    content := content
    usage := script.usage
    cost := 0.0
    latencyMilliseconds := 0 }

def piecesOf (content : String) : List String :=
  (Text.splitBehind (fun character _ => character = ' ') content.toList).map String.ofList

def chatStream (script : ScriptedBackend) (context : RequestContext) (request : ChatRequest) :
    ModelTask ScriptRecord ChatStream := do
  ExceptT.lift (Task.delay script.delayNanoseconds)
  modify fun record =>
    { record with streams := record.streams + 1, requests := record.requests ++ [request] }
  context.guard (pure ())
  let content ← script.nextReply request
  return ⟨{ watched := none, usage := script.usage },
    [.frames ((piecesOf content).map .delta)], []⟩

def scriptedVectors (script : ScriptedBackend) (action : Nat) (inputs : List String) :
    Except ModelFailure (List Vector32) :=
  match script.embeddings[action]? with
  | some (.fail failure) => .error failure
  | some (.vectors vectors) => .ok vectors
  | some (.first count) => .ok ((inputs.take count).map BagOfWords.embedding)
  | some .all | none => .ok (inputs.map BagOfWords.embedding)

def embed (script : ScriptedBackend) (context : RequestContext) (request : EmbeddingRequest) :
    ModelTask ScriptRecord EmbeddingResponse := do
  ExceptT.lift (Task.delay script.delayNanoseconds)
  modify fun record =>
    { record with
      embeddings := record.embeddings + 1
      embeddingRequests := record.embeddingRequests ++ [request] }
  context.guard (pure ())
  if script.failing then throw script.fault
  let record ← get
  set { record with embeddingActions := record.embeddingActions + 1 }
  let vectors ← ExceptT.mk (pure (script.scriptedVectors record.embeddingActions request.inputs))
  let words := request.inputs.foldl (fun count input => count + Text.wordCount input) 0
  return ⟨script.name, request.model, vectors, words.toUInt32, 0.0⟩

def backend (script : ScriptedBackend) : Backend ScriptRecord where
  name := script.name
  models := script.models
  chat := script.chat
  chatStream := script.chatStream
  embed := script.embed

end ScriptedBackend

end GroundedAnswers
