import GroundedAnswers.Answering.Operation
import GroundedAnswers.CommandLine.Command
import GroundedAnswers.CommandLine.Failure
import GroundedAnswers.CommandLine.Report
import GroundedAnswers.Gateway.Settings
import GroundedAnswers.Scripted.Backend
import GroundedAnswers.Stream.Basic

namespace GroundedAnswers

/-! Running a command. A report is printed once all that it tells is known; only a streamed answer
is printed before it is known whether all of it arrives. -/

structure Outcome where
  output : String
  failure : Option CommandFailure
  deriving DecidableEq, Repr

/-- The work of a command. What it has printed stays printed when it fails. -/
abbrev CommandTask (σ α : Type) := ExceptT CommandFailure (StateT String (Task σ)) α

namespace CommandTask

def print (text : String) : CommandTask σ Unit :=
  ExceptT.lift (modify (· ++ text))

def silently (task : Task σ α) : CommandTask σ α :=
  ExceptT.lift (StateT.lift task)

def attempt (failing : ε → CommandFailure) (task : ExceptT ε (Task σ) α) : CommandTask σ α := do
  match ← silently task.run with
  | .ok value => return value
  | .error failure => throw (failing failure)

def outcome (task : CommandTask σ Unit) : Task σ Outcome := do
  let (result, output) ← task.run.run ""
  match result with
  | .ok _ => return ⟨output, none⟩
  | .error failure => return ⟨output, some failure⟩

end CommandTask

open CommandTask

structure Surroundings (σ : Type) where
  gateway : Gateway σ
  store : VectorStore σ
  freshIdentifier : Task σ Identifier
  files : FileReader
  spans : Option (σ → SpanStore) := none
  record : {α : Type} → SpanLabel → Task σ α → Task σ α := fun _ task => task

namespace Surroundings

/-! ## Chatting -/

def chatRequest (command : ChatCommand) : ChatRequest :=
  let system := command.system.map Message.system
  { ChatRequest.of (command.model.getD "") (system.toList ++ [.user command.prompt]) with
    backend := command.backend
    temperature := command.temperature }

def printEvents (interruption : Option Interruption) : List StreamEvent → CommandTask σ Unit
  | [] =>
      throw ((interruption.map fun cause => .model (.interrupted cause)).getD .unfinishedStream)
  | .delta text :: events => do
      print text
      printEvents interruption events
  | .done _ :: _ => print "\n"
  | .failed message :: _ => throw (.stream message)

def chat (surroundings : Surroundings σ) (context : RequestContext) (command : ChatCommand) :
    CommandTask σ Unit := do
  let request := chatRequest command
  if command.stream then
    let stream ← attempt .model (surroundings.gateway.chatStream context request)
    let (events, interruption) ← silently (stream.follow context)
    printEvents interruption events
  else
    let response ← attempt .model (surroundings.gateway.chat context request)
    print (Report.line response.content)

/-! ## Finding and answering -/

def settings (corpus : CorpusOptions) : RetrievalSettings :=
  let standard : RetrievalSettings := {}
  { standard with
    chunking := corpus.chunking
    embeddingModel := corpus.embeddingModel.getD standard.embeddingModel
    embeddingBackend := corpus.embeddingBackend }

def pipeline (surroundings : Surroundings σ) (corpus : CorpusOptions) :
    Except RetrievalFailure (Pipeline σ) := do
  let settings ← (settings corpus).checked
  let draft : PipelineDraft σ :=
    { settings, gateway := some surroundings.gateway, store := some surroundings.store }
  draft.build surroundings.freshIdentifier

def recorded (surroundings : Surroundings σ) (context : RequestContext)
    (operation : PipelineOperation) (task : RetrievalTask σ α) : RetrievalTask σ α :=
  ExceptT.mk (surroundings.record (operation.spanLabel context) task.run)

/-- Store files. Those without text are passed over. -/
def storeFiles (surroundings : Surroundings σ) (pipeline : Pipeline σ) (context : RequestContext) :
    List String → CommandTask σ DocumentPaths
  | [] => pure []
  | path :: paths => do
      match surroundings.files.text path with
      | .error fault => throw (.reading path fault)
      | .ok content =>
          let document ← silently surroundings.freshIdentifier
          let request : IngestRequest :=
            { IngestRequest.of document content with metadata := .ofMembers [("source", path)] }
          let task := surroundings.recorded context (.ingest request)
            (pipeline.ingest context request)
          match ← silently task.run with
          | .ok _ =>
              let others ← surroundings.storeFiles pipeline context paths
              return (document, path) :: others
          | .error .noChunks => surroundings.storeFiles pipeline context paths
          | .error failure => throw (.ingesting path failure)

/-- A pipeline over the files of a corpus, at least one of which has to have a text. -/
def load (surroundings : Surroundings σ) (context : RequestContext) (corpus : CorpusOptions) :
    CommandTask σ (Pipeline σ × DocumentPaths) := do
  let pipeline ← attempt .retrieval (ExceptT.mk (pure (surroundings.pipeline corpus)))
  let paths ← surroundings.storeFiles pipeline context corpus.files
  if paths.isEmpty then throw .noText
  return (pipeline, paths)

def searchRequest (finding : FindingOptions) (query : String) : SearchRequest where
  query := query
  topK := finding.topK
  minScore := finding.minScore
  hybrid := finding.hybrid
  rerank := finding.rerank
  rephrase := finding.rephrase
  hypothetical := finding.hypothetical

def printTrace (surroundings : Surroundings σ) (context : RequestContext)
    (finding : FindingOptions) : CommandTask σ Unit := do
  match finding.trace, surroundings.spans with
  | true, some spans =>
      let state ← silently get
      print (Report.trace ((spans state).spansFor context.tenant.text))
  | _, _ => return

def ask (surroundings : Surroundings σ) (context : RequestContext) (command : AskCommand) :
    CommandTask σ Unit := do
  let (pipeline, paths) ← surroundings.load context command.corpus
  let request : QueryRequest :=
    { searchRequest command.finding command.question with
      model := command.model.getD ""
      backend := command.backend }
  let response ← attempt .retrieval
    (surroundings.recorded context (.query request) (pipeline.query context request))
  print (Report.answer paths response)
  surroundings.printTrace context command.finding

def search (surroundings : Surroundings σ) (context : RequestContext) (command : SearchCommand) :
    CommandTask σ Unit := do
  let (pipeline, paths) ← surroundings.load context command.corpus
  let request := searchRequest command.finding command.query
  let results ← attempt .retrieval
    (surroundings.recorded context (.search request) (pipeline.search context request))
  print (Report.passages paths results)
  surroundings.printTrace context command.finding

/-! ## All commands -/

def run (surroundings : Surroundings σ) (context : RequestContext) : Command → Task σ Outcome
  | .models json => (print (Report.models json surroundings.gateway.models)).outcome
  | .chat command => (surroundings.chat context command).outcome
  | .ask command => (surroundings.ask context command).outcome
  | .search command => (surroundings.search context command).outcome

end Surroundings

namespace CommandLine

def offlineBackend : ScriptedBackend := { name := "offline" }

/-- The gateway that an environment describes, or one with a single backend that needs none. -/
def openGateway (offline : Option (Backend σ)) (environment : List (String × String))
    (connection : Except String (Transport σ)) : Except CommandFailure (Gateway σ) :=
  match offline with
  | some backend =>
      let draft : GatewayDraft σ := {}
      (draft.register backend).build.mapError .model
  | none => do
      let settings ← (GatewaySettings.ofEnvironment environment).mapError .environment
      (settings.buildGateway connection).mapError .noBackend

def context (common : CommonOptions) (tenant : Identifier) (now : Moment) : RequestContext :=
  let context := RequestContext.ofTenant tenant
  match common.timeout with
  | some seconds => context.withTimeout now (seconds.toNat * Duration.nanosecondsPerSecond)
  | none => context

end CommandLine

end GroundedAnswers
