import GroundedAnswers.CommandLine.Options
import GroundedAnswers.CommandLine.Run
import GroundedAnswers.CommandLine.Usage
import GroundedAnswers.Scripted.World

/-! The program: it reads the command line, the environment and the files, runs the command, and
prints what the command gives. -/

namespace GroundedAnswers.Program

def variableNames : List String :=
  ["OPENAI_API_KEY", "OPENAI_BASE_URL", "ANTHROPIC_API_KEY", "OLLAMA_URL", "LLM_DEFAULT_PROVIDER",
    "LLM_DEFAULT_MODEL", "LLM_FALLBACK_PROVIDER", "LLM_FALLBACK_MODEL", "LLM_MAX_RETRIES"]

def readEnvironment : IO (List (String × String)) := do
  let found ← variableNames.mapM fun name => do
    return (← IO.getEnv name).map fun value => (name, value)
  return found.filterMap id

/-- Some faults come with their code negated. -/
def faultOf : IO.Error → FileFault
  | .noFileOrDirectory .. => .missing
  | .inappropriateType _ code details =>
      if code = 20 ∨ -code = 20 then .notDirectory
      else if code = 21 ∨ -code = 21 then .directory
      else .other details
  | fault => .other (toString fault)

def readFile (path : String) : IO (Except FileFault (List UInt8)) := do
  match ← (IO.FS.readBinFile path).toBaseIO with
  | .ok bytes => return .ok bytes.toList
  | .error fault => return .error (faultOf fault)

def filesOf : Command → List String
  | .ask command => command.corpus.files
  | .search command => command.corpus.files
  | _ => []

def readFiles (command : Command) : IO FileReader := do
  let contents ← (filesOf command).mapM fun path => do return (path, ← readFile path)
  return fun path => (contents.lookup path).getD (.error .missing)

def world : ScriptedWorld :=
  ScriptedWorld.start [CommandLine.offlineBackend] []

def record (label : SpanLabel) (task : Task ScriptedWorld α) : Task ScriptedWorld α :=
  Task.spanned ScriptedWorld.recorder (fun recorder world => { world with recorder }) "pipeline"
    label task

/-- What a command works with. Without log lines of JSON its spans are kept to be listed. -/
def surroundings (common : CommonOptions) (files : FileReader) (gateway : Gateway ScriptedWorld) :
    Surroundings ScriptedWorld where
  gateway := gateway
  store := ScriptedWorld.vectorStore
  freshIdentifier := ScriptedWorld.freshIdentifier
  files := files
  spans := if common.jsonLogs then none else some fun world => world.recorder.store
  record := record

/-- The outcome of an invocation. There is no client here with which a service could be asked. -/
def outcome (invocation : Invocation) (environment : List (String × String)) (files : FileReader)
    (tenant : Identifier) : Outcome :=
  let common := invocation.common
  let backend :=
    if common.offline then (ScriptedWorld.backends [CommandLine.offlineBackend]).head? else none
  match CommandLine.openGateway backend environment (.error "no HTTP client is available") with
  | .error failure => ⟨"", some failure⟩
  | .ok gateway =>
      let context := CommandLine.context common tenant 0
      (((surroundings common files gateway).run context invocation.command).run 0 world).1

end GroundedAnswers.Program

open GroundedAnswers in
def main (arguments : List String) : IO UInt32 := do
  match CommandLine.read arguments with
  | .error fault =>
      if fault.isError then IO.eprintln fault.message else IO.println fault.message
      return if fault.isError then 2 else 0
  | .ok invocation =>
      let environment ← Program.readEnvironment
      let files ← Program.readFiles invocation.command
      let tenant := Identifier.ofNat (← IO.rand 0 (Number.binaryPower 128 - 1))
      let outcome := Program.outcome invocation environment files tenant
      IO.print outcome.output
      match outcome.failure with
      | none => return 0
      | some failure =>
          IO.eprintln s!"Error: {failure.message}"
          return 1
