import GroundedAnswers.Chunking.Strategy

namespace GroundedAnswers

/-! What the command line can be told to do. -/

structure CommonOptions where
  jsonLogs : Bool := false
  /-- After how many seconds everything stops. -/
  timeout : Option UInt64 := none
  /-- Answer from a script and not from a service. -/
  offline : Bool := false
  deriving DecidableEq, Repr

structure ChatCommand where
  prompt : String := ""
  model : Option String := none
  backend : Option String := none
  system : Option String := none
  temperature : Option Float32 := none
  stream : Bool := false

structure CorpusOptions where
  files : List String := []
  chunking : ChunkOptions := .standard
  embeddingModel : Option String := none
  embeddingBackend : Option String := none

structure FindingOptions where
  topK : Int32 := 0
  minScore : Float32 := 0.0
  hybrid : Bool := false
  rerank : Bool := false
  rephrase : Bool := false
  hypothetical : Bool := false
  /-- List the spans of the work at the end. -/
  trace : Bool := false

structure AskCommand where
  question : String := ""
  corpus : CorpusOptions := {}
  finding : FindingOptions := {}
  model : Option String := none
  backend : Option String := none

structure SearchCommand where
  query : String := ""
  corpus : CorpusOptions := {}
  finding : FindingOptions := {}

inductive Command where
  | models (json : Bool)
  | chat (command : ChatCommand)
  | ask (command : AskCommand)
  | search (command : SearchCommand)

structure Invocation where
  common : CommonOptions
  command : Command

end GroundedAnswers
