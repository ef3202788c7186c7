import GroundedAnswers.CommandLine.Command
import GroundedAnswers.CommandLine.Words
import GroundedAnswers.Number.Numeral

namespace GroundedAnswers

/-! The options of every command, and reading a whole command line. -/

namespace OptionRule

def ofFlag (long : String) (set : σ → σ) : OptionRule σ where
  long := long
  action := .flag set

def ofText (long : String) (short : Option Char) (set : String → σ → σ) : OptionRule σ where
  long := long
  short := short
  action := .value fun text draft => .ok (set text draft)

def ofValue (long : String) (short : Option Char) (read? : String → Option α) (set : α → σ → σ) :
    OptionRule σ where
  long := long
  short := short
  action :=
    .value fun text draft =>
      match read? text with
      | some value => .ok (set value draft)
      | none => .error .unreadableValue

end OptionRule

namespace CommandLine

def readWhole? (least greatest : Int) (text : String) : Option Int :=
  (Number.readWhole least greatest text).toOption

def readCount? (text : String) : Option UInt64 :=
  (readWhole? 0 (UInt64.size - 1) text).map fun value => value.toNat.toUInt64

def readInt32? (text : String) : Option Int32 :=
  (readWhole? (-0x80000000) 0x7FFFFFFF text).map Int.toInt32

def commonOptions : List (OptionRule CommonOptions) :=
  [.ofFlag "json-logs" fun options => { options with jsonLogs := true },
    .ofValue "timeout" none readCount? fun seconds options =>
      { options with timeout := some seconds },
    .ofFlag "offline" fun options => { options with offline := true },
    { long := "help", short := some 'h', action := .stop .help }]

def versionOption : OptionRule σ :=
  { long := "version", short := some 'V', action := .stop .version }

def modelsOptions : List (OptionRule Bool) :=
  [.ofFlag "json" fun _ => true]

def chatOptions : List (OptionRule ChatCommand) :=
  [.ofText "model" (some 'm') fun model command => { command with model := some model },
    .ofText "backend" (some 'b') fun backend command => { command with backend := some backend },
    .ofText "system" (some 's') fun text command => { command with system := some text },
    .ofValue "temperature" none Number.readFloat32? fun value command =>
      { command with temperature := some value },
    .ofFlag "stream" fun command => { command with stream := true }]

def readFile (path : String) (options : CorpusOptions) : Except UsageFault CorpusOptions :=
  if path = "" then .error .missingValue
  else .ok { options with files := options.files ++ [path] }

def corpusOptions : List (OptionRule CorpusOptions) :=
  [{ long := "file", short := some 'f', action := .values readFile },
    .ofValue "chunk-size" none readCount? fun size options =>
      { options with chunking := { options.chunking with size } },
    .ofValue "chunk-overlap" none readCount? fun overlap options =>
      { options with chunking := { options.chunking with overlap } },
    .ofValue "strategy" none (fun text => (ChunkStrategy.read text).toOption)
      fun strategy options => { options with chunking := { options.chunking with strategy } },
    .ofText "embedding-model" none fun model options =>
      { options with embeddingModel := some model },
    .ofText "embedding-backend" none fun backend options =>
      { options with embeddingBackend := some backend }]

def findingOptions : List (OptionRule FindingOptions) :=
  [.ofValue "top-k" (some 'k') readInt32? fun topK options => { options with topK },
    .ofValue "min-score" none Number.readFloat32? fun minScore options =>
      { options with minScore },
    .ofFlag "hybrid" fun options => { options with hybrid := true },
    .ofFlag "rerank" fun options => { options with rerank := true },
    .ofFlag "rewrite" fun options => { options with rephrase := true },
    .ofFlag "hyde" fun options => { options with hypothetical := true },
    .ofFlag "trace" fun options => { options with trace := true }]

def askOptions : List (OptionRule AskCommand) :=
  corpusOptions.map (·.within AskCommand.corpus fun corpus command => { command with corpus }) ++
  findingOptions.map
    (·.within AskCommand.finding fun finding command => { command with finding }) ++
  [.ofText "model" (some 'm') fun model command => { command with model := some model },
    .ofText "backend" (some 'b') fun backend command => { command with backend := some backend }]

def searchOptions : List (OptionRule SearchCommand) :=
  corpusOptions.map
    (·.within SearchCommand.corpus fun corpus command => { command with corpus }) ++
  findingOptions.map
    (·.within SearchCommand.finding fun finding command => { command with finding })

/-- Read the words behind a command. Its plain word, if it takes one, and the required options have
to be there. -/
def readCommand (options : List (OptionRule σ)) (word : Option (String → σ → σ))
    (required : List String) (start : σ) (words : List String) :
    Except UsageFault (CommonOptions × σ) := do
  let spelling : CommandSyntax (CommonOptions × σ) :=
    { options :=
        commonOptions.map (·.within Prod.fst fun common draft => (common, draft.2)) ++
          options.map (·.within Prod.snd fun command draft => (draft.1, command))
      word := word.map fun set text draft => (draft.1, set text draft.2) }
  let (reader, _) ← WordReader.read spelling { draft := ({}, start) } words
  let reader ← reader.settled
  let complete := (word.isNone || reader.hasWord) && required.all reader.given.contains
  if complete then return reader.draft else throw .missingArgument

def commandNames : List String := ["models", "chat", "ask", "search", "help"]

def help : List String → UsageFault
  | [] => .help
  | [name] => if commandNames.contains name then .help else .unknownCommand
  | _ => .unknownCommand

def readNamed (name : String) (words : List String) :
    Except UsageFault (CommonOptions × Command) :=
  match name with
  | "models" => (readCommand modelsOptions none [] false words).map fun (common, json) =>
      (common, .models json)
  | "chat" =>
      (readCommand chatOptions (some fun prompt command => { command with prompt }) [] {} words).map
        fun (common, command) => (common, .chat command)
  | "ask" =>
      (readCommand askOptions (some fun question command => { command with question }) ["file"] {}
        words).map fun (common, command) => (common, .ask command)
  | "search" =>
      (readCommand searchOptions (some fun query command => { command with query }) ["file"] {}
        words).map fun (common, command) => (common, .search command)
  | _ => .error (help words)

/-- Common options behind the command win over those before it. -/
def combined (before behind : CommonOptions) : CommonOptions where
  jsonLogs := before.jsonLogs || behind.jsonLogs
  timeout := behind.timeout <|> before.timeout
  offline := before.offline || behind.offline

/-- Read a command line without the name of the program. What is wrong behind the command is
noticed before what is wrong with the last option in front of it. -/
def read (words : List String) : Except UsageFault Invocation := do
  let spelling : CommandSyntax CommonOptions :=
    { options := commonOptions ++ [versionOption], commands := commandNames }
  let (reader, next) ← WordReader.read spelling { draft := {} } words
  match next with
  | some (name, words) =>
      let (behind, command) ← readNamed name words
      let reader ← reader.settled
      return ⟨combined reader.draft behind, command⟩
  | none =>
      let reader ← reader.settled
      throw (if reader.given.isEmpty then .emptyCommandLine else .missingCommand)

end CommandLine

end GroundedAnswers
