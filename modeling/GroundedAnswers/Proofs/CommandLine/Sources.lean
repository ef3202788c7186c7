import GroundedAnswers.Proofs.CommandLine.Loading

namespace GroundedAnswers

/-! The files that commands name as their sources. A report is printed as a whole once all of it is
known, so that a command that fails has printed nothing. Each of its lines names a file that holds
the chunk which the line is about. -/

open CommandTask

namespace Pipeline

section

variable (settings : RetrievalSettings) (gateway : Gateway σ) (identifiers : Nat → Identifier)
  (context : RequestContext) {keeps : MemoryStore → Prop} {known : Chunk → Prop}

private theorem query_cites (vouches : Vouches keeps context.tenant known)
    (request : QueryRequest) :
    Task.Ensures (Keeping keeps)
      (IfOk fun response => ∃ results,
        Faithful known (effectiveTopK request.topK settings.queryTopK) results ∧
        response.citations =
          Generation.citations results settings.citationPreviewCharacters.toNat)
      ((inMemory settings gateway identifiers).query context request).run := by
  unfold query
  refine (findRanked_faithful settings gateway identifiers context vouches request.toSearchRequest
    _).bind (fun results _ faithful => ?_) fun failure _ _ => .error failure
  have asked : ((inMemory settings gateway identifiers).gateway.chat context
        (Generation.request request.query results request.model request.backend)).forRetrieval =
      serving (gateway.chat context
        (Generation.request request.query results request.model request.backend)).forRetrieval :=
    forRetrieval_chat_zoom PipelineState.services_isPart gateway context _
  have generated : Task.Ensures (Keeping keeps)
      (IfOk fun answer => answer.citations =
        Generation.citations results settings.citationPreviewCharacters.toNat)
      (Generation.generate (inMemory settings gateway identifiers).gateway
        settings.citationPreviewCharacters.toNat context request.query results request.model
        request.backend).run := by
    unfold Generation.generate
    rw [asked]
    exact (serving_ensures keeps _).bind (fun _ _ _ => .ok fun _ => .ok rfl)
      fun failure _ _ => .error failure
  exact generated.bind
    (fun answer _ cited => .ok fun _ => .ok ⟨results, faithful results rfl, cited answer rfl⟩)
    fun failure _ _ => .error failure

end

end Pipeline

namespace Surroundings

/-! ## Reports -/

section

variable (surroundings : Surroundings σ) (context : RequestContext)

def reporting (corpus : CorpusOptions) (finding : FindingOptions) (operation : PipelineOperation)
    (task : Pipeline σ → RetrievalTask σ α) (report : DocumentPaths → α → String) :
    CommandTask σ Unit := do
  let (pipeline, paths) ← surroundings.load context corpus
  let value ← attempt .retrieval (surroundings.recorded context operation (task pipeline))
  print (report paths value)
  surroundings.printTrace context finding

private theorem search_eq (command : SearchCommand) :
    surroundings.search context command =
      let request := searchRequest command.finding command.query
      surroundings.reporting context command.corpus command.finding (.search request)
        (fun pipeline => pipeline.search context request) Report.passages := rfl

private theorem ask_eq (command : AskCommand) :
    surroundings.ask context command =
      let request : QueryRequest :=
        { searchRequest command.finding command.question with
          model := command.model.getD ""
          backend := command.backend }
      surroundings.reporting context command.corpus command.finding (.query request)
        (fun pipeline => pipeline.query context request) Report.answer := rfl

def traceOf (finding : FindingOptions) (state : σ) : String :=
  match finding.trace, surroundings.spans with
  | true, some spans => Report.trace ((spans state).spansFor context.tenant.text)
  | _, _ => ""

private theorem runAfter_printTrace (finding : FindingOptions) (output : String) (now : Moment)
    (state : σ) :
    (surroundings.printTrace context finding).runAfter output now state =
      ((.ok (), output ++ surroundings.traceOf context finding state), now, state) := by
  unfold printTrace traceOf
  cases finding.trace with
  | false => simp
  | true =>
      cases surroundings.spans with
      | none => simp
      | some spans => rfl

/-- What becomes of a command that reports on the files of a corpus. If it fails, nothing is
printed. Otherwise the files were stored first, the work was done on them, and its report is
printed. -/
structure Reports (corpus : CorpusOptions) (finding : FindingOptions) (operation : PipelineOperation)
    (task : Pipeline σ → RetrievalTask σ α) (now : Moment) (before : σ) (outcome : Outcome)
    (tells : Pipeline σ → σ → α → String → Prop) : Prop where
  silent : outcome.failure ≠ none → outcome.output = ""
  complete : outcome.failure = none → ∃ pipeline paths moment loaded value reached after report,
    (surroundings.load context corpus).runAfter "" now before =
      ((.ok (pipeline, paths), ""), moment, loaded) ∧
    Task.run (surroundings.recorded context operation (task pipeline)).run moment loaded =
      (.ok value, reached, after) ∧
    outcome.output = report ++ surroundings.traceOf context finding after ∧
    tells pipeline loaded value report

private theorem run_reporting {corpus : CorpusOptions} {finding : FindingOptions}
    {operation : PipelineOperation} {task : Pipeline σ → RetrievalTask σ α}
    {report : DocumentPaths → α → String} {now : Moment} {before : σ}
    {tells : Pipeline σ → σ → α → String → Prop}
    (told : ∀ {pipeline paths moment loaded value reached after},
      (surroundings.load context corpus).runAfter "" now before =
        ((.ok (pipeline, paths), ""), moment, loaded) →
      Task.run (surroundings.recorded context operation (task pipeline)).run moment loaded =
        (.ok value, reached, after) →
      tells pipeline loaded value (report paths value)) :
    surroundings.Reports context corpus finding operation task now before
      (Task.run (surroundings.reporting context corpus finding operation task report).outcome now
        before).1 tells := by
  have silent := load_silent surroundings context corpus "" now before
  rcases loading : (surroundings.load context corpus).runAfter "" now before with
    ⟨⟨result, printed⟩, moment, loaded⟩
  rw [loading] at silent
  subst silent
  cases result with
  | error failure =>
      have ended : (surroundings.reporting context corpus finding operation task report).runAfter ""
          now before = ((.error failure, ""), moment, loaded) := runAfter_bind_of_error loading _
      rw [run_outcome_of_error ended]
      exact ⟨fun _ => rfl, nofun⟩
  | ok made =>
      rcases made with ⟨pipeline, paths⟩
      rcases ran : Task.run (surroundings.recorded context operation (task pipeline)).run moment
        loaded with ⟨answer, reached, after⟩
      cases answer with
      | error failure =>
          have ended : (surroundings.reporting context corpus finding operation task report).runAfter
              "" now before = ((.error (.retrieval failure), ""), reached, after) :=
            (runAfter_bind_of_ok loading _).trans
              (runAfter_bind_of_error (runAfter_attempt_of_error _ _ ran) _)
          rw [run_outcome_of_error ended]
          exact ⟨fun _ => rfl, nofun⟩
      | ok value =>
          have ended : (surroundings.reporting context corpus finding operation task report).runAfter
              "" now before = ((.ok (), report paths value ++
                surroundings.traceOf context finding after), reached, after) := by
            refine (runAfter_bind_of_ok loading _).trans
              ((runAfter_bind_of_ok (runAfter_attempt_of_ok _ _ ran) _).trans
                ((runAfter_bind_of_ok (runAfter_print _) _).trans ?_))
            rw [runAfter_printTrace, String.empty_append]
          rw [run_outcome_of_ok ended]
          exact ⟨fun failed => absurd rfl failed, fun _ => ⟨pipeline, paths, moment, loaded, value,
            reached, after, _, loading, ran, rfl, told loading ran⟩⟩

end

/-! ## Lines -/

def IsSource (files : FileReader) (given : List String) (stored : List Chunk) (chunk : Chunk)
    (path : String) : Prop :=
  path ∈ given ∧ chunk ∈ stored ∧ Holds files path chunk.content

theorem Stores.source {files : FileReader} {identifiers : Nat → Identifier} {given : List String}
    {before after : PipelineState σ} {paths : DocumentPaths}
    (stores : Stores files identifiers given before after paths)
    (empty : before.store = ⟨[]⟩)
    (distinct : Set.InjOn identifiers {place | place < after.drawn}) {chunk : Chunk}
    (member : chunk ∈ after.store.chunks) :
    IsSource files given after.store.chunks chunk (paths.pathOf chunk.document) := by
  rcases stores.origin chunk member with old | ⟨path, isGiven, noted, holds⟩
  · rw [empty] at old
    cases old
  · rw [DocumentPaths.pathOf, stores.lookup_of_origin distinct noted]
    exact ⟨isGiven, member, holds⟩

section

variable {record : {α : Type} → SpanLabel → Task (PipelineState σ) α → Task (PipelineState σ) α}
  (records : RecordsAlone record) (gateway : Gateway σ) (identifiers : Nat → Identifier)
  (files : FileReader) (spans : Option (PipelineState σ → SpanStore)) (context : RequestContext)

include records

/-- Whatever is recorded, work comes to the same result. -/
theorem holds_of_recorded {holds : α → Prop} {operation : PipelineOperation}
    {task : RetrievalTask (PipelineState σ) α} {now moment : Moment} {before after : PipelineState σ}
    {value : α} (ensured : Task.Ensures (Keeping (· = before.store)) (IfOk holds) task.run)
    (ran : Task.run ((inMemory gateway identifiers files spans record).recorded context operation
      task).run now before = (.ok value, moment, after)) : holds value := by
  rcases run_recorded gateway identifiers files spans records context operation task now before with
    ⟨opened, closed, same⟩
  have ended := (ensured.run now (rfl : Keeping (· = before.store) (before.withServices opened))).1
  rw [same] at ran
  exact ended value (Prod.ext_iff.mp ran).1

omit records in
private theorem vouches_of_distinct {store : MemoryStore} (distinct : store.Distinct)
    (tenant : Identifier) :
    Vouches (· = store) tenant (· ∈ store.chunks) where
  distinct _ same := same ▸ distinct
  own _ same _ stored _ := same ▸ stored

end

/-- A command that fails has printed nothing. Otherwise its report has a line for each result of
the pipeline, numbered from one on and in their order. It names a given file with a text, of which
the chunk that the result shows is a part, as long as no identifier was drawn twice while the files
were stored. -/
theorem reports_name_sources
    {record : {α : Type} → SpanLabel → Task (PipelineState σ) α → Task (PipelineState σ) α}
    (records : RecordsAlone record) (gateway : Gateway σ) (identifiers : Nat → Identifier)
    (files : FileReader) (spans : Option (PipelineState σ → SpanStore)) (context : RequestContext)
    (services : σ) (now : Moment) :
    let surroundings := inMemory gateway identifiers files spans record
    let before : PipelineState σ := ⟨services, ⟨[]⟩, 0⟩
    let outcome (command : Command) := (Task.run (surroundings.run context command) now before).1
    (∀ command : SearchCommand,
      let request := searchRequest command.finding command.query
      surroundings.Reports context command.corpus command.finding (.search request)
        (fun pipeline => pipeline.search context request) now before (outcome (.search command))
        fun _ loaded results report => ∃ lines,
          report = (if results.isEmpty then Report.line "no matching passages"
            else Report.lines lines) ∧
          lines.length = results.length ∧
          (Set.InjOn identifiers {place | place < loaded.drawn} →
            ∀ place result, results[place]? = some result → ∃ chunk path,
              IsSource files command.corpus.files loaded.store.chunks chunk path ∧
              result.Shows chunk ∧
              lines[place]? = some (Text.padLeft 2 (toString (place + 1)) ++ ". " ++
                Number.fixed32 3 result.score ++ "  " ++ path ++ "#" ++ toString result.index ++
                "  " ++ Text.onOneLine (Text.preview result.content 120)))) ∧
    ∀ command : AskCommand,
      let request : QueryRequest :=
        { searchRequest command.finding command.question with
          model := command.model.getD ""
          backend := command.backend }
      surroundings.Reports context command.corpus command.finding (.query request)
        (fun pipeline => pipeline.query context request) now before (outcome (.ask command))
        fun pipeline loaded response report => ∃ lines,
          report = Report.lines (response.answer ::
            (if response.citations.isEmpty then [] else "\nSources:" :: lines) ++
            [s!"\n({response.model}, {response.tokens.toNat} tokens, $" ++
              Number.fixed64 6 response.cost ++ ")"]) ∧
          lines.length = response.citations.length ∧
          (Set.InjOn identifiers {place | place < loaded.drawn} →
            ∀ place citation, response.citations[place]? = some citation → ∃ chunk path,
              IsSource files command.corpus.files loaded.store.chunks chunk path ∧
              chunk.id = citation.chunk ∧ chunk.document = citation.document ∧
              citation.content =
                Text.preview chunk.content pipeline.settings.citationPreviewCharacters.toNat ∧
              lines[place]? = some ("[Source " ++ toString (place + 1) ++ "] " ++ path ++
                " (score " ++ Number.fixed32 3 citation.score ++ "): " ++
                Text.onOneLine citation.content)) := by
  intro surroundings before outcome
  constructor
  · intro command request
    change surroundings.Reports _ _ _ _ _ _ _
      (Task.run (surroundings.search context command).outcome now before).1 _
    rw [search_eq]
    refine run_reporting surroundings context fun {pipeline paths _ loaded results _ _} loading found =>
      ⟨results.mapIdx (Report.passageLine paths), rfl, List.length_mapIdx,
        fun distinct place result isResult => ?_⟩
    rcases load_stores gateway identifiers files spans records context loading with
      ⟨settings, rfl, stores⟩
    have vouches := vouches_of_distinct (stores.distinct MemoryStore.distinct_empty) context.tenant
    have faithful := holds_of_recorded records gateway identifiers files spans context
      (Pipeline.findRanked_faithful settings gateway identifiers context vouches request _) found
    rcases faithful.shown result (List.mem_of_getElem? isResult) with ⟨chunk, stored, shown⟩
    refine ⟨chunk, _, stores.source rfl distinct stored, shown, ?_⟩
    rw [List.getElem?_mapIdx, isResult, shown.2.1]
    rfl
  · intro command request
    change surroundings.Reports _ _ _ _ _ _ _
      (Task.run (surroundings.ask context command).outcome now before).1 _
    rw [ask_eq]
    refine run_reporting surroundings context
      fun {pipeline paths _ loaded response _ _} loading answered =>
        ⟨response.citations.mapIdx (Report.sourceLine paths), rfl, List.length_mapIdx,
          fun distinct place citation isCitation => ?_⟩
    rcases load_stores gateway identifiers files spans records context loading with
      ⟨settings, rfl, stores⟩
    have vouches := vouches_of_distinct (stores.distinct MemoryStore.distinct_empty) context.tenant
    rcases holds_of_recorded records gateway identifiers files spans context
      (Pipeline.query_cites settings gateway identifiers context vouches request) answered with
      ⟨results, faithful, cited⟩
    have isCited := isCitation
    rw [cited] at isCited
    rcases List.mem_map.mp (List.mem_of_getElem? isCited) with ⟨result, isResult, rfl⟩
    rcases faithful.shown result isResult with ⟨chunk, stored, shown⟩
    refine ⟨chunk, _, stores.source rfl distinct stored, shown.1, shown.2.1,
      congrArg (Text.preview · _) shown.2.2.1.symm, ?_⟩
    rw [List.getElem?_mapIdx, isCitation, shown.2.1]
    rfl

def singleMinded : Backend Unit :=
  { Pipeline.constantBackend [1.0] with
    chat := fun _ request => pure ⟨none, "", request.model, "It is ab.", ⟨200, 3, 203⟩, 0.0, 0⟩ }

def tracedGateway : Gateway SpanRecorder :=
  { Pipeline.constantGateway with backends := [singleMinded] }.zoom (fun _ => ())
    fun _ recorder => recorder

def likeFiles : FileReader := fun path =>
  if path = "blank.txt" then .ok [10, 32] else .ok "Ab cd".toUTF8.toList

def tracedSurroundings : Surroundings (PipelineState SpanRecorder) :=
  inMemory tracedGateway .ofNat likeFiles (some fun state => state.services.store)
    fun label task => task.spanned (fun state => state.services)
      (fun noted state => state.withServices noted) "pipeline" label

/-- A file that is given twice, one with the same text and one with blanks only: what is found
there, and what an answer names as its sources. -/
theorem reports_name_sources_repeated :
    let given := ["a.txt", "blank.txt", "b.txt", "a.txt"]
    let command : SearchCommand :=
      { query := "ab", corpus := { files := given }, finding := { trace := true } }
    let question : AskCommand :=
      { question := "ab?", corpus := { files := given }, model := some "gpt-4o" }
    let outcome (command : Command) :=
      (Task.run (tracedSurroundings.run (.ofTenant (.ofNat 1)) command) 0 ⟨{}, ⟨[]⟩, 0⟩).1
    ((outcome (.search command)).failure = none ∧
      (outcome (.search command)).output =
        " 1. 1.000  a.txt#0  Ab cd\n 2. 1.000  b.txt#0  Ab cd\n" ++
        " 3. 1.000  a.txt#0  Ab cd\n\nTrace:\n  rag.ingest                  5.0 ms\n" ++
        "  rag.ingest                  0.0 ms\n  rag.ingest                  5.0 ms\n" ++
        "  rag.ingest                  5.0 ms\n  rag.search                  5.0 ms\n" ∧
      ∃ (results : List SearchResult) (lines : List String) (trace : String) (stored : List Chunk),
        (outcome (.search command)).output =
          (if results.isEmpty then Report.line "no matching passages" else Report.lines lines) ++
            trace ∧
        lines.length = results.length ∧
        ∀ (place : Nat) result, results[place]? = some result → ∃ chunk path,
          IsSource likeFiles given stored chunk path ∧ result.Shows chunk ∧
          lines[place]? = some (Text.padLeft 2 (toString (place + 1)) ++ ". " ++
            Number.fixed32 3 result.score ++ "  " ++ path ++ "#" ++ toString result.index ++ "  " ++
            Text.onOneLine (Text.preview result.content 120))) ∧
    (outcome (.ask question)).failure = none ∧
    (outcome (.ask question)).output =
      "It is ab.\n\nSources:\n[Source 1] a.txt (score 1.000): Ab cd\n" ++
      "[Source 2] b.txt (score 1.000): Ab cd\n[Source 3] a.txt (score 1.000): Ab cd\n" ++
      "\n(gpt-4o, 203 tokens, $0.001045)\n" ∧
    ∃ (response : QueryResponse) (lines : List String) (stored : List Chunk),
      lines.length = response.citations.length ∧
      ∀ (place : Nat) citation, response.citations[place]? = some citation → ∃ chunk path,
        IsSource likeFiles given stored chunk path ∧ chunk.id = citation.chunk ∧
        lines[place]? = some ("[Source " ++ toString (place + 1) ++ "] " ++ path ++ " (score " ++
          Number.fixed32 3 citation.score ++ "): " ++ Text.onOneLine citation.content) := by
  intro given command question outcome
  have drawn : ((tracedSurroundings.load (.ofTenant (.ofNat 1)) command.corpus).runAfter "" 0
      ⟨{}, ⟨[]⟩, 0⟩).2.2.drawn = 7 := by
    decide +kernel
  have distinct : ∀ {made : Except CommandFailure (Pipeline (PipelineState SpanRecorder) ×
      DocumentPaths) × String} {moment : Moment} {loaded : PipelineState SpanRecorder},
      (tracedSurroundings.load (.ofTenant (.ofNat 1)) command.corpus).runAfter "" 0
        ⟨{}, ⟨[]⟩, 0⟩ = (made, moment, loaded) →
      Set.InjOn Identifier.ofNat {place | place < loaded.drawn} := by
    intro made moment loaded loading
    rw [loading] at drawn
    rw [show loaded.drawn = 7 from drawn]
    have apart : ∀ place < 7, ∀ other < 7, Identifier.ofNat place = Identifier.ofNat other →
        place = other := by
      decide
    exact fun place within other otherWithin same => apart place within other otherWithin same
  have reports := reports_name_sources
    (recordsAlone_spanned (fun recorder => recorder) (fun noted _ => noted) "pipeline")
    tracedGateway .ofNat likeFiles (some fun state => state.services.store) (.ofTenant (.ofNat 1))
    {} 0
  have found : (outcome (.search command)).failure = none := by decide +kernel
  have answered : (outcome (.ask question)).failure = none := by decide +kernel
  refine ⟨⟨found, by decide +kernel, ?_⟩, answered, by decide +kernel, ?_⟩
  · rcases (reports.1 command).complete found with ⟨pipeline, paths, moment, loaded, results,
      reached, after, report, loading, _, output, lines, rfl, sameLength, named⟩
    exact ⟨results, lines, _, loaded.store.chunks, output, sameLength, named (distinct loading)⟩
  · rcases (reports.2 question).complete answered with ⟨pipeline, paths, moment, loaded, response,
      reached, after, report, loading, _, _, lines, _, sameLength, named⟩
    refine ⟨response, lines, loaded.store.chunks, sameLength, fun place citation isCitation => ?_⟩
    rcases named (distinct loading) place citation isCitation with
      ⟨chunk, path, source, sameChunk, _, _, line⟩
    exact ⟨chunk, path, source, sameChunk, line⟩

end Surroundings

end GroundedAnswers
