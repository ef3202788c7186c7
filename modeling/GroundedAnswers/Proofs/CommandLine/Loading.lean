import GroundedAnswers.Proofs.Answering.Faithful
import GroundedAnswers.Proofs.Chunking.Chunks
import GroundedAnswers.Proofs.CommandLine.Running
import GroundedAnswers.Json.Members
import Mathlib.Data.Set.Function

namespace GroundedAnswers

/-! Storing the files of a command. Each document gets an identifier of its own, and what is stored
under it stands in the text of the file that is noted for it. -/

/-! ## Storing one document -/

namespace MemoryStore

private theorem mem_of_putAll {store : MemoryStore} {chunks : List Chunk} {chunk : Chunk}
    (member : chunk ∈ (store.putAll chunks).chunks) : chunk ∈ store.chunks ∨ chunk ∈ chunks := by
  induction chunks generalizing store with
  | nil => exact .inl member
  | cons first others induction =>
      rcases induction member with stored | inside
      · rcases mem_put stored with rfl | old
        · exact .inr List.mem_cons_self
        · exact .inl old
      · exact .inr (List.mem_cons_of_mem _ inside)

private theorem mem_of_upsert {before after : MemoryStore} {chunks : List Chunk} {chunk : Chunk}
    (stored : before.upsert chunks = .ok after) (member : chunk ∈ after.chunks) :
    chunk ∈ before.chunks ∨ chunk ∈ chunks := by
  rw [upsert_eq] at stored
  split at stored
  · cases stored
  · cases stored
    exact mem_of_putAll member

end MemoryStore

namespace Pipeline

section

variable (settings : RetrievalSettings) (gateway : Gateway σ) (identifiers : Nat → Identifier)
  (context : RequestContext) (request : IngestRequest)

private theorem content_of_mem_chunksFrom {tenant : Identifier} {drawn : Nat}
    {pairs : List (TextChunk × Vector32)} {chunk : Chunk}
    (member : chunk ∈ chunksFrom identifiers tenant request drawn pairs) :
    ∃ pair ∈ pairs, chunk.content = pair.1.content := by
  have contents : (chunksFrom identifiers tenant request drawn pairs).map Chunk.content =
      pairs.map fun pair => pair.1.content :=
    map_chunksFrom _ (fun _ _ _ => rfl) drawn pairs
  have inside := List.mem_map_of_mem (f := Chunk.content) member
  rw [contents] at inside
  rcases List.mem_map.mp inside with ⟨pair, isPair, same⟩
  exact ⟨pair, isPair, same.symm⟩

private theorem ingest_keeps_drawn (least : Nat) :
    Task.Ensures (fun state : PipelineState σ => least ≤ state.drawn) (fun _ _ => True)
      ((inMemory settings gateway identifiers).ingest context request).run := by
  rw [ingest_eq]
  dsimp only
  split
  · exact .failed fun _ => True.intro
  · rw [embed_inMemory]
    refine (Task.Ensures.zoomFailing_of_stable (fun _ _ kept => by exact kept) _).bind
      (fun vectors _ _ => ?_) fun _ _ _ => True.intro
    intro now state kept
    change Progress.Ensures _ _ now
      ((inMemory settings gateway identifiers).storeChunks context request _ now state)
    rw [storeChunks_eq (PipelineDraft.build_inMemory settings gateway identifiers)]
    dsimp only
    split
    · exact .finished ⟨True.intro, Nat.le_add_right_of_le kept⟩
    · split
      · exact .finished ⟨True.intro, Nat.le_add_right_of_le kept⟩
      · exact .finished ⟨True.intro, Nat.le_add_right_of_le kept⟩

/-- What is stored of a document are parts of its text, which is not blank then. -/
def Ingested (request : IngestRequest) (before : PipelineState σ)
    (outcome : Except RetrievalFailure (List Chunk)) (after : PipelineState σ) : Prop :=
  before.drawn ≤ after.drawn ∧
    match outcome with
    | .error _ => after.store = before.store
    | .ok _ => ∃ chunks, before.store.upsert chunks = .ok after.store ∧
        ∀ chunk ∈ chunks, chunk.document = request.document ∧
          Text.isBlankText request.content = false ∧
          chunk.content.toList <:+: request.content.toList

private theorem run_ingest_inMemory (now : Moment) (before : PipelineState σ) :
    let (outcome, _, after) :=
      Task.run ((inMemory settings gateway identifiers).ingest context request).run now before
    Ingested request before outcome after := by
  have later := ((ingest_keeps_drawn settings gateway identifiers context request before.drawn).run
    now (Nat.le_refl _)).2
  rcases ingest_cases (PipelineDraft.build_inMemory settings gateway identifiers) context request now
    before with ⟨failure, moment, services, drawn, failed⟩ |
      ⟨vectors, moment, services, store, drawn, -, stored, succeeded⟩
  · rw [failed] at later ⊢
    exact ⟨later, rfl⟩
  · rw [succeeded] at later ⊢
    refine ⟨later, _, stored, fun chunk member => ?_⟩
    rcases content_of_mem_chunksFrom _ _ member with ⟨⟨piece, vector⟩, isPair, same⟩
    have kept := content_mem_keptPieces (List.of_mem_zip isPair).1
    rcases List.mem_filter.mp kept with ⟨isPiece, notBlank⟩
    have part := infix_of_mem_pieces isPiece
    refine ⟨(origin_of_mem_chunksFrom member).1, ?_, same ▸ part⟩
    rw [← Bool.not_eq_true, Text.isBlankText, List.all_eq_true]
    intro blank
    have nothing : piece.content.toList.all Text.isBlank :=
      List.all_eq_true.mpr fun character inside => blank character (part.subset inside)
    rw [nothing] at notBlank
    cases notBlank

end

end Pipeline

/-! ## Recording -/

/-- Recorded work is done as it is, but for what the recorder notes in the state of the services. -/
def RecordsAlone
    (record : {α : Type} → SpanLabel → Task (PipelineState σ) α → Task (PipelineState σ) α) : Prop :=
  ∀ {α : Type} (label : SpanLabel) (task : Task (PipelineState σ) α) (now : Moment)
    (before : PipelineState σ), ∃ opened closed,
      Task.run (record label task) now before =
        let (value, moment, after) := Task.run task now (before.withServices opened)
        (value, moment, after.withServices closed)

theorem recordsAlone_spanned (recorder : σ → SpanRecorder) (replace : SpanRecorder → σ → σ)
    (target : String) :
    RecordsAlone fun {α} label (task : Task (PipelineState σ) α) =>
      task.spanned (fun state => recorder state.services)
        (fun noted state => state.withServices (replace noted state.services)) target label := by
  intro α label task now before
  let opened := (recorder before.services).openSpan none label.name target
    (Moment.nanoseconds now) label.attributes
  let services := replace opened.1 before.services
  let ended := Task.run task now (before.withServices services)
  let finished := (recorder ended.2.2.services).release opened.2 (Moment.nanoseconds ended.2.1)
  refine ⟨services, replace finished ended.2.2.services, ?_⟩
  simp only [Task.spanned, Task.bind_run]
  rfl

open CommandTask

namespace Surroundings

def inMemory (gateway : Gateway σ) (identifiers : Nat → Identifier) (files : FileReader)
    (spans : Option (PipelineState σ → SpanStore))
    (record : {α : Type} → SpanLabel → Task (PipelineState σ) α → Task (PipelineState σ) α) :
    Surroundings (PipelineState σ) where
  gateway := gateway.zoom PipelineState.services PipelineState.withServices
  store := MemoryStore.vectorStore PipelineState.store PipelineState.withStore
  freshIdentifier := PipelineState.draw identifiers
  files := files
  spans := spans
  record := record

/-! ## Storing files -/

def Holds (files : FileReader) (path content : String) : Prop :=
  ∃ text, files.text path = .ok text ∧ Text.isBlankText text = false ∧
    content.toList <:+: text.toList

/-- What storing files leads to. The documents are named one after the other, and each new chunk is
a part of the file that is noted for its document. -/
structure Stores (files : FileReader) (identifiers : Nat → Identifier) (given : List String)
    (before after : PipelineState σ) (paths : DocumentPaths) : Prop where
  later : before.drawn ≤ after.drawn
  named : ∃ places : List Nat, paths.map (·.1) = places.map identifiers ∧
    places.Pairwise (· < ·) ∧ ∀ place ∈ places, before.drawn ≤ place ∧ place < after.drawn
  distinct : before.store.Distinct → after.store.Distinct
  origin : ∀ chunk ∈ after.store.chunks, chunk ∈ before.store.chunks ∨
    ∃ path ∈ given, (chunk.document, path) ∈ paths ∧ Holds files path chunk.content

namespace Stores

variable {files : FileReader} {identifiers : Nat → Identifier} {given : List String}
  {before between after : PipelineState σ} {paths : DocumentPaths}

theorem nil (state : PipelineState σ) : Stores files identifiers [] state state [] where
  later := Nat.le_refl _
  named := ⟨[], rfl, .nil, nofun⟩
  distinct := id
  origin _ member := .inl member

theorem skip (stores : Stores files identifiers given between after paths) (path : String)
    (drawn : before.drawn < between.drawn) (same : between.store = before.store) :
    Stores files identifiers (path :: given) before after paths where
  later := Nat.le_trans (Nat.le_of_lt drawn) stores.later
  named := by
    rcases stores.named with ⟨places, names, ascending, within⟩
    refine ⟨places, names, ascending, fun place member => ?_⟩
    have := within place member
    omega
  distinct distinct := stores.distinct (same ▸ distinct)
  origin chunk member := by
    rcases stores.origin chunk member with old | ⟨other, isGiven, noted, holds⟩
    · exact .inl (same ▸ old)
    · exact .inr ⟨other, List.mem_cons_of_mem _ isGiven, noted, holds⟩

theorem cons (stores : Stores files identifiers given between after paths) {path : String}
    (drawn : before.drawn < between.drawn) {chunks : List Chunk}
    (stored : before.store.upsert chunks = .ok between.store)
    (parts : ∀ chunk ∈ chunks, chunk.document = identifiers before.drawn ∧
      Holds files path chunk.content) :
    Stores files identifiers (path :: given) before after ((identifiers before.drawn, path) :: paths)
    where
  later := Nat.le_trans (Nat.le_of_lt drawn) stores.later
  named := by
    rcases stores.named with ⟨places, names, ascending, within⟩
    refine ⟨before.drawn :: places, by simp [names], List.pairwise_cons.mpr ⟨fun place member => ?_,
      ascending⟩, List.forall_mem_cons.mpr ⟨⟨Nat.le_refl _, ?_⟩, fun place member => ?_⟩⟩
    · exact Nat.lt_of_lt_of_le drawn (within place member).1
    · exact Nat.lt_of_lt_of_le drawn stores.later
    · have := within place member
      omega
  distinct distinct := stores.distinct (distinct.upsert stored)
  origin chunk member := by
    rcases stores.origin chunk member with old | ⟨other, isGiven, noted, holds⟩
    · rcases MemoryStore.mem_of_upsert stored old with old | new
      · exact .inl old
      · rcases parts chunk new with ⟨document, holds⟩
        exact .inr ⟨path, List.mem_cons_self, document ▸ List.mem_cons_self, holds⟩
    · exact .inr ⟨other, List.mem_cons_of_mem _ isGiven, List.mem_cons_of_mem _ noted, holds⟩

theorem lookup_of_origin (stores : Stores files identifiers given before after paths)
    (distinct : Set.InjOn identifiers {place | place < after.drawn}) {document : Identifier}
    {path : String} (noted : (document, path) ∈ paths) : paths.lookup document = some path := by
  rcases stores.named with ⟨places, names, ascending, within⟩
  refine (Json.lookup_eq_some_iff_mem ?_).mpr noted
  rw [names]
  refine List.Nodup.map_on (fun place member other otherMember same => ?_)
    (ascending.imp Nat.ne_of_lt)
  exact distinct (within place member).2 (within other otherMember).2 same

end Stores

section

variable {surroundings : Surroundings (PipelineState σ)} {pipeline : Pipeline (PipelineState σ)}
  {context : RequestContext} {identifiers : Nat → Identifier} {given : List String}
  {output printed : String} {now moment : Moment} {before after : PipelineState σ}
  {paths : DocumentPaths}
  (draws : surroundings.freshIdentifier = PipelineState.draw identifiers)

include draws

/-- The first file is read and ingested under a new name. Without a text it is passed over, and
otherwise noted; then come the others. -/
theorem storeFiles_cases {path : String}
    (succeeded : (surroundings.storeFiles pipeline context (path :: given)).runAfter output now
      before = ((.ok paths, printed), moment, after)) :
    ∃ content outcome reached between,
      let request : IngestRequest :=
        { IngestRequest.of (identifiers before.drawn) content with
          metadata := .ofMembers [("source", path)] }
      surroundings.files.text path = .ok content ∧
      Task.run (surroundings.recorded context (.ingest request)
        (pipeline.ingest context request)).run now { before with drawn := before.drawn + 1 } =
          (outcome, reached, between) ∧
      ((outcome = .error .noChunks ∧
        (surroundings.storeFiles pipeline context given).runAfter output reached between =
          ((.ok paths, printed), moment, after)) ∨
      ∃ chunks others, outcome = .ok chunks ∧
        paths = (identifiers before.drawn, path) :: others ∧
        (surroundings.storeFiles pipeline context given).runAfter output reached between =
          ((.ok others, printed), moment, after)) := by
  rw [storeFiles] at succeeded
  cases read : surroundings.files.text path with
  | error fault =>
      simp only [read] at succeeded
      cases succeeded
  | ok content =>
      simp only [read] at succeeded
      have drawing : Task.run surroundings.freshIdentifier now before =
          (identifiers before.drawn, now, { before with drawn := before.drawn + 1 }) := by
        rw [draws]
        rfl
      rw [runAfter_bind_of_ok (runAfter_silently_of_run output drawing)] at succeeded
      let request : IngestRequest :=
        { IngestRequest.of (identifiers before.drawn) content with
          metadata := .ofMembers [("source", path)] }
      rcases ran : Task.run (surroundings.recorded context (.ingest request)
        (pipeline.ingest context request)).run now { before with drawn := before.drawn + 1 } with
        ⟨outcome, reached, between⟩
      rw [runAfter_bind_of_ok (runAfter_silently_of_run output ran)] at succeeded
      refine ⟨content, outcome, reached, between, rfl, ran, ?_⟩
      cases outcome with
      | error failure =>
          cases failure with
          | noChunks => exact .inl ⟨rfl, succeeded⟩
          | _ => cases succeeded
      | ok chunks =>
          rcases exists_of_runAfter_bind_ok succeeded with ⟨others, _, _, _, stored, noted⟩
          cases noted
          exact .inr ⟨chunks, others, rfl, rfl, stored⟩

private theorem storeFiles_stores
    (ingests : ∀ {request now before outcome moment after},
      Task.run (surroundings.recorded context (.ingest request)
        (pipeline.ingest context request)).run now before = (outcome, moment, after) →
      Pipeline.Ingested request before outcome after)
    (succeeded : (surroundings.storeFiles pipeline context given).runAfter output now before =
      ((.ok paths, printed), moment, after)) :
    Stores surroundings.files identifiers given before after paths := by
  induction given generalizing output now before paths with
  | nil =>
      cases succeeded
      exact .nil _
  | cons path given induction =>
      rcases storeFiles_cases draws succeeded with
        ⟨content, outcome, reached, between, read, ran, passed | noted⟩
      all_goals rcases ingests ran with ⟨later, ended⟩
      · rcases passed with ⟨rfl, stored⟩
        exact (induction stored).skip path later ended
      · rcases noted with ⟨chunks, others, rfl, rfl, stored⟩
        rcases ended with ⟨new, upserted, parts⟩
        refine (induction stored).cons later upserted fun chunk member => ?_
        rcases parts chunk member with ⟨document, written, part⟩
        exact ⟨document, content, read, written, part⟩

end

section

variable (gateway : Gateway σ) (identifiers : Nat → Identifier) (files : FileReader)
  (spans : Option (PipelineState σ → SpanStore))
  {record : {α : Type} → SpanLabel → Task (PipelineState σ) α → Task (PipelineState σ) α}
  (records : RecordsAlone record) (context : RequestContext)

include records

theorem run_recorded (operation : PipelineOperation) (task : RetrievalTask (PipelineState σ) α)
    (now : Moment) (before : PipelineState σ) :
    ∃ opened closed, Task.run ((inMemory gateway identifiers files spans record).recorded context
      operation task).run now before =
        let (outcome, moment, after) := Task.run task.run now (before.withServices opened)
        (outcome, moment, after.withServices closed) :=
  records (operation.spanLabel context) task.run now before

private theorem ingested_of_recorded (settings : RetrievalSettings) {request : IngestRequest}
    {now moment : Moment} {before after : PipelineState σ}
    {outcome : Except RetrievalFailure (List Chunk)}
    (ran : Task.run ((inMemory gateway identifiers files spans record).recorded context
      (.ingest request) ((Pipeline.inMemory settings gateway identifiers).ingest context request)).run
      now before = (outcome, moment, after)) :
    Pipeline.Ingested request before outcome after := by
  rcases run_recorded gateway identifiers files spans records context (.ingest request)
    ((Pipeline.inMemory settings gateway identifiers).ingest context request) now before with
    ⟨opened, closed, same⟩
  have ingested := Pipeline.run_ingest_inMemory settings gateway identifiers context request now
    (before.withServices opened)
  rw [same] at ran
  cases ran
  exact ingested

omit records in
private theorem pipeline_inMemory {corpus : CorpusOptions} {pipeline : Pipeline (PipelineState σ)}
    (made : (inMemory gateway identifiers files spans record).pipeline corpus = .ok pipeline) :
    ∃ settings, pipeline = Pipeline.inMemory settings gateway identifiers := by
  unfold Surroundings.pipeline at made
  cases checked : (settings corpus).checked with
  | error failure =>
      rw [checked] at made
      cases made
  | ok settings =>
      rw [checked] at made
      cases made
      exact ⟨settings, rfl⟩

theorem load_stores {corpus : CorpusOptions} {output printed : String} {now moment : Moment}
    {before after : PipelineState σ} {pipeline : Pipeline (PipelineState σ)} {paths : DocumentPaths}
    (succeeded : ((inMemory gateway identifiers files spans record).load context corpus).runAfter
      output now before = ((.ok (pipeline, paths), printed), moment, after)) :
    ∃ settings, pipeline = Pipeline.inMemory settings gateway identifiers ∧
      Stores files identifiers corpus.files before after paths := by
  rcases exists_of_runAfter_bind_ok succeeded with ⟨made, _, _, _, making, storing⟩
  have checked := run_of_runAfter_attempt_ok _ _ making
  rw [ExceptT.run_mk, Task.run_pure] at checked
  rcases Prod.ext_iff.mp checked with ⟨isMade, since⟩
  cases since
  rcases pipeline_inMemory gateway identifiers files spans isMade with ⟨settings, rfl⟩
  rcases exists_of_runAfter_bind_ok storing with ⟨noted, _, _, _, stored, ended⟩
  have stores := storeFiles_stores rfl
    (ingested_of_recorded gateway identifiers files spans records context settings) stored
  cases empty : noted.isEmpty with
  | true =>
      simp only [empty] at ended
      cases ended
  | false =>
      simp only [empty] at ended
      cases ended
      exact ⟨settings, rfl, stores⟩

end

/-! ## Nothing is printed -/

section

variable (surroundings : Surroundings σ) (context : RequestContext)

private theorem storeFiles_silent (pipeline : Pipeline σ) (given : List String) :
    Silent (surroundings.storeFiles pipeline context given) := by
  induction given with
  | nil => exact .pure _
  | cons path given induction =>
      rw [storeFiles]
      split
      · exact .throw _
      · refine (Silent.silently _).bind fun document => (Silent.silently _).bind fun outcome => ?_
        split
        · exact induction.bind fun others => .pure _
        · exact induction
        · exact .throw _

theorem load_silent (corpus : CorpusOptions) : Silent (surroundings.load context corpus) := by
  refine (Silent.attempt _ _).bind fun pipeline =>
    (storeFiles_silent surroundings context pipeline corpus.files).bind fun paths => ?_
  split
  · exact (Silent.throw _).bind fun _ => .pure _
  · exact .pure _

end

end Surroundings

end GroundedAnswers
