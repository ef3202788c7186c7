import GroundedAnswers.Proofs.Answering.Ingest
import GroundedAnswers.Proofs.Answering.Searching
import GroundedAnswers.Proofs.Retrieval.Tenants

namespace GroundedAnswers

/-! One operation and the tenants that share a store. An operation of the tenant that is away does
nothing to the others. An operation of another tenant answers the same, up to the names of chunks,
for stores that differ only in what the tenant has that is away. -/

open MemoryStore (Apart Linked others)

/-- How many identifiers an operation draws at most: one for each piece of a document. -/
def PipelineOperation.draws (settings : RetrievalSettings) : PipelineOperation → Nat
  | .ingest request =>
      (chunkText (Pipeline.chunkOptions settings request) request.content).length
  | _ => 0

/-- Answers of two runs that differ in nothing but the names of chunks. -/
inductive AnswersAlike (rename : Identifier → Identifier) :
    Except RetrievalFailure PipelineResult → Except RetrievalFailure PipelineResult → Prop
  | ok (result : PipelineResult) : AnswersAlike rename (.ok result) (.ok (result.renamed rename))
  | error (failure : RetrievalFailure) : AnswersAlike rename (.error failure) (.error failure)
  | noEmbedding (id : Identifier) :
      AnswersAlike rename (.error (.noEmbeddingOf id)) (.error (.noEmbeddingOf (rename id)))

namespace Pipeline

variable {settings : RetrievalSettings} {gateway : Gateway Unit}
  {identifiers identifiers' : Nat → Identifier} {context : RequestContext}

private theorem settings_inMemory :
    (inMemory settings gateway identifiers).settings = settings := rfl

/-! ## Storing -/

section

variable {ι : Type} {ready : ι → PipelineState Unit → PipelineState Unit → Prop}
  {ends : ι → Except RetrievalFailure (List Chunk) → PipelineState Unit →
    Except RetrievalFailure (List Chunk) → PipelineState Unit → Prop}

private theorem ingest_alike {request : IngestRequest}
    (failed : ∀ index left right failure, ready index left right →
      ends index (.error failure) left (.error failure) right)
    (stored : ∀ index now left right pairs,
      pairs.length ≤ (PipelineOperation.ingest request).draws settings → ready index left right →
      Progress.Alike ready ends index
        ((inMemory settings gateway identifiers).storeChunks context request pairs now left)
        ((inMemory settings gateway identifiers').storeChunks context request pairs now right))
    (index : ι) (now : Moment) (left right : PipelineState Unit) (holds : ready index left right) :
    Progress.Alike ready ends index
      ((inMemory settings gateway identifiers).ingest context request now left)
      ((inMemory settings gateway identifiers').ingest context request now right) := by
  let pieces := chunkText (chunkOptions settings request) request.content
  rw [ingest_eq, ingest_eq, settings_inMemory, settings_inMemory]
  dsimp only
  split
  · exact .finished (failed _ _ _ _ holds)
  · rw [embed_inMemory, embed_inMemory]
    refine Progress.Alike.andThen (serving_alike _ index now left right holds) ?_ now
    rintro index outcome left _ right now ⟨rfl, holds⟩
    cases outcome with
    | error failure => exact .finished (failed _ _ _ _ holds)
    | ok vectors =>
        refine stored index now left right (pieces.zip vectors) ?_ holds
        rw [List.length_zip]
        exact Nat.min_le_left _ _

end

private theorem chunksFrom_renamed {rename : Identifier → Identifier} {tenant : Identifier}
    {request : IngestRequest} {drawn : Nat} {pairs : List (TextChunk × Vector32)}
    (sameNames : ∀ place < pairs.length,
      identifiers' (drawn + place) = rename (identifiers (drawn + place))) :
    chunksFrom identifiers' tenant request drawn pairs =
      (chunksFrom identifiers tenant request drawn pairs).map (.renamed rename) := by
  induction pairs generalizing drawn with
  | nil => rfl
  | cons pair rest induction =>
      have first : identifiers' drawn = rename (identifiers drawn) :=
        sameNames 0 (Nat.succ_pos _)
      have others := induction fun place within => by
        have next := sameNames (place + 1) (Nat.succ_lt_succ within)
        rwa [Nat.add_comm place 1, ← Nat.add_assoc] at next
      rw [chunksFrom, chunksFrom, List.map_cons, others, first]
      rfl

section

variable {rename : Identifier → Identifier} {away : Identifier}
  {foreign foreign' : Identifier → Prop}

/-- Two runs may go on from stores that differ only in what the tenant has that is away. -/
def LinkedStates (rename : Identifier → Identifier) (away : Identifier)
    (foreign foreign' : Identifier → Prop) (_ : Unit) (left right : PipelineState Unit) : Prop :=
  Linked rename away foreign foreign' left.store right.store ∧ left.drawn = 0 ∧ right.drawn = 0

def LinkedAnswers (rename : Identifier → Identifier) (away : Identifier)
    (foreign foreign' : Identifier → Prop) (_ : Unit)
    (answer : Except RetrievalFailure PipelineResult) (left : PipelineState Unit)
    (answer' : Except RetrievalFailure PipelineResult) (right : PipelineState Unit) : Prop :=
  AnswersAlike rename answer answer' ∧
    Linked rename away foreign foreign' left.store right.store

/-- The other tenants' new chunks carry corresponding names, which the tenant does not use that is
away. -/
def NamesMatch (rename : Identifier → Identifier) (foreign foreign' : Identifier → Prop)
    (identifiers identifiers' : Nat → Identifier) (count : Nat) : Prop :=
  ∀ place < count, identifiers' place = rename (identifiers place) ∧
    ¬foreign (identifiers place) ∧ ¬foreign' (identifiers' place)

private theorem storeChunks_linked (injective : Function.Injective rename)
    (isOther : context.tenant ≠ away) {request : IngestRequest}
    {pairs : List (TextChunk × Vector32)}
    (names : NamesMatch rename foreign foreign' identifiers identifiers' pairs.length)
    (now : Moment) {left right : PipelineState Unit}
    (holds : LinkedStates rename away foreign foreign' () left right) :
    Progress.Alike (LinkedStates rename away foreign foreign')
      (fun index chunks left chunks' right =>
        LinkedAnswers rename away foreign foreign' index (chunks.map .stored) left
          (chunks'.map .stored) right) ()
      ((inMemory settings gateway identifiers).storeChunks context request pairs now left)
      ((inMemory settings gateway identifiers').storeChunks context request pairs now right) := by
  rcases holds with ⟨linked, leftDrawn, rightDrawn⟩
  have renamed : chunksFrom identifiers' context.tenant request 0 pairs =
      (chunksFrom identifiers context.tenant request 0 pairs).map (.renamed rename) := by
    refine chunksFrom_renamed fun place within => ?_
    rw [Nat.zero_add]
    exact (names place within).1
  have new : ∀ chunk ∈ chunksFrom identifiers context.tenant request 0 pairs,
      chunk.tenant ≠ away ∧ ¬foreign chunk.id ∧ ¬foreign' (rename chunk.id) := by
    intro chunk member
    rcases id_of_mem_chunksFrom member with ⟨place, within, named⟩
    rcases names place within with ⟨sameName, notForeign, notForeign'⟩
    rw [Nat.zero_add] at named
    rw [(origin_of_mem_chunksFrom member).2.2, named, ← sameName]
    exact ⟨isOther, notForeign, notForeign'⟩
  rw [storeChunks_eq (PipelineDraft.build_inMemory settings gateway identifiers),
    storeChunks_eq (PipelineDraft.build_inMemory settings gateway identifiers'), leftDrawn,
    rightDrawn, renamed]
  dsimp only
  cases context.interruption? now with
  | some cause => exact .finished ⟨.error _, linked⟩
  | none =>
      rcases linked.upsert injective new with
        ⟨id, leftFailed, rightFailed⟩ | ⟨left', right', leftStored, rightStored, stillLinked⟩
      · rw [leftFailed, rightFailed]
        exact .finished ⟨.noEmbedding id, linked⟩
      · rw [leftStored, rightStored]
        exact .finished ⟨.ok (.stored _), stillLinked⟩

private theorem guarded_delete_eq (filter : DeleteFilter) (now : Moment)
    (state : PipelineState Unit) :
    context.guarded RetrievalFailure.interrupted
        ((inMemory settings gateway identifiers).store.delete filter) now state =
      match context.interruption? now with
      | some cause => .finished (.error (.interrupted cause)) state
      | none =>
          .finished (.ok (state.store.delete filter).1)
            (state.withStore (state.store.delete filter).2) :=
  Task.guarded_of_finished rfl context _

private theorem delete_linked {filter : DeleteFilter} (isOther : filter.tenant ≠ away)
    (now : Moment) {left right : PipelineState Unit}
    (holds : LinkedStates rename away foreign foreign' () left right) :
    Progress.Alike (LinkedStates rename away foreign foreign')
      (fun index count left count' right =>
        LinkedAnswers rename away foreign foreign' index (count.map .deleted) left
          (count'.map .deleted) right) ()
      (context.guarded RetrievalFailure.interrupted
        ((inMemory settings gateway identifiers).store.delete filter) now left)
      (context.guarded RetrievalFailure.interrupted
        ((inMemory settings gateway identifiers').store.delete filter) now right) := by
  rcases holds.1.delete isOther with ⟨sameCount, stillLinked⟩
  rw [guarded_delete_eq, guarded_delete_eq, sameCount]
  cases context.interruption? now with
  | some cause => exact .finished ⟨.error _, holds.1⟩
  | none => exact .finished ⟨.ok (.deleted _), stillLinked⟩

end

/-! ## Whole operations -/

section

variable {rename : Identifier → Identifier} {away : Identifier}
  {foreign foreign' : Identifier → Prop}

private theorem alike_map {ι : Type} {ready : ι → PipelineState Unit → PipelineState Unit → Prop}
    {ends : ι → Except RetrievalFailure PipelineResult → PipelineState Unit →
      Except RetrievalFailure PipelineResult → PipelineState Unit → Prop}
    {result : α → PipelineResult} {index : ι} {now : Moment} {left right : PipelineState Unit}
    {task task' : RetrievalTask (PipelineState Unit) α}
    (alike : Progress.Alike ready
      (fun index value left value' right =>
        ends index (value.map result) left (value'.map result) right)
      index (task now left) (task' now right)) :
    Progress.Alike ready ends index ((do return result (← task) : RetrievalTask _ _) now left)
      ((do return result (← task') : RetrievalTask _ _) now right) := by
  refine Progress.Alike.andThen alike ?_ now
  intro index value left value' right now ended
  cases value <;> cases value' <;> exact .finished ended

theorem perform_linked (injective : Function.Injective rename) (isOther : context.tenant ≠ away)
    {operation : PipelineOperation}
    (names : NamesMatch rename foreign foreign' identifiers identifiers' (operation.draws settings))
    (now : Moment) {left right : PipelineState Unit}
    (holds : LinkedStates rename away foreign foreign' () left right) :
    Progress.Alike (LinkedStates rename away foreign foreign')
      (LinkedAnswers rename away foreign foreign') ()
      ((inMemory settings gateway identifiers).perform context operation now left)
      ((inMemory settings gateway identifiers').perform context operation now right) := by
  have same : ∀ index left right, LinkedStates rename away foreign foreign' index left right →
      MemoryStore.SameOf rename context.tenant left.store right.store :=
    fun _ _ _ holds => holds.1.sameOf isOther
  cases operation with
  | ingest request =>
      refine alike_map (ingest_alike ?_ ?_ () now left right holds)
      · exact fun _ _ _ failure holds => ⟨.error failure, holds.1⟩
      · exact fun _ now left right pairs few holds => storeChunks_linked injective isOther
          (fun place within => names place (Nat.lt_of_lt_of_le within few)) now holds
  | search request =>
      have alike := search_alike same settings gateway identifiers identifiers' injective request
      refine alike_map ((alike () now left right holds).imp ?_)
      rintro _ found _ _ _ ⟨rfl, holds⟩
      refine ⟨?_, holds.1⟩
      cases found with
      | error failure => exact .error failure
      | ok results => exact .ok (.found results)
  | query request =>
      have alike := query_alike same settings gateway identifiers identifiers' injective request
      refine alike_map ((alike () now left right holds).imp ?_)
      rintro _ answered _ _ _ ⟨rfl, holds⟩
      refine ⟨?_, holds.1⟩
      cases answered with
      | error failure => exact .error failure
      | ok response => exact .ok (.answered response)
  | deleteDocument document =>
      exact alike_map (delete_linked isOther now holds)
  | deleteTenant =>
      exact alike_map (delete_linked isOther now holds)

/-- One run, beside itself: `kept` is what the others have in the store. -/
def AwayStates (away : Identifier) (foreign : Identifier → Prop) (kept : List Chunk)
    (left right : PipelineState Unit) : Prop :=
  left = right ∧ left.store.others away = kept ∧ Apart foreign away left.store ∧ left.drawn = 0

def AwayEnds (away : Identifier) (foreign : Identifier → Prop) (kept : List Chunk) (_ : α)
    (left : PipelineState Unit) (_ : α) (_ : PipelineState Unit) : Prop :=
  left.store.others away = kept ∧ Apart foreign away left.store

private theorem storeChunks_away (isAway : context.tenant = away) {request : IngestRequest}
    {pairs : List (TextChunk × Vector32)}
    (named : ∀ place < pairs.length, foreign (identifiers place)) (now : Moment)
    {kept : List Chunk} {left right : PipelineState Unit}
    (holds : AwayStates away foreign kept left right) :
    Progress.Alike (AwayStates away foreign) (AwayEnds away foreign) kept
      ((inMemory settings gateway identifiers).storeChunks context request pairs now left)
      ((inMemory settings gateway identifiers).storeChunks context request pairs now right) := by
  rcases holds with ⟨rfl, same, apart, drawn⟩
  have new : ∀ chunk ∈ chunksFrom identifiers context.tenant request 0 pairs,
      chunk.tenant = away ∧ foreign chunk.id := by
    intro chunk member
    rcases id_of_mem_chunksFrom member with ⟨place, within, drawnAs⟩
    rw [Nat.zero_add] at drawnAs
    rw [(origin_of_mem_chunksFrom member).2.2, drawnAs]
    exact ⟨isAway, named place within⟩
  rw [storeChunks_eq (PipelineDraft.build_inMemory settings gateway identifiers), drawn]
  dsimp only
  cases context.interruption? now with
  | some cause => exact .finished ⟨same, apart⟩
  | none =>
      rw [MemoryStore.upsert_eq]
      cases (chunksFrom identifiers context.tenant request 0 pairs).find?
          (·.embedding.isEmpty) with
      | some chunk => exact .finished ⟨same, apart⟩
      | none => exact .finished ⟨(apart.putAll new).1.trans same, (apart.putAll new).2⟩

private theorem delete_away {filter : DeleteFilter} (isAway : filter.tenant = away) (now : Moment)
    {kept : List Chunk} {left right : PipelineState Unit}
    (holds : AwayStates away foreign kept left right) :
    Progress.Alike (AwayStates away foreign) (AwayEnds away foreign) kept
      (context.guarded RetrievalFailure.interrupted
        ((inMemory settings gateway identifiers).store.delete filter) now left)
      (context.guarded RetrievalFailure.interrupted
        ((inMemory settings gateway identifiers).store.delete filter) now right) := by
  rcases holds with ⟨rfl, same, apart, _⟩
  rw [guarded_delete_eq]
  cases context.interruption? now with
  | some cause => exact .finished ⟨same, apart⟩
  | none =>
      have kept := MemoryStore.others_delete_of_away left.store isAway
      exact .finished ⟨kept.trans same, apart.delete filter⟩

theorem perform_away (isAway : context.tenant = away) {operation : PipelineOperation}
    (named : ∀ place < operation.draws settings, foreign (identifiers place)) (now : Moment)
    {kept : List Chunk} {left right : PipelineState Unit}
    (holds : AwayStates away foreign kept left right) :
    Progress.Alike (AwayStates away foreign) (AwayEnds away foreign) kept
      ((inMemory settings gateway identifiers).perform context operation now left)
      ((inMemory settings gateway identifiers).perform context operation now right) := by
  have same : ∀ kept left right, AwayStates away foreign kept left right →
      MemoryStore.SameOf id context.tenant left.store right.store := by
    rintro _ left _ ⟨rfl, _⟩
    exact (List.map_id _).symm
  have injective : Function.Injective (id : Identifier → Identifier) := Function.injective_id
  cases operation with
  | ingest request =>
      refine alike_map (ingest_alike ?_ ?_ kept now left right holds)
      · exact fun _ _ _ _ holds => ⟨holds.2.1, holds.2.2.1⟩
      · exact fun _ now left right pairs few holds => storeChunks_away isAway
          (fun place within => named place (Nat.lt_of_lt_of_le within few)) now holds
  | search request =>
      have alike := search_alike same settings gateway identifiers identifiers injective request
      exact alike_map ((alike kept now left right holds).imp
        fun _ _ _ _ _ ended => ⟨ended.2.2.1, ended.2.2.2.1⟩)
  | query request =>
      have alike := query_alike same settings gateway identifiers identifiers injective request
      exact alike_map ((alike kept now left right holds).imp
        fun _ _ _ _ _ ended => ⟨ended.2.2.1, ended.2.2.2.1⟩)
  | deleteDocument document =>
      exact alike_map (delete_away isAway now holds)
  | deleteTenant =>
      exact alike_map (delete_away isAway now holds)

end

end Pipeline

end GroundedAnswers
