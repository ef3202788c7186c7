import GroundedAnswers.Proofs.Answering.Faithful
import GroundedAnswers.Proofs.Answering.Schedule

namespace GroundedAnswers

/-! Operations one after the other, and what they leave in the store of each document. Storing a
document again adds to what is there: only deleting takes chunks away. -/

structure Exchange where
  tenant : Identifier
  operation : PipelineOperation
  answer : Except RetrievalFailure PipelineResult

namespace Exchange

def stored : Exchange → List Chunk
  | ⟨_, .ingest _, .ok (.stored chunks)⟩ => chunks
  | _ => []

/-- The chunks of a document after one more operation. `renewed` says what they are when the
document had some already and is stored again. -/
def next (renewed : List Chunk → List Chunk → List Chunk) (tenant document : Identifier)
    (chunks : List Chunk) (exchange : Exchange) : List Chunk :=
  if exchange.tenant ≠ tenant then chunks
  else
    match exchange.operation, exchange.answer with
    | .ingest request, .ok (.stored new) =>
        if request.document = document then renewed chunks new else chunks
    | .deleteDocument other, .ok _ => if other = document then [] else chunks
    | .deleteTenant, .ok _ => []
    | _, _ => chunks

end Exchange

def remaining (renewed : List Chunk → List Chunk → List Chunk) (tenant document : Identifier)
    (history : List Exchange) : List Chunk :=
  history.foldl (Exchange.next renewed tenant document) []

namespace MemoryStore

def chunksOf (tenant document : Identifier) (store : MemoryStore) : List Chunk :=
  store.chunks.filter fun chunk => chunk.tenant = tenant ∧ chunk.document = document

private theorem chunks_of_upsert {before after : MemoryStore} {chunks : List Chunk}
    (distinct : (before.names ++ chunks.map Chunk.id).Nodup)
    (succeeds : before.upsert chunks = .ok after) : after.chunks = before.chunks ++ chunks := by
  rcases List.nodup_append.mp distinct with ⟨_, amongNew, apart⟩
  refine upsert_of_new succeeds (fun chunk member present => ?_) amongNew
  exact apart _ present _ (List.mem_map_of_mem member) rfl

private theorem chunksOf_upsert {before after : MemoryStore} {chunks : List Chunk}
    {tenant document : Identifier} (distinct : (before.names ++ chunks.map Chunk.id).Nodup)
    (succeeds : before.upsert chunks = .ok after)
    (own : ∀ chunk ∈ chunks, chunk.tenant = tenant ∧ chunk.document = document)
    (owner other : Identifier) :
    after.chunksOf owner other =
      if tenant = owner ∧ document = other then before.chunksOf owner other ++ chunks
      else before.chunksOf owner other := by
  have constant : ∀ chunk ∈ chunks, decide (chunk.tenant = owner ∧ chunk.document = other) =
      decide (tenant = owner ∧ document = other) := by
    intro chunk member
    rw [(own chunk member).1, (own chunk member).2]
  rw [chunksOf, chunks_of_upsert distinct succeeds, List.filter_append, List.filter_congr constant]
  by_cases same : tenant = owner ∧ document = other
  · rw [if_pos same, decide_eq_true same, List.filter_true]
    rfl
  · rw [if_neg same, decide_eq_false same, List.filter_false, List.append_nil]
    rfl

private theorem chunksOf_delete (filter : DeleteFilter) (store : MemoryStore)
    (owner document : Identifier) :
    (store.delete filter).2.chunksOf owner document =
      if filter.tenant = owner ∧ filter.document.all (document = ·) then []
      else store.chunksOf owner document := by
  have selects : ∀ chunk : Chunk, chunk.tenant = owner ∧ chunk.document = document →
      (filter.selects chunk = true ↔
        filter.tenant = owner ∧ filter.document.all (document = ·) = true) := by
    rintro chunk ⟨rfl, rfl⟩
    rw [DeleteFilter.selects, decide_eq_true_eq, eq_comm]
  unfold chunksOf delete
  rw [List.filter_filter]
  split
  · rename_i selected
    refine List.filter_eq_nil_iff.mpr fun chunk _ kept => ?_
    simp only [Bool.and_eq_true, decide_eq_true_eq, Bool.not_eq_true'] at kept
    rw [(selects chunk kept.1).mpr selected] at kept
    cases kept.2
  · rename_i spared
    refine List.filter_congr fun chunk _ => ?_
    by_cases own : chunk.tenant = owner ∧ chunk.document = document
    · have notSelected := mt (selects chunk own).mp spared
      simp [own, notSelected]
    · simp [own]

end MemoryStore

/-! ## One operation -/

inductive Effect (tenant : Identifier) :
    PipelineOperation → Except RetrievalFailure PipelineResult → MemoryStore → MemoryStore → Prop
  | stored {request : IngestRequest} {chunks : List Chunk} {before after : MemoryStore}
      (own : ∀ chunk ∈ chunks, chunk.tenant = tenant ∧ chunk.document = request.document)
      (succeeds : before.upsert chunks = .ok after) :
      Effect tenant (.ingest request) (.ok (.stored chunks)) before after
  | deletedDocument (document : Identifier) (store : MemoryStore) :
      Effect tenant (.deleteDocument document)
        (.ok (.deleted (store.delete ⟨tenant, some document⟩).1)) store
        (store.delete ⟨tenant, some document⟩).2
  | deletedTenant (store : MemoryStore) :
      Effect tenant .deleteTenant (.ok (.deleted (store.delete ⟨tenant, none⟩).1)) store
        (store.delete ⟨tenant, none⟩).2
  | found (request : SearchRequest) (results : List SearchResult) (store : MemoryStore) :
      Effect tenant (.search request) (.ok (.found results)) store store
  | answered (request : QueryRequest) (response : QueryResponse) (store : MemoryStore) :
      Effect tenant (.query request) (.ok (.answered response)) store store
  | failed (operation : PipelineOperation) (failure : RetrievalFailure) (store : MemoryStore) :
      Effect tenant operation (.error failure) store store

namespace Effect

section

variable {tenant : Identifier} {operation : PipelineOperation}
  {answer : Except RetrievalFailure PipelineResult} {before after : MemoryStore}
  (effect : Effect tenant operation answer before after)
  (distinct : (before.names ++ (Exchange.stored ⟨tenant, operation, answer⟩).map Chunk.id).Nodup)

include effect distinct

private theorem names_sublist :
    after.names.Sublist
      (before.names ++ (Exchange.stored ⟨tenant, operation, answer⟩).map Chunk.id) := by
  cases effect with
  | stored own succeeds =>
      rw [MemoryStore.names, MemoryStore.chunks_of_upsert distinct succeeds, List.map_append]
      exact List.Sublist.refl _
  | deletedDocument document =>
      exact (List.filter_sublist.map Chunk.id).trans (List.sublist_append_left _ _)
  | deletedTenant =>
      exact (List.filter_sublist.map Chunk.id).trans (List.sublist_append_left _ _)
  | found => exact List.sublist_append_left _ _
  | answered => exact List.sublist_append_left _ _
  | failed => exact List.sublist_append_left _ _

private theorem chunksOf_eq (owner document : Identifier) :
    after.chunksOf owner document =
      Exchange.next (· ++ ·) owner document (before.chunksOf owner document)
        ⟨tenant, operation, answer⟩ := by
  cases effect with
  | stored own succeeds =>
      rw [MemoryStore.chunksOf_upsert distinct succeeds own]
      by_cases same : tenant = owner <;> simp [Exchange.next, Exchange.stored, same]
  | deletedDocument other =>
      rw [MemoryStore.chunksOf_delete]
      by_cases same : tenant = owner <;> simp [Exchange.next, same, eq_comm]
  | deletedTenant =>
      rw [MemoryStore.chunksOf_delete]
      by_cases same : tenant = owner <;> simp [Exchange.next, same]
  | found => simp [Exchange.next]
  | answered => simp [Exchange.next]
  | failed operation => cases operation <;> simp [Exchange.next]

end

end Effect

namespace Pipeline

section

variable (settings : RetrievalSettings) (gateway : Gateway σ) (identifiers : Nat → Identifier)

private theorem run_result (result : α → PipelineResult) (task : RetrievalTask σ α) (now : Moment)
    (state : σ) :
    Task.run (do return result (← task) : RetrievalTask σ PipelineResult).run now state =
      ((Task.run task.run now state).1.map result, (Task.run task.run now state).2) := by
  rcases ran : Task.run task.run now state with ⟨outcome, moment, after⟩
  cases outcome with
  | error failure => exact Task.run_bind_of_error ran _
  | ok value => exact Task.run_bind_of_ok ran _

private theorem run_guarded_delete (context : RequestContext) (filter : DeleteFilter) (now : Moment)
    (before : PipelineState σ) :
    Task.run (context.guarded RetrievalFailure.interrupted
        ((inMemory settings gateway identifiers).store.delete filter)).run now before =
      match context.interruption? now with
      | some cause => (.error (.interrupted cause), now, before)
      | none =>
          (.ok (before.store.delete filter).1, now,
            before.withStore (before.store.delete filter).2) := by
  have ended := Task.guarded_of_finished
    (rfl : (inMemory settings gateway identifiers).store.delete filter now before = .finished
      (.ok (before.store.delete filter).1) (before.withStore (before.store.delete filter).2))
    context RetrievalFailure.interrupted
  have ran := congrArg (Progress.run now) ended
  cases look : context.interruption? now with
  | some cause =>
      rw [look] at ran
      exact ran
  | none =>
      rw [look] at ran
      exact ran

private theorem perform_effect (context : RequestContext) (operation : PipelineOperation)
    (now : Moment) (before : PipelineState σ) (distinct : before.store.Distinct) :
    let (answer, _, after) := Task.run
      ((inMemory settings gateway identifiers).perform context operation).run now before
    Effect context.tenant operation answer before.store after.store := by
  have vouches : Vouches (· = before.store) context.tenant fun _ => True :=
    ⟨fun _ same => same ▸ distinct, fun _ _ _ _ _ => True.intro⟩
  have kept : Keeping (· = before.store) before := rfl
  cases operation with
  | ingest request =>
      unfold perform
      rw [run_result]
      rcases ingest_cases (PipelineDraft.build_inMemory settings gateway identifiers) context request
        now before with
        ⟨failure, moment, services, drawn, failed⟩ |
        ⟨vectors, moment, services, store, drawn, _, stored, succeeded⟩
      · rw [failed]
        exact .failed _ failure _
      · rw [succeeded]
        refine .stored (fun chunk member => ?_) stored
        have origin := origin_of_mem_chunksFrom member
        exact ⟨origin.2.2, origin.1⟩
  | search request =>
      have ended := (findRanked_faithful settings gateway identifiers context vouches request
        (inMemory settings gateway identifiers).settings.searchTopK).run now kept
      unfold perform search
      rw [run_result]
      generalize Task.run ((inMemory settings gateway identifiers).findRanked context request
        _).run now before = found at ended ⊢
      rcases found with ⟨outcome, moment, after⟩
      have same : after.store = before.store := ended.2
      dsimp only
      rw [same]
      cases outcome with
      | error failure => exact .failed _ failure _
      | ok results => exact .found request results _
  | query request =>
      have ended := (query_ensures settings gateway identifiers context vouches request).run now kept
      unfold perform
      rw [run_result]
      generalize Task.run ((inMemory settings gateway identifiers).query context request).run now
        before = answered at ended ⊢
      rcases answered with ⟨outcome, moment, after⟩
      have same : after.store = before.store := ended.2
      dsimp only
      rw [same]
      cases outcome with
      | error failure => exact .failed _ failure _
      | ok response => exact .answered request response _
  | deleteDocument document =>
      unfold perform deleteDocument
      rw [run_result, run_guarded_delete]
      cases context.interruption? now with
      | some cause => exact .failed _ _ _
      | none => exact .deletedDocument document before.store
  | deleteTenant =>
      unfold perform deleteTenant
      rw [run_result, run_guarded_delete]
      cases context.interruption? now with
      | some cause => exact .failed _ _ _
      | none => exact .deletedTenant before.store

end

/-! ## Operations in sequence -/

def exchanges (pipeline : Pipeline σ) : List Submission → σ → List Exchange × σ
  | [], state => ([], state)
  | submission :: rest, state =>
      let (answer, _, after) := Task.run
        (pipeline.perform submission.context submission.operation).run submission.start state
      let (others, last) := pipeline.exchanges rest after
      (⟨submission.context.tenant, submission.operation, answer⟩ :: others, last)

section

variable (settings : RetrievalSettings) (gateway : Gateway σ) (identifiers : Nat → Identifier)

private theorem chunksOf_exchanges (submissions : List Submission) (before : PipelineState σ) :
    let (history, last) :=
      (inMemory settings gateway identifiers).exchanges submissions before
    (before.store.names ++ (history.flatMap Exchange.stored).map Chunk.id).Nodup →
    ∀ tenant document, last.store.chunksOf tenant document =
      history.foldl (Exchange.next (· ++ ·) tenant document)
        (before.store.chunksOf tenant document) := by
  induction submissions generalizing before with
  | nil => exact fun _ _ _ => rfl
  | cons submission rest induction =>
      rcases ran : Task.run ((inMemory settings gateway identifiers).perform submission.context
        submission.operation).run submission.start before with ⟨answer, moment, between⟩
      have others := induction between
      have effect := perform_effect settings gateway identifiers submission.context
        submission.operation submission.start before
      unfold exchanges
      rw [ran] at effect ⊢
      rcases (inMemory settings gateway identifiers).exchanges rest between with ⟨history, last⟩
      intro distinct tenant document
      dsimp only at effect others distinct ⊢
      rw [List.flatMap_cons, List.map_append, ← List.append_assoc] at distinct
      have first := distinct.sublist (List.sublist_append_left _ _)
      have done := effect (first.sublist (List.sublist_append_left _ _))
      rw [List.foldl_cons, ← done.chunksOf_eq first]
      exact others (distinct.sublist ((done.names_sublist first).append_right _)) tenant document

end

/-- After any operations on a store without chunks, a document has the chunks of every time that it
was stored since it was deleted last. Storing it again takes none away. -/
theorem stored_until_deleted (settings : RetrievalSettings) (gateway : Gateway σ)
    (identifiers : Nat → Identifier) (submissions : List Submission) (services : σ) (drawn : Nat) :
    let (history, last) := (inMemory settings gateway identifiers).exchanges submissions
      ⟨services, ⟨[]⟩, drawn⟩
    ((history.flatMap Exchange.stored).map Chunk.id).Nodup →
    ∀ tenant document, last.store.chunksOf tenant document =
      remaining (· ++ ·) tenant document history :=
  chunksOf_exchanges settings gateway identifiers submissions ⟨services, ⟨[]⟩, drawn⟩

/-- A tenant stores a document, deletes it, and stores it twice. -/
theorem stored_until_deleted_twice :
    let tenant := Identifier.ofNat 1
    let document := Identifier.ofNat 9
    let submit (operation : PipelineOperation) : Submission := ⟨0, .ofTenant tenant, operation⟩
    let submissions := [submit (.ingest (.of document "Ab")), submit (.deleteDocument document),
      submit (.ingest (.of document "cd")), submit (.ingest (.of document "ef"))]
    let (history, last) :=
      (inMemory {} constantGateway .ofNat).exchanges submissions ⟨(), ⟨[]⟩, 0⟩
    ((history.flatMap Exchange.stored).map Chunk.id).Nodup ∧
    last.store.chunksOf tenant document = remaining (· ++ ·) tenant document history ∧
    (last.store.chunksOf tenant document).map Chunk.content = ["cd", "ef"] := by
  intro tenant document submit submissions
  have distinct : ((((inMemory {} constantGateway .ofNat).exchanges submissions
      ⟨(), ⟨[]⟩, 0⟩).1.flatMap Exchange.stored).map Chunk.id).Nodup := by
    decide +kernel
  have contents : (((inMemory {} constantGateway .ofNat).exchanges submissions
      ⟨(), ⟨[]⟩, 0⟩).2.store.chunksOf tenant document).map Chunk.content = ["cd", "ef"] := by
    decide +kernel
  -- Otherwise Lean runs the operations when the theorem is applied.
  clear_value submissions
  have remain := stored_until_deleted {} constantGateway .ofNat submissions () 0
  rcases ran : (inMemory {} constantGateway .ofNat).exchanges submissions ⟨(), ⟨[]⟩, 0⟩ with
    ⟨history, last⟩
  rw [ran] at distinct contents remain
  exact ⟨distinct, remain distinct tenant document, contents⟩

/-- A document that is stored once more is not replaced: a search finds its earlier text. -/
theorem earlier_text_found :
    let tenant := Identifier.ofNat 1
    let document := Identifier.ofNat 9
    let submit (operation : PipelineOperation) : Submission := ⟨0, .ofTenant tenant, operation⟩
    let submissions := [submit (.ingest (.of document "old text")),
      submit (.ingest (.of document "new text"))]
    let pipeline := inMemory {} constantGateway .ofNat
    let (history, last) := pipeline.exchanges submissions ⟨(), ⟨[]⟩, 0⟩
    let found := (Task.run (pipeline.search (.ofTenant tenant) { query := "old text" }).run 0 last).1
    (remaining (fun _ new => new) tenant document history).map Chunk.content = ["new text"] ∧
    last.store.chunksOf tenant document ≠ remaining (fun _ new => new) tenant document history ∧
    found.toOption.map (List.map SearchResult.content) = some ["old text", "new text"] := by
  intro tenant document submit submissions pipeline
  have renewed : (remaining (fun _ new => new) tenant document
      (pipeline.exchanges submissions ⟨(), ⟨[]⟩, 0⟩).1).map Chunk.content = ["new text"] := by
    decide +kernel
  have kept : ((pipeline.exchanges submissions ⟨(), ⟨[]⟩, 0⟩).2.store.chunksOf tenant
      document).map Chunk.content = ["old text", "new text"] := by
    decide +kernel
  have found : (Task.run (pipeline.search (.ofTenant tenant) { query := "old text" }).run 0
      (pipeline.exchanges submissions ⟨(), ⟨[]⟩, 0⟩).2).1.toOption.map
        (List.map SearchResult.content) = some ["old text", "new text"] := by
    decide +kernel
  rcases ran : pipeline.exchanges submissions ⟨(), ⟨[]⟩, 0⟩ with ⟨history, last⟩
  rw [ran] at renewed kept found
  refine ⟨renewed, fun same => ?_, found⟩
  have sameContents := congrArg (List.map Chunk.content) same
  rw [renewed, kept] at sameContents
  exact absurd sameContents (by decide)

end Pipeline

end GroundedAnswers
