import GroundedAnswers.Proofs.Retrieval.Results

namespace GroundedAnswers

/-! What a store in memory holds after any calls. For each identifier this is the chunk that was
given last under it, unless that one was deleted since. -/

inductive StoreCall where
  | upsert (chunks : List Chunk)
  | delete (filter : DeleteFilter)

def MemoryStore.alone : VectorStore MemoryStore :=
  vectorStore id fun store _ => store

namespace StoreCall

def perform (store : VectorStore σ) : StoreCall → RetrievalTask σ Unit
  | upsert chunks => store.upsert chunks
  | delete filter => do
      let _ ← store.delete filter
      return ()

def replay (now : Moment) (calls : List StoreCall) (store : MemoryStore) : MemoryStore :=
  calls.foldl (fun store call => (Task.run (call.perform MemoryStore.alone).run now store).2.2) store

def Storable (chunks : List Chunk) : Prop :=
  ∀ chunk ∈ chunks, chunk.embedding ≠ []

/-- A chunk of a batch under whose identifier no other chunk follows. -/
def IsLast (chunk : Chunk) (chunks : List Chunk) : Prop :=
  ∃ before after, chunks = before ++ chunk :: after ∧ ∀ other ∈ after, other.id ≠ chunk.id

def Puts (chunk : Chunk) : StoreCall → Prop
  | upsert chunks => Storable chunks ∧ IsLast chunk chunks
  | delete _ => False

def Covers (filter : DeleteFilter) (chunk : Chunk) : Prop :=
  chunk.tenant = filter.tenant ∧
    ∀ document, filter.document = some document → chunk.document = document

def Drops (chunk : Chunk) : StoreCall → Prop
  | upsert chunks => Storable chunks ∧ ∃ other ∈ chunks, other.id = chunk.id
  | delete filter => Covers filter chunk

/-- Some call put the chunk there, and none after it dropped the chunk. -/
def Leave (calls : List StoreCall) (chunk : Chunk) : Prop :=
  ∃ earlier call later, calls = earlier ++ call :: later ∧ call.Puts chunk ∧
    ∀ other ∈ later, ¬other.Drops chunk

end StoreCall

namespace MemoryStore

open GroundedAnswers.StoreCall (Storable IsLast Covers Leave replay)

/-! ## Chunks that are put -/

private theorem mem_put_iff {chunk other : Chunk} {stored : List Chunk}
    (distinct : (stored.map Chunk.id).Nodup) :
    other ∈ put chunk stored ↔ other = chunk ∨ other ∈ stored ∧ other.id ≠ chunk.id := by
  induction stored with
  | nil => simp [put]
  | cons present rest induction =>
      rw [List.map_cons, List.nodup_cons] at distinct
      have tail := induction distinct.2
      rw [put]
      split
      · rename_i same
        have absent : ∀ later ∈ rest, later.id ≠ chunk.id := by
          intro later member named
          apply distinct.1
          rw [same, ← named]
          exact List.mem_map_of_mem member
        constructor
        · intro member
          rcases List.mem_cons.mp member with isChunk | isLater
          · exact .inl isChunk
          · exact .inr ⟨List.mem_cons_of_mem _ isLater, absent other isLater⟩
        · rintro (isChunk | ⟨member, different⟩)
          · exact List.mem_cons.mpr (.inl isChunk)
          · rcases List.mem_cons.mp member with isPresent | isLater
            · exact absurd (isPresent ▸ same) different
            · exact List.mem_cons_of_mem _ isLater
      · rename_i different
        rw [List.mem_cons, tail, List.mem_cons]
        constructor
        · rintro (isPresent | isChunk | ⟨member, named⟩)
          · exact .inr ⟨.inl isPresent, isPresent ▸ different⟩
          · exact .inl isChunk
          · exact .inr ⟨.inr member, named⟩
        · rintro (isChunk | ⟨isPresent | member, named⟩)
          · exact .inr (.inl isChunk)
          · exact .inl isPresent
          · exact .inr (.inr ⟨member, named⟩)

private theorem isLast_cons_iff {chunk other : Chunk} {chunks : List Chunk} :
    IsLast other (chunk :: chunks) ↔
      IsLast other chunks ∨ other = chunk ∧ ∀ later ∈ chunks, later.id ≠ other.id := by
  constructor
  · rintro ⟨before, after, whole, unfollowed⟩
    cases before with
    | nil =>
        cases whole
        exact .inr ⟨rfl, unfollowed⟩
    | cons first before =>
        cases whole
        exact .inl ⟨before, after, rfl, unfollowed⟩
  · rintro (⟨before, after, rfl, unfollowed⟩ | ⟨rfl, unfollowed⟩)
    · exact ⟨chunk :: before, after, rfl, unfollowed⟩
    · exact ⟨[], chunks, rfl, unfollowed⟩

/-- Of several chunks with one identifier, only the last one stays. -/
theorem mem_putAll_iff {store : MemoryStore} (distinct : store.Distinct) (chunks : List Chunk)
    {other : Chunk} :
    other ∈ (store.putAll chunks).chunks ↔
      IsLast other chunks ∨ other ∈ store.chunks ∧ ∀ chunk ∈ chunks, chunk.id ≠ other.id := by
  induction chunks generalizing store with
  | nil =>
      have nothing : ¬IsLast other [] := by
        rintro ⟨before, after, whole, _⟩
        simp at whole
      simp [putAll, nothing]
  | cons chunk chunks induction =>
      rw [putAll_cons, induction (nodup_put distinct), isLast_cons_iff, mem_put_iff distinct,
        List.forall_mem_cons]
      constructor
      · rintro (last | ⟨isChunk | ⟨member, different⟩, unfollowed⟩)
        · exact .inl (.inl last)
        · exact .inl (.inr ⟨isChunk, unfollowed⟩)
        · exact .inr ⟨member, different.symm, unfollowed⟩
      · rintro ((last | ⟨isChunk, unfollowed⟩) | ⟨member, different, unfollowed⟩)
        · exact .inl last
        · exact .inr ⟨.inl isChunk, unfollowed⟩
        · exact .inr ⟨.inr ⟨member, different.symm⟩, unfollowed⟩

/-! ## Calls -/

private theorem upsert_of_storable (store : MemoryStore) {chunks : List Chunk}
    (storable : Storable chunks) : store.upsert chunks = .ok (store.putAll chunks) := by
  have found : chunks.find? (·.embedding.isEmpty) = none := by
    apply List.find?_eq_none.mpr
    intro chunk member isEmpty
    exact storable chunk member (List.isEmpty_iff.mp isEmpty)
  rw [upsert_eq, found]

private theorem upsert_of_not_storable (store : MemoryStore) {chunks : List Chunk}
    (refused : ¬Storable chunks) :
    ∃ chunk ∈ chunks, chunk.embedding = [] ∧
      store.upsert chunks = .error (.noEmbeddingOf chunk.id) := by
  cases found : chunks.find? (·.embedding.isEmpty) with
  | none =>
      apply absurd _ refused
      intro chunk member isEmpty
      exact List.find?_eq_none.mp found chunk member (List.isEmpty_iff.mpr isEmpty)
  | some chunk =>
      refine ⟨chunk, List.mem_of_find?_eq_some found, ?_, ?_⟩
      · simpa using List.find?_some found
      · rw [upsert_eq, found]

private theorem selects_iff (filter : DeleteFilter) (chunk : Chunk) :
    filter.selects chunk ↔ Covers filter chunk := by
  rcases filter with ⟨tenant, document⟩
  cases document <;> simp [DeleteFilter.selects, Covers]

private theorem mem_delete_iff (store : MemoryStore) (filter : DeleteFilter) {chunk : Chunk} :
    chunk ∈ (store.delete filter).2.chunks ↔ chunk ∈ store.chunks ∧ ¬Covers filter chunk := by
  have kept : (store.delete filter).2.chunks =
      store.chunks.filter fun chunk => !filter.selects chunk := rfl
  rw [kept, List.mem_filter, Bool.not_eq_true', ← selects_iff, Bool.not_eq_true]

private theorem delete_count_add (store : MemoryStore) (filter : DeleteFilter) :
    (store.delete filter).1 + (store.delete filter).2.chunks.length = store.chunks.length := by
  have fewer : (store.delete filter).2.chunks.length ≤ store.chunks.length :=
    List.length_filter_le _ _
  have count : (store.delete filter).1 =
      store.chunks.length - (store.delete filter).2.chunks.length := rfl
  omega

private theorem delete_of_nothing (store : MemoryStore) {filter : DeleteFilter}
    (nothing : ∀ chunk ∈ store.chunks, ¬Covers filter chunk) : store.delete filter = (0, store) := by
  have kept : (store.chunks.filter fun chunk => !filter.selects chunk) = store.chunks := by
    apply List.filter_eq_self.mpr
    intro chunk member
    simpa [← selects_iff] using nothing chunk member
  simp [delete, kept]

private theorem run_upsert_of_ok {store after : MemoryStore} {chunks : List Chunk}
    (stored : store.upsert chunks = .ok after) (now : Moment) :
    Task.run (alone.upsert chunks).run now store = (.ok (), now, after) := by
  have ended := vectorStore_upsert_eq id (fun after _ => after) chunks now store
  rw [id_eq, stored] at ended
  exact congrArg (Progress.run now) ended

private theorem run_upsert_of_error {store : MemoryStore} {chunks : List Chunk}
    {failure : RetrievalFailure} (refused : store.upsert chunks = .error failure) (now : Moment) :
    Task.run (alone.upsert chunks).run now store = (.error failure, now, store) := by
  have ended := vectorStore_upsert_eq id (fun after _ => after) chunks now store
  rw [id_eq, refused] at ended
  exact congrArg (Progress.run now) ended

private theorem run_delete (store : MemoryStore) (filter : DeleteFilter) (now : Moment) :
    Task.run (alone.delete filter).run now store =
      (.ok (store.delete filter).1, now, (store.delete filter).2) := rfl

end MemoryStore

namespace StoreCall

variable {store : MemoryStore}

private theorem mem_perform_iff (distinct : store.Distinct) (call : StoreCall) (now : Moment) :
    let after := (Task.run (call.perform MemoryStore.alone).run now store).2.2
    after.Distinct ∧
      ∀ chunk, chunk ∈ after.chunks ↔ call.Puts chunk ∨ chunk ∈ store.chunks ∧ ¬call.Drops chunk := by
  cases call with
  | upsert chunks =>
      by_cases storable : Storable chunks
      · have stored := store.upsert_of_storable storable
        dsimp only [perform]
        rw [MemoryStore.run_upsert_of_ok stored]
        refine ⟨distinct.putAll chunks, fun chunk => ?_⟩
        rw [MemoryStore.mem_putAll_iff distinct]
        simp [Puts, Drops, storable]
      · rcases store.upsert_of_not_storable storable with ⟨_, _, _, refused⟩
        dsimp only [perform]
        rw [MemoryStore.run_upsert_of_error refused]
        refine ⟨distinct, fun chunk => ?_⟩
        simp [Puts, Drops, storable]
  | delete filter =>
      have ran : (Task.run ((delete filter).perform MemoryStore.alone).run now store).2.2 =
          (store.delete filter).2 := rfl
      rw [ran]
      refine ⟨distinct.delete filter, fun chunk => ?_⟩
      rw [MemoryStore.mem_delete_iff]
      simp [Puts, Drops]

private theorem leave_cons_iff {call : StoreCall} {calls : List StoreCall} {chunk : Chunk} :
    Leave (call :: calls) chunk ↔
      Leave calls chunk ∨ call.Puts chunk ∧ ∀ other ∈ calls, ¬other.Drops chunk := by
  constructor
  · rintro ⟨earlier, putting, later, whole, puts, kept⟩
    cases earlier with
    | nil =>
        cases whole
        exact .inr ⟨puts, kept⟩
    | cons first earlier =>
        cases whole
        exact .inl ⟨earlier, putting, later, rfl, puts, kept⟩
  · rintro (⟨earlier, putting, later, rfl, puts, kept⟩ | ⟨puts, kept⟩)
    · exact ⟨call :: earlier, putting, later, rfl, puts, kept⟩
    · exact ⟨[], call, calls, rfl, puts, kept⟩

private theorem mem_replay_iff (distinct : store.Distinct) (calls : List StoreCall) (now : Moment) :
    (replay now calls store).Distinct ∧
      ∀ chunk, chunk ∈ (replay now calls store).chunks ↔
        Leave calls chunk ∨ chunk ∈ store.chunks ∧ ∀ call ∈ calls, ¬call.Drops chunk := by
  induction calls generalizing store with
  | nil =>
      refine ⟨distinct, fun chunk => ?_⟩
      have nothing : ¬Leave [] chunk := by
        rintro ⟨earlier, call, later, whole, _⟩
        simp at whole
      simp [replay, nothing]
  | cons call calls induction =>
      rcases mem_perform_iff distinct call now with ⟨stillDistinct, once⟩
      rcases induction stillDistinct with ⟨atEnd, others⟩
      refine ⟨atEnd, fun chunk => ?_⟩
      rw [leave_cons_iff, List.forall_mem_cons]
      refine (others chunk).trans ?_
      rw [once]
      tauto

end StoreCall

namespace MemoryStore

open GroundedAnswers.StoreCall (Storable Covers Leave replay)

/-- After any calls, a store that was empty at first holds the chunks that these leave, and no two
under one identifier. It takes all chunks of a batch or none. A deletion takes the chunks that the
filter covers, tells how many they are, and finds none of them again. -/
theorem holds_last_put (calls : List StoreCall) (now : Moment) :
    let store := replay now calls {}
    (∀ chunk, chunk ∈ store.chunks ↔ Leave calls chunk) ∧
    (store.chunks.map Chunk.id).Nodup ∧
    (∀ chunks,
      let (reply, _, after) := Task.run (alone.upsert chunks).run now store
      if ∀ chunk ∈ chunks, chunk.embedding ≠ [] then reply = .ok ()
      else after = store ∧ ∃ chunk ∈ chunks, chunk.embedding = [] ∧
        reply = .error (.vectorStore "InMemory" s!"chunk '{chunk.id}' has no embedding")) ∧
    ∀ filter : DeleteFilter,
      let covered (chunk : Chunk) := chunk.tenant = filter.tenant ∧
        ∀ document, filter.document = some document → chunk.document = document
      let (reply, _, after) := Task.run (alone.delete filter).run now store
      (∀ chunk, chunk ∈ after.chunks ↔ chunk ∈ store.chunks ∧ ¬covered chunk) ∧
      (∃ count, reply = .ok count ∧ count + after.chunks.length = store.chunks.length) ∧
      Task.run (alone.delete filter).run now after = (.ok 0, now, after) := by
  intro store
  rcases StoreCall.mem_replay_iff distinct_empty calls now with ⟨distinct, held⟩
  refine ⟨fun chunk => ?_, distinct, fun chunks => ?_, fun filter => ?_⟩
  · refine (held chunk).trans ?_
    simp
  · by_cases storable : Storable chunks
    · have embedded : ∀ chunk ∈ chunks, chunk.embedding ≠ [] := storable
      rw [run_upsert_of_ok (store.upsert_of_storable storable)]
      dsimp only
      rw [if_pos embedded]
    · have incomplete : ¬∀ chunk ∈ chunks, chunk.embedding ≠ [] := storable
      rcases store.upsert_of_not_storable storable with ⟨chunk, member, isEmpty, refused⟩
      rw [run_upsert_of_error refused]
      dsimp only
      rw [if_neg incomplete]
      exact ⟨rfl, chunk, member, isEmpty, rfl⟩
  · intro covered
    rw [run_delete]
    have remaining : ∀ chunk, chunk ∈ (store.delete filter).2.chunks ↔
        chunk ∈ store.chunks ∧ ¬Covers filter chunk := fun chunk => store.mem_delete_iff filter
    refine ⟨remaining, ⟨_, rfl, store.delete_count_add filter⟩, ?_⟩
    rw [run_delete, delete_of_nothing]
    exact fun chunk member => ((remaining chunk).mp member).2

end MemoryStore

end GroundedAnswers
