import GroundedAnswers.Retrieval.Score
import GroundedAnswers.Retrieval.Task

namespace GroundedAnswers

/-! Stores of chunks. A search sees only the chunks of one tenant. -/

structure SearchOptions where
  tenant : Identifier
  topK : Nat
  minScore : Float32

def SearchOptions.accepts (options : SearchOptions) (score : Float32) : Bool :=
  Score.passes options.minScore score

/-- Which chunks to delete: all of a tenant, or those of one of its documents. -/
structure DeleteFilter where
  tenant : Identifier
  document : Option Identifier
  deriving DecidableEq, Repr

def DeleteFilter.selects (filter : DeleteFilter) (chunk : Chunk) : Bool :=
  chunk.tenant = filter.tenant ∧ filter.document.all (chunk.document = ·)

structure VectorStore (σ : Type) where
  upsert : List Chunk → RetrievalTask σ Unit
  similaritySearch : Vector32 → SearchOptions → RetrievalTask σ (List SearchResult)
  hybridSearch : String → Vector32 → SearchOptions → RetrievalTask σ (List SearchResult)
  delete : DeleteFilter → RetrievalTask σ Nat

/-- A store in memory: chunks with distinct identifiers. -/
structure MemoryStore where
  chunks : List Chunk := []
  deriving Inhabited

namespace MemoryStore

/-- Put a chunk into a list, in place of one with its identifier. -/
def put (chunk : Chunk) : List Chunk → List Chunk
  | [] => [chunk]
  | present :: others =>
      if present.id = chunk.id then chunk :: others else present :: put chunk others

/-- Store chunks. If one of them has no embedding, nothing is stored. -/
def upsert (store : MemoryStore) (chunks : List Chunk) : Except RetrievalFailure MemoryStore :=
  match chunks.find? (·.embedding.isEmpty) with
  | some chunk => .error (.vectorStore "InMemory" s!"chunk '{chunk.id}' has no embedding")
  | none => .ok ⟨chunks.foldl (fun stored chunk => put chunk stored) store.chunks⟩

def ranked (store : MemoryStore) (options : SearchOptions) (score : Chunk → Float32) :
    List SearchResult :=
  let own := store.chunks.filter (·.tenant = options.tenant)
  let scored := own.map fun chunk => SearchResult.ofChunk chunk (score chunk)
  (SearchResult.ranked (scored.filter (options.accepts ·.score))).take options.topK

def similaritySearch (store : MemoryStore) (embedding : Vector32) (options : SearchOptions) :
    List SearchResult :=
  store.ranked options fun chunk => Score.cosine chunk.embedding embedding

def hybridSearch (store : MemoryStore) (query : String) (embedding : Vector32)
    (options : SearchOptions) : List SearchResult :=
  store.ranked options fun chunk =>
    Score.hybrid (Score.cosine chunk.embedding embedding) (Score.keyword query chunk.content)

def delete (store : MemoryStore) (filter : DeleteFilter) : Nat × MemoryStore :=
  let kept := store.chunks.filter fun chunk => !filter.selects chunk
  (store.chunks.length - kept.length, ⟨kept⟩)

def vectorStore (part : τ → MemoryStore) (replace : MemoryStore → τ → τ) : VectorStore τ where
  upsert chunks := do
    let state ← get
    match (part state).upsert chunks with
    | .ok store => set (replace store state)
    | .error failure => throw failure
  similaritySearch embedding options := do
    return (part (← get)).similaritySearch embedding options
  hybridSearch query embedding options := do
    return (part (← get)).hybridSearch query embedding options
  delete filter := do
    let state ← get
    let (removed, store) := (part state).delete filter
    set (replace store state)
    return removed

theorem vectorStore_upsert_eq (part : τ → MemoryStore) (replace : MemoryStore → τ → τ)
    (chunks : List Chunk) (now : Moment) (state : τ) :
    (vectorStore part replace).upsert chunks now state =
      match (part state).upsert chunks with
      | .ok store => .finished (.ok ()) (replace store state)
      | .error failure => .finished (.error failure) state := by
  change (match (part state).upsert chunks with
    | .ok store => (set (replace store state) : RetrievalTask τ Unit)
    | .error failure => throw failure) now state = _
  cases (part state).upsert chunks <;> rfl

end MemoryStore

end GroundedAnswers
