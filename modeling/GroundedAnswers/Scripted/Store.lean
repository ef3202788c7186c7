import GroundedAnswers.Retrieval.Store

namespace GroundedAnswers

/-! A store in memory that fails where a script says so. -/

inductive StoreAction where
  | upsert
  | search
  | delete
  deriving DecidableEq, Repr

def StoreAction.name : StoreAction → String
  | .upsert => "upsert"
  | .search => "search"
  | .delete => "delete"

structure ScriptedStore where
  failing : List StoreAction := []
  /-- The searches that fail, counted from zero. -/
  failingSearches : List Nat := []
  searches : Nat := 0
  store : MemoryStore := {}
  deriving Inhabited

namespace ScriptedStore

def fault (occasion : String) : RetrievalFailure :=
  .vectorStore "scripted" (occasion ++ " failed")

def check (script : ScriptedStore) (action : StoreAction) : Except RetrievalFailure Unit :=
  if action ∈ script.failing then .error (fault action.name) else .ok ()

def beginSearch (script : ScriptedStore) : Except RetrievalFailure Unit × ScriptedStore :=
  let outcome := do
    script.check .search
    if script.searches ∈ script.failingSearches then throw (fault s!"search {script.searches}")
  (outcome, { script with searches := script.searches + 1 })

def vectorStore (part : τ → ScriptedStore) (replace : ScriptedStore → τ → τ) : VectorStore τ :=
  let inner := MemoryStore.vectorStore (fun state => (part state).store)
    fun store state => replace { part state with store } state
  let start : RetrievalTask τ Unit := fun _ state =>
    let (outcome, script) := (part state).beginSearch
    .finished outcome (replace script state)
  let allow (action : StoreAction) : RetrievalTask τ Unit := fun _ state =>
    .finished ((part state).check action) state
  { upsert := fun chunks => do
      allow .upsert
      inner.upsert chunks
    similaritySearch := fun embedding options => do
      start
      inner.similaritySearch embedding options
    hybridSearch := fun query embedding options => do
      start
      inner.hybridSearch query embedding options
    delete := fun filter => do
      allow .delete
      inner.delete filter }

end ScriptedStore

end GroundedAnswers
