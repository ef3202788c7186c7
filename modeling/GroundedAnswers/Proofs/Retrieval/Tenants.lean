import GroundedAnswers.Proofs.Retrieval.Renaming
import Mathlib.Data.List.Basic

namespace GroundedAnswers

/-! A store that several tenants share. A tenant is told apart from the others: `away` is its name,
and `foreign` holds of the identifiers of its chunks and of no others. -/

def RetrievalFailure.noEmbeddingOf (id : Identifier) : RetrievalFailure :=
  .vectorStore "InMemory" s!"chunk '{id}' has no embedding"

namespace MemoryStore

def others (away : Identifier) (store : MemoryStore) : List Chunk :=
  store.chunks.filter (·.tenant ≠ away)

/-- The tenant and the others never share identifiers. -/
def Apart (foreign : Identifier → Prop) (away : Identifier) (store : MemoryStore) : Prop :=
  ∀ chunk ∈ store.chunks, chunk.tenant = away ↔ foreign chunk.id

variable {foreign foreign' : Identifier → Prop} {away : Identifier}

/-! ## Storing -/

theorem mem_put {chunk other : Chunk} {stored : List Chunk} (member : other ∈ put chunk stored) :
    other = chunk ∨ other ∈ stored := by
  induction stored with
  | nil => exact .inl (List.mem_singleton.mp member)
  | cons present rest induction =>
      rw [put] at member
      split at member
      · rcases List.mem_cons.mp member with same | member
        · exact .inl same
        · exact .inr (List.mem_cons_of_mem _ member)
      · rcases List.mem_cons.mp member with same | member
        · exact .inr (same ▸ List.mem_cons_self)
        · exact (induction member).imp id (List.mem_cons_of_mem _)

private theorem filter_put_of_away {chunk : Chunk} (isAway : chunk.tenant = away)
    {stored : List Chunk}
    (apart : ∀ present ∈ stored, present.id = chunk.id → present.tenant = away) :
    (put chunk stored).filter (·.tenant ≠ away) = stored.filter (·.tenant ≠ away) := by
  induction stored with
  | nil => simp [put, isAway]
  | cons present rest induction =>
      have tail := induction fun other member => apart other (List.mem_cons_of_mem _ member)
      rw [put]
      split
      · have sameTenant := apart present List.mem_cons_self ‹_›
        rw [List.filter_cons_of_neg (by simpa using isAway),
          List.filter_cons_of_neg (by simpa using sameTenant)]
      · rw [List.filter_cons, List.filter_cons, tail]

private theorem filter_put_of_others {chunk : Chunk} (isOther : chunk.tenant ≠ away)
    {stored : List Chunk}
    (apart : ∀ present ∈ stored, present.id = chunk.id → present.tenant ≠ away) :
    (put chunk stored).filter (·.tenant ≠ away) = put chunk (stored.filter (·.tenant ≠ away)) := by
  induction stored with
  | nil => simp [put, isOther]
  | cons present rest induction =>
      have tail := induction fun other member => apart other (List.mem_cons_of_mem _ member)
      by_cases same : present.id = chunk.id
      · have presentOther := apart present List.mem_cons_self same
        rw [put, if_pos same, List.filter_cons_of_pos (by simpa using isOther),
          List.filter_cons_of_pos (by simpa using presentOther), put, if_pos same]
      · rw [put, if_neg same]
        by_cases presentOther : present.tenant = away
        · rw [List.filter_cons_of_neg (by simpa using presentOther),
            List.filter_cons_of_neg (by simpa using presentOther), tail]
        · rw [List.filter_cons_of_pos (by simpa using presentOther),
            List.filter_cons_of_pos (by simpa using presentOther), put, if_neg same, tail]

private theorem put_renamed {rename : Identifier → Identifier}
    (injective : Function.Injective rename) (chunk : Chunk) (stored : List Chunk) :
    put (chunk.renamed rename) (stored.map (.renamed rename)) =
      (put chunk stored).map (.renamed rename) := by
  induction stored with
  | nil => rfl
  | cons present rest induction =>
      have sameName : (present.renamed rename).id = (chunk.renamed rename).id ↔
          present.id = chunk.id := injective.eq_iff
      rw [List.map_cons, put, put]
      by_cases same : present.id = chunk.id
      · rw [if_pos same, if_pos (sameName.mpr same), List.map_cons]
      · rw [if_neg same, if_neg fun equal => same (sameName.mp equal), induction, List.map_cons]

def putAll (store : MemoryStore) (chunks : List Chunk) : MemoryStore :=
  ⟨chunks.foldl (fun stored chunk => put chunk stored) store.chunks⟩

theorem putAll_cons (store : MemoryStore) (chunk : Chunk) (rest : List Chunk) :
    store.putAll (chunk :: rest) = putAll ⟨put chunk store.chunks⟩ rest := rfl

theorem upsert_eq (store : MemoryStore) (chunks : List Chunk) :
    store.upsert chunks =
      match chunks.find? (·.embedding.isEmpty) with
      | some chunk => .error (.noEmbeddingOf chunk.id)
      | none => .ok (store.putAll chunks) := rfl

/-! ## One store -/

namespace Apart

variable {store : MemoryStore} (apart : Apart foreign away store)

include apart

theorem put {chunk : Chunk} (fits : chunk.tenant = away ↔ foreign chunk.id) :
    Apart foreign away ⟨MemoryStore.put chunk store.chunks⟩ := by
  intro other member
  rcases mem_put member with rfl | member
  · exact fits
  · exact apart other member

theorem delete (filter : DeleteFilter) : Apart foreign away (store.delete filter).2 :=
  fun chunk member => apart chunk (List.mem_filter.mp member).1

theorem putAll {chunks : List Chunk}
    (new : ∀ chunk ∈ chunks, chunk.tenant = away ∧ foreign chunk.id) :
    (store.putAll chunks).others away = store.others away ∧
      Apart foreign away (store.putAll chunks) := by
  induction chunks generalizing store with
  | nil => exact ⟨rfl, apart⟩
  | cons chunk rest induction =>
      rcases new chunk List.mem_cons_self with ⟨isAway, isForeign⟩
      have fits : chunk.tenant = away ↔ foreign chunk.id := ⟨fun _ => isForeign, fun _ => isAway⟩
      have tail := induction (apart.put fits)
        fun other member => new other (List.mem_cons_of_mem _ member)
      rw [putAll_cons]
      refine ⟨tail.1.trans (filter_put_of_away isAway fun present member sameName => ?_), tail.2⟩
      exact (apart present member).mpr (sameName ▸ isForeign)

end Apart

theorem others_delete_of_away (store : MemoryStore) {filter : DeleteFilter}
    (isAway : filter.tenant = away) : (store.delete filter).2.others away = store.others away := by
  unfold others MemoryStore.delete
  rw [List.filter_filter]
  refine List.filter_congr fun chunk _ => ?_
  by_cases own : chunk.tenant = away
  · simp [own]
  · simp [own, DeleteFilter.selects, isAway]

/-! ## Two stores -/

/-- Two stores hold the same chunks of the other tenants, up to their names. -/
structure Linked (rename : Identifier → Identifier) (away : Identifier)
    (foreign foreign' : Identifier → Prop) (left right : MemoryStore) : Prop where
  same : right.others away = (left.others away).map (.renamed rename)
  left : Apart foreign away left
  right : Apart foreign' away right

namespace Linked

variable {rename : Identifier → Identifier} {left right : MemoryStore}
  (linked : Linked rename away foreign foreign' left right)

include linked

theorem sameOf {tenant : Identifier} (isOther : tenant ≠ away) :
    SameOf rename tenant left right := by
  have own : ∀ store : MemoryStore, store.chunks.filter (·.tenant = tenant) =
      (store.others away).filter (·.tenant = tenant) := by
    intro store
    unfold others
    rw [List.filter_filter]
    refine List.filter_congr fun chunk _ => ?_
    by_cases same : chunk.tenant = tenant
    · simp [same, isOther]
    · simp [same]
  unfold SameOf
  rw [own left, own right, linked.same, List.filter_map]
  rfl

theorem put (injective : Function.Injective rename) {chunk : Chunk} (isOther : chunk.tenant ≠ away)
    (notForeign : ¬foreign chunk.id) (notForeign' : ¬foreign' (rename chunk.id)) :
    Linked rename away foreign foreign' ⟨MemoryStore.put chunk left.chunks⟩
      ⟨MemoryStore.put (chunk.renamed rename) right.chunks⟩ where
  same := by
    have leftApart : ∀ present ∈ left.chunks, present.id = chunk.id → present.tenant ≠ away := by
      intro present member sameName isAway
      exact notForeign (sameName ▸ (linked.left present member).mp isAway)
    have rightApart : ∀ present ∈ right.chunks, present.id = (chunk.renamed rename).id →
        present.tenant ≠ away := by
      intro present member sameName isAway
      have named := (linked.right present member).mp isAway
      rw [sameName] at named
      exact notForeign' named
    have same := linked.same
    unfold others at same ⊢
    rw [filter_put_of_others isOther leftApart, ← put_renamed injective, ← same]
    have renamedOther : (chunk.renamed rename).tenant ≠ away := isOther
    exact filter_put_of_others renamedOther rightApart
  left := linked.left.put ⟨fun isAway => absurd isAway isOther, fun named => absurd named notForeign⟩
  right := linked.right.put
    ⟨fun isAway => absurd isAway isOther, fun named => absurd named notForeign'⟩

theorem putAll (injective : Function.Injective rename) {chunks : List Chunk}
    (new : ∀ chunk ∈ chunks,
      chunk.tenant ≠ away ∧ ¬foreign chunk.id ∧ ¬foreign' (rename chunk.id)) :
    Linked rename away foreign foreign' (left.putAll chunks)
      (right.putAll (chunks.map (.renamed rename))) := by
  induction chunks generalizing left right with
  | nil => exact linked
  | cons chunk rest induction =>
      rcases new chunk List.mem_cons_self with ⟨isOther, notForeign, notForeign'⟩
      exact induction (linked.put injective isOther notForeign notForeign')
        fun other member => new other (List.mem_cons_of_mem _ member)

theorem upsert (injective : Function.Injective rename) {chunks : List Chunk}
    (new : ∀ chunk ∈ chunks,
      chunk.tenant ≠ away ∧ ¬foreign chunk.id ∧ ¬foreign' (rename chunk.id)) :
    (∃ id, left.upsert chunks = .error (.noEmbeddingOf id) ∧
      right.upsert (chunks.map (.renamed rename)) = .error (.noEmbeddingOf (rename id))) ∨
    ∃ left' right', left.upsert chunks = .ok left' ∧
      right.upsert (chunks.map (.renamed rename)) = .ok right' ∧
      Linked rename away foreign foreign' left' right' := by
  have found : (chunks.map (Chunk.renamed rename)).find? (·.embedding.isEmpty) =
      (chunks.find? (·.embedding.isEmpty)).map (.renamed rename) := by
    rw [List.find?_map]
    rfl
  rw [upsert_eq, upsert_eq, found]
  cases chunks.find? (·.embedding.isEmpty) with
  | some chunk => exact .inl ⟨chunk.id, rfl, rfl⟩
  | none => exact .inr ⟨_, _, rfl, rfl, linked.putAll injective new⟩

theorem delete {filter : DeleteFilter} (isOther : filter.tenant ≠ away) :
    (right.delete filter).1 = (left.delete filter).1 ∧
      Linked rename away foreign foreign' (left.delete filter).2 (right.delete filter).2 := by
  have removed : ∀ store : MemoryStore, (store.delete filter).1 =
      ((store.chunks.filter (·.tenant = filter.tenant)).filter filter.selects).length := by
    intro store
    have own : (store.chunks.filter (·.tenant = filter.tenant)).filter filter.selects =
        store.chunks.filter filter.selects := by
      rw [List.filter_filter]
      refine List.filter_congr fun chunk _ => ?_
      by_cases same : chunk.tenant = filter.tenant <;> simp [DeleteFilter.selects, same]
    have split := List.length_eq_length_filter_add (l := store.chunks) filter.selects
    rw [own]
    unfold MemoryStore.delete
    dsimp only
    omega
  have kept : ∀ store : MemoryStore, (store.delete filter).2.others away =
      (store.others away).filter fun chunk => !filter.selects chunk := by
    intro store
    unfold others MemoryStore.delete
    rw [List.filter_filter, List.filter_filter]
    exact List.filter_congr fun chunk _ => Bool.and_comm _ _
  refine ⟨?_, ?_, linked.left.delete filter, linked.right.delete filter⟩
  · rw [removed, removed, linked.sameOf isOther, List.filter_map, List.length_map]
    rfl
  · rw [kept, kept, linked.same, List.filter_map]
    rfl

end Linked

end MemoryStore

end GroundedAnswers
