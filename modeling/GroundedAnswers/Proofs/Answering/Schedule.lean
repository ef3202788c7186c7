import GroundedAnswers.Proofs.Answering.World
import Mathlib.Data.List.Nodup
import Mathlib.Logic.Equiv.Basic

namespace GroundedAnswers

/-! What a tenant is answered does not depend on what any other tenant does. The chunks that both
runs store have corresponding names, and all names that are drawn are different. -/

open MemoryStore (Linked)

def drawn (settings : RetrievalSettings) (identifiers : Nat → Nat → Identifier)
    (entries : List (Submission × Nat)) : List Identifier :=
  entries.flatMap fun (submission, place) =>
    (List.range (submission.operation.draws settings)).map (identifiers place)

/-! ## Renaming -/

private theorem exists_renaming (pairs : List (Identifier × Identifier))
    (distinct : (pairs.map Prod.fst).Nodup) (distinct' : (pairs.map Prod.snd).Nodup) :
    ∃ rename : Identifier → Identifier, Function.Injective rename ∧
      ∀ pair ∈ pairs, rename pair.1 = pair.2 := by
  induction pairs with
  | nil => exact ⟨id, Function.injective_id, nofun⟩
  | cons first rest induction =>
      rw [List.map_cons, List.nodup_cons] at distinct distinct'
      rcases induction distinct.2 distinct'.2 with ⟨rename, injective, renames⟩
      let exchange := Equiv.swap (rename first.1) first.2
      refine ⟨exchange ∘ rename, exchange.injective.comp injective, fun pair member => ?_⟩
      rcases List.mem_cons.mp member with rfl | member
      · exact Equiv.swap_apply_left _ _
      · have otherName : rename pair.1 ≠ rename first.1 := by
          intro same
          exact distinct.1 (injective same ▸ List.mem_map_of_mem member)
        have otherTarget : rename pair.1 ≠ first.2 := by
          rw [renames pair member]
          intro same
          exact distinct'.1 (same ▸ List.mem_map_of_mem member)
        rw [Function.comp, Equiv.swap_apply_of_ne_of_ne otherName otherTarget]
        exact renames pair member

/-! ## Fresh names -/

section

variable {settings : RetrievalSettings} {identifiers identifiers' : Nat → Nat → Identifier}

private theorem mem_drawn {entries : List (Submission × Nat)} {id : Identifier} :
    id ∈ drawn settings identifiers entries ↔
      ∃ entry ∈ entries, ∃ index < entry.1.operation.draws settings,
        identifiers entry.2 index = id := by
  simp [drawn]

/-- Names that two sequences give to the same chunks. -/
def correspondingNames (settings : RetrievalSettings) (identifiers identifiers' : Nat → Nat → Identifier)
    (entries : List (Submission × Nat)) : List (Identifier × Identifier) :=
  entries.flatMap fun (submission, place) =>
    (List.range (submission.operation.draws settings)).map fun index =>
      (identifiers place index, identifiers' place index)

private theorem map_fst_correspondingNames (entries : List (Submission × Nat)) :
    (correspondingNames settings identifiers identifiers' entries).map Prod.fst =
      drawn settings identifiers entries := by
  simp [correspondingNames, drawn, List.map_flatMap, Function.comp_def]

private theorem map_snd_correspondingNames (entries : List (Submission × Nat)) :
    (correspondingNames settings identifiers identifiers' entries).map Prod.snd =
      drawn settings identifiers' entries := by
  simp [correspondingNames, drawn, List.map_flatMap, Function.comp_def]

private theorem drawn_perm (select : Submission × Nat → Bool) (entries : List (Submission × Nat)) :
    (drawn settings identifiers (entries.filter select) ++
      drawn settings identifiers (entries.filter (!select ·))).Perm
        (drawn settings identifiers entries) := by
  rw [drawn, drawn, ← List.flatMap_append]
  exact (List.filter_append_perm select entries).flatMap_right _

end

/-- The submissions of a tenant with their places, and those of the others. -/
def entriesOf (away : Identifier) (submissions : List Submission) : List (Submission × Nat) :=
  submissions.zipIdx.filter fun entry => entry.1.context.tenant = away

def entriesWithout (away : Identifier) (submissions : List Submission) : List (Submission × Nat) :=
  submissions.zipIdx.filter fun entry => !decide (entry.1.context.tenant = away)

section

variable {away : Identifier} {submissions : List Submission} {place : Nat} {submission : Submission}

private theorem mem_entriesOf (submitted : submissions[place]? = some submission)
    (isAway : submission.context.tenant = away) :
    (submission, place) ∈ entriesOf away submissions :=
  List.mem_filter.mpr ⟨List.mem_zipIdx_iff_getElem?.mpr submitted, by simpa using isAway⟩

private theorem mem_entriesWithout (submitted : submissions[place]? = some submission)
    (isOther : submission.context.tenant ≠ away) :
    (submission, place) ∈ entriesWithout away submissions :=
  List.mem_filter.mpr ⟨List.mem_zipIdx_iff_getElem?.mpr submitted, by simpa using isOther⟩

end

namespace MemoryStore

def names (store : MemoryStore) : List Identifier :=
  store.chunks.map Chunk.id

def namesOf (away : Identifier) (store : MemoryStore) : List Identifier :=
  (store.chunks.filter (·.tenant = away)).map Chunk.id

private theorem mem_names_of_mem_namesOf {away id : Identifier} {store : MemoryStore}
    (member : id ∈ store.namesOf away) : id ∈ store.names :=
  (List.filter_sublist.map Chunk.id).subset member

private theorem mem_namesOf_iff {away : Identifier} {store : MemoryStore}
    (distinct : store.names.Nodup) {chunk : Chunk} (member : chunk ∈ store.chunks) :
    chunk.id ∈ store.namesOf away ↔ chunk.tenant = away := by
  constructor
  · intro named
    rcases List.mem_map.mp named with ⟨other, own, sameName⟩
    rcases List.mem_filter.mp own with ⟨present, isAway⟩
    have same : other = chunk := List.inj_on_of_nodup_map distinct present member sameName
    subst same
    simpa using isAway
  · intro isAway
    exact List.mem_map_of_mem (List.mem_filter.mpr ⟨member, by simpa using isAway⟩)

end MemoryStore

/-- The names of the tenant that is away: those in the store, and those that its operations give. -/
def AwayName (settings : RetrievalSettings) (identifiers : Nat → Nat → Identifier)
    (away : Identifier) (submissions : List Submission) (store : MemoryStore) (id : Identifier) :
    Prop :=
  id ∈ store.namesOf away ∨ id ∈ drawn settings identifiers (entriesOf away submissions)

section

variable {settings : RetrievalSettings} {identifiers identifiers' : Nat → Nat → Identifier}
  {away : Identifier} {submissions : List Submission} {store : MemoryStore}
  (fresh : (store.names ++ drawn settings identifiers submissions.zipIdx).Nodup)
  (fresh' : (store.names ++ drawn settings identifiers' (entriesWithout away submissions)).Nodup)

private theorem awayName_of_away {place : Nat} {submission : Submission}
    (submitted : submissions[place]? = some submission)
    (isAway : submission.context.tenant = away) :
    ∀ index < submission.operation.draws settings,
      AwayName settings identifiers away submissions store (identifiers place index) :=
  fun index within => .inr (mem_drawn.mpr
    ⟨_, mem_entriesOf submitted isAway, index, within, rfl⟩)

include fresh

/-- Fresh names of the tenant that is away, of the others, and names in the store never meet. -/
theorem nodup_parts (away : Identifier) :
    (store.names ++ (drawn settings identifiers (entriesOf away submissions) ++
      drawn settings identifiers (entriesWithout away submissions))).Nodup :=
  ((drawn_perm _ _).append_left _).nodup_iff.mpr fresh

private theorem linked_start {rename : Identifier → Identifier}
    (fixes : ∀ chunk ∈ store.chunks, rename chunk.id = chunk.id) :
    Linked rename away (AwayName settings identifiers away submissions store)
      (· ∈ store.namesOf away) store store where
  same := by
    have unchanged : ∀ chunk ∈ store.others away, chunk.renamed rename = chunk := by
      intro chunk member
      rw [Chunk.renamed, fixes chunk (List.mem_filter.mp member).1]
    exact ((List.map_congr_left unchanged).trans (List.map_id _)).symm
  left := by
    intro chunk member
    have distinct := (List.nodup_append.mp fresh).1
    have notDrawn : chunk.id ∉ drawn settings identifiers (entriesOf away submissions) := by
      intro named
      have parts := List.nodup_append.mp (nodup_parts fresh away)
      exact parts.2.2 _ (List.mem_map_of_mem member) _ (List.mem_append_left _ named) rfl
    rw [AwayName, or_iff_left notDrawn, MemoryStore.mem_namesOf_iff distinct member]
  right := by
    intro chunk member
    exact (MemoryStore.mem_namesOf_iff (List.nodup_append.mp fresh).1 member).symm

include fresh'

/-- Some renaming takes the new names of one run to those of the other, and leaves the names in the
store alone. -/
theorem exists_matching_renaming :
    ∃ rename : Identifier → Identifier, Function.Injective rename ∧
      (∀ chunk ∈ store.chunks, rename chunk.id = chunk.id) ∧
      ∀ place submission, submissions[place]? = some submission →
        submission.context.tenant ≠ away →
        Pipeline.NamesMatch rename (AwayName settings identifiers away submissions store)
          (· ∈ store.namesOf away) (identifiers place) (identifiers' place)
          (submission.operation.draws settings) := by
  let kept := entriesWithout away submissions
  let pairs := store.names.map (fun id => (id, id)) ++
    correspondingNames settings identifiers identifiers' kept
  have parts := nodup_parts fresh away
  have distinct : (pairs.map Prod.fst).Nodup := by
    rw [List.map_append, List.map_map, map_fst_correspondingNames]
    have names : store.names.map (Prod.fst ∘ fun id => (id, id)) = store.names := List.map_id _
    rw [names]
    exact parts.sublist ((List.sublist_append_right _ _).append_left _)
  have distinct' : (pairs.map Prod.snd).Nodup := by
    rw [List.map_append, List.map_map, map_snd_correspondingNames]
    have names : store.names.map (Prod.snd ∘ fun id => (id, id)) = store.names := List.map_id _
    rw [names]
    exact fresh'
  rcases exists_renaming pairs distinct distinct' with ⟨rename, injective, renames⟩
  refine ⟨rename, injective, ?_, ?_⟩
  · intro chunk member
    exact renames (chunk.id, chunk.id)
      (List.mem_append_left _ (List.mem_map_of_mem (List.mem_map_of_mem member)))
  · intro place submission submitted isOther index within
    have entry := mem_entriesWithout submitted isOther
    have drawnLeft : identifiers place index ∈ drawn settings identifiers kept :=
      mem_drawn.mpr ⟨_, entry, index, within, rfl⟩
    have drawnRight : identifiers' place index ∈ drawn settings identifiers' kept :=
      mem_drawn.mpr ⟨_, entry, index, within, rfl⟩
    refine ⟨?_, ?_, ?_⟩
    · have corresponds : (identifiers place index, identifiers' place index) ∈
          correspondingNames settings identifiers identifiers' kept :=
        List.mem_flatMap.mpr ⟨_, entry, List.mem_map_of_mem (List.mem_range.mpr within)⟩
      exact (renames _ (List.mem_append_right _ corresponds)).symm
    · rintro (named | named)
      · exact (List.nodup_append.mp parts).2.2 _ (MemoryStore.mem_names_of_mem_namesOf named) _
          (List.mem_append_right _ drawnLeft) rfl
      · exact (List.nodup_append.mp (List.nodup_append.mp parts).2.1).2.2 _ named _ drawnLeft rfl
    · intro named
      exact (List.nodup_append.mp fresh').2.2 _ (MemoryStore.mem_names_of_mem_namesOf named) _
        drawnRight rfl

end

/-- Leave out all operations of one tenant: the other tenants get the same answers, up to the names
of new chunks, whatever the order in which the operations take their turns. -/
theorem answers_without_tenant (settings : RetrievalSettings) (gateway : Gateway Unit)
    (submissions : List Submission) (away : Identifier) (store : MemoryStore)
    (schedule : List Nat) (identifiers identifiers' : Nat → Nat → Identifier)
    (fresh : (store.names ++ drawn settings identifiers submissions.zipIdx).Nodup)
    (fresh' :
      (store.names ++ drawn settings identifiers' (entriesWithout away submissions)).Nodup) :
    ∃ rename : Identifier → Identifier, Function.Injective rename ∧
      (∀ chunk ∈ store.chunks, rename chunk.id = chunk.id) ∧
      let whole := World.run settings gateway submissions identifiers store schedule
      let rest := World.run settings gateway submissions identifiers' store
        (schedule.filter (staysWithout away submissions))
      ∀ place submission, submissions[place]? = some submission →
        submission.context.tenant ≠ away →
        Option.Rel (AnswersAlike rename) (whole.answer? place) (rest.answer? place) := by
  rcases exists_matching_renaming fresh fresh' with ⟨rename, injective, fixes, names⟩
  refine ⟨rename, injective, fixes, ?_⟩
  intro whole rest place submission submitted isOther
  have begins : Simulated rename away (AwayName settings identifiers away submissions store)
      (· ∈ store.namesOf away) submissions ⟨store, fun _ => none⟩ ⟨store, fun _ => none⟩ :=
    ⟨linked_start fresh fixes, fun _ _ _ _ => .none, nofun⟩
  have ends := begins.run injective names (fun place submission => awayName_of_away) gateway
    schedule
  exact ends.answers submitted isOther

def PipelineResult.deletedCount? : PipelineResult → Option Nat
  | .deleted count => some count
  | _ => none

/-- Two tenants store the same document. One of them deletes its own while the other one still waits
for vectors, which then deletes two chunks with or without its neighbour. -/
theorem answers_without_tenant_shared_document :
    let settings : RetrievalSettings := {}
    let request : IngestRequest := ⟨.ofNat 9, "Ab. cd", some ⟨2, 0, .sentence⟩, ∅⟩
    let first := RequestContext.ofTenant (.ofNat 1)
    let second := RequestContext.ofTenant (.ofNat 2)
    let submissions : List Submission := [⟨0, first, .ingest request⟩, ⟨0, second, .ingest request⟩,
      ⟨0, second, .deleteDocument (.ofNat 9)⟩, ⟨0, first, .deleteDocument (.ofNat 9)⟩]
    let store : MemoryStore := ⟨[⟨.ofNat 5, .ofNat 9, .ofNat 2, 0, "Ab", [1.0], 1, ∅⟩]⟩
    let schedule := [0, 1, 1, 2, 0, 3]
    let identifiers (place index : Nat) := Identifier.ofNat (10 * (place + 1) + index)
    let identifiers' (place index : Nat) := Identifier.ofNat (10 * (place + 2) + index)
    let whole := World.run settings Pipeline.constantGateway submissions identifiers store schedule
    let rest := World.run settings Pipeline.constantGateway submissions identifiers' store
      (schedule.filter (staysWithout (.ofNat 2) submissions))
    (store.names ++ drawn settings identifiers submissions.zipIdx).Nodup ∧
    (store.names ++ drawn settings identifiers' (entriesWithout (.ofNat 2) submissions)).Nodup ∧
    whole.answer? 3 = some (.ok (.deleted 2)) ∧ rest.answer? 3 = some (.ok (.deleted 2)) := by
  intro settings request first second submissions store schedule identifiers identifiers' whole rest
  have fresh : (store.names ++ drawn settings identifiers submissions.zipIdx).Nodup := by
    decide +kernel
  have fresh' :
      (store.names ++ drawn settings identifiers' (entriesWithout (.ofNat 2) submissions)).Nodup := by
    decide +kernel
  have counted : (whole.answer? 3).bind (·.toOption.bind PipelineResult.deletedCount?) = some 2 := by
    decide +kernel
  have answered : whole.answer? 3 = some (.ok (.deleted 2)) := by
    generalize whole.answer? 3 = answer? at counted
    rcases answer? with _ | _ | result
    · cases counted
    · cases counted
    · cases result <;> cases counted
      rfl
  refine ⟨fresh, fresh', answered, ?_⟩
  rcases answers_without_tenant settings Pipeline.constantGateway submissions (.ofNat 2) store
    schedule identifiers identifiers' fresh fresh' with ⟨rename, _, _, alike⟩
  have same : Option.Rel (AnswersAlike rename) (whole.answer? 3) (rest.answer? 3) :=
    alike 3 _ rfl (by decide)
  rw [answered] at same
  generalize rest.answer? 3 = answer? at same ⊢
  cases same with
  | some same =>
      cases same with
      | ok => rfl

end GroundedAnswers