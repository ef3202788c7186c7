import GroundedAnswers.Proofs.Task.Running
import GroundedAnswers.Service.OpenAi

namespace GroundedAnswers

/-! The embeddings in a response. Each has its index, and by these they are put into order, however
the response lists them. -/

namespace Endpoint

private theorem run_ask_map (endpoint : Endpoint σ) (path : String) (body : Json)
    (decode : Json → Option α) (transform : α → β) (now : Moment) (state : σ) :
    Task.run (endpoint.ask path body fun json => (decode json).map transform).run now state =
      let (outcome, reached) := Task.run (endpoint.ask path body decode).run now state
      (outcome.map transform, reached) := by
  unfold ask
  rcases posted : Task.run (endpoint.post path body).run now state with ⟨outcome, moment, between⟩
  cases outcome with
  | error failure =>
      rw [Task.run_bind_of_error posted, Task.run_bind_of_error posted]
      rfl
  | ok parts =>
      rw [Task.run_bind_of_ok posted, Task.run_bind_of_ok posted]
      rcases received : Task.run (readBody parts) moment between with ⟨bytes, later, after⟩
      rw [Task.run_bind_lift received, Task.run_bind_lift received]
      cases bytes with
      | error message => rfl
      | ok bytes =>
          dsimp only
          cases Text.Utf8.decode? bytes with
          | none => rfl
          | some text =>
              dsimp only [Option.bind_some]
              cases Json.read? text with
              | none => rfl
              | some json =>
                  dsimp only [Option.bind_some]
                  cases decode json <;> rfl

end Endpoint

namespace OpenAi

abbrev Row := UInt64 × Vector32

def listingOf? (json : Json) : Option (List Row × UInt32) := do
  match ← json.slots? ["data", "usage"] with
  | [data, usage] =>
      let rows ← data.required (Json.list? embeddingOf?)
      let counts ← usage.optional usageOf?
      return (rows, (counts.map Usage.inputTokens).getD 0)
  | _ => none

def ordered (rows : List Row) : List Vector32 :=
  (rows.mergeSort (·.1 ≤ ·.1)).map (·.2)

def inOrder (listing : List Row × UInt32) : List Vector32 × UInt32 :=
  (ordered listing.1, listing.2)

private theorem embeddingsOf?_eq (json : Json) :
    embeddingsOf? json = (listingOf? json).map inOrder := by
  unfold embeddingsOf? listingOf?
  cases json.slots? ["data", "usage"] with
  | none => rfl
  | some slots =>
      match slots with
      | [data, usage] =>
          dsimp only [Option.bind_eq_bind, Option.bind_some]
          cases data.required (Json.list? embeddingOf?) with
          | none => rfl
          | some rows => cases usage.optional usageOf? <;> rfl
      | [] | [_] | _ :: _ :: _ :: _ => rfl

def modelFor (request : EmbeddingRequest) : String :=
  if request.model = "" then defaultEmbeddingModel else request.model

def listed (endpoint : Endpoint σ) (request : EmbeddingRequest) : ModelTask σ (List Row × UInt32) :=
  endpoint.ask "/embeddings"
    (.object [("model", .string (modelFor request)), ("input", .ofStrings request.inputs)]) listingOf?

def responseTo (request : EmbeddingRequest) (listing : List Row × UInt32) : EmbeddingResponse :=
  ⟨name, modelFor request, ordered listing.1, listing.2, 0.0⟩

theorem run_embed (endpoint : Endpoint σ) (context : RequestContext) (request : EmbeddingRequest)
    (now : Moment) (state : σ) :
    Task.run ((backend endpoint).embed context request).run now state =
      let (outcome, reached) := Task.run (listed endpoint request).run now state
      (outcome.map (responseTo request), reached) := by
  have decoded : embeddingsOf? = fun json => (listingOf? json).map inOrder :=
    funext embeddingsOf?_eq
  have answered := endpoint.run_ask_map "/embeddings"
    (.object [("model", .string (modelFor request)), ("input", .ofStrings request.inputs)])
    listingOf? inOrder now state
  rw [← decoded] at answered
  change _ = (let (outcome, reached) := Task.run (listed endpoint request).run now state
    (outcome.map inOrder, reached)) at answered
  rcases asked : Task.run (listed endpoint request).run now state with ⟨outcome, moment, after⟩
  rw [asked] at answered
  unfold backend
  cases outcome with
  | error failure => exact Task.run_bind_of_error answered _
  | ok listing => exact Task.run_bind_of_ok answered _

/-- Each index below a number stands in exactly one row, and no other index does. -/
def Numbered (rows : List Row) (count : Nat) : Prop :=
  (rows.map fun row => row.1.toNat).Perm (List.range count)

theorem Numbered.sorted {rows : List Row} {count : Nat} (numbered : Numbered rows count) :
    (rows.mergeSort (·.1 ≤ ·.1)).map (fun row => row.1.toNat) = List.range count := by
  refine List.Perm.eq_of_pairwise (fun _ _ _ _ => Nat.le_antisymm) ?_ ?_ ?_
  · have sorted : (rows.mergeSort (·.1 ≤ ·.1)).Pairwise
        fun left right => decide (left.1 ≤ right.1) := by
      apply List.pairwise_mergeSort
      · intro first second third
        simp only [decide_eq_true_eq]
        exact UInt64.le_trans
      · intro left right
        simpa using UInt64.le_total left.1 right.1
    apply List.pairwise_map.mpr
    exact sorted.imp fun order => UInt64.le_iff_toNat_le.mp (of_decide_eq_true order)
  · exact List.pairwise_le_range
  · exact ((List.mergeSort_perm rows _).map _).trans numbered

theorem Numbered.length_ordered {rows : List Row} {count : Nat} (numbered : Numbered rows count) :
    (ordered rows).length = count := by
  have all := congrArg List.length numbered.sorted
  simpa [ordered] using all

theorem Numbered.exists_row {rows : List Row} {count place : Nat} (numbered : Numbered rows count)
    (inside : place < count) :
    ∃ index vector, (index, vector) ∈ rows ∧ index.toNat = place := by
  have named : place ∈ rows.map fun row => row.1.toNat :=
    numbered.mem_iff.mpr (List.mem_range.mpr inside)
  rcases List.mem_map.mp named with ⟨⟨index, vector⟩, member, same⟩
  exact ⟨index, vector, member, same⟩

theorem Numbered.getElem?_ordered {rows : List Row} {count : Nat} (numbered : Numbered rows count)
    {index : UInt64} {vector : Vector32} (listed : (index, vector) ∈ rows) :
    (ordered rows)[index.toNat]? = some vector := by
  have isSorted : (index, vector) ∈ rows.mergeSort (·.1 ≤ ·.1) := by
    simpa using listed
  rcases List.mem_iff_getElem?.mp isSorted with ⟨place, found⟩
  have named : (List.range count)[place]? = some index.toNat := by
    rw [← numbered.sorted, List.getElem?_map, found]
    rfl
  have same : place = index.toNat := by
    simpa using (List.getElem?_eq_some_iff.mp named).2
  rw [ordered, List.getElem?_map, ← same, found]
  rfl

end OpenAi

end GroundedAnswers
