import GroundedAnswers.Embedding.Basic
import GroundedAnswers.Identifier
import GroundedAnswers.Json.Members
import GroundedAnswers.Text.Width

namespace GroundedAnswers

/-! What a store holds and what a search finds. -/

/-- Texts by name, one for each name and sorted by name. -/
@[ext]
structure Metadata where
  members : List (String × String)
  sorted : Json.IsSorted members

namespace Metadata

instance : EmptyCollection Metadata := ⟨⟨[], .nil⟩⟩

instance : Inhabited Metadata := ⟨∅⟩

def put (metadata : Metadata) (name value : String) : Metadata :=
  ⟨Json.putMember name value metadata.members, Json.isSorted_putMember metadata.sorted name value⟩

/-- Of several texts with one name the last counts. -/
def ofMembers (members : List (String × String)) : Metadata :=
  members.foldl (fun metadata (name, value) => metadata.put name value) ∅

def listed (members : List (String × String)) : Json :=
  .object (members.map fun (name, value) => (name, .string value))

def toJson (metadata : Metadata) : Json :=
  listed metadata.members

def textMember? : String × Json → Option (String × String)
  | (name, .string value) => some (name, value)
  | _ => none

def ofJson? : Json → Option Metadata
  | .object members => (members.mapM textMember?).map ofMembers
  | _ => none

theorem members_foldl_put {members : List (String × String)} {metadata : Metadata}
    (distinct : (metadata.members ++ members).Pairwise (·.1 ≠ ·.1)) :
    (members.foldl (fun metadata (name, value) => metadata.put name value) metadata).members.Perm
      (metadata.members ++ members) := by
  induction members generalizing metadata with
  | nil =>
      rw [List.append_nil]
      exact .refl _
  | cons member members induction =>
      have order : (metadata.put member.1 member.2).members.Perm (metadata.members ++ [member]) := by
        have apart := (List.pairwise_append.mp distinct).2.2
        refine (Json.putMember_perm member.2 fun other present same => ?_).trans
          (List.perm_append_singleton _ _).symm
        exact apart other present member List.mem_cons_self same.symm
      rw [List.append_cons] at distinct ⊢
      have others := order.append_right members
      exact (induction (others.symm.pairwise distinct Ne.symm)).trans others

theorem ofMembers_of_perm {members : List (String × String)} {metadata : Metadata}
    (order : members.Perm metadata.members) : ofMembers members = metadata := by
  have distinct : members.Pairwise (·.1 ≠ ·.1) :=
    order.symm.pairwise metadata.sorted.distinct Ne.symm
  have put : (ofMembers members).members.Perm members := members_foldl_put distinct
  exact Metadata.ext ((ofMembers members).sorted.eq_of_perm metadata.sorted
    (put.trans order))

end Metadata

def Identifier.toJson (identifier : Identifier) : Json :=
  .string identifier.text

def Identifier.ofJson? (json : Json) : Option Identifier :=
  json.string?.bind Identifier.read?

structure Chunk where
  id : Identifier
  document : Identifier
  tenant : Identifier
  index : Nat
  content : String
  embedding : Vector32
  tokenCount : Nat
  metadata : Metadata
  deriving Inhabited

namespace Chunk

def toJsonListing (metadata : List (String × String)) (chunk : Chunk) : Json :=
  .object [("id", chunk.id.toJson), ("document_id", chunk.document.toJson),
    ("tenant_id", chunk.tenant.toJson), ("index", .ofNat chunk.index),
    ("content", .string chunk.content),
    ("embedding", .array (chunk.embedding.map .ofFloat32)),
    ("token_count", .ofNat chunk.tokenCount), ("metadata", Metadata.listed metadata)]

def toJson (chunk : Chunk) : Json :=
  chunk.toJsonListing chunk.metadata.members

def ofJson? (json : Json) : Option Chunk := do
  let names := ["id", "document_id", "tenant_id", "index", "content", "embedding", "token_count",
    "metadata"]
  match ← json.slots? names with
  | [id, document, tenant, index, content, embedding, tokenCount, metadata] =>
      return {
        id := ← id.required Identifier.ofJson?
        document := ← document.required Identifier.ofJson?
        tenant := ← tenant.required Identifier.ofJson?
        index := (← index.required Json.uint64?).toNat
        content := ← content.required Json.string?
        embedding := ← embedding.required (Json.list? Json.float32?)
        tokenCount := (← tokenCount.required Json.uint64?).toNat
        metadata := ← metadata.withDefault ∅ Metadata.ofJson? }
  | _ => none

end Chunk

structure SearchResult where
  chunk : Identifier
  document : Identifier
  content : String
  score : Float32
  index : Nat
  metadata : Metadata
  deriving Inhabited

namespace SearchResult

def ofChunk (chunk : Chunk) (score : Float32) : SearchResult :=
  ⟨chunk.id, chunk.document, chunk.content, score, chunk.index, chunk.metadata⟩

def toJsonListing (metadata : List (String × String)) (result : SearchResult) : Json :=
  .object [("chunk_id", result.chunk.toJson), ("document_id", result.document.toJson),
    ("content", .string result.content), ("score", .ofFloat32 result.score),
    ("index", .ofNat result.index), ("metadata", Metadata.listed metadata)]

def toJson (result : SearchResult) : Json :=
  result.toJsonListing result.metadata.members

def ofJson? (json : Json) : Option SearchResult := do
  match ← json.slots? ["chunk_id", "document_id", "content", "score", "index", "metadata"] with
  | [chunk, document, content, score, index, metadata] =>
      return ⟨← chunk.required Identifier.ofJson?, ← document.required Identifier.ofJson?,
        ← content.required Json.string?, ← score.required Json.float32?,
        (← index.required Json.uint64?).toNat, ← metadata.withDefault ∅ Metadata.ofJson?⟩
  | _ => none

end SearchResult

structure Citation where
  document : Identifier
  chunk : Identifier
  content : String
  score : Float32

namespace Citation

def ofResult (result : SearchResult) (previewCharacters : Nat) : Citation :=
  ⟨result.document, result.chunk, Text.preview result.content previewCharacters, result.score⟩

def toJson (citation : Citation) : Json :=
  .object [("document_id", citation.document.toJson), ("chunk_id", citation.chunk.toJson),
    ("content", .string citation.content), ("score", .ofFloat32 citation.score)]

def ofJson? (json : Json) : Option Citation := do
  match ← json.slots? ["document_id", "chunk_id", "content", "score"] with
  | [document, chunk, content, score] =>
      return ⟨← document.required Identifier.ofJson?, ← chunk.required Identifier.ofJson?,
        ← content.required Json.string?, ← score.required Json.float32?⟩
  | _ => none

end Citation

end GroundedAnswers
