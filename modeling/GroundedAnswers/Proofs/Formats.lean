import GroundedAnswers.Formats
import GroundedAnswers.Proofs.Identifier
import GroundedAnswers.Proofs.Json.Records

namespace GroundedAnswers

open Json

/-! Requests, settings and what a store holds are read back from the texts written for them. -/

/-! ## Identifiers and metadata -/

namespace Identifier

@[simp]
theorem isPlain_toJson (identifier : Identifier) : IsPlain identifier.toJson :=
  .string identifier.text

@[simp]
theorem ofJson?_toJson (identifier : Identifier) : ofJson? identifier.toJson = some identifier := by
  simp [ofJson?, toJson, read?_text]

end Identifier

namespace Metadata

@[simp]
theorem isPlain_listed (members : List (String × String)) : IsPlain (listed members) :=
  .object (List.forall_mem_map.mpr fun member _ => .string member.2)

private theorem ofJson?_listed {members : List (String × String)} {metadata : Metadata}
    (order : members.Perm metadata.members) : ofJson? (listed members) = some metadata := by
  have read : (members.map fun member => (member.1, Json.string member.2)).mapM textMember? =
      some members := by
    clear order
    induction members with
    | nil => rfl
    | cons member members induction =>
        rw [List.map_cons, List.mapM_cons, induction]
        rfl
  rw [← ofMembers_of_perm order]
  exact congrArg (Option.map ofMembers) read

end Metadata

/-! ## Conversations -/

namespace Message

@[simp]
theorem isPlain_toJson (message : Message) : IsPlain message.toJson :=
  .object (by simp)

@[simp]
theorem ofJson?_toJson (message : Message) : ofJson? message.toJson = some message := by
  simp [ofJson?, toJson, slots?_object, Role.ofName?_name]

end Message

namespace Usage

@[simp]
theorem isPlain_toJson (usage : Usage) : IsPlain usage.toJson :=
  .object (by simp)

@[simp]
theorem ofJson?_toJson (usage : Usage) : ofJson? usage.toJson = some usage := by
  simp [ofJson?, toJson, slots?_object]

end Usage

namespace ChatRequest

private theorem isPlain_toJson (request : ChatRequest) : IsPlain request.toJson := by
  refine isPlain_ofMembers ?_
  simp +contextual [isPlain_array_map]

private theorem ofJson?_toJson {request : ChatRequest}
    (numbers : ∀ value ∈ request.temperature.toList ++ request.topP.toList,
      float32? (ofFloat32 value) = some value) : ofJson? request.toJson = some request := by
  simp only [List.forall_mem_append, Option.mem_toList] at numbers
  have temperature := Slot.optionalWithDefault_ofMember float32?_null numbers.1
  have topP := Slot.optionalWithDefault_ofMember float32?_null numbers.2
  simp [ofJson?, toJson, slots?_ofMembers, Slot.optionalWithDefault_ofMember, list?_map, temperature,
    topP]

end ChatRequest

namespace ChatResponse

private theorem isPlain_toJson (response : ChatResponse) : IsPlain response.toJson := by
  refine isPlain_ofMembers ?_
  simp +contextual

private theorem ofJson?_toJson {response : ChatResponse}
    (cost : float? (ofFloat response.cost) = some response.cost) :
    ofJson? response.toJson = some response := by
  simp [ofJson?, toJson, slots?_ofMembers, Slot.optionalWithDefault_ofMember, cost]

end ChatResponse

namespace EmbeddingRequest

private theorem isPlain_toJson (request : EmbeddingRequest) : IsPlain request.toJson := by
  refine isPlain_ofMembers ?_
  simp +contextual

private theorem ofJson?_toJson (request : EmbeddingRequest) :
    ofJson? request.toJson = some request := by
  simp [ofJson?, toJson, slots?_ofMembers, Slot.optionalWithDefault_ofMember]

end EmbeddingRequest

/-! ## Settings -/

namespace ChunkOptions

@[simp]
theorem isPlain_toJson (options : ChunkOptions) : IsPlain options.toJson :=
  .object (by simp)

@[simp]
theorem ofJson?_toJson (options : ChunkOptions) : ofJson? options.toJson = some options := by
  simp [ofJson?, toJson, slots?_object, ChunkStrategy.ofName?_name]

@[simp]
theorem ofJson?_null : ofJson? .null = none := by
  simp [ofJson?, slots?]

end ChunkOptions

namespace RetrievalSettings

private theorem isPlain_toJson (settings : RetrievalSettings) : IsPlain settings.toJson :=
  .object (by simp [isPlain_ofOption])

private theorem ofJson?_toJson (settings : RetrievalSettings) :
    ofJson? settings.toJson = some settings := by
  simp [ofJson?, toJson, slots?_object, Slot.optionalWithDefault_ofOption]

end RetrievalSettings

namespace GatewaySettings

private theorem isPlain_toJson (settings : GatewaySettings) : IsPlain settings.toJson :=
  .object (by simp [isPlain_ofOption])

private theorem ofJson?_toJson (settings : GatewaySettings) :
    ofJson? settings.toJson = some settings := by
  simp [ofJson?, toJson, slots?_object, Slot.optionalWithDefault_ofOption]

end GatewaySettings

/-! ## Requests to a pipeline -/

namespace IngestRequest

private theorem isPlain_toJsonListing (metadata : List (String × String))
    (request : IngestRequest) :
    IsPlain (request.toJsonListing metadata) :=
  .object (by simp [isPlain_ofOption])

private theorem ofJson?_toJsonListing {metadata : List (String × String)} {request : IngestRequest}
    (order : metadata.Perm request.metadata.members) :
    ofJson? (request.toJsonListing metadata) = some request := by
  simp [ofJson?, toJsonListing, slots?_object, Slot.optionalWithDefault_ofOption,
    Metadata.ofJson?_listed order]

end IngestRequest

namespace SearchRequest

private theorem isPlain_toJson (request : SearchRequest) : IsPlain request.toJson :=
  .object (by simp)

private theorem ofJson?_toJson {request : SearchRequest}
    (minScore : float32? (ofFloat32 request.minScore) = some request.minScore) :
    ofJson? request.toJson = some request := by
  simp [ofJson?, toJson, slots?_object, minScore]

end SearchRequest

namespace QueryRequest

private theorem isPlain_toJson (request : QueryRequest) : IsPlain request.toJson := by
  refine isPlain_ofMembers ?_
  simp +contextual

private theorem ofJson?_toJson {request : QueryRequest}
    (minScore : float32? (ofFloat32 request.minScore) = some request.minScore) :
    ofJson? request.toJson = some request := by
  simp [ofJson?, toJson, slots?_ofMembers, Slot.optionalWithDefault_ofMember, minScore]

end QueryRequest

/-! ## Chunks and results -/

namespace Chunk

private theorem isPlain_toJsonListing (metadata : List (String × String)) (chunk : Chunk) :
    IsPlain (chunk.toJsonListing metadata) :=
  .object (by simp [isPlain_array_map])

private theorem ofJson?_toJsonListing {metadata : List (String × String)} {chunk : Chunk}
    (index : chunk.index < UInt64.size) (tokenCount : chunk.tokenCount < UInt64.size)
    (embedding : ∀ value ∈ chunk.embedding, float32? (ofFloat32 value) = some value)
    (order : metadata.Perm chunk.metadata.members) :
    ofJson? (chunk.toJsonListing metadata) = some chunk := by
  simp [ofJson?, toJsonListing, slots?_object, uint64?_ofNat_of_lt index,
    uint64?_ofNat_of_lt tokenCount, list?_map embedding, Metadata.ofJson?_listed order,
    Nat.mod_eq_of_lt index, Nat.mod_eq_of_lt tokenCount]

end Chunk

namespace SearchResult

private theorem isPlain_toJsonListing (metadata : List (String × String)) (result : SearchResult) :
    IsPlain (result.toJsonListing metadata) :=
  .object (by simp)

private theorem ofJson?_toJsonListing {metadata : List (String × String)} {result : SearchResult}
    (index : result.index < UInt64.size)
    (score : float32? (ofFloat32 result.score) = some result.score)
    (order : metadata.Perm result.metadata.members) :
    ofJson? (result.toJsonListing metadata) = some result := by
  simp [ofJson?, toJsonListing, slots?_object, uint64?_ofNat_of_lt index, score,
    Metadata.ofJson?_listed order, Nat.mod_eq_of_lt index]

end SearchResult

namespace Citation

private theorem isPlain_toJson (citation : Citation) : IsPlain citation.toJson :=
  .object (by simp)

private theorem ofJson?_toJson {citation : Citation}
    (score : float32? (ofFloat32 citation.score) = some citation.score) :
    ofJson? citation.toJson = some citation := by
  simp [ofJson?, toJson, slots?_object, score]

end Citation

/-! ## All of them -/

/-- Finite numbers. That a finite number is read back from the digits printed for it is taken for
granted, here of these numbers only. -/
structure IsPrinted32 (values : List Float32) : Prop where
  finite : ∀ value ∈ values, value.isFinite
  reread : ∀ value ∈ values, value.isFinite → Rereads ofFloat32 float32? value

structure IsPrinted (values : List Float) : Prop where
  finite : ∀ value ∈ values, value.isFinite
  reread : ∀ value ∈ values, value.isFinite → Rereads ofFloat float? value

private theorem IsPrinted32.float32?_ofFloat32 {values : List Float32}
    (printed : IsPrinted32 values) :
    ∀ value ∈ values, float32? (ofFloat32 value) = some value := fun value member =>
  rereads_ofFloat32_iff.mp (printed.reread value member (printed.finite value member))

private theorem IsPrinted.float?_ofFloat {values : List Float} (printed : IsPrinted values) :
    ∀ value ∈ values, float? (ofFloat value) = some value := fun value member =>
  rereads_ofFloat_iff.mp (printed.reread value member (printed.finite value member))

private theorem isPrinted32_of {values : List Float32} (finite : ∀ value ∈ values, value.isFinite)
    (read : ∀ value ∈ values, float32? (ofFloat32 value) = some value) : IsPrinted32 values :=
  ⟨finite, fun value member _ => rereads_ofFloat32_iff.mpr (read value member)⟩

private theorem isPrinted_of {values : List Float} (finite : ∀ value ∈ values, value.isFinite)
    (read : ∀ value ∈ values, float? (ofFloat value) = some value) : IsPrinted values :=
  ⟨finite, fun value member _ => rereads_ofFloat_iff.mpr (read value member)⟩

/-- Nothing is lost between a value and its text, whatever strings, numbers, lists and maps it
holds, whichever of its fields are left out, and in whatever order a map is written. -/
theorem rereads_toJson :
    (∀ request : ChatRequest,
      IsPrinted32 (request.temperature.toList ++ request.topP.toList) →
        Rereads ChatRequest.toJson ChatRequest.ofJson? request) ∧
    (∀ request : EmbeddingRequest,
      Rereads EmbeddingRequest.toJson EmbeddingRequest.ofJson? request) ∧
    (∀ response : ChatResponse, IsPrinted [response.cost] →
      Rereads ChatResponse.toJson ChatResponse.ofJson? response) ∧
    (∀ request : IngestRequest,
      Rereads IngestRequest.toJson IngestRequest.ofJson? request ∧
      ∀ metadata, metadata.Perm request.metadata.members →
        Rereads (IngestRequest.toJsonListing metadata) IngestRequest.ofJson? request) ∧
    (∀ request : QueryRequest, IsPrinted32 [request.minScore] →
      Rereads QueryRequest.toJson QueryRequest.ofJson? request) ∧
    (∀ request : SearchRequest, IsPrinted32 [request.minScore] →
      Rereads SearchRequest.toJson SearchRequest.ofJson? request) ∧
    (∀ options : ChunkOptions, Rereads ChunkOptions.toJson ChunkOptions.ofJson? options) ∧
    (∀ settings : RetrievalSettings,
      Rereads RetrievalSettings.toJson RetrievalSettings.ofJson? settings) ∧
    (∀ settings : GatewaySettings,
      Rereads GatewaySettings.toJson GatewaySettings.ofJson? settings) ∧
    (∀ chunk : Chunk, chunk.index < UInt64.size → chunk.tokenCount < UInt64.size →
      IsPrinted32 chunk.embedding →
        Rereads Chunk.toJson Chunk.ofJson? chunk ∧
        ∀ metadata, metadata.Perm chunk.metadata.members →
          Rereads (Chunk.toJsonListing metadata) Chunk.ofJson? chunk) ∧
    (∀ result : SearchResult, result.index < UInt64.size → IsPrinted32 [result.score] →
      Rereads SearchResult.toJson SearchResult.ofJson? result ∧
      ∀ metadata, metadata.Perm result.metadata.members →
        Rereads (SearchResult.toJsonListing metadata) SearchResult.ofJson? result) ∧
    (∀ citation : Citation, IsPrinted32 [citation.score] →
      Rereads Citation.toJson Citation.ofJson? citation) := by
  have single32 : ∀ {value : Float32}, IsPrinted32 [value] →
      float32? (ofFloat32 value) = some value := fun printed =>
    printed.float32?_ofFloat32 _ List.mem_cons_self
  have ingests : ∀ (request : IngestRequest) (metadata : List (String × String)),
      metadata.Perm request.metadata.members →
        Rereads (IngestRequest.toJsonListing metadata) IngestRequest.ofJson? request := by
    intro request metadata order
    rw [rereads_iff (request.isPlain_toJsonListing metadata)]
    exact IngestRequest.ofJson?_toJsonListing order
  have chunks : ∀ chunk : Chunk, chunk.index < UInt64.size → chunk.tokenCount < UInt64.size →
      IsPrinted32 chunk.embedding → ∀ metadata : List (String × String),
        metadata.Perm chunk.metadata.members →
          Rereads (Chunk.toJsonListing metadata) Chunk.ofJson? chunk := by
    intro chunk index count numbers metadata order
    rw [rereads_iff (chunk.isPlain_toJsonListing metadata)]
    exact Chunk.ofJson?_toJsonListing index count numbers.float32?_ofFloat32 order
  have results : ∀ result : SearchResult, result.index < UInt64.size → IsPrinted32 [result.score] →
      ∀ metadata : List (String × String), metadata.Perm result.metadata.members →
        Rereads (SearchResult.toJsonListing metadata) SearchResult.ofJson? result := by
    intro result index score metadata order
    rw [rereads_iff (result.isPlain_toJsonListing metadata)]
    exact SearchResult.ofJson?_toJsonListing index (single32 score) order
  refine ⟨fun request numbers => ?_, fun request => ?_, fun response cost => ?_,
    fun request => ⟨ingests request _ (.refl _), ingests request⟩, fun request score => ?_,
    fun request score => ?_, fun options => ?_, fun settings => ?_, fun settings => ?_,
    fun chunk index count numbers => ⟨chunks chunk index count numbers _ (.refl _),
      chunks chunk index count numbers⟩,
    fun result index score => ⟨results result index score _ (.refl _), results result index score⟩,
    fun citation score => ?_⟩
  · rw [rereads_iff request.isPlain_toJson]
    exact ChatRequest.ofJson?_toJson numbers.float32?_ofFloat32
  · rw [rereads_iff request.isPlain_toJson]
    exact request.ofJson?_toJson
  · rw [rereads_iff response.isPlain_toJson]
    exact ChatResponse.ofJson?_toJson (cost.float?_ofFloat _ List.mem_cons_self)
  · rw [rereads_iff request.isPlain_toJson]
    exact QueryRequest.ofJson?_toJson (single32 score)
  · rw [rereads_iff request.isPlain_toJson]
    exact SearchRequest.ofJson?_toJson (single32 score)
  · rw [rereads_iff options.isPlain_toJson]
    exact options.ofJson?_toJson
  · rw [rereads_iff settings.isPlain_toJson]
    exact settings.ofJson?_toJson
  · rw [rereads_iff settings.isPlain_toJson]
    exact settings.ofJson?_toJson
  · rw [rereads_iff citation.isPlain_toJson]
    exact Citation.ofJson?_toJson (single32 score)

/-- Numbers that are no sums of few powers of two, strings with marks and characters beyond 16 bits,
and fields left out. -/
theorem rereads_toJson_marked_texts :
    let text := "\"\\\n\x01\x7f😀"
    let members := [("a", ""), ("", text)]
    let metadata := Metadata.ofMembers members
    let request : ChatRequest := ⟨none, text, [.user text], some 0.7, some 0, some (-0.0), []⟩
    let response : ChatResponse := ⟨none, text, "", text, ⟨1, 2, 3⟩, 0.1, 0⟩
    let search : SearchRequest := { query := text, topK := -1, minScore := 0.7 }
    let chunk : Chunk := ⟨.ofNat 1, .ofNat 2, .ofNat 3, 0, text, [0.7, -0.0], 9, metadata⟩
    Rereads ChatRequest.toJson ChatRequest.ofJson? request ∧
      Rereads ChatResponse.toJson ChatResponse.ofJson? response ∧
      Rereads (IngestRequest.toJsonListing members) IngestRequest.ofJson?
        ⟨.ofNat 1, text, none, metadata⟩ ∧
      Rereads QueryRequest.toJson QueryRequest.ofJson? { toSearchRequest := search } ∧
      Rereads SearchRequest.toJson SearchRequest.ofJson? search ∧
      Rereads Chunk.toJson Chunk.ofJson? chunk ∧
      Rereads (SearchResult.toJsonListing members) SearchResult.ofJson? (.ofChunk chunk 0.7) ∧
      Rereads Citation.toJson Citation.ofJson? (.ofResult (.ofChunk chunk 0.7) 3) := by
  intro text members metadata request response search chunk
  have order : members.Perm metadata.members := by decide
  have score : IsPrinted32 [0.7] := isPrinted32_of (by decide +kernel) (by decide +kernel)
  have scores : IsPrinted32 [0.7, -0.0] := isPrinted32_of (by decide +kernel) (by decide +kernel)
  have cost : IsPrinted [0.1] := isPrinted_of (by decide +kernel) (by decide +kernel)
  obtain ⟨chats, -, responses, ingests, queries, searches, -, -, -, chunks, results, citations⟩ :=
    rereads_toJson
  exact ⟨chats request scores, responses response cost, (ingests _).2 members order,
    queries _ score, searches search score, (chunks chunk (by decide) (by decide) scores).1,
    (results _ (by decide) score).2 members order, citations _ score⟩

end GroundedAnswers
