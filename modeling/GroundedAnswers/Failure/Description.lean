import GroundedAnswers.Failure.Retrieval
import GroundedAnswers.Json.Description
import GroundedAnswers.StructuredOutput

namespace GroundedAnswers

/-! Failures described in JSON: as reports of what went wrong, and as parts of scripts. Every
failure is of a kind, which has a name. -/

theorem Json.sizeOf_member?_lt {json value : Json} {name : String}
    (found : json.member? name = some value) : sizeOf value < sizeOf json := by
  cases json with
  | object members =>
      simp only [Json.member?, Option.map_eq_some_iff] at found
      obtain ⟨⟨other, present⟩, searched, rfl⟩ := found
      have member := List.sizeOf_lt_of_mem (List.mem_reverse.1 (List.mem_of_find?_eq_some searched))
      simp only [Prod.mk.sizeOf_spec] at member
      simp only [Json.object.sizeOf_spec]
      omega
  | _ => simp [Json.member?] at found

namespace ModelFailure

def kind : ModelFailure → String
  | notConfigured _ => "NotConfigured"
  | configuration _ => "Config"
  | invalidRequest _ => "InvalidRequest"
  | unreachable _ _ => "Request"
  | refused _ _ _ => "Api"
  | unreadable _ _ => "Parse"
  | unsupported _ _ => "Unsupported"
  | interrupted .cancelled => "Cancelled"
  | interrupted .deadlineExceeded => "DeadlineExceeded"
  | exhausted _ _ _ => "RetriesExhausted"

def report (failure : ModelFailure) : List (String × Json) :=
  [("error", .string failure.kind), ("message", .string failure.message),
    ("retryable", .bool failure.isRetryable), ("interruption", .bool failure.isInterruption)] ++
  match failure with
  | exhausted backend attempts last =>
      [("backend", .string backend), ("attempts", .ofNat attempts.toNat),
        ("source", .string last.kind)]
  | _ => []

def toJson (failure : ModelFailure) : Json :=
  .object failure.report

/-- Read a scripted failure. One that names no backend is of the given one. -/
def ofDescription (backend : String) (json : Json) : ModelFailure :=
  let backend := (json.textAt? "backend").getD backend
  let message := json.textAt "message"
  match json.textAt "kind" with
  | "NotConfigured" => notConfigured message
  | "Config" => configuration message
  | "Request" => unreachable backend message
  | "Api" => refused backend (json.naturalAt "status").toUInt16 message
  | "Parse" => unreadable backend message
  | "Unsupported" => unsupported backend "embeddings"
  | "Cancelled" => interrupted .cancelled
  | "DeadlineExceeded" => interrupted .deadlineExceeded
  | "RetriesExhausted" =>
      match _ : json.member? "source" with
      | some source =>
          exhausted backend (json.naturalAt "attempts").toUInt32 (ofDescription backend source)
      | none => invalidRequest message
  | _ => invalidRequest message
termination_by sizeOf json
decreasing_by exact Json.sizeOf_member?_lt (by assumption)

end ModelFailure

namespace RetrievalFailure

def kind : RetrievalFailure → String
  | noChunks => "NoChunks"
  | embeddingBatch _ _ => "EmbeddingBatch"
  | vectorCount _ _ _ => "EmbeddingCountMismatch"
  | noEmbedding => "NoEmbeddingReturned"
  | vectorStore _ _ => "VectorStore"
  | configuration _ => "Config"
  | interrupted cause => (ModelFailure.interrupted cause).kind
  | model _ => "Model"

def toJson (failure : RetrievalFailure) : Json :=
  .object (("error", .string failure.kind) ::
    match failure with
    | model cause => [("model", cause.toJson)]
    | _ => [("message", .string failure.message), ("interruption", .bool failure.isInterruption)])

def ofDescription (json : Json) : RetrievalFailure :=
  let backend := (json.textAt? "backend").getD ""
  match json.textAt "kind" with
  | "NoChunks" => noChunks
  | "EmbeddingBatch" =>
      embeddingBatch (json.naturalAt "batch") (.ofDescription backend (json.field "source"))
  | "EmbeddingCountMismatch" =>
      vectorCount (json.naturalAt "batch") (json.naturalAt "expected") (json.naturalAt "actual")
  | "NoEmbeddingReturned" => noEmbedding
  | "VectorStore" => vectorStore backend (json.textAt "message")
  | _ => ofModel (.ofDescription backend json)

end RetrievalFailure

/-- What was said instead of an answer in the right form is not repeated. -/
def StructuredFailure.toJson (failure : StructuredFailure) : Json :=
  let named (kind : String) (others : List (String × Json)) : Json :=
    .object (("error", .string kind) :: others)
  match failure with
  | .empty => named "Empty" [("message", .string failure.message)]
  | .invalidJson => named "InvalidJson" []
  | .unexpectedShape => named "Shape" []
  | .missingFields _ => named "Shape" [("message", .string failure.message)]
  | .generation cause => named "Generation" [("model", cause.toJson)]

end GroundedAnswers
