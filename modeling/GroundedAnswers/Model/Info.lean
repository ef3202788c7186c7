import GroundedAnswers.Json.Record
import GroundedAnswers.Text.Search

namespace GroundedAnswers

/-! The models that backends offer. -/

inductive ModelKind where
  | chat
  | embedding
  deriving DecidableEq, Repr

namespace ModelKind

def name : ModelKind → String
  | .chat => "chat"
  | .embedding => "embedding"

def ofName? : String → Option ModelKind
  | "chat" => some .chat
  | "embedding" => some .embedding
  | _ => none

/-- Embedding models say so in their names. -/
def of (model : String) : ModelKind :=
  if Text.contains model "embed" then .embedding else .chat

end ModelKind

structure ModelInfo where
  backend : String
  model : String
  kind : ModelKind
  deriving DecidableEq, Repr

namespace ModelInfo

def toJson (info : ModelInfo) : Json :=
  .object [("backend", .string info.backend), ("model", .string info.model),
    ("kind", .string info.kind.name)]

def ofJson? (json : Json) : Option ModelInfo := do
  match ← json.slots? ["backend", "model", "kind"] with
  | [backend, model, kind] =>
      return ⟨← backend.required Json.string?, ← model.required Json.string?,
        ← ModelKind.ofName? (← kind.required Json.alternative?)⟩
  | _ => none

end ModelInfo

end GroundedAnswers
