import GroundedAnswers.Json.Record

namespace GroundedAnswers

/-! Messages of a conversation. -/

inductive Role where
  | system
  | user
  | assistant
  deriving DecidableEq, Repr

namespace Role

def name : Role → String
  | .system => "system"
  | .user => "user"
  | .assistant => "assistant"

def ofName? : String → Option Role
  | "system" => some .system
  | "user" => some .user
  | "assistant" => some .assistant
  | _ => none

theorem ofName?_name (role : Role) : ofName? role.name = some role := by
  cases role <;> rfl

end Role

structure Message where
  role : Role
  content : String
  deriving DecidableEq, Repr

namespace Message

def system (content : String) : Message := ⟨.system, content⟩

def user (content : String) : Message := ⟨.user, content⟩

def toJson (message : Message) : Json :=
  .object [("role", .string message.role.name), ("content", .string message.content)]

def ofJson? (json : Json) : Option Message := do
  match ← json.slots? ["role", "content"] with
  | [role, content] =>
      let name ← role.required Json.alternative?
      return ⟨← Role.ofName? name, ← content.required Json.string?⟩
  | _ => none

end Message

end GroundedAnswers
