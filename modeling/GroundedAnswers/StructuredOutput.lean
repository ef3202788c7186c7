import GroundedAnswers.Gateway.Basic
import GroundedAnswers.Json.Canonical
import GroundedAnswers.Text.Blank

namespace GroundedAnswers

/-! JSON from a model. Models wrap it into code fences or into prose; both are taken off before it
is read. -/

inductive StructuredFailure where
  | empty
  | invalidJson
  | unexpectedShape
  | missingFields (names : List String)
  | generation (failure : ModelFailure)
  deriving DecidableEq, Repr

def StructuredFailure.message : StructuredFailure → String
  | .empty => "model returned no content"
  | .invalidJson => "model output is not valid JSON"
  | .unexpectedShape => "model output has an unexpected shape"
  | .missingFields names =>
      "model output has an unexpected shape: missing required fields: " ++ ", ".intercalate names
  | .generation failure => failure.message

namespace StructuredOutput

def fence : List Char := ['\x60', '\x60', '\x60']

def withoutClosingFence (text : List Char) : List Char :=
  let ending := (Text.trimEnd text).reverse
  if fence.isPrefixOf ending then (ending.drop fence.length).reverse else text

/-- What stands inside a code fence. The line of the opening fence may name a language; a fence
without a line end is none. -/
def unfenced (text : List Char) : List Char :=
  let trimmed := Text.trimmed text
  if fence.isPrefixOf trimmed then
    match (trimmed.drop fence.length).dropWhile (· ≠ '\n') with
    | [] => trimmed
    | _ :: inside => Text.trimmed (withoutClosingFence inside)
  else trimmed

/-- The text from the first opening bracket to the last bracket that closes its kind. -/
def embedded? (text : List Char) : Option (List Char) :=
  match text.dropWhile fun character => character ≠ '[' ∧ character ≠ '\x7b' with
  | [] => none
  | opening :: rest =>
      let closing := if opening = '[' then ']' else '\x7d'
      match rest.reverse.dropWhile (· ≠ closing) with
      | [] => none
      | ending => some (opening :: ending.reverse)

def read (output : String) : Except StructuredFailure Json :=
  let body := unfenced output.toList
  if body = [] then .error .empty
  else
    let value := do
      match Json.readCanonical? (String.ofList body) with
      | some value => some value
      | none => Json.readCanonical? (String.ofList (← embedded? body))
    match value with
    | some value => .ok value
    | none => .error .invalidJson

def readAs (decode : Json → Option α) (output : String) : Except StructuredFailure α := do
  match decode (← read output) with
  | some value => .ok value
  | none => .error .unexpectedShape

end StructuredOutput

structure SchemaField where
  name : String
  fieldType : String
  description : String
  required : Bool
  deriving DecidableEq, Repr

namespace SchemaField

def toJson (field : SchemaField) : Json :=
  .object [("name", .string field.name), ("field_type", .string field.fieldType),
    ("description", .string field.description), ("required", .bool field.required)]

def ofJson? (json : Json) : Option SchemaField := do
  match ← json.slots? ["name", "field_type", "description", "required"] with
  | [name, fieldType, description, required] =>
      return ⟨← name.required Json.string?, ← fieldType.required Json.string?,
        ← description.required Json.string?, ← required.required Json.bool?⟩
  | _ => none

def line (field : SchemaField) : String :=
  let presence := if field.required then "required" else "optional"
  "- \"" ++ field.name ++ "\" (" ++ field.fieldType ++ ", " ++ presence ++ "): " ++
    field.description ++ "\n"

end SchemaField

structure StructuredPrompt where
  instruction : String
  fields : List SchemaField

namespace StructuredPrompt

def systemPrompt (prompt : StructuredPrompt) : String :=
  Text.trim prompt.instruction ++
    "\n\nRespond with ONLY a JSON object with the following fields:\n" ++
    String.join (prompt.fields.map SchemaField.line) ++
    "Do not include any text outside the JSON object."

def missing (prompt : StructuredPrompt) (value : Json) : List String :=
  (prompt.fields.filter fun field => field.required ∧ (value.member? field.name).isNone).map
    SchemaField.name

/-- The value in an output, once all required fields are there. -/
def accept (prompt : StructuredPrompt) (decode : Json → Option α) (output : String) :
    Except StructuredFailure α := do
  let value ← StructuredOutput.read output
  match prompt.missing value with
  | [] =>
      match decode value with
      | some decoded => .ok decoded
      | none => .error .unexpectedShape
  | names => .error (.missingFields names)

def generate (prompt : StructuredPrompt) (gateway : Gateway σ) (context : RequestContext)
    (model input : String) (decode : Json → Option α) :
    Task σ (Except StructuredFailure α) := do
  let messages := [Message.system prompt.systemPrompt, Message.user input]
  let request := (ChatRequest.of model messages).withTemperature 0.0
  match ← (gateway.chat context request).run with
  | .error failure => return .error (.generation failure)
  | .ok response => return prompt.accept decode response.content

end StructuredPrompt

end GroundedAnswers
