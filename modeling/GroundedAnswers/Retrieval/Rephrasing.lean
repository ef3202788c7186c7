import GroundedAnswers.Gateway.Basic
import GroundedAnswers.Retrieval.Task
import GroundedAnswers.Text.Blank

namespace GroundedAnswers

/-! Better texts to search with: variants of a query, and a passage that could answer it. -/

/-! ## Variants of a query, one a line -/

namespace Text

/-- The lines of a text. A line ends with a line feed, and a carriage return before it belongs to
the line end. -/
def lines (text : List Char) : List (List Char) :=
  (splitBehind (fun character _ => character = '\n') text).map fun line =>
    match line.reverse with
    | '\n' :: '\r' :: rest => rest.reverse
    | '\n' :: rest => rest.reverse
    | _ => line

example : lines "a\r\nb\n\nc\r".toList = ["a".toList, "b".toList, [], "c\r".toList] := by decide

end Text

def addVariant (variants : List String) (variant : String) : List String :=
  if variant ∈ variants then variants else variants ++ [variant]

/-- The query and the lines of an output, without blanks around them and without repetitions. -/
def queryVariants (query output : String) : List String :=
  let lines := (Text.lines output.toList).map fun line => String.ofList (Text.trimmed line)
  (lines.filter (· ≠ "")).foldl addVariant [query]

/-! ## What a model is asked for -/

/-- Finds variants of a query, the query itself first. -/
abbrev Rephraser (σ : Type) := RequestContext → String → RetrievalTask σ (List String)

namespace Rephraser

def prompt : String :=
  "You are a search query optimizer. Given a user question, generate 3 alternative versions of " ++
  "the question that would help retrieve relevant documents from a vector database.\n" ++
  "Each alternative should approach the question from a different angle.\n" ++
  "Return ONLY the 3 questions, one per line, no numbering or bullets."

/-- Ask a model for variants. When it fails, the query is its only variant. -/
def byModel (gateway : Gateway σ) (model : String) : Rephraser σ := fun context query => do
  let request := ChatRequest.of model [.system prompt, .user query]
  match ← ExceptT.lift (gateway.chat context (request.withTemperature 0.7)).run with
  | .ok response => return queryVariants query response.content
  | .error (.interrupted cause) => throw (.interrupted cause)
  | .error _ => return [query]

end Rephraser

abbrev PassageWriter (σ : Type) := RequestContext → String → RetrievalTask σ String

namespace PassageWriter

def prompt : String :=
  "Write a short, factual paragraph that would perfectly answer the following question.\n" ++
  "Write as if you are writing a passage from a reference document. Do not mention the question " ++
  "itself.\nBe specific and detailed."

def byModel (gateway : Gateway σ) (model : String) : PassageWriter σ := fun context query => do
  let request := ChatRequest.of model [.system prompt, .user query]
  let response ←
    ModelTask.forRetrieval (gateway.chat context (request.withTemperature 0.0))
  return Text.trim response.content

end PassageWriter

end GroundedAnswers
