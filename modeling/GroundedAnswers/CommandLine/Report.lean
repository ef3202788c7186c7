import GroundedAnswers.Json.Writer
import GroundedAnswers.Model.Info
import GroundedAnswers.Number.Fixed
import GroundedAnswers.Retrieval.Requests
import GroundedAnswers.Text.Width
import GroundedAnswers.Trace.Span

namespace GroundedAnswers

/-! What commands print. -/

/-- The path that each stored document was read from. -/
abbrev DocumentPaths := List (Identifier × String)

def DocumentPaths.pathOf (paths : DocumentPaths) (document : Identifier) : String :=
  (paths.lookup document).getD "?"

namespace Report

def line (text : String) : String :=
  text ++ "\n"

def lines (texts : List String) : String :=
  String.join (texts.map line)

/-! ## Models -/

def modelRow (info : ModelInfo) : String :=
  Text.padRight 12 info.backend ++ " " ++ Text.padRight 10 info.kind.name ++ " " ++ info.model

def models (json : Bool) (infos : List ModelInfo) : String :=
  if json then line (Json.array (infos.map ModelInfo.toJson)).pretty
  else lines (infos.map modelRow)

/-! ## Answers -/

def sourceLine (paths : DocumentPaths) (place : Nat) (citation : Citation) : String :=
  s!"[Source {place + 1}] {paths.pathOf citation.document} (score " ++
    Number.fixed32 3 citation.score ++ "): " ++ Text.onOneLine citation.content

def sources (paths : DocumentPaths) (citations : List Citation) : List String :=
  if citations.isEmpty then [] else "\nSources:" :: citations.mapIdx (sourceLine paths)

def answer (paths : DocumentPaths) (response : QueryResponse) : String :=
  lines (response.answer :: sources paths response.citations ++
    [s!"\n({response.model}, {response.tokens.toNat} tokens, $" ++
      Number.fixed64 6 response.cost ++ ")"])

/-! ## Passages -/

def previewCharacters : Nat := 120

def passageLine (paths : DocumentPaths) (place : Nat) (result : SearchResult) : String :=
  Text.padLeft 2 (toString (place + 1)) ++ ". " ++ Number.fixed32 3 result.score ++ "  " ++
    paths.pathOf result.document ++ "#" ++ toString result.index ++ "  " ++
    Text.onOneLine (Text.preview result.content previewCharacters)

def passages (paths : DocumentPaths) (results : List SearchResult) : String :=
  if results.isEmpty then line "no matching passages"
  else lines (results.mapIdx (passageLine paths))

/-! ## Spans -/

/-- A duration in milliseconds, by way of whole seconds and the nanoseconds beyond them. -/
def milliseconds (nanoseconds : Nat) : Float :=
  let seconds :=
    Number.floatOfInt (nanoseconds / 1000000000) +
      Number.floatOfInt (nanoseconds % 1000000000) / 1000000000.0
  seconds * 1000.0

def spanLine (span : SpanRecord) : String :=
  "  " ++ Text.padRight 22 span.name ++ " " ++
    Text.padLeft 8 (Number.fixed64 1 (milliseconds span.nanoseconds)) ++ " ms"

def trace (spans : List SpanRecord) : String :=
  lines ("\nTrace:" :: spans.map spanLine)

end Report

end GroundedAnswers
