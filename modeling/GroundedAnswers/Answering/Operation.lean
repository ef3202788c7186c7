import GroundedAnswers.Answering.Pipeline
import GroundedAnswers.Trace.Spanned

namespace GroundedAnswers

/-! What a pipeline can be asked for, as values. -/

inductive PipelineOperation where
  | ingest (request : IngestRequest)
  | search (request : SearchRequest)
  | query (request : QueryRequest)
  | deleteDocument (document : Identifier)
  | deleteTenant

inductive PipelineResult where
  | stored (chunks : List Chunk)
  | found (results : List SearchResult)
  | answered (response : QueryResponse)
  | deleted (count : Nat)

def Pipeline.perform (pipeline : Pipeline σ) (context : RequestContext) :
    PipelineOperation → RetrievalTask σ PipelineResult
  | .ingest request => return .stored (← pipeline.ingest context request)
  | .search request => return .found (← pipeline.search context request)
  | .query request => return .answered (← pipeline.query context request)
  | .deleteDocument document => return .deleted (← pipeline.deleteDocument context document)
  | .deleteTenant => return .deleted (← pipeline.deleteTenant context)

namespace PipelineOperation

def spanName : PipelineOperation → String
  | ingest _ => "rag.ingest"
  | search _ => "rag.search"
  | query _ => "rag.query"
  | deleteDocument _ => "rag.delete_document"
  | deleteTenant => "rag.delete_tenant"

/-- The span of an operation names the tenant, and the document that is stored. -/
def spanLabel (context : RequestContext) (operation : PipelineOperation) : SpanLabel where
  name := operation.spanName
  attributes :=
    (tenantAttribute, context.tenant.toJson) ::
      match operation with
      | ingest request => [("document.id", request.document.toJson)]
      | _ => []

end PipelineOperation

end GroundedAnswers
