import GroundedAnswers.Identifier
import GroundedAnswers.Json.Basic

namespace GroundedAnswers

/-! Spans: named stretches of work with a start, an end and attributes, kept by tenant. -/

def tenantAttribute : String := "tenant_id"

/-- A span that has ended. Times count nanoseconds. -/
structure SpanRecord where
  id : String
  parent : Option String
  name : String
  target : String
  start : Nat
  finish : Nat
  /-- Sorted by name. -/
  attributes : List (String × Json)
  deriving Inhabited

namespace SpanRecord

/-- How long a span took, up to the greatest 64-bit number of nanoseconds. A span that ends before
it starts took no time. -/
def nanoseconds (span : SpanRecord) : Nat :=
  min (span.finish - span.start) (UInt64.size - 1)

def text? (span : SpanRecord) (name : String) : Option String :=
  (span.attributes.lookup name).bind Json.string?

/-- The record as JSON, if its times fit 64 bits. -/
def toJson? (span : SpanRecord) : Option Json :=
  if span.start < UInt64.size ∧ span.finish < UInt64.size then
    some (.ofMembers [("span_id", some (.string span.id)), ("parent_id", span.parent.map .string),
      ("name", some (.string span.name)), ("target", some (.string span.target)),
      ("start_time", some (.ofNat span.start)), ("end_time", some (.ofNat span.finish)),
      ("attributes", some (.object span.attributes))])
  else none

end SpanRecord

/-- Spans by tenant, in the order in which they were recorded. -/
structure SpanStore where
  tenantSpans : List (String × List SpanRecord) := []
  deriving Inhabited

namespace SpanStore

def spansFor (store : SpanStore) (tenant : String) : List SpanRecord :=
  (store.tenantSpans.lookup tenant).getD []

def tenants (store : SpanStore) : List String :=
  store.tenantSpans.map (·.1)

def record (store : SpanStore) (tenant : String) (span : SpanRecord) : SpanStore :=
  ⟨Json.putMember tenant (store.spansFor tenant ++ [span]) store.tenantSpans⟩

def clear (_ : SpanStore) : SpanStore :=
  {}

end SpanStore

end GroundedAnswers
