import GroundedAnswers.Trace.Span

namespace GroundedAnswers

/-! Recording spans while they are open. A span belongs to the tenant that it names, or else to
that of its parent when it was opened; spans of no tenant are not kept. A span ends when it has been
released and all its children have ended. -/

structure OpenSpan where
  id : Nat
  parent : Option Nat
  name : String
  target : String
  start : Nat
  released : Bool
  attributes : List (String × Json)
  deriving Inhabited

structure SpanRecorder where
  /-- Every parent stands before its children. -/
  spans : List OpenSpan := []
  nextId : Nat := 1
  store : SpanStore := {}
  deriving Inhabited

namespace SpanRecorder

def find? (recorder : SpanRecorder) (id : Nat) : Option OpenSpan :=
  recorder.spans.find? (·.id = id)

def withAttributes (attributes added : List (String × Json)) : List (String × Json) :=
  added.foldl (fun merged (name, value) => Json.putMember name value merged) attributes

/-- The attributes of a new span, the tenant of its parent included. -/
def inherited (recorder : SpanRecorder) (parent : Option Nat) (attributes : List (String × Json)) :
    List (String × Json) :=
  let own := withAttributes [] attributes
  match own.lookup tenantAttribute with
  | some _ => own
  | none =>
      match (parent.bind recorder.find?).bind (·.attributes.lookup tenantAttribute) with
      | some tenant => Json.putMember tenantAttribute tenant own
      | none => own

def openSpan (recorder : SpanRecorder) (parent : Option Nat) (name target : String) (now : Nat)
    (attributes : List (String × Json)) : SpanRecorder × Nat :=
  let span : OpenSpan :=
    ⟨recorder.nextId, parent, name, target, now, false, recorder.inherited parent attributes⟩
  ({ recorder with spans := recorder.spans ++ [span], nextId := recorder.nextId + 1 },
    recorder.nextId)

def setAttributes (recorder : SpanRecorder) (id : Nat) (attributes : List (String × Json)) :
    SpanRecorder :=
  { recorder with
    spans := recorder.spans.map fun span =>
      if span.id = id then { span with attributes := withAttributes span.attributes attributes }
      else span }

def idText (id : Nat) : String :=
  String.ofList (Identifier.hexDigits id 16)

def closed (span : OpenSpan) (now : Nat) : SpanRecord where
  id := idText span.id
  parent := span.parent.map idText
  name := span.name
  target := span.target
  start := span.start
  finish := now
  attributes := span.attributes

/-- Take a span out and keep its record, if it has a tenant. -/
def finish (recorder : SpanRecorder) (span : OpenSpan) (now : Nat) : SpanRecorder :=
  let record := closed span now
  { recorder with
    spans := recorder.spans.filter (·.id ≠ span.id)
    store :=
      match record.text? tenantAttribute with
      | some tenant => recorder.store.record tenant record
      | none => recorder.store }

/-- End all spans that may end, given in the order from children to parents. -/
def finishAll (recorder : SpanRecorder) (now : Nat) : List OpenSpan → SpanRecorder
  | [] => recorder
  | span :: others =>
      if span.released && !recorder.spans.any (·.parent = some span.id) then
        (recorder.finish span now).finishAll now others
      else recorder.finishAll now others

/-- Let go of a span. It ends now unless a child is open; then it ends with the last of them. -/
def release (recorder : SpanRecorder) (id : Nat) (now : Nat) : SpanRecorder :=
  let spans := recorder.spans.map fun span =>
    if span.id = id then { span with released := true } else span
  { recorder with spans }.finishAll now spans.reverse

end SpanRecorder

end GroundedAnswers
