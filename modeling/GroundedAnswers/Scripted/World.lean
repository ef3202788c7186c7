import GroundedAnswers.Gateway.Draft
import GroundedAnswers.Scripted.Backend
import GroundedAnswers.Scripted.Store
import GroundedAnswers.Scripted.Transport
import GroundedAnswers.Trace.Recorder

namespace GroundedAnswers

/-! All scripted parts together: the records of some backends, a transport, a store, and the spans
of what is done with them. -/

structure ScriptedWorld where
  records : List ScriptRecord := []
  transport : ScriptedTransport := {}
  store : ScriptedStore := {}
  recorder : SpanRecorder := {}
  identifiers : Nat := 0
  deriving Inhabited

namespace ScriptedWorld

def start (scripts : List ScriptedBackend) (exchanges : List ScriptedExchange) : ScriptedWorld where
  records := scripts.map ScriptedBackend.record
  transport := { exchanges }

def backends (scripts : List ScriptedBackend) : List (Backend ScriptedWorld) :=
  scripts.mapIdx fun place script =>
    script.backend.zoom (fun world => world.records.getD place default)
      fun record world => { world with records := world.records.set place record }

def send : Transport ScriptedWorld := fun request =>
  Task.zoom ScriptedWorld.transport (fun transport world => { world with transport })
    (ScriptedTransport.send request)

def vectorStore : VectorStore ScriptedWorld :=
  ScriptedStore.vectorStore ScriptedWorld.store fun store world => { world with store }

def freshIdentifier : Task ScriptedWorld Identifier := do
  let world ← get
  set { world with identifiers := world.identifiers + 1 }
  return .ofNat world.identifiers

end ScriptedWorld

end GroundedAnswers
