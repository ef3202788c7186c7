import GroundedAnswers.Service.Http

namespace GroundedAnswers

/-! A transport that answers from a script and keeps the requests that it was given. -/

inductive ScriptedExchange where
  | lost (message : String)
  | response (delayNanoseconds : Nat) (response : HttpResponse)

structure ScriptedTransport where
  exchanges : List ScriptedExchange := []
  sent : List HttpRequest := []
  deriving Inhabited

def ScriptedTransport.send : Transport ScriptedTransport := fun request => do
  let transport ← get
  let sent := transport.sent ++ [request]
  match transport.exchanges with
  | [] =>
      set { transport with sent }
      return .error "no scripted response"
  | .lost message :: exchanges =>
      set (⟨exchanges, sent⟩ : ScriptedTransport)
      return .error message
  | .response delay response :: exchanges =>
      set (⟨exchanges, sent⟩ : ScriptedTransport)
      Task.delay delay
      return .ok response

end GroundedAnswers
