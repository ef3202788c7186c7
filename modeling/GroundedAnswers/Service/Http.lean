import GroundedAnswers.Backend
import GroundedAnswers.Json.Canonical
import GroundedAnswers.Json.Writer
import GroundedAnswers.Stream.Body

namespace GroundedAnswers

/-! Talking to a service over HTTP. -/

structure HttpRequest where
  method : String
  url : String
  headers : List (String × String)
  body : String
  timeoutMilliseconds : Nat

structure HttpResponse where
  status : UInt16
  body : List BodyPart

/-- How a request gets to a service. A request may be lost, with a message that says how. -/
abbrev Transport (σ : Type) := HttpRequest → Task σ (Except String HttpResponse)

structure Endpoint (σ : Type) where
  service : String
  base : String
  headers : List (String × String)
  timeoutMilliseconds : Nat
  transport : Transport σ

namespace Http

def notAsExpected : String := "not the expected JSON"

def isSuccess (status : UInt16) : Bool :=
  200 ≤ status ∧ status < 300

/-- The message within an error body: `error.message` or `error` where they are strings, else the
start of the body itself. -/
def errorMessage (body : String) : String :=
  let told := do
    let fault ← (← Json.readCanonical? body).member? "error"
    match (fault.member? "message").bind Json.string? with
    | some message => some message
    | none => fault.string?
  told.getD (String.ofList (body.toList.take 500))

end Http

namespace Endpoint

def post (endpoint : Endpoint σ) (path : String) (body : Json) : ModelTask σ (List BodyPart) := do
  let request : HttpRequest :=
    { method := "POST"
      url := endpoint.base ++ path
      headers := endpoint.headers
      body := body.compact
      timeoutMilliseconds := endpoint.timeoutMilliseconds }
  match ← ExceptT.lift (endpoint.transport request) with
  | .error message => throw (.unreachable endpoint.service message)
  | .ok response =>
      if Http.isSuccess response.status then return response.body
      else
        let text :=
          match ← ExceptT.lift (readBody response.body) with
          | .ok bytes => String.ofList (Text.Utf8.decodeReplacing bytes)
          | .error _ => ""
        throw (.refused endpoint.service response.status (Http.errorMessage text))

def ask (endpoint : Endpoint σ) (path : String) (body : Json) (decode : Json → Option α) :
    ModelTask σ α := do
  let parts ← endpoint.post path body
  match ← ExceptT.lift (readBody parts) with
  | .error message => throw (.unreachable endpoint.service message)
  | .ok bytes =>
      match (Text.Utf8.decode? bytes).bind fun text => (Json.read? text).bind decode with
      | some answer => return answer
      | none => throw (.unreadable endpoint.service Http.notAsExpected)

def withoutSlashes (address : String) : String :=
  String.ofList (address.toList.reverse.dropWhile (· = '/')).reverse

end Endpoint

end GroundedAnswers
