import PromScribe.Fault.Application
import PromScribe.Http.Message
import PromScribe.Json.Decode
import PromScribe.Json.Printer
import PromScribe.Json.Reader

/-!
# Interface of the service

What the service can be asked for, and how bodies are read and written.
-/

/-!
## Endpoints

Each endpoint has one path and answers requests of one method; where that is `GET`, `HEAD` too.
-/

namespace PromScribe

/-- What the service can be asked for. -/
inductive Endpoint where
  | convert
  | validate
  | execute
  | metrics
  | health
deriving DecidableEq, Repr

namespace Endpoint

/-- Every endpoint. -/
def all : List Endpoint :=
  [.convert, .validate, .execute, .metrics, .health]

/-- The path of the endpoint. -/
def path : Endpoint → String
  | .convert => "/api/v1/convert"
  | .validate => "/api/v1/validate"
  | .execute => "/api/v1/execute"
  | .metrics => "/api/v1/metrics"
  | .health => "/health"

/-- The methods that the endpoint answers. -/
def methods : Endpoint → List String
  | .convert => ["POST"]
  | .validate => ["POST"]
  | .execute => ["POST"]
  | .metrics => ["GET", "HEAD"]
  | .health => ["GET", "HEAD"]

/-- The endpoint that a request target names. -/
def ofTarget? (target : String) : Option Endpoint :=
  all.find? fun endpoint => endpoint.path == Http.pathOf target

end Endpoint

/-!
## Bodies of requests

A body must be declared as a structured value, must be written as one, and must have the shape that
the endpoint wants.
-/

open Http

/-- Why a body is refused. -/
inductive BodyFault where
  /-- It is not declared as a structured value. -/
  | undeclared
  | unreadable (fault : Json.Fault)
deriving DecidableEq, Repr

/-- The wording of the fault; what is wrong in detail is left out. -/
def BodyFault.message : BodyFault → String
  | .undeclared => "Expected request with \x60Content-Type: application/json\x60"
  | .unreadable .syntaxFault => "Failed to parse the request body as JSON"
  | .unreadable .shapeFault =>
      "Failed to deserialize the JSON body into the target type"

/-- The request declares its body as a structured value. -/
def declaresJson (request : Request) : Bool :=
  ((request.headers.lookup contentType).bind MediaType.read?).any MediaType.isJson

/-- What a decoder takes from the body of a request. -/
def bodyOf {α : Type} (decoder : Decoder α) (request : Request) : Except ApplicationFault α :=
  let body : Except BodyFault α :=
    if declaresJson request then (Json.decode decoder request.body).mapError .unreadable
    else .error .undeclared
  body.mapError fun fault => .input fault.message

/-- A response whose body is a structured value. -/
def jsonResponse (status : Nat) (value : Json) : Response :=
  ⟨status, [(contentType, jsonType)], value.text⟩

/-- The key of the wording of a failure. -/
def messageKey : String := "message"

/-- The response to a request that failed. -/
def failureResponse (fault : ApplicationFault) : Response :=
  jsonResponse fault.status (.object [(messageKey, .string fault.message)])

/-- The response of a handler. -/
def responseOf {α : Type} (written : α → Json) : Except ApplicationFault α → Response
  | .ok value => jsonResponse 200 (written value)
  | .error fault => failureResponse fault

end PromScribe
