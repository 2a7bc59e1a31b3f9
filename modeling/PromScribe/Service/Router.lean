import PromScribe.Service.Interface
import PromScribe.Service.Execution
import PromScribe.Translation.Conversion

/-!
# The router

A request is answered by the endpoint that its target names. Unknown targets and methods that an
endpoint does not answer get an empty response. Every response may be read from other origins, and
any `OPTIONS` request is answered with what they may send.
-/

namespace PromScribe

open Http Text

/-- Takes the only field of a request, empty if it is left out. -/
def fieldDecoder (name : String) : Decoder String := fun document => do
  let record ← Record.ofDocument [.of name .defaulted Decoder.string] document
  record.getD name Decoder.string ""

namespace Router

/-- Converts a question. -/
def convert (translator : Translator) (request : Request) :
    Attempt ApplicationFault Conversion := do
  let question ← Attempt.ofExcept id (bodyOf (fieldDecoder "query") request)
  Attempt.ofWork TranslationFault.toApplication (translator.convert question)

/-- Judges a query. -/
def validate (request : Request) : Attempt ApplicationFault Verdict := do
  let promql ← Attempt.ofExcept id (bodyOf (fieldDecoder "promql") request)
  Attempt.ofWork CollaboratorFault.toApplication (Verdict.judge promql)

/-- Executes a query. -/
def execute (request : Request) : Attempt ApplicationFault Executed := do
  let execution ← Attempt.ofExcept id (bodyOf Execution.decode request)
  execution.execute

/-- Lists the known metrics. -/
def metrics : Attempt ApplicationFault (List String) := do
  let snapshot ← Attempt.ofWork CollaboratorFault.toApplication Work.freshSnapshot
  return snapshot.names

/-- The query that every healthy backend answers. -/
def healthQuery : String := "up"

/-- The response of a backend that answers, or does not. -/
def healthResponse (healthy : Bool) : Response :=
  jsonResponse (if healthy then 200 else 503)
    (.object [("status", .string (if healthy then "ok" else "degraded")),
      ("prometheus", .bool healthy)])

/-- Asks the backend whether it answers. -/
def health : Work Response :=
  Work.call (.query healthQuery none) fun outcome => .done (healthResponse outcome.isOk)

/-- The work of a handler, ended by its response. -/
def answered {α : Type} (written : α → Json) (handler : Attempt ApplicationFault α) :
    Work Response :=
  Work.bind handler.run fun outcome => .done (responseOf written outcome)

/-- The response of an endpoint. -/
def serve (translator : Translator) (request : Request) : Endpoint → Work Response
  | .convert => answered Conversion.toJson (convert translator request)
  | .validate => answered Verdict.toJson (validate request)
  | .execute => answered Executed.toJson (execute request)
  | .metrics => answered Json.strings metrics
  | .health => health

/-- The header that names the methods of an endpoint. -/
def allowHeader (endpoint : Endpoint) : String × String :=
  ("allow", joined "," endpoint.methods)

/-- The headers of the response to a request from another origin that asks before it sends. -/
def preflightHeaders : List (String × String) :=
  [("access-control-allow-methods", "GET,POST,OPTIONS"),
    ("access-control-allow-headers", "accept,content-type"), ("access-control-max-age", "3600")]

/-- The header that lets any origin read a response. -/
def originHeader : String × String :=
  ("access-control-allow-origin", "*")

/-- The response, readable from any origin. -/
def shared (response : Response) : Response :=
  { response with headers := response.headers ++ [originHeader] }

/-- The response to a request that asks before it sends. -/
def preflight (endpoint : Option Endpoint) : Response :=
  ⟨200, preflightHeaders ++ endpoint.toList.map allowHeader, ""⟩

/-- The response without its body where only its head is wanted. -/
def headOnly (request : Request) (response : Response) : Response :=
  if request.method == "HEAD" then { response with body := "" } else response

/-- The response before it is shared. -/
def route (translator : Translator) (request : Request) : Work Response :=
  let endpoint := Endpoint.ofTarget? request.target
  if request.method == "OPTIONS" then .done (preflight endpoint)
  else
    match endpoint with
    | none => .done ⟨404, [], ""⟩
    | some known =>
        if known.methods.contains request.method then serve translator request known
        else .done ⟨405, [allowHeader known], ""⟩

/-- The response to a request. -/
def respond (translator : Translator) (request : Request) : Work Response :=
  Work.bind (route translator request) fun response => .done (shared (headOnly request response))

end Router

end PromScribe
