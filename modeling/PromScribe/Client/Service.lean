import PromScribe.Http.Exchange
import PromScribe.Service.Interface
import PromScribe.Service.Execution
import PromScribe.Translation.Conversion

/-!
# The client of the service

Each endpoint is asked with the bodies and answers in the forms that the service gives them. An
answer that tells of a failure carries its wording.
-/

namespace PromScribe

open Http Text

/-- Why the service gave no answer of use. -/
inductive ServiceFault where
  | transport (fault : TransportFault)
  /-- The service answered with a failure. -/
  | refused (status : Nat) (message : String)
deriving DecidableEq, Repr

namespace ServiceFault

/-- The wording of the fault. -/
def message : ServiceFault → String
  | .transport fault => "HTTP error: " ++ fault.message
  | .refused status message => "API error (" ++ toString status ++ "): " ++ message

/-- The causes behind the fault, the nearest one first. -/
def causes : ServiceFault → List String
  | .transport fault => fault.message :: fault.causes
  | .refused _ _ => []

end ServiceFault

/-- An executed query as the service tells of it. -/
structure ExecutionReply where
  resultType : String
  result : Json
  chartType : String

namespace ExecutionReply

/-- Containers around the result. -/
def resultDepth : Nat := 1

/-- Takes an executed query. -/
def decode : Decoder ExecutionReply := fun document => do
  let result := Decoder.value (Document.depthLimit - resultDepth)
  let record ← Record.ofDocument
    [.of "resultType" .required Decoder.string, .of "result" .required result,
      .of "chartType" .required Decoder.string] document
  return {
    resultType := ← record.get "resultType" Decoder.string
    result := ← record.get "result" result
    chartType := ← record.get "chartType" Decoder.string }

/-- The written form. -/
def toJson (reply : ExecutionReply) : Json :=
  .object [("resultType", .string reply.resultType), ("result", reply.result),
    ("chartType", .string reply.chartType)]

/-- The result as series; none if it is something else. -/
def series (reply : ExecutionReply) : List Series :=
  ((Decoder.list Series.decode (Document.ofJson reply.result)).toOption).getD []

end ExecutionReply

namespace ServiceClient

/-- What a decoder takes from the body of an arrival. -/
def decoded {α : Type} (decoder : Decoder α) (arrival : Arrival) : Except ServiceFault α := do
  let body ← arrival.whole.mapError .transport
  (Json.decode decoder body).mapError fun _ => .transport .undecodable

/-- Takes the wording of a failure. -/
def messageDecoder : Decoder String := fun document => do
  let record ← Record.ofDocument [.of messageKey .required Decoder.string] document
  record.get messageKey Decoder.string

/-- The wording of a failure: what the body says, or all of it. -/
def wordingOf (body : String) : String :=
  (Json.decode messageDecoder body).toOption.getD body

/-- What an arrival means. -/
def answered {α : Type} (decoder : Decoder α) (arrival : Arrival) : Except ServiceFault α :=
  if isSuccess arrival.status then decoded decoder arrival
  else do
    let body ← arrival.text.mapError .transport
    throw (.refused arrival.status (wordingOf body))

/-- The status of a service whose backend does not answer. -/
def degradedStatus : Nat := 503

/-- What an arrival about the health of the service means; a degraded service tells of itself in
the same form. -/
def healthAnswered (decoder : Decoder Json) (arrival : Arrival) : Except ServiceFault Json :=
  if arrival.status = degradedStatus then decoded decoder arrival else answered decoder arrival

/-- The request to an endpoint of the service at an address, with a body if there is one. -/
def dispatch (address : String) (endpoint : Endpoint) (body : Option Json) :
    Except ServiceFault Dispatch :=
  match Url.readForRequest (trimEndChar '/' address ++ endpoint.path) with
  | .error fault => .error (.transport (.address fault))
  | .ok url =>
      match body with
      | none => .ok ⟨"GET", url, false, [], "", none⟩
      | some body => .ok ⟨"POST", url, false, [(contentType, jsonType)], body.text, none⟩

/-- The enquiry at an endpoint. -/
def enquiry {α : Type} (address : String) (endpoint : Endpoint) (body : Option Json)
    (meaning : Arrival → Except ServiceFault α) : Enquiry ServiceFault α where
  dispatch := dispatch address endpoint body
  meaning delivery := (delivery.mapError .transport).bind meaning

/-- Asks for the query of a question. -/
def convert (address question : String) : Enquiry ServiceFault Conversion :=
  enquiry address .convert (some (.object [("query", .string question)]))
    (answered Conversion.decode)

/-- Asks for the verdict on a query. -/
def validate (address promql : String) : Enquiry ServiceFault Verdict :=
  enquiry address .validate (some (.object [("promql", .string promql)])) (answered Verdict.decode)

/-- Asks for the result of a query. -/
def execute (address : String) (execution : Execution) : Enquiry ServiceFault ExecutionReply :=
  enquiry address .execute (some execution.toJson) (answered ExecutionReply.decode)

/-- Asks for the names of the known metrics. -/
def metrics (address : String) : Enquiry ServiceFault (List String) :=
  enquiry address .metrics none (answered (Decoder.list Decoder.string))

/-- Asks for the health of the service. -/
def health (address : String) : Enquiry ServiceFault Json :=
  enquiry address .health none (healthAnswered (Decoder.value Document.depthLimit))

end ServiceClient

end PromScribe
