import PromScribe.Collaborator.Work
import PromScribe.Decimal.Shortest
import PromScribe.Http.Exchange
import PromScribe.Json.Printer
import PromScribe.Json.Reader
import PromScribe.Settings.Basic

/-!
# The client of the query backend

Queries are sent as forms in the address. An answer is of use exactly if it has a status of success
and its body is an envelope that tells of success and holds data; every other answer is one of four
failures.
-/

namespace PromScribe

open Http Text

/-- A failed exchange as a failed call. -/
def CollaboratorFault.ofTransport (fault : TransportFault) : CollaboratorFault :=
  match fault with
  | .overdue _ => .timeout fault.message
  | .unreachable _ => .connection fault.message
  | .undecodable => .serialization fault.message
  | .address _ => .request fault.message
  | .header => .request fault.message
  | .closed _ => .request fault.message
  | .cutShort => .request fault.message

namespace Backend

/-- What the backend wraps its data in. -/
structure Envelope where
  status : String
  data : Option QueryData
  errorType : Option String
  error : Option String
deriving DecidableEq

namespace Envelope

/-- The status of an envelope that holds an answer. -/
def successStatus : String := "success"

/-- The envelope of an answer. -/
def ofData (data : QueryData) : Envelope :=
  ⟨successStatus, some data, none, none⟩

/-- Takes the data; the envelope is one nested container. -/
def dataDecoder : Decoder (Option QueryData) :=
  Decoder.optional (QueryData.decodeWithin (Document.depthLimit - 1))

/-- Takes an envelope. -/
def decode : Decoder Envelope := fun document => do
  let text := Decoder.optional Decoder.string
  let record ← Record.ofDocument
    [.of "status" .required Decoder.string, .of "data" .defaulted dataDecoder,
      .of "errorType" .defaulted text, .of "error" .defaulted text] document
  return {
    status := ← record.get "status" Decoder.string
    data := ← record.getD "data" dataDecoder none
    errorType := ← record.getD "errorType" text none
    error := ← record.getD "error" text none }

/-- The written form of the envelope; what it does not have is left out. -/
def toJson (envelope : Envelope) : Json :=
  .object ([("status", .string envelope.status)] ++
    (envelope.data.toList.map fun data => ("data", data.toJson)) ++
    (envelope.errorType.toList.map fun text => ("errorType", .string text)) ++
    (envelope.error.toList.map fun text => ("error", .string text)))

/-- The data of an envelope that tells of success. -/
def content (envelope : Envelope) : Except CollaboratorFault QueryData :=
  if envelope.status ≠ successStatus then
    .error (.response (envelope.errorType.getD "error" ++ ": " ++ envelope.error.getD ""))
  else
    match envelope.data with
    | some data => .ok data
    | none => .error (.response "response has no data")

end Envelope

/-- What an answer with a status and a body means. -/
def answered (status : Nat) (body : String) : Except CollaboratorFault QueryData :=
  let envelope? := (Json.decode Envelope.decode body).toOption
  if !isSuccess status then
    .error (.request ("Request failed with status " ++ statusText status ++ ": " ++
      (envelope?.bind Envelope.error).getD body))
  else
    match envelope? with
    | none => .error (.serialization ("unexpected response body: " ++ body))
    | some envelope => envelope.content

/-- What a delivery means. -/
def meaning (delivery : Delivery) : Except CollaboratorFault QueryData := do
  let arrival ← delivery.mapError .ofTransport
  let body ← arrival.text.mapError .ofTransport
  answered arrival.status body

/-- The form of an instant query. -/
def instantForm (promql : String) (time : Option Instant) : List (String × String) :=
  ("query", promql) :: time.toList.map fun time => ("time", time.millisecondText)

/-- The form of a range query. -/
def rangeForm (promql : String) (range : RangeQuery) : List (String × String) :=
  [("query", promql), ("start", range.start.millisecondText),
    ("end", range.stop.millisecondText),
    ("step", secondsText range.step.seconds range.step.subseconds)]

/-- The enquiry that sends a form to a path of the backend. -/
def enquiry (settings : BackendSettings) (path : String) (form : List (String × String)) :
    Enquiry CollaboratorFault QueryData where
  dispatch :=
    match Url.readForRequest (trimEndChar '/' settings.address ++ path) with
    | .error fault => .error (.ofTransport (.address fault))
    | .ok url =>
        .ok ⟨"GET", url.withForm form, false, [], "", some (.ofSeconds settings.timeout)⟩
  meaning := meaning

/-- Puts an instant query. -/
def query (settings : BackendSettings) (promql : String) (time : Option Instant) :
    Enquiry CollaboratorFault QueryData :=
  enquiry settings "/api/v1/query" (instantForm promql time)

/-- Puts a range query. -/
def queryRange (settings : BackendSettings) (promql : String) (range : RangeQuery) :
    Enquiry CollaboratorFault QueryData :=
  enquiry settings "/api/v1/query_range" (rangeForm promql range)

end Backend

end PromScribe
