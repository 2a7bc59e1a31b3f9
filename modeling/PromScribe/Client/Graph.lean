import PromScribe.Client.Backend
import PromScribe.Collaborator.Retry
import PromScribe.Text.Digits

/-!
# The client of the graph

Statements are sent one at a time, each in a transaction of its own. The graph is used only if a
statement that asks for nothing is answered within a few attempts.
-/

namespace PromScribe

open Http Text

/-- How statements are put to the graph. -/
structure GraphClient where
  endpoint : String
  user : String
  password : String
  limit : TimeSpan
deriving DecidableEq, Repr

namespace GraphClient

/-- The client for checked settings. -/
def ofSettings (settings : GraphSettings) : Except CollaboratorFault GraphClient :=
  if isBlankText settings.uri then .error (.configuration "knowledge graph uri is required")
  else
    .ok {
      endpoint := trimEndChar '/' settings.uri ++ "/db/" ++ settings.database ++ "/tx/commit"
      user := settings.user
      password := settings.password
      limit := .ofSeconds settings.timeout }

/-- The statement that finds the metrics related to a named one. -/
def relatedStatement : String :=
  "MATCH (m:Metric \x7bname: $name\x7d)-[r:RELATED]-(similar:Metric) " ++
    "RETURN similar, r.weight AS weight ORDER BY weight DESC LIMIT 5"

/-- The statement that asks for nothing. -/
def pingStatement : String := "RETURN 1"

/-- The body of a request. -/
def body (statement : String) (parameters : List (String × Json)) : Json :=
  .object [("statements", .array [.object [("statement", .string statement),
    ("parameters", .object parameters)]])]

/-- The headers of a request. -/
def headers (client : GraphClient) : List (String × String) :=
  [("authorization", "Basic " ++ base64 (client.user ++ ":" ++ client.password)),
    (contentType, jsonType)]

/-- The values of a row. -/
abbrev Row := List Json

/-- Containers around a value of a row. -/
def rowDepth : Nat := 6

/-- Takes the rows of a result. -/
def rowsDecoder : Decoder (List Row) := fun document => do
  let values := Decoder.list (Decoder.value (Document.depthLimit - rowDepth))
  let row : Decoder Row := fun document => do
    let record ← Record.ofDocument [.of "row" .required values] document
    record.get "row" values
  let rows := Decoder.list row
  let record ← Record.ofDocument [.of "data" .defaulted rows] document
  record.getD "data" rows []

/-- Takes a failure that the graph reports: its code and its wording. -/
def failureDecoder : Decoder (String × String) := fun document => do
  let record ← Record.ofDocument
    [.of "code" .required Decoder.string, .of "message" .required Decoder.string] document
  return (← record.get "code" Decoder.string, ← record.get "message" Decoder.string)

/-- The rows of the results, and the failures. -/
structure Answer where
  rows : List Row
  failures : List (String × String)

/-- Takes an answer. -/
def answerDecoder : Decoder Answer := fun document => do
  let results := Decoder.list rowsDecoder
  let failures := Decoder.list failureDecoder
  let record ← Record.ofDocument
    [.of "results" .defaulted results, .of "errors" .defaulted failures] document
  return {
    rows := (← record.getD "results" results []).flatten
    failures := ← record.getD "errors" failures [] }

/-- What an arrival means. -/
def answered (arrival : Arrival) : Except CollaboratorFault (List Row) := do
  if !isSuccess arrival.status then
    throw (.request ("Request failed with status: " ++ statusText arrival.status))
  let body ← arrival.whole.mapError fun fault => .serialization fault.message
  let answer ← (Json.decode answerDecoder body).mapError fun _ =>
    .serialization TransportFault.undecodable.message
  match answer.failures with
  | (code, message) :: _ => throw (.response (code ++ ": " ++ message))
  | [] => return answer.rows

/-- Puts a statement. -/
def run (client : GraphClient) (statement : String) (parameters : List (String × Json)) :
    Enquiry CollaboratorFault (List Row) where
  dispatch :=
    match Url.readForRequest client.endpoint with
    | .error fault => .error (.ofTransport (.address fault))
    | .ok url =>
        .ok ⟨"POST", url, false, client.headers, (body statement parameters).text,
          some client.limit⟩
  meaning delivery := (delivery.mapError .ofTransport).bind answered

/-- The text under a key of a node, empty if there is none. -/
def nodeText (node : Json) (key : String) : String :=
  ((node.member? key).bind Json.string?).getD ""

/-- The number that a value is. -/
def weight? : Json → Option Double
  | .number number => number.toDouble?
  | _ => none

/-- The metric of a row, if it has a name. -/
def related? (row : Row) : Option RelatedMetric := do
  let node ← row.head?
  let name ← (node.member? "name").bind Json.string?
  return {
    name
    metricType := nodeText node "type"
    description := nodeText node "description"
    weight := (row[1]?.bind weight?).getD RelatedMetric.weightless }

/-- Asks for the metrics related to a named one. -/
def related (client : GraphClient) (name : String) :
    Enquiry CollaboratorFault (List RelatedMetric) :=
  let found := client.run relatedStatement [("name", .string name)]
  ⟨found.dispatch, fun delivery => (found.meaning delivery).map (List.filterMap related?)⟩

/-- Asks for nothing. -/
def ping (client : GraphClient) : Enquiry CollaboratorFault (List Row) :=
  client.run pingStatement []

/-- How often the graph is tried. -/
def policyOf (settings : GraphSettings) : RetryPolicy :=
  ⟨settings.connectAttempts, .ofSeconds settings.connectBackoff, some (.ofSeconds settings.timeout)⟩

end GraphClient

end PromScribe
