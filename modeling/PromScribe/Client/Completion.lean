import PromScribe.Client.Backend

/-!
# The client of the completion provider

A prompt is sent as the only message of a conversation, and the first choice is the answer. Headers
from the settings are checked before anything is sent.
-/

namespace PromScribe

open Http Text

/-- How prompts are put to the completion provider. -/
structure CompletionClient where
  endpoint : String
  apiKey : String
  model : String
  temperature : Single
  topP : Single
  maxTokens : Nat
  headers : List (String × String)
  proxied : Bool
deriving DecidableEq

namespace CompletionClient

/-- A character that header values may have. -/
def isHeaderChar (c : Char) : Bool :=
  c = '\t' || (32 ≤ c.toNat && c.toNat != 127)

/-- A text that can be the value of a header. -/
def isHeaderValue (text : String) : Bool :=
  text.toList.all isHeaderChar

/-- A text that can be the name of a header. -/
def isHeaderName (text : String) : Bool :=
  text != "" && text.toList.all isTokenChar

/-- The headers with one more, in place of an earlier one of its name. -/
def putHeader (headers : List (String × String)) (name value : String) : List (String × String) :=
  headers.filter (fun header => header.1 != name) ++ [(name, value)]

/-- A checked value of a header. -/
def headerValue (value : String) : Except CollaboratorFault String :=
  if isHeaderValue value then .ok value
  else .error (.configuration TransportFault.headerWording)

/-- The headers with one more from the settings. -/
def addHeader (headers : List (String × String)) (setting : HeaderSetting) :
    Except CollaboratorFault (List (String × String)) := do
  if !isHeaderName setting.key then
    throw (.configuration ("header " ++ setting.key ++ ": invalid HTTP header name"))
  let value ← headerValue setting.value
  let name := String.ofList (setting.key.toList.map Char.toLower)
  return putHeader headers name value

/-- The headers of the settings. -/
def headersOf (settings : CompletionSettings) :
    Except CollaboratorFault (List (String × String)) := do
  let first ←
    match settings.organization with
    | some organization => do pure [("openai-organization", ← headerValue organization)]
    | none => pure []
  settings.headers.foldlM addHeader first

/-- The schemes of hosts in between. -/
def proxySchemes : List String := ["http", "https"]

/-- The address of a host in between; a text without a scheme is read again with the usual one. -/
def proxyUrl (text : String) : Except UrlFault Url :=
  match Url.read text with
  | .error .relative => (Url.read ("http://" ++ text)).mapError fun _ => .relative
  | .error (.unfit address) => (Url.read ("http://" ++ text)).mapError fun _ => .unfit address
  | outcome => outcome

/-- The fault of a host in between that is of no use. -/
def proxyFault (text reason : String) : CollaboratorFault :=
  .configuration ("proxy " ++ text ++ ": builder error: " ++ reason)

/-- Whether requests are sent through a host in between. -/
def isProxied (settings : CompletionSettings) : Except CollaboratorFault Bool :=
  match settings.proxy with
  | none => .ok false
  | some text =>
      match proxyUrl text with
      | .error fault => .error (proxyFault text (TransportFault.address fault).message)
      | .ok url =>
          if proxySchemes.contains url.scheme then .ok true
          else .error (proxyFault text "unknown proxy scheme")

/-- The client for checked settings. -/
def ofSettings (settings : CompletionSettings) : Except CollaboratorFault CompletionClient := do
  let headers ← headersOf settings
  let proxied ← isProxied settings
  return {
    endpoint := trimEndChar '/' settings.baseUrl ++ "/chat/completions"
    apiKey := settings.apiKey
    model := settings.model
    temperature := settings.temperature
    topP := settings.topP
    maxTokens := settings.maxTokens
    headers
    proxied }

/-- The value that the shortest text of a number stands for. -/
def numberJson : Single → Json
  | .finite number => (Json.read? (NumberStyle.document.text number)).getD .null
  | .infinite _ => .null
  | .undefined => .null

/-- The body of a request. -/
def body (client : CompletionClient) (prompt : String) : Json :=
  .object [("model", .string client.model),
    ("messages", .array [.object [("role", .string "user"), ("content", .string prompt)]]),
    ("temperature", numberJson client.temperature), ("top_p", numberJson client.topP),
    ("max_tokens", .nat client.maxTokens)]

/-- The headers of a request, unless the key cannot be written in one. -/
def requestHeaders (client : CompletionClient) : Except TransportFault (List (String × String)) :=
  let headers := putHeader client.headers contentType jsonType
  if client.apiKey = "" then .ok headers
  else if isHeaderValue client.apiKey then
    .ok (putHeader headers "authorization" ("Bearer " ++ client.apiKey))
  else .error .header

/-- The request for a prompt. -/
def dispatch (client : CompletionClient) (prompt : String) : Except TransportFault Dispatch := do
  let url ← (Url.read client.endpoint).mapError .address
  let headers ← client.requestHeaders
  let url ← url.forRequest.mapError .address
  return ⟨"POST", url, client.proxied, headers, (client.body prompt).text, none⟩

/-- Takes the content of a choice. -/
def choiceDecoder : Decoder (Option String) := fun document => do
  let content := Decoder.optional Decoder.string
  let message : Decoder (Option String) := fun document => do
    let record ← Record.ofDocument [.of "content" .defaulted content] document
    record.getD "content" content none
  let record ← Record.ofDocument [.of "message" .required message] document
  record.get "message" message

/-- Takes the contents of the choices. -/
def choicesDecoder : Decoder (List (Option String)) := fun document => do
  let choices := Decoder.list choiceDecoder
  let record ← Record.ofDocument [.of "choices" .required choices] document
  record.get "choices" choices

/-- What an arrival means. -/
def answered (arrival : Arrival) : Except CollaboratorFault String := do
  if !isSuccess arrival.status then
    throw (.request ("Request failed with status " ++ statusText arrival.status ++ ": " ++
      arrival.text.toOption.getD ""))
  let body ← arrival.whole.mapError fun fault => .serialization fault.message
  let choices ← (Json.decode choicesDecoder body).mapError fun _ =>
    .serialization TransportFault.undecodable.message
  match choices with
  | some content :: _ => return content
  | _ => throw (.response "completion has no choices")

/-- Puts a prompt. -/
def complete (client : CompletionClient) (prompt : String) :
    Enquiry CollaboratorFault String where
  dispatch := (client.dispatch prompt).mapError .ofTransport
  meaning delivery := (delivery.mapError .ofTransport).bind answered

end CompletionClient

end PromScribe
