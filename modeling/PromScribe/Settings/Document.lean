import PromScribe.Json.Decode
import PromScribe.Settings.Basic

/-!
# Settings from documents

Settings in their written form. Every section and every key may be left out; what is written must
have the type of its setting.
-/

namespace PromScribe

/-- The count of values of the given number of bits. -/
def wordLimit (bits : Nat) : Nat := Nat.pow 2 bits

/-- Takes the number of thirty-two bits nearest to a number. -/
def Decoder.single : Decoder Single := fun document => do
  match ← Decoder.number document with
  | .integer value => return Finite.nearest (value < 0) value.natAbs 1
  | .double value => return value.convert Binary.single

/-- Takes a text that may be missing. -/
def Decoder.optionalText : Decoder (Option String) :=
  Decoder.optional Decoder.string

/-- Takes a number of sixty-four bits. -/
def Decoder.word : Decoder Nat :=
  Decoder.natBelow (wordLimit 64)

/-- Takes the settings of the service. -/
def ServerSettings.decode : Decoder ServerSettings := fun document => do
  let default : ServerSettings := {}
  let port := Decoder.natBelow (wordLimit 16)
  let record ← Record.ofDocument
    [.of "host" .defaulted Decoder.string, .of "port" .defaulted port,
      .of "request_timeout_seconds" .defaulted Decoder.word,
      .of "max_query_length" .defaulted Decoder.word] document
  return {
    host := ← record.getD "host" Decoder.string default.host
    port := ← record.getD "port" port default.port
    requestTimeout := ← record.getD "request_timeout_seconds" Decoder.word default.requestTimeout
    maxQueryLength := ← record.getD "max_query_length" Decoder.word default.maxQueryLength }

/-- Takes the settings of the backend. -/
def BackendSettings.decode : Decoder BackendSettings := fun document => do
  let default : BackendSettings := {}
  let record ← Record.ofDocument
    [.of "address" .defaulted Decoder.string, .of "timeout_seconds" .defaulted Decoder.word,
      .of "schema_ttl_seconds" .defaulted Decoder.word] document
  return {
    address := ← record.getD "address" Decoder.string default.address
    timeout := ← record.getD "timeout_seconds" Decoder.word default.timeout
    schemaTtl := ← record.getD "schema_ttl_seconds" Decoder.word default.schemaTtl }

/-- Takes a header. -/
def HeaderSetting.decode : Decoder HeaderSetting := fun document => do
  let record ← Record.ofDocument
    [.of "key" .required Decoder.string, .of "value" .required Decoder.string] document
  return ⟨← record.get "key" Decoder.string, ← record.get "value" Decoder.string⟩

/-- Takes the settings of the completion provider. -/
def CompletionSettings.decode : Decoder CompletionSettings := fun document => do
  let default : CompletionSettings := {}
  let tokens := Decoder.natBelow (wordLimit 32)
  let headers := Decoder.list HeaderSetting.decode
  let record ← Record.ofDocument
    [.of "model" .defaulted Decoder.string, .of "api_key" .defaulted Decoder.string,
      .of "base_url" .defaulted Decoder.string, .of "temperature" .defaulted Decoder.single,
      .of "top_p" .defaulted Decoder.single, .of "max_tokens" .defaulted tokens,
      .of "proxy" .defaulted Decoder.optionalText,
      .of "organization" .defaulted Decoder.optionalText,
      .of "custom_headers" .defaulted headers] document
  return {
    model := ← record.getD "model" Decoder.string default.model
    apiKey := ← record.getD "api_key" Decoder.string default.apiKey
    baseUrl := ← record.getD "base_url" Decoder.string default.baseUrl
    temperature := ← record.getD "temperature" Decoder.single default.temperature
    topP := ← record.getD "top_p" Decoder.single default.topP
    maxTokens := ← record.getD "max_tokens" tokens default.maxTokens
    proxy := ← record.getD "proxy" Decoder.optionalText none
    organization := ← record.getD "organization" Decoder.optionalText none
    headers := ← record.getD "custom_headers" headers [] }

/-- Takes the settings of the graph. -/
def GraphSettings.decode : Decoder GraphSettings := fun document => do
  let default : GraphSettings := {}
  let record ← Record.ofDocument
    [.of "enabled" .defaulted Decoder.bool, .of "uri" .defaulted Decoder.string,
      .of "user" .defaulted Decoder.string, .of "password" .defaulted Decoder.string,
      .of "database" .defaulted Decoder.string, .of "connect_attempts" .defaulted Decoder.word,
      .of "connect_backoff_seconds" .defaulted Decoder.word,
      .of "timeout_seconds" .defaulted Decoder.word] document
  return {
    enabled := ← record.getD "enabled" Decoder.bool default.enabled
    uri := ← record.getD "uri" Decoder.string default.uri
    user := ← record.getD "user" Decoder.string default.user
    password := ← record.getD "password" Decoder.string default.password
    database := ← record.getD "database" Decoder.string default.database
    connectAttempts := ← record.getD "connect_attempts" Decoder.word default.connectAttempts
    connectBackoff := ← record.getD "connect_backoff_seconds" Decoder.word default.connectBackoff
    timeout := ← record.getD "timeout_seconds" Decoder.word default.timeout }

/-- Takes settings. -/
def Settings.decode : Decoder Settings := fun document => do
  let record ← Record.ofDocument
    [.of "server" .defaulted ServerSettings.decode,
      .of "prometheus" .defaulted BackendSettings.decode,
      .of "llm" .defaulted CompletionSettings.decode,
      .of "knowledge_graph" .defaulted GraphSettings.decode] document
  return {
    server := ← record.getD "server" ServerSettings.decode {}
    backend := ← record.getD "prometheus" BackendSettings.decode {}
    completion := ← record.getD "llm" CompletionSettings.decode {}
    graph := ← record.getD "knowledge_graph" GraphSettings.decode {} }

end PromScribe
