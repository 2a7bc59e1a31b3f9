import PromScribe.Settings.Basic
import PromScribe.Settings.Value

/-!
# Sections of settings

A section is a table of its settings, or a list of them in their order. What is left out keeps its
default, and a value that cannot be converted to what its setting wants spoils all.
-/

namespace PromScribe

namespace SettingValue

/-- The value may hold a section: a table, or a list of its values in their order. -/
def isSection : SettingValue → Bool
  | .table _ => true
  | .list _ => true
  | _ => false

/-- The value of a key in a section, by its name or by its place. -/
def key? (settings : SettingValue) (place : Nat) (name : String) : Option SettingValue :=
  match settings with
  | .table found => found.lookup name
  | .list items => items[place]?
  | _ => none

/-- The value of a key as its setting wants it, a default where the key is left out. -/
def keyD {α : Type} (settings : SettingValue) (place : Nat) (name : String)
    (convert : SettingValue → Option α) (default : α) : Option α :=
  match settings.key? place name with
  | some value => convert value
  | none => some default

/-- The value as a text that may be missing. -/
def optionalText? : SettingValue → Option (Option String)
  | .nothing => some none
  | value => value.text?.map some

/-- The items of a list, each converted. -/
def list? {α : Type} (convert : SettingValue → Option α) : SettingValue → Option (List α)
  | .list items => items.mapM convert
  | _ => none

end SettingValue

/-- A natural number of sixty-four bits. -/
def SettingValue.longWord? : SettingValue → Option Nat := SettingValue.word? (Nat.pow 2 64)

/-- The settings of the service in a section. -/
def ServerSettings.ofSection? (settings : SettingValue) : Option ServerSettings := do
  let default : ServerSettings := {}
  if !settings.isSection then none
  return {
    host := ← settings.keyD 0 "host" SettingValue.text? default.host
    port := ← settings.keyD 1 "port" (SettingValue.word? (Nat.pow 2 16)) default.port
    requestTimeout :=
      ← settings.keyD 2 "request_timeout_seconds" SettingValue.longWord? default.requestTimeout
    maxQueryLength :=
      ← settings.keyD 3 "max_query_length" SettingValue.longWord? default.maxQueryLength }

/-- The settings of the backend in a section. -/
def BackendSettings.ofSection? (settings : SettingValue) : Option BackendSettings := do
  let default : BackendSettings := {}
  if !settings.isSection then none
  return {
    address := ← settings.keyD 0 "address" SettingValue.text? default.address
    timeout := ← settings.keyD 1 "timeout_seconds" SettingValue.longWord? default.timeout
    schemaTtl := ← settings.keyD 2 "schema_ttl_seconds" SettingValue.longWord? default.schemaTtl }

/-- The header in a section. -/
def HeaderSetting.ofSection? (settings : SettingValue) : Option HeaderSetting := do
  let key ← settings.key? 0 "key"
  let value ← settings.key? 1 "value"
  return ⟨← key.text?, ← value.text?⟩

/-- The settings of the completion provider in a section. -/
def CompletionSettings.ofSection? (settings : SettingValue) : Option CompletionSettings := do
  let default : CompletionSettings := {}
  let headers := SettingValue.list? HeaderSetting.ofSection?
  if !settings.isSection then none
  return {
    model := ← settings.keyD 0 "model" SettingValue.text? default.model
    apiKey := ← settings.keyD 1 "api_key" SettingValue.text? default.apiKey
    baseUrl := ← settings.keyD 2 "base_url" SettingValue.text? default.baseUrl
    temperature := ← settings.keyD 3 "temperature" SettingValue.single? default.temperature
    topP := ← settings.keyD 4 "top_p" SettingValue.single? default.topP
    maxTokens := ← settings.keyD 5 "max_tokens" (SettingValue.word? (Nat.pow 2 32)) default.maxTokens
    proxy := ← settings.keyD 6 "proxy" SettingValue.optionalText? none
    organization := ← settings.keyD 7 "organization" SettingValue.optionalText? none
    headers := ← settings.keyD 8 "custom_headers" headers [] }

/-- The settings of the graph in a section. -/
def GraphSettings.ofSection? (settings : SettingValue) : Option GraphSettings := do
  let default : GraphSettings := {}
  let word := SettingValue.longWord?
  if !settings.isSection then none
  return {
    enabled := ← settings.keyD 0 "enabled" SettingValue.truth? default.enabled
    uri := ← settings.keyD 1 "uri" SettingValue.text? default.uri
    user := ← settings.keyD 2 "user" SettingValue.text? default.user
    password := ← settings.keyD 3 "password" SettingValue.text? default.password
    database := ← settings.keyD 4 "database" SettingValue.text? default.database
    connectAttempts := ← settings.keyD 5 "connect_attempts" word default.connectAttempts
    connectBackoff := ← settings.keyD 6 "connect_backoff_seconds" word default.connectBackoff
    timeout := ← settings.keyD 7 "timeout_seconds" word default.timeout }

/-- The settings in a table of sections. -/
def Settings.ofTable? (table : SettingValue) : Option Settings := do
  return {
    server := ← table.keyD 0 "server" ServerSettings.ofSection? {}
    backend := ← table.keyD 1 "prometheus" BackendSettings.ofSection? {}
    completion := ← table.keyD 2 "llm" CompletionSettings.ofSection? {}
    graph := ← table.keyD 3 "knowledge_graph" GraphSettings.ofSection? {} }

end PromScribe
