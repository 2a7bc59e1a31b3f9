import PromScribe.Binary.Layout
import PromScribe.Text.Blank
import PromScribe.Time.Span

/-!
# Settings

What a program is told once at its start: about its own address and limits, the query backend, the
completion provider, and the graph. Every setting has a default. Times are whole seconds.
-/

namespace PromScribe

/-- Numbers of thirty-two bits. -/
abbrev Single := Scalar Binary.single

/-- Where the service listens and what it accepts. -/
structure ServerSettings where
  host : String := "0.0.0.0"
  port : Nat := 8080
  requestTimeout : Nat := 30
  maxQueryLength : Nat := 1000
deriving DecidableEq

/-- Where the query backend is, and how long its answers are waited for and kept. -/
structure BackendSettings where
  address : String := "http://localhost:9090"
  timeout : Nat := 30
  schemaTtl : Nat := 300
deriving DecidableEq

/-- A header for every completion request. -/
structure HeaderSetting where
  key : String
  value : String
deriving DecidableEq, Repr

/-- How completions are asked for. -/
structure CompletionSettings where
  model : String := "gpt-4o-mini"
  apiKey : String := ""
  baseUrl : String := "https://api.openai.com/v1"
  temperature : Single := Finite.nearest false 7 10
  topP : Single := Finite.nearest false 1 1
  maxTokens : Nat := 512
  proxy : Option String := none
  organization : Option String := none
  headers : List HeaderSetting := []
deriving DecidableEq

/-- Where the graph is, if it is used, and how it is connected to. -/
structure GraphSettings where
  enabled : Bool := false
  uri : String := ""
  user : String := ""
  password : String := ""
  database : String := "neo4j"
  connectAttempts : Nat := 5
  connectBackoff : Nat := 2
  timeout : Nat := 10
deriving DecidableEq, Repr

/-- The settings of a program. -/
structure Settings where
  server : ServerSettings := {}
  backend : BackendSettings := {}
  completion : CompletionSettings := {}
  graph : GraphSettings := {}
deriving DecidableEq

/-- Why settings are refused. -/
inductive SettingsFault where
  | zeroPort
  | noBackend
  | temperatureOutOfRange
  | topPOutOfRange
  | zeroGraphTimeout
  /-- A source cannot be read, or a value does not fit its setting. -/
  | unusable
deriving DecidableEq, Repr

/-- The wording of the fault, where it is fixed. -/
def SettingsFault.message? : SettingsFault → Option String
  | .zeroPort => some "invalid server port: 0"
  | .noBackend => some "prometheus address is required"
  | .temperatureOutOfRange => some "llm temperature must be between 0 and 1"
  | .topPOutOfRange => some "llm top_p must be between 0 and 1"
  | .zeroGraphTimeout => some "knowledge graph timeout must be positive"
  | .unusable => none

/-- The address that the service listens at. -/
def ServerSettings.address (settings : ServerSettings) : String :=
  settings.host ++ ":" ++ toString settings.port

/-- The settings of a backend at an address. -/
def BackendSettings.ofAddress (address : String) : BackendSettings :=
  { address }

/-- The settings of a completion provider for a model. -/
def CompletionSettings.ofModel (model apiKey : String) : CompletionSettings :=
  { model, apiKey }

/-- The settings with one more header. -/
def CompletionSettings.withHeader (settings : CompletionSettings) (key value : String) :
    CompletionSettings :=
  { settings with headers := settings.headers ++ [⟨key, value⟩] }

namespace Settings

/-- The first reason to refuse the settings, if there is one. -/
def fault? (settings : Settings) : Option SettingsFault :=
  if settings.server.port = 0 then some .zeroPort
  else if Text.isBlankText settings.backend.address then some .noBackend
  else if !settings.completion.temperature.isProportion then some .temperatureOutOfRange
  else if !settings.completion.topP.isProportion then some .topPOutOfRange
  else if settings.graph.enabled && settings.graph.timeout = 0 then some .zeroGraphTimeout
  else none

/-- The settings, unless there is a reason to refuse them. -/
def validated (settings : Settings) : Except SettingsFault Settings :=
  match settings.fault? with
  | some fault => .error fault
  | none => .ok settings

end Settings

end PromScribe
