import PromScribe.Client.Completion
import PromScribe.Server.Arguments
import PromScribe.Server.Journal
import PromScribe.Settings.Source

/-!
# The server

The server checks its arguments, loads its settings, prepares its clients, and listens until it is
told to stop. The first step that fails ends it.
-/

namespace PromScribe.Server

open CommandLine Text

/-- A server whose clients are prepared. -/
structure Prepared where
  settings : Settings
  completion : CompletionClient
deriving DecidableEq

/-- Why a server cannot be prepared. -/
inductive PreparationFault where
  | arguments (reason : String)
  | settings (fault : SettingsFault)
  | completion (fault : CollaboratorFault)
deriving DecidableEq, Repr

namespace PreparationFault

/-- The step that failed. -/
def step : PreparationFault → String
  | .arguments _ => "Invalid command line arguments"
  | .settings _ => "Failed to load configuration"
  | .completion _ => "Failed to create completion client"

/-- The cause, as far as its wording is fixed. -/
def cause : PreparationFault → String
  | .arguments reason => reason
  | .settings fault => fault.message?.getD ""
  | .completion fault => fault.message

/-- The step and the cause. -/
def message (fault : PreparationFault) : String :=
  fault.step ++ ": " ++ fault.cause

end PreparationFault

/-- The settings with the port of the arguments, if they name one. -/
def withPortOf (arguments : Arguments) (settings : Settings) : Settings :=
  match arguments.port with
  | none => settings
  | some port => { settings with server := { settings.server with port } }

/-- The settings of the server. -/
def settingsOf (arguments : Arguments) (file : Option SettingsFile) (environment : Environment) :
    Except PreparationFault Settings :=
  match arguments.fault? with
  | some reason => .error (.arguments reason)
  | none =>
      match Settings.load file environment with
      | .error fault => .error (.settings fault)
      | .ok settings => .ok (withPortOf arguments settings)

/-- Prepares the server. -/
def prepare (arguments : Arguments) (file : Option SettingsFile) (environment : Environment) :
    Except PreparationFault Prepared := do
  let settings ← settingsOf arguments file environment
  let completion ← (CompletionClient.ofSettings settings.completion).mapError .completion
  return ⟨settings, completion⟩

/-- The code of a program whose arguments are not taken, or ask to be told something. -/
def codeOfRejection (rejection : Rejection) : Nat :=
  if rejection.isFault then 2 else 0

/-- A number below 256. -/
def isOctet (text : List Char) : Bool :=
  text.length ≤ 3 && (NumberReader.digits? text).any (· < 256)

/-- A host that can be listened at without asking for its address. -/
def isKnownHost (host : String) : Bool :=
  host == "localhost" ||
    ((partsBetween '.' host.toList).length == 4 && (partsBetween '.' host.toList).all isOctet) ||
    (hasPart host ":" && host.toList.all fun c => c.isDigit || c = ':' || c = '.' ||
      ('a' ≤ c.toLower && c.toLower ≤ 'f'))

/-- The parts of the program that tell of themselves. -/
def mainSource : String := "promql_server"

/-- The part that puts the program together. -/
def buildSource : String := "promql_server::app"

/-- The part that listens. -/
def listenSource : String := "promql_server::server"

/-- The entries of the beginning. -/
def openingEntries : List Entry :=
  [⟨.info, mainSource, "Starting PromQL translation server"⟩,
    ⟨.info, mainSource, "Version: 0.1.0"⟩]

/-- The entries of the preparation of clients. -/
def clientEntries (settings : Settings) : List Entry :=
  [⟨.info, buildSource, "Initializing application components"⟩,
    ⟨.info, buildSource, "Prometheus client ready"⟩] ++
    (if settings.completion.apiKey = "" then
      [⟨.warn, buildSource,
        "No language-model API key configured; fallback and explanations will fail"⟩]
      else [])

/-- The entries of a failure. -/
def failureEntries (message : String) : List Entry :=
  [⟨.error, mainSource, "Application error: " ++ message⟩]

/-- The entry of the end. -/
def closingEntry : Entry :=
  ⟨.info, mainSource, "Server shutdown complete"⟩

/-- A run from start to end: whether the server listened, its code, and all that it told. -/
structure Run where
  listened : Bool
  code : Nat
  entries : List Entry
deriving DecidableEq, Repr

/-- A run of a prepared server that is told to stop once it listens. -/
def listenRun (prepared : Prepared) : Run :=
  let address := prepared.settings.server.address
  let opening := openingEntries ++ clientEntries prepared.settings ++
    [⟨.info, buildSource, "Starting server"⟩, ⟨.info, buildSource, "HTTP address: " ++ address⟩]
  if isKnownHost prepared.settings.server.host then
    ⟨true, 0, opening ++ [⟨.info, listenSource, "HTTP server listening on " ++ address⟩,
      ⟨.info, listenSource, "Shutdown signal received"⟩, closingEntry]⟩
  else
    ⟨false, 1, opening ++ failureEntries ("Failed to bind HTTP server to " ++ address ++
      ": failed to lookup address information: Name or service not known") ++ [closingEntry]⟩

/-- The entries of a failed preparation. -/
def preparationEntries (arguments : Arguments) (file : Option SettingsFile)
    (environment : Environment) : List Entry :=
  match settingsOf arguments file environment with
  | .ok settings => clientEntries settings
  | .error _ => []

/-- A run of the server. -/
def run (arguments : Arguments) (file : Option SettingsFile) (environment : Environment) : Run :=
  match prepare arguments file environment with
  | .ok prepared => listenRun prepared
  | .error fault =>
      ⟨false, 1, openingEntries ++ preparationEntries arguments file environment ++
        failureEntries fault.message ++ [closingEntry]⟩

/-- The entries of a run that its journal holds, where it is written in structured form. A filter
may be written out, and else follows from the arguments. -/
def journal (arguments : Arguments) (filterText : Option String) (run : Run) : List Entry :=
  if arguments.jsonLogs then
    run.entries.filter (JournalFilter.ofText filterText arguments.logLevel).keeps
  else []

end PromScribe.Server
