import PromScribe.Console.CommandLine
import PromScribe.Decimal.Reader
import PromScribe.Settings.Source

/-!
# Arguments of the server

Some of the arguments may be given as variables of the environment, which count where the command
line does not name them.
-/

namespace PromScribe.Server

open CommandLine

/-- The arguments of the server. -/
structure Arguments where
  settingsPath : Option String
  port : Option Nat
  logLevel : String
  jsonLogs : Bool
deriving DecidableEq, Repr

namespace Arguments

/-- The levels that may be asked for. -/
def levelNames : List String := ["trace", "debug", "info", "warn", "error"]

/-- The port that a text writes. -/
def portOf? (text : String) : Option Nat := do
  let number ← NumberReader.integer? text
  if 0 ≤ number && number < 65536 then some number.toNat else none

/-- A path must not be empty. -/
def pathRejection? (value : String) : Option Rejection :=
  if value = "" then some .badValue else none

/-- A port must be one. -/
def portRejection? (value : String) : Option Rejection :=
  if (portOf? value).isSome then none else some .unreadable

/-- What the server takes. -/
def grammar : Grammar where
  switches := [⟨"config", some 'c', .valued pathRejection?⟩,
    ⟨"port", some 'p', .valued portRejection?⟩,
    ⟨"log-level", some 'l', .valued (choiceRejection? levelNames)⟩,
    ⟨"json-logs", none, .flag⟩, helpSwitch, versionSwitch]
  room := some 0
  commands := []

/-- The value of a switch, or else of a variable. -/
def valueOf (values : List (String × String)) (environment : Environment)
    (switch variableName : String) (rejection? : String → Option Rejection) :
    Except Rejection (Option String) :=
  match values.lookup switch with
  | some value => .ok (some value)
  | none =>
      match environment.reverse.lookup variableName with
      | none => .ok none
      | some value =>
          match rejection? value with
          | some rejection => .error rejection
          | none => .ok (some value)

/-- The arguments that a command line and an environment give. -/
def read (environment : Environment) (arguments : List String) : Except Rejection Arguments := do
  let taken ← CommandLine.read grammar arguments
  let values ← taken.values
  let path ← valueOf values environment "config" "CONFIG_PATH" pathRejection?
  let level ← valueOf values environment "log-level" "LOG_LEVEL" (choiceRejection? levelNames)
  let json ← valueOf values environment "json-logs" "JSON_LOGS"
    (choiceRejection? ["true", "false"])
  return {
    settingsPath := path
    port := (values.lookup "port").bind portOf?
    logLevel := level.getD "info"
    jsonLogs := json.any (· != "false") }

/-- The wording for a port that is zero. -/
def zeroPortWording : String := "port must be non-zero"

/-- Why the arguments are of no use, if they are. -/
def fault? (arguments : Arguments) : Option String :=
  if arguments.port = some 0 then some zeroPortWording else none

end Arguments

end PromScribe.Server
