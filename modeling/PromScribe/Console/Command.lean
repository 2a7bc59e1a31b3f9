import PromScribe.Console.CommandLine
import PromScribe.Service.Execution
import PromScribe.Text.Lower

/-!
# Commands

The console takes one command for the service, the address of the service, and the form in which the
answer is shown.
-/

namespace PromScribe

open CommandLine Text

/-- The form of an answer. -/
inductive OutputForm where
  | text
  | json
  | yaml
deriving DecidableEq, Repr

namespace OutputForm

/-- The name of the form. -/
def name : OutputForm → String
  | .text => "text"
  | .json => "json"
  | .yaml => "yaml"

/-- The names of the forms and other names for them. -/
def names : List (String × OutputForm) :=
  [("text", .text), ("plain", .text), ("json", .json), ("yaml", .yaml), ("yml", .yaml)]

/-- The form of a name in any case. -/
def ofName (name : String) : Except String OutputForm :=
  match names.lookup (lowerString name) with
  | some form => .ok form
  | none => .error ("Unknown format: " ++ name)

end OutputForm

/-- A command for the service. -/
inductive Command where
  | convert (question : String)
  | validate (promql : String)
  | execute (execution : Execution)
  /-- Lists the metrics whose names have a part. -/
  | metrics (part : Option String)
  | health
deriving DecidableEq, Repr

/-- What the console is asked to do. -/
structure Invocation where
  address : String
  form : OutputForm
  /-- The causes of a failure are shown too. -/
  verbose : Bool
  command : Command
deriving DecidableEq, Repr

namespace Command

/-- The name of the command that explains the others. -/
def helpName : String := "help"

/-- The names of the commands. -/
def names : List String := ["convert", "validate", "execute", "metrics", "health"]

/-- What arguments a grammar takes, without a command among them. -/
def argumentsOf (grammar : Grammar) (arguments : List String) :
    Except Rejection (List (String × String) × List String) := do
  let taken ← CommandLine.read grammar arguments
  return (← taken.values, taken.words)

/-- A grammar of some words and switches with values. -/
def plainGrammar (room : Option Nat) (switches : List String) : Grammar :=
  ⟨switches.map (freeSwitch · none) ++ [helpSwitch], room, []⟩

/-- The only word of a command. -/
def onlyWord : List String → Except Rejection String
  | word :: _ => .ok word
  | [] => .error .incomplete

/-- Takes a conversion; the words of the question are put together. -/
def readConvert (arguments : List String) : Except Rejection Command := do
  let (_, words) ← argumentsOf (plainGrammar none []) arguments
  if words.isEmpty then throw .incomplete
  return .convert (joined " " words)

/-- Takes a validation. -/
def readValidate (arguments : List String) : Except Rejection Command := do
  let (_, words) ← argumentsOf (plainGrammar (some 1) []) arguments
  return .validate (← onlyWord words)

/-- Takes an execution; start and end need each other, and exclude a single time. -/
def readExecute (arguments : List String) : Except Rejection Command := do
  let (values, words) ←
    argumentsOf (plainGrammar (some 1) ["start", "end", "step", "time"]) arguments
  let query ← onlyWord words
  let value := fun name => values.lookup name
  if (value "time").isSome && (value "start").isSome then throw .conflict
  if (value "start").isSome != (value "end").isSome then throw .incomplete
  return .execute ⟨query, value "start", value "end", value "step", value "time"⟩

/-- Takes a listing of metrics. -/
def readMetrics (arguments : List String) : Except Rejection Command := do
  let (values, _) ← argumentsOf (plainGrammar (some 0) ["filter"]) arguments
  return .metrics (values.lookup "filter")

/-- Takes a question after the health. -/
def readHealth (arguments : List String) : Except Rejection Command := do
  let _ ← argumentsOf (plainGrammar (some 0) []) arguments
  return .health

/-- Takes a question for help, about everything or about one command. -/
def readHelp : List String → Except Rejection Command
  | [] => .error .help
  | [name] => .error (if (helpName :: names).contains name then .help else .unknown)
  | _ => .error .unknown

/-- Takes a command of a given name. -/
def read (name : String) (arguments : List String) : Except Rejection Command :=
  match name with
  | "convert" => readConvert arguments
  | "validate" => readValidate arguments
  | "execute" => readExecute arguments
  | "metrics" => readMetrics arguments
  | "health" => readHealth arguments
  | "help" => readHelp arguments
  | _ => .error .unknown

end Command

namespace Invocation

/-- The variable that names the address of the service. -/
def addressVariable : String := "PROMQL_API_URL"

/-- The usual address of the service. -/
def defaultAddress : String := "http://localhost:8080"

/-- What the console takes. -/
def grammar : Grammar where
  switches := [freeSwitch "api-url" (some 'a'),
    ⟨"format", some 'f', .valued (choiceRejection? ["text", "json", "yaml"])⟩,
    ⟨"verbose", some 'v', .flag⟩, ⟨"no-color", none, .flag⟩, helpSwitch, versionSwitch]
  room := some 0
  commands := Command.helpName :: Command.names

/-- What arguments ask the console to do, with an address from the environment if there is one. -/
def read (address? : Option String) (arguments : List String) : Except Rejection Invocation := do
  let taken ← CommandLine.read grammar arguments
  let command? ← taken.command.mapM fun command => Command.read command.1 command.2
  let values ← taken.values
  match command? with
  | none => throw .incomplete
  | some command =>
      return {
        address := ((values.lookup "api-url").or address?).getD defaultAddress
        form := ((values.lookup "format").bind (OutputForm.names.lookup ·)).getD .text
        verbose := (values.lookup "verbose").isSome
        command }

end Invocation

end PromScribe
