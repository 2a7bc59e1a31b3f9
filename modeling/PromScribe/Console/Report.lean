import PromScribe.Client.Service
import PromScribe.Console.Command
import PromScribe.Yaml.Printer

/-!
# Reports

What the console shows of an answer: as a structured value in one of two notations, or as lines for
people. An answer may be shown in full and still count as a failure.
-/

namespace PromScribe

open Text

/-- What is shown of an answer, what is shown as a complaint, and why the command failed if it did. -/
structure Report where
  output : String
  complaint : String
  failure : Option String
deriving DecidableEq, Repr

namespace Report

/-- Lines one under another. -/
def lines (texts : List String) : String :=
  String.join (texts.map (· ++ "\n"))

/-- What is shown of a value in a form; nothing where it is shown as lines. -/
def structured? (form : OutputForm) (value : Json) : Option String :=
  match form with
  | .text => none
  | .json => some (value.prettyText ++ "\n")
  | .yaml => some (Yaml.document value)

/-- A report of a structured value, or else of lines. -/
def plain (form : OutputForm) (value : Json) (texts : List String) : Report :=
  ⟨(structured? form value).getD (lines texts), "", none⟩

/-- A line with a warning. -/
def warningLine (text : String) : String := "⚠ " ++ text

/-- A line with a name and a value. -/
def valueLine (name value : String) : String := name ++ ": " ++ value

/-- The lines of a conversion. -/
def conversionLines (conversion : Conversion) : List String :=
  [conversion.promql] ++
    (conversion.explanation.toList.flatMap fun text => ["", text]) ++
    conversion.warnings.map warningLine ++
    (if conversion.suggestions.isEmpty then []
      else ["", "Related queries:"] ++ conversion.suggestions.map ("  " ++ ·))

/-- What is shown of a conversion. -/
def ofConversion (form : OutputForm) (conversion : Conversion) : Report :=
  plain form conversion.toJson (conversionLines conversion)

/-- What is shown of a verdict; an invalid query is a failure. -/
def ofVerdict (form : OutputForm) (verdict : Verdict) : Report :=
  let failure := if verdict.valid then none else some "validation failed"
  match structured? form verdict.toJson with
  | some output => ⟨output, "", failure⟩
  | none =>
      let warnings := verdict.warnings.map warningLine
      if verdict.valid then ⟨lines ("✓ Query is valid" :: warnings), "", failure⟩
      else
        ⟨lines warnings, lines ["✗ " ++ verdict.error.getD "Query is invalid"], failure⟩

/-- The labels of a series behind its name. -/
def labelText (series : Series) : String :=
  let pairs := series.metric.entries.filter fun label => label.1 != nameLabel
  (series.metric.get? nameLabel).getD "" ++ "\x7b" ++
    joined ", " (pairs.map fun label => label.1 ++ "=\"" ++ label.2 ++ "\"") ++ "\x7d"

/-- The line of a sample. -/
def sampleLine (sample : Sample) : String :=
  "  " ++ sample.value ++ " @ " ++ NumberStyle.running.text sample.time

/-- The lines of a series. -/
def seriesLines (series : Series) : List String :=
  labelText series :: (series.value.toList ++ series.values).map sampleLine

/-- The lines of an executed query. -/
def executionLines (reply : ExecutionReply) : List String :=
  [valueLine "Result type" reply.resultType, valueLine "Suggested chart" reply.chartType, ""] ++
    (if reply.series.isEmpty then [reply.result.text] else reply.series.flatMap seriesLines)

/-- What is shown of an executed query. -/
def ofExecution (form : OutputForm) (reply : ExecutionReply) : Report :=
  plain form reply.toJson (executionLines reply)

/-- What is shown of the names that have a part. -/
def ofNames (form : OutputForm) (part : Option String) (names : List String) : Report :=
  let kept := names.filter fun name => part.all fun part => hasPart name part
  plain form (.strings kept) (kept ++ [valueLine "Total" (toString kept.length)])

/-- The key of the status in an answer about the health. -/
def statusKey : String := "status"

/-- The answer tells of a healthy service. -/
def isHealthy (health : Json) : Bool :=
  (health.member? statusKey).bind Json.string? == some "ok"

/-- The parts of the service with whether they work. -/
def componentsOf : Json → List (String × Bool)
  | .object members =>
      (members.filter fun member => member.1 != statusKey).map fun member =>
        (member.1, match member.2 with | .bool value => value | _ => false)
  | _ => []

/-- The lines of an answer about the health. -/
def healthLines (health : Json) : List String :=
  valueLine "Status" (if isHealthy health then "Healthy" else "Degraded") ::
    (componentsOf health).map fun component =>
      "  " ++ (if component.2 then "✓" else "✗") ++ " " ++ component.1

/-- What is shown of the health; a service that is not healthy is a failure. -/
def ofHealth (form : OutputForm) (health : Json) : Report :=
  { plain form health (healthLines health) with
    failure := if isHealthy health then none else some "service degraded" }

end Report

namespace Http.Enquiry

/-- An enquiry with a function of its answer. -/
def map {ε α β : Type} (change : α → β) (enquiry : Enquiry ε α) : Enquiry ε β :=
  ⟨enquiry.dispatch, fun delivery => (enquiry.meaning delivery).map change⟩

end Http.Enquiry

namespace Command

open Http

/-- What a command asks of the service at an address, and what is shown of the answer. -/
def enquiry (address : String) (form : OutputForm) : Command → Enquiry ServiceFault Report
  | .convert question =>
      (ServiceClient.convert address question).map (Report.ofConversion form)
  | .validate promql => (ServiceClient.validate address promql).map (Report.ofVerdict form)
  | .execute execution => (ServiceClient.execute address execution).map (Report.ofExecution form)
  | .metrics part => (ServiceClient.metrics address).map (Report.ofNames form part)
  | .health => (ServiceClient.health address).map (Report.ofHealth form)

end Command

end PromScribe
