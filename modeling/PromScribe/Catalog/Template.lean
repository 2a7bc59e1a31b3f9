import PromScribe.Text.Lower
import PromScribe.Catalog.Metric

/-!
# Knowledge

Concepts such as `latency` have query templates. A template is offered when the question names its
concept and each of its categories occurs in the name of some known metric.
-/

namespace PromScribe

open Text

/-- A query template with a place for a window. -/
structure Template where
  pattern : String
  timeWindows : List String
  labels : List String
  categories : List String
deriving DecidableEq, Repr

namespace Template

/-- The place for the window. -/
def placeholder : String := "[time]"

/-- The template with a window in its places. -/
def render (template : Template) (window : String) : String :=
  substituteString placeholder ("[" ++ window ++ "]") template.pattern

/-- Each category occurs in one of the names. -/
def isCoveredBy (template : Template) (names : List String) : Bool :=
  template.categories.all fun category => names.any fun name => hasPart name category

/-- The written form of the template. -/
def toJson (template : Template) : Json :=
  .object [("pattern", .string template.pattern), ("time_windows", .strings template.timeWindows),
    ("labels", .strings template.labels), ("categories", .strings template.categories)]

/-- Takes a template. -/
def decode : Decoder Template := fun document => do
  let record ← Record.ofDocument
    [.of "pattern" .required Decoder.string,
      .of "time_windows" .required (Decoder.list Decoder.string),
      .of "labels" .required (Decoder.list Decoder.string),
      .of "categories" .required (Decoder.list Decoder.string)] document
  return {
    pattern := ← record.get "pattern" Decoder.string
    timeWindows := ← record.get "time_windows" (Decoder.list Decoder.string)
    labels := ← record.get "labels" (Decoder.list Decoder.string)
    categories := ← record.get "categories" (Decoder.list Decoder.string) }

end Template

/-- The templates of each concept. -/
abbrev Knowledge := Keyed (List Template)

namespace Knowledge

/-- Templates for errors per request. -/
def errorTemplates : List Template :=
  [⟨"rate(errors[time]) / rate(total[time])", ["5m", "1h", "24h"], [], ["errors", "total"]⟩,
    ⟨"sum(rate(errors\x7bstatus=~\"5..\"\x7d[time])) / sum(rate(total[time]))",
      ["5m", "1h", "24h"], ["status"], ["errors", "http"]⟩,
    ⟨"sum(rate(grpc_server_handled_total\x7bgrpc_code!=\"OK\"\x7d[time])) / " ++
        "sum(rate(grpc_server_handled_total[time]))",
      ["5m", "1h"], ["grpc_code"], ["grpc", "errors"]⟩]

/-- Templates for times of requests. -/
def latencyTemplates : List Template :=
  [⟨"histogram_quantile(0.95, rate(duration_bucket[time]))", ["5m", "1h"], [],
      ["duration", "_bucket"]⟩,
    ⟨"rate(duration_sum[time]) / rate(duration_count[time])", ["5m", "1h"], [],
      ["duration", "_sum", "_count"]⟩]

/-- Templates for the use of resources. -/
def utilizationTemplates : List Template :=
  [⟨"sum by (instance) (rate(cpu_seconds_total[time]))", ["5m", "1h"], ["instance"],
      ["cpu", "seconds_total"]⟩,
    ⟨"memory_used_bytes / memory_total_bytes * 100", [], [], ["memory", "bytes"]⟩]

/-- The built-in knowledge. -/
def builtIn : Knowledge :=
  Keyed.ofList [("error_rate", errorTemplates), ("latency", latencyTemplates),
    ("utilization", utilizationTemplates)]

/-- The question, in lower case, names the concept as it is spelled or with blanks for its
underscores. -/
def isNamed (concept : String) (question : List Char) : Bool :=
  occurs concept.toList question ||
    occurs (concept.toList.map fun c => if c = '_' then ' ' else c) question

/-- The templates for a question where some metrics are known, concept by concept. -/
def find (knowledge : Knowledge) (question : String) (names : List String) : List Template :=
  let text := lower question.toList
  (knowledge.entries.filter fun entry => isNamed entry.1 text).flatMap fun entry =>
    entry.2.filter fun template => template.isCoveredBy names

end Knowledge

end PromScribe
