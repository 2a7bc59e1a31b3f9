import PromScribe.Keyed
import PromScribe.Time.InstantReader
import PromScribe.Json.Decode
import PromScribe.Text.Blank

/-!
# Query contexts

What is known of a question: the metric, its labels, the window, the aggregation, the grouping, and
queries that may help too. A context has a written form from which it can be taken again; spans are
written in milliseconds.
-/

namespace PromScribe

/-- The time that a query covers. Start and stop are carried along; the span shapes the query. -/
structure TimeRange where
  start : Option Instant
  stop : Option Instant
  span : TimeSpan
deriving DecidableEq, Repr

/-- A range of a span without start and stop. -/
def TimeRange.ofSpan (span : TimeSpan) : TimeRange :=
  ⟨none, none, span⟩

/-- The window where none is named. -/
def defaultWindow : TimeSpan := .ofSeconds 300

/-- Where the metric of a context came from. -/
inductive ContextSource where
  /-- The question names a known metric. -/
  | rules
  /-- The completion provider named it. -/
  | fallback
deriving DecidableEq, Repr

/-- The identifier of the source. -/
def ContextSource.name : ContextSource → String
  | .rules => "rules"
  | .fallback => "fallback"

/-- A query that may help too. -/
structure Rule where
  pattern : String
  metricType : String
  labels : List String
  aggregation : String
deriving DecidableEq, Repr

/-- What is known of a question. -/
structure Context where
  query : String
  /-- The name of the operation, empty if none is named. -/
  intent : String
  mainMetric : String
  labels : Labels
  timeRange : TimeRange
  aggregation : String
  groupBy : List String
  rules : List Rule
  source : ContextSource
deriving DecidableEq

namespace Context

/-- The context of a question of which nothing is known. -/
def ofQuery (query : String) : Context where
  query := query
  intent := ""
  mainMetric := ""
  labels := Keyed.empty
  timeRange := .ofSpan defaultWindow
  aggregation := ""
  groupBy := []
  rules := []
  source := .rules

/-- There is a metric that is not blank. -/
def hasMetric (context : Context) : Bool :=
  !Text.isBlankText context.mainMetric

/-- The context with another metric. -/
def withMetric (context : Context) (metric : String) : Context :=
  { context with mainMetric := metric }

/-- The context with a label put in. -/
def withLabel (context : Context) (key value : String) : Context :=
  { context with labels := context.labels.insert key value }

/-- The context with another aggregation. -/
def withAggregation (context : Context) (aggregation : String) : Context :=
  { context with aggregation := aggregation }

/-- The context with another window. -/
def withWindow (context : Context) (span : TimeSpan) : Context :=
  { context with timeRange := .ofSpan span }

/-- The context with one more label to group by. -/
def withGroupBy (context : Context) (label : String) : Context :=
  { context with groupBy := context.groupBy ++ [label] }

end Context

/-- Milliseconds are written in 64 bits. -/
def millisLimit : Nat := Nat.pow 2 64

/-- The written form of an instant that may be missing. -/
def instantJson (instant : Option Instant) : Json :=
  Json.optionalString (instant.map Instant.text)

/-- Takes an instant in lenient form. -/
def Decoder.instant : Decoder Instant := fun document => do
  let text ← Decoder.string document
  match Instant.readLenient text with
  | .ok instant => return instant
  | .error _ => throw .shapeFault

/-- The written form of the range. -/
def TimeRange.toJson (range : TimeRange) : Json :=
  .object [("start", instantJson range.start), ("end", instantJson range.stop),
    ("duration", .nat (range.span.millis % millisLimit))]

/-- Takes a span in milliseconds. -/
def Decoder.millis : Decoder TimeSpan := fun document =>
  (Decoder.natBelow millisLimit document).map TimeSpan.ofMillis

/-- Takes a range. -/
def TimeRange.decode : Decoder TimeRange := fun document => do
  let record ← Record.ofDocument
    [.of "start" .nullable (Decoder.optional Decoder.instant),
      .of "end" .nullable (Decoder.optional Decoder.instant),
      .of "duration" .required Decoder.millis] document
  return {
    start := ← record.getD "start" (Decoder.optional Decoder.instant) none
    stop := ← record.getD "end" (Decoder.optional Decoder.instant) none
    span := ← record.get "duration" Decoder.millis }

/-- The written form of the rule. -/
def Rule.toJson (rule : Rule) : Json :=
  .object [("pattern", .string rule.pattern), ("metric_type", .string rule.metricType),
    ("labels", .strings rule.labels), ("aggregation", .string rule.aggregation)]

/-- Takes a rule. -/
def Rule.decode : Decoder Rule := fun document => do
  let record ← Record.ofDocument
    [.of "pattern" .required Decoder.string, .of "metric_type" .required Decoder.string,
      .of "labels" .required (Decoder.list Decoder.string),
      .of "aggregation" .required Decoder.string] document
  return {
    pattern := ← record.get "pattern" Decoder.string
    metricType := ← record.get "metric_type" Decoder.string
    labels := ← record.get "labels" (Decoder.list Decoder.string)
    aggregation := ← record.get "aggregation" Decoder.string }

/-- Takes a source. -/
def ContextSource.decode : Decoder ContextSource :=
  Decoder.oneOf ContextSource.name [.rules, .fallback]

namespace Context

/-- The written form of the context. -/
def toJson (context : Context) : Json :=
  .object [("query", .string context.query), ("intent", .string context.intent),
    ("main_metric", .string context.mainMetric), ("labels", .keyed .string context.labels),
    ("time_range", context.timeRange.toJson), ("aggregation", .string context.aggregation),
    ("group_by", .strings context.groupBy), ("rules", .array (context.rules.map Rule.toJson)),
    ("source", .string context.source.name)]

/-- Takes a context. -/
def decode : Decoder Context := fun document => do
  let record ← Record.ofDocument
    [.of "query" .required Decoder.string, .of "intent" .required Decoder.string,
      .of "main_metric" .required Decoder.string,
      .of "labels" .required (Decoder.keyed Decoder.string),
      .of "time_range" .required TimeRange.decode, .of "aggregation" .required Decoder.string,
      .of "group_by" .required (Decoder.list Decoder.string),
      .of "rules" .required (Decoder.list Rule.decode),
      .of "source" .required ContextSource.decode] document
  return {
    query := ← record.get "query" Decoder.string
    intent := ← record.get "intent" Decoder.string
    mainMetric := ← record.get "main_metric" Decoder.string
    labels := ← record.get "labels" (Decoder.keyed Decoder.string)
    timeRange := ← record.get "time_range" TimeRange.decode
    aggregation := ← record.get "aggregation" Decoder.string
    groupBy := ← record.get "group_by" (Decoder.list Decoder.string)
    rules := ← record.get "rules" (Decoder.list Rule.decode)
    source := ← record.get "source" ContextSource.decode }

end Context

end PromScribe
