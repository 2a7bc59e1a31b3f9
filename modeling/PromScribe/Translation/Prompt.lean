import PromScribe.Catalog.Template
import PromScribe.Query.Context

/-!
# Prompts

A prompt is a template whose slots are filled one after another, each over the whole text. The
question that a query is wanted for stands behind the filled template.
-/

namespace PromScribe.Prompt

open Text

/-- What marks the place of a value in a template. -/
def slot (name : String) : String :=
  "\x7b" ++ name ++ "\x7d"

/-- The text with each slot in turn replaced by its value, wherever the slot stands by then. -/
def fill (values : List (String × String)) (text : String) : String :=
  values.foldl (fun filled value => substituteString (slot value.1) value.2 filled) text

/-- The lines of the template that asks for a query. -/
def builderLines : List String :=
  [
    "You are a PromQL query builder.",
    "Available metrics and their labels:",
    "\x7bmetrics\x7d",
    "\x7bservices\x7d\x7bpatterns\x7d",
    "Valid PromQL examples:",
    "- Simple sum: sum(prometheus_http_response_size_bytes_sum)",
    "- Rate with time: rate(prometheus_http_requests_total[5m])",
    "- Filtered sum: sum(prometheus_http_requests_total\x7bcode=\"200\"\x7d)",
    "",
    "Return ONLY a JSON object with these fields:",
    "\x7b",
    "  \"metric\": \"exact_metric_name_from_list\",",
    "  \"labels\": \x7b\"label\": \"value\"\x7d,",
    "  \"timeRange\": \"5m\",",
    "  \"aggregation\": \"\",",
    "  \"groupBy\": []",
    "\x7d",
    "",
    "Rules:",
    "1. Exact metric names only",
    "2. Only use existing label values",
    "3. Omit timeRange for sum operations",
    "4. Use appropriate aggregation:",
    "   - sum: for totals and sizes",
    "   - rate: for per-second metrics",
    "   - avg: for averages",
    "   - count: for occurrences",
    "   - increase: for total increases",
    "   Leave aggregation empty if none is needed",
    "5. groupBy lists label names to group by, or is empty"]

/-- The lines of the template that asks for an explanation. -/
def explanationLines : List String :=
  [
    "Provide a clear, concise explanation for the given PromQL query in natural language.",
    "Query: \x7bpromql\x7d",
    "User Question: \x7bquestion\x7d",
    "Primary Metric: \x7bmetric\x7d",
    "Aggregation Type: \x7baggregation\x7d",
    "Labels: \x7blabels\x7d",
    "Explain the query's purpose and behavior in one well-formed sentence. Keep it succinct and informative."]

/-- A label with its known values. -/
def describeLabel (label : String × Keyed Unit) : String :=
  label.1 ++ "=[" ++ joined ", " label.2.keys ++ "]"

/-- A metric with its labels. -/
def describeMetric (schema : MetricSchema) : String :=
  if schema.labelValues.isEmpty then schema.name
  else schema.name ++ " with labels: " ++
    joined ", " (schema.labelValues.entries.map describeLabel)

/-- The known metrics, one a line. -/
def describeCatalog (snapshot : Snapshot) : String :=
  joined "\n" (snapshot.metrics.values.map describeMetric)

/-- A heading and a list, each item on a line of its own; nothing if the list is empty. -/
def listing (heading : String) (items : List String) : String :=
  if items.isEmpty then ""
  else "\n" ++ heading ++ "\n" ++ String.join (items.map fun item => "- " ++ item ++ "\n")

/-- The services with their metrics. -/
def describeServices (snapshot : Snapshot) : String :=
  listing "Metrics by service:" (snapshot.byJob.entries.map fun service =>
    service.1 ++ ": " ++ joined ", " service.2)

/-- The window shown where a template names none. -/
def exampleWindow : String := "5m"

/-- The templates, each with its first window. -/
def describeTemplates (templates : List Template) : String :=
  listing "Relevant query patterns:" (templates.map fun template =>
    template.render (template.timeWindows.headD exampleWindow))

/-- The prompt that asks for a query. -/
def builder (snapshot : Snapshot) (templates : List Template) (wording : String) : String :=
  fill
      [("metrics", describeCatalog snapshot), ("services", describeServices snapshot),
        ("patterns", describeTemplates templates)]
      (joined "\n" builderLines) ++
    "\n\nQuery: " ++ wording

/-- The labels of a context. -/
def describeLabels (labels : Labels) : String :=
  "map[" ++ joined " " (labels.entries.map fun label => label.1 ++ "=" ++ label.2) ++ "]"

/-- The prompt that asks for an explanation. -/
def explanation (context : Context) (promql : String) : String :=
  fill
    [("promql", promql), ("question", context.query), ("metric", context.mainMetric),
      ("aggregation", context.aggregation), ("labels", describeLabels context.labels)]
    (joined "\n" explanationLines)

end PromScribe.Prompt
