import PromScribe.Json.Decode
import PromScribe.Series.Data
import PromScribe.Text.Literal

/-!
# Known metrics

A snapshot describes every metric that the backend named in one discovery reply: its kind, its
labels and their values, and when it was last seen.
-/

namespace PromScribe

open Text

/-- What a metric measures, judged by its name. -/
inductive MetricKind where
  | counter
  | gauge
  | histogram
deriving DecidableEq, Repr

/-- The identifier of the kind. -/
def MetricKind.name : MetricKind → String
  | .counter => "counter"
  | .gauge => "gauge"
  | .histogram => "histogram"

/-- The kind that naming conventions suggest. -/
def MetricKind.ofName (name : String) : MetricKind :=
  if hasEnding name "_total" then .counter
  else if ["_bucket", "_sum", "_count"].any (hasEnding name) then .histogram
  else .gauge

/-- What is known of a metric. -/
structure MetricSchema where
  name : String
  kind : MetricKind
  help : String
  /-- The labels of the series that came last. -/
  labels : Labels
  /-- Every value of every label over all series. -/
  labelValues : Keyed (Keyed Unit)
  lastScrape : Instant

/-- One generation of known metrics; `refreshedAt` counts milliseconds of the clock. -/
structure Snapshot where
  metrics : Keyed MetricSchema
  refreshedAt : Option Nat

namespace Snapshot

/-- Nothing is known. -/
def initial : Snapshot := ⟨Keyed.empty, none⟩

/-- When the series was last seen, if its sample says so and the year is supported. -/
def scrapeTime? (series : Series) : Option Instant := do
  let sample ← series.value
  let thousand : Double ← Finite.ofNat? 1000
  let millis ← sample.time.times? thousand
  Instant.ofMillis? millis.truncated

/-- The known values of labels with those of a series. -/
def withValues (labelValues : Keyed (Keyed Unit)) (labels : Labels) : Keyed (Keyed Unit) :=
  labels.entries.foldl
    (fun known label =>
      known.update label.1 fun values => (values.getD Keyed.empty).insert label.2 ())
    labelValues

/-- The schema of a metric before any of its series is taken in. -/
def newSchema (name : String) (scrape : Instant) : MetricSchema :=
  ⟨name, .ofName name, "", Keyed.empty, Keyed.empty, scrape⟩

/-- Takes in one series; those without a name are ignored. A series without a time was seen
`now`. -/
def addSeries (now : Instant) (metrics : Keyed MetricSchema) (series : Series) :
    Keyed MetricSchema :=
  match series.metric.get? nameLabel with
  | none => metrics
  | some name =>
      let labels := series.metric.filterKeys (· != nameLabel)
      let scrape := (scrapeTime? series).getD now
      metrics.update name fun known =>
        let schema := known.getD (newSchema name scrape)
        { schema with
          labels := labels
          labelValues := withValues schema.labelValues labels
          lastScrape := schema.lastScrape.latest scrape }

/-- The snapshot of a discovery reply that came at a time of the clock. -/
def ofSeries (now : Instant) (refreshedAt : Nat) (series : List Series) : Snapshot :=
  ⟨series.foldl (addSeries now) Keyed.empty, some refreshedAt⟩

/-- The metric is known. -/
def contains (snapshot : Snapshot) (name : String) : Bool :=
  snapshot.metrics.contains name

/-- The known metrics, in ascending order. -/
def names (snapshot : Snapshot) : List String :=
  snapshot.metrics.keys

/-- The services that a metric belongs to. -/
def jobsOf (schema : MetricSchema) : List String :=
  ((schema.labelValues.get? "job").map Keyed.keys).getD []

/-- The metrics of each service, those without one left out. -/
def byJob (snapshot : Snapshot) : Keyed (List String) :=
  snapshot.metrics.values.foldl
    (fun services schema =>
      (jobsOf schema).foldl
        (fun services job =>
          services.update job fun metrics => metrics.getD [] ++ [schema.name])
        services)
    Keyed.empty

/-- The snapshot is too old at a time of the clock, or there was none yet. -/
def isStale (snapshot : Snapshot) (ttl now : Nat) : Bool :=
  match snapshot.refreshedAt with
  | some moment => ttl ≤ now - moment
  | none => true

end Snapshot

/-- The written form of the schema. -/
def MetricSchema.toJson (schema : MetricSchema) (scrape : Instant → Json) : Json :=
  .object [("name", .string schema.name), ("metric_type", .string schema.kind.name),
    ("help", .string schema.help), ("labels", .keyed .string schema.labels),
    ("label_values", .keyed (fun values => .strings values.keys) schema.labelValues),
    ("last_scrape", scrape schema.lastScrape)]

/-- The query that finds every series. -/
def discoveryQuery : String := "\x7b__name__=~\".+\"\x7d"

/-!
## The catalog

The catalog shows one snapshot at a time. A snapshot is good until it reaches the age limit; after
that the next discovery reply takes its place.
-/

/-- A point in time: by the clock in milliseconds, and by the calendar. -/
structure Moment where
  clock : Nat
  wall : Instant
deriving DecidableEq, Repr

/-- The visible snapshot, and the age in milliseconds at which it is no longer good. -/
structure Catalog where
  ttl : Nat
  snapshot : Snapshot

namespace Catalog

/-- Nothing is known yet. -/
def initial (ttl : Nat) : Catalog :=
  ⟨ttl, .initial⟩

/-- The visible snapshot, if it is still good at a time of the clock. -/
def fresh? (catalog : Catalog) (clock : Nat) : Option Snapshot :=
  if catalog.snapshot.isStale catalog.ttl clock then none else some catalog.snapshot

/-- The catalog after a discovery reply. -/
def learn (catalog : Catalog) (moment : Moment) (data : QueryData) : Catalog :=
  { catalog with snapshot := .ofSeries moment.wall moment.clock data.series }

end Catalog

/-!
## Related metrics

Metrics that the graph holds to be related to another one, the closest one first.
-/

/-- A metric that is related to another one. -/
structure RelatedMetric where
  name : String
  metricType : String
  description : String
  weight : Double
deriving DecidableEq

namespace RelatedMetric

/-- No weight. -/
def weightless : Double := ⟨false, 0, by decide⟩

/-- The written form of the metric. -/
def toJson (metric : RelatedMetric) : Json :=
  .object [("name", .string metric.name), ("metric_type", .string metric.metricType),
    ("description", .string metric.description), ("weight", .number (.double metric.weight))]

/-- Takes a related metric. -/
def decode : Decoder RelatedMetric := fun document => do
  let record ← Record.ofDocument
    [.of "name" .required Decoder.string, .of "metric_type" .defaulted Decoder.string,
      .of "description" .defaulted Decoder.string, .of "weight" .defaulted Decoder.double] document
  return {
    name := ← record.get "name" Decoder.string
    metricType := ← record.getD "metric_type" Decoder.string ""
    description := ← record.getD "description" Decoder.string ""
    weight := ← record.getD "weight" Decoder.double weightless }

end RelatedMetric

end PromScribe
