import PromScribe.Catalog.Metric
import PromScribe.Query.Context

/-!
# Similar metrics

Metrics are similar when they belong to one family, by a common base name, or when they share at
least two labels.
-/

namespace PromScribe

open Text

/-- A metric that is similar to another one. -/
structure SimilarMetric where
  name : String
  pattern : String
  description : String
  labels : List String
deriving DecidableEq, Repr

namespace SimilarMetric

/-- Endings of the members of a family. -/
def familyEndings : List String := ["_count", "_sum", "_bucket"]

/-- At most this many are offered. -/
def maxOffered : Nat := 3

/-- The name without the ending of a family member. -/
def baseName (name : String) : String :=
  (familyEndings.findSome? (withoutEnding? name)).getD name

/-- A query for a metric of the given name. -/
def patternFor (name : String) : String :=
  if hasEnding name "_bucket" then "histogram_quantile(0.95, rate(" ++ name ++ "[5m]))"
  else if hasEnding name "_count" || hasEnding name "_total" then "rate(" ++ name ++ "[5m])"
  else
    match withoutEnding? name "_sum" with
    | some base => "rate(" ++ name ++ "[5m]) / rate(" ++ base ++ "_count[5m])"
    | none => name

/-- What a metric of the given name tells about a base. -/
def describe (name base : String) : String :=
  if hasEnding name "_sum" then "Total sum for " ++ base
  else if hasEnding name "_count" then "Request count for " ++ base
  else if hasEnding name "_bucket" then
    "Duration buckets for calculating quantiles of " ++ base
  else "Related metric: " ++ name

/-- The metric belongs to the family of a base. -/
def inFamily (base : String) (schema : MetricSchema) : Bool :=
  hasStart schema.name base && familyEndings.any (hasEnding schema.name)

/-- How many labels two metrics share. -/
def sharedLabels (left right : MetricSchema) : Nat :=
  (left.labels.keys.filter right.labels.contains).length

/-- A known metric as one similar to a base. -/
def ofSchema (base : String) (schema : MetricSchema) : SimilarMetric where
  name := schema.name
  pattern := patternFor schema.name
  description := describe schema.name base
  labels := schema.labels.keys

/-- The known metrics that are similar to a known one, in ascending order. -/
def find (snapshot : Snapshot) (name : String) : List SimilarMetric :=
  match snapshot.metrics.get? name with
  | none => []
  | some known =>
      let base := baseName name
      let similar := snapshot.metrics.values.filter fun schema =>
        schema.name != name && (inFamily base schema || 2 ≤ sharedLabels known schema)
      (similar.take maxOffered).map (ofSchema base)

/-- The metric as a query that may help. -/
def toRule (metric : SimilarMetric) : Rule :=
  ⟨metric.pattern, metric.name, metric.labels, ""⟩

/-- The written form of the metric. -/
def toJson (metric : SimilarMetric) : Json :=
  .object [("name", .string metric.name), ("pattern", .string metric.pattern),
    ("description", .string metric.description), ("labels", .strings metric.labels)]

end SimilarMetric

end PromScribe
