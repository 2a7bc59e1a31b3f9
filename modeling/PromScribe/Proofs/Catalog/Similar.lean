import Mathlib.Data.List.Forall2
import Mathlib.Data.List.Induction
import PromScribe.Catalog.Similar
import PromScribe.Proofs.Keyed

/-!
# Similar metrics and the order of series

Which metrics are offered as similar depends on the names of the known metrics and on the names of
their labels, and these are taken from the series of a metric that comes last. So the order of the
series does not matter where the series of each metric have the same labels.
-/

namespace PromScribe

variable {left right : List Series} {metric name : String} {now : Instant} {moment : Nat}

/-- The names of the labels of the series, apart from the one that names the metric. -/
def labelNames (series : Series) : List String :=
  (series.metric.filterKeys (· != nameLabel)).keys

/-- The series of the metric, in order. -/
def seriesOf (series : List Series) (metric : String) : List Series :=
  series.filter fun one => one.metric.get? nameLabel = some metric

/-- The names of the labels of the metric's last series. -/
def lastLabelNames? (series : List Series) (metric : String) : Option (List String) :=
  (seriesOf series metric).getLast?.map labelNames

/-- The series of the metric have labels of the same names. -/
def Uniform (series : List Series) (metric : String) : Prop :=
  ∀ first ∈ seriesOf series metric, ∀ second ∈ seriesOf series metric,
    labelNames first = labelNames second

/-- What of a metric decides on the metrics that are similar to it, and for which it is offered. -/
def MetricSchema.outline (schema : MetricSchema) : String × List String :=
  (schema.name, schema.labels.keys)

/-- One more series gives its labels to its metric. -/
theorem outline_addSeries {metrics : Keyed MetricSchema} (series : Series)
    (named : ∀ metric, ∀ schema ∈ metrics.get? metric, schema.name = metric) :
    ((Snapshot.addSeries now metrics series).get? metric).map MetricSchema.outline =
      if series.metric.get? nameLabel = some metric then some (metric, labelNames series)
      else (metrics.get? metric).map MetricSchema.outline := by
  unfold Snapshot.addSeries
  cases given : series.metric.get? nameLabel with
  | none => simp
  | some other =>
      dsimp only
      unfold Keyed.update
      rw [Keyed.get?_insert]
      by_cases here : metric = other
      · subst here
        have kept : ((metrics.get? metric).getD (Snapshot.newSchema metric
            ((Snapshot.scrapeTime? series).getD now))).name = metric := by
          cases known : metrics.get? metric with
          | none => rfl
          | some schema => exact named metric schema known
        simp [MetricSchema.outline, kept, labelNames]
      · have apart : ¬ other = metric := fun same => here same.symm
        simp [here, apart]

/-- A metric is known by its last series. -/
theorem outline_ofSeries (series : List Series) (metric : String) :
    ((Snapshot.ofSeries now moment series).metrics.get? metric).map MetricSchema.outline =
      (lastLabelNames? series metric).map (metric, ·) := by
  induction series using List.reverseRecOn generalizing metric with
  | nil => rfl
  | append_singleton series last ih =>
      have named : ∀ metric, ∀ schema ∈ (Snapshot.ofSeries now moment series).metrics.get? metric,
          schema.name = metric := by
        intro metric schema known
        have outline := ih metric
        rw [Option.mem_def.mp known, Option.map_some] at outline
        cases names : lastLabelNames? series metric with
        | none =>
            rw [names] at outline
            cases outline
        | some found =>
            rw [names] at outline
            exact congrArg Prod.fst (Option.some.inj outline)
      have step : (Snapshot.ofSeries now moment (series ++ [last])).metrics =
          Snapshot.addSeries now (Snapshot.ofSeries now moment series).metrics last := by
        simp [Snapshot.ofSeries]
      rw [step, outline_addSeries last named, ih metric]
      unfold lastLabelNames? seriesOf
      rw [List.filter_append]
      by_cases here : last.metric.get? nameLabel = some metric
      · simp [here]
      · simp [here]

namespace SimilarMetric

/-- Metrics with one outline share as many labels with metrics with one outline. -/
theorem sharedLabels_congr {known other schema others : MetricSchema}
    (same : known.outline = other.outline) (also : schema.outline = others.outline) :
    sharedLabels known schema = sharedLabels other others := by
  have labels : known.labels.keys = other.labels.keys := congrArg Prod.snd same
  have names : schema.labels.keys = others.labels.keys := congrArg Prod.snd also
  have contains : schema.labels.contains = others.labels.contains := by
    funext label
    rw [Bool.eq_iff_iff, Keyed.contains_iff, Keyed.contains_iff, names]
  unfold sharedLabels
  rw [labels, contains]

/-- Suggestions depend on the outlines of the known metrics. -/
theorem find_congr {first second : Snapshot}
    (same : ∀ metric, (first.metrics.get? metric).map MetricSchema.outline =
      (second.metrics.get? metric).map MetricSchema.outline) (name : String) :
    find first name = find second name := by
  have listed : List.Forall₂ (fun schema other => schema.outline = other.outline)
      first.metrics.values second.metrics.values := by
    have outlines := Keyed.map_values_congr same
    rw [← List.forall₂_eq_eq_eq, List.forall₂_map_left_iff, List.forall₂_map_right_iff] at outlines
    exact outlines
  have here := same name
  unfold find
  cases known : first.metrics.get? name with
  | none =>
      cases other : second.metrics.get? name with
      | none => rfl
      | some _ =>
          rw [known, other] at here
          cases here
  | some schema =>
      cases other : second.metrics.get? name with
      | none =>
          rw [known, other] at here
          cases here
      | some otherSchema =>
          rw [known, other] at here
          have outline := Option.some.inj here
          dsimp only
          rw [← List.forall₂_eq_eq_eq, List.forall₂_map_left_iff, List.forall₂_map_right_iff]
          -- Both select metrics of the same outlines, and as many of them.
          refine List.Forall₂.imp ?_ (List.forall₂_take maxOffered (List.rel_filter ?_ listed))
          · intro one another alike
            have names : one.name = another.name := congrArg Prod.fst alike
            have labels : one.labels.keys = another.labels.keys := congrArg Prod.snd alike
            rw [ofSchema, ofSchema, names, labels]
          · intro one another alike
            have names : one.name = another.name := congrArg Prod.fst alike
            simp only [inFamily, names, sharedLabels_congr outline alike]

/-- Two lists of the same series settle on the same labels of a metric if all of its series have
them. -/
theorem lastLabelNames?_of_perm (perm : left.Perm right) (uniform : Uniform left metric) :
    lastLabelNames? left metric = lastLabelNames? right metric := by
  have same : (seriesOf left metric).Perm (seriesOf right metric) := perm.filter _
  unfold lastLabelNames?
  cases last : (seriesOf left metric).getLast? with
  | none =>
      rw [List.getLast?_eq_none_iff.mp last] at same
      rw [← same.nil_eq]
      rfl
  | some first =>
      cases other : (seriesOf right metric).getLast? with
      | none =>
          rw [List.getLast?_eq_none_iff.mp other] at same
          rw [same.eq_nil] at last
          cases last
      | some second =>
          have mem := List.mem_of_getLast? last
          have also := same.mem_iff.mpr (List.mem_of_getLast? other)
          rw [Option.map_some, Option.map_some, uniform first mem second also]

/-- Suggestions do not depend on the order of the series, if the series of a metric have labels of
the same names, or the last of them have. -/
theorem find_of_perm (perm : left.Perm right)
    (settled : ∀ metric, Uniform left metric ∨
      lastLabelNames? left metric = lastLabelNames? right metric)
    (now later : Instant) (moment another : Nat) (name : String) :
    find (.ofSeries now moment left) name = find (.ofSeries later another right) name := by
  apply find_congr
  intro metric
  have last : lastLabelNames? left metric = lastLabelNames? right metric := by
    rcases settled metric with uniform | same
    · exact lastLabelNames?_of_perm perm uniform
    · exact same
  rw [outline_ofSeries, outline_ofSeries, last]

/-- A series of the metric without samples. -/
def seriesWith (metric : String) (labels : List (String × String)) : Series :=
  ⟨.ofList ((nameLabel, metric) :: labels), none, []⟩

/-- Series of two metrics, of which one has labels of different names. -/
def mixedSeries : List Series :=
  [seriesWith "up" [("job", "a")], seriesWith "up" [("job", "a"), ("instance", "x")],
    seriesWith "fds" [("job", "a"), ("instance", "x")]]

/-- The mixed series with the second metric first have the same suggestion. -/
theorem find_of_perm_mixed :
    (find (.ofSeries ⟨60, 0⟩ 60000 (mixedSeries.drop 2 ++ mixedSeries.take 2)) "fds").map
      SimilarMetric.name = ["up"] := by
  have perm : mixedSeries.Perm (mixedSeries.drop 2 ++ mixedSeries.take 2) := by
    have rotated : (mixedSeries.take 2 ++ mixedSeries.drop 2).Perm _ := List.perm_append_comm
    rwa [List.take_append_drop] at rotated
  have pairs : ∀ first ∈ mixedSeries, ∀ second ∈ mixedSeries,
      first.metric.get? nameLabel = second.metric.get? nameLabel →
        first.metric.get? nameLabel = some "up" ∨ labelNames first = labelNames second := by
    decide +kernel
  have settled : ∀ metric, Uniform mixedSeries metric ∨ lastLabelNames? mixedSeries metric =
      lastLabelNames? (mixedSeries.drop 2 ++ mixedSeries.take 2) metric := by
    intro metric
    by_cases mixed : metric = "up"
    · subst mixed
      exact .inr (by decide +kernel)
    · left
      intro first mem second also
      obtain ⟨known, named⟩ := List.mem_filter.mp mem
      obtain ⟨alsoKnown, alsoNamed⟩ := List.mem_filter.mp also
      simp only [decide_eq_true_eq] at named alsoNamed
      apply (pairs first known second alsoKnown (named.trans alsoNamed.symm)).resolve_left
      rw [named, Option.some.injEq]
      exact mixed
  rw [← find_of_perm perm settled ⟨0, 0⟩ ⟨60, 0⟩ 0 60000 "fds"]
  decide +kernel

/-- The order of the series of one metric decides on whether it is suggested. -/
theorem exists_lost_suggestion : ∃ left right : List Series, left.Perm right ∧
    (find (.ofSeries ⟨0, 0⟩ 0 left) "fds").map SimilarMetric.name = ["up"] ∧
      find (.ofSeries ⟨0, 0⟩ 0 right) "fds" = [] := by
  refine ⟨mixedSeries, (mixedSeries.take 2).reverse ++ mixedSeries.drop 2, ?_, ?_, ?_⟩
  · have turned := (List.reverse_perm (mixedSeries.take 2)).append_right (mixedSeries.drop 2)
    rw [List.take_append_drop] at turned
    exact turned.symm
  · decide +kernel
  · decide +kernel

end SimilarMetric

end PromScribe
