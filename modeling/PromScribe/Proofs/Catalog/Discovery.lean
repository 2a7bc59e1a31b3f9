import PromScribe.Proofs.Catalog.Similar

/-!
# What a discovery reply tells

A snapshot is put together series by series, each value that a label has is kept, and the labels of
the last series stand. Nothing of it gets lost, and only the labels depend on the order of the
series.
-/

namespace PromScribe

variable {now later : Instant} {moment another : Nat} {metric label value job : String}
variable {series left right : List Series} {metrics : Keyed MetricSchema}
variable {known : Keyed (Keyed Unit)} {labels : Labels}

namespace Keyed

/-- A set is what it contains. -/
theorem ext_contains {left right : Keyed Unit}
    (same : ∀ key, left.contains key = true ↔ right.contains key = true) : left = right := by
  apply ext_get?
  intro key
  have both := same key
  unfold contains at both
  cases here : left.get? key with
  | none =>
      cases there : right.get? key with
      | none => rfl
      | some _ => simp [here, there] at both
  | some _ =>
      cases there : right.get? key with
      | none => simp [here, there] at both
      | some _ => rfl

theorem contains_insert {α : Type} (map : Keyed α) (key other : String) (value : α) :
    (map.insert key value).contains other = true ↔ other = key ∨ map.contains other = true := by
  unfold contains
  rw [get?_insert]
  by_cases here : other = key
  · simp [here]
  · simp [here]

end Keyed

/-- The labels of the series apart from the one that names the metric. -/
def otherLabels (series : Series) : Labels :=
  series.metric.filterKeys (· != nameLabel)

theorem get?_otherLabels (apart : label ≠ nameLabel) (series : Series) :
    (otherLabels series).get? label = series.metric.get? label := by
  unfold otherLabels
  rw [Keyed.get?_filterKeys, if_pos (bne_iff_ne.mpr apart)]

theorem get?_nameLabel_otherLabels (series : Series) :
    (otherLabels series).get? nameLabel = none := by
  unfold otherLabels
  rw [Keyed.get?_filterKeys, if_neg (by simp)]

/-- The value is a known one of the label. -/
def Lists (known : Keyed (Keyed Unit)) (label value : String) : Prop :=
  ∃ values, known.get? label = some values ∧ values.contains value = true

/-- Every known label has a known value. -/
def Filled (known : Keyed (Keyed Unit)) : Prop :=
  ∀ label values, known.get? label = some values → ∃ value, values.contains value = true

/-- Known values without empty sets are what they list. -/
theorem eq_of_lists {known other : Keyed (Keyed Unit)} (filled : Filled known)
    (otherFilled : Filled other) (same : ∀ label value, Lists known label value ↔
      Lists other label value) : known = other := by
  apply Keyed.ext_get?
  intro label
  cases here : known.get? label with
  | none =>
      cases there : other.get? label with
      | none => rfl
      | some values =>
          obtain ⟨value, mem⟩ := otherFilled label values there
          obtain ⟨_, found, -⟩ := (same label value).mpr ⟨values, there, mem⟩
          rw [here] at found
          cases found
  | some values =>
      cases there : other.get? label with
      | none =>
          obtain ⟨value, mem⟩ := filled label values here
          obtain ⟨_, found, -⟩ := (same label value).mp ⟨values, here, mem⟩
          rw [there] at found
          cases found
      | some others =>
          have both (value : String) : values.contains value = true ↔
              others.contains value = true := by
            have listed := same label value
            simpa [Lists, here, there] using listed
          rw [Keyed.ext_contains both]

/-- One more value of one label. -/
theorem lists_update (known : Keyed (Keyed Unit)) (label value : String) (here there : String) :
    Lists (known.update label fun values => (values.getD Keyed.empty).insert value ()) here there ↔
      Lists known here there ∨ (here, there) = (label, value) := by
  unfold Lists Keyed.update
  rw [Keyed.get?_insert, Prod.mk.injEq]
  by_cases same : here = label
  · subst same
    have none_listed : (Keyed.empty : Keyed Unit).contains there = false := rfl
    cases found : known.get? here with
    | none => simp [Keyed.contains_insert, none_listed]
    | some values => simp [Keyed.contains_insert, or_comm]
  · simp [same]

theorem filled_update (filled : Filled known) (label value : String) :
    Filled (known.update label fun values => (values.getD Keyed.empty).insert value ()) := by
  intro other values found
  unfold Keyed.update at found
  rw [Keyed.get?_insert] at found
  split at found
  · obtain rfl := Option.some.inj found
    exact ⟨value, (Keyed.contains_insert _ value value ()).mpr (.inl rfl)⟩
  · exact filled other values found

theorem lists_withValues : Lists (Snapshot.withValues known labels) label value ↔
    Lists known label value ∨ labels.get? label = some value := by
  rw [Keyed.get?_eq_some_iff]
  unfold Snapshot.withValues
  induction labels.entries generalizing known with
  | nil => simp
  | cons entry entries ih =>
      rw [List.foldl_cons, ih, lists_update, List.mem_cons, or_assoc]

theorem filled_withValues (filled : Filled known) : Filled (Snapshot.withValues known labels) := by
  unfold Snapshot.withValues
  induction labels.entries generalizing known with
  | nil => exact filled
  | cons entry entries ih => exact ih (filled_update filled entry.1 entry.2)

/-- The schema tells of the metric its name and kind, and every value of a label in its series. -/
structure Tells (series : List Series) (metric : String) (schema : MetricSchema) : Prop where
  name_eq : schema.name = metric
  kind_eq : schema.kind = .ofName metric
  lists_iff : ∀ label value, Lists schema.labelValues label value ↔
    ∃ one ∈ seriesOf series metric, (otherLabels one).get? label = some value
  filled : Filled schema.labelValues

/-- The schema also has the labels of the metric's last series. -/
structure Describes (series : List Series) (metric : String) (schema : MetricSchema) : Prop
    extends Tells series metric schema where
  labels_eq : (seriesOf series metric).getLast?.map otherLabels = some schema.labels

/-- A metric is known just if a series has its name, and is described by the series of that name. -/
def Known (series : List Series) (metric : String) : Option MetricSchema → Prop
  | none => seriesOf series metric = []
  | some schema => Describes series metric schema

theorem mem_seriesOf {one : Series} :
    one ∈ seriesOf series metric ↔ one ∈ series ∧ one.metric.get? nameLabel = some metric := by
  simp [seriesOf]

theorem seriesOf_concat (series : List Series) (last : Series) (metric : String) :
    seriesOf (series ++ [last]) metric =
      if last.metric.get? nameLabel = some metric then seriesOf series metric ++ [last]
      else seriesOf series metric := by
  unfold seriesOf
  rw [List.filter_append]
  by_cases here : last.metric.get? nameLabel = some metric
  · simp [here]
  · simp [here]

/-- Series of other metrics tell nothing of a metric. -/
theorem Known.congr {found : Option MetricSchema}
    (same : seriesOf left metric = seriesOf right metric) (known : Known left metric found) :
    Known right metric found := by
  cases found with
  | none => exact same.symm.trans known
  | some schema =>
      have describes : Describes left metric schema := known
      refine ⟨⟨describes.name_eq, describes.kind_eq, ?_, describes.filled⟩, ?_⟩
      · rw [← same]
        exact describes.lists_iff
      · rw [← same]
        exact describes.labels_eq

theorem Known.tells {found : Option MetricSchema} (known : Known series metric found)
    (scrape : Instant) : Tells series metric (found.getD (Snapshot.newSchema metric scrape)) := by
  cases found with
  | some schema => exact Describes.toTells known
  | none =>
      have unseen : seriesOf series metric = [] := known
      refine ⟨rfl, rfl, fun label value => ?_, nofun⟩
      rw [unseen]
      constructor
      · rintro ⟨values, found, -⟩
        cases found
      · rintro ⟨one, mem, -⟩
        cases mem

/-- One more series of a metric adds its values, and its labels stand. -/
theorem Tells.describes {schema : MetricSchema} {last : Series}
    (tells : Tells series metric schema) (named : last.metric.get? nameLabel = some metric)
    (seen : Instant) :
    Describes (series ++ [last]) metric
      { schema with
        labels := otherLabels last
        labelValues := Snapshot.withValues schema.labelValues (otherLabels last)
        lastScrape := seen } := by
  have longer : seriesOf (series ++ [last]) metric = seriesOf series metric ++ [last] := by
    rw [seriesOf_concat, if_pos named]
  refine ⟨⟨tells.name_eq, tells.kind_eq, fun label value => ?_, filled_withValues tells.filled⟩, ?_⟩
  · rw [longer, lists_withValues, tells.lists_iff]
    simp [or_and_right, exists_or]
  · rw [longer, List.getLast?_concat, Option.map_some]

/-- A metric is described by the series that were taken in. -/
theorem known_addSeries {last : Series}
    (known : ∀ metric, Known series metric (metrics.get? metric)) (metric : String) :
    Known (series ++ [last]) metric ((Snapshot.addSeries now metrics last).get? metric) := by
  unfold Snapshot.addSeries
  cases given : last.metric.get? nameLabel with
  | none =>
      have same : seriesOf series metric = seriesOf (series ++ [last]) metric := by
        rw [seriesOf_concat, given, if_neg (by simp)]
      exact (known metric).congr same
  | some name =>
      dsimp only
      unfold Keyed.update
      rw [Keyed.get?_insert]
      by_cases here : metric = name
      · subst here
        rw [if_pos rfl]
        exact ((known metric).tells _).describes given _
      · have same : seriesOf series metric = seriesOf (series ++ [last]) metric := by
          rw [seriesOf_concat, given, if_neg fun same => here (Option.some.inj same).symm]
        rw [if_neg here]
        exact (known metric).congr same

theorem known_ofSeries (now : Instant) (moment : Nat) (series : List Series) (metric : String) :
    Known series metric ((Snapshot.ofSeries now moment series).metrics.get? metric) := by
  induction series using List.reverseRecOn generalizing metric with
  | nil => exact rfl
  | append_singleton series last ih =>
      have step : (Snapshot.ofSeries now moment (series ++ [last])).metrics =
          Snapshot.addSeries now (Snapshot.ofSeries now moment series).metrics last := by
        simp [Snapshot.ofSeries]
      rw [step]
      exact known_addSeries ih metric

/-- A metric is known just if a series has its name. -/
theorem contains_ofSeries (now : Instant) (moment : Nat) (series : List Series) (metric : String) :
    (Snapshot.ofSeries now moment series).contains metric = true ↔
      ∃ one ∈ series, one.metric.get? nameLabel = some metric := by
  have known := known_ofSeries now moment series metric
  unfold Snapshot.contains Keyed.contains
  cases found : (Snapshot.ofSeries now moment series).metrics.get? metric with
  | none =>
      rw [found] at known
      have unseen : seriesOf series metric = [] := known
      simp only [seriesOf, List.filter_eq_nil_iff, decide_eq_true_eq] at unseen
      simpa using unseen
  | some schema =>
      rw [found] at known
      have describes : Describes series metric schema := known
      obtain ⟨last, final, -⟩ := Option.map_eq_some_iff.mp describes.labels_eq
      obtain ⟨mem, named⟩ := mem_seriesOf.mp (List.mem_of_getLast? final)
      exact iff_of_true rfl ⟨last, mem, named⟩

section Services

variable {services : Keyed (List String)} {names : List String}

/-- What is found under a key after names were put behind those that are there. -/
def followedBy (found : Option (List String)) (names : List String) : Option (List String) :=
  if names = [] then found else some (found.getD [] ++ names)

theorem followedBy_append (found : Option (List String)) (names more : List String) :
    followedBy (followedBy found names) more = followedBy found (names ++ more) := by
  cases names with
  | nil => rfl
  | cons name names =>
      cases more with
      | nil => simp [followedBy]
      | cons other more => simp [followedBy]

/-- A metric is put under each of its services once. -/
theorem get?_foldl_jobs (jobs : List String) (distinct : jobs.Nodup) (name : String) :
    (jobs.foldl (fun services job => services.update job fun known => known.getD [] ++ [name])
      services).get? job = followedBy (services.get? job) (if job ∈ jobs then [name] else []) := by
  induction jobs generalizing services with
  | nil => rfl
  | cons first jobs ih =>
      obtain ⟨apart, others⟩ := List.nodup_cons.mp distinct
      rw [List.foldl_cons, ih others]
      unfold Keyed.update
      rw [Keyed.get?_insert]
      by_cases here : job = first
      · subst here
        simp [apart, followedBy]
      · simp [here]

theorem nodup_jobsOf (schema : MetricSchema) : (Snapshot.jobsOf schema).Nodup := by
  unfold Snapshot.jobsOf
  cases schema.labelValues.get? "job" with
  | none => exact List.nodup_nil
  | some values =>
      refine values.keys_ascending.imp fun less same => ?_
      rw [same] at less
      exact String.lt_irrefl _ less

theorem get?_foldl_services (schemas : List MetricSchema) :
    (schemas.foldl (fun services schema => (Snapshot.jobsOf schema).foldl
        (fun services job => services.update job fun known => known.getD [] ++ [schema.name])
        services) services).get? job =
      followedBy (services.get? job)
        ((schemas.filter fun schema => job ∈ Snapshot.jobsOf schema).map MetricSchema.name) := by
  induction schemas generalizing services with
  | nil => rfl
  | cons schema schemas ih =>
      rw [List.foldl_cons, ih, get?_foldl_jobs _ (nodup_jobsOf schema), followedBy_append]
      by_cases here : job ∈ Snapshot.jobsOf schema
      · simp [here]
      · simp [here]

/-- The metrics of a service are those known ones that belong to it, in their order; a service
without metrics is not listed. -/
theorem get?_byJob (snapshot : Snapshot) (job : String) :
    snapshot.byJob.get? job = followedBy none
      ((snapshot.metrics.values.filter fun schema => job ∈ Snapshot.jobsOf schema).map
        MetricSchema.name) :=
  get?_foldl_services snapshot.metrics.values

theorem mem_jobsOf (schema : MetricSchema) :
    job ∈ Snapshot.jobsOf schema ↔ Lists schema.labelValues "job" job := by
  unfold Snapshot.jobsOf Lists
  cases schema.labelValues.get? "job" with
  | none => simp
  | some values => simp [Keyed.contains_iff]

end Services

/-- Every metric is known under its own name. -/
def Snapshot.Named (snapshot : Snapshot) : Prop :=
  ∀ metric schema, snapshot.metrics.get? metric = some schema → schema.name = metric

namespace Snapshot

variable {snapshot : Snapshot}

theorem map_name_values (named : snapshot.Named) :
    snapshot.metrics.values.map MetricSchema.name = snapshot.names := by
  unfold Keyed.values names Keyed.keys
  rw [List.map_map]
  refine List.map_congr_left fun entry mem => ?_
  exact named entry.1 entry.2 (Keyed.get?_eq_some_iff.mpr mem)

/-- The metrics of a service are listed in ascending order. -/
theorem pairwise_of_byJob (named : snapshot.Named) {listed : List String}
    (found : snapshot.byJob.get? job = some listed) : listed.Pairwise (· < ·) := by
  rw [get?_byJob] at found
  unfold followedBy at found
  split at found
  · cases found
  · obtain rfl := Option.some.inj found
    have ascending := snapshot.metrics.keys_ascending
    change snapshot.names.Pairwise (· < ·) at ascending
    rw [← map_name_values named] at ascending
    refine ascending.sublist ?_
    exact List.filter_sublist.map MetricSchema.name

/-- A metric is listed under a service just if that is one of its services. -/
theorem mem_byJob (named : snapshot.Named) :
    (∃ listed, snapshot.byJob.get? job = some listed ∧ metric ∈ listed) ↔
      ∃ schema, snapshot.metrics.get? metric = some schema ∧
        Lists schema.labelValues "job" job := by
  have member : metric ∈ (snapshot.metrics.values.filter fun schema =>
      job ∈ jobsOf schema).map MetricSchema.name ↔ ∃ schema,
        snapshot.metrics.get? metric = some schema ∧ Lists schema.labelValues "job" job := by
    rw [List.mem_map]
    constructor
    · rintro ⟨schema, kept, rfl⟩
      obtain ⟨known, belongs⟩ := List.mem_filter.mp kept
      obtain ⟨⟨key, other⟩, mem, rfl⟩ := List.mem_map.mp known
      have found := Keyed.get?_eq_some_iff.mpr mem
      have name := named key other found
      exact ⟨other, name ▸ found, (mem_jobsOf other).mp (of_decide_eq_true belongs)⟩
    · rintro ⟨schema, found, belongs⟩
      have known : schema ∈ snapshot.metrics.values :=
        List.mem_map.mpr ⟨_, Keyed.get?_eq_some_iff.mp found, rfl⟩
      refine ⟨schema, List.mem_filter.mpr ⟨known, ?_⟩, named metric schema found⟩
      exact decide_eq_true ((mem_jobsOf schema).mpr belongs)
  rw [← member, get?_byJob]
  unfold followedBy
  split
  · next none_listed => simp [none_listed]
  · simp

theorem named_ofSeries (now : Instant) (moment : Nat) (series : List Series) :
    (ofSeries now moment series).Named := by
  intro metric schema found
  have known := known_ofSeries now moment series metric
  rw [found] at known
  exact (Describes.toTells known).name_eq

end Snapshot

/-- What of a metric does not depend on the order of its series. -/
def MetricSchema.summary (schema : MetricSchema) : String × MetricKind × Keyed (Keyed Unit) :=
  (schema.name, schema.kind, schema.labelValues)

/-- Schemas that tell of the same series have one summary. -/
theorem Tells.summary_eq {schema other : MetricSchema} (tells : Tells left metric schema)
    (others : Tells right metric other)
    (same : (seriesOf left metric).Perm (seriesOf right metric)) :
    schema.summary = other.summary := by
  have listed (label value : String) :
      Lists schema.labelValues label value ↔ Lists other.labelValues label value := by
    rw [tells.lists_iff, others.lists_iff]
    simp only [same.mem_iff]
  unfold MetricSchema.summary
  rw [tells.name_eq, others.name_eq, tells.kind_eq, others.kind_eq,
    eq_of_lists tells.filled others.filled listed]

/-- The same series in another order have the same summaries. -/
theorem summary_ofSeries_of_perm (perm : left.Perm right) (now later : Instant)
    (moment another : Nat) (metric : String) :
    ((Snapshot.ofSeries now moment left).metrics.get? metric).map MetricSchema.summary =
      ((Snapshot.ofSeries later another right).metrics.get? metric).map MetricSchema.summary := by
  have same : (seriesOf left metric).Perm (seriesOf right metric) := perm.filter _
  have known := known_ofSeries now moment left metric
  have others := known_ofSeries later another right metric
  -- A metric with a description has series, so that both sides know it or neither does.
  have seen {series : List Series} {schema : MetricSchema}
      (describes : Describes series metric schema) : seriesOf series metric ≠ [] := by
    intro unseen
    have labels := describes.labels_eq
    rw [unseen] at labels
    cases labels
  cases here : (Snapshot.ofSeries now moment left).metrics.get? metric with
  | none =>
      rw [here] at known
      cases there : (Snapshot.ofSeries later another right).metrics.get? metric with
      | none => rfl
      | some schema =>
          rw [there] at others
          have unseen : seriesOf left metric = [] := known
          rw [unseen] at same
          exact absurd same.nil_eq.symm (seen others)
  | some schema =>
      rw [here] at known
      cases there : (Snapshot.ofSeries later another right).metrics.get? metric with
      | none =>
          rw [there] at others
          have unseen : seriesOf right metric = [] := others
          rw [unseen] at same
          exact absurd same.eq_nil (seen known)
      | some other =>
          rw [there] at others
          have describes : Describes left metric schema := known
          have otherDescribes : Describes right metric other := others
          rw [Option.map_some, Option.map_some,
            describes.toTells.summary_eq otherDescribes.toTells same]

namespace Snapshot

/-- The snapshot knows what the series tell, and nothing else. -/
structure Faithful (series : List Series) (snapshot : Snapshot) : Prop where
  contains_iff : ∀ metric, snapshot.contains metric = true ↔
    ∃ one ∈ series, one.metric.get? nameLabel = some metric
  named : snapshot.Named
  values_iff : ∀ metric schema, snapshot.metrics.get? metric = some schema →
    ∀ label ≠ nameLabel, ∀ value, Lists schema.labelValues label value ↔
      ∃ one ∈ series, one.metric.get? nameLabel = some metric ∧
        one.metric.get? label = some value
  /-- No label is known without a value. -/
  filled : ∀ metric schema, snapshot.metrics.get? metric = some schema →
    Filled schema.labelValues
  labels_last : ∀ metric schema, snapshot.metrics.get? metric = some schema →
    ∃ last, (seriesOf series metric).getLast? = some last ∧
      ∀ label ≠ nameLabel, schema.labels.get? label = last.metric.get? label
  unnamed : ∀ metric schema, snapshot.metrics.get? metric = some schema →
    schema.labels.contains nameLabel = false ∧ schema.labelValues.contains nameLabel = false
  names_ascending : snapshot.names.Pairwise (· < ·)
  mem_names_iff : ∀ metric, metric ∈ snapshot.names ↔ snapshot.contains metric = true
  listed_iff : ∀ job metric,
    (∃ listed, snapshot.byJob.get? job = some listed ∧ metric ∈ listed) ↔
      ∃ schema, snapshot.metrics.get? metric = some schema ∧ Lists schema.labelValues "job" job
  listed_ascending : ∀ job listed, snapshot.byJob.get? job = some listed →
    listed ≠ [] ∧ listed.Pairwise (· < ·)

/-- The snapshots differ in no more than the labels of a metric's last series and in times. -/
structure Agree (first second : Snapshot) : Prop where
  names_eq : first.names = second.names
  kinds_eq : ∀ metric, (first.metrics.get? metric).map MetricSchema.kind =
    (second.metrics.get? metric).map MetricSchema.kind
  values_eq : ∀ metric, (first.metrics.get? metric).map MetricSchema.labelValues =
    (second.metrics.get? metric).map MetricSchema.labelValues
  byJob_eq : first.byJob = second.byJob

theorem faithful_ofSeries (now : Instant) (moment : Nat) (series : List Series) :
    Faithful series (ofSeries now moment series) := by
  have named := named_ofSeries now moment series
  have described (metric : String) (schema : MetricSchema)
      (found : (ofSeries now moment series).metrics.get? metric = some schema) :
      Describes series metric schema := by
    have known := known_ofSeries now moment series metric
    rwa [found] at known
  refine ⟨contains_ofSeries now moment series, named, ?values, ?filled, ?labels, ?unnamed,
    Keyed.keys_ascending _, fun metric => Keyed.contains_iff.symm,
    fun job metric => mem_byJob named, ?listed⟩
  case values =>
    intro metric schema found label apart value
    rw [(described metric schema found).lists_iff]
    simp only [mem_seriesOf, get?_otherLabels apart, and_assoc]
  case filled => exact fun metric schema found => (described metric schema found).filled
  case labels =>
    intro metric schema found
    obtain ⟨last, final, same⟩ :=
      Option.map_eq_some_iff.mp (described metric schema found).labels_eq
    refine ⟨last, final, fun label apart => ?_⟩
    rw [← same, get?_otherLabels apart]
  case unnamed =>
    intro metric schema found
    have describes := described metric schema found
    obtain ⟨last, -, same⟩ := Option.map_eq_some_iff.mp describes.labels_eq
    constructor
    · unfold Keyed.contains
      rw [← same, get?_nameLabel_otherLabels]
      rfl
    · refine eq_false_of_ne_true fun known => ?_
      obtain ⟨values, kept⟩ := Option.isSome_iff_exists.mp known
      obtain ⟨value, mem⟩ := describes.filled nameLabel values kept
      obtain ⟨one, -, given⟩ := (describes.lists_iff nameLabel value).mp ⟨values, kept, mem⟩
      rw [get?_nameLabel_otherLabels] at given
      cases given
  case listed =>
    intro job listed found
    refine ⟨?_, pairwise_of_byJob named found⟩
    rintro rfl
    rw [get?_byJob] at found
    unfold followedBy at found
    split at found
    · cases found
    · next nonempty => exact nonempty (by simpa using found)

/-- Snapshots of the same summaries agree. -/
theorem agree_of_summary {first second : Snapshot} (named : first.Named) (also : second.Named)
    (same : ∀ metric, (first.metrics.get? metric).map MetricSchema.summary =
      (second.metrics.get? metric).map MetricSchema.summary) : Agree first second := by
  have part {α : Type} (of : String × MetricKind × Keyed (Keyed Unit) → α) (metric : String) :
      (first.metrics.get? metric).map (of ∘ MetricSchema.summary) =
        (second.metrics.get? metric).map (of ∘ MetricSchema.summary) := by
    rw [← Option.map_map, ← Option.map_map, same]
  have summaries := Keyed.map_values_congr same
  refine ⟨?names, part fun summary => summary.2.1, part fun summary => summary.2.2, ?services⟩
  case names =>
    rw [← map_name_values named, ← map_name_values also]
    exact Keyed.map_values_congr (part Prod.fst)
  case services =>
    apply Keyed.ext_get?
    intro job
    have listed (snapshot : Snapshot) :
        (snapshot.metrics.values.filter fun schema => job ∈ jobsOf schema).map MetricSchema.name =
          ((snapshot.metrics.values.map MetricSchema.summary).filter fun summary =>
            job ∈ ((summary.2.2.get? "job").map Keyed.keys).getD []).map Prod.fst := by
      rw [List.filter_map, List.map_map]
      rfl
    rw [get?_byJob, get?_byJob, listed, listed, summaries]

/-- A snapshot knows what the series of its reply tell, and their order decides on nothing but the
labels that it shows and the times that it was seen. -/
theorem ofSeries_faithful (perm : left.Perm right) (now later : Instant) (moment another : Nat) :
    Faithful left (ofSeries now moment left) ∧
      Agree (ofSeries now moment left) (ofSeries later another right) :=
  ⟨faithful_ofSeries now moment left, agree_of_summary (named_ofSeries now moment left)
    (named_ofSeries later another right)
    (summary_ofSeries_of_perm perm now later moment another)⟩

/-- Series of two metrics between each other, and one without a name. -/
def interleavedSeries : List Series :=
  [SimilarMetric.seriesWith "up" [("job", "a")], ⟨.ofList [("job", "c")], none, []⟩,
    SimilarMetric.seriesWith "fds" [("job", "b")],
    SimilarMetric.seriesWith "up" [("job", "b"), ("instance", "x")]]

/-- Both services are known from the series in the other order. -/
theorem ofSeries_faithful_reversed :
    Faithful interleavedSeries (ofSeries ⟨0, 0⟩ 0 interleavedSeries) ∧
      (ofSeries ⟨60, 0⟩ 60000 interleavedSeries.reverse).byJob.entries =
        [("a", ["up"]), ("b", ["fds", "up"])] := by
  obtain ⟨faithful, agree⟩ := ofSeries_faithful (List.reverse_perm interleavedSeries).symm ⟨0, 0⟩
    ⟨60, 0⟩ 0 60000
  refine ⟨faithful, ?_⟩
  rw [← agree.byJob_eq]
  decide +kernel

end Snapshot

end PromScribe
