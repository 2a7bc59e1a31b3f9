import PromScribe.Proofs.Catalog.Discovery

/-!
# Families of metrics

A member of a family is the name of its base with an ending. Another metric is offered as similar if
its name begins as the base and has such an ending, with anything in between, or if it shares two
labels. So the metrics offered are those that the rule of families and labels tells of just if none
of them merely begins and ends as a member does.
-/

namespace PromScribe

namespace Text

variable {name front ending : String}

theorem eq_append_iff {rest : String} :
    name = front ++ rest ↔ front.toList ++ rest.toList = name.toList := by
  rw [← String.toList_inj, String.toList_append, eq_comm]

theorem hasStart_iff : hasStart name front = true ↔ ∃ rest, name = front ++ rest := by
  unfold hasStart
  rw [List.isPrefixOf_iff_prefix]
  constructor
  · rintro ⟨rest, same⟩
    exact ⟨String.ofList rest, eq_append_iff.mpr (by rwa [String.toList_ofList])⟩
  · rintro ⟨rest, same⟩
    exact ⟨rest.toList, eq_append_iff.mp same⟩

theorem hasEnding_iff : hasEnding name ending = true ↔ ∃ front, name = front ++ ending := by
  unfold hasEnding
  rw [List.isSuffixOf_iff_suffix]
  constructor
  · rintro ⟨front, same⟩
    exact ⟨String.ofList front, eq_append_iff.mpr (by rwa [String.toList_ofList])⟩
  · rintro ⟨front, same⟩
    exact ⟨front.toList, eq_append_iff.mp same⟩

theorem withoutEnding?_eq_some_iff :
    withoutEnding? name ending = some front ↔ name = front ++ ending := by
  unfold withoutEnding?
  rw [Option.ite_none_right_eq_some, hasEnding_iff]
  constructor
  · rintro ⟨⟨other, rfl⟩, same⟩
    rw [← Option.some.inj same]
    simp
  · rintro rfl
    exact ⟨⟨front, rfl⟩, by simp⟩

end Text

open Text

/-- If the first ones all satisfy a condition, they are the first ones that satisfy it. -/
theorem take_filter_of_forall {α : Type} {keep : α → Bool} {items : List α} {count : Nat}
    (all : ∀ item ∈ items.take count, keep item = true) :
    (items.filter keep).take count = items.take count := by
  induction items generalizing count with
  | nil => rfl
  | cons item items ih =>
      cases count with
      | zero => rfl
      | succ count =>
          rw [List.take_succ_cons] at all ⊢
          obtain ⟨first, others⟩ := List.forall_mem_cons.mp all
          rw [List.filter_cons_of_pos first, List.take_succ_cons, ih others]

/-- The first ones that satisfy a condition are the first ones that satisfy a stronger condition
just if all of them satisfy it. -/
theorem take_filter_eq_iff {α : Type} {weak strong : α → Bool}
    (stronger : ∀ item, strong item = true → weak item = true) (items : List α) (count : Nat) :
    (items.filter weak).take count = (items.filter strong).take count ↔
      ∀ item ∈ (items.filter weak).take count, strong item = true := by
  have both : (items.filter weak).filter strong = items.filter strong := by
    rw [List.filter_filter]
    refine List.filter_congr fun item _ => ?_
    cases holds : strong item with
    | false => rfl
    | true => exact stronger item holds
  constructor
  · intro same item mem
    rw [same] at mem
    exact (List.mem_filter.mp (List.mem_of_mem_take mem)).2
  · intro all
    rw [← both, take_filter_of_forall all]

namespace SimilarMetric

variable {snapshot : Snapshot} {name base : String} {known other : MetricSchema}

/-- The name is the base with the ending of a family member. -/
def IsMember (base name : String) : Prop :=
  ∃ ending ∈ familyEndings, name = base ++ ending

/-- The base of a name: what is in front of the ending of a member, or all of it if it has none. -/
inductive IsBase (name : String) : String → Prop where
  | member {base : String} (member : IsMember base name) : IsBase name base
  | whole (outside : ∀ base, ¬ IsMember base name) : IsBase name name

/-- The name begins as the base, and has the ending of a member of some family. -/
def Resembles (base name : String) : Prop :=
  (∃ rest, name = base ++ rest) ∧ ∃ front, IsMember front name

/-- Two labels or more are labels of both metrics. -/
def SharesTwo (left right : MetricSchema) : Prop :=
  ∃ first second, first ≠ second ∧ ∀ label ∈ [first, second],
    label ∈ left.labels.keys ∧ label ∈ right.labels.keys

/-- A name has one ending of a member at most. -/
theorem ending_unique {front back : String} {ending another : String}
    (known : ending ∈ familyEndings) (also : another ∈ familyEndings)
    (same : front ++ ending = back ++ another) : ending = another := by
  have apart : ∀ ending ∈ familyEndings, ∀ another ∈ familyEndings,
      ending.toList <:+ another.toList → ending = another := by decide
  have ends : ending.toList <:+ (front ++ ending).toList :=
    ⟨front.toList, String.toList_append.symm⟩
  have endsAlso : another.toList <:+ (front ++ ending).toList :=
    ⟨back.toList, same ▸ String.toList_append.symm⟩
  rcases List.suffix_or_suffix_of_suffix ends endsAlso with within | within
  · exact apart ending known another also within
  · exact (apart another also ending known within).symm

/-- A name has one base. -/
theorem isBase_iff : IsBase name base ↔ baseName name = base := by
  have taken {front : String} (found : familyEndings.findSome? (withoutEnding? name) = some front) :
      IsMember front name := by
    obtain ⟨ending, listed, same⟩ := List.exists_of_findSome?_eq_some found
    exact ⟨ending, listed, withoutEnding?_eq_some_iff.mp same⟩
  unfold baseName
  constructor
  · rintro (⟨ending, listed, rfl⟩ | outside)
    · have own : withoutEnding? (base ++ ending) ending = some base :=
        withoutEnding?_eq_some_iff.mpr rfl
      cases found : familyEndings.findSome? (withoutEnding? (base ++ ending)) with
      | none =>
          have missed := List.findSome?_eq_none_iff.mp found ending listed
          rw [own] at missed
          cases missed
      | some front =>
          obtain ⟨another, also, same⟩ := List.exists_of_findSome?_eq_some found
          have shape := withoutEnding?_eq_some_iff.mp same
          rw [← ending_unique listed also shape, own] at same
          exact (Option.some.inj same).symm
    · cases found : familyEndings.findSome? (withoutEnding? name) with
      | none => rfl
      | some front => exact absurd (taken found) (outside front)
  · rintro rfl
    cases found : familyEndings.findSome? (withoutEnding? name) with
    | none =>
        refine .whole fun front member => ?_
        obtain ⟨ending, listed, same⟩ := member
        have missed := List.findSome?_eq_none_iff.mp found ending listed
        rw [withoutEnding?_eq_some_iff.mpr same] at missed
        cases missed
    | some front => exact .member (taken found)

theorem resembles_iff : Resembles base other.name ↔ inFamily base other = true := by
  unfold inFamily
  rw [Bool.and_eq_true, List.any_eq_true, hasStart_iff]
  refine and_congr_right fun _ => ?_
  constructor
  · rintro ⟨front, ending, listed, same⟩
    exact ⟨ending, listed, hasEnding_iff.mpr ⟨front, same⟩⟩
  · rintro ⟨ending, listed, ends⟩
    obtain ⟨front, same⟩ := hasEnding_iff.mp ends
    exact ⟨front, ending, listed, same⟩

theorem sharesTwo_iff {left right : MetricSchema} :
    SharesTwo left right ↔ 2 ≤ sharedLabels left right := by
  have shared (label : String) : label ∈ left.labels.keys.filter right.labels.contains ↔
      label ∈ left.labels.keys ∧ label ∈ right.labels.keys := by
    rw [List.mem_filter, Keyed.contains_iff]
  unfold sharedLabels
  constructor
  · rintro ⟨first, second, apart, both⟩
    have distinct : [first, second].Nodup := by simpa using apart
    have within : [first, second] ⊆ left.labels.keys.filter right.labels.contains :=
      fun label mem => (shared label).mpr (both label mem)
    exact (List.subperm_of_subset distinct within).length_le
  · intro two
    have all : left.labels.keys.Nodup := by
      refine left.labels.keys_ascending.imp fun less same => ?_
      rw [same] at less
      exact String.lt_irrefl _ less
    have distinct := all.filter right.labels.contains
    match labels : left.labels.keys.filter right.labels.contains with
    | [] => simp [labels] at two
    | [_] => simp [labels] at two
    | first :: second :: rest =>
        rw [labels] at distinct
        refine ⟨first, second, ?_, fun label mem => (shared label).mp ?_⟩
        · rintro rfl
          exact (List.nodup_cons.mp distinct).1 List.mem_cons_self
        · rw [labels]
          exact List.mem_append_left rest mem

instance (base name : String) : Decidable (IsMember base name) :=
  inferInstanceAs (Decidable (∃ ending ∈ familyEndings, name = base ++ ending))

instance (left right : MetricSchema) : Decidable (SharesTwo left right) :=
  decidable_of_iff _ sharesTwo_iff.symm

/-- Another metric is related to a known one with a base: it is a member of the base's family, or
shares two labels. -/
def Related (base : String) (known other : MetricSchema) : Prop :=
  other.name ≠ known.name ∧ (IsMember base other.name ∨ SharesTwo known other)

instance (base : String) (known other : MetricSchema) : Decidable (Related base known other) :=
  inferInstanceAs (Decidable (_ ∧ (_ ∨ _)))

/-- Another metric is offered for a known one with a base: its name resembles the base's family, or
it shares two labels. -/
def Offered (base : String) (known other : MetricSchema) : Prop :=
  other.name ≠ known.name ∧ (Resembles base other.name ∨ SharesTwo known other)

instance (base : String) (known other : MetricSchema) : Decidable (Offered base known other) :=
  decidable_of_iff (other.name ≠ known.name ∧ (inFamily base other = true ∨ SharesTwo known other))
    (and_congr_right fun _ => or_congr_left resembles_iff.symm)

theorem Related.offered (related : Related base known other) : Offered base known other := by
  obtain ⟨apart, ⟨ending, listed, same⟩ | labels⟩ := related
  · exact ⟨apart, .inl ⟨⟨ending, same⟩, base, ending, listed, same⟩⟩
  · exact ⟨apart, .inr labels⟩

/-- The known metrics that are offered are the first ones whose names resemble the base's family or
that share two labels. -/
theorem find_eq (named : snapshot.Named) (found : snapshot.metrics.get? name = some known)
    (isBase : IsBase name base) :
    find snapshot name = ((snapshot.metrics.values.filter fun other =>
      Offered base known other).take maxOffered).map (ofSchema base) := by
  unfold find
  rw [found, ← named name known found]
  rw [← named name known found] at isBase
  dsimp only
  rw [isBase_iff.mp isBase]
  congr 2
  refine List.filter_congr fun other _ => ?_
  rw [Bool.eq_iff_iff, decide_eq_true_eq]
  unfold Offered
  rw [resembles_iff, sharesTwo_iff]
  simp

/-- The metrics offered for a known one are the first ones in ascending order of those whose names
resemble its family or that share two labels, and they are the first ones that are related to it
just if they all are. -/
theorem find_related (named : snapshot.Named) (found : snapshot.metrics.get? name = some known)
    (isBase : IsBase name base) :
    ∃ listed, find snapshot name = listed.map (ofSchema base) ∧
      (listed.map MetricSchema.name).Pairwise (· < ·) ∧
      listed = (snapshot.metrics.values.filter fun other => Offered base known other).take 3 ∧
      (listed = (snapshot.metrics.values.filter fun other => Related base known other).take 3 ↔
        ∀ other ∈ listed, Resembles base other.name →
          IsMember base other.name ∨ SharesTwo known other) := by
  refine ⟨_, find_eq named found isBase, ?_, rfl, ?_⟩
  · have ascending := snapshot.metrics.keys_ascending
    change snapshot.names.Pairwise (· < ·) at ascending
    rw [← Snapshot.map_name_values named] at ascending
    refine ascending.sublist (List.Sublist.map MetricSchema.name ?_)
    exact (List.take_sublist _ _).trans List.filter_sublist
  · have stronger : ∀ other, decide (Related base known other) = true →
        decide (Offered base known other) = true := by
      intro other related
      exact decide_eq_true (of_decide_eq_true related).offered
    refine (take_filter_eq_iff stronger _ 3).trans (forall₂_congr fun other mem => ?_)
    have kept := (List.mem_filter.mp (List.mem_of_mem_take mem)).2
    obtain ⟨apart, offered⟩ := of_decide_eq_true kept
    rw [decide_eq_true_eq]
    constructor
    · intro related _
      exact related.2
    · intro settled
      exact ⟨apart, offered.elim settled .inr⟩

/-- What is known of a metric, or the schema of one that was not seen. -/
def schemaOf (snapshot : Snapshot) (name : String) : MetricSchema :=
  (snapshot.metrics.get? name).getD (Snapshot.newSchema name ⟨0, 0⟩)

theorem get?_eq_schemaOf (known : snapshot.contains name = true) :
    snapshot.metrics.get? name = some (schemaOf snapshot name) := by
  unfold schemaOf
  unfold Snapshot.contains Keyed.contains at known
  obtain ⟨schema, found⟩ := Option.isSome_iff_exists.mp known
  rw [found, Option.getD_some]

/-- A metric, a member of its family, and two more that share labels with it. -/
def familySnapshot : Snapshot :=
  .ofSeries ⟨0, 0⟩ 0 [seriesWith "latency" [("job", "a"), ("instance", "x")],
    seriesWith "latency_count" [], seriesWith "up" [("job", "b"), ("instance", "x")],
    seriesWith "errors" [("job", "b"), ("path", "/")]]

/-- The count of the metric is offered, and the metric with the same two labels. -/
theorem find_related_latency : ∃ listed,
    find familySnapshot "latency" = listed.map (ofSchema "latency") ∧
      listed.map MetricSchema.name = ["latency_count", "up"] ∧
      listed = (familySnapshot.metrics.values.filter fun other =>
        Related "latency" (schemaOf familySnapshot "latency") other).take 3 := by
  have isBase : IsBase "latency" "latency" := isBase_iff.mpr (by decide +kernel)
  have found : familySnapshot.metrics.get? "latency" = some (schemaOf familySnapshot "latency") :=
    get?_eq_schemaOf (by decide +kernel)
  obtain ⟨listed, same, -, offered, related_iff⟩ :=
    find_related (Snapshot.named_ofSeries _ _ _) found isBase
  have related : ∀ other ∈ listed, Resembles "latency" other.name →
      IsMember "latency" other.name ∨ SharesTwo (schemaOf familySnapshot "latency") other := by
    have all : ∀ other ∈ (familySnapshot.metrics.values.filter fun other =>
        Offered "latency" (schemaOf familySnapshot "latency") other).take 3,
        IsMember "latency" other.name ∨ SharesTwo (schemaOf familySnapshot "latency") other := by
      decide +kernel
    exact fun other mem _ => all other (offered ▸ mem)
  refine ⟨listed, same, ?_, related_iff.mpr related⟩
  rw [offered]
  decide +kernel

/-- A metric with a longer name is offered although it is of another family and shares no label. -/
theorem exists_unrelated_offer : ∃ (snapshot : Snapshot) (known other : MetricSchema),
    snapshot.Named ∧ snapshot.metrics.get? "up" = some known ∧ IsBase "up" "up" ∧
      snapshot.metrics.get? "upload_bytes_sum" = some other ∧
      (find snapshot "up").map SimilarMetric.name = ["upload_bytes_sum"] ∧
      ¬ Related "up" known other := by
  refine ⟨.ofSeries ⟨0, 0⟩ 0 [seriesWith "up" [], seriesWith "upload_bytes_sum" []], _, _,
    Snapshot.named_ofSeries _ _ _, get?_eq_schemaOf ?known, isBase_iff.mpr ?base,
    get?_eq_schemaOf ?other, ?offered, ?unrelated⟩
  case known => decide +kernel
  case base => decide +kernel
  case other => decide +kernel
  case offered => decide +kernel
  case unrelated => decide +kernel

end SimilarMetric

end PromScribe
