import PromScribe.Proofs.Decimal.Plain
import PromScribe.Proofs.Json.Decoding
import PromScribe.Series.Data

/-!
# The written form of series

Series are taken again from their written form. The compact form says everything but the times
exactly; each time becomes the one that is read from its digits.

A time is written as its shortest decimal, which is always read as some double. The reader rounds
once if the digits are few, and then to the time itself; of many digits it rounds the significand
too, and may end beside the time.
-/

namespace PromScribe.Double

open Binary NumberLiteral

/-- A time is written in a way that is read as the other time. -/
def ReadsAs (time other : Double) : Prop :=
  (JsonNumber.double time).ReadsAs (.double other)

/-- What is read from the written form of a time; the time itself if there is nothing. -/
def reread (time : Double) : Double :=
  (Json.decode Decoder.double (Json.text (.number (.double time)))).toOption.getD time

/-- The time is the double nearest to a decimal of at most fifteen digits, and of a second or more
with either sign. -/
def IsShort (time : Double) : Prop :=
  ∃ negative digits places, digits < 10 ^ 15 ∧ 10 ^ places ≤ digits ∧
    Finite.ofQuotient? negative digits (10 ^ places) = some time

variable {time other : Double}

theorem ReadsAs.reread_eq (reads : time.ReadsAs other) : time.reread = other := by
  have shown : Json.ReadsAs (.number (.double time)) (.number (.double other)) :=
    Json.readsAs_number reads
  rw [reread, shown.decode_text]
  rfl

/-- The literal of a time is what the time is written as. -/
theorem readsAs_of_literal
    (value : (time.decimal.literal time.negative).value? = some (.double other)) :
    time.ReadsAs other :=
  ⟨_, time.decimal.writes_literal time.negative, value⟩

theorem IsShort.readsAs_self (short : time.IsShort) : time.ReadsAs time := by
  obtain ⟨negative, digits, places, few, above, nearest⟩ := short
  obtain ⟨bound, same⟩ := Option.dite_none_right_eq_some.mp nearest
  obtain rfl := Option.some.inj same
  exact readsAs_of_literal ((Decimal.isPlain_shortestOfRank few above).value?_literal negative
    (Decimal.rankIn_shortestOfRank (by decide) _) bound)

theorem IsShort.reread_eq (short : time.IsShort) : time.reread = time :=
  short.readsAs_self.reread_eq

/-- A decimal a little below the end of the doubles is read as a number. -/
theorem isSome_value?_literal {decimal : Decimal} (negative : Bool)
    (low : decimal.rankIn double + 4 ≤ double.ranks) :
    (decimal.literal negative).value?.isSome = true := by
  have positive : 0 < decimal.denominator := Nat.pow_pos (by decide)
  have bound := Layout.le_of_rankOf_le (by decide) positive (by decide +kernel) (ranks_eq ▸ low)
  obtain ⟨taken, dropped, small, least, -, value⟩ :=
    exists_value? (decimal.isSome_literal negative) (decimal.whole_literal_lt negative)
  rw [value, Option.isSome_map]
  refine Option.isSome_iff_exists.mpr (exists_scaled? small fun above => ?_)
  have within := Decimal.taken_mul_le negative least above
  generalize ((decimal.literal negative).place + dropped).natAbs = power at within ⊢
  refine Nat.le_of_mul_le_mul_right (c := decimal.denominator) ?_ positive
  calc 2 * (taken * 10 ^ power * double.one) * decimal.denominator
      = 2 * (taken * 10 ^ power * decimal.denominator * double.one) := by ring
    _ ≤ 2 * (decimal.numerator * double.one) :=
        Nat.mul_le_mul_left 2 (Nat.mul_le_mul_right double.one within)
    _ ≤ decimal.denominator * 2 ^ 2045 * (2 * 2 ^ 53 - 7) := bound
    _ = 2 ^ 2045 * (2 * 2 ^ 53 - 7) * decimal.denominator := by
        rw [Nat.mul_comm decimal.denominator, Nat.mul_right_comm]

/-- The decimals of the last three ranks are read as numbers too. -/
theorem isSome_value?_last : ∀ negative : Bool, ∀ less ∈ [1, 2, 3],
    ((Decimal.shortestOfRank double (double.ranks - less)).literal negative).value?.isSome := by
  decide +kernel

/-- Every time is read as some double. -/
theorem exists_readsAs (time : Double) : ∃ other, time.ReadsAs other := by
  have read : (time.decimal.literal time.negative).value?.isSome = true := by
    by_cases last : double.ranks < time.rank + 4
    · obtain ⟨less, few, same⟩ : ∃ less, less ∈ [1, 2, 3] ∧ time.rank = double.ranks - less := by
        have low := time.rank_lt
        refine ⟨double.ranks - time.rank, ?_, by omega⟩
        rw [List.mem_cons, List.mem_pair]
        omega
      rw [Finite.decimal, same]
      exact isSome_value?_last time.negative less few
    · have leads : time.decimal.rankIn double = time.rank :=
        Decimal.rankIn_shortestOfRank (by decide) time.rank
      exact isSome_value?_literal time.negative (leads.symm ▸ Nat.le_of_not_lt last)
  obtain ⟨taken, dropped, -, -, -, value⟩ := exists_value?
    (time.decimal.isSome_literal time.negative) (time.decimal.whole_literal_lt time.negative)
  rw [value, Option.isSome_map] at read
  obtain ⟨number, same⟩ := Option.isSome_iff_exists.mp read
  rw [same] at value
  exact ⟨_, readsAs_of_literal value⟩

theorem readsAs_reread (time : Double) : time.ReadsAs time.reread := by
  obtain ⟨other, reads⟩ := time.exists_readsAs
  rwa [reads.reread_eq]

end PromScribe.Double

namespace PromScribe

open Document

namespace Sample

/-- The sample with its time as it is read. -/
def reread (sample : Sample) : Sample :=
  { sample with time := sample.time.reread }

theorem reread_of_short {sample : Sample} (short : sample.time.IsShort) :
    sample.reread = sample := by
  rw [reread, short.reread_eq]

theorem readsAs_toJson (sample : Sample) : sample.toJson.ReadsAs sample.reread.toJson :=
  Json.readsAs_array
    (.cons (Json.readsAs_number sample.time.readsAs_reread) (.cons (Json.readsAs_string _) .nil))

theorem decode_toJson (sample : Sample) : decode (ofJson sample.toJson) = .ok sample := rfl

theorem isOrdered_toJson {room : Nat} (sample : Sample) : sample.toJson.IsOrdered (room + 1) := by
  refine .array fun item mem => ?_
  rcases List.mem_cons.mp mem with rfl | later
  · exact .number _
  · rw [List.mem_singleton.mp later]
    exact .string _

end Sample

namespace Series

/-- The series with its times as they are read. -/
def reread (series : Series) : Series :=
  { series with
    value := series.value.map Sample.reread
    values := series.values.map Sample.reread }

/-- The samples of the series. -/
def samples (series : Series) : List Sample :=
  series.value.toList ++ series.values

theorem reread_of_short {series : Series}
    (short : ∀ sample ∈ series.samples, sample.time.IsShort) : series.reread = series := by
  obtain ⟨metric, value, values⟩ := series
  have single : value.map Sample.reread = value := by
    cases value with
    | none => rfl
    | some sample => exact congrArg some (Sample.reread_of_short (short _ List.mem_cons_self))
  have many : values.map Sample.reread = values := by
    refine (List.map_congr_left fun sample mem => ?_).trans (List.map_id values)
    exact Sample.reread_of_short (short sample (List.mem_append_right _ mem))
  rw [reread, single, many]

/-- The members of the written form; what the series does not have is none. -/
theorem exists_members (series : Series) :
    ∃ members, series.toJson = .object members ∧
      (members.map Prod.fst).Sublist ["metric", "value", "values"] ∧
      members.lookup "metric" = some (.keyed .string series.metric) ∧
      members.lookup "value" = series.value.map Sample.toJson ∧
      members.lookup "values" =
        if series.values = [] then none else some (.array (series.values.map Sample.toJson)) := by
  obtain ⟨metric, value, values⟩ := series
  refine ⟨_, rfl, ?_⟩
  cases value <;> cases values <;> simp [Keyed.lookup_cons_eq_ite]

theorem decode_toJson (series : Series) : decode (ofJson series.toJson) = .ok series := by
  obtain ⟨members, shape, within, metric, value, values⟩ := series.exists_members
  have labelled : Shows (Decoder.keyed Decoder.string) Keyed.empty series.metric
      (members.lookup "metric") :=
    metric ▸ Decoder.keyed_eq fun _ _ => rfl
  have single : Shows (Decoder.optional Sample.decode) none series.value
      (members.lookup "value") := by
    rw [value]
    cases series.value <;> rfl
  have many : Shows (Decoder.list Sample.decode) [] series.values (members.lookup "values") :=
    values ▸ shows_unless Eq.symm (Decoder.list_eq fun sample _ => sample.decode_toJson)
  obtain ⟨record, taken, held⟩ := Record.exists_record
    [.of "metric" .defaulted (Decoder.keyed Decoder.string),
      .of "value" .defaulted (Decoder.optional Sample.decode),
      .of "values" .defaulted (Decoder.list Sample.decode)] members (by decide) within (by
        refine List.forall_mem_cons.mpr ⟨Field.fits_of_shows nofun labelled, ?_⟩
        refine List.forall_mem_cons.mpr ⟨Field.fits_of_shows nofun single, ?_⟩
        exact List.forall_mem_singleton.mpr (Field.fits_of_shows nofun many))
  unfold decode
  rw [shape, taken]
  simp only [bind, Except.bind, Record.getD_eq held labelled, Record.getD_eq held single,
    Record.getD_eq held many]
  rfl

theorem readsAs_toJson (series : Series) : series.toJson.ReadsAs series.reread.toJson := by
  obtain ⟨metric, value, values⟩ := series
  have single : List.Forall₂ Json.MemberReadsAs
      (value.toList.map fun sample => ("value", sample.toJson))
      ((value.map Sample.reread).toList.map fun sample => ("value", sample.toJson)) := by
    cases value with
    | none => exact .nil
    | some sample => exact .cons ⟨rfl, sample.readsAs_toJson⟩ .nil
  have each : List.Forall₂ Json.ReadsAs (values.map Sample.toJson)
      ((values.map Sample.reread).map Sample.toJson) := by
    rw [List.map_map, List.forall₂_map_left_iff, List.forall₂_map_right_iff]
    exact List.forall₂_same.mpr fun sample _ => sample.readsAs_toJson
  have many : List.Forall₂ Json.MemberReadsAs
      (if values.isEmpty then [] else [("values", .array (values.map Sample.toJson))])
      (if (values.map Sample.reread).isEmpty then []
        else [("values", .array ((values.map Sample.reread).map Sample.toJson))]) := by
    rw [List.isEmpty_map]
    split
    · exact .nil
    · exact .cons ⟨rfl, Json.readsAs_array each⟩ .nil
  exact Json.readsAs_object
    (List.rel_append (List.rel_append (.cons ⟨rfl, Json.readsAs_keyed metric⟩ .nil) single) many)

theorem isOrdered_labels {room : Nat} (labels : Labels) :
    (Json.keyed .string labels).IsOrdered (room + 1) := by
  refine .object (List.pairwise_map.mpr labels.ascending) fun member mem => ?_
  obtain ⟨label, -, rfl⟩ := List.mem_map.mp mem
  exact .string label.2

theorem isOrdered_toJson {room : Nat} (series : Series) : series.toJson.IsOrdered (room + 3) := by
  obtain ⟨members, shape, within, metric, value, values⟩ := series.exists_members
  have names : ["metric", "value", "values"].Pairwise (· < ·) := by decide
  have ascending := List.pairwise_map.mp (names.sublist within)
  have distinct : (members.map Prod.fst).Nodup :=
    List.Nodup.sublist within (by decide)
  have many : (Json.array (series.values.map Sample.toJson)).IsOrdered (room + 2) := by
    refine .array fun item mem => ?_
    obtain ⟨sample, -, rfl⟩ := List.mem_map.mp mem
    exact sample.isOrdered_toJson
  rw [shape]
  refine .object ascending fun member mem => ?_
  have named := within.subset (List.mem_map_of_mem mem)
  have found := Keyed.lookup_of_mem distinct mem
  simp only [List.mem_cons, List.not_mem_nil, or_false] at named
  rcases named with same | same | same
  · rw [same, metric] at found
    exact Option.some.inj found ▸ isOrdered_labels series.metric
  · rw [same, value] at found
    obtain ⟨sample, -, written⟩ := Option.map_eq_some_iff.mp found
    exact written ▸ sample.isOrdered_toJson
  · rw [same, values] at found
    split at found
    · cases found
    · exact Option.some.inj found ▸ many

end Series

namespace QueryResult

/-- The result with its times as they are read. -/
def reread : QueryResult → QueryResult
  | .series list => .series (list.map Series.reread)
  | .sample single => .sample single.reread

theorem readsAs_toJson (result : QueryResult) : result.toJson.ReadsAs result.reread.toJson := by
  cases result with
  | series list =>
      refine Json.readsAs_array ?_
      rw [List.map_map, List.forall₂_map_left_iff, List.forall₂_map_right_iff]
      exact List.forall₂_same.mpr fun series _ => series.readsAs_toJson
  | sample single => exact single.readsAs_toJson

theorem isOrdered_toJson {room : Nat} (result : QueryResult) :
    result.toJson.IsOrdered (room + 4) := by
  cases result with
  | series list =>
      refine .array fun item mem => ?_
      obtain ⟨series, -, rfl⟩ := List.mem_map.mp mem
      exact series.isOrdered_toJson
  | sample single => exact single.isOrdered_toJson

/-- A written result is taken as what it was: an array of objects is a list of series, a pair that
begins with a number is a sample. -/
theorem decode_toJson {room : Nat} (result : QueryResult) :
    decode (room + 4) (ofJson result.toJson) = .ok result := by
  have whole : Decoder.value (room + 4) (ofJson result.toJson) = .ok result.toJson := by
    rw [Decoder.value, meaning?_ofJson result.isOrdered_toJson]
  unfold decode
  rw [whole]
  cases result with
  | series list =>
      have taken : Decoder.list Series.decode (ofJson (.array (list.map Series.toJson))) =
          .ok list := Decoder.list_eq fun series _ => series.decode_toJson
      rw [toJson, taken]
      rfl
  | sample single => rfl

end QueryResult

theorem ResultKind.decode_name (kind : ResultKind) :
    decode (ofJson (.string kind.name)) = .ok kind := by
  cases kind <;> rfl

namespace QueryData

/-- The result with its times as they are read, with its kind. -/
def reread (data : QueryData) : QueryData :=
  { data with result := data.result.reread }

/-- The samples of the result. -/
def samples (data : QueryData) : List Sample :=
  match data.result with
  | .series list => list.flatMap Series.samples
  | .sample single => [single]

theorem reread_of_short {data : QueryData}
    (short : ∀ sample ∈ data.samples, sample.time.IsShort) : data.reread = data := by
  obtain ⟨kind, result⟩ := data
  cases result with
  | series list =>
      have same : list.map Series.reread = list := by
        refine (List.map_congr_left fun series mem => ?_).trans (List.map_id list)
        exact Series.reread_of_short fun sample held =>
          short sample (List.mem_flatMap.mpr ⟨series, mem, held⟩)
      rw [reread, QueryResult.reread, same]
  | sample single =>
      rw [reread, QueryResult.reread, Sample.reread_of_short (short single List.mem_cons_self)]

theorem readsAs_toJson (data : QueryData) : data.toJson.ReadsAs data.reread.toJson :=
  Json.readsAs_object
    (.cons ⟨rfl, Json.readsAs_string _⟩ (.cons ⟨rfl, data.result.readsAs_toJson⟩ .nil))

theorem decodeWithin_toJson {room : Nat} (data : QueryData) :
    decodeWithin (room + 5) (ofJson data.toJson) = .ok data := by
  have kind := data.kind.decode_name
  have result : QueryResult.decode (room + 5 - 1) (ofJson data.result.toJson) = .ok data.result :=
    data.result.decode_toJson
  obtain ⟨record, taken, held⟩ := Record.exists_record
    [.of "resultType" .required ResultKind.decode,
      .of "result" .required (QueryResult.decode (room + 5 - 1))] data.members
    (show ["resultType", "result"].Nodup by decide) (.refl _) (by
      refine List.forall_mem_cons.mpr ⟨Field.fits_of kind, ?_⟩
      exact List.forall_mem_singleton.mpr (Field.fits_of result))
  have first : record.get "resultType" ResultKind.decode = .ok _ := Record.get_eq held rfl kind
  have second : record.get "result" (QueryResult.decode (room + 5 - 1)) = .ok _ :=
    Record.get_eq held rfl result
  unfold decodeWithin
  rw [toJson, taken]
  simp only [bind, Except.bind, first, second]
  rfl

end QueryData

end PromScribe
