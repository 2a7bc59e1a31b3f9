import PromScribe.Proofs.Json.Decoding
import PromScribe.Proofs.Json.Literal
import PromScribe.Proofs.Time.InstantText
import PromScribe.Query.Context
import PromScribe.Time.SpanReader

/-!
# Contexts and their written form

What is taken from the written form of a context is the context with its span in whole milliseconds
of 64 bits and its instants settled. So a context survives being written if its span is such a count
and its leap seconds end minutes, and every context that was itself taken from a document survives.
-/

namespace PromScribe

open Text
open Document (ofJson)

/-- A natural number of 64 bits is read as it was. -/
theorem Json.readsAs_nat {value : Nat} (small : value < 2 ^ 64) :
    (Json.nat value).ReadsAs (Json.nat value) := by
  refine readsAs_number ⟨⟨false, Nat.toDigits 10 value, none, none⟩, ?_, ?_⟩
  · have leading : Nat.toDigits 10 value = ['0'] ∨ IsCount (Nat.toDigits 10 value) := by
      rcases Nat.eq_zero_or_pos value with rfl | positive
      · exact .inl rfl
      · exact .inr (isCount_toDigits positive)
    have written : NumberLiteral.Writes ⟨false, Nat.toDigits 10 value, none, none⟩ _ :=
      .parts leading .absent .absent
    have unsigned : ¬ ((value : Int) < 0) := Int.not_lt_of_ge (Int.natCast_nonneg value)
    unfold numberChars
    dsimp only
    unfold integerChars
    rw [if_neg unsigned]
    simpa using written
  · obtain ⟨taken, left, read, -, -, -, all⟩ :=
      NumberLiteral.exists_absorb (by decide : 0 < 2 ^ 64) (Nat.toDigits 10 value)
    rw [Nat.ofDigitChars_ten_toDigits] at all
    obtain ⟨rfl, rfl⟩ := all small
    unfold NumberLiteral.value?
    rw [read]
    rfl

/-- The instant is in a supported year and less than two seconds after its second. -/
structure Instant.Representable (instant : Instant) : Prop where
  supported : Instant.yearSupported instant.year = true
  within : instant.nanosecond < 2000000000

theorem Instant.Regular.representable {instant : Instant} (regular : instant.Regular) :
    instant.Representable :=
  ⟨regular.supported, regular.within⟩

namespace Decoder

variable {instant : Instant} {document : Document}

theorem instant_text (there : instant.Representable) :
    Decoder.instant (ofJson (.string instant.text)) = .ok instant.settled := by
  have read := InstantReader.readLenient_text there.supported there.within
  unfold Decoder.instant
  rw [ofJson, string]
  refine bind_eq_ok_iff.mpr ⟨_, rfl, ?_⟩
  rw [read]
  rfl

theorem optional_instantJson {instant? : Option Instant}
    (there : ∀ instant ∈ instant?, instant.Representable) :
    optional Decoder.instant (ofJson (instantJson instant?)) =
      .ok (instant?.map Instant.settled) := by
  cases instant? with
  | none => rfl
  | some instant =>
      change (Decoder.instant (ofJson (.string instant.text))).map some = _
      rw [instant_text (there instant rfl)]
      rfl

theorem millis_nat {count : Nat} (small : count < millisLimit) :
    millis (ofJson (.nat count)) = .ok (.ofMillis count) := by
  have within : (decide ((0 : Int) ≤ count) && decide ((count : Int) < millisLimit)) = true := by
    simp only [Bool.and_eq_true, decide_eq_true_eq]
    omega
  unfold millis Json.nat
  rw [ofJson, natBelow, if_pos within]
  rfl

theorem exists_of_millis {span : TimeSpan} (taken : millis document = .ok span) :
    ∃ count < millisLimit, span = .ofMillis count := by
  unfold millis at taken
  obtain ⟨count, natural, rfl⟩ := map_eq_ok_iff.mp taken
  unfold natBelow at natural
  split at natural
  · split at natural
    · next within =>
        cases natural
        simp only [Bool.and_eq_true, decide_eq_true_eq] at within
        exact ⟨_, by omega, rfl⟩
    · cases natural
  · cases natural

/-- An instant that is taken is regular. -/
theorem regular_of_instant (taken : Decoder.instant document = .ok instant) : instant.Regular := by
  unfold Decoder.instant at taken
  obtain ⟨text, -, taken⟩ := bind_eq_ok_iff.mp taken
  split at taken
  · next read =>
      cases taken
      exact InstantReader.lenient_regular read
  · cases taken

theorem regular_of_optional {instant? : Option Instant}
    (taken : optional Decoder.instant document = .ok instant?) :
    ∀ instant ∈ instant?, instant.Regular := by
  rintro instant rfl
  unfold optional at taken
  split at taken
  · cases taken
  · obtain ⟨found, read, same⟩ := map_eq_ok_iff.mp taken
    cases same
    exact regular_of_instant read

end Decoder

namespace Record

variable {α : Type} {record : Record} {name : String} {decoder : Decoder α} {taken default : α}

theorem exists_of_get (found : record.get name decoder = .ok taken) :
    ∃ document, decoder document = .ok taken := by
  unfold get at found
  split at found
  · exact ⟨_, found⟩
  · cases found

theorem of_getD (found : record.getD name decoder default = .ok taken) :
    taken = default ∨ ∃ document, decoder document = .ok taken := by
  unfold getD at found
  split at found
  · exact .inr ⟨_, found⟩
  · cases found
    exact .inl rfl

end Record

namespace TimeRange

variable {range : TimeRange}

/-- The instants that are carried along. -/
def instants (range : TimeRange) : List Instant :=
  range.start.toList ++ range.stop.toList

/-- The range as it is taken from its written form. -/
def reread (range : TimeRange) : TimeRange :=
  ⟨range.start.map Instant.settled, range.stop.map Instant.settled,
    .ofMillis (range.span.millis % millisLimit)⟩

theorem decode_toJson (there : ∀ instant ∈ range.instants, instant.Representable) :
    decode (ofJson range.toJson) = .ok range.reread := by
  have start : Shows (Decoder.optional Decoder.instant) none (range.start.map Instant.settled)
      (some (instantJson range.start)) :=
    Decoder.optional_instantJson fun instant mem => there instant
      (List.mem_append_left _ (Option.mem_toList.mpr mem))
  have stop : Shows (Decoder.optional Decoder.instant) none (range.stop.map Instant.settled)
      (some (instantJson range.stop)) :=
    Decoder.optional_instantJson fun instant mem => there instant
      (List.mem_append_right _ (Option.mem_toList.mpr mem))
  have span := Decoder.millis_nat (Nat.mod_lt range.span.millis (by decide : 0 < millisLimit))
  obtain ⟨record, taken, held⟩ := Record.exists_record
    [.of "start" .nullable (Decoder.optional Decoder.instant),
      .of "end" .nullable (Decoder.optional Decoder.instant),
      .of "duration" .required Decoder.millis]
    [("start", instantJson range.start), ("end", instantJson range.stop),
      ("duration", .nat (range.span.millis % millisLimit))] (by decide) (.refl _) (by
        refine List.forall_mem_cons.mpr ⟨Field.fits_of start, ?_⟩
        refine List.forall_mem_cons.mpr ⟨Field.fits_of stop, ?_⟩
        exact List.forall_mem_singleton.mpr (Field.fits_of span))
  have first : record.getD "start" (Decoder.optional Decoder.instant) none = .ok _ :=
    Record.getD_eq held start
  have second : record.getD "end" (Decoder.optional Decoder.instant) none = .ok _ :=
    Record.getD_eq held stop
  have third : record.get "duration" Decoder.millis = .ok _ := Record.get_eq held rfl span
  unfold decode
  rw [toJson, taken]
  simp only [bind, Except.bind, first, second, third]
  rfl

/-- A range that is taken is in milliseconds of 64 bits, and its instants are regular. -/
theorem of_decode {document : Document} (taken : decode document = .ok range) :
    (∃ count < millisLimit, range.span = .ofMillis count) ∧
      ∀ instant ∈ range.instants, instant.Regular := by
  unfold decode at taken
  obtain ⟨record, -, taken⟩ := bind_eq_ok_iff.mp taken
  obtain ⟨start, first, taken⟩ := bind_eq_ok_iff.mp taken
  obtain ⟨stop, second, taken⟩ := bind_eq_ok_iff.mp taken
  obtain ⟨span, third, taken⟩ := bind_eq_ok_iff.mp taken
  cases taken
  obtain ⟨_, counted⟩ := Record.exists_of_get third
  refine ⟨Decoder.exists_of_millis counted, fun instant mem => ?_⟩
  have regular {instant? : Option Instant} {name : String}
      (found : record.getD name (Decoder.optional Decoder.instant) none = .ok instant?)
      (mem : instant ∈ instant?) : instant.Regular := by
    rcases Record.of_getD found with rfl | ⟨_, read⟩
    · cases mem
    · exact Decoder.regular_of_optional read instant mem
  rcases List.mem_append.mp mem with mem | mem
  · exact regular first (Option.mem_toList.mp mem)
  · exact regular second (Option.mem_toList.mp mem)

end TimeRange

theorem TimeRange.readsAs_toJson (range : TimeRange) : range.toJson.ReadsAs range.toJson := by
  have instants (instant? : Option Instant) :
      (instantJson instant?).ReadsAs (instantJson instant?) := by
    cases instant? with
    | none => exact .null
    | some instant => exact Json.readsAs_string _
  have span := Json.readsAs_nat (Nat.mod_lt range.span.millis (by decide : 0 < millisLimit))
  refine Json.readsAs_object (.cons ⟨rfl, instants _⟩ (.cons ⟨rfl, instants _⟩ ?_))
  exact .cons ⟨rfl, span⟩ .nil

theorem Rule.readsAs_toJson (rule : Rule) : rule.toJson.ReadsAs rule.toJson :=
  Json.readsAs_object (.cons ⟨rfl, Json.readsAs_string _⟩ (.cons ⟨rfl, Json.readsAs_string _⟩
    (.cons ⟨rfl, Json.readsAs_strings _⟩ (.cons ⟨rfl, Json.readsAs_string _⟩ .nil))))

theorem Rule.decode_toJson (rule : Rule) : decode (ofJson rule.toJson) = .ok rule := by
  have text (value : String) : Decoder.string (ofJson (.string value)) = .ok value := rfl
  obtain ⟨record, taken, held⟩ := Record.exists_record
    [.of "pattern" .required Decoder.string, .of "metric_type" .required Decoder.string,
      .of "labels" .required (Decoder.list Decoder.string),
      .of "aggregation" .required Decoder.string]
    [("pattern", .string rule.pattern), ("metric_type", .string rule.metricType),
      ("labels", .strings rule.labels), ("aggregation", .string rule.aggregation)]
    (by decide) (.refl _) (by
      refine List.forall_mem_cons.mpr ⟨Field.fits_of (text _), ?_⟩
      refine List.forall_mem_cons.mpr ⟨Field.fits_of (text _), ?_⟩
      refine List.forall_mem_cons.mpr ⟨Field.fits_of (Decoder.list_strings _), ?_⟩
      exact List.forall_mem_singleton.mpr (Field.fits_of (text _)))
  have pattern : record.get "pattern" Decoder.string = .ok _ := Record.get_eq held rfl (text _)
  have metric : record.get "metric_type" Decoder.string = .ok _ := Record.get_eq held rfl (text _)
  have labels : record.get "labels" (Decoder.list Decoder.string) = .ok _ :=
    Record.get_eq held rfl (Decoder.list_strings _)
  have aggregation : record.get "aggregation" Decoder.string = .ok _ :=
    Record.get_eq held rfl (text _)
  unfold decode
  rw [toJson, taken]
  simp only [bind, Except.bind, pattern, metric, labels, aggregation]
  rfl

theorem ContextSource.decode_name (source : ContextSource) :
    decode (ofJson (.string source.name)) = .ok source := by
  cases source <;> rfl

namespace TimeRange

variable {range : TimeRange}

/-- The span counts milliseconds in 64 bits, and leap seconds end minutes. -/
structure Writable (range : TimeRange) : Prop where
  whole : range.span.nanoseconds % 1000000 = 0
  short : range.span.millis < millisLimit
  leap : ∀ instant ∈ range.instants, 1000000000 ≤ instant.nanosecond → instant.second % 60 = 59

theorem reread_span_eq_iff :
    TimeSpan.ofMillis (range.span.millis % millisLimit) = range.span ↔
      range.span.nanoseconds % 1000000 = 0 ∧ range.span.millis < millisLimit := by
  obtain ⟨start, stop, ⟨nanoseconds⟩⟩ := range
  have limit : 0 < millisLimit := by decide
  unfold TimeSpan.ofMillis TimeSpan.millis
  rw [TimeSpan.mk.injEq]
  dsimp only
  have below := Nat.mod_lt (nanoseconds / 1000000) limit
  have most := Nat.mod_le (nanoseconds / 1000000) millisLimit
  constructor
  · intro same
    omega
  · rintro ⟨whole, short⟩
    rw [Nat.mod_eq_of_lt short]
    omega

theorem map_settled_eq_iff {instant? : Option Instant} :
    instant?.map Instant.settled = instant? ↔
      ∀ instant ∈ instant?.toList, 1000000000 ≤ instant.nanosecond → instant.second % 60 = 59 := by
  cases instant? with
  | none => exact iff_of_true rfl nofun
  | some instant =>
      rw [Option.map_some, Option.some.injEq, Instant.settled_eq_self_iff, Option.toList_some]
      simp only [List.mem_singleton, forall_eq]

theorem reread_eq_self_iff : range.reread = range ↔ range.Writable := by
  have parts : range.reread = range ↔ range.start.map Instant.settled = range.start ∧
      range.stop.map Instant.settled = range.stop ∧
        TimeSpan.ofMillis (range.span.millis % millisLimit) = range.span := by
    rw [reread]
    exact TimeRange.mk.injEq .. ▸ Iff.rfl
  rw [parts, map_settled_eq_iff, map_settled_eq_iff, reread_span_eq_iff]
  constructor
  · rintro ⟨start, stop, whole, short⟩
    exact ⟨whole, short, List.forall_mem_append.mpr ⟨start, stop⟩⟩
  · rintro ⟨whole, short, leap⟩
    obtain ⟨start, stop⟩ := List.forall_mem_append.mp leap
    exact ⟨start, stop, whole, short⟩

end TimeRange

namespace Context

variable {context : Context}

/-- The context as it is taken from its written form. -/
def reread (context : Context) : Context :=
  { context with timeRange := context.timeRange.reread }

theorem decode_toJson (there : ∀ instant ∈ context.timeRange.instants, instant.Representable) :
    decode (ofJson context.toJson) = .ok context.reread := by
  have text (value : String) : Decoder.string (ofJson (.string value)) = .ok value := rfl
  have keys : Decoder.keyed Decoder.string (ofJson (.keyed .string context.labels)) =
      .ok context.labels := Decoder.keyed_eq fun value _ => text value
  have ranged := TimeRange.decode_toJson there
  have listed := Decoder.list_strings context.groupBy
  have ruled : Decoder.list Rule.decode (ofJson (.array (context.rules.map Rule.toJson))) =
      .ok context.rules := Decoder.list_eq fun rule _ => rule.decode_toJson
  have sourced := context.source.decode_name
  obtain ⟨record, taken, held⟩ := Record.exists_record
    [.of "query" .required Decoder.string, .of "intent" .required Decoder.string,
      .of "main_metric" .required Decoder.string,
      .of "labels" .required (Decoder.keyed Decoder.string),
      .of "time_range" .required TimeRange.decode, .of "aggregation" .required Decoder.string,
      .of "group_by" .required (Decoder.list Decoder.string),
      .of "rules" .required (Decoder.list Rule.decode),
      .of "source" .required ContextSource.decode]
    [("query", .string context.query), ("intent", .string context.intent),
      ("main_metric", .string context.mainMetric), ("labels", .keyed .string context.labels),
      ("time_range", context.timeRange.toJson), ("aggregation", .string context.aggregation),
      ("group_by", .strings context.groupBy), ("rules", .array (context.rules.map Rule.toJson)),
      ("source", .string context.source.name)] (by decide) (.refl _) (by
        refine List.forall_mem_cons.mpr ⟨Field.fits_of (text _), ?_⟩
        refine List.forall_mem_cons.mpr ⟨Field.fits_of (text _), ?_⟩
        refine List.forall_mem_cons.mpr ⟨Field.fits_of (text _), ?_⟩
        refine List.forall_mem_cons.mpr ⟨Field.fits_of keys, ?_⟩
        refine List.forall_mem_cons.mpr ⟨Field.fits_of ranged, ?_⟩
        refine List.forall_mem_cons.mpr ⟨Field.fits_of (text _), ?_⟩
        refine List.forall_mem_cons.mpr ⟨Field.fits_of listed, ?_⟩
        refine List.forall_mem_cons.mpr ⟨Field.fits_of ruled, ?_⟩
        exact List.forall_mem_singleton.mpr (Field.fits_of sourced))
  have query : record.get "query" Decoder.string = .ok _ := Record.get_eq held rfl (text _)
  have intent : record.get "intent" Decoder.string = .ok _ := Record.get_eq held rfl (text _)
  have metric : record.get "main_metric" Decoder.string = .ok _ := Record.get_eq held rfl (text _)
  have labels : record.get "labels" (Decoder.keyed Decoder.string) = .ok _ :=
    Record.get_eq held rfl keys
  have range : record.get "time_range" TimeRange.decode = .ok _ := Record.get_eq held rfl ranged
  have aggregation : record.get "aggregation" Decoder.string = .ok _ :=
    Record.get_eq held rfl (text _)
  have groupBy : record.get "group_by" (Decoder.list Decoder.string) = .ok _ :=
    Record.get_eq held rfl listed
  have rules : record.get "rules" (Decoder.list Rule.decode) = .ok _ := Record.get_eq held rfl ruled
  have source : record.get "source" ContextSource.decode = .ok _ := Record.get_eq held rfl sourced
  unfold decode
  rw [toJson, taken]
  simp only [bind, Except.bind, query, intent, metric, labels, range, aggregation, groupBy, rules,
    source]
  rfl

theorem readsAs_toJson (context : Context) : context.toJson.ReadsAs context.toJson := by
  have rules : (Json.array (context.rules.map Rule.toJson)).ReadsAs
      (.array (context.rules.map Rule.toJson)) := by
    refine Json.readsAs_array_self fun item mem => ?_
    obtain ⟨rule, -, rfl⟩ := List.mem_map.mp mem
    exact rule.readsAs_toJson
  have text (name value : String) :
      Json.MemberReadsAs (name, .string value) (name, .string value) :=
    ⟨rfl, Json.readsAs_string value⟩
  refine Json.readsAs_object (.cons (text _ _) (.cons (text _ _) (.cons (text _ _) ?_)))
  refine .cons ⟨rfl, Json.readsAs_keyed _⟩ (.cons ⟨rfl, context.timeRange.readsAs_toJson⟩ ?_)
  refine .cons (text _ _) (.cons ⟨rfl, Json.readsAs_strings _⟩ (.cons ⟨rfl, rules⟩ ?_))
  exact .cons (text _ _) .nil

/-- The context is taken again from its written form, as a document and as a text. -/
structure Survives (context : Context) : Prop where
  document : decode (ofJson context.toJson) = .ok context
  text : Json.decode decode context.toJson.text = .ok context

theorem survives_iff_of_representable
    (there : ∀ instant ∈ context.timeRange.instants, instant.Representable) :
    context.Survives ↔ context.timeRange.Writable := by
  have document := decode_toJson there
  have same : context.reread = context ↔ context.timeRange.reread = context.timeRange :=
    ⟨congrArg timeRange, fun range => by rw [reread, range]⟩
  rw [← TimeRange.reread_eq_self_iff, ← same]
  constructor
  · exact fun survives => Except.ok.inj (document.symm.trans survives.document)
  · intro kept
    rw [kept] at document
    exact ⟨document, context.readsAs_toJson.decode_text.trans document⟩

/-- A context that is taken from a document survives. -/
theorem survives_of_decode {document : Document} (taken : decode document = .ok context) :
    context.Survives := by
  have ranged : ∃ inner, TimeRange.decode inner = .ok context.timeRange := by
    unfold decode at taken
    obtain ⟨record, -, taken⟩ := bind_eq_ok_iff.mp taken
    obtain ⟨query, -, taken⟩ := bind_eq_ok_iff.mp taken
    obtain ⟨intent, -, taken⟩ := bind_eq_ok_iff.mp taken
    obtain ⟨metric, -, taken⟩ := bind_eq_ok_iff.mp taken
    obtain ⟨labels, -, taken⟩ := bind_eq_ok_iff.mp taken
    obtain ⟨range, found, taken⟩ := bind_eq_ok_iff.mp taken
    obtain ⟨aggregation, -, taken⟩ := bind_eq_ok_iff.mp taken
    obtain ⟨groupBy, -, taken⟩ := bind_eq_ok_iff.mp taken
    obtain ⟨rules, -, taken⟩ := bind_eq_ok_iff.mp taken
    obtain ⟨source, -, taken⟩ := bind_eq_ok_iff.mp taken
    cases taken
    exact Record.exists_of_get found
  obtain ⟨inner, read⟩ := ranged
  obtain ⟨⟨count, small, span⟩, regular⟩ := TimeRange.of_decode read
  refine (survives_iff_of_representable fun instant mem =>
    (regular instant mem).representable).mpr ⟨?_, ?_, fun instant mem => (regular instant mem).leap⟩
  · rw [span]
    exact Nat.mul_mod_left count 1000000
  · rw [span]
    have whole : count * 1000000 / 1000000 = count := Nat.mul_div_cancel _ (by decide)
    exact whole.trans_lt small

/-- A context survives being written just if its span counts milliseconds in 64 bits and its leap
seconds end minutes. It survives if it is taken from a document or from a text. -/
theorem survives_iff_writable (context : Context) :
    ((∀ instant ∈ context.timeRange.instants, instant.Representable) →
      (context.Survives ↔ context.timeRange.Writable)) ∧
    (∀ document, decode document = .ok context → context.Survives) ∧
    ∀ text, Json.decode decode text = .ok context → context.Survives := by
  refine ⟨survives_iff_of_representable, fun document => survives_of_decode, fun text taken => ?_⟩
  unfold Json.decode at taken
  dsimp only at taken
  split at taken
  · cases taken
  · next found read =>
      split at taken
      · cases taken
        exact survives_of_decode read
      · cases taken

/-- Five minutes from a leap second on. -/
def leapContext : Context :=
  { ofQuery "errors" with timeRange := ⟨some ⟨1483228799, 1500000000⟩, none, .ofSeconds 300⟩ }

theorem survives_iff_writable_leap :
    leapContext.Survives ∧
      Json.decode decode leapContext.toJson.text = .ok leapContext := by
  obtain ⟨writes, -, reads⟩ := survives_iff_writable leapContext
  have there : ∀ instant ∈ leapContext.timeRange.instants, instant.Representable :=
    List.forall_mem_singleton.mpr ⟨by decide, by decide⟩
  have writable : leapContext.timeRange.Writable :=
    ⟨by decide, by decide, List.forall_mem_singleton.mpr (by decide)⟩
  have survives := (writes there).mpr writable
  exact ⟨survives, (reads _ survives.text).text⟩

/-- A span that is read in whole seconds is written as what is left of it in 64 bits. -/
theorem exists_narrowed_span :
    ∃ span, TimeSpan.read "18446744073709552s" = .ok span ∧ span.nanoseconds % 1000000 = 0 ∧
      decode (ofJson ((ofQuery "errors").withWindow span).toJson) =
        .ok ((ofQuery "errors").withWindow (.ofMillis 384)) ∧
      ¬ ((ofQuery "errors").withWindow span).Survives := by
  have read : TimeSpan.read "18446744073709552s" = .ok (.ofSeconds 18446744073709552) := by
    decide +kernel
  have narrowed : decode (ofJson ((ofQuery "errors").withWindow
      (.ofSeconds 18446744073709552)).toJson) =
        .ok ((ofQuery "errors").withWindow (.ofMillis 384)) := decode_toJson nofun
  refine ⟨_, read, by decide, narrowed, fun survives => ?_⟩
  cases narrowed.symm.trans survives.document

end Context

end PromScribe
