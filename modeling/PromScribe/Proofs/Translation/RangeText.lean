import PromScribe.Proofs.Text.Sweep
import PromScribe.Proofs.Time.Coarse
import PromScribe.Proofs.Time.QueryForm
import PromScribe.Proofs.Translation.Fitting

/-!
# Ranges that are shown

A range is written to the millisecond. What the question names is whole milliseconds, so its range
is read back; a proposed window may be shorter than one, and is written as no time at all.
-/

namespace PromScribe

open Text

namespace Question

open SpanReader

/-- A decimal digit of any script belongs to no unit and begins no fraction. -/
theorem isCoarse_of_isDecimal {c : Char} (decimal : isDecimal c = true) : IsCoarse c := by
  constructor
  · rintro rfl
    exact absurd decimal (by decide)
  · intro letter
    rcases Bool.or_eq_true_iff.mp letter with alpha | micro
    · have place := toNat_of_isAlpha alpha
      have ascii : c.val < 128 := by
        rw [UInt32.lt_iff_toNat_lt]
        show c.toNat < 128
        omega
      rw [isDecimal, if_pos ascii] at decimal
      rw [isAlpha_of_isDigit decimal] at alpha
      cases alpha
    · rw [beq_iff_eq.mp micro] at decimal
      exact absurd decimal (by decide)

theorem isCoarse_of_mem_coarseLetters {c : Char} (letter : c ∈ coarseLetters) : IsCoarse c := by
  refine ⟨?_, fun _ => letter⟩
  rintro rfl
  exact absurd letter (by decide)

/-- A unit of compact durations has only letters of coarse units. -/
theorem mem_coarseLetters_of_compactUnit {text : List Char} {length : Nat}
    (unit : compactUnitLength? text = some length) :
    ∀ c ∈ text.take length, c ∈ coarseLetters := by
  have millis : ∀ c ∈ ['m', 's'], c ∈ coarseLetters := by simp [coarseLetters]
  unfold compactUnitLength? at unit
  split at unit
  · split at unit <;> cases unit
    exact millis
  · next c rest _ =>
      split at unit <;> cases unit
      next single =>
      intro d mem
      rw [List.mem_singleton.mp mem]
      exact List.contains_iff_mem.mp (Bool.and_eq_true_iff.mp single).1
  · cases unit

theorem isCoarse_compactDuration {before : Option Char} {text : List Char} {extra : Nat}
    (accepts : compactDuration before text = some ⟨extra, ()⟩) :
    ∀ c ∈ text.take (extra + 1), IsCoarse c := by
  have parts : text.takeWhile isDecimal ++ text.drop (text.takeWhile isDecimal).length = text :=
    List.prefix_iff_eq_append.mp (List.takeWhile_prefix isDecimal)
  have decimal : ∀ c ∈ text.takeWhile isDecimal, IsCoarse c := fun c mem =>
    isCoarse_of_isDecimal (List.mem_takeWhile_imp mem)
  unfold compactDuration at accepts
  dsimp only at accepts
  generalize text.takeWhile isDecimal = digits at accepts parts decimal
  split at accepts
  · cases accepts
  next begins =>
  obtain ⟨unit, known, covers⟩ := Option.map_eq_some_iff.mp accepts
  have length : extra + 1 = digits.length + unit := by
    have number : digits ≠ [] := by
      rintro rfl
      exact begins rfl
    have positive := List.length_pos_iff.mpr number
    have same : digits.length + unit - 1 = extra := congrArg Hit.extra covers
    omega
  intro c mem
  rw [length, ← parts, List.take_length_add_append] at mem
  rcases List.mem_append.mp mem with digit | letter
  · exact decimal c digit
  · exact isCoarse_of_mem_coarseLetters (mem_coarseLetters_of_compactUnit known c letter)

/-- What is found as a time is a number with a coarse unit. -/
theorem isCoarse_of_time {question : String} {entity : Entity}
    (mem : entity ∈ entitiesOf question) (time : entity.kind = .time) :
    ∀ c ∈ entity.value.toList, IsCoarse c := by
  have found : entity ∈ timeEntities question.toList := by
    rcases List.mem_append.mp mem with other | found
    · -- Neither metrics nor labels are times.
      rcases List.mem_append.mp other with metric | label
      · obtain ⟨span, -, rfl⟩ := List.mem_map.mp metric
        cases time
      · obtain ⟨span, -, rfl⟩ := List.mem_map.mp label
        cases time
    · exact found
  obtain ⟨span, member, rfl⟩ := List.mem_map.mp found
  have run : (span.text, span.value) ∈ hits compactDuration question.toList := by
    rw [← map_spansOf]
    exact List.mem_map_of_mem member
  obtain ⟨before, place, extra, accepts, -, covered⟩ := exists_of_mem_hits run
  rw [String.toList_ofList, covered]
  exact isCoarse_compactDuration accepts

theorem isCoarse_window (frame : TimeFrame) : ∀ c ∈ frame.window.toList, IsCoarse c := by
  have coarse : (frame.window.toList.all fun c => IsCoarse c) = true := by
    cases frame with
    | lastHour => decide
    | lastDay => decide
    | lastWeek => decide
  exact fun c mem => of_decide_eq_true (List.all_eq_true.mp coarse c mem)

end Question

namespace Extraction

open Question Query SpanReader

variable {translator : Translator} {question text : String} {transcript : Transcript}
variable {findings : Findings} {context : Context} {span : TimeSpan}

/-- The window that a question names is read from a coarse text. -/
theorem Findings.Reads.exists_coarse (reads : findings.Reads translator question)
    (named : findings.window = some span) :
    ∃ text, TimeSpan.read text = .ok span ∧ ∀ c ∈ text.toList, IsCoarse c := by
  have read := reads.window_eq
  rw [named] at read
  obtain ⟨-, entities⟩ := Reader.accepted_eq_ok_iff.mp reads.entities_eq
  unfold window? at read
  split at read
  · cases read
  next text written =>
  split at read
  · next found outcome =>
      cases read
      refine ⟨text, outcome, ?_⟩
      unfold windowText? at written
      split at written
      · next entity found =>
          cases written
          have time := List.find?_some found
          have mem := List.mem_of_find?_eq_some found
          rw [← entities] at mem
          exact isCoarse_of_time mem (beq_iff_eq.mp time)
      · obtain ⟨frame, -, rfl⟩ := Option.map_eq_some_iff.mp written
        exact isCoarse_window frame
  · cases read

/-- Every window is read from some text; that of a known metric is at least a millisecond. -/
theorem Sourced.exists_read {source : ContextSource} {window : Option TimeSpan}
    (sourced : Sourced findings source window) (reads : findings.Reads translator question)
    (named : window = some span) :
    ∃ text, TimeSpan.read text = .ok span ∧ (source = .rules → 1 ≤ span.millis) := by
  cases sourced with
  | rules =>
      obtain ⟨text, read, coarse⟩ := reads.exists_coarse named
      exact ⟨text, read, fun _ => TimeSpan.one_le_millis_of_read coarse read⟩
  | fallback framed =>
      subst named
      cases framed with
      | stated names =>
          obtain ⟨text, read, -⟩ := reads.exists_coarse names
          exact ⟨text, read, fun byRule => by cases byRule⟩
      | proposed _ _ _ read => exact ⟨_, read, fun byRule => by cases byRule⟩

/-- The span of a context with a length is the default one, or was read from some text. -/
theorem Fits.span_eq {window : Option TimeSpan} {aggregation function : String}
    (fits : Fits window aggregation (function, span)) (long : span.isZero = false) :
    span = defaultWindow ∨ window = some span := by
  cases fits with
  | ranged =>
      cases window with
      | none => exact .inl rfl
      | some span => exact .inr rfl
  | overTime named => exact .inr named
  | instant => cases long
  | other =>
      cases window with
      | none => cases long
      | some span => exact .inr rfl

/-- A span of a context is within the supported range; that of a known metric has milliseconds. -/
theorem supported_of_plays
    (plays : (translator.extract question).run.Plays transcript (.ok context))
    (long : context.timeRange.span.isZero = false) :
    context.timeRange.span.seconds < Nat.pow 2 64 ∧
      (context.source = .rules → 1 ≤ context.timeRange.span.millis) := by
  obtain ⟨findings, window, aggregation, reads, sourced, fits⟩ := exists_sourced plays
  rcases fits.span_eq long with default | named
  · rw [default]
    exact ⟨by decide, fun _ => by decide⟩
  · obtain ⟨text, read, least⟩ := sourced.exists_read reads named
    exact ⟨TimeSpan.seconds_lt_of_read read, least⟩

/-- What a span within the supported range is read as, once it is written. -/
theorem read_queryText_eq (within : span.seconds < Nat.pow 2 64) :
    TimeSpan.read span.queryText =
      if 1 ≤ span.millis then .ok (.ofMillis span.millis) else .error ⟨"0s", .notPositive⟩ := by
  split
  · next positive => exact TimeSpan.read_queryText positive within
  · next short =>
      have none : span.millis = 0 := by omega
      rw [TimeSpan.queryText, TimeSpan.queryChars, if_pos none]
      rfl

/-- Only less than a millisecond is written as no time. -/
theorem queryText_eq_noTime_iff (within : span.seconds < Nat.pow 2 64) :
    span.queryText = "0s" ↔ span.millis = 0 := by
  constructor
  · intro same
    have refused : TimeSpan.read "0s" = .error ⟨"0s", .notPositive⟩ := rfl
    have read := read_queryText_eq within
    rw [same, refused] at read
    split at read
    · cases read
    · next short => omega
  · intro none
    rw [TimeSpan.queryText, TimeSpan.queryChars, if_pos none]

/-- A range that is shown is the query form of a span with a length. It is read as the milliseconds
of the span if there are any, as wherever the metric is known; otherwise it is `0s`, and refused. -/
theorem range_denotes (plays : (translator.extract question).run.Plays transcript (.ok context))
    (shown : (build context).query.toList = rangedChars context ('[' :: (text.toList ++ [']']))) :
    0 < context.timeRange.span.nanoseconds ∧ text = context.timeRange.span.queryText ∧
      (TimeSpan.read text =
        if 1 ≤ context.timeRange.span.millis then .ok (.ofMillis context.timeRange.span.millis)
        else .error ⟨"0s", .notPositive⟩) ∧
      (text = "0s" ↔ context.timeRange.span.millis = 0) ∧
      (context.source = .rules → 1 ≤ context.timeRange.span.millis) := by
  obtain ⟨named, long⟩ := showsRange_iff.mp ⟨text.toList, shown⟩
  obtain ⟨within, least⟩ := supported_of_plays plays long
  have written : text = context.timeRange.span.queryText := by
    rw [toList_build named, rangedChars_inj, windowChars, if_neg (by simp [long])] at shown
    have same := List.append_cancel_right (List.cons.inj shown).2
    rw [TimeSpan.queryText, same, String.ofList_toList]
  refine ⟨Nat.pos_of_ne_zero (beq_eq_false_iff_ne.mp long), written, ?_, ?_, least⟩
  · rw [written]
    exact read_queryText_eq within
  · rw [written]
    exact queryText_eq_noTime_iff within

/-- The range of a context with a metric and a span with a length is shown in query form. -/
theorem shown_queryText (named : context.hasMetric = true)
    (long : context.timeRange.span.isZero = false) :
    (build context).query.toList =
      rangedChars context ('[' :: (context.timeRange.span.queryText.toList ++ [']'])) := by
  rw [toList_build named, windowChars, if_neg (by simp [long]), TimeSpan.queryText,
    String.toList_ofList]

/-- A proposed window of two units is shown, and is read as what was proposed. -/
theorem range_denotes_proposed :
    ∃ context, (plainTranslator.extract "errors").run.Plays
        [.refreshed (.kept .initial),
          .answered (.complete vagueFindings.prompt) (.ok summingReply)] (.ok context) ∧
      (build context).query.toList = rangedChars context "[1h30m]".toList ∧
        TimeSpan.read "1h30m" = .ok (.ofMillis 5400000) := by
  obtain ⟨context, plays, metric, fits⟩ := exists_vague_fitted summingReply (some "up")
    (some "1h30m") (some " sum ") (some (.ofSeconds 5400)) (by decide +kernel) (by
      intro proposal named
      unfold Proposal.window?
      rw [named]
      rfl)
  have span : context.timeRange.span = .ofSeconds 5400 := congrArg Prod.snd fits
  have named : context.hasMetric = true := by
    unfold Context.hasMetric
    rw [metric]
    rfl
  have shown : (build context).query.toList =
      rangedChars context ('[' :: ("1h30m".toList ++ [']'])) := by
    have written := shown_queryText named (by rw [span]; rfl)
    rw [span] at written
    exact written
  obtain ⟨-, -, read, -, -⟩ := range_denotes plays shown
  rw [span] at read
  exact ⟨context, plays, shown, read⟩

/-- A reply that proposes half a millisecond. -/
def fleetingReply : String :=
  "\x7b\"metric\": \"up\", \"timeRange\": \"500us\", \"aggregation\": \"rate\"\x7d"

/-- Half a millisecond is accepted as a window, and shown as none. -/
theorem exists_empty_range :
    ∃ context, (plainTranslator.extract "errors").run.Plays
        [.refreshed (.kept .initial),
          .answered (.complete vagueFindings.prompt) (.ok fleetingReply)] (.ok context) ∧
      (build context).query.toList = rangedChars context "[0s]".toList ∧
        TimeSpan.read "0s" = .error ⟨"0s", .notPositive⟩ := by
  obtain ⟨context, plays, metric, fits⟩ := exists_vague_fitted fleetingReply (some "up")
    (some "500us") (some "rate") (some ⟨500000⟩) (by decide +kernel) (by
      intro proposal named
      unfold Proposal.window?
      rw [named]
      rfl)
  have span : context.timeRange.span = ⟨500000⟩ := congrArg Prod.snd fits
  have named : context.hasMetric = true := by
    unfold Context.hasMetric
    rw [metric]
    rfl
  have shown := shown_queryText named (by rw [span]; rfl)
  rw [span] at shown
  exact ⟨context, plays, shown, rfl⟩

end Extraction

end PromScribe
