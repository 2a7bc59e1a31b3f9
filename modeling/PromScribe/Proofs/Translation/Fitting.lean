import PromScribe.Proofs.Query.Assembly
import PromScribe.Proofs.Translation.Precedence

/-!
# Windows that fit their functions

Range functions read a range, operators over series read none. Whatever an extraction takes its
aggregation and its window from, the two fit each other in the context that it gives.
-/

namespace PromScribe

open Query

variable {text : String} {span : TimeSpan} {window : Option TimeSpan}

namespace Query

/-- No operator is a range function. -/
theorem isRangeFunction_of_isAggregation {name : String} (operator : isAggregation name = true) :
    isRangeFunction name = false := by
  have all : ∀ operator ∈ aggregationOperators, isRangeFunction operator = false := by decide
  exact all name (by simpa [isAggregation] using operator)

theorem isRangeFunction_append_overTimeEnding (name : String) :
    isRangeFunction (name ++ overTimeEnding) = true := by
  simp [isRangeFunction, Text.hasEnding]

end Query

/-- What is read as a span has a length. -/
theorem TimeSpan.isZero_of_read (read : TimeSpan.read text = .ok span) : span.isZero = false := by
  unfold TimeSpan.read at read
  cases outcome : TimeSpan.readChars text.toList with
  | error reason =>
      rw [outcome] at read
      cases read
  | ok found =>
      rw [outcome] at read
      cases read
      unfold TimeSpan.readChars at outcome
      split at outcome
      · cases outcome
      · cases outcome
      · split at outcome
        · cases outcome
        · cases outcome
        · next nanoseconds positive _ =>
            cases outcome
            exact beq_eq_false_iff_ne.mpr positive

namespace Extraction

open Question

variable {translator : Translator} {question : String} {transcript : Transcript}
variable {findings : Findings} {context : Context} {aggregation function : String}

/-- The window has a length if there is one. -/
def Lasting (window : Option TimeSpan) : Prop :=
  ∀ span ∈ window, span.isZero = false

/-- The function and the span that an aggregation and a window become. -/
inductive Fits (window : Option TimeSpan) : String → String × TimeSpan → Prop where
  | ranged {aggregation : String} (ranges : isRangeFunction aggregation = true) :
      Fits window aggregation (aggregation, window.getD defaultWindow)
  | overTime {aggregation : String} {span : TimeSpan} (named : window = some span) :
      Fits window aggregation (aggregation ++ overTimeEnding, span)
  | instant {aggregation : String} (instant : isRangeFunction aggregation = false) :
      Fits window aggregation (aggregation, .zero)
  | other {aggregation : String} (instant : isRangeFunction aggregation = false)
      (function : isAggregation aggregation = false) :
      Fits window aggregation (aggregation, window.getD .zero)

theorem fits_fitted (aggregation : String) (window : Option TimeSpan) :
    Fits window aggregation (fitted aggregation window) := by
  unfold fitted
  split
  · next ranges => exact .ranged ranges
  next notRanged =>
  have instant := eq_false_of_ne_true notRanged
  split
  · split
    · split
      · exact .overTime rfl
      · exact .instant instant
    · exact .instant instant
  · next notOperator => exact .other instant (eq_false_of_ne_true notOperator)

theorem fits_withWindow (context : Context) (window : Option TimeSpan) :
    Fits window context.aggregation ((withWindow context window).aggregation,
      (withWindow context window).timeRange.span) := by
  simp only [withWindow, TimeRange.ofSpan]
  exact fits_fitted context.aggregation window

/-- The span of a range function has a length. -/
theorem Fits.isZero_eq_false (fits : Fits window aggregation (function, span))
    (lasting : Lasting window) (ranges : isRangeFunction function = true) : span.isZero = false := by
  cases fits with
  | ranged =>
      cases window with
      | none => rfl
      | some span => exact lasting span rfl
  | overTime named => exact lasting _ named
  | instant instant =>
      rw [ranges] at instant
      cases instant
  | other instant =>
      rw [ranges] at instant
      cases instant

/-- The span of an operator is zero. -/
theorem Fits.eq_zero (fits : Fits window aggregation (function, span))
    (operator : isAggregation function = true) : span = .zero := by
  have instant := isRangeFunction_of_isAggregation operator
  cases fits with
  | ranged ranges =>
      rw [instant] at ranges
      cases ranges
  | overTime named =>
      rw [isRangeFunction_append_overTimeEnding] at instant
      cases instant
  | instant => rfl
  | other _ function =>
      rw [operator] at function
      cases function

theorem Findings.Reads.lasting (reads : findings.Reads translator question) :
    Lasting findings.window := by
  intro span named
  have read := reads.window_eq
  unfold window? at read
  split at read
  · rw [← Except.ok.inj read] at named
    cases named
  · split at read
    · next found outcome =>
        rw [← Except.ok.inj read] at named
        cases named
        exact TimeSpan.isZero_of_read outcome
    · cases read

theorem Framed.lasting {proposal : Proposal} (framed : Framed findings proposal window)
    (stated : Lasting findings.window) : Lasting window := by
  intro span named
  cases framed with
  | stated names =>
      cases named
      exact stated _ names
  | proposed _ _ _ read =>
      cases named
      exact TimeSpan.isZero_of_read read
  | unframed => cases named

/-- Where the window of a context comes from: that of a known metric is the one that the question
names, another one may be proposed. -/
inductive Sourced (findings : Findings) : ContextSource → Option TimeSpan → Prop where
  | rules : Sourced findings .rules findings.window
  | fallback {proposal : Proposal} {window : Option TimeSpan}
      (framed : Framed findings proposal window) : Sourced findings .fallback window

/-- Whatever its aggregation and its window come from, an extraction fits them to each other. -/
theorem exists_sourced (plays : (translator.extract question).run.Plays transcript (.ok context)) :
    ∃ findings window aggregation, findings.Reads translator question ∧
      Sourced findings context.source window ∧
        Fits window aggregation (context.aggregation, context.timeRange.span) := by
  obtain ⟨_, resolution, enrichment, findings, resolved, -, -, reads, resolves, enriches⟩ :=
    extract_plays_iff.mp plays
  obtain ⟨rules, rfl⟩ := exists_rules_of_enriched enriches
  cases known : knownMetric? findings.snapshot findings.entities with
  | some metric =>
      obtain ⟨-, made⟩ := (resolved_plays_iff_of_known known).mp resolves
      have fits := fits_withWindow (byRule (stated question findings) metric) findings.window
      rw [← made] at fits
      have source : resolved.source = .rules := by rw [made]; rfl
      exact ⟨findings, _, _, reads, source ▸ .rules, fits⟩
  | none =>
      obtain ⟨reply, proposal, window, -, -, chosen, made⟩ :=
        (resolved_plays_iff_of_unknown known).mp resolves
      have fits := fits_withWindow (byProposal (stated question findings) proposal) window
      rw [← made] at fits
      have source : resolved.source = .fallback := by rw [made]; rfl
      exact ⟨findings, _, _, reads, source ▸ .fallback (framed_of_chosenWindow chosen), fits⟩

theorem exists_fits (plays : (translator.extract question).run.Plays transcript (.ok context)) :
    ∃ window aggregation, Lasting window ∧
      Fits window aggregation (context.aggregation, context.timeRange.span) := by
  obtain ⟨findings, window, aggregation, reads, sourced, fits⟩ := exists_sourced plays
  refine ⟨window, aggregation, ?_, fits⟩
  generalize context.source = source at sourced
  cases sourced with
  | rules => exact reads.lasting
  | fallback framed => exact framed.lasting reads.lasting

/-- A range function in a context has a span with a length, and its range is shown in the query if
there is one; an operator has no span, and shows no range. No function is both. -/
theorem vector_typed (plays : (translator.extract question).run.Plays transcript (.ok context)) :
    (isRangeFunction context.aggregation = true →
        0 < context.timeRange.span.nanoseconds ∧
          (ShowsRange context ↔ context.hasMetric = true)) ∧
      (isAggregation context.aggregation = true →
        context.timeRange.span = .zero ∧ ¬ ShowsRange context) ∧
      ∀ name, ¬ (isRangeFunction name = true ∧ isAggregation name = true) := by
  obtain ⟨window, aggregation, lasting, fits⟩ := exists_fits plays
  refine ⟨fun ranges => ?_, fun operator => ?_, ?_⟩
  · have long := fits.isZero_eq_false lasting ranges
    refine ⟨Nat.pos_of_ne_zero (beq_eq_false_iff_ne.mp long), ?_⟩
    rw [showsRange_iff, and_iff_left long]
  · have zero := fits.eq_zero operator
    refine ⟨zero, fun shown => ?_⟩
    have long := (showsRange_iff.mp shown).2
    rw [zero] at long
    cases long
  · rintro name ⟨ranges, operator⟩
    rw [isRangeFunction_of_isAggregation operator] at ranges
    cases ranges

/-- What is found in a question that names nothing known. -/
def vagueFindings : Findings where
  wording := "errors"
  snapshot := .initial
  intent := Intent.ofText "errors"
  entities := entitiesOf "errors"
  window := none
  templates := []

/-- A question that names nothing known takes metric, window and aggregation from a reply. -/
theorem exists_vague_fitted (reply : String) (metric timeRange aggregation : Option String)
    (window : Option TimeSpan)
    (proposes : ((Proposal.ofReply reply).toOption.map fun proposal =>
      (proposal.metric, proposal.timeRange, proposal.aggregation)) =
        some (metric, timeRange, aggregation))
    (chosen : ∀ proposal : Proposal, proposal.timeRange = timeRange →
      proposal.window? = .ok window) :
    ∃ context, (plainTranslator.extract "errors").run.Plays
        [.refreshed (.kept .initial), .answered (.complete vagueFindings.prompt) (.ok reply)]
        (.ok context) ∧
      context.mainMetric = Text.trimString (metric.getD "") ∧
        (context.aggregation, context.timeRange.span) =
          fitted (Text.trimString (aggregation.getD "")) window := by
  cases outcome : Proposal.ofReply reply with
  | error fault =>
      rw [outcome] at proposes
      cases proposes
  | ok proposal =>
      rw [outcome] at proposes
      cases proposes
      have reads : vagueFindings.Reads plainTranslator "errors" := ⟨rfl, rfl, rfl, rfl, rfl⟩
      have resolves : (resolved "errors" vagueFindings).run.Plays
          [.answered (.complete vagueFindings.prompt) (.ok reply)] (.ok _) :=
        (resolved_plays_iff_of_unknown (by decide)).mpr
          ⟨reply, proposal, window, rfl, outcome, chosen proposal rfl, rfl⟩
      have plays := extract_plays_iff.mpr
        ⟨.kept .initial, _, [], vagueFindings, _, rfl, rfl, reads, resolves, .done⟩
      refine ⟨_, plays, ?_, ?_⟩
      · simp only [withKnownRules, withWindow, byProposal]
      · simp only [withKnownRules, withWindow, byProposal, TimeRange.ofSpan]

theorem exists_vague_extraction (reply : String) (metric timeRange aggregation : Option String)
    (window : Option TimeSpan)
    (proposes : ((Proposal.ofReply reply).toOption.map fun proposal =>
      (proposal.metric, proposal.timeRange, proposal.aggregation)) =
        some (metric, timeRange, aggregation))
    (chosen : ∀ proposal : Proposal, proposal.timeRange = timeRange →
      proposal.window? = .ok window) :
    ∃ context, (plainTranslator.extract "errors").run.Plays
        [.refreshed (.kept .initial), .answered (.complete vagueFindings.prompt) (.ok reply)]
        (.ok context) ∧
      context.mainMetric = Text.trimString (metric.getD "") ∧
        context.aggregation = (fitted (Text.trimString (aggregation.getD "")) window).1 := by
  obtain ⟨context, plays, named, fits⟩ :=
    exists_vague_fitted reply metric timeRange aggregation window proposes chosen
  exact ⟨context, plays, named, congrArg Prod.fst fits⟩

/-- A reply that proposes an operator with a window of two units. -/
def summingReply : String :=
  "\x7b\"metric\": \"up\", \"timeRange\": \"1h30m\", \"aggregation\": \" sum \"\x7d"

/-- The operator becomes a function over time, and its range is shown. -/
theorem vector_typed_overTime :
    ∃ context, (plainTranslator.extract "errors").run.Plays
        [.refreshed (.kept .initial),
          .answered (.complete vagueFindings.prompt) (.ok summingReply)] (.ok context) ∧
      context.aggregation = "sum_over_time" ∧ 0 < context.timeRange.span.nanoseconds ∧
        ShowsRange context := by
  obtain ⟨context, plays, metric, applied⟩ := exists_vague_extraction summingReply (some "up")
    (some "1h30m") (some " sum ") (some (.ofSeconds 5400)) (by decide +kernel) (by
      intro proposal named
      unfold Proposal.window?
      rw [named]
      rfl)
  have summed : context.aggregation = "sum_over_time" := applied
  have named : context.hasMetric = true := by
    unfold Context.hasMetric
    rw [metric]
    rfl
  obtain ⟨ranged, -, -⟩ := vector_typed plays
  obtain ⟨long, shows⟩ := ranged (by rw [summed]; decide)
  exact ⟨context, plays, summed, long, shows.mpr named⟩

/-- A reply that proposes a range function of no metric. -/
def metriclessReply : String := "\x7b\"aggregation\": \"rate\"\x7d"

/-- A range function of no metric has a window, but shows no range. -/
theorem exists_unshown_range :
    ∃ context, (plainTranslator.extract "errors").run.Plays
        [.refreshed (.kept .initial),
          .answered (.complete vagueFindings.prompt) (.ok metriclessReply)] (.ok context) ∧
      isRangeFunction context.aggregation = true ∧ (build context).query = "" ∧
        ¬ ShowsRange context := by
  obtain ⟨context, plays, metric, applied⟩ := exists_vague_extraction metriclessReply none none
    (some "rate") none (by decide +kernel) (by
      intro proposal unnamed
      unfold Proposal.window?
      rw [unnamed]
      rfl)
  have rated : context.aggregation = "rate" := applied
  have blank : context.hasMetric = false := by
    unfold Context.hasMetric
    rw [metric]
    rfl
  refine ⟨context, plays, by rw [rated]; decide, build_query_eq_empty_iff.mpr blank, ?_⟩
  intro shown
  rw [(showsRange_iff.mp shown).1] at blank
  cases blank

end Extraction

end PromScribe
