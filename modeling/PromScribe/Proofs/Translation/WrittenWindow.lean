import PromScribe.Proofs.Question.RateQuestion
import PromScribe.Proofs.Translation.KnownMetric

/-!
# Windows in query form

A question may write its window as queries do. It is understood where it is one number with a unit.
Where it has several units no window is found in the question, and the default one is used.
-/

namespace PromScribe

open Question Extraction

variable {translator : Translator} {question : RateQuestion} {snapshot : Snapshot}
variable {refreshing : Refreshing} {waits : Transcript}
variable {context : Context} {outcome : Except TranslationFault Context}

namespace Question.RateQuestion

/-- What is found in the question. -/
def findings (question : RateQuestion) (translator : Translator) (snapshot : Snapshot) :
    Findings where
  wording := question.text
  snapshot := snapshot
  intent := Intent.ofText question.text
  entities := entitiesOf question.text
  window := question.span?
  templates := translator.knowledge.find question.text snapshot.names

/-- The metric is known, and neither word in front of it is. -/
structure Known (question : RateQuestion) (snapshot : Snapshot) : Prop where
  metric : snapshot.contains question.metric = true
  operation : snapshot.contains "rate" = false
  preposition : snapshot.contains "of" = false

theorem refusal?_text {reader : Reader} (short : Text.byteCount question.text ≤ reader.limit) :
    reader.refusal? question.text = none := by
  have full : Text.isBlankText question.text = false := by
    unfold Text.isBlankText
    rw [toList_text]
    rfl
  unfold Reader.refusal?
  rw [full]
  simp [Nat.not_lt.mpr short]

theorem reads_findings (valid : question.Valid)
    (short : Text.byteCount question.text ≤ translator.reader.limit) :
    (question.findings translator snapshot).Reads translator question.text := by
  have accepts := refusal?_text short
  refine ⟨?_, ?_, ?_, window?_text valid, rfl⟩
  · exact Reader.accepted_eq_ok_iff.mpr ⟨accepts, canonical_text valid⟩
  · exact Reader.accepted_eq_ok_iff.mpr ⟨accepts, rfl⟩
  · exact Reader.accepted_eq_ok_iff.mpr ⟨accepts, rfl⟩

/-- The span that is used. -/
def usedSpan (question : RateQuestion) : TimeSpan := question.span?.getD defaultWindow

/-- The context has the metric, and the span that is used. -/
structure Extracts (question : RateQuestion) (context : Context) : Prop where
  metric : context.mainMetric = question.metric
  timeRange : context.timeRange = .ofSpan question.usedSpan

theorem Extracts.withRules (extracts : question.Extracts context) (rules : List Rule) :
    question.Extracts { context with rules := rules } :=
  ⟨extracts.metric, extracts.timeRange⟩

/-- The context of the question before there are rules for further queries. -/
def ruleContext (question : RateQuestion) (translator : Translator) (snapshot : Snapshot) :
    Context :=
  let findings := question.findings translator snapshot
  withWindow (byRule (stated question.text findings) question.metric) findings.window

theorem extracts_ruleContext (translator : Translator) (snapshot : Snapshot)
    (valid : question.Valid) : question.Extracts (question.ruleContext translator snapshot) := by
  have named : (Intent.ofText question.text).operationName = "rate" := by
    unfold Intent.operationName
    rw [operation_text valid]
    rfl
  have fits : fitted "rate" question.span? = ("rate", question.usedSpan) := by
    unfold fitted usedSpan
    rw [if_pos (by decide)]
  simp only [ruleContext, withWindow, byRule, stated, findings, named, fits]
  exact ⟨rfl, rfl⟩

theorem knownMetric?_findings (valid : question.Valid) (known : question.Known snapshot) :
    knownMetric? (question.findings translator snapshot).snapshot
      (question.findings translator snapshot).entities = some question.metric :=
  knownMetric?_text valid known.metric known.operation known.preposition

/-- The extraction succeeds, whatever becomes of the wait for the graph. -/
theorem extracts_of_plays (valid : question.Valid)
    (short : Text.byteCount question.text ≤ translator.reader.limit)
    (fresh : refreshing.outcome = .ok snapshot) (known : question.Known snapshot)
    (plays : (translator.extract question.text).run.Plays (.refreshed refreshing :: waits) outcome) :
    ∃ context, outcome = .ok context ∧ question.Extracts context := by
  obtain ⟨extracted, rfl, enriches⟩ := (extract_plays_iff_of_known
    (reads_findings valid short) fresh (knownMetric?_findings valid known)).mp plays
  obtain ⟨rules, rfl⟩ := exists_rules_of_enriched enriches
  exact ⟨_, rfl, (extracts_ruleContext translator snapshot valid).withRules rules⟩

theorem exists_plays (valid : question.Valid)
    (short : Text.byteCount question.text ≤ translator.reader.limit)
    (fresh : refreshing.outcome = .ok snapshot) (known : question.Known snapshot) :
    ∃ waits outcome,
      (translator.extract question.text).run.Plays (.refreshed refreshing :: waits) outcome := by
  -- The graph is asked where there is one; its answer does not matter.
  have lookups (asked : Bool) :
      ∃ lookup : Option (Except CollaboratorFault (List RelatedMetric)), lookup.isSome = asked := by
    cases asked with
    | false => exact ⟨none, rfl⟩
    | true => exact ⟨some (.ok []), rfl⟩
  obtain ⟨lookup, asks⟩ :=
    lookups (translator.hasGraph && (question.ruleContext translator snapshot).hasMetric)
  have enriches : (enriched translator (question.findings translator snapshot)
      (question.ruleContext translator snapshot)).Plays
        (lookupTranscript (question.ruleContext translator snapshot).mainMetric lookup) _ :=
    enriched_plays_iff.mpr ⟨lookup, rfl, asks, rfl⟩
  exact ⟨_, _, (extract_plays_iff_of_known (reads_findings valid short) fresh
    (knownMetric?_findings valid known)).mpr ⟨_, rfl, enriches⟩⟩

theorem usedSpan_eq (question : RateQuestion) : question.usedSpan =
    if NamesTime question.span.queryText then .ofMillis question.span.millis else defaultWindow := by
  unfold usedSpan span?
  split
  · rfl
  · rfl

/-- The span of the question is used just where it is one number with a unit. -/
theorem usedSpan_eq_iff : question.usedSpan = .ofMillis question.span.millis ↔
    NamesTime question.span.queryText := by
  rw [usedSpan_eq]
  split
  · next single => simp [single]
  · next compound =>
      simp only [compound, iff_false]
      intro same
      -- The default window is one number with a unit.
      have millis : question.span.millis = 300000 := by
        have nanoseconds := congrArg TimeSpan.nanoseconds same
        simp only [defaultWindow, TimeSpan.ofSeconds, TimeSpan.ofMillis] at nanoseconds
        omega
      have written : question.span.queryText = defaultWindow.queryText := by
        unfold TimeSpan.queryText TimeSpan.queryChars
        rw [millis]
        rfl
      rw [written] at compound
      exact compound (by decide)

end Question.RateQuestion

open Question.RateQuestion

/-- A window in query form is used as it is written, to the millisecond, just where it is one number
with a unit; where it has several units the default window is used without a word. -/
theorem written_window (valid : question.Valid)
    (short : Text.byteCount question.text ≤ translator.reader.limit)
    (fresh : refreshing.outcome = .ok snapshot) (known : question.Known snapshot) :
    (∀ waits outcome,
      (translator.extract question.text).run.Plays (.refreshed refreshing :: waits) outcome →
        ∃ context, outcome = .ok context ∧ context.mainMetric = question.metric ∧
          context.timeRange = .ofSpan (if NamesTime question.span.queryText then
            .ofMillis question.span.millis else defaultWindow) ∧
          (context.timeRange.span = .ofMillis question.span.millis ↔
            NamesTime question.span.queryText)) ∧
      ∃ waits outcome,
        (translator.extract question.text).run.Plays (.refreshed refreshing :: waits) outcome := by
  refine ⟨fun waits outcome plays => ?_, exists_plays valid short fresh known⟩
  obtain ⟨context, rfl, metric, timeRange⟩ := extracts_of_plays valid short fresh known plays
  refine ⟨context, rfl, metric, ?_, ?_⟩
  · rw [timeRange, usedSpan_eq]
  · rw [timeRange]
    exact usedSpan_eq_iff

/-- A catalog with one metric. -/
def oneMetric (metric : String) : Snapshot :=
  ⟨Keyed.ofList [(metric, Snapshot.newSchema metric ⟨0, 0⟩)], some 0⟩

/-- Two hours are one number with a unit. -/
def twoHours : RateQuestion := ⟨"requests", .ofSeconds 7200⟩

theorem written_window_twoHours :
    twoHours.text = "rate of requests over 2h" ∧ ∃ waits context,
      (plainTranslator.extract twoHours.text).run.Plays
          (.refreshed (.kept (oneMetric "requests")) :: waits) (.ok context) ∧
        context.timeRange = .ofSpan (.ofSeconds 7200) := by
  have worded : twoHours.text = "rate of requests over 2h" := by decide +kernel
  refine ⟨worded, ?_⟩
  have valid : twoHours.Valid := ⟨by decide, by decide, by unfold TimeSpan.Representable; decide⟩
  have short : Text.byteCount twoHours.text ≤ plainTranslator.reader.limit := by
    rw [worded]
    decide
  have known : twoHours.Known (oneMetric "requests") := ⟨rfl, rfl, rfl⟩
  have fresh : (Refreshing.kept (oneMetric "requests")).outcome = .ok (oneMetric "requests") := rfl
  have single : NamesTime twoHours.span.queryText := by decide +kernel
  obtain ⟨every, waits, outcome, plays⟩ := written_window valid short fresh known
  obtain ⟨context, rfl, -, timeRange, -⟩ := every waits outcome plays
  rw [if_pos single] at timeRange
  exact ⟨waits, context, plays, timeRange⟩

/-- One hour and a half has two units. -/
def ninetyMinutes : RateQuestion := ⟨"requests", .ofSeconds 5400⟩

/-- It is asked for, and five minutes are used. -/
theorem exists_unread_window :
    ninetyMinutes.text = "rate of requests over 1h30m" ∧ ∃ waits context,
      (plainTranslator.extract ninetyMinutes.text).run.Plays
          (.refreshed (.kept (oneMetric "requests")) :: waits) (.ok context) ∧
        context.timeRange.span = .ofSeconds 300 ∧
          context.timeRange.span ≠ ninetyMinutes.span := by
  have worded : ninetyMinutes.text = "rate of requests over 1h30m" := by decide +kernel
  refine ⟨worded, ?_⟩
  have valid : ninetyMinutes.Valid := ⟨by decide, by decide, by unfold TimeSpan.Representable; decide⟩
  have short : Text.byteCount ninetyMinutes.text ≤ plainTranslator.reader.limit := by
    rw [worded]
    decide
  have known : ninetyMinutes.Known (oneMetric "requests") := ⟨rfl, rfl, rfl⟩
  have fresh : (Refreshing.kept (oneMetric "requests")).outcome = .ok (oneMetric "requests") := rfl
  have compound : ¬ NamesTime ninetyMinutes.span.queryText := by decide +kernel
  obtain ⟨waits, outcome, plays⟩ := exists_plays valid short fresh known
  obtain ⟨context, rfl, -, timeRange⟩ := extracts_of_plays valid short fresh known plays
  rw [usedSpan_eq, if_neg compound] at timeRange
  refine ⟨waits, context, plays, ?_, ?_⟩
  · rw [timeRange]
    rfl
  · rw [timeRange]
    decide

end PromScribe
