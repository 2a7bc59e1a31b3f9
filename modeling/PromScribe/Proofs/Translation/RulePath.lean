import PromScribe.Proofs.Query.RuleQuery
import PromScribe.Proofs.Question.RuleEntities
import PromScribe.Proofs.Question.RuleIntent
import PromScribe.Proofs.Translation.Breakdown
import PromScribe.Proofs.Translation.Course
import PromScribe.Proofs.Translation.Failure
import PromScribe.Proofs.Translation.KnownMetric

/-!
# Questions that rules answer

A question for an operation of a known metric is converted without a proposal, and the query is the
one that it asks for: canonical wording, intent, entities, window and assembly agree on each of its
words.
-/

/-!
## Conversions that succeed

A conversion succeeds just if its context is extracted, the backend accepts the query, and the
caller waits for the explanation.
-/

namespace PromScribe.Translator

variable {translator : Translator} {question : String} {transcript : Transcript}
variable {context : Context} {conversion : Conversion}

/-- The waits for the verdict on the query and for its explanation. -/
def endingWaits (context : Context) (data : QueryData)
    (narration : Except CollaboratorFault String) : Transcript :=
  [.answered (.query (Query.build context).query none) (.ok data),
    .answered (.complete (Prompt.explanation context (Query.build context).query)) narration]

/-- The conversion of a context whose query the backend accepts. -/
def accepted (context : Context) (explanation : String) : Conversion :=
  let built := Query.build context
  .ofParts context built ⟨true, Verdict.warningsFor built.query, none⟩ explanation

/-- A conversion that succeeds is one of an extracted context with a metric. -/
theorem convert_plays_ok_iff :
    (translator.convert question).run.Plays transcript (.ok conversion) ↔
      ∃ extraction context data narration explanation,
        transcript = extraction ++ endingWaits context data narration ∧
          (translator.extract question).run.Plays extraction (.ok context) ∧
            context.hasMetric = true ∧
              Explanation.ofOutcome (Query.build context).query narration = .ok explanation ∧
                conversion = accepted context explanation := by
  simp only [convert, Attempt.plays_bind_ok_iff, Attempt.plays_ofExcept_ok_iff,
    Attempt.plays_ofWork_ok_iff, Attempt.plays_pure_iff, assembled_eq_ok_iff,
    demandValid_eq_ok_iff, Explanation.plays_explain_iff]
  constructor
  · rintro ⟨extraction, _, context, rfl, extracts, _, _, built, rfl, ⟨rfl, rfl, full⟩, _, _, judged,
      rfl, judges, _, _, verdict, rfl, ⟨rfl, rfl, passed⟩, _, _, explanation, rfl,
      ⟨narration, rfl, explained⟩, rfl, converted⟩
    have named : context.hasMetric = true :=
      eq_true_of_ne_false fun blank => full (Query.build_query_eq_empty_iff.mpr blank)
    obtain ⟨data, rfl⟩ := Verdict.accepted_of_judge judges passed
    obtain ⟨outcome, answered, verdict⟩ :=
      (Verdict.plays_judge_iff (Query.isBlankText_build named)).mp judges
    cases answered
    cases verdict
    cases converted
    exact ⟨extraction, context, data, narration, explanation, rfl, extracts, named, explained, rfl⟩
  · rintro ⟨extraction, context, data, narration, explanation, rfl, extracts, named, explained, rfl⟩
    have full : (Query.build context).query ≠ "" := fun empty => by
      rw [Query.build_query_eq_empty_iff.mp empty] at named
      cases named
    have judges := (Verdict.plays_judge_iff (Query.isBlankText_build named)).mpr
      ⟨.ok data, rfl, rfl⟩
    exact ⟨extraction, _, context, rfl, extracts, [], _, _, rfl, ⟨rfl, rfl, full⟩, _, _, _, rfl,
      judges, [], _, _, rfl, ⟨rfl, rfl, rfl⟩, _, [], explanation, rfl, ⟨narration, rfl, explained⟩,
      rfl, rfl⟩

end PromScribe.Translator

namespace PromScribe

open Question Extraction

variable {translator : Translator} {question : RuleQuestion} {snapshot : Snapshot}
variable {refreshing : Refreshing} {transcript waits : Transcript} {context : Context}

namespace Question.RuleQuestion

/-- The metric is known, and neither word in front of it is. -/
structure Known (question : RuleQuestion) (snapshot : Snapshot) : Prop where
  metric : snapshot.contains question.metric = true
  operation : snapshot.contains question.word = false
  preposition : snapshot.contains "of" = false

/-- What is found in the question. -/
def findings (question : RuleQuestion) (translator : Translator) (snapshot : Snapshot) :
    Findings where
  wording := question.canonicalForm
  snapshot := snapshot
  intent := Intent.ofText question.canonicalForm
  entities := entitiesOf question.canonicalForm
  window := question.span?
  templates := translator.knowledge.find question.canonicalForm snapshot.names

/-- The window that is read is that of the question. -/
theorem window?_canonicalForm (valid : question.Valid) :
    window? (Intent.ofText question.canonicalForm) (entitiesOf question.canonicalForm) =
      .ok question.span? := by
  obtain ⟨-, -, unframed⟩ := intent_canonicalForm valid
  have found := find?_time_canonicalForm valid
  unfold window? windowText? span?
  cases named : question.window with
  | none =>
      rw [named] at found
      rw [Option.map_eq_none_iff.mp found, unframed named]
      rfl
  | some window =>
      rw [named] at found
      obtain ⟨entity, chosen, value⟩ := Option.map_eq_some_iff.mp found
      rw [chosen]
      dsimp only
      rw [value, SpelledWindow.read_compact (valid.window window named)]
      rfl

/-- A question that is not too long is read as it is meant. -/
theorem reads_findings (valid : question.Valid)
    (short : Text.byteCount question.text ≤ translator.reader.limit) :
    (question.findings translator snapshot).Reads translator question.text := by
  obtain ⟨accepts, again⟩ := refusal?_eq_none valid short
  refine ⟨?_, ?_, ?_, window?_canonicalForm valid, rfl⟩
  · exact Reader.accepted_eq_ok_iff.mpr ⟨accepts, canonical_text valid⟩
  · exact Reader.accepted_eq_ok_iff.mpr ⟨again, rfl⟩
  · exact Reader.accepted_eq_ok_iff.mpr ⟨again, rfl⟩

/-- The context has by rule what the question names. -/
structure Extracts (question : RuleQuestion) (context : Context) : Prop where
  source : context.source = .rules
  metric : context.mainMetric = question.metric
  labels : context.labels = Keyed.ofList question.labels
  ungrouped : context.groupBy = []
  fitted : (context.aggregation, context.timeRange.span) =
    Extraction.fitted question.operation.name question.span?

theorem Extracts.withRules (extracts : question.Extracts context) (rules : List Rule) :
    question.Extracts { context with rules := rules } :=
  ⟨extracts.source, extracts.metric, extracts.labels, extracts.ungrouped, extracts.fitted⟩

/-- The context of the question before there are rules for further queries. -/
def ruleContext (question : RuleQuestion) (translator : Translator) (snapshot : Snapshot) :
    Context :=
  let findings := question.findings translator snapshot
  withWindow (byRule (stated question.text findings) question.metric) findings.window

/-- The context that is resolved by rule has what the question names. -/
theorem extracts_ruleContext (translator : Translator) (snapshot : Snapshot)
    (valid : question.Valid) : question.Extracts (question.ruleContext translator snapshot) := by
  obtain ⟨operation, ungrouped, -⟩ := intent_canonicalForm valid
  have named : (Intent.ofText question.canonicalForm).operationName = question.operation.name := by
    unfold Intent.operationName
    rw [operation]
    rfl
  have labels : statedLabels (entitiesOf question.canonicalForm) = Keyed.ofList question.labels := by
    unfold statedLabels
    rw [filterMap_labelPair?_canonicalForm valid]
  simp only [ruleContext, withWindow, byRule, stated, findings, Context.ofQuery, named, labels,
    ungrouped]
  exact ⟨rfl, rfl, rfl, rfl, rfl⟩

theorem knownMetric?_findings (valid : question.Valid) (known : question.Known snapshot) :
    knownMetric? (question.findings translator snapshot).snapshot
      (question.findings translator snapshot).entities = some question.metric :=
  knownMetric?_canonicalForm valid known.metric known.operation known.preposition

theorem isBlankText_metric (valid : question.Valid) : Text.isBlankText question.metric = false := by
  obtain ⟨nonempty, letters⟩ := isLabelText_of_isIdentifier valid.metric.1
  unfold Text.isBlankText
  cases split : question.metric.toList with
  | nil => exact absurd split nonempty
  | cons c rest =>
      rw [split] at letters
      simp [isBlank_of_continuesLabel (letters c List.mem_cons_self)]

theorem Extracts.hasMetric (extracts : question.Extracts context) (valid : question.Valid) :
    context.hasMetric = true := by
  unfold Context.hasMetric
  rw [extracts.metric, isBlankText_metric valid]
  rfl

/-- The findings are those of every extraction with the snapshot. -/
theorem eq_findings {found : Findings} (valid : question.Valid)
    (short : Text.byteCount question.text ≤ translator.reader.limit)
    (reads : found.Reads translator question.text) (same : found.snapshot = snapshot) :
    found = question.findings translator snapshot :=
  reads.eq_of_snapshot (reads_findings valid short) same

/-- The only wait of the extraction behind the refresh is, with a graph, the lookup of the metric,
and its context has what the question names. -/
theorem extracts_of_plays (valid : question.Valid)
    (short : Text.byteCount question.text ≤ translator.reader.limit)
    (fresh : refreshing.outcome = .ok snapshot) (known : question.Known snapshot)
    (plays : (translator.extract question.text).run.Plays (.refreshed refreshing :: waits)
      (.ok context)) :
    question.Extracts context ∧
      ∃ lookup, waits = lookupTranscript question.metric lookup ∧
        lookup.isSome = translator.hasGraph := by
  obtain ⟨extracted, same, enriches⟩ := (extract_plays_iff_of_known
    (reads_findings valid short) fresh (knownMetric?_findings valid known)).mp plays
  cases same
  have made := extracts_ruleContext translator snapshot valid
  obtain ⟨rules, rfl⟩ := exists_rules_of_enriched enriches
  obtain ⟨lookup, rfl, asked, -⟩ := enriched_plays_iff.mp enriches
  have named := made.hasMetric valid
  unfold ruleContext at named
  rw [named, Bool.and_true] at asked
  exact ⟨made.withRules rules, lookup, rfl, asked⟩

/-- An extraction with each outcome of the lookup gives such a context. -/
theorem exists_extraction (valid : question.Valid)
    (short : Text.byteCount question.text ≤ translator.reader.limit)
    (fresh : refreshing.outcome = .ok snapshot) (known : question.Known snapshot)
    (lookup : Option (Except CollaboratorFault (List RelatedMetric)))
    (asked : lookup.isSome = translator.hasGraph) :
    ∃ context, question.Extracts context ∧
      (translator.extract question.text).run.Plays
        (.refreshed refreshing :: lookupTranscript question.metric lookup) (.ok context) := by
  have made := extracts_ruleContext translator snapshot valid
  have asks : lookup.isSome =
      (translator.hasGraph && (question.ruleContext translator snapshot).hasMetric) := by
    rw [made.hasMetric valid, Bool.and_true, asked]
  have enriches : (enriched translator (question.findings translator snapshot)
      (question.ruleContext translator snapshot)).Plays (lookupTranscript question.metric lookup) _ :=
    enriched_plays_iff.mpr ⟨lookup, rfl, asks, rfl⟩
  have plays := (extract_plays_iff_of_known (reads_findings valid short) fresh
    (knownMetric?_findings valid known)).mpr ⟨_, rfl, enriches⟩
  obtain ⟨rules, extended⟩ := exists_rules_of_enriched enriches
  refine ⟨_, ?_, plays⟩
  rw [extended]
  exact made.withRules rules

theorem Extracts.promql_eq (extracts : question.Extracts context) (valid : question.Valid) :
    (Query.build context).query = question.promql :=
  build_eq_promql valid extracts.metric extracts.labels extracts.fitted extracts.ungrouped

end Question.RuleQuestion

/-- The backend accepts the query, and the caller waits for completions. -/
def Exchange.Favourable : Exchange → Prop
  | .answered (.query _ _) outcome => ∃ data, outcome = .ok data
  | .answered (.complete _) outcome => outcome ≠ .error .cancelled
  | _ => True

namespace Question.RuleQuestion

/-- Nothing is asked for by a question whose metric is known. -/
theorem not_asks {found : Findings} (valid : question.Valid)
    (short : Text.byteCount question.text ≤ translator.reader.limit)
    (fresh : refreshing.outcome = .ok snapshot) (known : question.Known snapshot) :
    ¬ Asks translator question.text refreshing found := by
  intro asks
  obtain rfl := eq_findings valid short asks.reads (Except.ok.inj (asks.fresh.symm.trans fresh))
  have unknown := knownMetric?_eq_none_iff.mpr asks.unknown
  rw [knownMetric?_findings valid known] at unknown
  cases unknown

/-- A conversion of the question does not break down where the backend accepts the query and the
caller waits. -/
theorem not_breakdown {status : Nat} {failure : ApplicationFault} (valid : question.Valid)
    (short : Text.byteCount question.text ≤ translator.reader.limit)
    (fresh : refreshing.outcome = .ok snapshot) (known : question.Known snapshot)
    (favourable : ∀ exchange ∈ waits, exchange.Favourable) :
    ¬ Breakdown translator question.text (.refreshed refreshing :: waits) status failure := by
  have all : ∀ exchange ∈ .refreshed refreshing :: waits, exchange.Favourable := by
    intro exchange mem
    rcases List.mem_cons.mp mem with rfl | later
    · trivial
    · exact favourable exchange later
  have accepts := (refusal?_eq_none valid short).1
  have reads : (question.findings translator snapshot).Reads translator question.text :=
    reads_findings valid short
  intro breakdown
  -- The refresh succeeds and the question is understood, so only a later wait could fail.
  generalize split : Exchange.refreshed refreshing :: waits = transcript at breakdown all
  cases breakdown with
  | refused refuses => cases split
  | outdated _ fails _ =>
      cases split
      cases fresh.symm.trans fails
  | misread _ _ misread => exact reads.not_misread misread
  | unproposed asks _ =>
      cases split
      exact not_asks valid short fresh known asks
  | useless asks _ =>
      cases split
      exact not_asks valid short fresh known asks
  | unbuilt extracts blank =>
      subst split
      have named := (extracts_of_plays valid short fresh known extracts).1.hasMetric valid
      rw [blank] at named
      cases named
  | rejected _ _ _ =>
      obtain ⟨data, passed⟩ := all _ (List.mem_append_right _ List.mem_cons_self)
      cases passed
  | refreshCancelled _ left =>
      cases split
      cases fresh.symm.trans left
  | proposalCancelled asks =>
      cases split
      exact not_asks valid short fresh known asks
  | judgementCancelled _ _ =>
      obtain ⟨data, passed⟩ := all _ (List.mem_append_right _ List.mem_cons_self)
      cases passed
  | explanationCancelled _ _ =>
      have waited := all _ (List.mem_append_right _ (List.mem_cons_of_mem _ List.mem_cons_self))
      exact waited rfl

end Question.RuleQuestion

open Question.RuleQuestion

/-- A question for an operation of a known metric is answered by rule. Where the backend accepts the
query and the caller waits, every conversion succeeds with just the query that the question asks
for, and the only completion is the explanation of that query; and there is such a conversion
whatever the outcome of the lookup, the reply of the backend, and the explanation. The range of the
query is read as the window of the question. -/
theorem rule_path (valid : question.Valid)
    (short : Text.byteCount question.text ≤ translator.reader.limit)
    (fresh : refreshing.outcome = .ok snapshot) (known : question.Known snapshot) :
    (∀ waits outcome, (translator.convert question.text).run.Plays
          (.refreshed refreshing :: waits) outcome →
        (∀ exchange ∈ waits, exchange.Favourable) →
          ∃ conversion context, outcome = .ok conversion ∧ conversion.promql = question.promql ∧
            question.Extracts context ∧
              Transcript.calls waits =
                (if translator.hasGraph then [.related question.metric] else []) ++
                  [.query question.promql none,
                    .complete (Prompt.explanation context question.promql)]) ∧
      (∀ (lookup : Option (Except CollaboratorFault (List RelatedMetric))) (data : QueryData)
        (narration : Except CollaboratorFault String),
          lookup.isSome = translator.hasGraph → narration ≠ .error .cancelled →
            ∃ conversion context,
              (translator.convert question.text).run.Plays
                  (.refreshed refreshing :: (lookupTranscript question.metric lookup ++
                    Translator.endingWaits context data narration)) (.ok conversion) ∧
                conversion.promql = question.promql ∧ question.Extracts context) ∧
      ∀ window ∈ question.window, TimeSpan.read window.span.queryText = .ok window.span := by
  refine ⟨fun waits outcome plays favourable => ?_, fun lookup data narration asked waited => ?_,
    fun window named => SpelledWindow.read_queryText (valid.window window named)⟩
  · cases outcome with
    | error fault =>
        exact absurd (Breakdown.of_convert plays)
          (not_breakdown valid short fresh known favourable)
    | ok conversion =>
        obtain ⟨extraction, context, data, narration, explanation, split, extracts, -, -, rfl⟩ :=
          Translator.convert_plays_ok_iff.mp plays
        obtain ⟨again, resolution, enrichment, -, -, rfl, -⟩ :=
          Extraction.extract_plays_iff.mp extracts
        rw [List.cons_append] at split
        obtain ⟨same, rfl⟩ := List.cons.inj split
        cases same
        obtain ⟨made, lookup, looked, asked⟩ := extracts_of_plays valid short fresh known extracts
        have promql := made.promql_eq valid
        refine ⟨_, context, rfl, promql, made, ?_⟩
        have ending : Transcript.calls (Translator.endingWaits context data narration) =
            [.query question.promql none, .complete (Prompt.explanation context question.promql)] := by
          rw [← promql]
          rfl
        have lookups : Transcript.calls (lookupTranscript question.metric lookup) =
            if translator.hasGraph then [.related question.metric] else [] := by
          rw [calls_lookupTranscript, ← asked]
          cases lookup <;> rfl
        rw [looked, Transcript.calls_append, lookups, ending]
  · obtain ⟨context, made, extracts⟩ := exists_extraction valid short fresh known lookup asked
    have explained : ∃ explanation,
        Explanation.ofOutcome (Query.build context).query narration = .ok explanation := by
      cases outcome : Explanation.ofOutcome (Query.build context).query narration with
      | ok explanation => exact ⟨explanation, rfl⟩
      | error fault => exact absurd (Explanation.ofOutcome_eq_error_iff.mp outcome).1 waited
    obtain ⟨explanation, explained⟩ := explained
    have plays := Translator.convert_plays_ok_iff.mpr ⟨_, context, data, narration, explanation, rfl,
      extracts, made.hasMetric valid, explained, rfl⟩
    exact ⟨_, context, plays, made.promql_eq valid, made⟩

/-- A question with two labels and a window. -/
def requestsQuestion : RuleQuestion :=
  ⟨"rate", .rate, "requests", [("job", "api"), ("code", "500")], some ⟨"10", "minutes", 60⟩⟩

/-- A catalog with the metric of the question. -/
def requestsSnapshot : Snapshot :=
  ⟨Keyed.ofList [("requests", Snapshot.newSchema "requests" ⟨0, 0⟩)], some 0⟩

theorem promql_requestsQuestion :
    requestsQuestion.promql = "rate(requests\x7bcode=\"500\",job=\"api\"\x7d[10m])" := by
  have sorted : Keyed.sortedByKey requestsQuestion.labels = [("code", "500"), ("job", "api")] := by
    rw [← Keyed.entries_ofList (by decide)]
    rfl
  have range : requestsQuestion.range = "[10m]" := by decide +kernel
  have matchers : requestsQuestion.matchers = "\x7bcode=\"500\",job=\"api\"\x7d" := by
    unfold matchers
    rw [sorted, if_neg (by decide)]
    rfl
  unfold promql
  rw [matchers, range]
  rfl

/-- The labels of the query are in the order of their keys, and its range is the window. -/
theorem rule_path_windowed :
    requestsQuestion.text = "rate of requests with job=api with code=500 over 10 minutes" ∧
      ∃ conversion context,
        (graphTranslator.convert requestsQuestion.text).run.Plays
          (.refreshed (.kept requestsSnapshot) ::
            (lookupTranscript requestsQuestion.metric (some (.ok [])) ++
              Translator.endingWaits context .empty (.ok "requests"))) (.ok conversion) ∧
          conversion.promql = "rate(requests\x7bcode=\"500\",job=\"api\"\x7d[10m])" := by
  have worded :
      requestsQuestion.text = "rate of requests with job=api with code=500 over 10 minutes" := rfl
  refine ⟨worded, ?_⟩
  have valid : requestsQuestion.Valid := by decide
  have short : Text.byteCount requestsQuestion.text ≤ graphTranslator.reader.limit := by
    rw [worded]
    decide
  have known : requestsQuestion.Known requestsSnapshot := ⟨rfl, rfl, rfl⟩
  have fresh : (Refreshing.kept requestsSnapshot).outcome = .ok requestsSnapshot := rfl
  obtain ⟨-, converts, -⟩ := rule_path valid short fresh known
  obtain ⟨conversion, context, plays, promql, -⟩ :=
    converts (some (.ok [])) .empty (.ok "requests") rfl (by simp)
  exact ⟨conversion, context, plays, promql.trans promql_requestsQuestion⟩

end PromScribe
