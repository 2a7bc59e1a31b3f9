import PromScribe.Proofs.Query.Verdict
import PromScribe.Proofs.Rehearsal.Transcript
import PromScribe.Proofs.Translation.Extraction
import PromScribe.Translation.Conversion

/-!
# The course of a conversion

A conversion that gives a query refreshes, asks for a proposal only if it must, looks for related
metrics, has its query judged, and has it explained. Nothing is left out, repeated or moved.
-/

namespace PromScribe

variable {translator : Translator} {question : String} {transcript : Transcript}

/-- The text and the outcome of a query that is no discovery. -/
def Exchange.query? : Exchange → Option (String × Except CollaboratorFault QueryData)
  | .answered (.query promql _) outcome => some (promql, outcome)
  | _ => none

/-- The queries of the transcript that are no discoveries, in order. -/
def Transcript.queries (transcript : Transcript) :
    List (String × Except CollaboratorFault QueryData) :=
  transcript.filterMap Exchange.query?

/-- An explanation takes one completion. -/
theorem Explanation.plays_explain_iff {context : Context} {promql : String}
    {explained : Except TranslationFault String} :
    (explain context promql).Plays transcript explained ↔
      ∃ narration : (Call.complete (Prompt.explanation context promql)).Outcome,
        transcript = [.answered (.complete (Prompt.explanation context promql)) narration] ∧
          ofOutcome promql narration = explained := by
  simp only [explain, Work.plays_call_iff, Work.plays_done_iff]
  constructor
  · rintro ⟨narration, _, rfl, rfl, explained⟩
    exact ⟨narration, rfl, explained⟩
  · rintro ⟨narration, rfl, explained⟩
    exact ⟨narration, [], rfl, rfl, explained⟩

namespace Translator

/-- A query is assembled unless it is empty. -/
theorem assembled_eq_ok_iff {context : Context} {built : Query.Built} :
    assembled context = .ok built ↔ built = Query.build context ∧ built.query ≠ "" := by
  unfold assembled
  dsimp only
  split
  · next empty =>
      constructor
      · intro made
        cases made
      · rintro ⟨rfl, full⟩
        exact absurd empty full
  · next full =>
      constructor
      · intro made
        cases made
        exact ⟨rfl, full⟩
      · rintro ⟨rfl, -⟩
        rfl

theorem demandValid_eq_ok_iff {judged verdict : Verdict} :
    demandValid judged = .ok verdict ↔ judged = verdict ∧ judged.valid = true := by
  unfold demandValid
  split
  · next valid => simp [valid]
  · next invalid => simp [invalid]

end Translator

/-- What collaborators answered over a conversion, and what was made of it. -/
structure Course where
  refreshing : Refreshing
  findings : Extraction.Findings
  /-- The reply to the request for a proposal, if there was one. -/
  reply : Option String
  /-- The outcome of the lookup of related metrics, if there was one. -/
  lookup : Option (Except CollaboratorFault (List RelatedMetric))
  context : Context
  /-- What the backend answered the query with. -/
  data : QueryData
  narration : Except CollaboratorFault String

namespace Course

/-- The query of the course. -/
def promql (course : Course) : String :=
  (Query.build course.context).query

/-- The request for a proposal, if there was one. -/
def resolution (course : Course) : Transcript :=
  course.reply.toList.map fun reply => .answered (.complete course.findings.prompt) (.ok reply)

/-- The waits until the context is there. -/
def extraction (course : Course) : Transcript :=
  .refreshed course.refreshing ::
    (course.resolution ++ Extraction.lookupTranscript course.context.mainMetric course.lookup)

/-- The waits until there is an explained query. -/
def waits (course : Course) : Transcript :=
  course.extraction ++
    [.answered (.query course.promql none) (.ok course.data),
      .answered (.complete (Prompt.explanation course.context course.promql)) course.narration]

/-- The course is one of the translator for the question. -/
structure Answers (course : Course) (translator : Translator) (question : String) : Prop where
  reads : course.findings.Reads translator question
  refreshes : course.refreshing.outcome = .ok course.findings.snapshot
  extracts : (translator.extract question).run.Plays course.extraction (.ok course.context)
  /-- A proposal is asked for just if no metric that the question names is known. -/
  asks : course.reply.isSome ↔ ∀ entity ∈ course.findings.entities,
    entity.kind = .metric → course.findings.snapshot.contains entity.value = false

/-- The only query of the course is its own. -/
theorem queries_waits (course : Course) :
    course.waits.queries = [(course.promql, .ok course.data)] := by
  have resolution : course.resolution.queries = [] := by
    unfold resolution
    cases course.reply <;> rfl
  have enrichment :
      (Extraction.lookupTranscript course.context.mainMetric course.lookup).queries = [] := by
    unfold Extraction.lookupTranscript
    cases course.lookup <;> rfl
  unfold Transcript.queries at *
  simp only [waits, extraction, List.filterMap_append, List.filterMap_cons, resolution, enrichment]
  rfl

/-- The calls of the course, in order. -/
theorem calls_waits (course : Course) :
    course.waits.calls =
      course.refreshing.calls ++
        (course.reply.toList.map fun _ => .complete course.findings.prompt) ++
          (course.lookup.toList.map fun _ => .related course.context.mainMetric) ++
            [.query course.promql none,
              .complete (Prompt.explanation course.context course.promql)] := by
  have resolution : course.resolution.calls =
      course.reply.toList.map fun _ => .complete course.findings.prompt := by
    unfold resolution
    cases course.reply <;> rfl
  have enrichment : (Extraction.lookupTranscript course.context.mainMetric course.lookup).calls =
      course.lookup.toList.map fun _ => .related course.context.mainMetric :=
    Extraction.calls_lookupTranscript _ _
  simp [waits, extraction, resolution, enrichment, Exchange.calls]

end Course

/-- The extraction of a context has its findings, its request for a proposal and its lookup. -/
theorem Translator.exists_extraction {context : Context}
    (plays : (translator.extract question).run.Plays transcript (.ok context)) :
    ∃ (refreshing : Refreshing) (findings : Extraction.Findings) (reply : Option String)
      (lookup : Option (Except CollaboratorFault (List RelatedMetric))),
      ∀ data narration,
        let course : Course := ⟨refreshing, findings, reply, lookup, context, data, narration⟩
        course.Answers translator question ∧ transcript = course.extraction := by
  obtain ⟨refreshing, resolution, enrichment, findings, resolved, rfl, fresh, reads, resolves,
    enriches⟩ := Extraction.extract_plays_iff.mp plays
  obtain ⟨lookup, rfl, -, -⟩ := Extraction.enriched_plays_iff.mp enriches
  obtain ⟨rules, rfl⟩ := Extraction.exists_rules_of_enriched enriches
  cases known : Extraction.knownMetric? findings.snapshot findings.entities with
  | some metric =>
      obtain ⟨rfl, -⟩ := (Extraction.resolved_plays_iff_of_known known).mp resolves
      refine ⟨refreshing, findings, none, lookup, fun data narration =>
        ⟨⟨reads, fresh, plays, ?_⟩, rfl⟩⟩
      rw [← Extraction.knownMetric?_eq_none_iff, known]
      simp
  | none =>
      obtain ⟨reply, -, -, rfl, -⟩ := (Extraction.resolved_plays_iff_of_unknown known).mp resolves
      refine ⟨refreshing, findings, some reply, lookup, fun data narration =>
        ⟨⟨reads, fresh, plays, ?_⟩, rfl⟩⟩
      rw [← Extraction.knownMetric?_eq_none_iff, known]
      simp

/-- A conversion that gives a query keeps to a course: just one query is run, it is the one that is
given, it is not empty, and the backend accepted it. -/
theorem conversion_validated {conversion : Conversion}
    (plays : (translator.convert question).run.Plays transcript (.ok conversion)) :
    ∃ course : Course, course.Answers translator question ∧ transcript = course.waits ∧
      conversion.promql = (Query.build course.context).query ∧ conversion.promql ≠ "" ∧
        transcript.queries = [(conversion.promql, .ok course.data)] ∧
          transcript.calls =
            course.refreshing.calls ++
              (course.reply.toList.map fun _ => .complete course.findings.prompt) ++
                (course.lookup.toList.map fun _ => .related course.context.mainMetric) ++
                  [.query conversion.promql none,
                    .complete (Prompt.explanation course.context conversion.promql)] ∧
            course.refreshing.calls.length ≤ 1 := by
  unfold Translator.convert at plays
  simp only [Attempt.plays_bind_ok_iff, Attempt.plays_ofExcept_ok_iff,
    Attempt.plays_ofWork_ok_iff, Attempt.plays_pure_iff] at plays
  obtain ⟨extraction, _, context, rfl, extracts, _, _, built, rfl, ⟨rfl, assembled⟩, _, _, judged,
    rfl, judges, _, _, verdict, rfl, ⟨rfl, demanded⟩, narrated, _, explanation, rfl, explains, rfl,
    converted⟩ := plays
  obtain ⟨rfl, full⟩ := Translator.assembled_eq_ok_iff.mp assembled
  obtain ⟨rfl, valid⟩ := Translator.demandValid_eq_ok_iff.mp demanded
  obtain ⟨data, rfl⟩ := Verdict.accepted_of_judge judges valid
  obtain ⟨narration, rfl, -⟩ := Explanation.plays_explain_iff.mp explains
  obtain ⟨refreshing, findings, reply, lookup, extracted⟩ := Translator.exists_extraction extracts
  obtain ⟨answers, rfl⟩ := extracted data narration
  cases converted
  let course : Course := ⟨refreshing, findings, reply, lookup, context, data, narration⟩
  refine ⟨course, answers, rfl, rfl, full, course.queries_waits, course.calls_waits,
    course.refreshing.length_calls_le⟩

/-- A translator with a graph and no knowledge. -/
def graphTranslator : Translator := ⟨{}, Keyed.empty, true⟩

open Rehearsal in
/-- A stage where nothing is known, one metric is proposed, and every query is accepted. -/
def proposingStage : Stage where
  clock := 0
  wall := ⟨0, 0⟩
  token := .idle
  catalog := .initial 300
  scripts := ⟨[], [], [], [.answer "\x7b\"metric\": \"up\"\x7d", .answer "told"], []⟩
  calls := []

/-- A conversion with all five calls. -/
theorem conversion_validated_proposed :
    ∃ (after : Rehearsal.Stage) (transcript : Transcript) (course : Course),
      proposingStage.run (graphTranslator.convert "health").run =
          some (after, .ok ⟨"up", some "told", [], []⟩) ∧
        after.calls.length = 5 ∧ after.calls = transcript.calls.reverse ∧
          transcript = course.waits ∧ transcript.queries = [("up", .ok course.data)] := by
  have performed : ∃ after,
      proposingStage.run (graphTranslator.convert "health").run =
          some (after, .ok ⟨"up", some "told", [], []⟩) ∧ after.calls.length = 5 :=
    ⟨_, rfl, rfl⟩
  obtain ⟨after, ran, five⟩ := performed
  obtain ⟨transcript, plays, recorded⟩ := Rehearsal.Stage.plays_of_run ran
  obtain ⟨course, -, kept, -, -, queries, -⟩ := conversion_validated plays
  refine ⟨after, transcript, course, ran, five, ?_, kept, queries⟩
  rw [recorded]
  exact List.append_nil _

end PromScribe
