import PromScribe.Proofs.Translation.Course
import PromScribe.Proofs.Translation.Failure

/-!
# How conversions fail

A conversion fails with its first stage that fails, and then nobody is called any more. Each stage
has its own failure and its own answer status; a caller that gave up is told so whatever the stage.
-/

namespace PromScribe

variable {translator : Translator} {question : String} {transcript : Transcript}
variable {fault : TranslationFault}

/-- The conversion of a question with its failures as those of the application. -/
def Translator.translation (translator : Translator) (question : String) :
    Attempt ApplicationFault Conversion :=
  Attempt.ofWork TranslationFault.toApplication (translator.convert question)

/-- The first stage of a conversion that fails: the waits up to its failure, the status of the
answer, and the failure. -/
inductive Breakdown (translator : Translator) (question : String) :
    Transcript → Nat → ApplicationFault → Prop where
  /-- The question is blank or too long. -/
  | refused {refusal : Refusal}
      (refuses : translator.reader.refusal? question = some refusal) :
      Breakdown translator question [] 400 (.input refusal.message)
  /-- The catalog cannot be refreshed. -/
  | outdated {refreshing : Refreshing} {cause : CollaboratorFault}
      (accepts : translator.reader.refusal? question = none)
      (fails : refreshing.outcome = .error cause) (stays : cause ≠ .cancelled) :
      Breakdown translator question [.refreshed refreshing] 500 (.collaborator cause.message)
  /-- Something is wrong with the canonical wording. -/
  | misread {refreshing : Refreshing} {snapshot : Snapshot} {refusal : Refusal}
      (accepts : translator.reader.refusal? question = none)
      (fresh : refreshing.outcome = .ok snapshot)
      (misread : Extraction.Misread translator question refusal) :
      Breakdown translator question [.refreshed refreshing] 400 (.input refusal.message)
  /-- The request for a proposal fails. -/
  | unproposed {refreshing : Refreshing} {findings : Extraction.Findings}
      {cause : CollaboratorFault}
      (asks : Extraction.Asks translator question refreshing findings)
      (stays : cause ≠ .cancelled) :
      Breakdown translator question
        [.refreshed refreshing, .answered (.complete findings.prompt) (.error cause)] 500
        (.extraction cause.message)
  /-- The reply to the request for a proposal is of no use. -/
  | useless {refreshing : Refreshing} {findings : Extraction.Findings} {reply : String}
      {fault : ReplyFault} {raw : String}
      (asks : Extraction.Asks translator question refreshing findings)
      (useless : Extraction.Useless findings reply fault raw) :
      Breakdown translator question
        [.refreshed refreshing, .answered (.complete findings.prompt) (.ok reply)] 500
        (.format fault raw)
  /-- The context has no metric. -/
  | unbuilt {waits : Transcript} {context : Context}
      (extracts : (translator.extract question).run.Plays waits (.ok context))
      (blank : context.hasMetric = false) :
      Breakdown translator question waits 400 (.build Query.noMetricWarning)
  /-- The backend rejects the query. -/
  | rejected {waits : Transcript} {context : Context} {cause : CollaboratorFault}
      (extracts : (translator.extract question).run.Plays waits (.ok context))
      (named : context.hasMetric = true) (stays : cause ≠ .cancelled) :
      Breakdown translator question
        (waits ++ [.answered (.query (Query.build context).query none) (.error cause)]) 400
        (.validation ("invalid query: " ++ cause.message))
  /-- The caller gives up while the catalog is refreshed. -/
  | refreshCancelled {refreshing : Refreshing}
      (accepts : translator.reader.refusal? question = none)
      (left : refreshing.outcome = .error .cancelled) :
      Breakdown translator question [.refreshed refreshing] 504 .cancelled
  /-- The caller gives up while a proposal is asked for. -/
  | proposalCancelled {refreshing : Refreshing} {findings : Extraction.Findings}
      (asks : Extraction.Asks translator question refreshing findings) :
      Breakdown translator question
        [.refreshed refreshing, .answered (.complete findings.prompt) (.error .cancelled)] 504
        .cancelled
  /-- The caller gives up while the query is judged. -/
  | judgementCancelled {waits : Transcript} {context : Context}
      (extracts : (translator.extract question).run.Plays waits (.ok context))
      (named : context.hasMetric = true) :
      Breakdown translator question
        (waits ++ [.answered (.query (Query.build context).query none) (.error .cancelled)]) 504
        .cancelled
  /-- The caller gives up while the accepted query is explained. -/
  | explanationCancelled {waits : Transcript} {context : Context} {data : QueryData}
      (extracts : (translator.extract question).run.Plays waits (.ok context))
      (named : context.hasMetric = true) :
      Breakdown translator question
        (waits ++ [.answered (.query (Query.build context).query none) (.ok data),
          .answered (.complete (Prompt.explanation context (Query.build context).query))
            (.error .cancelled)]) 504
        .cancelled

namespace Breakdown

variable {status : Nat} {failure : ApplicationFault}

theorem status_eq (breakdown : Breakdown translator question transcript status failure) :
    status = failure.status := by
  cases breakdown <;> rfl

/-- No conversion fails for its settings or for a mistake of the program itself. -/
theorem expected (breakdown : Breakdown translator question transcript status failure)
    (reason : String) : failure ≠ .configuration reason ∧ failure ≠ .inner reason := by
  cases breakdown <;> exact ⟨nofun, nofun⟩

/-- A refresh that fails is the breakdown of an accepted question. -/
theorem of_refreshing {refreshing : Refreshing} {cause : CollaboratorFault}
    (accepts : translator.reader.refusal? question = none)
    (fails : refreshing.outcome = .error cause) :
    Breakdown translator question [.refreshed refreshing]
      (TranslationFault.ofCollaborator cause).toApplication.status
      (TranslationFault.ofCollaborator cause).toApplication := by
  cases cause with
  | cancelled => exact .refreshCancelled accepts fails
  | _ => exact .outdated accepts fails nofun

/-- A completion that fails is the breakdown of a question that needs it. -/
theorem of_completion {refreshing : Refreshing} {findings : Extraction.Findings}
    {cause : CollaboratorFault} (asks : Extraction.Asks translator question refreshing findings) :
    Breakdown translator question
      [.refreshed refreshing, .answered (.complete findings.prompt) (.error cause)]
      (TranslationFault.ofCompletion cause).toApplication.status
      (TranslationFault.ofCompletion cause).toApplication := by
  cases cause with
  | cancelled => exact .proposalCancelled asks
  | _ => exact .unproposed asks nofun

/-- An extraction that fails is a breakdown. -/
theorem of_extract
    (fails : (translator.extract question).run.Plays transcript (.error fault)) :
    Breakdown translator question transcript fault.toApplication.status fault.toApplication := by
  rcases Extraction.extract_plays_error_iff.mp fails with
    early | ⟨refreshing, rest, findings, rfl, fresh, reads, late⟩
  · rcases Extraction.findings_plays_error_iff.mp early with
      ⟨rfl, refusal, refuses, rfl⟩ | ⟨accepts, refreshing, rfl, later⟩
    · exact .refused refuses
    · rcases later with ⟨cause, failed, rfl⟩ | ⟨snapshot, refusal, fresh, misread, rfl⟩
      · exact of_refreshing accepts failed
      · exact .misread accepts fresh misread
  · obtain ⟨unknown, later⟩ := Extraction.resolved_plays_error_iff.mp late
    have asks : Extraction.Asks translator question refreshing findings :=
      ⟨reads, fresh, Extraction.knownMetric?_eq_none_iff.mp unknown⟩
    rcases later with ⟨cause, rfl, rfl⟩ | ⟨reply, replyFault, raw, rfl, useless, rfl⟩
    · exact of_completion asks
    · exact .useless asks useless

/-- A judgement that does not let the query pass is a breakdown. -/
theorem of_judgement {waits : Transcript} {context : Context}
    {outcome : Except CollaboratorFault QueryData}
    (extracts : (translator.extract question).run.Plays waits (.ok context))
    (named : context.hasMetric = true)
    (fails : (∃ cause, Verdict.ofOutcome (Query.build context).query outcome = .error cause ∧
        .ofCollaborator cause = fault) ∨
      ∃ judged, Verdict.ofOutcome (Query.build context).query outcome = .ok judged ∧
        Translator.demandValid judged = .error fault) :
    Breakdown translator question
      (waits ++ [.answered (.query (Query.build context).query none) outcome])
      fault.toApplication.status fault.toApplication := by
  match outcome with
  | .ok data =>
      rcases fails with ⟨_, ⟨⟩, -⟩ | ⟨_, ⟨⟩, demanded⟩
      cases (Translator.demandValid_eq_error_iff.mp demanded).1
  | .error cause =>
      cases cause with
      | cancelled =>
          rcases fails with ⟨_, ⟨⟩, rfl⟩ | ⟨_, ⟨⟩, -⟩
          exact .judgementCancelled extracts named
      | _ =>
          rcases fails with ⟨_, ⟨⟩, -⟩ | ⟨_, ⟨⟩, demanded⟩
          obtain ⟨-, rfl⟩ := Translator.demandValid_eq_error_iff.mp demanded
          exact .rejected extracts named nofun

/-- A conversion that fails is a breakdown. -/
theorem of_convert (fails : (translator.convert question).run.Plays transcript (.error fault)) :
    Breakdown translator question transcript fault.toApplication.status fault.toApplication := by
  rcases Attempt.plays_bind_error_iff.mp fails with
    early | ⟨waits, _, context, rfl, extracts, assembling⟩
  · exact of_extract early
  rcases Attempt.plays_ofExcept_bind_error_iff.mp assembling with
    ⟨rfl, _, unassembled, rfl⟩ | ⟨built, assembled, judging⟩
  · obtain ⟨blank, rfl⟩ := Translator.assembled_eq_error_iff.mp unassembled
    rw [List.append_nil]
    exact .unbuilt extracts blank
  obtain ⟨rfl, full⟩ := Translator.assembled_eq_ok_iff.mp assembled
  have named : context.hasMetric = true :=
    eq_true_of_ne_false fun blank => full (Query.build_query_eq_empty_iff.mpr blank)
  have shown := Query.isBlankText_build named
  rcases Attempt.plays_bind_error_iff.mp judging with
    early | ⟨_, _, judged, rfl, judgement, demanding⟩
  · obtain ⟨cause, judgement, rfl⟩ := Attempt.plays_ofWork_error_iff.mp early
    obtain ⟨outcome, rfl, failed⟩ := (Verdict.plays_judge_iff shown).mp judgement
    exact of_judgement extracts named (.inl ⟨cause, failed, rfl⟩)
  rcases Attempt.plays_ofExcept_bind_error_iff.mp demanding with
    ⟨rfl, _, refused, rfl⟩ | ⟨verdict, demanded, explaining⟩
  · obtain ⟨outcome, rfl, passed⟩ :=
      (Verdict.plays_judge_iff shown).mp (Attempt.plays_ofWork_ok_iff.mp judgement)
    rw [List.append_nil]
    exact of_judgement extracts named (.inr ⟨judged, passed, refused⟩)
  obtain ⟨rfl, valid⟩ := Translator.demandValid_eq_ok_iff.mp demanded
  obtain ⟨data, rfl⟩ := Verdict.accepted_of_judge (Attempt.plays_ofWork_ok_iff.mp judgement) valid
  rcases Attempt.plays_bind_error_iff.mp explaining with
    early | ⟨_, _, explanation, rfl, -, made⟩
  · obtain ⟨cause, explains, rfl⟩ := Attempt.plays_ofWork_error_iff.mp early
    obtain ⟨narration, rfl, unexplained⟩ := Explanation.plays_explain_iff.mp explains
    obtain ⟨rfl, rfl⟩ := Explanation.ofOutcome_eq_error_iff.mp unexplained
    exact .explanationCancelled extracts named
  · cases (Attempt.plays_pure_iff.mp made).2

/-- A question that is refused, a refresh that fails, and a misread wording end the extraction. -/
theorem extract_of_findings
    (fails : (Extraction.findings translator question).run.Plays transcript (.error fault)) :
    (translator.extract question).run.Plays transcript (.error fault) :=
  Extraction.extract_plays_error_iff.mpr (.inl fails)

/-- A proposal that is asked for and not got, or of no use, ends the extraction. -/
theorem extract_of_asks {refreshing : Refreshing} {findings : Extraction.Findings}
    (asks : Extraction.Asks translator question refreshing findings)
    (fails : (∃ cause, transcript = [.answered (.complete findings.prompt) (.error cause)] ∧
        .ofCompletion cause = fault) ∨
      ∃ (reply : String) (replyFault : ReplyFault) (raw : String),
        transcript = [.answered (.complete findings.prompt) (.ok reply)] ∧
          Extraction.Useless findings reply replyFault raw ∧ .format replyFault raw = fault) :
    (translator.extract question).run.Plays (.refreshed refreshing :: transcript) (.error fault) := by
  have unknown := Extraction.knownMetric?_eq_none_iff.mpr asks.unknown
  refine Extraction.extract_plays_error_iff.mpr (.inr ?_)
  exact ⟨refreshing, transcript, findings, rfl, asks.fresh, asks.reads,
    Extraction.resolved_plays_error_iff.mpr ⟨unknown, fails⟩⟩

/-- A conversion goes on from its context to the judgement of its query. -/
theorem convert_of_judgement {waits rest : Transcript} {context : Context}
    {outcome : Except CollaboratorFault QueryData}
    (extracts : (translator.extract question).run.Plays waits (.ok context))
    (named : context.hasMetric = true)
    (ends : (∃ cause, rest = [] ∧
        Verdict.ofOutcome (Query.build context).query outcome = .error cause ∧
          .ofCollaborator cause = fault) ∨
      ∃ judged, Verdict.ofOutcome (Query.build context).query outcome = .ok judged ∧
        (do
          let verdict ← Attempt.ofExcept id (Translator.demandValid judged)
          let explanation ←
            Attempt.ofWork id (Explanation.explain context (Query.build context).query)
          return Conversion.ofParts context (Query.build context) verdict explanation :
            Attempt TranslationFault Conversion).run.Plays rest (.error fault)) :
    (translator.convert question).run.Plays
      (waits ++ .answered (.query (Query.build context).query none) outcome :: rest)
      (.error fault) := by
  have full : (Query.build context).query ≠ "" := fun empty => by
    rw [Query.build_query_eq_empty_iff.mp empty] at named
    cases named
  have assembled := Translator.assembled_eq_ok_iff.mpr ⟨rfl, full⟩
  have judges {judged : Except CollaboratorFault Verdict}
      (same : Verdict.ofOutcome (Query.build context).query outcome = judged) :
      (Verdict.judge (Query.build context).query).Plays
        [.answered (.query (Query.build context).query none) outcome] judged :=
    (Verdict.plays_judge_iff (Query.isBlankText_build named)).mpr ⟨outcome, rfl, same⟩
  refine Attempt.plays_bind_error_iff.mpr (.inr ⟨waits, _, context, rfl, extracts, ?_⟩)
  refine Attempt.plays_ofExcept_bind_error_iff.mpr (.inr ⟨_, assembled, ?_⟩)
  refine Attempt.plays_bind_error_iff.mpr ?_
  rcases ends with ⟨cause, rfl, failed, rfl⟩ | ⟨judged, passed, later⟩
  · exact .inl (Attempt.plays_ofWork_error_iff.mpr ⟨cause, judges failed, rfl⟩)
  · exact .inr ⟨_, rest, judged, rfl, Attempt.plays_ofWork_ok_iff.mpr (judges passed), later⟩

/-- A query that is rejected by a backend that was not given up on is not let pass. -/
theorem exists_refused (promql : String) {cause : CollaboratorFault} (stays : cause ≠ .cancelled) :
    ∃ judged, Verdict.ofOutcome promql (.error cause) = .ok judged ∧
      Translator.demandValid judged = .error (.validation ("invalid query: " ++ cause.message)) := by
  cases cause with
  | cancelled => exact absurd rfl stays
  | _ => exact ⟨_, rfl, rfl⟩

/-- A breakdown is a conversion that fails. -/
theorem exists_plays (breakdown : Breakdown translator question transcript status failure) :
    ∃ fault, (translator.convert question).run.Plays transcript (.error fault) ∧
      fault.toApplication = failure := by
  have early {fault : TranslationFault}
      (fails : (translator.extract question).run.Plays transcript (.error fault)) :
      (translator.convert question).run.Plays transcript (.error fault) :=
    Attempt.plays_bind_error_iff.mpr (.inl fails)
  cases breakdown with
  | @refused refusal refuses =>
      refine ⟨.question (.refused refusal), early (extract_of_findings ?_), rfl⟩
      exact Extraction.findings_plays_error_iff.mpr (.inl ⟨rfl, refusal, refuses, rfl⟩)
  | @outdated refreshing cause accepts fails stays =>
      refine ⟨.ofCollaborator cause, early (extract_of_findings ?_), ?_⟩
      · exact Extraction.findings_plays_error_iff.mpr
          (.inr ⟨accepts, refreshing, rfl, .inl ⟨cause, fails, rfl⟩⟩)
      · cases cause with
        | cancelled => exact absurd rfl stays
        | _ => rfl
  | @misread refreshing snapshot refusal accepts fresh misread =>
      refine ⟨.question (.refused refusal), early (extract_of_findings ?_), rfl⟩
      exact Extraction.findings_plays_error_iff.mpr
        (.inr ⟨accepts, refreshing, rfl, .inr ⟨snapshot, refusal, fresh, misread, rfl⟩⟩)
  | @unproposed _ _ cause asks stays =>
      refine ⟨.ofCompletion cause, early (extract_of_asks asks (.inl ⟨cause, rfl, rfl⟩)), ?_⟩
      cases cause with
      | cancelled => exact absurd rfl stays
      | _ => rfl
  | @useless _ _ _ fault raw asks useless =>
      exact ⟨.format fault raw,
        early (extract_of_asks asks (.inr ⟨_, fault, raw, rfl, useless, rfl⟩)), rfl⟩
  | @unbuilt _ context extracts blank =>
      refine ⟨.build Query.noMetricWarning, Attempt.plays_bind_error_iff.mpr (.inr ?_), rfl⟩
      refine ⟨transcript, [], context, by simp, extracts, ?_⟩
      exact Attempt.plays_ofExcept_bind_error_iff.mpr
        (.inl ⟨rfl, _, Translator.assembled_eq_error_iff.mpr ⟨blank, rfl⟩, rfl⟩)
  | @rejected _ context cause extracts named stays =>
      refine ⟨.validation ("invalid query: " ++ cause.message), ?_, rfl⟩
      obtain ⟨judged, passed, refused⟩ := exists_refused (Query.build context).query stays
      exact convert_of_judgement extracts named (.inr ⟨judged, passed,
        Attempt.plays_ofExcept_bind_error_iff.mpr (.inl ⟨rfl, _, refused, rfl⟩)⟩)
  | @refreshCancelled refreshing accepts left =>
      refine ⟨.cancelled, early (extract_of_findings ?_), rfl⟩
      exact Extraction.findings_plays_error_iff.mpr
        (.inr ⟨accepts, refreshing, rfl, .inl ⟨.cancelled, left, rfl⟩⟩)
  | proposalCancelled asks =>
      exact ⟨.cancelled, early (extract_of_asks asks (.inl ⟨.cancelled, rfl, rfl⟩)), rfl⟩
  | judgementCancelled extracts named =>
      exact ⟨.cancelled, convert_of_judgement extracts named (.inl ⟨.cancelled, rfl, rfl, rfl⟩), rfl⟩
  | @explanationCancelled _ context data extracts named =>
      refine ⟨.cancelled, convert_of_judgement extracts named (.inr ⟨_, rfl, ?_⟩), rfl⟩
      refine Attempt.plays_ofExcept_bind_error_iff.mpr (.inr
        ⟨_, Translator.demandValid_eq_ok_iff.mpr ⟨rfl, rfl⟩, ?_⟩)
      refine Attempt.plays_bind_error_iff.mpr (.inl ?_)
      exact Attempt.plays_ofWork_error_iff.mpr
        ⟨.cancelled, Explanation.plays_explain_iff.mpr ⟨.error .cancelled, rfl, rfl⟩, rfl⟩

end Breakdown

/-- The first stage of a conversion that fails decides alone: a conversion fails just if a stage
breaks down, with the failure and the status of that stage, and its waits end there. -/
theorem first_failure_decides :
    (∀ failure, (translator.translation question).run.Plays transcript (.error failure) ↔
      Breakdown translator question transcript failure.status failure) ∧
    ∀ status failure, Breakdown translator question transcript status failure →
      status = failure.status ∧
        (∀ reason, failure ≠ .configuration reason ∧ failure ≠ .inner reason) ∧
          ∀ rest outcome, (translator.translation question).run.Plays (transcript ++ rest) outcome →
            rest = [] ∧ outcome = .error failure := by
  have decides (failure : ApplicationFault) :
      (translator.translation question).run.Plays transcript (.error failure) ↔
        Breakdown translator question transcript failure.status failure := by
    refine Attempt.plays_ofWork_error_iff.trans ⟨?_, Breakdown.exists_plays⟩
    rintro ⟨fault, fails, rfl⟩
    exact Breakdown.of_convert fails
  refine ⟨decides, fun status failure breakdown => ⟨breakdown.status_eq, breakdown.expected, ?_⟩⟩
  intro rest outcome plays
  have same := breakdown.status_eq
  subst same
  have fails := (decides failure).mpr breakdown
  obtain ⟨longer, agree⟩ := Work.Plays.eq_of_append fails plays
  exact ⟨longer, agree⟩

open Rehearsal in
/-- A stage like `proposingStage` whose backend rejects the query. -/
def rejectingStage : Stage :=
  { proposingStage with
    scripts := { proposingStage.scripts with query := [⟨false, false, 0, false, .error (.request "no")⟩] } }

/-- A conversion whose query is rejected is not explained. -/
theorem first_failure_decides_rejected :
    ∃ (after : Rehearsal.Stage) (transcript : Transcript) (failure : ApplicationFault),
      failure = .validation "invalid query: Request failed: no" ∧
      rejectingStage.run (graphTranslator.translation "health").run = some (after, .error failure) ∧
        after.calls.length = 4 ∧ after.calls = transcript.calls.reverse ∧
          Breakdown graphTranslator "health" transcript 400 failure := by
  have performed : ∃ after,
      rejectingStage.run (graphTranslator.translation "health").run =
          some (after, .error (.validation "invalid query: Request failed: no")) ∧ after.calls.length = 4 :=
    ⟨_, rfl, rfl⟩
  obtain ⟨after, ran, four⟩ := performed
  obtain ⟨transcript, plays, recorded⟩ := Rehearsal.Stage.plays_of_run ran
  have breakdown := (first_failure_decides.1 (.validation "invalid query: Request failed: no")).mp plays
  refine ⟨after, transcript, _, rfl, ran, four, ?_, breakdown⟩
  rw [recorded]
  exact List.append_nil _

end PromScribe
