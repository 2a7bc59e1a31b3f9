import PromScribe.Proofs.Query.Assembly
import PromScribe.Proofs.Query.Verdict
import PromScribe.Question.Reading
import PromScribe.Proofs.Translation.Extraction
import PromScribe.Translation.Conversion

/-!
# Stages that fail

Each stage of a conversion is described by the transcripts that it fails with, and by its fault.
-/

namespace PromScribe

open Question

variable {translator : Translator} {question : String} {transcript : Transcript}
variable {fault : TranslationFault}

namespace Extraction

/-- What is wrong with the canonical wording of a question, if anything is: it is blank or too long,
or the window that it names is no span of time. -/
inductive Misread (translator : Translator) (question : String) : Refusal → Prop where
  | wording {refusal : Refusal}
      (refuses : translator.reader.refusal? (canonical question) = some refusal) :
      Misread translator question refusal
  | window {text : String} {cause : SpanFault}
      (accepts : translator.reader.refusal? (canonical question) = none)
      (names : windowText? (Intent.ofText (canonical question))
        (entitiesOf (canonical question)) = some text)
      (unusable : TimeSpan.read text = .error cause) :
      Misread translator question (.unusableSpan cause)

/-- The catalog is fresh, the question is read, and it names no metric of the catalog. -/
structure Asks (translator : Translator) (question : String) (refreshing : Refreshing)
    (findings : Findings) : Prop where
  reads : findings.Reads translator question
  fresh : refreshing.outcome = .ok findings.snapshot
  unknown : ∀ entity ∈ findings.entities,
    entity.kind = .metric → findings.snapshot.contains entity.value = false

variable {findings : Findings}

theorem window?_eq_error_iff {intent : Intent} {entities : List Entity} :
    window? intent entities = .error fault ↔
      ∃ text cause, windowText? intent entities = some text ∧ TimeSpan.read text = .error cause ∧
        .question (.refused (.unusableSpan cause)) = fault := by
  unfold window?
  cases windowText? intent entities with
  | none => simp
  | some text =>
      dsimp only
      cases read : TimeSpan.read text with
      | ok span => simp [read]
      | error cause => simp [read]

/-- Reading the canonical wording fails just if something is wrong with it, and waits for nobody. -/
theorem reading_plays_error_iff {made : Intent → List Entity → Option TimeSpan → Findings} :
    (do
      let intent ← Attempt.ofExcept .question (translator.reader.intent (canonical question))
      let entities ← Attempt.ofExcept .question (translator.reader.entities (canonical question))
      let window ← Attempt.ofExcept id (window? intent entities)
      return made intent entities window :
        Attempt TranslationFault Findings).run.Plays transcript (.error fault) ↔
      transcript = [] ∧
        ∃ refusal, Misread translator question refusal ∧ .question (.refused refusal) = fault := by
  simp only [Attempt.plays_ofExcept_bind_error_iff, Reader.intent, Reader.entities,
    Reader.accepted_eq_ok_iff, Reader.accepted_eq_error_iff, window?_eq_error_iff]
  constructor
  · rintro (⟨rfl, _, ⟨refusal, refuses, rfl⟩, rfl⟩ | ⟨_, ⟨accepts, rfl⟩, later⟩)
    · exact ⟨rfl, refusal, .wording refuses, rfl⟩
    rcases later with ⟨rfl, _, ⟨refusal, refuses, rfl⟩, rfl⟩ | ⟨_, ⟨_, rfl⟩, later⟩
    · exact ⟨rfl, refusal, .wording refuses, rfl⟩
    rcases later with ⟨rfl, _, ⟨text, cause, names, unusable, rfl⟩, rfl⟩ | ⟨_, _, made⟩
    · exact ⟨rfl, .unusableSpan cause, .window accepts names unusable, rfl⟩
    · cases (Attempt.plays_pure_iff.mp made).2
  · rintro ⟨rfl, refusal, misread, rfl⟩
    cases misread with
    | wording refuses => exact .inl ⟨rfl, _, ⟨refusal, refuses, rfl⟩, rfl⟩
    | window accepts names unusable =>
        exact .inr ⟨_, ⟨accepts, rfl⟩, .inr ⟨_, ⟨accepts, rfl⟩,
          .inl ⟨rfl, _, ⟨_, _, names, unusable, rfl⟩, rfl⟩⟩⟩

/-- Findings fail with the question, the refresh, or the canonical wording. -/
theorem findings_plays_error_iff :
    (Extraction.findings translator question).run.Plays transcript (.error fault) ↔
      (transcript = [] ∧ ∃ refusal, translator.reader.refusal? question = some refusal ∧
        .question (.refused refusal) = fault) ∨
      (translator.reader.refusal? question = none ∧
        ∃ refreshing : Refreshing, transcript = [.refreshed refreshing] ∧
          ((∃ cause, refreshing.outcome = .error cause ∧ .ofCollaborator cause = fault) ∨
            ∃ snapshot refusal, refreshing.outcome = .ok snapshot ∧
              Misread translator question refusal ∧ .question (.refused refusal) = fault)) := by
  unfold Extraction.findings
  rw [Attempt.plays_ofExcept_bind_error_iff]
  simp only [Reader.wording, Reader.accepted_eq_ok_iff, Reader.accepted_eq_error_iff]
  constructor
  · rintro (⟨rfl, _, ⟨refusal, refuses, rfl⟩, rfl⟩ | ⟨_, ⟨accepts, rfl⟩, later⟩)
    · exact .inl ⟨rfl, refusal, refuses, rfl⟩
    refine .inr ⟨accepts, ?_⟩
    rcases Attempt.plays_bind_error_iff.mp later with early | ⟨_, rest, snapshot, rfl, got, goesOn⟩
    · obtain ⟨cause, played, rfl⟩ := Attempt.plays_ofWork_error_iff.mp early
      obtain ⟨refreshing, rfl, fails⟩ := Work.plays_freshSnapshot_iff.mp played
      exact ⟨refreshing, rfl, .inl ⟨cause, fails, rfl⟩⟩
    · obtain ⟨refreshing, rfl, fresh⟩ :=
        Work.plays_freshSnapshot_iff.mp (Attempt.plays_ofWork_ok_iff.mp got)
      obtain ⟨rfl, refusal, misread, rfl⟩ := reading_plays_error_iff.mp goesOn
      exact ⟨refreshing, rfl, .inr ⟨snapshot, refusal, fresh, misread, rfl⟩⟩
  · rintro (⟨rfl, refusal, refuses, rfl⟩ | ⟨accepts, refreshing, rfl, later⟩)
    · exact .inl ⟨rfl, _, ⟨refusal, refuses, rfl⟩, rfl⟩
    refine .inr ⟨_, ⟨accepts, rfl⟩, Attempt.plays_bind_error_iff.mpr ?_⟩
    rcases later with ⟨cause, fails, rfl⟩ | ⟨snapshot, refusal, fresh, misread, rfl⟩
    · refine .inl (Attempt.plays_ofWork_error_iff.mpr ⟨cause, ?_, rfl⟩)
      exact Work.plays_freshSnapshot_iff.mpr ⟨refreshing, rfl, fails⟩
    · refine .inr ⟨[.refreshed refreshing], [], snapshot, rfl, ?_, ?_⟩
      · exact Attempt.plays_ofWork_ok_iff.mpr
          (Work.plays_freshSnapshot_iff.mpr ⟨refreshing, rfl, fresh⟩)
      · exact reading_plays_error_iff.mpr ⟨rfl, refusal, misread, rfl⟩

/-- What is wrong with the reply to the request for a proposal, if anything is, and the text where:
it holds no object, the object is no proposal, or the question names no window and the one that is
proposed is no span of time. -/
inductive Useless (findings : Findings) (reply : String) : ReplyFault → String → Prop where
  | objectless (missing : Text.balancedObject? reply = none) :
      Useless findings reply .noObject reply
  | undecodable {object : String} {cause : Json.Fault}
      (found : Text.balancedObject? reply = some object)
      (fails : Json.decode Proposal.decode object = .error cause) :
      Useless findings reply .undecodable reply
  | window {proposal : Proposal} {text : String} {cause : SpanFault}
      (read : Proposal.ofReply reply = .ok proposal) (unnamed : findings.window = none)
      (names : proposal.timeRange.map Text.trimString = some text) (full : text ≠ "")
      (unusable : TimeSpan.read text = .error cause) :
      Useless findings reply (.unusableTimeRange cause) text

theorem ofReply_eq_error_iff {reply : String} :
    Proposal.ofReply reply = .error fault ↔
      (Text.balancedObject? reply = none ∧ .format .noObject reply = fault) ∨
        ∃ object cause, Text.balancedObject? reply = some object ∧
          Json.decode Proposal.decode object = .error cause ∧
            .format .undecodable reply = fault := by
  unfold Proposal.ofReply
  cases Text.balancedObject? reply with
  | none => simp
  | some object =>
      dsimp only
      cases decoded : Json.decode Proposal.decode object with
      | ok proposal => simp [Except.mapError, decoded]
      | error cause => simp [Except.mapError, decoded]

theorem proposedWindow?_eq_error_iff {proposal : Proposal} :
    proposal.window? = .error fault ↔
      ∃ text cause, proposal.timeRange.map Text.trimString = some text ∧ text ≠ "" ∧
        TimeSpan.read text = .error cause ∧ .format (.unusableTimeRange cause) text = fault := by
  unfold Proposal.window?
  split
  · next unnamed => simp [unnamed]
  · next empty => simp [empty]
  · next text full named =>
      cases read : TimeSpan.read text with
      | ok span => simp [named, read]
      | error cause =>
          have nonempty : text ≠ "" := full
          simp [named, nonempty, read]

/-- A proposal fails with the completion or with the object in its reply. -/
theorem proposal_plays_error_iff :
    (Extraction.proposal findings).run.Plays transcript (.error fault) ↔
      (∃ cause, transcript = [.answered (.complete findings.prompt) (.error cause)] ∧
        .ofCompletion cause = fault) ∨
      ∃ reply : String, transcript = [.answered (.complete findings.prompt) (.ok reply)] ∧
        Proposal.ofReply reply = .error fault := by
  constructor
  · intro plays
    rcases Attempt.plays_bind_error_iff.mp plays with
      early | ⟨_, rest, reply, rfl, completed, decoded⟩
    · obtain ⟨cause, completed, rfl⟩ := Attempt.plays_ofWork_error_iff.mp early
      exact .inl ⟨cause, (Work.plays_outcomeOf_iff _ _).mp completed, rfl⟩
    · obtain ⟨rfl, fault, rejected, rfl⟩ := Attempt.plays_ofExcept_error_iff.mp decoded
      have answered := (Work.plays_outcomeOf_iff (.complete findings.prompt) (.ok reply)).mp
        (Attempt.plays_ofWork_ok_iff.mp completed)
      exact .inr ⟨reply, by simpa using answered, rejected⟩
  · intro fails
    refine Attempt.plays_bind_error_iff.mpr ?_
    rcases fails with ⟨cause, rfl, rfl⟩ | ⟨reply, rfl, rejected⟩
    · have completed := (Work.plays_outcomeOf_iff (.complete findings.prompt) (.error cause)).mpr rfl
      exact .inl (Attempt.plays_ofWork_error_iff.mpr ⟨cause, completed, rfl⟩)
    · have completed := (Work.plays_outcomeOf_iff (.complete findings.prompt) (.ok reply)).mpr rfl
      exact .inr ⟨_, [], reply, rfl, Attempt.plays_ofWork_ok_iff.mpr completed,
        Attempt.plays_ofExcept_error_iff.mpr ⟨rfl, fault, rejected, rfl⟩⟩

/-- A proposal that is read is of use unless the window that it has to name is no span of time. -/
theorem framing_plays_error_iff {proposal : Proposal} {made : Option TimeSpan → Context} :
    (do
      let window ←
        match findings.window with
        | some span => pure (some span)
        | none => Attempt.ofExcept id proposal.window?
      return made window : Attempt TranslationFault Context).run.Plays transcript (.error fault) ↔
      transcript = [] ∧ findings.window = none ∧ proposal.window? = .error fault := by
  cases findings.window with
  | some span =>
      simp only [reduceCtorEq, false_and, and_false, iff_false]
      intro plays
      cases (Attempt.plays_pure_iff.mp plays).2
  | none =>
      rw [Attempt.plays_ofExcept_bind_error_iff]
      constructor
      · rintro (⟨rfl, cause, unusable, rfl⟩ | ⟨window, -, plays⟩)
        · exact ⟨rfl, rfl, unusable⟩
        · cases (Attempt.plays_pure_iff.mp plays).2
      · rintro ⟨rfl, -, unusable⟩
        exact .inl ⟨rfl, fault, unusable, rfl⟩

/-- Only a question that names no known metric can fail to be resolved: with the completion that it
needs or with the reply to it. -/
theorem resolved_plays_error_iff :
    (resolved question findings).run.Plays transcript (.error fault) ↔
      knownMetric? findings.snapshot findings.entities = none ∧
        ((∃ cause, transcript = [.answered (.complete findings.prompt) (.error cause)] ∧
          .ofCompletion cause = fault) ∨
        ∃ (reply : String) (replyFault : ReplyFault) (raw : String),
          transcript = [.answered (.complete findings.prompt) (.ok reply)] ∧
            Useless findings reply replyFault raw ∧ .format replyFault raw = fault) := by
  unfold resolved
  cases knownMetric? findings.snapshot findings.entities with
  | some metric =>
      simp only [reduceCtorEq, false_and, iff_false]
      intro plays
      cases (Attempt.plays_pure_iff.mp plays).2
  | none =>
      simp only [true_and]
      refine Attempt.plays_bind_error_iff.trans ⟨?_, ?_⟩
      · rintro (early | ⟨_, rest, proposal, rfl, proposed, framed⟩)
        · refine (proposal_plays_error_iff.mp early).imp id ?_
          rintro ⟨reply, rfl, rejected⟩
          rcases ofReply_eq_error_iff.mp rejected with
            ⟨missing, rfl⟩ | ⟨object, cause, found, fails, rfl⟩
          · exact ⟨reply, _, _, rfl, .objectless missing, rfl⟩
          · exact ⟨reply, _, _, rfl, .undecodable found fails, rfl⟩
        · obtain ⟨reply, rfl, read⟩ := proposal_plays_iff.mp proposed
          obtain ⟨rfl, unnamed, unusable⟩ := framing_plays_error_iff.mp framed
          obtain ⟨text, cause, names, full, fails, rfl⟩ :=
            proposedWindow?_eq_error_iff.mp unusable
          exact .inr ⟨reply, _, _, rfl, .window read unnamed names full fails, rfl⟩
      · rintro (failed | ⟨reply, _, _, rfl, useless, rfl⟩)
        · exact .inl (proposal_plays_error_iff.mpr (.inl failed))
        · cases useless with
          | objectless missing =>
              refine .inl (proposal_plays_error_iff.mpr (.inr ⟨reply, rfl, ?_⟩))
              exact ofReply_eq_error_iff.mpr (.inl ⟨missing, rfl⟩)
          | undecodable found fails =>
              refine .inl (proposal_plays_error_iff.mpr (.inr ⟨reply, rfl, ?_⟩))
              exact ofReply_eq_error_iff.mpr (.inr ⟨_, _, found, fails, rfl⟩)
          | window read unnamed names full fails =>
              refine .inr ⟨_, [], _, rfl, proposal_plays_iff.mpr ⟨reply, rfl, read⟩, ?_⟩
              exact framing_plays_error_iff.mpr ⟨rfl, unnamed,
                proposedWindow?_eq_error_iff.mpr ⟨_, _, names, full, fails, rfl⟩⟩

/-- An extraction fails with its findings or with the resolution of the metric. -/
theorem extract_plays_error_iff :
    (translator.extract question).run.Plays transcript (.error fault) ↔
      (Extraction.findings translator question).run.Plays transcript (.error fault) ∨
        ∃ (refreshing : Refreshing) (rest : Transcript) (findings : Findings),
          transcript = .refreshed refreshing :: rest ∧ refreshing.outcome = .ok findings.snapshot ∧
            findings.Reads translator question ∧
              (resolved question findings).run.Plays rest (.error fault) := by
  refine Attempt.plays_bind_error_iff.trans (or_congr_right ⟨?_, ?_⟩)
  · rintro ⟨_, _, findings, rfl, found, later⟩
    obtain ⟨refreshing, rfl, fresh, reads⟩ := findings_plays_iff.mp found
    rcases Attempt.plays_bind_error_iff.mp later with fails | ⟨_, _, context, _, _, enriched⟩
    · exact ⟨refreshing, _, findings, rfl, fresh, reads, fails⟩
    · exact absurd enriched Attempt.not_plays_lift_error
  · rintro ⟨refreshing, rest, findings, rfl, fresh, reads, fails⟩
    refine ⟨[.refreshed refreshing], rest, findings, rfl, ?_, ?_⟩
    · exact findings_plays_iff.mpr ⟨refreshing, rfl, fresh, reads⟩
    · exact Attempt.plays_bind_error_iff.mpr (.inl fails)

end Extraction

/-- Only a caller that gave up gets no explanation. -/
theorem Explanation.ofOutcome_eq_error_iff {promql : String}
    {narration : Except CollaboratorFault String} :
    ofOutcome promql narration = .error fault ↔
      narration = .error .cancelled ∧ .cancelled = fault := by
  match narration with
  | .ok reply => simp [ofOutcome]
  | .error cause => cases cause <;> simp [ofOutcome]

namespace Translator

/-- Nothing is assembled just if there is no metric. -/
theorem assembled_eq_error_iff {context : Context} :
    assembled context = .error fault ↔
      context.hasMetric = false ∧ .build Query.noMetricWarning = fault := by
  unfold assembled
  dsimp only
  split
  · next empty =>
      have blank := Query.build_query_eq_empty_iff.mp empty
      rw [Query.build_of_blank blank]
      simp only [blank, true_and, Except.error.injEq]
      exact Iff.rfl
  · next full =>
      have named : context.hasMetric ≠ false := fun blank =>
        full (Query.build_query_eq_empty_iff.mpr blank)
      simp [named]

theorem demandValid_eq_error_iff {judged : Verdict} :
    demandValid judged = .error fault ↔
      judged.valid = false ∧ .validation (judged.error.getD "invalid query") = fault := by
  unfold demandValid
  split
  · next valid => simp [valid]
  · next invalid => simp [invalid]

end Translator

end PromScribe
