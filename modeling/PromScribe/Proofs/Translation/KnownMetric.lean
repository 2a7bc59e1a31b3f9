import PromScribe.Proofs.Translation.Failure
import PromScribe.Proofs.Translation.Precedence

/-!
# Extractions with a known metric

A question that is read, and that names a metric of the fresh catalog, fails in no extraction: there
is nothing left to wait for but the graph, whose failures are passed over.
-/

namespace PromScribe.Extraction

open Question

variable {translator : Translator} {question metric : String} {findings : Findings}
variable {refreshing : Refreshing} {waits : Transcript} {refusal : Refusal}
variable {outcome : Except TranslationFault Context}

/-- Nothing is wrong with the wording of a question that is read. -/
theorem Findings.Reads.not_misread (reads : findings.Reads translator question) :
    ¬ Misread translator question refusal := by
  obtain ⟨-, worded⟩ := Reader.accepted_eq_ok_iff.mp reads.wording_eq
  obtain ⟨accepts, intended⟩ := Reader.accepted_eq_ok_iff.mp reads.intent_eq
  obtain ⟨-, named⟩ := Reader.accepted_eq_ok_iff.mp reads.entities_eq
  have framed := reads.window_eq
  rw [← intended, ← named, ← worded] at framed
  rw [← worded] at accepts
  intro misread
  cases misread with
  | wording refuses =>
      rw [accepts] at refuses
      cases refuses
  | window _ names unusable =>
      have failed := window?_eq_error_iff.mpr ⟨_, _, names, unusable, rfl⟩
      rw [framed] at failed
      cases failed

/-- Such an extraction does not fail. -/
theorem not_plays_error_of_known {fault : TranslationFault}
    (reads : findings.Reads translator question)
    (fresh : refreshing.outcome = .ok findings.snapshot)
    (known : knownMetric? findings.snapshot findings.entities = some metric) :
    ¬ (translator.extract question).run.Plays (.refreshed refreshing :: waits) (.error fault) := by
  intro plays
  -- It fails in the reading, which succeeds, or where no metric is known.
  rcases extract_plays_error_iff.mp plays with early | ⟨again, rest, found, split, fresh', reads', late⟩
  · rcases findings_plays_error_iff.mp early with ⟨split, -⟩ | ⟨-, again, split, later⟩
    · cases split
    · cases split
      rcases later with ⟨cause, fails, -⟩ | ⟨snapshot, refusal, -, misread, -⟩
      · cases fresh.symm.trans fails
      · exact reads.not_misread misread
  · cases split
    obtain rfl := reads.eq_of_snapshot reads' (Except.ok.inj (fresh.symm.trans fresh'))
    rw [(resolved_plays_error_iff.mp late).1] at known
    cases known

/-- It gives what the question states around the metric, with rules for further queries. -/
theorem extract_plays_iff_of_known (reads : findings.Reads translator question)
    (fresh : refreshing.outcome = .ok findings.snapshot)
    (known : knownMetric? findings.snapshot findings.entities = some metric) :
    (translator.extract question).run.Plays (.refreshed refreshing :: waits) outcome ↔
      ∃ extracted, outcome = .ok extracted ∧
        (enriched translator findings
          (withWindow (byRule (stated question findings) metric) findings.window)).Plays waits
            extracted := by
  constructor
  · intro plays
    cases outcome with
    | error fault => exact absurd plays (not_plays_error_of_known reads fresh known)
    | ok extracted =>
        obtain ⟨again, resolution, enrichment, found, context, split, fresh', reads', resolves,
          enriches⟩ := extract_plays_iff.mp plays
        obtain ⟨same, rfl⟩ := List.cons.inj split
        cases same
        obtain rfl := reads.eq_of_snapshot reads' (Except.ok.inj (fresh.symm.trans fresh'))
        obtain ⟨rfl, rfl⟩ := (resolved_plays_iff_of_known known).mp resolves
        exact ⟨extracted, rfl, enriches⟩
  · rintro ⟨extracted, rfl, enriches⟩
    exact extract_plays_iff.mpr ⟨refreshing, [], waits, findings, _, rfl, fresh, reads,
      (resolved_plays_iff_of_known known).mpr ⟨rfl, rfl⟩, enriches⟩

end PromScribe.Extraction
