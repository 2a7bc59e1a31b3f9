import PromScribe.Proofs.Collaborator.Transcript
import PromScribe.Query.Verdict

/-!
# Judged queries

What a verdict says of a query, and what the backend must have answered for it.
-/

namespace PromScribe.Verdict

variable {promql : String} {transcript : Transcript} {verdict : Verdict}

/-- A query that is not blank is judged by the outcome of running it. -/
theorem plays_judge_iff {judged : Except CollaboratorFault Verdict}
    (full : Text.isBlankText promql = false) :
    (judge promql).Plays transcript judged ↔
      ∃ outcome : (Call.query promql none).Outcome,
        transcript = [.answered (.query promql none) outcome] ∧ ofOutcome promql outcome = judged := by
  simp only [judge, full, Bool.false_eq_true, if_false, Work.plays_call_iff, Work.plays_done_iff]
  constructor
  · rintro ⟨outcome, _, rfl, rfl, same⟩
    exact ⟨outcome, rfl, same⟩
  · rintro ⟨outcome, rfl, same⟩
    exact ⟨outcome, [], rfl, rfl, same⟩

theorem judge_of_blank (blank : Text.isBlankText promql = true) :
    judge promql = .done (.ok ⟨false, warningsFor promql, some "empty query"⟩) :=
  if_pos blank

/-- A verdict that lets a query pass needs the backend to have accepted just that query. -/
theorem accepted_of_judge (plays : (judge promql).Plays transcript (.ok verdict))
    (valid : verdict.valid = true) :
    ∃ data : QueryData, transcript = [.answered (.query promql none) (.ok data)] := by
  cases full : Text.isBlankText promql with
  | true =>
      rw [judge_of_blank full] at plays
      cases (Work.plays_done_iff.mp plays).2
      cases valid
  | false =>
      obtain ⟨outcome, rfl, judged⟩ := (plays_judge_iff full).mp plays
      match outcome with
      | .ok data => exact ⟨data, rfl⟩
      | .error fault =>
          cases fault <;> cases judged <;> cases valid

/-- Whatever the verdict is, its warnings are those about the query. -/
theorem warnings_of_judge (plays : (judge promql).Plays transcript (.ok verdict)) :
    verdict.warnings = warningsFor promql := by
  cases full : Text.isBlankText promql with
  | true =>
      rw [judge_of_blank full] at plays
      cases (Work.plays_done_iff.mp plays).2
      rfl
  | false =>
      obtain ⟨outcome, -, judged⟩ := (plays_judge_iff full).mp plays
      match outcome with
      | .ok data =>
          cases judged
          rfl
      | .error fault =>
          cases fault <;> cases judged <;> rfl

/-- There is a warning about braces just if they are opened and closed unequally often. -/
theorem braceWarning_mem_iff : braceWarning ∈ warningsFor promql ↔
    promql.toList.count '\x7b' ≠ promql.toList.count '\x7d' := by
  have apart : braceWarning ≠ lengthWarning := by decide
  unfold warningsFor
  rw [List.mem_append, or_iff_right]
  · split
    · next unequal => exact ⟨fun _ => unequal, fun _ => List.mem_singleton_self _⟩
    · next equal => exact ⟨nofun, fun unequal => absurd unequal equal⟩
  · split
    · exact fun long => apart (List.mem_singleton.mp long)
    · exact List.not_mem_nil

end PromScribe.Verdict
