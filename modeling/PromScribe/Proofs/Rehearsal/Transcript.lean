import PromScribe.Proofs.Collaborator.Transcript
import PromScribe.Proofs.Rehearsal.Stage
import PromScribe.Rehearsal.Network

/-!
# Transcripts of performed work

Work that is performed, on the stage or by a site, plays a transcript. The stage puts just the
calls of the transcript on record.
-/

namespace PromScribe.Rehearsal

variable {α : Type} {stage after : Stage}

namespace Stage

/-- What discoveries teach is what a caller goes on with. -/
theorem refreshing_of_conclude (stage : Stage) (reply : Call.discovery.Outcome) :
    (Refreshing.discovered ⟨stage.clock, stage.wall⟩ reply).outcome = (stage.conclude reply).2 ∧
      (stage.conclude reply).1.calls = stage.calls := by
  cases reply with
  | ok data => exact ⟨rfl, rfl⟩
  | error fault => exact ⟨rfl, rfl⟩

theorem refreshing_of_takeTurn {outcome : Except CollaboratorFault Snapshot}
    (taken : stage.takeTurn = some (after, outcome)) :
    ∃ refreshing : Refreshing, refreshing.outcome = outcome ∧
      after.calls = refreshing.calls ++ stage.calls := by
  unfold takeTurn at taken
  split at taken
  · cases taken
    exact ⟨.turnedAway, rfl, rfl⟩
  · split at taken
    · next snapshot _ =>
        cases taken
        exact ⟨.kept snapshot, rfl, rfl⟩
    · obtain ⟨⟨middle, reply⟩, performed, concluded⟩ := Option.map_eq_some_iff.mp taken
      obtain ⟨learned, calls⟩ := refreshing_of_conclude middle reply
      rw [concluded] at learned calls
      refine ⟨.discovered ⟨middle.clock, middle.wall⟩ reply, learned, ?_⟩
      rw [calls, calls_of_perform performed]
      rfl

/-- A refresh on the stage is one of those that a transcript tells of. -/
theorem refreshing_of_refresh {outcome : Except CollaboratorFault Snapshot}
    (refreshed : stage.refresh = some (after, outcome)) :
    ∃ refreshing : Refreshing, refreshing.outcome = outcome ∧
      after.calls = refreshing.calls ++ stage.calls := by
  unfold refresh at refreshed
  split at refreshed
  · next snapshot _ =>
      cases refreshed
      exact ⟨.kept snapshot, rfl, rfl⟩
  · exact refreshing_of_takeTurn refreshed

/-- Performed work plays a transcript, whose calls are put on record. -/
theorem plays_of_run {work : Work α} {value : α} (ran : stage.run work = some (after, value)) :
    ∃ transcript : Transcript, work.Plays transcript value ∧
      after.calls = transcript.calls.reverse ++ stage.calls := by
  induction work generalizing stage with
  | done result =>
      cases ran
      exact ⟨[], .done, rfl⟩
  | refresh resume ih =>
      obtain ⟨⟨middle, outcome⟩, refreshed, goesOn⟩ := Option.bind_eq_some_iff.mp ran
      obtain ⟨refreshing, rfl, calls⟩ := refreshing_of_refresh refreshed
      obtain ⟨rest, plays, recorded⟩ := ih _ goesOn
      refine ⟨.refreshed refreshing :: rest, .refresh refreshing plays, ?_⟩
      have once : refreshing.calls.reverse = refreshing.calls := by
        cases refreshing <;> rfl
      simp [recorded, calls, Exchange.calls, once]
  | call needed resume ih =>
      obtain ⟨⟨middle, outcome⟩, performed, goesOn⟩ := Option.bind_eq_some_iff.mp ran
      obtain ⟨rest, plays, recorded⟩ := ih outcome goesOn
      refine ⟨.answered needed outcome :: rest, .call outcome plays, ?_⟩
      simp [recorded, calls_of_perform performed, Exchange.calls]

end Stage

namespace Site

/-- A refresh of a site is one of those that a transcript tells of. -/
theorem refreshing_of_refresh (site : Site) :
    ∃ refreshing : Refreshing, refreshing.outcome = site.refresh.2 := by
  unfold refresh
  split
  · next snapshot _ => exact ⟨.kept snapshot, rfl⟩
  · split
    · next fault _ => exact ⟨.discovered ⟨0, site.wall⟩ (.error fault), rfl⟩
    · next middle data _ => exact ⟨.discovered ⟨0, middle.wall⟩ (.ok data), rfl⟩

/-- What a site performs plays a transcript. -/
theorem plays_of_run (site : Site) (work : Work α) :
    ∃ transcript : Transcript, work.Plays transcript (site.run work).2 := by
  induction work generalizing site with
  | done value => exact ⟨[], .done⟩
  | refresh resume ih =>
      obtain ⟨refreshing, outcome⟩ := refreshing_of_refresh site
      obtain ⟨rest, plays⟩ := ih site.refresh.2 site.refresh.1
      refine ⟨.refreshed refreshing :: rest, .refresh refreshing ?_⟩
      rw [outcome]
      exact plays
  | call needed resume ih =>
      obtain ⟨rest, plays⟩ := ih (site.perform needed).2 (site.perform needed).1
      exact ⟨.answered needed (site.perform needed).2 :: rest, .call _ plays⟩

end Site

end PromScribe.Rehearsal
