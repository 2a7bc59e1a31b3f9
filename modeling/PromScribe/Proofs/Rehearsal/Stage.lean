import PromScribe.Rehearsal.Stage

/-!
# What a call leaves alone

A call on the stage may let time pass and fire the token; catalog and calendar stay, and it is put
on record once.
-/

namespace PromScribe.Rehearsal

variable {α : Type} {stage after : Stage} {cue : Cue α}

/-- Only clock, token and scripts may differ, and the clock did not go back. -/
structure Stage.Keeps (stage after : Stage) : Prop where
  clock_le : stage.clock ≤ after.clock
  catalog_eq : after.catalog = stage.catalog
  wall_eq : after.wall = stage.wall
  calls_eq : after.calls = stage.calls

namespace Stage

theorem Keeps.refl (stage : Stage) : stage.Keeps stage := ⟨Nat.le_refl _, rfl, rfl, rfl⟩

theorem Keeps.trans {middle : Stage} (first : stage.Keeps middle) (second : middle.Keeps after) :
    stage.Keeps after :=
  ⟨Nat.le_trans first.clock_le second.clock_le, second.catalog_eq.trans first.catalog_eq,
    second.wall_eq.trans first.wall_eq, second.calls_eq.trans first.calls_eq⟩

theorem keeps_fire (stage : Stage) : stage.Keeps stage.fire := ⟨Nat.le_refl _, rfl, rfl, rfl⟩

theorem keeps_laterAt {clock : Nat} (le : stage.clock ≤ clock) :
    stage.Keeps (stage.laterAt clock) := ⟨le, rfl, rfl, rfl⟩

/-- A wait is cut at a time that is not past. -/
theorem clock_le_of_cutAt? {wait : Option Nat} {moment : Nat}
    (cut : stage.cutAt? wait = some moment) : stage.clock ≤ moment := by
  unfold cutAt? at cut
  split at cut
  · cases cut
  · cases cut
    exact Nat.le_max_left _ _
  · split at cut
    · cases cut
      exact Nat.le_max_left _ _
    · cases cut

theorem keeps_waitOut (stage : Stage) (length : Nat) : stage.Keeps (stage.waitOut length) := by
  have later := keeps_laterAt (Nat.le_add_right stage.clock length)
  unfold waitOut
  dsimp only
  split
  · exact later.trans (keeps_fire _)
  · exact later

theorem keeps_of_playHeedless {outcome : Except CollaboratorFault α}
    (played : stage.playHeedless cue = some (after, outcome)) : stage.Keeps after := by
  unfold playHeedless at played
  split at played
  · cases played
  · cases played
    exact keeps_waitOut _ _

theorem keeps_of_playHeeding {outcome : Except CollaboratorFault α}
    (played : stage.playHeeding cue = some (after, outcome)) : stage.Keeps after := by
  unfold playHeeding at played
  split at played
  · cases played
    exact Keeps.refl _
  · split at played
    · next moment cut =>
        cases played
        exact (keeps_laterAt (clock_le_of_cutAt? cut)).trans (keeps_fire _)
    · split at played
      · cases played
      · cases played
        exact keeps_laterAt (Nat.le_add_right _ _)

theorem keeps_of_play {outcome : Except CollaboratorFault α}
    (played : stage.play cue = some (after, outcome)) : stage.Keeps after := by
  unfold play at played
  dsimp only at played
  have begun : stage.Keeps (if cue.cancels then stage.fire else stage) := by
    split
    · exact keeps_fire _
    · exact Keeps.refl _
  split at played
  · exact begun.trans (keeps_of_playHeedless played)
  · exact begun.trans (keeps_of_playHeeding played)

/-- Answering a call keeps everything but clock, token and scripts. -/
theorem keeps_of_answer {call : Call} {outcome : call.Outcome}
    (answered : stage.answer call = some (after, outcome)) : stage.Keeps after := by
  have scripted {α : Type} {scripts : Scripts} {cue : Cue α}
      {outcome : Except CollaboratorFault α}
      (played : (stage.withScripts scripts).play cue = some (after, outcome)) :
      stage.Keeps after :=
    have set : stage.Keeps (stage.withScripts scripts) := ⟨Nat.le_refl _, rfl, rfl, rfl⟩
    set.trans (keeps_of_play played)
  cases call with
  | query promql time =>
      simp only [answer] at answered
      split at answered
      · exact scripted answered
      · exact scripted answered
  | queryRange promql range => exact scripted answered
  | complete prompt => exact scripted answered
  | related name => exact scripted answered

/-- Performing a call puts it on record. -/
theorem calls_of_perform {call : Call} {outcome : call.Outcome}
    (performed : stage.perform call = some (after, outcome)) :
    after.calls = call :: stage.calls :=
  (keeps_of_answer performed).calls_eq

/-- Performing a call leaves the catalog alone. -/
theorem catalog_of_perform {call : Call} {outcome : call.Outcome}
    (performed : stage.perform call = some (after, outcome)) : after.catalog = stage.catalog :=
  (keeps_of_answer performed).catalog_eq

/-- The clock does not go back over a call. -/
theorem clock_le_of_perform {call : Call} {outcome : call.Outcome}
    (performed : stage.perform call = some (after, outcome)) : stage.clock ≤ after.clock :=
  (keeps_of_answer performed).clock_le

end Stage

end PromScribe.Rehearsal
