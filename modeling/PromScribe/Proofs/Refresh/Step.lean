import Mathlib.Data.List.Induction
import PromScribe.Catalog.Refresh

/-!
# Steps of refreshing

What each operation does to each part of a state, every way in which an event can happen
(`Moves`), and what a step leaves alone: nothing of a caller that the event is not about, and the
catalog unless a snapshot is published.
-/

namespace PromScribe.Refresh

variable {state next last : State} {event : Event} {caller other : Nat}

namespace State

@[simp] theorem phase_moveTo (state : State) (caller other : Nat) (phase : Phase) :
    (state.moveTo caller phase).phase other =
      if other = caller then phase else state.phase other := by
  simp only [State.phase, moveTo, withCaller]
  split <;> rfl

@[simp] theorem isCancelled_moveTo (state : State) (caller other : Nat) (phase : Phase) :
    (state.moveTo caller phase).isCancelled other = state.isCancelled other := by
  simp only [isCancelled, moveTo, withCaller]
  split
  · next same => rw [same]
  · rfl

@[simp] theorem clock_moveTo (state : State) (caller : Nat) (phase : Phase) :
    (state.moveTo caller phase).clock = state.clock := rfl

@[simp] theorem catalog_moveTo (state : State) (caller : Nat) (phase : Phase) :
    (state.moveTo caller phase).catalog = state.catalog := rfl

@[simp] theorem holder_moveTo (state : State) (caller : Nat) (phase : Phase) :
    (state.moveTo caller phase).holder = state.holder := rfl

@[simp] theorem phase_release (state : State) (caller other : Nat) :
    (state.release caller).phase other = state.phase other := by
  simp only [release]
  split <;> rfl

@[simp] theorem isCancelled_release (state : State) (caller other : Nat) :
    (state.release caller).isCancelled other = state.isCancelled other := by
  simp only [release]
  split <;> rfl

@[simp] theorem clock_release (state : State) (caller : Nat) :
    (state.release caller).clock = state.clock := by
  simp only [release]
  split <;> rfl

@[simp] theorem catalog_release (state : State) (caller : Nat) :
    (state.release caller).catalog = state.catalog := by
  simp only [release]
  split <;> rfl

@[simp] theorem holder_release (state : State) (caller : Nat) :
    (state.release caller).holder =
      if state.holder = some caller then none else state.holder := by
  simp only [release]
  split <;> rfl

@[simp] theorem phase_finish (state : State) (caller other : Nat) (phase : Phase) :
    (state.finish caller phase).phase other =
      if other = caller then phase else state.phase other := by
  simp [finish]

@[simp] theorem isCancelled_finish (state : State) (caller other : Nat) (phase : Phase) :
    (state.finish caller phase).isCancelled other = state.isCancelled other := by
  simp [finish]

@[simp] theorem clock_finish (state : State) (caller : Nat) (phase : Phase) :
    (state.finish caller phase).clock = state.clock := by
  simp [finish]

@[simp] theorem catalog_finish (state : State) (caller : Nat) (phase : Phase) :
    (state.finish caller phase).catalog = state.catalog := by
  simp [finish]

@[simp] theorem holder_finish (state : State) (caller : Nat) (phase : Phase) :
    (state.finish caller phase).holder =
      if state.holder = some caller then none else state.holder := by
  simp [finish]

@[simp] theorem phase_withCancelled (state : State) (caller other : Nat) :
    (state.withCancelled caller).phase other = state.phase other := by
  simp only [State.phase, withCancelled, withCaller]
  split
  · next same => rw [same]
  · rfl

@[simp] theorem isCancelled_withCancelled (state : State) (caller other : Nat) :
    (state.withCancelled caller).isCancelled other =
      if other = caller then true else state.isCancelled other := by
  simp only [isCancelled, withCancelled, withCaller]
  split <;> rfl

@[simp] theorem clock_withCancelled (state : State) (caller : Nat) :
    (state.withCancelled caller).clock = state.clock := rfl

@[simp] theorem catalog_withCancelled (state : State) (caller : Nat) :
    (state.withCancelled caller).catalog = state.catalog := rfl

@[simp] theorem holder_withCancelled (state : State) (caller : Nat) :
    (state.withCancelled caller).holder = state.holder := rfl

@[simp] theorem phase_grant (state : State) (caller other : Nat) :
    (state.grant caller).phase other = state.phase other := rfl

@[simp] theorem isCancelled_grant (state : State) (caller other : Nat) :
    (state.grant caller).isCancelled other = state.isCancelled other := rfl

@[simp] theorem clock_grant (state : State) (caller : Nat) :
    (state.grant caller).clock = state.clock := rfl

@[simp] theorem catalog_grant (state : State) (caller : Nat) :
    (state.grant caller).catalog = state.catalog := rfl

@[simp] theorem holder_grant (state : State) (caller : Nat) :
    (state.grant caller).holder = some caller := rfl

@[simp] theorem phase_showing (state : State) (snapshot : Snapshot) (other : Nat) :
    (state.showing snapshot).phase other = state.phase other := rfl

@[simp] theorem isCancelled_showing (state : State) (snapshot : Snapshot) (other : Nat) :
    (state.showing snapshot).isCancelled other = state.isCancelled other := rfl

@[simp] theorem clock_showing (state : State) (snapshot : Snapshot) :
    (state.showing snapshot).clock = state.clock := rfl

@[simp] theorem catalog_showing (state : State) (snapshot : Snapshot) :
    (state.showing snapshot).catalog = ⟨state.catalog.ttl, snapshot⟩ := rfl

@[simp] theorem holder_showing (state : State) (snapshot : Snapshot) :
    (state.showing snapshot).holder = state.holder := rfl

@[simp] theorem phase_later (state : State) (millis other : Nat) :
    (state.later millis).phase other = state.phase other := rfl

@[simp] theorem isCancelled_later (state : State) (millis other : Nat) :
    (state.later millis).isCancelled other = state.isCancelled other := rfl

@[simp] theorem clock_later (state : State) (millis : Nat) :
    (state.later millis).clock = state.clock + millis := rfl

@[simp] theorem catalog_later (state : State) (millis : Nat) :
    (state.later millis).catalog = state.catalog := rfl

@[simp] theorem holder_later (state : State) (millis : Nat) :
    (state.later millis).holder = state.holder := rfl

end State

/-! ## Every way in which an event can happen -/

/-- The event happens in the state and leads to the other one. -/
inductive Moves (state : State) : Event → State → Prop where
  | viewFirst {caller : Nat} (arriving : state.phase caller = .arriving) :
      Moves state (.view caller) (state.moveTo caller (.looking state.visible))
  | viewAgain {caller : Nat} (admitted : state.phase caller = .admitted) :
      Moves state (.view caller) (state.moveTo caller (.relooking state.visible))
  | accept {caller : Nat} {seen : Snapshot} (looking : state.phase caller = .looking seen)
      (good : state.outdates seen = false) :
      Moves state (.judge caller) (state.moveTo caller (.finished (.ok seen)))
  | queue {caller : Nat} {seen : Snapshot} (looking : state.phase caller = .looking seen)
      (outdated : state.outdates seen = true) :
      Moves state (.judge caller) (state.moveTo caller .waiting)
  | acceptAgain {caller : Nat} {seen : Snapshot}
      (relooking : state.phase caller = .relooking seen) (good : state.outdates seen = false) :
      Moves state (.judge caller) (state.finish caller (.finished (.ok seen)))
  | discover {caller : Nat} {seen : Snapshot} (relooking : state.phase caller = .relooking seen)
      (outdated : state.outdates seen = true) :
      Moves state (.judge caller) (state.moveTo caller .discovering)
  | enter {caller : Nat} (waiting : state.phase caller = .waiting) (free : state.holder = none) :
      Moves state (.enter caller) ((state.grant caller).moveTo caller .admitted)
  | inform {caller : Nat} {data : QueryData} (discovering : state.phase caller = .discovering) :
      Moves state (.reply caller (.ok data)) (state.moveTo caller (.informed data))
  | fail {caller : Nat} {fault : CollaboratorFault}
      (discovering : state.phase caller = .discovering) :
      Moves state (.reply caller (.error fault)) (state.finish caller (.finished (.error fault)))
  | prepare {caller : Nat} {wall : Instant} {data : QueryData}
      (informed : state.phase caller = .informed data) :
      Moves state (.prepare caller wall)
        (state.moveTo caller (.prepared (.ofSeries wall state.clock data.series)))
  | publish {caller : Nat} {fresh : Snapshot} (prepared : state.phase caller = .prepared fresh) :
      Moves state (.publish caller)
        ((state.showing fresh).finish caller (.finished (.ok fresh)))
  | cancel {caller : Nat} : Moves state (.cancel caller) (state.withCancelled caller)
  | giveUp {caller : Nat} (cancelled : state.isCancelled caller = true)
      (suspended : state.phase caller = .waiting ∨ state.phase caller = .discovering) :
      Moves state (.giveUp caller) (state.finish caller (.finished (.error .cancelled)))
  | leave {caller : Nat} (present : (state.phase caller).isOver = false) :
      Moves state (.leave caller) (state.finish caller .gone)
  | pass {millis : Nat} : Moves state (.pass millis) (state.later millis)

/-- The step function does just the moves. -/
theorem step_eq_some_iff : step state event = some next ↔ Moves state event next := by
  constructor
  · intro stepped
    cases event with
    | view caller =>
        simp only [step] at stepped
        split at stepped
        · next arriving => cases stepped; exact .viewFirst arriving
        · next admitted => cases stepped; exact .viewAgain admitted
        · cases stepped
    | judge caller =>
        simp only [step] at stepped
        split at stepped
        · next seen looking =>
            split at stepped
            · next outdated => cases stepped; exact .queue looking outdated
            · next good => cases stepped; exact .accept looking (by simpa using good)
        · next seen relooking =>
            split at stepped
            · next outdated => cases stepped; exact .discover relooking outdated
            · next good => cases stepped; exact .acceptAgain relooking (by simpa using good)
        · cases stepped
    | enter caller =>
        simp only [step] at stepped
        split at stepped
        · next waiting free => cases stepped; exact .enter waiting free
        · cases stepped
    | reply caller outcome =>
        simp only [step] at stepped
        split at stepped
        · next data discovering => cases stepped; exact .inform discovering
        · next fault discovering => cases stepped; exact .fail discovering
        · cases stepped
    | prepare caller wall =>
        simp only [step] at stepped
        split at stepped
        · next data informed => cases stepped; exact .prepare informed
        · cases stepped
    | publish caller =>
        simp only [step] at stepped
        split at stepped
        · next fresh prepared => cases stepped; exact .publish prepared
        · cases stepped
    | cancel caller => cases stepped; exact .cancel
    | giveUp caller =>
        simp only [step] at stepped
        split at stepped
        · next waiting cancelled => cases stepped; exact .giveUp cancelled (.inl waiting)
        · next discovering cancelled => cases stepped; exact .giveUp cancelled (.inr discovering)
        · cases stepped
    | leave caller =>
        simp only [step] at stepped
        split at stepped
        · cases stepped
        · next present => cases stepped; exact .leave (by simpa using present)
    | pass millis => cases stepped; exact .pass
  · intro moves
    cases moves with
    | viewFirst arriving => simp only [step, arriving]
    | viewAgain admitted => simp only [step, admitted]
    | accept looking good => simp [step, looking, good]
    | queue looking outdated => simp [step, looking, outdated]
    | acceptAgain relooking good => simp [step, relooking, good]
    | discover relooking outdated => simp [step, relooking, outdated]
    | enter waiting free => simp only [step, waiting, free]
    | inform discovering => simp only [step, discovering]
    | fail discovering => simp only [step, discovering]
    | prepare informed => simp only [step, informed]
    | publish prepared => simp only [step, prepared]
    | cancel => rfl
    | giveUp cancelled suspended =>
        rcases suspended with waiting | discovering
        · simp only [step, waiting, cancelled]
        · simp only [step, discovering, cancelled]
    | leave present => simp [step, present]
    | pass => rfl

theorem Moves.toStep (moves : Moves state event next) : step state event = some next :=
  step_eq_some_iff.mpr moves

theorem moves_of_step (stepped : step state event = some next) : Moves state event next :=
  step_eq_some_iff.mp stepped

/-! ## What a step leaves alone -/

namespace Moves

/-- A step changes the phase of no caller that its event is not about. -/
theorem phase_other (moves : Moves state event next) (apart : event.caller? ≠ some other) :
    next.phase other = state.phase other := by
  have elsewhere {caller : Nat} (about : event.caller? = some caller) : other ≠ caller :=
    fun same => apart (same ▸ about)
  cases moves with
  | pass => rfl
  | _ => simp [elsewhere rfl]

/-- An event that changes the phase of a caller is about that caller. -/
theorem caller?_of_phase_ne (moves : Moves state event next)
    (changed : next.phase other ≠ state.phase other) : event.caller? = some other :=
  Decidable.byContradiction fun apart => changed (moves.phase_other apart)

/-- A caller is cancelled just by its own event. -/
theorem isCancelled_eq (moves : Moves state event next) (other : Nat)
    (apart : event ≠ .cancel other) : next.isCancelled other = state.isCancelled other := by
  cases moves with
  | @cancel caller =>
      have elsewhere : other ≠ caller := fun same => apart (same ▸ rfl)
      simp [elsewhere]
  | _ => simp

/-- Whoever is done stays so. -/
theorem phase_of_isOver (moves : Moves state event next)
    (ended : (state.phase other).isOver = true) : next.phase other = state.phase other := by
  by_cases about : event.caller? = some other
  · cases moves with
    | viewFirst known | viewAgain known | accept known | queue known | acceptAgain known
    | discover known | enter known | inform known | fail known | prepare known | publish known =>
        cases about
        rw [known] at ended
        cases ended
    | cancel => exact State.phase_withCancelled _ _ _
    | giveUp _ suspended =>
        cases about
        rcases suspended with known | known <;> rw [known] at ended <;> cases ended
    | leave present =>
        cases about
        rw [present] at ended
        cases ended
    | pass => cases about
  · exact moves.phase_other about

/-- The catalog changes only where a caller shows the snapshot that it built. -/
theorem catalog_eq_or_publish (moves : Moves state event next) :
    next.catalog = state.catalog ∨
      ∃ caller fresh, event = .publish caller ∧ state.phase caller = .prepared fresh ∧
        next.catalog = ⟨state.catalog.ttl, fresh⟩ ∧
        next.phase caller = .finished (.ok fresh) := by
  cases moves with
  | @publish caller fresh prepared => exact .inr ⟨caller, fresh, rfl, prepared, by simp, by simp⟩
  | _ => exact .inl (by simp)

/-- The age limit never changes. -/
theorem ttl_eq (moves : Moves state event next) : next.catalog.ttl = state.catalog.ttl := by
  rcases moves.catalog_eq_or_publish with same | ⟨_, _, _, _, shown, _⟩
  · rw [same]
  · rw [shown]

/-- The clock never goes back. -/
theorem clock_le (moves : Moves state event next) : state.clock ≤ next.clock := by
  cases moves <;> simp

end Moves

/-!
## Runs of refreshing

Runs are put together and taken apart, and what holds at the start of a run and is kept by one more
step holds at its end.
-/

variable {middle : State} {events first second : List Event} {ttl : Nat}

theorem run_append (state : State) (first second : List Event) :
    run state (first ++ second) = (run state first).bind fun middle => run middle second := by
  induction first generalizing state with
  | nil => rfl
  | cons event rest ih =>
      simp only [List.cons_append, run, Option.bind_assoc]
      congr 1
      funext next
      exact ih next

theorem run_append_eq_some_iff :
    run state (first ++ second) = some last ↔
      ∃ middle, run state first = some middle ∧ run middle second = some last := by
  rw [run_append]
  exact Option.bind_eq_some_iff

theorem run_cons_eq_some_iff :
    run state (event :: events) = some last ↔
      ∃ next, Moves state event next ∧ run next events = some last := by
  simp only [run, Option.bind_eq_some_iff, step_eq_some_iff]

/-- A move in front of a run gives a longer one. -/
theorem run_cons (moves : Moves state event next) (ran : run next events = some last) :
    run state (event :: events) = some last :=
  run_cons_eq_some_iff.mpr ⟨next, moves, ran⟩

theorem run_concat_eq_some_iff :
    run state (events ++ [event]) = some last ↔
      ∃ middle, run state events = some middle ∧ Moves middle event last := by
  rw [run_append_eq_some_iff]
  simp only [run, Option.bind_fun_some, step_eq_some_iff]

/-- Longer runs are made of shorter ones by one more step. -/
theorem run_induction
    {motive : (events : List Event) → (last : State) → run state events = some last → Prop}
    (start : motive [] state rfl)
    (more : ∀ {events : List Event} {middle last : State} {event : Event}
      (before : run state events = some middle) (moves : Moves middle event last),
      motive events middle before →
        motive (events ++ [event]) last (run_concat_eq_some_iff.mpr ⟨middle, before, moves⟩))
    {events : List Event} {last : State} (ran : run state events = some last) :
    motive events last ran := by
  induction events using List.reverseRecOn generalizing last with
  | nil =>
      cases ran
      exact start
  | append_singleton events event ih =>
      obtain ⟨middle, before, moves⟩ := run_concat_eq_some_iff.mp ran
      exact more before moves (ih before)

/-- Whoever is done stays so. -/
theorem phase_of_run (ran : run state events = some last)
    (ended : (state.phase caller).isOver = true) : last.phase caller = state.phase caller := by
  induction ran using run_induction with
  | start => rfl
  | more _ moves ih => rw [moves.phase_of_isOver (by rw [ih]; exact ended), ih]

theorem ttl_of_run (ran : run state events = some last) :
    last.catalog.ttl = state.catalog.ttl := by
  induction ran using run_induction with
  | start => rfl
  | more _ moves ih => rw [moves.ttl_eq, ih]

/-- The run of the events does this step on its way. -/
def StepOf (ttl : Nat) (events : List Event) (state : State) (event : Event) (next : State) : Prop :=
  ∃ before after, events = before ++ event :: after ∧
    run (.initial ttl) before = some state ∧ step state event = some next

theorem StepOf.concat (stepOf : StepOf ttl events state event next) (more : Event) :
    StepOf ttl (events ++ [more]) state event next := by
  obtain ⟨before, after, split, rest⟩ := stepOf
  exact ⟨before, after ++ [more], by simp [split], rest⟩

/-- The run goes on from each of its steps. -/
theorem StepOf.ran_after (stepOf : StepOf ttl events state event next)
    (ran : run (.initial ttl) events = some last) : ∃ after, run next after = some last := by
  obtain ⟨before, after, split, reached, stepped⟩ := stepOf
  subst split
  obtain ⟨middle, reached', ran'⟩ := run_append_eq_some_iff.mp ran
  cases reached.symm.trans reached'
  obtain ⟨next', moves, ran''⟩ := run_cons_eq_some_iff.mp ran'
  cases stepped.symm.trans moves.toStep
  exact ⟨after, ran''⟩

/-- What a caller does that nobody gets in the way of, where the snapshot is no longer good. -/
def refreshing (caller : Nat) (data : QueryData) (wall : Instant) : List Event :=
  [.view caller, .judge caller, .enter caller, .view caller, .judge caller,
    .reply caller (.ok data), .prepare caller wall, .publish caller]

/-- A caller is cancelled in the middle of its discovery, the one behind it discovers and shows its
snapshot, and a third one gets that. -/
def overtaking : List Event :=
  [.view 1, .judge 1, .enter 1, .view 0, .judge 0, .view 1, .judge 1, .cancel 1, .giveUp 1,
    .enter 0, .view 0, .judge 0, .reply 0 (.ok .empty), .prepare 0 ⟨0, 0⟩, .publish 0, .view 2,
    .judge 2]

end PromScribe.Refresh
