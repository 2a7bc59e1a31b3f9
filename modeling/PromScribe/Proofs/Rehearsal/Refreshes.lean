import PromScribe.Proofs.Rehearsal.Stage
import PromScribe.Proofs.Refresh.Turn

/-!
# Refreshes on the stage

What the stage does for one caller, or for callers that come at one time, is a run of the refreshing
of a catalog by any number of callers: each comes to its outcome there, at the same time of the
clock and with the same catalog.
-/

namespace PromScribe.Rehearsal

open Refresh

variable {stage after : Stage} {state : State} {caller first count : Nat}
variable {outcome : Except CollaboratorFault Snapshot}

/-- The state has the stage's clock and catalog, and the turn is free. -/
structure Stage.ShownBy (stage : Stage) (state : State) : Prop where
  clock : state.clock = stage.clock
  catalog : state.catalog = stage.catalog
  free : state.holder = none

namespace Stage

/-- A run leads from the state to one that shows the later stage and where just the caller went on,
to the outcome. -/
def Realised (state : State) (after : Stage) (caller : Nat)
    (outcome : Except CollaboratorFault Snapshot) : Prop :=
  ∃ events next, Refresh.run state events = some next ∧ after.ShownBy next ∧
    Serves state next caller (.finished outcome)

theorem outdates_visible (shown : stage.ShownBy state) :
    state.outdates state.visible = stage.catalog.snapshot.isStale stage.catalog.ttl stage.clock := by
  rw [State.outdates, State.visible, shown.clock, shown.catalog]

theorem good_of_fresh? {snapshot : Snapshot} (shown : stage.ShownBy state)
    (fresh : stage.catalog.fresh? stage.clock = some snapshot) :
    state.outdates state.visible = false ∧ state.visible = snapshot := by
  rw [outdates_visible shown, State.visible, shown.catalog]
  unfold Catalog.fresh? at fresh
  split at fresh
  · cases fresh
  · next good =>
      cases fresh
      exact ⟨by simpa using good, rfl⟩

theorem outdated_of_fresh? (shown : stage.ShownBy state)
    (fresh : stage.catalog.fresh? stage.clock = none) :
    state.outdates state.visible = true := by
  rw [outdates_visible shown]
  unfold Catalog.fresh? at fresh
  split at fresh
  · assumption
  · cases fresh

/-- A caller that is done without time passing and with the catalog as it was. -/
theorem realised_of_serves {events : List Event} (shown : stage.ShownBy state)
    (served : ∃ next, Refresh.run state events = some next ∧
      Serves state next caller (.finished outcome) ∧ next.clock = state.clock ∧
        next.catalog = state.catalog) : Realised state stage caller outcome := by
  obtain ⟨next, ran, serves, clock, catalog⟩ := served
  exact ⟨events, next, ran, ⟨clock.trans shown.clock, catalog.trans shown.catalog, serves.free⟩,
    serves⟩

/-- A run by the caller alone comes before. -/
theorem Realised.prepend {middle : State} {events : List Event}
    (ran : Refresh.run state events = some middle)
    (others : ∀ other, other ≠ caller → middle.phase other = state.phase other)
    (rest : Realised middle after caller outcome) : Realised state after caller outcome := by
  obtain ⟨events', next, ran', shown, serves⟩ := rest
  refine ⟨events ++ events', next, run_append_eq_some_iff.mpr ⟨middle, ran, ran'⟩, shown,
    serves.free, serves.phase_eq, ?_⟩
  intro other apart
  rw [serves.others other apart, others other apart]

/-- Taking in the outcome of a discovery is what its caller does with the reply. -/
theorem realised_conclude (reply : Except CollaboratorFault QueryData)
    (clock : state.clock = after.clock) (catalog : state.catalog = after.catalog)
    (discovering : state.phase caller = .discovering) (holds : state.holder = some caller) :
    Realised state (after.conclude reply).1 caller (after.conclude reply).2 := by
  cases reply with
  | error fault =>
      obtain ⟨next, ran, serves, clock', catalog'⟩ := turn_fails discovering holds fault
      exact ⟨_, next, ran, ⟨clock'.trans clock, catalog'.trans catalog, serves.free⟩, serves⟩
  | ok data =>
      obtain ⟨next, ran, serves, clock', catalog'⟩ :=
        turn_learns discovering holds after.wall data
      have learnt : next.catalog = after.catalog.learn ⟨after.clock, after.wall⟩ data := by
        rw [catalog', clock, catalog]
      refine ⟨_, next, ran, ⟨clock'.trans clock, learnt, serves.free⟩, ?_⟩
      rw [State.visible, learnt] at serves
      exact serves

/-- A turn on the stage is one of a waiting caller. -/
theorem realised_takeTurn (taken : stage.takeTurn = some (after, outcome))
    (shown : stage.ShownBy state) (waiting : state.phase caller = .waiting) :
    Realised state after caller outcome := by
  unfold takeTurn at taken
  split at taken
  · cases taken
    exact realised_of_serves shown (wait_cancelled waiting shown.free)
  · split at taken
    · next snapshot fresh =>
        cases taken
        obtain ⟨good, rfl⟩ := good_of_fresh? shown fresh
        exact realised_of_serves shown (turn_good waiting shown.free good)
    · next fresh =>
        obtain ⟨⟨played, reply⟩, performed, concluded⟩ := Option.map_eq_some_iff.mp taken
        have le : stage.clock ≤ played.clock := clock_le_of_perform performed
        obtain ⟨middle, ran, discovering, holds, clock, catalog, others⟩ :=
          turn_discovers waiting shown.free (outdated_of_fresh? shown fresh)
            (played.clock - stage.clock)
        have clock' : middle.clock = played.clock := by
          rw [clock, shown.clock]
          omega
        have catalog' : middle.catalog = played.catalog := by
          rw [catalog, shown.catalog, catalog_of_perform performed]
        have realised := realised_conclude reply clock' catalog' discovering holds
        rw [show played.conclude reply = (after, outcome) from concluded] at realised
        exact realised.prepend ran others

/-- A refresh on the stage is one of a caller that comes. -/
theorem realised_refresh (refreshed : stage.refresh = some (after, outcome))
    (shown : stage.ShownBy state) (arriving : state.phase caller = .arriving) :
    Realised state after caller outcome := by
  unfold refresh at refreshed
  split at refreshed
  · next snapshot fresh =>
      cases refreshed
      obtain ⟨good, rfl⟩ := good_of_fresh? shown fresh
      exact realised_of_serves shown (look_good arriving shown.free good)
  · next fresh =>
      obtain ⟨middle, ran, waits, clock, catalog⟩ :=
        look_outdated arriving shown.free (outdated_of_fresh? shown fresh)
      have shown' : stage.ShownBy middle :=
        ⟨clock.trans shown.clock, catalog.trans shown.catalog, waits.free⟩
      exact (realised_takeTurn refreshed shown' waits.phase_eq).prepend ran waits.others

/-- A refresh on the stage is also one of a caller that has looked before. -/
theorem realised_refresh_of_waiting (refreshed : stage.refresh = some (after, outcome))
    (shown : stage.ShownBy state) (waiting : state.phase caller = .waiting) :
    Realised state after caller outcome := by
  unfold refresh at refreshed
  split at refreshed
  · next snapshot fresh =>
      cases refreshed
      obtain ⟨good, rfl⟩ := good_of_fresh? shown fresh
      exact realised_of_serves shown (turn_good waiting shown.free good)
  · exact realised_takeTurn refreshed shown waiting

theorem refreshAll_succ_eq_some_iff {arrival : Nat}
    {outcomes : List (Except CollaboratorFault Snapshot)} :
    stage.refreshAll arrival (count + 1) = some (after, outcomes) ↔
      ∃ next outcome rest,
        (if stage.clock = arrival then stage.refresh else stage.takeTurn) = some (next, outcome) ∧
          next.refreshAll arrival count = some (after, rest) ∧ outcomes = outcome :: rest := by
  have turn : stage.refreshAll arrival (count + 1) =
      (if stage.clock = arrival then stage.refresh else stage.takeTurn).bind fun served =>
        (served.1.refreshAll arrival count).bind fun others =>
          some (others.1, served.2 :: others.2) := by
    rw [refreshAll]
    split <;> rfl
  rw [turn]
  simp only [Option.bind_eq_some_iff, Prod.exists, Option.some.injEq, Prod.mk.injEq]
  constructor
  · rintro ⟨next, outcome, served, last, rest, others, rfl, rfl⟩
    exact ⟨next, outcome, rest, served, others, rfl⟩
  · rintro ⟨next, outcome, rest, served, others, rfl⟩
    exact ⟨next, outcome, served, after, rest, others, rfl, rfl⟩

/-- Every caller has an outcome. -/
theorem length_of_refreshAll {arrival : Nat}
    {outcomes : List (Except CollaboratorFault Snapshot)}
    (served : stage.refreshAll arrival count = some (after, outcomes)) :
    outcomes.length = count := by
  induction count generalizing stage outcomes with
  | zero =>
      cases served
      rfl
  | succ count ih =>
      obtain ⟨next, outcome, rest, -, others, rfl⟩ := refreshAll_succ_eq_some_iff.mp served
      rw [List.length_cons, ih others]

/-- A run leads from the state to one that shows the later stage and where just the callers from the
first on, as many as there are outcomes, went on, each to its outcome. -/
def RealisedAll (state : State) (after : Stage) (first : Nat)
    (outcomes : List (Except CollaboratorFault Snapshot)) : Prop :=
  ∃ events next, Refresh.run state events = some next ∧ after.ShownBy next ∧
    (∀ index outcome, outcomes[index]? = some outcome →
      next.phase (first + index) = .finished outcome) ∧
    ∀ other, other < first ∨ first + outcomes.length ≤ other →
      next.phase other = state.phase other

/-- One caller is served before the others. -/
theorem Realised.cons {served : Stage} {rest : List (Except CollaboratorFault Snapshot)}
    (realised : Realised state served first outcome)
    (others : ∀ middle, served.ShownBy middle →
      (∀ other, other ≠ first → middle.phase other = state.phase other) →
        RealisedAll middle after (first + 1) rest) :
    RealisedAll state after first (outcome :: rest) := by
  obtain ⟨events, middle, ran, shown, serves⟩ := realised
  obtain ⟨events', next, ran', shown', inside, outside⟩ := others middle shown serves.others
  refine ⟨events ++ events', next, run_append_eq_some_iff.mpr ⟨middle, ran, ran'⟩, shown', ?_, ?_⟩
  · intro index found at_
    cases index with
    | zero =>
        cases at_
        rw [Nat.add_zero, outside first (.inl (Nat.lt_succ_self _)), serves.phase_eq]
    | succ index =>
        rw [← inside index found (by simpa using at_)]
        congr 1
        omega
  · intro other apart
    rw [List.length_cons] at apart
    rw [outside other (by omega), serves.others other (by omega)]

/-- Callers that have looked before take their turns. -/
theorem realisedAll_of_waiting {arrival : Nat}
    {outcomes : List (Except CollaboratorFault Snapshot)}
    (served : stage.refreshAll arrival count = some (after, outcomes))
    (shown : stage.ShownBy state)
    (waiting : ∀ index, index < count → state.phase (first + index) = .waiting) :
    RealisedAll state after first outcomes := by
  induction count generalizing stage state first outcomes with
  | zero =>
      cases served
      exact ⟨[], state, rfl, shown, fun index outcome found => by simp at found, fun _ _ => rfl⟩
  | succ count ih =>
      obtain ⟨next, outcome, rest, one, others, rfl⟩ := refreshAll_succ_eq_some_iff.mp served
      have turn : state.phase first = .waiting := waiting 0 (Nat.succ_pos _)
      have realised : Realised state next first outcome := by
        split at one
        · exact realised_refresh_of_waiting one shown turn
        · exact realised_takeTurn one shown turn
      refine realised.cons fun middle shown' same => ih others shown' fun index lt => ?_
      rw [same _ (by omega), Nat.add_assoc, Nat.add_comm 1 index]
      exact waiting (index + 1) (Nat.succ_lt_succ lt)

/-- Callers that come while the snapshot is good are all done at once. -/
theorem realisedAll_of_good {outcomes : List (Except CollaboratorFault Snapshot)}
    {snapshot : Snapshot} (fresh : stage.catalog.fresh? stage.clock = some snapshot)
    (served : stage.refreshAll stage.clock count = some (after, outcomes))
    (shown : stage.ShownBy state)
    (arriving : ∀ index, index < count → state.phase (first + index) = .arriving) :
    RealisedAll state after first outcomes := by
  induction count generalizing state first outcomes with
  | zero =>
      cases served
      exact ⟨[], state, rfl, shown, fun index outcome found => by simp at found, fun _ _ => rfl⟩
  | succ count ih =>
      obtain ⟨next, outcome, rest, one, others, rfl⟩ := refreshAll_succ_eq_some_iff.mp served
      rw [if_pos rfl] at one
      have still : next = stage := by
        unfold refresh at one
        rw [fresh] at one
        cases one
        rfl
      subst still
      have realised := realised_refresh one shown (arriving 0 (Nat.succ_pos _))
      refine realised.cons fun middle shown' same => ih others shown' fun index lt => ?_
      rw [same _ (by omega), Nat.add_assoc, Nat.add_comm 1 index]
      exact arriving (index + 1) (Nat.succ_lt_succ lt)

/-- Callers that come while the snapshot is too old all wait. -/
theorem all_wait (shown : stage.ShownBy state)
    (fresh : stage.catalog.fresh? stage.clock = none)
    (arriving : ∀ index, index < count → state.phase (first + index) = .arriving) :
    ∃ events next, Refresh.run state events = some next ∧ stage.ShownBy next ∧
      (∀ index, index < count → next.phase (first + index) = .waiting) ∧
      ∀ other, other < first ∨ first + count ≤ other → next.phase other = state.phase other := by
  induction count with
  | zero => exact ⟨[], state, rfl, shown, fun index lt => absurd lt (Nat.not_lt_zero _),
      fun _ _ => rfl⟩
  | succ count ih =>
      obtain ⟨events, middle, ran, shown', waiting, outside⟩ :=
        ih fun index lt => arriving index (Nat.lt_succ_of_lt lt)
      have comes : middle.phase (first + count) = .arriving := by
        rw [outside _ (.inr (Nat.le_refl _))]
        exact arriving count (Nat.lt_succ_self _)
      obtain ⟨next, ran', waits, clock, catalog⟩ :=
        look_outdated comes shown'.free (outdated_of_fresh? shown' fresh)
      refine ⟨_, next, run_append_eq_some_iff.mpr ⟨middle, ran, ran'⟩,
        ⟨clock.trans shown'.clock, catalog.trans shown'.catalog, waits.free⟩, ?_, ?_⟩
      · intro index lt
        by_cases last : index = count
        · rw [last]
          exact waits.phase_eq
        · rw [waits.others _ (by omega)]
          exact waiting index (by omega)
      · intro other apart
        rw [waits.others other (by omega), outside other (by omega)]

/-- What the stage does for callers that come at one time is a run of all of them. -/
theorem realisedAll_refreshAll {outcomes : List (Except CollaboratorFault Snapshot)}
    (served : stage.refreshAll stage.clock count = some (after, outcomes))
    (shown : stage.ShownBy state)
    (arriving : ∀ index, index < count → state.phase (first + index) = .arriving) :
    RealisedAll state after first outcomes := by
  cases fresh : stage.catalog.fresh? stage.clock with
  | some snapshot => exact realisedAll_of_good fresh served shown arriving
  | none =>
      obtain ⟨events, middle, ran, shown', waiting, outside⟩ := all_wait shown fresh arriving
      obtain ⟨events', next, ran', shown'', inside, outside'⟩ :=
        realisedAll_of_waiting served shown' waiting
      refine ⟨events ++ events', next, run_append_eq_some_iff.mpr ⟨middle, ran, ran'⟩, shown'',
        inside, ?_⟩
      intro other apart
      rw [length_of_refreshAll served] at apart outside'
      rw [outside' other apart, outside other apart]

end Stage

end PromScribe.Rehearsal
