import PromScribe.Proofs.Refresh.Invariant

/-!
# Failures stay where they are

A caller fails with the outcome of its own discovery or because it was cancelled itself. Whoever
waits for its turn keeps waiting whatever happens to others, and goes on as soon as the turn is
free, however the caller that had it ended.
-/

namespace PromScribe.Refresh

variable {ttl : Nat} {state next last : State} {event : Event} {events : List Event}
variable {caller holder : Nat} {fault : CollaboratorFault}

/-- How a step lets a caller fail. -/
theorem Moves.fails (moves : Moves state event next)
    (pending : (state.phase caller).isOver = false)
    (failed : next.phase caller = .finished (.error fault)) :
    (event = .reply caller (.error fault) ∧ state.phase caller = .discovering) ∨
      (fault = .cancelled ∧ state.isCancelled caller = true) := by
  have about : event.caller? = some caller := by
    apply moves.caller?_of_phase_ne
    intro same
    rw [← same, failed] at pending
    cases pending
  cases moves with
  | fail discovering =>
      cases about
      rw [State.phase_finish, if_pos rfl] at failed
      cases failed
      exact .inl ⟨rfl, discovering⟩
  | giveUp cancelled suspended =>
      cases about
      rw [State.phase_finish, if_pos rfl] at failed
      cases failed
      exact .inr ⟨rfl, cancelled⟩
  | cancel =>
      rw [State.phase_withCancelled] at failed
      rw [failed] at pending
      cases pending
  | pass => cases about
  | viewFirst | viewAgain | accept | queue | acceptAgain | discover | enter | inform | prepare
  | publish | leave =>
      cases about
      simp at failed

/-- Whoever is cancelled was cancelled by an event of its own. -/
theorem cancel_mem_of_isCancelled (ran : run (.initial ttl) events = some last)
    (cancelled : last.isCancelled caller = true) : Event.cancel caller ∈ events := by
  induction ran using run_induction with
  | start => cases cancelled
  | @more events middle last event before moves ih =>
      by_cases own : event = .cancel caller
      · simp [own]
      · rw [moves.isCancelled_eq caller own] at cancelled
        exact List.mem_append_left _ (ih cancelled)

/-- A caller fails with the outcome of its own discovery or because it was cancelled itself. -/
theorem fails_of_run (ran : run (.initial ttl) events = some last)
    (failed : last.phase caller = .finished (.error fault)) :
    (∃ state next, StepOf ttl events state (.reply caller (.error fault)) next ∧
      state.phase caller = .discovering) ∨
      (fault = .cancelled ∧ Event.cancel caller ∈ events) := by
  induction ran using run_induction with
  | start => cases failed
  | @more events middle last event before moves ih =>
      by_cases ended : (middle.phase caller).isOver = true
      · rw [moves.phase_of_isOver ended] at failed
        rcases ih failed with ⟨state, next, stepOf, discovering⟩ | ⟨same, own⟩
        · exact .inl ⟨state, next, stepOf.concat event, discovering⟩
        · exact .inr ⟨same, List.mem_append_left _ own⟩
      · rcases moves.fails (by simpa using ended) failed with ⟨replied, discovering⟩ | ⟨same, own⟩
        · subst replied
          exact .inl ⟨middle, last, ⟨events, [], rfl, before, moves.toStep⟩, discovering⟩
        · exact .inr ⟨same, List.mem_append_left _ (cancel_mem_of_isCancelled before own)⟩

/-- The caller waits for its turn and was not cancelled. -/
def State.Waits (state : State) (caller : Nat) : Prop :=
  state.phase caller = .waiting ∧ state.isCancelled caller = false

/-- The caller waits, the turn is free, and with it the caller gets the visible snapshot if that is
good and starts its own discovery if not. -/
def State.GoesOn (state : State) (caller : Nat) : Prop :=
  state.Waits caller ∧ state.holder = none ∧
    ∃ next, run state [.enter caller, .view caller, .judge caller] = some next ∧
      next.phase caller =
        match state.catalog.fresh? state.clock with
        | some snapshot => .finished (.ok snapshot)
        | none => .discovering

/-- Whoever waits keeps waiting, whatever the event, until its own turn, cancellation or leave. -/
theorem State.Waits.step (waits : state.Waits caller) (moves : Moves state event next)
    (uncancelled : event ≠ .cancel caller) (present : event ≠ .leave caller) :
    next.isCancelled caller = false ∧
      (next.phase caller = .waiting ∨ event = .enter caller ∧ next.phase caller = .admitted) := by
  obtain ⟨waiting, live⟩ := waits
  refine ⟨(moves.isCancelled_eq caller uncancelled).trans live, ?_⟩
  by_cases about : event.caller? = some caller
  · cases moves with
    | enter _ free =>
        cases about
        exact .inr ⟨rfl, by simp⟩
    | giveUp cancelled suspended =>
        cases about
        rw [live] at cancelled
        cases cancelled
    | cancel =>
        cases about
        exact absurd rfl uncancelled
    | leave _ =>
        cases about
        exact absurd rfl present
    | pass => cases about
    | viewFirst known | viewAgain known | accept known | queue known | acceptAgain known
    | discover known | inform known | fail known | prepare known | publish known =>
        cases about
        rw [waiting] at known
        cases known
  · exact .inl ((moves.phase_other about).trans waiting)

/-- With the turn free, whoever waits can go on. -/
theorem State.Waits.goesOn (waits : state.Waits caller) (free : state.holder = none) :
    state.GoesOn caller := by
  refine ⟨waits, free, ?_⟩
  have waiting := waits.1
  cases stale : state.catalog.snapshot.isStale state.catalog.ttl state.clock with
  | true =>
      simp [run, Refresh.step, waiting, free, State.outdates, State.visible, stale,
        Catalog.fresh?]
  | false =>
      simp [run, Refresh.step, waiting, free, State.outdates, State.visible, stale,
        Catalog.fresh?]

/-- However the caller with the turn ends without a snapshot, the turn is free afterwards. -/
theorem Moves.holder_of_failure (moves : Moves state event next) (holds : state.holder = some holder)
    (ends : (∃ fault, event = .reply holder (.error fault)) ∨ event = .giveUp holder ∨
      event = .leave holder) : next.holder = none := by
  rcases ends with ⟨fault, rfl⟩ | rfl | rfl <;> cases moves <;> simp [holds]

/-- Whatever happens, a caller fails only with the outcome of its own discovery or because it was
cancelled itself; and whoever waits and was not cancelled keeps waiting until its own turn, and goes
on once the turn is free, also where the caller that had it failed, was cancelled or left. -/
theorem failures_do_not_spread (ran : run (.initial ttl) events = some last) :
    (∀ caller fault, last.phase caller = .finished (.error fault) →
      (∃ state next, StepOf ttl events state (.reply caller (.error fault)) next ∧
        state.phase caller = .discovering) ∨
        (fault = .cancelled ∧ Event.cancel caller ∈ events)) ∧
    ∀ waiter, last.Waits waiter →
      (∀ event next, step last event = some next →
        event ≠ .cancel waiter → event ≠ .leave waiter →
          next.isCancelled waiter = false ∧
            (next.phase waiter = .waiting ∨
              event = .enter waiter ∧ next.phase waiter = .admitted)) ∧
      (last.holder = none → last.GoesOn waiter) ∧
      ∀ holder event next, last.holder = some holder → step last event = some next →
        ((∃ fault, event = .reply holder (.error fault)) ∨ event = .giveUp holder ∨
          event = .leave holder) → next.GoesOn waiter := by
  have inv : Invariant last := (Invariant.initial ttl).run ran
  refine ⟨fun caller fault failed => fails_of_run ran failed, ?_⟩
  intro waiter waits
  refine ⟨fun event next stepped => waits.step (moves_of_step stepped), waits.goesOn, ?_⟩
  intro holder event next holds stepped ends
  have moves : Moves last event next := moves_of_step stepped
  have apart : waiter ≠ holder := by
    rintro rfl
    have turn := (inv.turn waiter).mpr holds
    rw [waits.1] at turn
    cases turn
  have elsewhere : event.caller? ≠ some waiter := by
    rcases ends with ⟨fault, rfl⟩ | rfl | rfl <;> exact fun same => apart (Option.some.inj same).symm
  have uncancelled : event ≠ .cancel waiter := fun same => elsewhere (same ▸ rfl)
  have still : next.Waits waiter :=
    ⟨(moves.phase_other elsewhere).trans waits.1,
      (moves.isCancelled_eq waiter uncancelled).trans waits.2⟩
  exact still.goesOn (moves.holder_of_failure holds ends)

/-- The caller with the turn is cancelled in the middle of its discovery, and the waiting one goes
on. -/
theorem failures_do_not_spread_overtaking :
    ∃ last next,
      run (.initial 300) (overtaking.take 8) = some last ∧ last.Waits 0 ∧
        last.holder = some 1 ∧ step last (.giveUp 1) = some next ∧
          next.phase 1 = .finished (.error .cancelled) ∧ next.GoesOn 0 := by
  have ran : run (.initial 300) (overtaking.take 8) = some _ := rfl
  have goesOn := ((failures_do_not_spread ran).2 0 ⟨rfl, rfl⟩).2.2
  exact ⟨_, _, ran, ⟨rfl, rfl⟩, rfl, rfl, rfl, goesOn 1 (.giveUp 1) _ rfl rfl (.inr (.inl rfl))⟩

end PromScribe.Refresh
